import AroundMuseo.Controllers.LocationController

/-!
# The map

`MapController` and the part of `MapScreen` that loads the markers and moves the camera to one
of them. The markers are made once, from the four lists that `LocationController` has when their
loops come to them.
-/

namespace AroundMuseo

open Async

namespace LatLng

/-- The latitude is clamped. -/
def clamp (latitude : Rat) : Rat :=
  if latitude < -90 then -90 else if 90 < latitude then 90 else latitude

/-- The longitude is wrapped around; `%` is never negative. -/
def wrap (longitude : Rat) : Rat :=
  if -180 ≤ longitude ∧ longitude < 180 then longitude
  else (longitude + 180) - 360 * ((longitude + 180) / 360).floor - 180

/-- `LatLng(coordinates.latitude, coordinates.longitude)` -/
def ofGeoPoint (coordinates : GeoPoint) : LatLng where
  latitude := clamp coordinates.latitude
  longitude := wrap coordinates.longitude

end LatLng

namespace MapController

/-- The path of the icon of a location. -/
def assetPath (location : LocationModel) : String :=
  "assets/image_markers/" ++ location.id ++ ".png"

/-- The marker of a location. -/
def marker (location : LocationModel) (bitmapIcon : BitmapDescriptor) : Marker where
  markerId := location.name
  position := .ofGeoPoint location.coordinates
  icon := bitmapIcon

/-- `markers.add(marker)`, for a set; the `onTap` of the marker is about the location. -/
def addMarker (location : Nat × LocationModel) (marker : Marker) : App Unit :=
  Prog.modify fun w => { w with
    mapScreen.controllerMarkers :=
      if marker ∈ w.mapScreen.controllerMarkers then w.mapScreen.controllerMarkers
      else w.mapScreen.controllerMarkers ++ [marker]
    mapScreen.onTaps :=
      if marker ∈ w.mapScreen.controllerMarkers then w.mapScreen.onTaps
      else w.mapScreen.onTaps ++ [location] }

/-- The body of the four loops. -/
def loadMarker (location : Nat × LocationModel) : App Unit := do
  let bitmapIcon ← await (.bitmapDescriptorAsset (assetPath location.2))
  addMarker location (marker location.2 bitmapIcon)

/-- `for (var location in list)` with the body above: the iterator of the list is that of
`Future.forEach`. -/
def loadMarkers (list : LocationList) : App Unit := LocationController.forEach list loadMarker

def loadMarkersFromLocations : App (List Marker) := do
  loadMarkers .touristSpots
  loadMarkers .accommodations
  loadMarkers .dining
  loadMarkers .shopping
  Prog.read (·.mapScreen.controllerMarkers)

/-- `onTap` of the marker of a location. -/
def onTap (location : Nat × LocationModel) : App Unit :=
  await (.addInfoWindow location.2 (.ofGeoPoint location.2.coordinates))

/-- The camera moves to the position, and the first marker there is tapped. -/
def moveCameraToMarker (position : Option LatLng) : App Unit := do
  await .mapController
  match position with
  | none => throw Exn.nullCheck
  | some position =>
    await (.animateCamera position)
    let markers ← Prog.read fun w => w.mapScreen.controllerMarkers.zip w.mapScreen.onTaps
    match markers.find? fun marker => marker.1.position = position with
    | some marker => onTap marker.2
    | none => throw Exn.noElement
    -- the reset that follows is a comparison, `selectedLocation == null`

end MapController

namespace MapScreen

/-- `_loadMarkers` -/
def loadMarkers : App Unit := do
  let markers ← MapController.loadMarkersFromLocations
  Prog.modify fun w => { w with mapScreen.markers := markers }

/-- The screen is opened with a new controller, and loads its markers; an error is only
printed. -/
def initState : App Unit := do
  Prog.modify fun w => { w with mapScreen := {} }
  try loadMarkers
  catch _ => pure ()

/-- `onMapCreated` of the map that the screen shows. -/
def onMapCreated : App Unit := do
  if ← Prog.read (·.mapScreen.mapCreated) then throw Exn.alreadyCompleted
  Prog.modify fun w => { w with mapScreen.mapCreated := true }

/-- `_moveCameraToMarker`, which `initState` calls last. The camera is not awaited: while it
waits for the map, the selection is forgotten. -/
def moveCameraToMarker : App Unit := do
  let selectedLocation ← Prog.read (·.selectedLocation)
  if selectedLocation ≠ none then
    Prog.modify fun w => { w with selectedLocation := none }
    MapController.moveCameraToMarker selectedLocation

/-- `onTap` of a location that the search has found. -/
def onTapFound (location : LocationModel) : App Unit := do
  Prog.modify fun w => { w with selectedLocation := some (.ofGeoPoint location.coordinates) }
  moveCameraToMarker

end MapScreen

/-- `onPressed` of `BottomCheckInMap`, up to the navigation to the map. -/
def BottomCheckInMap.onPressed (location : LocationModel) : App Unit :=
  Prog.modify fun w => { w with selectedLocation := some (.ofGeoPoint location.coordinates) }

end AroundMuseo
