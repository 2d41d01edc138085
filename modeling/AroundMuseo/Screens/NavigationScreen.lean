import AroundMuseo.Controllers.MapController
import AroundMuseo.Core.DartJson

/-!
# The route to a location

`NavigationScreen` as a machine of events: the answers to what it asks, and what the user and the
framework do. It asks for the position first. The route, the distance and the markers are
fetched together after that, whether there is a position or not.
-/

namespace AroundMuseo

open Dart (Json)

/-- `LatLngBounds` -/
structure LatLngBounds where
  southwest : LatLng
  northeast : LatLng
  deriving DecidableEq, Repr

/-- `LocationPermission` of the plugin `geolocator`. -/
inductive LocationPermission where
  | denied | deniedForever | whileInUse | always | unableToDetermine
  deriving DecidableEq, Repr

/-- `PolylineResult` -/
structure PolylineResult where
  points : List GeoPoint
  errorMessage : Option String
  deriving DecidableEq, Repr

/-- A response of the distance service; the body may be no JSON. -/
structure HttpResponse where
  statusCode : Nat
  body : Option Json

/-- A marker of the screen. -/
structure NavigationMarker where
  markerId : String
  position : LatLng
  title : String
  deriving DecidableEq, Repr

namespace NavigationScreen

/-- The arguments of the screen. -/
structure Target where
  destination : LatLng
  locationName : String
  deriving DecidableEq, Repr

/-- What the screen asks for. -/
inductive Request where
  | requestPermission
  | getCurrentPosition
  | getRouteBetweenCoordinates (origin destination : LatLng)
  /-- The request to the distance service. -/
  | distanceMatrix (origin destination : LatLng)
  | newLatLngBounds (bounds : LatLngBounds)
  deriving DecidableEq, Repr

/-- What `_getUserCurrentLocation` waits for. -/
inductive Phase where
  | permission | position | done
  deriving DecidableEq, Repr

/-- The fields of `_NavigationScreenState`. -/
structure State where
  mounted : Bool := true
  phase : Phase := .permission
  /-- `_googleMapController` is not `null`. -/
  mapCreated : Bool := false
  origin : LatLng := ⟨15760205460734358 / 10 ^ 15, 12156169660132952 / 10 ^ 14⟩
  currentPosition : Option LatLng := none
  originText : String := ""
  destinationText : String := ""
  markers : List NavigationMarker := []
  /-- `polylines`, which has one key only. -/
  polyline : Option (List LatLng) := none
  distance : Option String := none
  duration : Option String := none
  /-- The route and the distance that are waited for. -/
  awaitingRoute : Bool := false
  awaitingETA : Bool := false
  deriving DecidableEq, Repr

/-- `setState`; it throws if the screen is gone, and the exception ends the handler. -/
def State.setState (f : State → State) (s : State) : State := if s.mounted then f s else s

/-- What `_loadMarkers` makes the markers. -/
def markersOf (target : Target) (currentPosition : Option LatLng) : List NavigationMarker :=
  (match currentPosition with
    | some position => [⟨"origin", position, "Starting Location"⟩]
    | none => []) ++ [⟨"destination", target.destination, target.locationName⟩]

/-- `_loadMarkers` -/
def loadMarkers (target : Target) : State → State :=
  State.setState fun s => { s with markers := markersOf target s.currentPosition }

/-- Method to calculate the bounds -/
def calculateBounds (origin destination : LatLng) : LatLngBounds where
  southwest :=
    ⟨if origin.latitude < destination.latitude then origin.latitude else destination.latitude,
      if origin.longitude < destination.longitude then origin.longitude else destination.longitude⟩
  northeast :=
    ⟨if origin.latitude > destination.latitude then origin.latitude else destination.latitude,
      if origin.longitude > destination.longitude then origin.longitude else destination.longitude⟩

/-- `_animateCameraToFitMarkers` -/
def animateCameraToFitMarkers (target : Target) (s : State) : List Request :=
  if s.currentPosition ≠ none ∧ s.mapCreated = true then
    [.newLatLngBounds (calculateBounds s.origin target.destination)]
  else []

/-- The position is known or given up: `initState` fetches the rest. If the screen is gone, the
markers are not loaded, and the camera is not moved. -/
def located (target : Target) (s : State) : State × List Request :=
  (loadMarkers target { s with phase := .done, awaitingRoute := true, awaitingETA := true },
    [.getRouteBetweenCoordinates s.origin target.destination,
      .distanceMatrix s.origin target.destination] ++
    if s.mounted then animateCameraToFitMarkers target s else [])

/-- The rest of `_getUserCurrentLocation` when there is a position. -/
def setPosition (target : Target) (position : GeoPoint) : State → State :=
  State.setState fun s => loadMarkers target
    { s with
      currentPosition := some (.ofGeoPoint position)
      origin := .ofGeoPoint position
      originText := "Current Location"
      destinationText := target.locationName }

/-- `getDistanceAndETA`, from the response on: whatever it throws is caught. -/
def getDistanceAndETA (response : HttpResponse) : Option (String × String) :=
  if response.statusCode = 200 then do
    let data ← response.body
    let rows ← data.field "rows"
    match rows with
    | .null => none
    | rows =>
      if ← rows.isNotEmpty then
        let row ← rows.first
        let elements ← row.field "elements"
        let element ← elements.first
        let distance ← (← (← element.field "distance").field "text").asString
        let duration ← (← (← element.field "duration").field "text").asString
        return (distance, duration)
      else none
  else none

/-- What happens to the screen; `none` stands for an exception. -/
inductive Input where
  | permission (answer : Option LocationPermission)
  | position (answer : Option GeoPoint)
  | route (answer : Option PolylineResult)
  | distanceMatrix (answer : Option HttpResponse)
  | mapCreated
  | dispose

/-- The handler of an event, if it can happen. -/
def step (target : Target) (s : State) : Input → Option (State × List Request)
  | .permission answer =>
    if s.phase = .permission then
      match answer with
      | some .always | some .whileInUse =>
          some ({ s with phase := .position }, [.getCurrentPosition])
      | _ => some (located target s)
    else none
  | .position answer =>
    if s.phase = .position then
      match answer with
      | some position => some (located target (setPosition target position s))
      | none => some (located target s)
    else none
  | .route answer =>
    if s.awaitingRoute then
      let s := { s with awaitingRoute := false }
      match answer with
      | some result =>
        if result.points = [] then some (s, [])
        else some
          (s.setState fun s => { s with polyline := some (result.points.map .ofGeoPoint) }, [])
      | none => some (s, [])
    else none
  | .distanceMatrix answer =>
    if s.awaitingETA then
      let s := { s with awaitingETA := false }
      match answer.bind getDistanceAndETA with
      | some (distance, duration) =>
        some (s.setState fun s =>
          { s with distance := some distance, duration := some duration }, [])
      | none => some (s, [])
    else none
  | .mapCreated => if s.mounted then some ({ s with mapCreated := true }, []) else none
  | .dispose => if s.mounted then some ({ s with mounted := false }, []) else none

/-- `initState` asks for the permission. -/
def initState : State × List Request := ({}, [.requestPermission])

end NavigationScreen

end AroundMuseo
