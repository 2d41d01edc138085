import AroundMuseo.Controllers.MapController

/-!
# The position of the user

`MapController.getLocationUpdates`, its `dispose`, and what `MapScreen` does with a new position.
Each time the map is opened there is a new screen with a new controller, so that screens that
were closed and their subscriptions are still around.
-/

namespace AroundMuseo

open Async

/-- `PermissionStatus` of the plugin `location`. -/
inductive PermissionStatus where
  | granted | grantedLimited | denied | deniedForever
  deriving DecidableEq, Repr

/-- `LocationData`, as far as it is read. -/
structure LocationData where
  latitude : Option Rat
  longitude : Option Rat
  deriving DecidableEq, Repr

/-- What the screens ask of the plugin. -/
inductive LocationCall where
  | serviceEnabled
  | requestService
  | hasPermission
  | requestPermission
  /-- `onLocationChanged.listen(..)`, for the controller of a screen. -/
  | listen (screen : Nat)
  /-- `locationSubscription.cancel()` -/
  | cancel (screen : Nat)
  /-- The listener of a screen is given an event. -/
  | locationChanged (screen : Nat)
  deriving DecidableEq, Repr

abbrev LocationReply : LocationCall → Type
  | .serviceEnabled | .requestService => Bool
  | .hasPermission | .requestPermission => PermissionStatus
  | .listen _ | .cancel _ => Unit
  | .locationChanged _ => LocationData

/-- The fields of `_MapScreenState` and of its controller that follow the user. -/
structure MapFollower where
  isMounted : Bool := false
  currentPosition : Option LatLng := none
  /-- `locationSubscription` is not `null`. -/
  hasSubscription : Bool := false
  deriving DecidableEq, Repr

/-- The screens, numbered as they were opened, and whose subscriptions are served. -/
structure Maps where
  opened : Nat := 0
  screens : Nat → MapFollower := fun _ => {}
  listening : Nat → Bool := fun _ => false

abbrev MapApp (α : Type) : Type := Prog LocationReply Maps Exn α

/-- Ask the plugin. -/
def locate (c : LocationCall) : MapApp (LocationReply c) := Prog.invoke c

/-- `setState` of a screen, or an assignment to a field of its controller. -/
def Maps.setScreen (screen : Nat) (f : MapFollower → MapFollower) (m : Maps) : Maps :=
  { m with screens := Function.update m.screens screen (f (m.screens screen)) }

section SetScreen

variable {screen screen' : Nat} {f : MapFollower → MapFollower} {m : Maps}

@[simp] theorem Maps.setScreen_self :
    (m.setScreen screen f).screens screen = f (m.screens screen) :=
  Function.update_self ..

theorem Maps.setScreen_of_ne (h : screen' ≠ screen) :
    (m.setScreen screen f).screens screen' = m.screens screen' := Function.update_of_ne h ..

@[simp] theorem Maps.setScreen_listening : (m.setScreen screen f).listening = m.listening := rfl

@[simp] theorem Maps.setScreen_opened : (m.setScreen screen f).opened = m.opened := rfl

end SetScreen

/-- The plugin: a subscription is served from `listen` to `cancel`. -/
def locationPlatform : Async.Platform LocationReply Maps where
  awaited
    | .serviceEnabled | .requestService | .hasPermission | .requestPermission => true
    | .listen _ | .cancel _ | .locationChanged _ => false
  effect
    | .listen screen, m, _ => some { m with listening := Function.update m.listening screen true }
    | .cancel screen, m, _ => some { m with listening := Function.update m.listening screen false }
    | .locationChanged screen, m, _ => if m.listening screen then some m else none
    | .serviceEnabled, m, _ | .requestService, m, _ | .hasPermission, m, _
    | .requestPermission, m, _ => some m

namespace MapController

/-- `locationSubscription = locationController.onLocationChanged.listen(..)` -/
def listen (screen : Nat) : MapApp Unit := do
  locate (.listen screen)
  Prog.modify (Maps.setScreen screen ({ · with hasSubscription := true }))

/-- The second half of `getLocationUpdates`: the user is asked only if the permission is denied,
so that `deniedForever` passes. -/
def listenIfPermitted (screen : Nat) : MapApp Unit := do
  let permissionGranted ← locate .hasPermission
  if permissionGranted = .denied then
    let permissionGranted ← locate .requestPermission
    if permissionGranted = .granted then listen screen
  else
    listen screen

/-- Listen to location updates -/
def getLocationUpdates (screen : Nat) : MapApp Unit := do
  let serviceEnabled ← locate .serviceEnabled
  if serviceEnabled then
    listenIfPermitted screen
  else
    let serviceEnabled ← locate .requestService
    if serviceEnabled then listenIfPermitted screen

/-- Dispose method to cancel location subscription -/
def dispose (screen : Nat) : MapApp Unit := do
  if ← Prog.read fun m => (m.screens screen).hasSubscription then
    locate (.cancel screen)

end MapController

namespace MapScreen

/-- The part of `initState` that asks for the position, on a new screen. -/
def followUser : MapApp Unit := do
  let screen ← Prog.read (·.opened)
  Prog.modify fun m =>
    { m.setScreen screen fun _ => { isMounted := true } with opened := m.opened + 1 }
  MapController.getLocationUpdates screen

/-- `dispose`, once for a screen. -/
def dispose (screen : Nat) : MapApp Unit := do
  if ← Prog.read fun m => (m.screens screen).isMounted then
    Prog.modify (Maps.setScreen screen ({ · with isMounted := false }))
    MapController.dispose screen

/-- The listener, with the callback of `_getLocationUpdates`. The camera does not follow the
user: `_isFollowingUserLocation` is always false. -/
def onLocationChanged (screen : Nat) : MapApp Unit := do
  let currentLocation ← locate (.locationChanged screen)
  match currentLocation.latitude, currentLocation.longitude with
  | some latitude, some longitude =>
    if ← Prog.read fun m => (m.screens screen).isMounted then
      Prog.modify (Maps.setScreen screen
        ({ · with currentPosition := some (.ofGeoPoint ⟨latitude, longitude⟩) }))
  | _, _ => pure ()

end MapScreen

/-- What happens to the maps. -/
inductive ScreenOperation where
  | initState
  | dispose (screen : Nat)
  | onLocationChanged (screen : Nat)
  deriving DecidableEq, Repr

def ScreenOperation.body : ScreenOperation → MapApp Unit
  | initState => MapScreen.followUser
  | dispose screen => MapScreen.dispose screen
  | onLocationChanged screen => MapScreen.onLocationChanged screen

end AroundMuseo
