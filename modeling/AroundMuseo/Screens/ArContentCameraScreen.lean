import AroundMuseo.Controllers.QRCodeController

/-!
# The AR screen

`ArContentCameraScreen` as a machine of events: a message from Unity, the back button,
and the two answers to the exit dialog. A handler runs in the state of the widget and of
the app.
-/

namespace AroundMuseo

open Async

namespace ArContentCameraScreen

/-- The fields of the widget's state that its handlers set. -/
structure State where
  isUnityArSupportedOnDevice : Option Bool := none
  isLoading : Bool := true
  deriving DecidableEq, Repr

/-- `Navigator.pop(context)`: the top route goes, also if it is the exit dialog. -/
def pop : App Unit := Prog.modify fun w => w.withNav w.nav.pop

/-- The content of the dialog's route. -/
abbrev exitDialog : RouteContent := .dialog "Exit AR Camera"

/-- `onMessageFromUnity` of the embedded view. -/
def onMessageFromUnity (data : String) (s : State) : State × App Unit :=
  if data = "ar:true" then
    ({ s with isUnityArSupportedOnDevice := some true, isLoading := false }, pure ())
  else if data = "ar:false" then
    ({ s with isUnityArSupportedOnDevice := some false, isLoading := false }, pop)
  else if data = "scene_loaded" then
    ({ s with isLoading := false }, pure ())
  else
    (s, pure ())

/-- `onWillPop`: the exit dialog is shown. It always closes with `null`, which is no
`bool`, so the back button itself never pops the screen. -/
def onWillPop : App Unit := Prog.modify fun w => w.withNav (w.nav.push exitDialog)

/-- `onConfirm` of the exit dialog. The write of the time-out is not awaited. -/
def onConfirm : App Unit := do
  QRCodeController.updateMuseumVisitTimeOut.unawaited
  await (.getOffAll .navigationMenu)

/-- The screen is on the stack. -/
def OnScreen (w : World) : Prop := ∃ r ∈ w.nav.routes, r.2 = .page .arContentCamera

instance (w : World) : Decidable (OnScreen w) :=
  inferInstanceAs (Decidable (∃ r ∈ w.nav.routes, r.2 = .page .arContentCamera))

/-- What the top route shows. -/
def shown (w : World) : Option RouteContent := w.nav.top.map (·.2)

inductive Input where
  | messageFromUnity (data : String)
  /-- The back button of the system. -/
  | back
  | confirm
  | cancel
  deriving DecidableEq, Repr

/-- The handler of an event. The back button closes the dialog if it is shown. -/
def Input.handle (s : State) (w : World) : Input → State × App Unit
  | messageFromUnity data => onMessageFromUnity data s
  | back => (s, if shown w = some exitDialog then pop else onWillPop)
  | confirm => (s, onConfirm)
  | cancel => (s, pop)

/-- When an event can happen. -/
def Input.Enabled (w : World) : Input → Prop
  | messageFromUnity _ => OnScreen w
  | back => OnScreen w ∧ (shown w = some (.page .arContentCamera) ∨ shown w = some exitDialog)
  | confirm | cancel => OnScreen w ∧ shown w = some exitDialog

instance (w : World) : (i : Input) → Decidable (i.Enabled w)
  | .messageFromUnity _ => inferInstanceAs (Decidable (OnScreen w))
  | .back => inferInstanceAs (Decidable
      (OnScreen w ∧ (shown w = some (.page .arContentCamera) ∨ shown w = some exitDialog)))
  | .confirm | .cancel =>
    inferInstanceAs (Decidable (OnScreen w ∧ shown w = some exitDialog))

end ArContentCameraScreen

end AroundMuseo
