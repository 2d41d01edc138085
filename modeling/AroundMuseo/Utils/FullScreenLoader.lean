import AroundMuseo.Platform.Calls

/-!
# Loading dialogs, connectivity and forms

What the operations of the controllers have in common: they open a full-screen
loader, check the connection and the form, and close the loader by hand on every
early return, at the end and in the `catch` block.
-/

namespace AroundMuseo

open Async

namespace FullScreenLoader

/-- Open a full-screen loading dialog with a given text and animation -/
def openLoadingDialog (text animation : String) : App Unit := do
  let _ ← await (.openLoadingDialog text animation)

/-- Stop the currently open loading dialog -/
def stopLoading : App Unit := do
  let _ ← await .stopLoading

end FullScreenLoader

/-- `MAppImages.docerAnimation` -/
def docerAnimation : String := "assets/images/animations/docer-animation.json"

/-- Check the internet connection status -/
def NetworkManager.isConnected : App Bool := do
  try
    let result ← await .checkConnectivity
    pure (ConnectivityResult.none ∉ result)
  catch
    | .platform _ _ => pure false
    | e => throw e

/-- `formKey.currentState!.validate()`, for a form that is not built (`none`) or that
its validators accept or reject. -/
def validate : Option Bool → App Bool
  | some valid => pure valid
  | none => throw Exn.nullCheck

/-- `try { openLoadingDialog(text); body } catch (e) { stopLoading(); snackBar(e) }` -/
def withLoader (text : String) (kind : SnackBarKind) (body : App Unit) : App Unit := do
  try
    FullScreenLoader.openLoadingDialog text docerAnimation
    body
  catch e =>
    FullScreenLoader.stopLoading
    await (.snackBar kind "Oh Snap!" e.toText)

/-- `if (!isConnected) { stopLoading(); return; }` before `body`. -/
def whenConnected (body : App Unit) : App Unit := do
  if ← NetworkManager.isConnected then body
  else FullScreenLoader.stopLoading

/-- `if (!form.validate()) { stopLoading(); return; }` before `body`. -/
def whenValid (form : Option Bool) (body : App Unit) : App Unit := do
  if ← validate form then body
  else FullScreenLoader.stopLoading

end AroundMuseo
