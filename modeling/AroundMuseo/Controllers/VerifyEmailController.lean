import AroundMuseo.Repositories.AuthenticationRepository

/-!
# Verifying the email

`VerifyEmailController`, created for each `VerifyEmailScreen`. Its timer is not kept
anywhere: only the callback itself can cancel it.
-/

namespace AroundMuseo

open Async

namespace VerifyEmailController

/-- Send Email Verification Link -/
def sendEmailVerification : App Unit := do
  try
    AuthenticationRepository.sendEmailVerification
    await (.snackBar .success "Email Sent" "Please check your inbox and verify your email.")
  catch e => await (.snackBar .error "Oh Snap!" e.toText)

/-- The periodic timer of the screen with the given route starts. -/
def setTimerForAutoRedirect (screen : Nat) : App Unit :=
  Prog.modify fun w => { w with verifyEmailTimers := insert screen w.verifyEmailTimers }

/-- What the callback does when `reload` has been answered. -/
def redirectIfVerified (screen : Nat) : App Unit := do
  let user ← authUser
  if user.any (·.emailVerified) then
    Prog.modify fun w => { w with verifyEmailTimers := w.verifyEmailTimers.erase screen }
    await (.getOff .success)

/-- The callback of the timer. -/
def timerCallback (screen : Nat) : App Unit := do
  await .reload
  redirectIfVerified screen

/-- Manually Check if Email is verified -/
def checkEmailVerificationStatus : App Unit := do
  match ← authUser with
  | some currentUser =>
    if currentUser.emailVerified then await (.getOff .success)
  | none => pure ()

end VerifyEmailController

end AroundMuseo
