import AroundMuseo.Core.DartString
import AroundMuseo.Repositories.AuthenticationRepository
import AroundMuseo.Utils.FullScreenLoader

/-!
# Sign-in, sign-up and password reset

`LoginController`, `SignupController` and `ForgetPasswordController`.
-/

namespace AroundMuseo

open Async Firestore

/-- The text fields, switches and form of the login screen. -/
structure LoginForm where
  email : String
  password : String
  rememberMe : Bool
  loginFormKey : Option Bool
  deriving DecidableEq, Repr

namespace LoginController

/-- Save Data if Remember Me is selected -/
def rememberLogin (form : LoginForm) (w : World) : World :=
  if form.rememberMe then
    (w.writeStorage "REMEMBER_ME_EMAIL" (.string (Dart.trim form.email))).writeStorage
      "REMEMBER_ME_PASSWORD" (.string (Dart.trim form.password))
  else
    (w.removeStorage "REMEMBER_ME_EMAIL").removeStorage "REMEMBER_ME_PASSWORD"

/-- Email and Password Sign-in -/
def emailAndPasswordSignIn (form : LoginForm) : App Unit :=
  withLoader "Logging you in..." .error <| whenConnected <| whenValid form.loginFormKey do
    Prog.modify (rememberLogin form)
    let _ ← AuthenticationRepository.loginWithEmailAndPassword
      (Dart.trim form.email) (Dart.trim form.password)
    FullScreenLoader.stopLoading
    AuthenticationRepository.screenRedirect.unawaited

/-- What `googleSignIn` does with a credential: the email decides. -/
def redirectOrDelete (userCredential : UserCredential) : App Unit := do
  let isEmailRegistered ← AuthenticationRepository.isRegisteredEmail userCredential.user.email
  if isEmailRegistered then
    FullScreenLoader.stopLoading
    AuthenticationRepository.screenRedirect.unawaited
  else
    FullScreenLoader.stopLoading
    await (.snackBar .error "Unregistered Email"
      "This Google account is not registered. Please sign up first.")
    AuthenticationRepository.deleteUser (some userCredential.user.uid)

/-- Google Sign-in Authentication -/
def googleSignIn : App Unit :=
  withLoader "Logging you in..." .error do
    if ← NetworkManager.isConnected then
      match ← AuthenticationRepository.signInWithGoogle with
      | none => FullScreenLoader.stopLoading
      | some userCredential => redirectOrDelete userCredential
    else
      FullScreenLoader.stopLoading
      await (.snackBar .error "No Internet" "Please check your internet connection.")

end LoginController

/-- The text fields, the switch and the form of the sign-up screen. -/
structure SignupForm where
  firstName : String
  lastName : String
  email : String
  gender : String
  birthYear : String
  addressCity : String
  addressProvState : String
  addressCountry : String
  password : String
  privacyPolicy : Bool
  signupFormKey : Option Bool
  deriving DecidableEq, Repr

namespace SignupController

/-- The record of a new user. -/
def newUser (form : SignupForm) (userCredential : UserCredential) : UserModel where
  id := userCredential.user.uid
  firstName := Dart.trim form.firstName
  lastName := Dart.trim form.lastName
  email := Dart.trim form.email
  gender := Dart.trim form.gender
  birthYear := Dart.trim form.birthYear
  addressCity := Dart.trim form.addressCity
  addressProvState := Dart.trim form.addressProvState
  addressCountry := Dart.trim form.addressCountry
  profilePicture := ""

def signup (form : SignupForm) : App Unit :=
  withLoader "We are now processing your information..." .error <|
    whenConnected <| whenValid form.signupFormKey do
      if form.privacyPolicy then
        let userCredential ← AuthenticationRepository.registerWithEmailAndPassword
          (Dart.trim form.email) (Dart.trim form.password)
        UserRepository.saveUserRecord (newUser form userCredential)
        FullScreenLoader.stopLoading
        await (.snackBar .success "Congratulations!"
          "Your account has been created. Verify email to continue.")
        await (.getTo (.verifyEmail (some (Dart.trim form.email))))
      else
        await (.snackBar .warning "Accept Privacy Policy" <|
          "In order to create account, you must have to read and accept the " ++
          "Privacy Policy & Terms of Use.")
        FullScreenLoader.stopLoading

end SignupController

namespace ForgetPasswordController

/-- Send Reset Password Email -/
def sendPasswordResetEmail (email : String) (forgotPasswordFormKey : Option Bool) : App Unit :=
  withLoader "Processing your request..." .error <|
    whenConnected <| whenValid forgotPasswordFormKey do
      AuthenticationRepository.sendPasswordResetEmail (Dart.trim email)
      FullScreenLoader.stopLoading
      await (.snackBar .success "Email Sent" "Email link sent to reset your Password.")
      await (.getTo (.resetPassword (Dart.trim email)))

/-- Re-send Reset Password Email -/
def resendPasswordResetEmail (email : String) : App Unit :=
  withLoader "Logging you in..." .error <| whenConnected do
    AuthenticationRepository.sendPasswordResetEmail email
    FullScreenLoader.stopLoading
    await (.snackBar .success "Email Sent" "Email link sent to reset your Password.")

end ForgetPasswordController

end AroundMuseo
