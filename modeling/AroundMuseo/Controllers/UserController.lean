import AroundMuseo.Core.DartString
import AroundMuseo.Repositories.AuthenticationRepository
import AroundMuseo.Utils.FullScreenLoader

/-!
# The user controller

Fetching the profile, deleting the account, the re-authentication before a change
of the email, and the upload of a profile picture.
-/

namespace AroundMuseo

open Async Firestore

/-- The text fields and the form that the re-authentication screens show. -/
structure ReAuthForm where
  verifyEmail : String
  verifyPassword : String
  /-- `reAuthFormKey.currentState`, with the verdict of its validators. -/
  reAuthFormKey : Option Bool
  deriving DecidableEq, Repr

namespace UserController

/-- Assign to the fields of `user.value`. -/
def modifyUser (f : UserModel → UserModel) : App Unit :=
  Prog.modify fun w => { w with userController.user := f w.userController.user }

def setProfileLoading (b : Bool) : App Unit :=
  Prog.modify fun w => { w with userController.profileLoading := b }

def setImageUploading (b : Bool) : App Unit :=
  Prog.modify fun w => { w with userController.imageUploading := b }

/-- Function to fetch user record -/
def fetchUserRecord : App Unit :=
  Prog.ensure
    (do
      try
        setProfileLoading true
        let user ← UserRepository.fetchUserDetails
        modifyUser fun _ => user
      catch _ =>
        let createdNow ← await .now
        let updatedNow ← await .now
        let activeNow ← await .now
        modifyUser fun _ => UserModel.empty createdNow updatedNow activeNow)
    (setProfileLoading false)

/-- `auth.authUser!.providerData.map((e) => e.providerId).first` -/
def firstProvider : App String := do
  match ← authUser with
  | some user =>
    match user.providerData with
    | provider :: _ => pure provider
    | [] => throw Exn.noElement
  | none => throw Exn.nullCheck

/-- Delete User Account -/
def deleteUserAccount : App Unit :=
  withLoader "Processing..." .warning do
    let provider ← firstProvider
    if provider ≠ "" then
      if provider = "google.com" then
        let _ ← AuthenticationRepository.signInWithGoogle
        AuthenticationRepository.deleteAccount
        FullScreenLoader.stopLoading
        await (.getOffAll .login)
      else if provider = "password" then
        FullScreenLoader.stopLoading
        await (.getTo .reAuthLoginFormForDeletion)

/-- Re-authenticate before deleting -/
def reAuthenticateEmailAndPasswordForDeletion (form : ReAuthForm) : App Unit :=
  withLoader "Processing..." .warning <| whenConnected <| whenValid form.reAuthFormKey do
    AuthenticationRepository.reAuthenticateWithEmailAndPassword
      (Dart.trim form.verifyEmail) (Dart.trim form.verifyPassword)
    AuthenticationRepository.deleteAccount
    FullScreenLoader.stopLoading
    await (.snackBar .success "Account Deleted Successfully" "Your account has been deleted.")
    await (.getOffAll .login)

/-- Reset Email Address -/
def resetEmailAddress : App Unit :=
  withLoader "Processing..." .warning do
    let currentUser ← authUser
    let provider ← firstProvider
    if provider ≠ "" then
      if provider = "google.com" then
        let _ ← AuthenticationRepository.signInWithGoogle
        FullScreenLoader.stopLoading
        let user ← authUser
        if user.bind (·.email) ≠ currentUser.bind (·.email) then
          await (.snackBar .error "Invalid re-authentication"
            "Cannot change email with a different Google account.")
          await (.getOff .profile)
        else
          await (.getOff .changeEmail)
      else if provider = "password" then
        FullScreenLoader.stopLoading
        await (.getTo .reAuthLoginFormEmailChange)

/-- Re-authenticate for email/password before email change -/
def reAuthenticateEmailAndPasswordEmailChange (form : ReAuthForm) : App Unit :=
  withLoader "Processing..." .warning <| whenConnected <| whenValid form.reAuthFormKey do
    AuthenticationRepository.reAuthenticateWithEmailAndPassword
      (Dart.trim form.verifyEmail) (Dart.trim form.verifyPassword)
    FullScreenLoader.stopLoading
    await (.getOff .changeEmail)

/-- The picking and uploading inside the `try` of `uploadUserProfilePicture`. -/
def pickAndUpload : App Unit := do
  match ← await .showModalBottomSheet with
  | none => pure ()
  | some source =>
    match ← await (.pickImage source) with
    | none => pure ()
    | some image =>
      setImageUploading true
      let imageUrl ← UserRepository.uploadImage "Users/Images/Profile/" image
      UserRepository.updateSingleField (Doc.ofFields [("ProfilePicture", Scalar.string imageUrl)])
      modifyUser fun user => { user with profilePicture := imageUrl }
      await (.snackBar .success "Image Uploaded" "Your profile picture has been updated.")

/-- The `catch` block closes a loader, though the function has opened none. -/
def uploadUserProfilePicture : App Unit :=
  Prog.ensure
    (do
      try pickAndUpload
      catch e =>
        FullScreenLoader.stopLoading
        await (.snackBar .warning "Oh Snap!" e.toText))
    (setImageUploading false)

end UserController

end AroundMuseo
