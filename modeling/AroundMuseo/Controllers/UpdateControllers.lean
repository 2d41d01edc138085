import AroundMuseo.Controllers.UserController

/-!
# Changing the profile

The controllers behind the forms for the name, the address, the year of birth, the
gender and the email. The first four write fields of the user's document and then
the same fields of the user in memory.
-/

namespace AroundMuseo

open Async Firestore

/-- What the four profile forms have in common: write `fields` to the document, then
`assign` them in memory, close the loader and finish with `leave`. -/
def updateProfile (form : Option Bool) (fields : Doc) (assign : UserModel → UserModel)
    (leave : App Unit) : App Unit :=
  withLoader "We are updating your information..." .error <| whenConnected <| whenValid form do
    UserRepository.updateSingleField fields
    UserController.modifyUser assign
    FullScreenLoader.stopLoading
    leave

/-- Show the success message, then go back to the profile. -/
def reportAndLeave (message : String) : App Unit := do
  await (.snackBar .success "Updated Successfully" message)
  await (.getOff .profile)

namespace UpdateNameController

def updateUserName (firstName lastName : String) (updateUserNameFormKey : Option Bool) :
    App Unit :=
  updateProfile updateUserNameFormKey
    (Doc.ofFields [
      ("FirstName", Scalar.string (Dart.trim firstName)),
      ("LastName", Scalar.string (Dart.trim lastName))])
    (fun user => { user with firstName := Dart.trim firstName, lastName := Dart.trim lastName })
    (reportAndLeave "Your Name has been updated.")

end UpdateNameController

namespace UpdateAddressController

/-- This form leaves first and reports afterwards. -/
def updateAddress (addressCity addressProvState addressCountry : String)
    (updateAddressFormKey : Option Bool) : App Unit :=
  updateProfile updateAddressFormKey
    (Doc.ofFields [
      ("AddressCity", Scalar.string (Dart.trim addressCity)),
      ("AddressProvState", Scalar.string (Dart.trim addressProvState)),
      ("AddressCountry", Scalar.string (Dart.trim addressCountry))])
    (fun user =>
      { user with
        addressCity := Dart.trim addressCity
        addressProvState := Dart.trim addressProvState
        addressCountry := Dart.trim addressCountry })
    (do
      await (.getOff .profile)
      await (.snackBar .success "Updated Successfully" "Your Address has been updated."))

end UpdateAddressController

namespace UpdateBirthYearController

def updateBirthYear (birthYear : String) (updateBirthYearFormKey : Option Bool) : App Unit :=
  updateProfile updateBirthYearFormKey
    (Doc.ofFields [("BirthYear", Scalar.string (Dart.trim birthYear))])
    (fun user => { user with birthYear := Dart.trim birthYear })
    (reportAndLeave "Your Year of Birth has been updated.")

end UpdateBirthYearController

namespace UpdateGenderController

def updateGender (gender : String) (updateGenderFormKey : Option Bool) : App Unit :=
  updateProfile updateGenderFormKey
    (Doc.ofFields [("Gender", Scalar.string (Dart.trim gender))])
    (fun user => { user with gender := Dart.trim gender })
    (reportAndLeave "Your Gender has been updated.")

end UpdateGenderController

namespace UpdateEmailController

/-- The loader is closed before the verification mail is requested. -/
def updateEmailAddress (email : String) (updateEmailFormKey : Option Bool) : App Unit :=
  withLoader "We are updating your information..." .error <|
    whenConnected <| whenValid updateEmailFormKey do
      let currentUser ← authUser
      if some (Dart.trim email) ≠ currentUser.bind (·.email) then
        FullScreenLoader.stopLoading
        match ← authUser with
        | some currentUser => await (.verifyBeforeUpdateEmail currentUser.uid (Dart.trim email))
        | none => pure ()
        await (.snackBar .success "Verification Email Sent" <|
          "Please check your inbox and verify your new email. Once verified, you will need " ++
          "to log in again to continue using the app.")
        AuthenticationRepository.logout.unawaited
      else
        FullScreenLoader.stopLoading
        await (.snackBar .warning "Invalid Email Change" <|
          "The email address you entered is the same as your current one. Please provide a " ++
          "different email address.")

end UpdateEmailController

end AroundMuseo
