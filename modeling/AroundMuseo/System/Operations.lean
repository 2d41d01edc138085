import AroundMuseo.Controllers.LocationCategoryController
import AroundMuseo.Controllers.UpdateControllers
import AroundMuseo.Controllers.VerifyEmailController
import AroundMuseo.Core.Closed
import AroundMuseo.Locations.Fetches
import AroundMuseo.Platform.Overlapping
import AroundMuseo.Screens.QRCodeScannerScreen

/-!
# The operations of the app

What the screens, a timer and the start of the app make the controllers do. All of them are put
together from the same functions of the repositories, from calls and from updates of the
controllers; a property that follows the structure of a program holds of all of them if it holds
of these.
-/

namespace AroundMuseo

open Async Firestore

/-- The operations, but for the fetch of the featured locations, which overlaps with itself. -/
inductive AppOperation where
  | screenRedirect
  | emailAndPasswordSignIn (form : LoginForm)
  | googleSignIn
  | signup (form : SignupForm)
  | sendPasswordResetEmail (email : String) (forgotPasswordFormKey : Option Bool)
  | resendPasswordResetEmail (email : String)
  | sendEmailVerification
  /-- The timer of a `VerifyEmailScreen` ticks. -/
  | timerCallback (screen : Nat)
  | checkEmailVerificationStatus
  | logout
  | fetchUserRecord
  | deleteUserAccount
  | reAuthenticateForDeletion (form : ReAuthForm)
  | resetEmailAddress
  | reAuthenticateForEmailChange (form : ReAuthForm)
  | uploadUserProfilePicture
  | updateUserName (firstName lastName : String) (updateUserNameFormKey : Option Bool)
  | updateAddress (addressCity addressProvState addressCountry : String)
      (updateAddressFormKey : Option Bool)
  | updateBirthYear (birthYear : String) (updateBirthYearFormKey : Option Bool)
  | updateGender (gender : String) (updateGenderFormKey : Option Bool)
  | updateEmailAddress (email : String) (updateEmailFormKey : Option Bool)
  | fetchLocationCategory
  | fetchLocations (op : LocationFetch)
  | fetchAllLocations
  | fetchUserFavorites
  | toggleFavorite (locationId : String)
  /-- The camera delivers barcodes. -/
  | onDetect (barcodes : List QRCodeScannerScreen.Barcode)
  | updateMuseumVisitTimeOut
  | resetScan
  deriving DecidableEq

/-- The function behind an operation. -/
def AppOperation.body (intl : Intl) (repository : LocationRepository) : AppOperation → App Unit
  | screenRedirect => AuthenticationRepository.screenRedirect
  | emailAndPasswordSignIn form => LoginController.emailAndPasswordSignIn form
  | googleSignIn => LoginController.googleSignIn
  | signup form => SignupController.signup form
  | sendPasswordResetEmail email form => ForgetPasswordController.sendPasswordResetEmail email form
  | resendPasswordResetEmail email => ForgetPasswordController.resendPasswordResetEmail email
  | sendEmailVerification => VerifyEmailController.sendEmailVerification
  | timerCallback screen => VerifyEmailController.timerCallback screen
  | checkEmailVerificationStatus => VerifyEmailController.checkEmailVerificationStatus
  | logout => AuthenticationRepository.logout
  | fetchUserRecord => UserController.fetchUserRecord
  | deleteUserAccount => UserController.deleteUserAccount
  | reAuthenticateForDeletion form => UserController.reAuthenticateEmailAndPasswordForDeletion form
  | resetEmailAddress => UserController.resetEmailAddress
  | reAuthenticateForEmailChange form =>
    UserController.reAuthenticateEmailAndPasswordEmailChange form
  | uploadUserProfilePicture => UserController.uploadUserProfilePicture
  | updateUserName first last form => UpdateNameController.updateUserName first last form
  | updateAddress city provState country form =>
    UpdateAddressController.updateAddress city provState country form
  | updateBirthYear birthYear form => UpdateBirthYearController.updateBirthYear birthYear form
  | updateGender gender form => UpdateGenderController.updateGender gender form
  | updateEmailAddress email form => UpdateEmailController.updateEmailAddress email form
  | fetchLocationCategory => LocationCategoryController.fetchLocationCategory
  | fetchLocations op => op.body intl
  | fetchAllLocations => LocationController.fetchAllLocations intl
  | fetchUserFavorites => LocationController.fetchUserFavorites repository
  | toggleFavorite locationId => LocationController.toggleFavorite repository locationId
  | onDetect barcodes => QRCodeScannerScreen.onDetect barcodes
  | updateMuseumVisitTimeOut => QRCodeController.updateMuseumVisitTimeOut
  | resetScan => QRCodeController.resetScan

/-- The flags behind the spinners of the screens. -/
inductive Spinner where
  | locations | locationCategories | profile | image
  deriving DecidableEq, Repr

/-- The spinner is shown. -/
def Spinner.shown (w : World) : Spinner → Bool
  | locations => w.locationController.isLoading
  | locationCategories => w.locationCategoryController.isLoading
  | profile => w.userController.profileLoading
  | image => w.userController.imageUploading

/-- The calls that are about the records of the users. -/
def Call.onUsers : Call → Bool
  | .get .users _ | .set .users _ _ | .setMerge .users _ _ | .update .users _ _ | .delete .users _
  | .add .users _ | .getAll .users | .whereEq .users _ _ | .whereEqLimit .users _ _ _ => true
  | _ => false

/-- The calls that open one of the screens for nobody. -/
def Call.isFirstScreen : Call → Bool
  | .getOffAll .onBoarding | .getOffAll .login => true
  | _ => false

/-- The calls that write to another collection. -/
def Call.writesElsewhere : Call → Bool
  | .set n _ _ | .setMerge n _ _ | .update n _ _ | .delete n _ | .add n _ => n ≠ .users
  | .runTransaction _ _ => true
  | _ => false

/-- The calls that report a success. -/
def Call.reportsSuccess : Call → Bool
  | .snackBar .success _ _ => true
  | _ => false

/-- The calls around a loading dialog. -/
def Call.isNotice (c : Call) : Bool := c.isDialog && !c.reportsSuccess

/-- The collections behind the catalogue of locations and the favourites. -/
def CollectionName.ofCatalogue : CollectionName → Bool
  | userFavorites | locations | locationCategories => true
  | _ => false

/-- The calls that are about these. -/
def Call.onCatalogue : Call → Bool
  | .get n _ | .set n _ _ | .setMerge n _ _ | .update n _ _ | .delete n _ | .add n _ | .getAll n
  | .whereEq n _ _ | .whereEqLimit n _ _ _ | .autoId n => n.ofCatalogue
  | .runTransaction _ _ => true
  | _ => false

/-- The calls that load the catalogue. -/
def Call.loads : Call → Bool
  | .get n _ | .getAll n | .whereEq n _ _ | .autoId n => n.ofCatalogue
  | .now | .snackBar .error _ _ => true
  | _ => false

/-- The calls of few operations. -/
def Call.isReserved (c : Call) : Bool :=
  c.isFirstScreen || c.writesElsewhere || c.reportsSuccess || c.onCatalogue

section Reserved

variable {c : Call}

/-- A call that is not reserved opens no first screen and reports no success. -/
theorem isFirstScreen_of_not_isReserved (h : c.isReserved = false) :
    (c.isFirstScreen || c.reportsSuccess) = false := by
  simp only [Call.isReserved, Bool.or_eq_false_iff] at h ⊢
  exact ⟨h.1.1.1, h.1.2⟩

/-- A call that is not reserved writes to no collection but that of the users. -/
theorem writesElsewhere_of_not_isReserved (h : c.isReserved = false) :
    c.writesElsewhere = false := by
  simp only [Call.isReserved, Bool.or_eq_false_iff] at h
  exact h.1.1.2

end Reserved

/-- The calls of few operations and those that are about the records of the users. -/
def Call.isSpecial (c : Call) : Bool := c.isReserved || c.onUsers

/-- What is written to the record of a user who is there already: the fields of a form, the picture,
the email of the sign-in and the time of the last activity. -/
inductive ProfileUpdate : Doc → Prop where
  | name (firstName lastName : String) : ProfileUpdate (Doc.ofFields [
      ("FirstName", Scalar.string firstName), ("LastName", Scalar.string lastName)])
  | address (city provState country : String) : ProfileUpdate (Doc.ofFields [
      ("AddressCity", Scalar.string city), ("AddressProvState", Scalar.string provState),
      ("AddressCountry", Scalar.string country)])
  | birthYear (birthYear : String) :
    ProfileUpdate (Doc.ofFields [("BirthYear", Scalar.string birthYear)])
  | gender (gender : String) : ProfileUpdate (Doc.ofFields [("Gender", Scalar.string gender)])
  | picture (imageUrl : String) :
    ProfileUpdate (Doc.ofFields [("ProfilePicture", Scalar.string imageUrl)])
  | email (email : String) : ProfileUpdate (Doc.ofFields [("Email", Scalar.string email)])
  | lastActive (now : DateTime) :
    ProfileUpdate (Doc.ofFields [("LastActive", Scalar.timestamp now)])

/-- A call that writes to the records of the users is one of those that the app makes. -/
def Call.RecordRight : Call → Prop
  | .set .users id d => ∃ (form : SignupForm) (userCredential : UserCredential)
      (createdNow updatedNow activeNow : DateTime), id = userCredential.user.uid ∧ d =
        ((SignupController.newUser form userCredential).toJson createdNow updatedNow activeNow).1
  | .setMerge .users _ d => ∃ account now, d = AuthenticationRepository.googleProfile account now
  | .update .users _ d => ProfileUpdate d
  | .add .users _ => False
  | _ => True

/-- Loading the catalogue opens no screen, reports no success and writes nothing. -/
theorem ordinary_of_loads {c : Call} (h : c.loads = true) :
    (c.isFirstScreen || c.reportsSuccess) = false ∧ c.writesElsewhere = false ∧ c.RecordRight := by
  cases c with
  | snackBar kind => cases kind <;> first | exact ⟨rfl, rfl, trivial⟩ | cases h
  | _ => first | exact ⟨rfl, rfl, trivial⟩ | cases h

/-- What loads the catalogue does not touch the users. -/
theorem onUsers_of_loads {c : Call} (h : c.loads = true) : c.onUsers = false := by
  cases c with
  | get n | getAll n | whereEq n => cases n <;> first | rfl | cases h
  | _ => first | rfl | cases h

/-- A call that does not touch the users writes no wrong record. -/
theorem recordRight_of_not_onUsers {c : Call} (hc : c.onUsers = false) : c.RecordRight := by
  cases c with
  | set n | setMerge n | update n | add n => cases n <;> trivial
  | _ => trivial

/-- What is updated by few operations. -/
def World.reserved (w : World) := (Spinner.shown w, w.deviceStorage, w.services,
  w.locationController, w.locationCategoryController, w.qrCodeController.documentId)

/-- The state with another catalogue: its collections, and what the controllers show of them. -/
def World.withCatalogue (w cat : World) : World :=
  { w with
    db := fun n => if n.ofCatalogue then cat.db n else w.db n
    locationController := cat.locationController
    locationCategoryController := cat.locationCategoryController }

/-- What is read does not depend on the catalogue. -/
def ReadsRest {α : Type} (f : World → α) : Prop := ∀ cat w, f (w.withCatalogue cat) = f w

/-- The update neither uses nor changes the catalogue. -/
def UpdatesRest (u : World → World) : Prop :=
  ∀ cat w, u (w.withCatalogue cat) = (u w).withCatalogue cat

/-- The operations that end with the redirection. -/
def AppOperation.redirects : AppOperation → Bool
  | screenRedirect | emailAndPasswordSignIn _ | googleSignIn => true
  | _ => false

/-- The operations that report their success. -/
def AppOperation.reports : AppOperation → Bool
  | sendPasswordResetEmail _ _ | resendPasswordResetEmail _ | sendEmailVerification | signup _
  | reAuthenticateForDeletion _ | uploadUserProfilePicture | updateUserName _ _ _
  | updateAddress _ _ _ _ | updateBirthYear _ _ | updateGender _ _ | updateEmailAddress _ _ => true
  | _ => false

/-- The operations with something of their own: those that load something show a spinner, a
detected code does because the visit is logged, the login is remembered, and the favourites and
the logbook are written. -/
def AppOperation.isSpecial : AppOperation → Bool
  | emailAndPasswordSignIn _ | fetchUserRecord | uploadUserProfilePicture | fetchLocationCategory
  | fetchLocations _ | fetchAllLocations | fetchUserFavorites | toggleFavorite _ | onDetect _
  | updateMuseumVisitTimeOut => true
  | _ => false

/-- The reports of a success have a property. -/
abbrev SuccessHas (K : {α : Type} → App α → Prop) : Prop :=
  ∀ title message, K (await (.snackBar .success title message))

/-- What reads nothing of the catalogue has a property. -/
abbrev ReadsHave (K : {α : Type} → App α → Prop) : Prop :=
  ∀ {α : Type} (f : World → α), ReadsRest f → K (Prog.read f)

/-- A property that is closed has the reading functions. -/
theorem readsHave_of_closed {K : {α : Type} → App α → Prop} (hK : Prog.Closed @K) : ReadsHave @K :=
  fun f _ => hK.read f

/-- A property of the parts of the other operations: of the functions that use the records of the
users, of the redirection, and of the calls and updates that have nothing to do with them. -/
structure PartsHave (K : {α : Type} → App α → Prop) : Prop where
  closed : Prog.Sequential @K
  call : ∀ c : Call, c.isSpecial = false → K (await c)
  read : ReadsHave @K
  update : ∀ u : World → World, (∀ w, (u w).reserved = w.reserved) → UpdatesRest u →
    K (Prog.modify u)
  screenRedirect : K AuthenticationRepository.screenRedirect
  signup : SuccessHas @K → ∀ form, K (SignupController.signup form)
  signInWithGoogle : K AuthenticationRepository.signInWithGoogle
  isRegisteredEmail : ∀ email, K (AuthenticationRepository.isRegisteredEmail email)
  deleteAccount : K AuthenticationRepository.deleteAccount
  updateSingleField : ∀ json, ProfileUpdate json → K (UserRepository.updateSingleField json)

section Shapes

variable {K : {α : Type} → App α → Prop} (hK : Prog.Sequential @K)
  (hcall : ∀ c : Call, c.isNotice = true → K (await c)) {body : App Unit}

include hK hcall

theorem closed_stopLoading : K FullScreenLoader.stopLoading :=
  hK.bind (hcall _ rfl) fun _ => hK.done _

/-- A loader with a message that reports no success. -/
theorem closed_withLoader {kind : SnackBarKind} (hkind : kind ≠ .success) (h : K body)
    (text : String) : K (withLoader text kind body) := by
  apply hK.handle
  · apply hK.bind
    · exact hK.bind (hcall _ rfl) fun _ => hK.done _
    · exact fun _ => h
  · intro e
    apply hK.bind (closed_stopLoading hK hcall)
    intro _
    apply hcall
    cases kind with
    | success => exact absurd rfl hkind
    | _ => rfl

theorem closed_isConnected : K NetworkManager.isConnected := by
  apply hK.handle
  · exact hK.bind (hcall _ rfl) fun _ => hK.done _
  · intro e
    cases e <;> exact hK.done _

/-- The connection adds reads and messages only. -/
theorem closed_whenConnected (h : K body) : K (whenConnected body) := by
  apply hK.bind (closed_isConnected hK hcall)
  intro b
  split
  · exact h
  · exact closed_stopLoading hK hcall

/-- The form adds messages only. -/
theorem closed_whenValid (h : K body) (form : Option Bool) :
    K (whenValid form body) := by
  match form with
  | none => exact hK.done _
  | some true => exact h
  | some false => exact closed_stopLoading hK hcall

end Shapes

namespace PartsHave

variable {K : {α : Type} → App α → Prop}
  (h : PartsHave @K) {p : App Unit}

include h

theorem notice (c : Call) (hc : c.isNotice = true) : K (await c) := by
  apply h.call
  cases c with
  | snackBar kind => cases kind <;> first | rfl | cases hc
  | _ => first | rfl | cases hc

theorem stopLoading : K FullScreenLoader.stopLoading := closed_stopLoading h.closed h.notice

theorem withLoader {kind : SnackBarKind} (hkind : kind ≠ .success) (hp : K p) (text : String) :
    K (AroundMuseo.withLoader text kind p) :=
  closed_withLoader h.closed h.notice hkind hp text

/-- The check of the connection and of the form in front of a body. -/
theorem whenConnectedAndValid (hp : K p) (form : Option Bool) :
    K (whenConnected (whenValid form p)) :=
  closed_whenConnected h.closed h.notice (closed_whenValid h.closed h.notice hp form)

theorem authUser : K AroundMuseo.authUser := h.read _ fun _ _ => rfl

theorem redirect : K AuthenticationRepository.screenRedirect.unawaited :=
  h.closed.unawaited h.screenRedirect

theorem deleteCurrentUser : K AuthenticationRepository.deleteCurrentUser := by
  apply h.closed.bind h.authUser
  intro user
  cases user with
  | none => exact h.closed.done _
  | some user => exact h.call _ rfl

/-- The sign-in by Google is put together from the parts. -/
theorem googleSignIn : K LoginController.googleSignIn := by
  apply h.withLoader (by decide)
  apply h.closed.bind (closed_isConnected h.closed h.notice)
  intro connected
  split
  · apply h.closed.bind h.signInWithGoogle
    intro userCredential
    cases userCredential with
    | none => exact h.stopLoading
    | some userCredential =>
      apply h.closed.bind (h.isRegisteredEmail _)
      intro registered
      split
      · exact h.closed.bind h.stopLoading fun _ => h.redirect
      · refine h.closed.bind h.stopLoading fun _ => h.closed.bind (h.call _ rfl) fun _ => ?_
        exact h.closed.handle h.deleteCurrentUser fun _ => h.closed.done _
  · exact h.closed.bind h.stopLoading fun _ => h.call _ rfl

theorem sendPasswordReset (email : String) :
    K (AuthenticationRepository.sendPasswordResetEmail email) :=
  h.closed.handle (h.call _ rfl) fun _ => h.closed.done _

/-- The logout ends with the login screen. -/
theorem logout (hlogin : K (await (.getOffAll .login))) : K AuthenticationRepository.logout := by
  apply h.closed.handle
  · exact h.closed.bind (h.call _ rfl) fun _ => h.closed.bind (h.call _ rfl) fun _ => hlogin
  · exact fun _ => h.closed.done _

/-- The mail is reported, which needs the success message. -/
theorem sendEmailVerification (hsuccess : SuccessHas @K) :
    K VerifyEmailController.sendEmailVerification := by
  apply h.closed.handle
  · apply h.closed.bind
    · apply h.closed.handle
      · apply h.closed.bind h.authUser
        intro user
        cases user with
        | none => exact h.closed.done _
        | some user => exact h.call _ rfl
      · exact fun _ => h.closed.done _
    · exact fun _ => hsuccess _ _
  · exact fun _ => h.call _ rfl

theorem timerCallback (screen : Nat) : K (VerifyEmailController.timerCallback screen) := by
  refine h.closed.bind (h.call _ rfl) fun _ => h.closed.bind h.authUser fun user => ?_
  split
  · exact h.closed.bind (h.update _ (fun _ => rfl) fun _ _ => rfl) fun _ => h.call _ rfl
  · exact h.closed.done _

theorem checkEmailVerificationStatus :
    K VerifyEmailController.checkEmailVerificationStatus := by
  apply h.closed.bind h.authUser
  intro user
  cases user with
  | none => exact h.closed.done _
  | some user =>
    dsimp only
    split
    · exact h.call _ rfl
    · exact h.closed.done _

theorem firstProvider : K UserController.firstProvider := by
  apply h.closed.bind h.authUser
  intro user
  cases user with
  | none => exact h.closed.done _
  | some user =>
    dsimp only
    split <;> exact h.closed.done _

/-- The deletion ends with the login screen. -/
theorem deleteUserAccount (hlogin : K (await (.getOffAll .login))) :
    K UserController.deleteUserAccount := by
  apply h.withLoader (by decide)
  apply h.closed.bind h.firstProvider
  intro provider
  split
  · split
    · refine h.closed.bind h.signInWithGoogle fun _ => h.closed.bind h.deleteAccount fun _ => ?_
      exact h.closed.bind h.stopLoading fun _ => hlogin
    · split
      · exact h.closed.bind h.stopLoading fun _ => h.call _ rfl
      · exact h.closed.done _
  · exact h.closed.done _

theorem reAuthenticate (email password : String) :
    K (AuthenticationRepository.reAuthenticateWithEmailAndPassword email password) := by
  apply h.closed.handle
  · apply h.closed.bind h.authUser
    intro user
    cases user with
    | none => exact h.closed.done _
    | some user => exact h.call _ rfl
  · exact fun _ => h.closed.done _

/-- The deletion by password reports its success and ends with the login screen. -/
theorem reAuthenticateForDeletion (hlogin : K (await (.getOffAll .login)))
    (hsuccess : SuccessHas @K) (form : ReAuthForm) :
    K (UserController.reAuthenticateEmailAndPasswordForDeletion form) := by
  apply h.withLoader (by decide)
  apply h.whenConnectedAndValid
  refine h.closed.bind (h.reAuthenticate _ _) fun _ => h.closed.bind h.deleteAccount fun _ => ?_
  refine h.closed.bind h.stopLoading fun _ => ?_
  exact h.closed.bind (hsuccess _ _) fun _ => hlogin

theorem resetEmailAddress : K UserController.resetEmailAddress := by
  apply h.withLoader (by decide)
  apply h.closed.bind h.authUser
  intro currentUser
  apply h.closed.bind h.firstProvider
  intro provider
  split
  · split
    · refine h.closed.bind h.signInWithGoogle fun _ => h.closed.bind h.stopLoading fun _ => ?_
      apply h.closed.bind h.authUser
      intro user
      split
      · exact h.closed.bind (h.call _ rfl) fun _ => h.call _ rfl
      · exact h.call _ rfl
    · split
      · exact h.closed.bind h.stopLoading fun _ => h.call _ rfl
      · exact h.closed.done _
  · exact h.closed.done _

theorem reAuthenticateForEmailChange (form : ReAuthForm) :
    K (UserController.reAuthenticateEmailAndPasswordEmailChange form) := by
  apply h.withLoader (by decide)
  apply h.whenConnectedAndValid
  apply h.closed.bind (h.reAuthenticate _ _)
  exact fun _ => h.closed.bind h.stopLoading fun _ => h.call _ rfl

/-- The updates of the profile differ in the fields and in the page they leave for. -/
theorem updateProfile {leave : App Unit} (hleave : K leave) {fields : Doc}
    (hfields : ProfileUpdate fields) (form : Option Bool) (assign : UserModel → UserModel) :
    K (AroundMuseo.updateProfile form fields assign leave) := by
  apply h.withLoader (by decide)
  apply h.whenConnectedAndValid
  refine h.closed.bind (h.updateSingleField _ hfields) fun _ => ?_
  refine h.closed.bind (h.update _ (fun _ => rfl) fun _ _ => rfl) fun _ => ?_
  exact h.closed.bind h.stopLoading fun _ => hleave

theorem reportAndLeave (hsuccess : SuccessHas @K)
    (message : String) : K (AroundMuseo.reportAndLeave message) :=
  h.closed.bind (hsuccess _ _) fun _ => h.call _ rfl

/-- A new email ends the session, so it needs the login screen. -/
theorem updateEmailAddress (hlogin : K (await (.getOffAll .login)))
    (hsuccess : SuccessHas @K) (email : String)
    (form : Option Bool) :
    K (UpdateEmailController.updateEmailAddress email form) := by
  apply h.withLoader (by decide)
  apply h.whenConnectedAndValid
  apply h.closed.bind h.authUser
  intro currentUser
  split
  · refine h.closed.bind h.stopLoading fun _ => h.closed.bind h.authUser fun user => ?_
    cases user with
    | none => exact h.closed.bind (hsuccess _ _) fun _ => h.closed.unawaited (h.logout hlogin)
    | some user =>
      apply h.closed.bind (h.call _ rfl)
      exact fun _ => h.closed.bind (hsuccess _ _) fun _ => h.closed.unawaited (h.logout hlogin)
  · exact h.closed.bind h.stopLoading fun _ => h.call _ rfl

/-- A check ends with the entry in the logbook. -/
theorem checkQRCode (hlog : K QRCodeController.logMuseumVisit) (scannedCode : String) :
    K (QRCodeController.checkQRCode scannedCode) := by
  apply h.closed.handle
  · refine h.closed.bind (h.update _ (fun _ => rfl) fun _ _ => rfl) fun _ => ?_
    refine h.closed.bind ?_ fun currentQRCode => ?_
    · apply h.closed.bind (h.call _ rfl)
      intro data
      cases data <;> exact h.closed.done _
    · split
      · apply h.closed.bind (h.call _ rfl)
        exact fun _ => h.closed.bind hlog fun _ => h.call _ rfl
      · exact h.call _ rfl
  · exact fun _ => h.call _ rfl

theorem onDetect (hlog : K QRCodeController.logMuseumVisit)
    (barcodes : List QRCodeScannerScreen.Barcode) :
    K (QRCodeScannerScreen.onDetect barcodes) := by
  apply h.closed.bind (h.read _ fun _ _ => rfl)
  intro scanCompleted
  split
  · cases barcodes with
    | nil => exact h.closed.done _
    | cons barcode rest =>
      dsimp only
      split
      · exact h.closed.unawaited (h.checkQRCode hlog _)
      · exact h.closed.done _
  · exact h.closed.done _

/-- What the parts have, every operation has, if the special ones have it. -/
theorem body {intl : Intl} {repository : LocationRepository} {op : AppOperation}
    (hspecial : op.isSpecial = true → K (op.body intl repository))
    (hlogin : op.redirects = false → K (await (.getOffAll .login)))
    (hsuccess : op.reports = true → SuccessHas @K) :
    K (op.body intl repository) := by
  cases op with
  | screenRedirect => exact h.screenRedirect
  | googleSignIn => exact h.googleSignIn
  | signup form => exact h.signup (hsuccess rfl) form
  | sendPasswordResetEmail email form =>
    apply h.withLoader (by decide)
    apply h.whenConnectedAndValid
    refine h.closed.bind (h.sendPasswordReset _) fun _ => h.closed.bind h.stopLoading fun _ => ?_
    exact h.closed.bind (hsuccess rfl _ _) fun _ => h.call _ rfl
  | resendPasswordResetEmail email =>
    apply h.withLoader (by decide)
    apply closed_whenConnected h.closed h.notice
    refine h.closed.bind (h.sendPasswordReset _) fun _ => h.closed.bind h.stopLoading fun _ => ?_
    exact hsuccess rfl _ _
  | sendEmailVerification => exact h.sendEmailVerification (hsuccess rfl)
  | timerCallback screen => exact h.timerCallback screen
  | checkEmailVerificationStatus => exact h.checkEmailVerificationStatus
  | logout => exact h.logout (hlogin rfl)
  | deleteUserAccount => exact h.deleteUserAccount (hlogin rfl)
  | reAuthenticateForDeletion form =>
    exact h.reAuthenticateForDeletion (hlogin rfl) (hsuccess rfl) form
  | resetEmailAddress => exact h.resetEmailAddress
  | reAuthenticateForEmailChange form => exact h.reAuthenticateForEmailChange form
  | updateUserName => exact h.updateProfile (h.reportAndLeave (hsuccess rfl) _) (.name _ _) _ _
  | updateBirthYear => exact h.updateProfile (h.reportAndLeave (hsuccess rfl) _) (.birthYear _) _ _
  | updateGender => exact h.updateProfile (h.reportAndLeave (hsuccess rfl) _) (.gender _) _ _
  | updateAddress =>
    apply h.updateProfile _ (.address _ _ _)
    exact h.closed.bind (h.call _ rfl) fun _ => hsuccess rfl _ _
  | updateEmailAddress email form =>
    exact h.updateEmailAddress (hlogin rfl) (hsuccess rfl) email form
  | resetScan => exact h.update _ (fun _ => rfl) fun _ _ => rfl
  | emailAndPasswordSignIn | fetchUserRecord | uploadUserProfilePicture | fetchLocationCategory
  | fetchLocations | fetchAllLocations | fetchUserFavorites | toggleFavorite | onDetect
  | updateMuseumVisitTimeOut => exact hspecial rfl

end PartsHave

/-- The run of overlapping operations of the app in which the moves happen in the given order. -/
theorem app_pool_run (intl : Intl) (repository : LocationRepository) (w : World)
    (special : World → (c : Call) → Option (Except Exn (Reply c)))
    (moves : List (Pool.Move AppOperation)) (q : History × AppPool AppOperation → Bool)
    (h : ((⟨w, []⟩ : AppPool AppOperation).follow overlapping (AppOperation.body intl repository)
      (scenario special) moves).any q = true) :
    ∃ ms c, Pool.Run overlapping (AppOperation.body intl repository) ⟨w, []⟩ ms c ∧
      q (ms, c) = true :=
  Pool.exists_run_of_follow moves h

end AroundMuseo
