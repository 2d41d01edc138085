import AroundMuseo.Navigation.Loaders
import AroundMuseo.Platform.Scenario

/-!
# The operations that use a loader

Twelve of the fifteen operations are balanced in every run. One leaves its loader open
for a provider it does not know (as does a second one), one closes a loader again that
it has closed already, and one closes a loader that it never opened.
-/

namespace AroundMuseo

open Async

/-- The operations that open a loader or close one. -/
inductive LoaderOperation where
  | emailAndPasswordSignIn (form : LoginForm)
  | googleSignIn
  | signup (form : SignupForm)
  | sendPasswordResetEmail (email : String) (forgotPasswordFormKey : Option Bool)
  | resendPasswordResetEmail (email : String)
  | updateUserName (firstName lastName : String) (updateUserNameFormKey : Option Bool)
  | updateAddress (addressCity addressProvState addressCountry : String)
      (updateAddressFormKey : Option Bool)
  | updateBirthYear (birthYear : String) (updateBirthYearFormKey : Option Bool)
  | updateGender (gender : String) (updateGenderFormKey : Option Bool)
  | updateEmailAddress (email : String) (updateEmailFormKey : Option Bool)
  | deleteUserAccount
  | resetEmailAddress
  | reAuthenticateEmailAndPasswordForDeletion (form : ReAuthForm)
  | reAuthenticateEmailAndPasswordEmailChange (form : ReAuthForm)
  | uploadUserProfilePicture
  deriving DecidableEq, Repr

/-- The function behind an operation. -/
def LoaderOperation.body : LoaderOperation → App Unit
  | emailAndPasswordSignIn form => LoginController.emailAndPasswordSignIn form
  | googleSignIn => LoginController.googleSignIn
  | signup form => SignupController.signup form
  | sendPasswordResetEmail email key => ForgetPasswordController.sendPasswordResetEmail email key
  | resendPasswordResetEmail email => ForgetPasswordController.resendPasswordResetEmail email
  | updateUserName firstName lastName key =>
    UpdateNameController.updateUserName firstName lastName key
  | updateAddress city provState country key =>
    UpdateAddressController.updateAddress city provState country key
  | updateBirthYear birthYear key => UpdateBirthYearController.updateBirthYear birthYear key
  | updateGender gender key => UpdateGenderController.updateGender gender key
  | updateEmailAddress email key => UpdateEmailController.updateEmailAddress email key
  | deleteUserAccount => UserController.deleteUserAccount
  | resetEmailAddress => UserController.resetEmailAddress
  | reAuthenticateEmailAndPasswordForDeletion form =>
    UserController.reAuthenticateEmailAndPasswordForDeletion form
  | reAuthenticateEmailAndPasswordEmailChange form =>
    UserController.reAuthenticateEmailAndPasswordEmailChange form
  | uploadUserProfilePicture => UserController.uploadUserProfilePicture

/-- The signed-in user's first provider is neither Google nor a password. -/
def OtherProvider (w : World) : Prop :=
  ∃ u, w.currentUser = some u ∧ ∃ provider, u.providerData.head? = some provider ∧
    provider ≠ "google.com" ∧ provider ≠ "password"

/-- The failures of the request for a verification mail. -/
def verifyFailures (tr : List Event) : List Exn :=
  tr.filterMap fun
    | ⟨_, .verifyBeforeUpdateEmail _ _, .error e⟩ => some e
    | _ => none

/-- The faults of the operations: a provider without a branch, a verification mail that
fails after the loader was closed, and a failure where no loader was opened. The latter
two do no harm on an empty navigator, where there is nothing to pop. -/
def LoaderOperation.Faulty (op : LoaderOperation) (w : World) (tr : List Event) : Prop :=
  match op with
  | deleteUserAccount | resetEmailAddress => OtherProvider w
  | updateEmailAddress _ _ => w.nav.routes ≠ [] ∧ verifyFailures tr ≠ []
  | uploadUserProfilePicture => w.nav.routes ≠ [] ∧ ¬ AllAnswered tr
  | _ => False

section Balanced

variable {w : World}

/-- `deleteUser` swallows every exception. -/
theorem deleteUser_ok (uid : String) (w : World) :
    (AuthenticationRepository.deleteUser (some uid)).wp platform (fun r _ _ => r = .ok ()) w := by
  rw [AuthenticationRepository.deleteUser, Prog.wp_handle,
    AuthenticationRepository.deleteCurrentUser, authUser, Prog.wp_read_bind]
  cases w.currentUser with
  | none => rfl
  | some user => exact Prog.wp_invoke.mpr ⟨fun _ _ => rfl, fun _ _ _ => rfl⟩

/-- The redirection after the close touches no loader. -/
theorem balanced_emailAndPasswordSignIn (form : LoginForm) :
    (LoginController.emailAndPasswordSignIn form).wp platform
      (fun _ tr w' => Balanced tr w'.nav) w := by
  refine balanced_withLoader (closes_whenConnected rfl fun w₂ h₂ => ?_)
  refine closes_whenValid h₂ (closes_bind (quiet_rememberLogin form) h₂ fun _ w₃ h₃ => ?_)
  refine closes_bind (quiet_loginWithEmailAndPassword _ _) h₃ fun _ w₄ h₄ => ?_
  exact closes_stopLoading_bind h₄ fun _ hgone => leaves_unawaited unloading_screenRedirect hgone

/-- The policy that is not accepted is a way out of its own. -/
theorem balanced_signup (form : SignupForm) :
    (SignupController.signup form).wp platform (fun _ tr w' => Balanced tr w'.nav) w := by
  refine balanced_withLoader (closes_whenConnected rfl fun w₂ h₂ => ?_)
  refine closes_whenValid h₂ ?_
  split
  · refine closes_bind (quiet_registerWithEmailAndPassword _ _) h₂ fun c w₃ h₃ => ?_
    refine closes_bind (quiet_saveUserRecord _) h₃ fun _ w₄ h₄ => ?_
    refine closes_stopLoading_bind h₄ fun _ hgone => ?_
    exact leaves_bind (leaves_snackBar _ _ _ hgone) fun _ hgone' => leaves_getTo _ hgone'
  · refine closes_bind (Prog.confined_invoke rfl) h₂ fun _ w₃ h₃ => ?_
    exact closes_stopLoading h₃

/-- A cancelled prompt closes the loader, and so does an account that is turned away. -/
theorem balanced_googleSignIn :
    LoginController.googleSignIn.wp platform (fun _ tr w' => Balanced tr w'.nav) w := by
  refine balanced_withLoader (closes_bind quiet_isConnected rfl fun b w₂ h₂ => ?_)
  split
  case isFalse =>
    exact closes_stopLoading_bind h₂ fun _ hgone => leaves_snackBar _ _ _ hgone
  refine closes_bind quiet_signInWithGoogle h₂ fun c w₃ h₃ => ?_
  cases c with
  | none => exact closes_stopLoading h₃
  | some c =>
    refine closes_bind (quiet_isRegisteredEmail _) h₃ fun b w₄ h₄ => ?_
    split
    · exact closes_stopLoading_bind h₄ fun _ hgone =>
        leaves_unawaited unloading_screenRedirect hgone
    · refine closes_stopLoading_bind h₄ fun _ hgone => ?_
      refine leaves_bind (leaves_snackBar _ _ _ hgone) fun w₅ hgone' => ?_
      exact leaves_of_unloading (quiet_deleteUser _).unloading hgone' (deleteUser_ok _ _)

/-- The loader goes before the next screen comes. -/
theorem balanced_sendPasswordResetEmail (email : String) (key : Option Bool) :
    (ForgetPasswordController.sendPasswordResetEmail email key).wp platform
      (fun _ tr w' => Balanced tr w'.nav) w := by
  refine balanced_withLoader (closes_whenConnected rfl fun w₂ h₂ => ?_)
  refine closes_whenValid h₂ (closes_bind (quiet_sendPasswordResetEmail _) h₂ fun _ w₃ h₃ => ?_)
  refine closes_stopLoading_bind h₃ fun _ hgone => ?_
  exact leaves_bind (leaves_snackBar _ _ _ hgone) fun _ hgone' => leaves_getTo _ hgone'

/-- A second mail, without a form. -/
theorem balanced_resendPasswordResetEmail (email : String) :
    (ForgetPasswordController.resendPasswordResetEmail email).wp platform
      (fun _ tr w' => Balanced tr w'.nav) w := by
  refine balanced_withLoader (closes_whenConnected rfl fun w₂ h₂ => ?_)
  refine closes_bind (quiet_sendPasswordResetEmail _) h₂ fun _ w₃ h₃ => ?_
  exact closes_stopLoading_bind h₃ fun _ hgone => leaves_snackBar _ _ _ hgone

/-- The four profile forms, whatever they write. -/
theorem balanced_updateProfile (form : Option Bool) (fields : Firestore.Doc)
    (assign : UserModel → UserModel) {leave : App Unit}
    (hleave : ∀ w', w'.nav.Gone w.nav.next → Leaves w.nav.next leave w') :
    (updateProfile form fields assign leave).wp platform
      (fun _ tr w' => Balanced tr w'.nav) w := by
  refine balanced_withLoader (closes_whenConnected rfl fun w₂ h₂ => ?_)
  refine closes_whenValid h₂ (closes_bind (quiet_updateSingleField _) h₂ fun _ w₃ h₃ => ?_)
  refine closes_bind (quiet_modifyUser _) h₃ fun _ w₄ h₄ => ?_
  exact closes_stopLoading_bind h₄ hleave

/-- Three of the profile forms report and go back. -/
theorem leaves_reportAndLeave {k : Nat} (message : String) {w : World} (hgone : w.nav.Gone k) :
    Leaves k (reportAndLeave message) w :=
  leaves_bind (leaves_snackBar _ _ _ hgone) fun _ hgone' => leaves_getOff _ hgone'

/-- The fourth one goes back before it reports. -/
theorem balanced_updateAddress (city provState country : String) (key : Option Bool) :
    (UpdateAddressController.updateAddress city provState country key).wp platform
      (fun _ tr w' => Balanced tr w'.nav) w :=
  balanced_updateProfile _ _ _ fun _ hgone =>
    leaves_bind (leaves_getOff _ hgone) fun _ hgone' => leaves_snackBar _ _ _ hgone'

/-- The account is removed under the loader. -/
theorem balanced_reAuthenticateForDeletion (form : ReAuthForm) :
    (UserController.reAuthenticateEmailAndPasswordForDeletion form).wp platform
      (fun _ tr w' => Balanced tr w'.nav) w := by
  refine balanced_withLoader (closes_whenConnected rfl fun w₂ h₂ => ?_)
  refine closes_whenValid h₂ ?_
  refine closes_bind (quiet_reAuthenticateWithEmailAndPassword _ _) h₂ fun _ w₃ h₃ => ?_
  refine closes_bind quiet_deleteAccount h₃ fun _ w₄ h₄ => ?_
  refine closes_stopLoading_bind h₄ fun _ hgone => ?_
  exact leaves_bind (leaves_snackBar _ _ _ hgone) fun _ hgone' => leaves_getOffAll _ hgone'

/-- The password is checked under the loader. -/
theorem balanced_reAuthenticateEmailChange (form : ReAuthForm) :
    (UserController.reAuthenticateEmailAndPasswordEmailChange form).wp platform
      (fun _ tr w' => Balanced tr w'.nav) w := by
  refine balanced_withLoader (closes_whenConnected rfl fun w₂ h₂ => ?_)
  refine closes_whenValid h₂ ?_
  refine closes_bind (quiet_reAuthenticateWithEmailAndPassword _ _) h₂ fun _ w₃ h₃ => ?_
  exact closes_stopLoading_bind h₃ fun _ hgone => leaves_getOff _ hgone

/-- The shape of the two operations that ask for the provider. -/
def byProvider (google password : App Unit) : App Unit := do
  let provider ← UserController.firstProvider
  if provider ≠ "" then
    if provider = "google.com" then google
    else if provider = "password" then password

/-- With a known provider, or with an exception in its place, a branch closes the
loader. -/
theorem closes_byProvider {nav : Navigator RouteContent} {x : RouteContent}
    {google password : App Unit} (hw : w.nav = nav.push x) (hother : ¬ OtherProvider w)
    (hgoogle : Closes nav x google w) (hpassword : Closes nav x password w) :
    Closes nav x (byProvider google password) w := by
  rw [Closes, byProvider, Prog.wp_bind, UserController.firstProvider, authUser, Prog.wp_read_bind]
  cases hu : w.currentUser with
  | none => exact closes_throw hw _
  | some u =>
    rcases hu' : u with ⟨uid, email, emailVerified, _ | ⟨provider, rest⟩⟩
    · exact closes_throw hw _
    refine Prog.wp_pure.mpr ?_
    have hprovider : provider = "google.com" ∨ provider = "password" := by
      by_contra hne
      rw [not_or] at hne
      exact hother ⟨u, hu, provider, by rw [hu']; rfl, hne⟩
    rcases hprovider with rfl | rfl
    · exact hgoogle
    · exact hpassword

/-- For any other provider nothing happens under the loader. -/
theorem wp_byProvider_of_other {google password : App Unit} (hother : OtherProvider w)
    {Q : Except Exn Unit → List Event → World → Prop} (hQ : Q (.ok ()) [] w) :
    (byProvider google password).wp platform Q w := by
  obtain ⟨u, hu, provider, hprovider, hgoogle, hpassword⟩ := hother
  rw [byProvider, Prog.wp_bind, UserController.firstProvider, authUser, Prog.wp_read_bind, hu]
  rcases u with ⟨uid, email, emailVerified, _ | ⟨first, rest⟩⟩
  · cases hprovider
  cases hprovider
  refine Prog.wp_pure.mpr ?_
  dsimp only
  split
  · exact hQ
  · exact hQ

/-- A body that ends with its loader on top makes an operation that is not balanced. -/
theorem not_balanced_of_left_open {text : String} {kind : SnackBarKind} {body : App Unit}
    (h : body.wp platform
      (fun r tr w' => r = .ok () ∧ tr = [] ∧ w'.nav = w.nav.push (.loader text docerAnimation))
      (w.withNav (w.nav.push (.loader text docerAnimation)))) :
    (withLoader text kind body).wp platform (fun _ tr w' => ¬ Balanced tr w'.nav) w := by
  refine wp_withLoader.mpr (Prog.wp_mono h ?_)
  rintro _ _ w' ⟨rfl, rfl, hnav⟩
  rw [balanced_iff_of_opened (k := w.nav.next) rfl, hnav]
  rintro ⟨hclosed, -⟩
  exact hclosed _ List.mem_cons_self rfl

/-- The password branch of both operations. -/
theorem closes_getTo {nav : Navigator RouteContent} {x : RouteContent} (screen : Screen)
    (hw : w.nav = nav.push x) : Closes nav x (do
      FullScreenLoader.stopLoading
      await (.getTo screen)) w :=
  closes_stopLoading_bind hw fun _ hgone => leaves_getTo screen hgone

/-- Only a provider without a branch leaves the loader of a deletion open. -/
theorem balanced_deleteUserAccount_iff :
    UserController.deleteUserAccount.wp platform
      (fun _ tr w' => Balanced tr w'.nav ↔ ¬ OtherProvider w) w := by
  by_cases hother : OtherProvider w
  · have hloader : OtherProvider
        (w.withNav (w.nav.push (.loader "Processing..." docerAnimation))) := hother
    refine Prog.wp_mono (not_balanced_of_left_open ?_) fun _ _ _ h =>
      iff_of_false h (not_not_intro hother)
    exact wp_byProvider_of_other hloader ⟨rfl, rfl, rfl⟩
  · refine Prog.wp_mono (balanced_withLoader ?_) fun _ _ _ h => iff_of_true h hother
    refine closes_byProvider rfl hother ?_ (closes_getTo _ rfl)
    refine closes_bind quiet_signInWithGoogle rfl fun _ w₁ h₁ => ?_
    refine closes_bind quiet_deleteAccount h₁ fun _ w₂ h₂ => ?_
    exact closes_stopLoading_bind h₂ fun _ hgone => leaves_getOffAll _ hgone

/-- The same provider leaves the loader of a change of the email open. -/
theorem balanced_resetEmailAddress_iff :
    UserController.resetEmailAddress.wp platform
      (fun _ tr w' => Balanced tr w'.nav ↔ ¬ OtherProvider w) w := by
  by_cases hother : OtherProvider w
  · have hloader : OtherProvider
        (w.withNav (w.nav.push (.loader "Processing..." docerAnimation))) := hother
    refine Prog.wp_mono (not_balanced_of_left_open ?_) fun _ _ _ h =>
      iff_of_false h (not_not_intro hother)
    exact Prog.wp_read_bind.mpr (wp_byProvider_of_other hloader ⟨rfl, rfl, rfl⟩)
  · refine Prog.wp_mono (balanced_withLoader ?_) fun _ _ _ h => iff_of_true h hother
    refine Prog.wp_read_bind.mpr (closes_byProvider rfl hother ?_ (closes_getTo _ rfl))
    refine closes_bind quiet_signInWithGoogle rfl fun _ w₁ h₁ => ?_
    refine closes_stopLoading_bind h₁ fun w₂ hgone => Prog.wp_read_bind.mpr ?_
    split
    · exact leaves_bind (leaves_snackBar _ _ _ hgone) fun _ hgone' => leaves_getOff _ hgone'
    · exact leaves_getOff _ hgone

/-- What is thrown while a picture is uploaded reaches the `catch` block. -/
theorem propagates_pickAndUpload : UserController.pickAndUpload.Propagates platform := by
  refine .bind (Prog.propagates_invoke _) fun source => ?_
  cases source with
  | none => exact Prog.propagates_pure ()
  | some source =>
    refine .bind (Prog.propagates_invoke _) fun image => ?_
    cases image with
    | none => exact Prog.propagates_pure ()
    | some image =>
      refine .bind (Prog.propagates_modify _) fun _ => .bind (.rethrow ?_ _) fun imageUrl => ?_
      · exact .bind (Prog.propagates_invoke _) fun _ => Prog.propagates_invoke _
      refine .bind (.rethrow (.bind (Prog.propagates_read _) fun user => ?_) _) fun _ => ?_
      · refine .bind ?_ fun id => Prog.propagates_invoke _
        unfold docRef
        split
        · exact Prog.propagates_pure _
        · exact Prog.propagates_invoke _
      · exact .bind (Prog.propagates_modify _) fun _ => Prog.propagates_invoke _

/-- The upload opens no loader, so there is none to close. -/
theorem quiet_pickAndUpload : Quiet UserController.pickAndUpload := by
  refine .bind (Prog.confined_invoke rfl) fun source => ?_
  cases source with
  | none => trivial
  | some source =>
    refine .bind (Prog.confined_invoke rfl) fun image => ?_
    cases image with
    | none => trivial
    | some image =>
      refine .bind (Prog.confined_modify fun _ => rfl) fun _ => ?_
      refine .bind (quiet_uploadImage _ _) fun imageUrl => ?_
      refine .bind (quiet_updateSingleField _) fun _ => .bind (quiet_modifyUser _) fun _ => ?_
      exact Prog.confined_invoke rfl

/-- Without a loader the `catch` block pops the top of the stack it found. -/
theorem balanced_uploadUserProfilePicture_iff :
    UserController.uploadUserProfilePicture.wp platform
      (fun _ tr w' => Balanced tr w'.nav ↔ ¬ (w.nav.routes ≠ [] ∧ ¬ AllAnswered tr)) w := by
  refine Prog.wp_ensure.mpr (Prog.wp_handle.mpr ?_)
  refine Prog.wp_mono (Prog.wp_and (propagates_pickAndUpload w) (wp_quiet quiet_pickAndUpload w)) ?_
  rintro (e | ⟨⟩) tr w' ⟨hthrown, hopen, hpop, hnav⟩
  · refine wp_stopLoading_bind.mpr ((Sync.snackBar _ _ _).wp.mpr (Prog.wp_modify.mpr ?_))
    have hfailed : ¬ AllAnswered tr := fun hok => by
      obtain ⟨a, ha⟩ := hthrown.mpr hok
      cases ha
    show Balanced (tr ++ catchEvents w' .warning e ++ []) _ ↔
      ¬ (_ ∧ ¬ AllAnswered (tr ++ catchEvents w' .warning e ++ []))
    rw [List.append_nil, allAnswered_append]
    have hopened : opened (tr ++ catchEvents w' .warning e) = [] := by
      rw [opened_append, hopen]
      rfl
    rw [balanced_iff_of_not_opened hopened, popped_append, hpop, popped_catchEvents, hnav]
    cases hroutes : w.nav.routes with
    | nil => simp
    | cons route rest => simp [hfailed]
  · refine Prog.wp_modify.mpr ?_
    have hok : AllAnswered tr := hthrown.mp ⟨(), rfl⟩
    show Balanced (tr ++ []) _ ↔ ¬ (_ ∧ ¬ AllAnswered (tr ++ []))
    rw [List.append_nil, balanced_iff_of_not_opened hopen]
    exact iff_of_true hpop fun h => h.2 hok

/-- How the body of `updateEmailAddress` ends: with failures of the verification mail,
closed loaders and a navigator. -/
inductive EmailUpdate (nav : Navigator RouteContent) (x : RouteContent) :
    Except Exn Unit → List Exn → List Nat → Navigator RouteContent → Prop
  | closes {r : Except Exn Unit} {ids : List Nat} {nav' : Navigator RouteContent}
      (h : ClosesLoader nav x r ids nav') : EmailUpdate nav x r [] ids nav'
  /-- The loader is closed already when the exception is thrown. -/
  | failed (e : Exn) : EmailUpdate nav x (.error e) [e] [nav.next] (nav.push x).pop

/-- The check of the connection is neither about loaders nor about mails. -/
theorem log_ofConnectivity {ev : Event} (hev : ev.call = .checkConnectivity) (tr : List Event) :
    opened (ev :: tr) = opened tr ∧ popped (ev :: tr) = popped tr ∧
      verifyFailures (ev :: tr) = verifyFailures tr := by
  obtain ⟨w, c, r⟩ := ev
  cases hev
  cases r <;> exact ⟨rfl, rfl, rfl⟩

/-- The logout that nobody waits for requests no mail. -/
theorem verifyFailures_logout (w : World) :
    AuthenticationRepository.logout.unawaited.wp platform
      (fun _ tr _ => verifyFailures tr = []) w := by
  refine Prog.wp_unawaited.mpr (Prog.wp_handle.mpr ?_)
  refine Prog.wp_invoke_bind.mpr ⟨fun _ e => rfl, fun _ w₁ _ => ?_⟩
  refine Prog.wp_invoke_bind.mpr ⟨fun _ e => rfl, fun _ w₂ _ => ?_⟩
  exact (Sync.getOffAll _).wp.mpr rfl

/-- Whatever is done after the loader was closed, if it touches no loader and requests no
mail. -/
theorem emailUpdate_of_leaves {nav : Navigator RouteContent} {x : RouteContent}
    (hw : w.nav = nav.push x) (pre : List Event) {tr : List Event} {w' : World}
    {r : Except Exn Unit} (hpre : opened pre = [] ∧ popped pre = [] ∧ verifyFailures pre = [])
    (h : r = .ok () ∧ opened tr = [] ∧ popped tr = [] ∧ w'.nav.Gone nav.next)
    (hmail : verifyFailures tr = []) :
    opened (⟨w, .stopLoading, .ok w.nav.top⟩ :: (pre ++ tr)) = [] ∧
      EmailUpdate nav x r (verifyFailures (⟨w, .stopLoading, .ok w.nav.top⟩ :: (pre ++ tr)))
        (popped (⟨w, .stopLoading, .ok w.nav.top⟩ :: (pre ++ tr))) w'.nav := by
  obtain ⟨rfl, hopen, hpop, hgone⟩ := h
  have hopened : opened (⟨w, .stopLoading, .ok w.nav.top⟩ :: (pre ++ tr)) = [] := by
    rw [← List.singleton_append, opened_append, opened_append, hpre.1, hopen]
    rfl
  have hpopped : popped (⟨w, .stopLoading, .ok w.nav.top⟩ :: (pre ++ tr)) = [nav.next] := by
    rw [← List.singleton_append, popped_append, popped_append, hpre.2.1, hpop, hw]
    rfl
  have hmails : verifyFailures (⟨w, .stopLoading, .ok w.nav.top⟩ :: (pre ++ tr)) = [] := by
    rw [← List.singleton_append, verifyFailures, List.filterMap_append, List.filterMap_append]
    exact List.append_eq_nil_iff.mpr ⟨rfl, List.append_eq_nil_iff.mpr ⟨hpre.2.2, hmail⟩⟩
  rw [hopened, hpopped, hmails]
  exact ⟨rfl, .closes (.closed hgone)⟩

/-- After the mail nothing throws, and the logout runs on its own. -/
theorem mailSent_leaves {nav : Navigator RouteContent} (message : String)
    (h : w.nav.Gone nav.next) : (do
      await (.snackBar .success "Verification Email Sent" message)
      AuthenticationRepository.logout.unawaited : App Unit).wp platform
      (fun r tr w' => (r = .ok () ∧ opened tr = [] ∧ popped tr = [] ∧ w'.nav.Gone nav.next) ∧
        verifyFailures tr = []) w := by
  refine Prog.wp_and (leaves_bind (leaves_snackBar _ _ _ h) fun _ h₂ =>
    leaves_unawaited unloading_logout h₂) ?_
  exact (Sync.snackBar _ _ _).wp_bind.mpr (verifyFailures_logout _)

/-- Under the loader, only the mail can throw after the close. -/
theorem updateEmailAddress_body (nav : Navigator RouteContent) (x : RouteContent)
    (hw : w.nav = nav.push x) (email : String) (key : Option Bool) :
    (whenConnected <| whenValid key do
      let currentUser ← authUser
      if some (Dart.trim email) ≠ currentUser.bind (·.email) then
        FullScreenLoader.stopLoading
        match ← authUser with
        | some currentUser => await (.verifyBeforeUpdateEmail currentUser.uid (Dart.trim email))
        | none => pure ()
        await (.snackBar .success "Verification Email Sent" <|
          "Please check your inbox and verify your new email. Once verified, you will need " ++
          "to log in again to continue using the app.")
        AuthenticationRepository.logout.unawaited
      else
        FullScreenLoader.stopLoading
        await (.snackBar .warning "Invalid Email Change" <|
          "The email address you entered is the same as your current one. Please provide a " ++
          "different email address.")).wp platform
      (fun r tr w' => opened tr = [] ∧
        EmailUpdate nav x r (verifyFailures tr) (popped tr) w'.nav) w := by
  have hgone : (w.withNav w.nav.pop).nav.Gone nav.next := by
    rw [World.withNav_nav, hw]
    exact nav.gone_push_pop x
  have htop : popped [⟨w, .stopLoading, .ok w.nav.top⟩] = [nav.next] := by
    rw [hw]
    rfl
  refine wp_whenConnected (fun ev hev e => ?_) (fun ev hev => ?_) fun ev hev => ?_
  · simp only [log_ofConnectivity hev, hw]
    exact ⟨rfl, .closes (.thrown e)⟩
  · simp only [log_ofConnectivity hev, htop]
    exact ⟨rfl, .closes (.closed hgone)⟩
  simp only [log_ofConnectivity hev]
  refine wp_whenValid ?_ ?_ (Prog.wp_read_bind.mpr ?_)
  · rw [hw]
    exact ⟨rfl, .closes (.thrown _)⟩
  · rw [htop]
    exact ⟨rfl, .closes (.closed hgone)⟩
  split
  case isFalse =>
    refine wp_stopLoading_bind.mpr ((Sync.snackBar _ _ _).wp.mpr ?_)
    exact emailUpdate_of_leaves hw [] ⟨rfl, rfl, rfl⟩ ⟨rfl, rfl, rfl, hgone⟩ rfl
  refine wp_stopLoading_bind.mpr (Prog.wp_read_bind.mpr ?_)
  cases (w.withNav w.nav.pop).currentUser with
  | none =>
    refine Prog.wp_mono (mailSent_leaves _ hgone) fun r tr w' h => ?_
    exact emailUpdate_of_leaves hw [] ⟨rfl, rfl, rfl⟩ h.1 h.2
  | some user =>
    refine Prog.wp_invoke_bind.mpr ⟨fun _ e => ⟨rfl, ?_⟩, ?_⟩
    · rw [World.withNav_nav, hw]
      exact .failed e
    · rintro v _ ⟨⟩
      refine Prog.wp_mono (mailSent_leaves _ hgone) fun r tr w' h => ?_
      exact emailUpdate_of_leaves hw [_] ⟨rfl, rfl, rfl⟩ h.1 h.2

/-- If the verification mail fails, the `catch` block closes a loader for the second
time. -/
theorem balanced_updateEmailAddress_iff (email : String) (key : Option Bool) :
    (UpdateEmailController.updateEmailAddress email key).wp platform
      (fun _ tr w' => Balanced tr w'.nav ↔ ¬ (w.nav.routes ≠ [] ∧ verifyFailures tr ≠ [])) w := by
  refine wp_withLoader_iff.mpr (Prog.wp_mono (updateEmailAddress_body _ _ rfl email key) ?_)
  rintro r tr w' ⟨hopen, hbody⟩
  have hmail (text : String) :
      verifyFailures (loaderEvents w text .error tr w' r) = verifyFailures tr := by
    cases r with
    | ok => rfl
    | error e =>
      rw [loaderEvents, ← List.singleton_append, verifyFailures, List.filterMap_append,
        List.filterMap_append]
      exact List.append_nil _
  rw [hmail]
  generalize hpopped : popped tr = ids at hbody
  generalize hnav : w'.nav = nav' at hbody
  generalize hmails : verifyFailures tr = mails at hbody
  cases hbody with
  | closes h =>
    rw [← hpopped, ← hnav] at h
    exact iff_of_true (h.balanced hopen) (by simp)
  | failed e =>
    have hcatch : opened (tr ++ catchEvents w' .error e) = [] := by
      rw [opened_append, hopen]
      rfl
    obtain ⟨hopened, hpopped'⟩ := opened_popped_cons (w := w) hcatch
    rw [loaderEvents, balanced_iff_of_opened hopened, hpopped', popped_append, hpopped,
      popped_catchEvents, hnav, Navigator.pop_push_routes]
    cases hroutes : w.nav.routes with
    | nil =>
      have hgone : (loaderState w' (.error e)).nav.routes = [] := by
        rw [loaderState, World.withNav_nav, hnav]
        simp [Navigator.pop, Navigator.push, hroutes]
      simp [hgone]
    | cons route rest =>
      have hne : route.1 ≠ w.nav.next :=
        Nat.ne_of_lt (w.nav.fresh route (by rw [hroutes]; exact List.mem_cons_self))
      simp [hne]

end Balanced

/-- An operation is balanced, from any state and whatever its calls answer, exactly when
it does not meet its fault. -/
theorem loaders_balanced_iff (op : LoaderOperation) {w w' : World} {tr : List Event}
    {r : Except Exn Unit} (hrun : op.body.Run platform w tr r w') :
    Balanced tr w'.nav ↔ ¬ op.Faulty w tr := by
  have hbalanced {p : App Unit} (h : p.wp platform (fun _ tr w' => Balanced tr w'.nav) w)
      (hp : p.Run platform w tr r w') : Balanced tr w'.nav ↔ ¬ False :=
    iff_of_true (Prog.wp_iff_run.mp h tr r w' hp) not_false
  cases op with
  | emailAndPasswordSignIn form => exact hbalanced (balanced_emailAndPasswordSignIn form) hrun
  | googleSignIn => exact hbalanced balanced_googleSignIn hrun
  | signup form => exact hbalanced (balanced_signup form) hrun
  | sendPasswordResetEmail email key =>
    exact hbalanced (balanced_sendPasswordResetEmail email key) hrun
  | resendPasswordResetEmail email =>
    exact hbalanced (balanced_resendPasswordResetEmail email) hrun
  | updateUserName firstName lastName key =>
    exact hbalanced (balanced_updateProfile _ _ _ fun _ => leaves_reportAndLeave _) hrun
  | updateAddress city provState country key =>
    exact hbalanced (balanced_updateAddress city provState country key) hrun
  | updateBirthYear birthYear key =>
    exact hbalanced (balanced_updateProfile _ _ _ fun _ => leaves_reportAndLeave _) hrun
  | updateGender gender key =>
    exact hbalanced (balanced_updateProfile _ _ _ fun _ => leaves_reportAndLeave _) hrun
  | updateEmailAddress email key =>
    exact Prog.wp_iff_run.mp (balanced_updateEmailAddress_iff email key) tr r w' hrun
  | deleteUserAccount => exact Prog.wp_iff_run.mp balanced_deleteUserAccount_iff tr r w' hrun
  | resetEmailAddress => exact Prog.wp_iff_run.mp balanced_resetEmailAddress_iff tr r w' hrun
  | reAuthenticateEmailAndPasswordForDeletion form =>
    exact hbalanced (balanced_reAuthenticateForDeletion form) hrun
  | reAuthenticateEmailAndPasswordEmailChange form =>
    exact hbalanced (balanced_reAuthenticateEmailChange form) hrun
  | uploadUserProfilePicture =>
    exact Prog.wp_iff_run.mp balanced_uploadUserProfilePicture_iff tr r w' hrun

/-- A state whose navigator shows the profile screen. -/
def profileShown : World :=
  let w := World.withUsers [.of "u" "u@example.com" "password"]
  { w with nav := w.nav.push (.page .profile) }

/-- A deletion by a user with a password closes its loader. -/
theorem loader_balanced_for_password :
    ∃ tr r w', LoaderOperation.deleteUserAccount.body.Run platform profileShown tr r w' ∧
      Balanced tr w'.nav := by
  obtain ⟨tr, r, w', hrun, -⟩ := scenario_run LoaderOperation.deleteUserAccount.body profileShown
    (fun _ _ => none) (fun _ => true) (by decide +kernel)
  refine ⟨tr, r, w', hrun, (loaders_balanced_iff .deleteUserAccount hrun).mpr ?_⟩
  rintro ⟨u, hu, provider, hprovider, -, hpassword⟩
  cases hu
  cases hprovider
  exact hpassword rfl

/-- A picture that cannot be picked pops the profile screen. -/
theorem loader_not_balanced_when_picking_fails :
    ¬ ∀ (op : LoaderOperation) (w w' : World) (tr : List Event) (r : Except Exn Unit),
      op.body.Run platform w tr r w' → Balanced tr w'.nav := by
  intro hall
  obtain ⟨tr, r, w', hrun, hq⟩ := scenario_run LoaderOperation.uploadUserProfilePicture.body
    profileShown
    (throwing (· = .showModalBottomSheet) (.other ""))
    (fun out => opened out.1 = [] ∧ popped out.1 = [0]) (by decide +kernel)
  obtain ⟨hopened, hpopped⟩ := of_decide_eq_true hq
  have hown := (hall .uploadUserProfilePicture profileShown w' tr r hrun).own 0
    (by rw [hpopped]; exact List.mem_cons_self)
  rw [hopened] at hown
  cases hown

end AroundMuseo
