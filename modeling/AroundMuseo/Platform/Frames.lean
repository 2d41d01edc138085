import AroundMuseo.Controllers.AuthControllers
import AroundMuseo.Controllers.QRCodeController
import AroundMuseo.Core.View

/-!
# What the functions leave alone

The operations update their own observables and the device storage in synchronous
steps. Everything else of the state, the services and the navigator, changes by calls
only, and none of these is about favourites. Most functions of the repositories make no
call of the navigator either, so that they run under a loader without touching it.
-/

namespace AroundMuseo

open Async Async.Prog

/-- The part of the state that only calls change. -/
def World.services (w : World) :
    (AList fun _ : String => Account) × Option User × (CollectionName → Firestore.Collection) ×
      Navigator RouteContent :=
  (w.accounts, w.currentUser, w.db, w.nav)

/-- The services, and the timers of the verification, which have a controller of their own. -/
def World.surroundings (w : World) := (w.services, w.verifyEmailTimers)

/-- The part of the state that no call changes: the controllers, the map and the timers. -/
def World.controllers (w : World) : UserControllerState × QRCodeControllerState ×
    LocationControllerState × LocationCategoryControllerState × MapScreenState × Finset Nat :=
  (w.userController, w.qrCodeController, w.locationController, w.locationCategoryController,
    w.mapScreen, w.verifyEmailTimers)

/-- An answer leaves the controllers alone. -/
theorem controllers_of_effect {c : Call} {w w' : World} {v : Reply c} (h : effect c w v = some w') :
    w'.controllers = w.controllers := by
  cases c with
  | signInWithCredential g =>
    simp only [effect] at h
    split at h <;>
    · obtain ⟨-, hw⟩ := Option.ite_none_right_eq_some.mp h
      cases hw
      rfl
  | signInWithEmailAndPassword email password =>
    simp only [effect] at h
    split at h
    · obtain ⟨-, hw⟩ := Option.ite_none_right_eq_some.mp h
      cases hw
      rfl
    · cases h
  | update n id d =>
    obtain ⟨docs, -, rfl⟩ := Option.map_eq_some_iff.mp h
    rfl
  | runTransaction id tx =>
    simp only [effect, World.runTransaction] at h
    split at h <;> cases h <;> rfl
  | createUserWithEmailAndPassword | add | autoId =>
    obtain ⟨-, hw⟩ := Option.ite_none_left_eq_some.mp h
    cases hw
    rfl
  | googleAuthentication | reauthenticateWithCredential | deleteUser | get | getAll | whereEq
  | whereEqLimit | getDownloadURL | mapController | openLoadingDialog | stopLoading =>
    obtain ⟨-, hw⟩ := Option.ite_none_right_eq_some.mp h
    cases hw
    rfl
  | _ =>
    cases h
    rfl

/-- No call to a service changes a controller. -/
theorem controllers_of_perform {c : Call} {w w' : World} {r : Except Exn (Reply c)}
    (h : platform.perform c w r = some w') : w'.controllers = w.controllers := by
  cases r with
  | ok v => exact controllers_of_effect h
  | error e =>
    simp only [Platform.perform, Option.ite_none_right_eq_some, Option.some.injEq] at h
    rw [h.2]

/-- The calls that open and close a loader. -/
def Call.isLoading : Call → Bool
  | .openLoadingDialog _ _ | .stopLoading => true
  | _ => false

/-- The calls that change the navigator. -/
def Call.navigates : Call → Bool
  | .getTo _ | .getOff _ | .getOffAll _ => true
  | c => c.isLoading

/-- The calls that read or write the favourites. -/
def Call.onFavorites : Call → Bool
  | .get n _ | .set n _ _ | .setMerge n _ _ | .update n _ _ | .delete n _ | .add n _
  | .getAll n | .whereEq n _ _ | .whereEqLimit n _ _ _ => n = .userFavorites
  | .runTransaction _ _ => true
  | _ => false

/-- The call deletes an account. -/
def Call.deletesAccount : Call → Bool
  | .deleteUser _ => true
  | _ => false

/-- The function changes the services by calls only, and leaves the favourites alone. -/
abbrev Local {α : Type} (p : App α) : Prop :=
  p.Confined (fun c => c.onFavorites = false) World.surroundings

/-- The function neither opens nor closes a loader. -/
abbrev Unloading {α : Type} (p : App α) : Prop :=
  p.Confined (fun c => (c.isLoading || c.onFavorites) = false) World.surroundings

/-- The function leaves the navigator alone. -/
abbrev Quiet {α : Type} (p : App α) : Prop :=
  p.Confined (fun c => (c.navigates || c.onFavorites) = false) World.surroundings

variable {α : Type} {p : App α}

/-- A function that leaves the navigator alone neither opens nor closes a loader. -/
theorem Quiet.unloading (h : Quiet p) : Unloading p := by
  refine Confined.mono h fun c hc => ?_
  rw [Bool.or_eq_false_iff] at hc ⊢
  refine ⟨?_, hc.2⟩
  cases c <;> first | rfl | cases hc.1

/-- A function without loaders changes the services by calls only. -/
theorem Unloading.local (h : Unloading p) : Local p :=
  Confined.mono h fun _ hc => (Bool.or_eq_false_iff.mp hc).2

theorem Quiet.local (h : Quiet p) : Local p := h.unloading.local

theorem quiet_authUser : Quiet authUser := confined_read _

theorem quiet_modifyUser (f : UserModel → UserModel) : Quiet (UserController.modifyUser f) :=
  confined_modify fun _ => rfl

section Shapes

/-- The calls of the loaders, of the snack bars and of the check of the connection. -/
def Call.isDialog : Call → Bool
  | .openLoadingDialog _ _ | .stopLoading | .snackBar _ _ _ | .checkConnectivity => true
  | _ => false

section Dialogs

variable {τ : Type} {ok : Call → Prop} {view : World → τ} (hok : ∀ c, c.isDialog = true → ok c)
  {body : App Unit}

include hok

theorem confined_stopLoading : FullScreenLoader.stopLoading.Confined ok view :=
  .bind (confined_invoke (hok _ rfl)) fun _ => trivial

/-- The loader and its message are dialogs. -/
theorem confined_withLoader (h : body.Confined ok view) (text : String) (kind : SnackBarKind) :
    (withLoader text kind body).Confined ok view := by
  have hopen : (FullScreenLoader.openLoadingDialog text docerAnimation).Confined ok view :=
    .bind (confined_invoke (hok _ rfl)) fun _ => trivial
  refine .handle (.bind hopen fun _ => h) fun e => ?_
  exact .bind (confined_stopLoading hok) fun _ => confined_invoke (hok _ rfl)

/-- Asking for the connection shows at most a message. -/
theorem confined_isConnected : NetworkManager.isConnected.Confined ok view := by
  refine .handle (.bind (confined_invoke (hok _ rfl)) fun _ => trivial) fun e => ?_
  cases e <;> trivial

/-- The connection adds no calls but dialogs. -/
theorem confined_whenConnected (h : body.Confined ok view) :
    (whenConnected body).Confined ok view := by
  refine .bind (confined_isConnected hok) fun b => ?_
  cases b with
  | true => exact h
  | false => exact confined_stopLoading hok

/-- The form adds no calls but dialogs. -/
theorem confined_whenValid (h : body.Confined ok view) (form : Option Bool) :
    (whenValid form body).Confined ok view := by
  match form with
  | none => trivial
  | some true => exact h
  | some false => exact confined_stopLoading hok

end Dialogs

/-- A dialog is no call on the favourites. -/
theorem onFavorites_of_isDialog (c : Call) (hc : c.isDialog = true) : c.onFavorites = false := by
  cases c <;> first | rfl | cases hc

theorem local_stopLoading : Local FullScreenLoader.stopLoading :=
  confined_stopLoading onFavorites_of_isDialog

theorem local_withLoader {body : App Unit} (h : Local body) (text : String)
    (kind : SnackBarKind) : Local (withLoader text kind body) :=
  confined_withLoader onFavorites_of_isDialog h text kind

theorem quiet_isConnected : Quiet NetworkManager.isConnected := by
  refine .handle (.bind (confined_invoke rfl) fun _ => trivial) fun e => ?_
  cases e <;> trivial

theorem local_whenConnected {body : App Unit} (h : Local body) : Local (whenConnected body) :=
  confined_whenConnected onFavorites_of_isDialog h

theorem local_whenValid {body : App Unit} (h : Local body) (form : Option Bool) :
    Local (whenValid form body) :=
  confined_whenValid onFavorites_of_isDialog h form

end Shapes

section Repositories

/-- Giving an exception its text makes no call. -/
theorem quiet_rethrowing (h : Quiet p) : Quiet (AuthenticationRepository.rethrowing p) :=
  .handle h fun _ => trivial

theorem quiet_userRethrowing (h : Quiet p) : Quiet (UserRepository.rethrowing p) :=
  .handle h fun _ => trivial

theorem quiet_docRef (n : CollectionName) (path : Option String) : Quiet (docRef n path) := by
  cases path with
  | some path => trivial
  | none => exact confined_invoke rfl

theorem quiet_saveUserRecord (user : UserModel) : Quiet (UserRepository.saveUserRecord user) := by
  apply quiet_userRethrowing
  refine .bind (confined_invoke rfl) fun _ => .bind (confined_invoke rfl) fun _ => ?_
  exact .bind (confined_invoke rfl) fun _ => confined_invoke rfl

theorem quiet_updateSingleField (json : Firestore.Doc) :
    Quiet (UserRepository.updateSingleField json) := by
  apply quiet_userRethrowing
  refine .bind quiet_authUser fun user => .bind (quiet_docRef _ _) fun id => ?_
  exact confined_invoke rfl

theorem quiet_uploadImage (path : String) (image : XFile) :
    Quiet (UserRepository.uploadImage path image) := by
  apply quiet_userRethrowing
  exact .bind (confined_invoke rfl) fun _ => confined_invoke rfl

theorem quiet_updateLastActive (uid : String) :
    Quiet (AuthenticationRepository.updateLastActive uid) := by
  unfold AuthenticationRepository.updateLastActive
  split
  · exact .handle (.bind (confined_invoke rfl) fun _ => confined_invoke rfl) fun _ => trivial
  · trivial

/-- The redirection changes the navigator, but closes no loader. -/
theorem unloading_screenRedirect : Unloading AuthenticationRepository.screenRedirect := by
  refine .bind quiet_authUser.unloading fun user => ?_
  cases user with
  | some user =>
    refine .bind (.unawaited (quiet_updateLastActive _).unloading) fun _ => ?_
    split
    · exact confined_invoke rfl
    · exact .bind quiet_authUser.unloading fun _ => confined_invoke rfl
  | none =>
    refine .bind (confined_modify fun w => ?_) fun _ => .bind (confined_read _) fun _ => ?_
    · unfold World.writeIfNull
      split <;> rfl
    · split <;> exact confined_invoke rfl

theorem quiet_loginWithEmailAndPassword (email password : String) :
    Quiet (AuthenticationRepository.loginWithEmailAndPassword email password) := by
  apply quiet_rethrowing
  refine .bind (confined_invoke rfl) fun _ => .bind (.handle ?_ fun _ => trivial) fun _ => trivial
  refine .bind (confined_invoke rfl) fun userDoc => .bind trivial fun _ => ?_
  split
  · exact confined_invoke rfl
  · trivial

theorem quiet_registerWithEmailAndPassword (email password : String) :
    Quiet (AuthenticationRepository.registerWithEmailAndPassword email password) :=
  quiet_rethrowing (confined_invoke rfl)

theorem quiet_sendPasswordResetEmail (email : String) :
    Quiet (AuthenticationRepository.sendPasswordResetEmail email) :=
  quiet_rethrowing (confined_invoke rfl)

theorem quiet_reAuthenticateWithEmailAndPassword (email password : String) :
    Quiet (AuthenticationRepository.reAuthenticateWithEmailAndPassword email password) := by
  refine quiet_rethrowing (.bind quiet_authUser fun user => ?_)
  cases user with
  | some user => exact confined_invoke rfl
  | none => trivial

/-- The prompt opens no page. -/
theorem quiet_signInWithGoogle : Quiet AuthenticationRepository.signInWithGoogle := by
  refine .handle (.bind (confined_invoke rfl) fun _ => .bind (confined_invoke rfl) fun account =>
    ?_) fun e => ?_
  · cases account with
    | none => trivial
    | some account =>
      refine .bind (confined_invoke rfl) fun _ => .bind (confined_invoke rfl) fun _ => ?_
      exact .bind (confined_invoke rfl) fun _ => .bind (confined_invoke rfl) fun _ => trivial
  · split <;> trivial

theorem quiet_isRegisteredEmail (email : Option String) :
    Quiet (AuthenticationRepository.isRegisteredEmail email) := by
  cases email with
  | none => trivial
  | some email => exact .handle (.bind (confined_invoke rfl) fun _ => trivial) fun _ => trivial

/-- The logout opens the login screen and no loader. -/
theorem unloading_logout : Unloading AuthenticationRepository.logout := by
  refine .handle (.bind (confined_invoke rfl) fun _ => .bind (confined_invoke rfl) fun _ => ?_)
    fun _ => trivial
  exact confined_invoke rfl

theorem quiet_deleteCurrentUser : Quiet AuthenticationRepository.deleteCurrentUser := by
  refine .bind quiet_authUser fun user => ?_
  cases user with
  | some user => exact confined_invoke rfl
  | none => trivial

/-- The removal opens no page. -/
theorem quiet_deleteAccount : Quiet AuthenticationRepository.deleteAccount := by
  refine quiet_rethrowing (.bind quiet_authUser fun user => ?_)
  cases user with
  | some user =>
    refine .bind (quiet_userRethrowing (confined_invoke rfl)) fun _ => ?_
    exact quiet_deleteCurrentUser
  | none => trivial

theorem quiet_deleteUser (uid : Option String) :
    Quiet (AuthenticationRepository.deleteUser uid) := by
  cases uid with
  | some uid => exact .handle quiet_deleteCurrentUser fun _ => trivial
  | none => trivial

theorem quiet_rememberLogin (form : LoginForm) :
    Quiet (Prog.modify (LoginController.rememberLogin form)) := by
  refine confined_modify fun w => ?_
  unfold LoginController.rememberLogin
  split <;> rfl

theorem quiet_firstProvider : Quiet UserController.firstProvider := by
  refine .bind quiet_authUser fun user => ?_
  cases user with
  | none => trivial
  | some user => rcases user with ⟨uid, email, emailVerified, _ | ⟨provider, rest⟩⟩ <;> trivial

end Repositories

section FetchUserRecord

/-- The calls that fetch the record of the user. -/
def Call.fetchesUser : Call → Bool
  | .autoId .users | .get .users _ | .now => true
  | _ => false

/-- Fetching the record changes only its controller. -/
theorem confined_fetchUserRecord {τ : Type} {ok : Call → Prop} {view : World → τ}
    (hok : ∀ c, c.fetchesUser = true → ok c)
    (hview : ∀ w u, view { w with userController := u } = view w) :
    UserController.fetchUserRecord.Confined ok view := by
  have hnow : (await .now).Confined ok view := confined_invoke (hok _ rfl)
  have hset (f : World → UserControllerState) :
      (modify fun w => { w with userController := f w } : App Unit).Confined ok view :=
    confined_modify fun w => hview w (f w)
  refine .ensure (.handle (.bind (hset _) fun _ => ?_) fun _ => ?_) (hset _)
  · refine .bind
      (.handle (.bind (confined_read _) fun user => .bind ?_ fun id => ?_) fun _ => trivial)
      fun user => hset _
    · cases user with
      | some user => trivial
      | none => exact confined_invoke (hok _ rfl)
    · refine .bind (confined_invoke (hok _ rfl)) fun snapshot => ?_
      refine .bind hnow fun _ => .bind hnow fun _ => .bind hnow fun _ => ?_
      cases snapshot <;> trivial
  · exact .bind hnow fun _ => .bind hnow fun _ => .bind hnow fun _ => hset _

/-- Reading the stored code changes nothing. -/
theorem confined_getCurrentQRCode {τ : Type} {ok : Call → Prop} {view : World → τ}
    (hok : ok (.get .qrCode "currentQRCode")) :
    QRCodeRepository.getCurrentQRCode.Confined ok view := by
  refine .bind (confined_invoke hok) fun data => ?_
  cases data <;> trivial

/-- Logging a visit changes only the record of the user and the id of the entry. -/
theorem confined_logMuseumVisit {τ : Type} {view : World → τ}
    (huser : ∀ w u, view { w with userController := u } = view w)
    (hdocument : ∀ w id, view { w with qrCodeController.documentId := id } = view w) :
    QRCodeController.logMuseumVisit.Confined (fun _ => True) view := by
  refine .handle (.bind (confined_fetchUserRecord (fun _ _ => trivial) huser) fun _ => ?_) fun _ =>
    confined_invoke trivial
  refine .bind (confined_read _) fun user => .bind (confined_invoke trivial) fun now => ?_
  refine .bind (.handle (confined_invoke trivial) fun _ => trivial) fun id => ?_
  exact confined_modify fun w => hdocument w id

end FetchUserRecord

section Operations

/-- A sign-up has nothing to do with the favourites. -/
theorem local_signup (form : SignupForm) : Local (SignupController.signup form) := by
  apply local_withLoader
  apply local_whenConnected
  apply local_whenValid
  split
  · refine .bind (quiet_registerWithEmailAndPassword _ _).local fun c => ?_
    refine .bind (quiet_saveUserRecord _).local fun _ => .bind local_stopLoading fun _ => ?_
    exact .bind (confined_invoke rfl) fun _ => confined_invoke rfl
  · exact .bind (confined_invoke rfl) fun _ => local_stopLoading

theorem local_emailAndPasswordSignIn (form : LoginForm) :
    Local (LoginController.emailAndPasswordSignIn form) := by
  apply local_withLoader
  apply local_whenConnected
  apply local_whenValid
  refine .bind (quiet_rememberLogin form).local fun _ => ?_
  refine .bind (quiet_loginWithEmailAndPassword _ _).local fun _ => ?_
  exact .bind local_stopLoading fun _ => .unawaited unloading_screenRedirect.local

/-- The sign-in with Google has nothing to do with the favourites. -/
theorem local_googleSignIn : Local LoginController.googleSignIn := by
  apply local_withLoader
  refine .bind quiet_isConnected.local fun b => ?_
  split
  · refine .bind quiet_signInWithGoogle.local fun c => ?_
    cases c with
    | none => exact local_stopLoading
    | some c =>
      refine .bind (quiet_isRegisteredEmail _).local fun b => ?_
      split
      · exact .bind local_stopLoading fun _ => .unawaited unloading_screenRedirect.local
      · refine .bind local_stopLoading fun _ => .bind (confined_invoke rfl) fun _ => ?_
        exact (quiet_deleteUser _).local
  · exact .bind local_stopLoading fun _ => confined_invoke rfl

theorem local_deleteUserAccount : Local UserController.deleteUserAccount := by
  apply local_withLoader
  refine .bind quiet_firstProvider.local fun provider => ?_
  split
  · split
    · refine .bind quiet_signInWithGoogle.local fun _ => .bind quiet_deleteAccount.local fun _ => ?_
      exact .bind local_stopLoading fun _ => confined_invoke rfl
    · split
      · exact .bind local_stopLoading fun _ => confined_invoke rfl
      · trivial
  · trivial

theorem local_reAuthenticateForDeletion (form : ReAuthForm) :
    Local (UserController.reAuthenticateEmailAndPasswordForDeletion form) := by
  apply local_withLoader
  apply local_whenConnected
  apply local_whenValid
  refine .bind (quiet_reAuthenticateWithEmailAndPassword _ _).local fun _ => ?_
  refine .bind quiet_deleteAccount.local fun _ => .bind local_stopLoading fun _ => ?_
  exact .bind (confined_invoke rfl) fun _ => confined_invoke rfl

end Operations

end AroundMuseo
