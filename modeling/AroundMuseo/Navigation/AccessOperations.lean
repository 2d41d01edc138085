import AroundMuseo.Core.Informed
import AroundMuseo.Museum.Access
import AroundMuseo.Navigation.Careful
import AroundMuseo.Navigation.VerifyRedirect

/-!
# The operations that navigate

What each segment of them guarantees, whatever state it finds. A QR check and the exit of the AR
screen open a gated page and ask nobody. What closes a loader may uncover one, and so may going
back. The tail of a deletion that has removed the account uncovers none, because it ends with the
login screen alone.
-/

namespace AroundMuseo

open Async ArContentCameraScreen

/-- The operations of the app that navigate, and the verification of an email. -/
inductive AccessOperation where
  /-- At the start of the app, or by the button of the success screen. -/
  | screenRedirect
  | emailAndPasswordSignIn (form : LoginForm)
  | googleSignIn
  | signup (form : SignupForm)
  /-- The link in the mail is followed. -/
  | verify (uid : String)
  /-- A `VerifyEmailScreen` is built, and its timer starts. -/
  | create (screen : Nat)
  | tick (screen : Nat)
  /-- The button of a `VerifyEmailScreen`. -/
  | press (screen : Nat)
  | logout
  | deleteUserAccount
  | reAuthenticateForDeletion (form : ReAuthForm)
  /-- A code was scanned. -/
  | checkQRCode (scannedCode : String)
  /-- The AR screen gets an event. -/
  | arInput (i : Input)
  /-- A page that is not gated is opened by hand. -/
  | visit (screen : { screen : Screen // screen.gated = false })
  /-- The user goes back from a page. -/
  | back
  deriving DecidableEq

/-- The back button leaves the current page: not the AR screen, which has a handler. -/
def CanGoBack (w : World) : Bool :=
  match w.nav.routes with
  | (_, .page screen) :: _ :: _ => screen ≠ .arContentCamera
  | _ => false

/-- The handler of an event of the AR screen, if the event can happen. -/
def arHandler (i : Input) : App Unit := do
  let w ← Prog.read id
  if i.Enabled w then (i.handle {} w).2

namespace AccessOperation

def body : AccessOperation → App Unit
  | screenRedirect => AuthenticationRepository.screenRedirect
  | emailAndPasswordSignIn form =>
    whenEnabled (OnPage .login) (LoginController.emailAndPasswordSignIn form)
  | googleSignIn => whenEnabled (OnPage .login) LoginController.googleSignIn
  | signup form => SignupController.signup form
  | verify uid => Prog.modify (World.verifyAccount uid)
  | create screen =>
    whenEnabled (OnVerifyEmail screen) (VerifyEmailController.setTimerForAutoRedirect screen)
  | tick screen =>
    whenEnabled (screen ∈ ·.verifyEmailTimers) (VerifyEmailController.timerCallback screen)
  | press screen =>
    whenEnabled (OnVerifyEmail screen) VerifyEmailController.checkEmailVerificationStatus
  | logout => AuthenticationRepository.logout
  | deleteUserAccount => UserController.deleteUserAccount
  | reAuthenticateForDeletion form => whenEnabled (OnPage .reAuthLoginFormForDeletion)
      (UserController.reAuthenticateEmailAndPasswordForDeletion form)
  | checkQRCode scannedCode =>
    whenEnabled (OnPage .qrCodeScanner) (QRCodeController.checkQRCode scannedCode)
  | arInput i => arHandler i
  | visit screen => await (.getTo screen)
  | back => whenEnabled CanGoBack pop

/-- A scanned code is checked. -/
def checks : AccessOperation → Bool
  | checkQRCode _ => true
  | _ => false

/-- An account is removed. -/
def deletes : AccessOperation → Bool
  | deleteUserAccount | reAuthenticateForDeletion _ => true
  | _ => false

/-- A sign-in, a sign-up or a deletion, which shows a loader. -/
def loads : AccessOperation → Bool
  | emailAndPasswordSignIn _ | googleSignIn | signup _ => true
  | op => op.deletes

/-- An event of the AR screen, or the user goes back. -/
def leaves : AccessOperation → Bool
  | arInput _ | back => true
  | _ => false

/-- The operations that remove routes. -/
def pops (op : AccessOperation) : Bool := op.loads || op.leaves

/-- The operations that open a gated page and ask nobody. -/
def unasked : AccessOperation → Bool
  | checkQRCode _ | arInput .confirm => true
  | _ => false

end AccessOperation

section Checked

/-- The success screen is not gated. -/
theorem keeps_redirectIfVerified (screen : Nat) :
    (VerifyEmailController.redirectIfVerified screen).Keeps overlapping (Careful false) := by
  apply keeps_of_tame
  exact confined_redirectIfVerified screen ⟨rfl, fun h => by cases h⟩

/-- The loader goes before the redirection asks who is signed in. -/
theorem keeps_emailAndPasswordSignIn (form : LoginForm) :
    (LoginController.emailAndPasswordSignIn form).Keeps overlapping (Careful true) := by
  apply keeps_withLoader
  apply keeps_whenConnected
  apply keeps_whenValid
  apply (keeps_quiet (quiet_rememberLogin form)).bind
  intro _
  apply (keeps_quiet (quiet_loginWithEmailAndPassword _ _)).bind
  intro _
  exact keeps_stopLoading.bind fun _ => keeps_screenRedirect.unawaited

/-- A registered account is redirected, another one is sent away and deleted. -/
theorem keeps_redirectOrDelete (userCredential : UserCredential) :
    (LoginController.redirectOrDelete userCredential).Keeps overlapping (Careful true) := by
  apply (keeps_quiet (quiet_isRegisteredEmail _)).bind
  intro registered
  split
  · exact keeps_stopLoading.bind fun _ => keeps_screenRedirect.unawaited
  · apply keeps_stopLoading.bind
    intro _
    exact (keeps_tame rfl rfl).bind fun _ => keeps_quiet (quiet_deleteUser _)

/-- A Google sign-in, cancelled or not. -/
theorem keeps_googleSignIn : LoginController.googleSignIn.Keeps overlapping (Careful true) := by
  apply keeps_withLoader
  apply (keeps_quiet quiet_isConnected).bind
  intro connected
  split
  · apply (keeps_quiet quiet_signInWithGoogle).bind
    intro userCredential
    cases userCredential with
    | none => exact keeps_stopLoading
    | some userCredential => exact keeps_redirectOrDelete userCredential
  · exact keeps_stopLoading.bind fun _ => keeps_tame rfl rfl

/-- A sign-up ends on the screen that waits for the verification. -/
theorem keeps_signup (form : SignupForm) :
    (SignupController.signup form).Keeps overlapping (Careful true) := by
  apply keeps_withLoader
  apply keeps_whenConnected
  apply keeps_whenValid
  split
  · apply (keeps_quiet (quiet_registerWithEmailAndPassword _ _)).bind
    intro userCredential
    apply (keeps_quiet (quiet_saveUserRecord _)).bind
    intro _
    apply keeps_stopLoading.bind
    intro _
    exact (keeps_tame rfl rfl).bind fun _ => keeps_tame rfl rfl
  · exact (keeps_tame rfl rfl).bind fun _ => keeps_stopLoading

/-- Logging out opens the login screen. -/
theorem keeps_logout : AuthenticationRepository.logout.Keeps overlapping (Careful false) := by
  refine .handle (.bind (keeps_tame rfl rfl) fun _ => ?_) fun _ => Prog.keeps_done _
  exact (keeps_tame rfl rfl).bind fun _ => keeps_tame rfl rfl

/-- A deletion from the profile screen, with the prompt of Google or on to the re-authentication. -/
theorem keeps_deleteUserAccount :
    UserController.deleteUserAccount.Keeps overlapping (Careful true) := by
  apply keeps_withLoader
  apply (keeps_quiet quiet_firstProvider).bind
  intro provider
  split
  · split
    · apply (keeps_quiet quiet_signInWithGoogle).bind
      intro _
      apply (keeps_quiet quiet_deleteAccount).bind
      intro _
      exact keeps_stopLoading.bind fun _ => keeps_tame rfl rfl
    · split
      · exact keeps_stopLoading.bind fun _ => keeps_tame rfl rfl
      · exact Prog.keeps_done _
  · exact Prog.keeps_done _

/-- A deletion after the re-authentication. -/
theorem keeps_reAuthenticateForDeletion (form : ReAuthForm) :
    (UserController.reAuthenticateEmailAndPasswordForDeletion form).Keeps overlapping
      (Careful true) := by
  apply keeps_withLoader
  apply keeps_whenConnected
  apply keeps_whenValid
  apply (keeps_quiet (quiet_reAuthenticateWithEmailAndPassword _ _)).bind
  intro _
  apply (keeps_quiet quiet_deleteAccount).bind
  intro _
  apply keeps_stopLoading.bind
  intro _
  exact (keeps_tame rfl rfl).bind fun _ => keeps_tame rfl rfl

/-- The top route goes. -/
theorem keeps_pop : pop.Keeps overlapping (Careful true) := Prog.keeps_modify fun _ _ hw => hw.pop

/-- All events of the AR screen but the exit pop a route or show the dialog. -/
theorem keeps_handle {i : Input} (hi : i ≠ .confirm) (s : State) (w : World) :
    (i.handle s w).2.Keeps overlapping (Careful true) := by
  have hdialog : onWillPop.Keeps overlapping (Careful true) := by
    apply Prog.keeps_modify
    intro w₀ w hw
    exact hw.push rfl
  cases i with
  | messageFromUnity data =>
    simp only [Input.handle, onMessageFromUnity]
    split
    · exact Prog.keeps_done _
    · split
      · exact keeps_pop
      · split <;> exact Prog.keeps_done _
  | back =>
    simp only [Input.handle]
    split
    · exact keeps_pop
    · exact hdialog
  | confirm => exact absurd rfl hi
  | cancel => exact keeps_pop

/-- The same, if the event can happen. -/
theorem keeps_arHandler {i : Input} (hi : i ≠ .confirm) :
    (arHandler i).Keeps overlapping (Careful true) := by
  apply (Prog.keeps_read _).bind
  intro w
  split
  · exact keeps_handle hi {} w
  · exact Prog.keeps_done _

/-- What asks who is signed in, or opens no gated page. -/
theorem keeps_body {op : AccessOperation} (hop : op.unasked = false) :
    op.body.Keeps overlapping (Careful op.pops) := by
  cases op with
  | screenRedirect => exact keeps_screenRedirect
  | emailAndPasswordSignIn form => exact keeps_whenEnabled _ (keeps_emailAndPasswordSignIn form)
  | googleSignIn => exact keeps_whenEnabled _ keeps_googleSignIn
  | signup form => exact keeps_signup form
  | verify uid => exact Prog.keeps_modify fun _ _ hw => hw.of_view rfl
  | create screen => exact keeps_whenEnabled _ (Prog.keeps_modify fun _ _ hw => hw.of_view rfl)
  | tick screen =>
    apply keeps_whenEnabled
    exact (keeps_tame rfl rfl).bind fun _ => keeps_redirectIfVerified screen
  | press screen =>
    apply keeps_whenEnabled
    apply keeps_of_tame
    exact confined_checkEmailVerificationStatus ⟨rfl, fun h => by cases h⟩
  | logout => exact keeps_logout
  | deleteUserAccount => exact keeps_deleteUserAccount
  | reAuthenticateForDeletion form =>
    exact keeps_whenEnabled _ (keeps_reAuthenticateForDeletion form)
  | checkQRCode => cases hop
  | arInput i =>
    apply keeps_arHandler
    rintro rfl
    cases hop
  | visit screen => exact keeps_tame screen.2 rfl
  | back => exact keeps_whenEnabled _ keeps_pop

end Checked

section Unasked

variable {α : Type} {p : App α}

/-- No synchronous call signs anybody in or out. -/
theorem sameUser_call {c : Call} (ha : overlapping.awaited c = false) {w w' : World} {v : Reply c}
    (heffect : overlapping.effect c w v = some w') : w'.currentUser = w.currentUser := by
  by_cases hn : c.navigates = false
  · exact congrArg Prod.snd (sessionView_of_sync ha hn heffect)
  rcases perform_of_overlapping (r := .ok v) heffect with heffect | rfl
  swap
  · rfl
  cases c with
  | openLoadingDialog | stopLoading =>
    obtain ⟨-, hw⟩ := Option.ite_none_right_eq_some.mp heffect
    cases hw
    rfl
  | getTo | getOff | getOffAll =>
    cases heffect
    rfl
  | _ => exact absurd rfl hn

/-- The user stays the same in every segment. -/
theorem keeps_sameUser {ok : Call → Prop} (h : p.Confined ok World.sessionView) :
    p.Keeps overlapping SameUser := by
  apply h.keeps
  · exact fun _ => rfl
  · intro w₀ w w' hw hview
    have huser : w'.currentUser = w.currentUser := congrArg Prod.snd hview
    exact huser.trans hw
  · intro c _ ha w₀ w v w' hw heffect
    exact (sameUser_call ha heffect).trans hw

/-- A check changes what is shown by its calls only. -/
theorem confined_checkQRCode (scannedCode : String) :
    (QRCodeController.checkQRCode scannedCode).Confined (fun _ => True) World.sessionView := by
  refine .handle (.bind (Prog.confined_modify fun _ => rfl) fun _ => ?_)
    fun _ => Prog.confined_invoke trivial
  refine .bind (confined_getCurrentQRCode trivial) fun code => ?_
  split
  · refine .bind (Prog.confined_invoke trivial) fun _ => .bind ?_ fun _ =>
      Prog.confined_invoke trivial
    exact confined_logMuseumVisit (fun _ _ => rfl) fun _ _ => rfl
  · exact Prog.confined_invoke trivial

/-- The exit of the AR screen waits for nothing. -/
theorem confined_onConfirm :
    onConfirm.Confined (overlapping.awaited · = false) World.sessionView := by
  refine .bind (.unawaited ?_) fun _ => Prog.confined_invoke rfl
  refine .handle (.bind (Prog.confined_invoke rfl) fun _ => ?_) fun _ => Prog.confined_invoke rfl
  apply Prog.Confined.bind (Prog.confined_read _)
  intro _
  exact .handle (Prog.confined_invoke rfl) fun _ => trivial

/-- What asks nobody keeps the user. -/
theorem sameUser_body {op : AccessOperation} (hop : op.unasked = true) :
    op.body.Keeps overlapping SameUser := by
  cases op with
  | checkQRCode scannedCode =>
    exact keeps_sameUser (confined_whenEnabled (confined_checkQRCode scannedCode))
  | arInput i =>
    cases i with
    | confirm =>
      apply (Prog.keeps_read _).bind
      intro w
      split
      · exact keeps_sameUser confined_onConfirm
      · exact Prog.keeps_done _
    | _ => cases hop
  | _ => cases hop

end Unasked

section Leaving

/-- The handlers of the AR screen wait for nothing. -/
theorem confined_handle (i : Input) (s : State) (w : World) : (i.handle s w).2.Confined
    (overlapping.awaited · = false) fun _ => () := by
  cases i with
  | messageFromUnity data =>
    simp only [Input.handle, onMessageFromUnity]
    split
    · trivial
    · split
      · exact Prog.confined_modify fun _ => rfl
      · split <;> trivial
  | back =>
    simp only [Input.handle]
    split <;> exact Prog.confined_modify fun _ => rfl
  | confirm => exact confined_onConfirm.comp fun _ => ()
  | cancel => exact Prog.confined_modify fun _ => rfl

/-- A handler of the AR screen, or of the back button, is over in one segment. -/
theorem confined_leaves {op : AccessOperation} (hop : op.leaves = true) :
    op.body.Confined (overlapping.awaited · = false) fun _ => () := by
  cases op with
  | arInput i =>
    apply Prog.Confined.bind (Prog.confined_read _)
    intro w
    split
    · exact confined_handle i {} w
    · trivial
  | back => exact confined_whenEnabled (Prog.confined_modify fun _ => rfl)
  | _ => cases hop

end Leaving

section Deletions

/-- The answer tells whether the account is gone, or `gone` already. -/
def learnDeletion (gone : Bool) (c : Call) (r : Except Exn (Reply c)) : Bool :=
  gone || (c.deletesAccount && r.isOk)

/-- A deletion may uncover a gated page until the account is gone. -/
def CarefulOnce (gone : Bool) : World → World → Prop := Careful (!gone)

/-- A part of a deletion has ended. What throws has not removed the account. -/
def DeletionEnds {α : Type} (gone : Bool) (r : Except Exn α) (w₀ w : World) : Prop :=
  match r with
  | .ok _ => CarefulOnce gone w₀ w
  | .error _ => gone = false ∧ Careful true w₀ w

/-- The segments of a part of a deletion, which remembers whether the account is gone. -/
def Deletes {α : Type} (p : App α) : Prop :=
  ∀ w₀ w, Careful true w₀ w →
    p.Informed overlapping learnDeletion CarefulOnce DeletionEnds false w₀ w

/-- The program deletes no account. -/
abbrev DeletesNone {α : Type} (p : App α) : Prop :=
  p.Confined (fun c => c.deletesAccount = false) fun _ => ()

variable {α β : Type} {p : App α} {f : α → App β} {body : App Unit} {w₀ w : World}

/-- What removes no account remembers none. -/
theorem informed_keeps (hp : DeletesNone p)
    (hkeeps : p.Keeps overlapping (Careful true)) (hw : Careful true w₀ w) :
    p.Informed overlapping learnDeletion CarefulOnce
      (fun gone _ w₀ w => gone = false ∧ Careful true w₀ w) false w₀ w := by
  have hcareful : p.Keeps overlapping (CarefulOnce false) := hkeeps
  refine hcareful.informed hp ?_ hw
  intro c r hc
  simp [learnDeletion, hc]

/-- First something that removes no account. -/
theorem deletes_bind (hp : DeletesNone p)
    (hkeeps : p.Keeps overlapping (Careful true)) (hf : ∀ a, Deletes (f a)) :
    Deletes (p >>= f) := by
  intro w₀ w hw
  apply Prog.informed_bind
  refine Prog.informed_mono (informed_keeps hp hkeeps hw) ?_
  rintro gone r w₁ w' ⟨rfl, hw'⟩
  cases r with
  | error e => exact ⟨rfl, hw'⟩
  | ok a => exact hf a w₁ w' hw'

/-- Nothing but something that removes no account. -/
theorem deletes_keeps (hp : DeletesNone p)
    (hkeeps : p.Keeps overlapping (Careful true)) : Deletes p := by
  intro w₀ w hw
  refine Prog.informed_mono (informed_keeps hp hkeeps hw) ?_
  rintro gone r w₁ w' ⟨rfl, hw'⟩
  cases r with
  | error e => exact ⟨rfl, hw'⟩
  | ok a => exact hw'

/-- A dialog removes no account. -/
theorem deletesAccount_of_isDialog (c : Call) (hc : c.isDialog = true) :
    c.deletesAccount = false := by
  cases c <;> first | rfl | cases hc

/-- The loader is closed when the deletion throws, which then has removed no account. -/
theorem deletes_withLoader (hbody : Deletes body) (text : String) (kind : SnackBarKind) :
    ∀ w₀ w, Careful true w₀ w → (withLoader text kind body).Informed overlapping learnDeletion
      CarefulOnce (fun gone _ => CarefulOnce gone) false w₀ w := by
  intro w₀ w hw
  have hopen : DeletesNone (FullScreenLoader.openLoadingDialog text docerAnimation) :=
    .bind (Prog.confined_invoke rfl) fun _ => trivial
  have hclose (e : Exn) : DeletesNone (do
      FullScreenLoader.stopLoading
      await (.snackBar kind "Oh Snap!" e.toText)) :=
    .bind (confined_stopLoading deletesAccount_of_isDialog) fun _ => Prog.confined_invoke rfl
  apply Prog.informed_handle
  refine Prog.informed_mono
    (deletes_bind hopen (keeps_openLoadingDialog _ _) (fun _ => hbody) w₀ w hw) ?_
  intro gone r w₁ w' hends
  cases r with
  | ok a => exact hends
  | error e =>
    obtain ⟨rfl, hw'⟩ := hends
    refine Prog.informed_mono (informed_keeps (hclose e)
      (keeps_stopLoading.bind fun _ => keeps_tame rfl rfl) hw') ?_
    rintro gone r w₂ w'' ⟨rfl, hw''⟩
    exact hw''

/-- Asking who is signed in goes on with the answer of that moment. -/
theorem informed_authUser_bind {gone : Bool} {f : Option User → App α}
    {Q : Bool → Except Exn α → World → World → Prop}
    (h : (f w.currentUser).Informed overlapping learnDeletion CarefulOnce Q gone w₀ w) :
    (authUser >>= f).Informed overlapping learnDeletion CarefulOnce Q gone w₀ w :=
  Prog.informed_bind h

/-- The removal itself: the account is gone exactly if that call is answered well. -/
theorem informed_deleteAccount (hw : Careful true w₀ w) :
    AuthenticationRepository.deleteAccount.Informed overlapping learnDeletion CarefulOnce
      (fun gone r w₀ w => Careful true w₀ w ∧ (r = .ok () ∨ gone = false)) false w₀ w := by
  have hdoc (uid : String) : DeletesNone (UserRepository.removeUserRecord uid) :=
    .handle (Prog.confined_invoke rfl) fun _ => trivial
  have hdocQuiet (uid : String) : Quiet (UserRepository.removeUserRecord uid) :=
    quiet_userRethrowing (Prog.confined_invoke rfl)
  apply Prog.informed_handle
  apply informed_authUser_bind
  cases w.currentUser with
  | none => exact ⟨hw, .inr rfl⟩
  | some user =>
    apply Prog.informed_bind
    refine Prog.informed_mono (informed_keeps (hdoc user.uid) (keeps_quiet (hdocQuiet _)) hw) ?_
    rintro gone r w₁ w' ⟨rfl, hw'⟩
    cases r with
    | error e => exact ⟨hw', .inr rfl⟩
    | ok _ =>
      apply informed_authUser_bind
      cases w'.currentUser with
      | none => exact ⟨hw', .inl rfl⟩
      | some user =>
        have hcareful : CarefulOnce false w₁ w' := hw'
        refine Prog.informed_invoke rfl hcareful fun r w'' => ?_
        cases r with
        | ok v => exact ⟨Careful.refl true w'', .inl rfl⟩
        | error e => exact ⟨Careful.refl true w'', .inr rfl⟩

/-- A synchronous call that opens no gated page goes on in the same segment. -/
theorem informed_tame {c : Call} {gone : Bool} {f : Reply c → App α}
    {Q : Bool → Except Exn α → World → World → Prop} (hc : c.Tame true)
    (ha : overlapping.awaited c = false) (hw : Careful true w₀ w)
    (h : ∀ v w', Careful true w₀ w' →
      (f v).Informed overlapping learnDeletion CarefulOnce Q gone w₀ w') :
    (await c >>= f).Informed overlapping learnDeletion CarefulOnce Q gone w₀ w := by
  apply Prog.informed_bind
  apply Prog.informed_invoke_sync ha
  intro v w' heffect
  exact h v w' (careful_call hc ha w₀ w v w' hw heffect)

/-- The login screen is all that is left. -/
theorem informed_offAll {gone : Bool} (hw : Careful true w₀ w) :
    (await (.getOffAll .login)).Informed overlapping learnDeletion CarefulOnce DeletionEnds gone
      w₀ w := by
  apply Prog.informed_invoke_sync rfl
  intro v w' heffect
  cases heffect
  exact hw.offAll fun hgated => by cases hgated

/-- What follows the removal uncovers nothing, so it need not know whether the account is gone. -/
theorem deletes_deleteAccount {tail : App Unit} (htail : ∀ gone w₀ w, Careful true w₀ w →
      tail.Informed overlapping learnDeletion CarefulOnce DeletionEnds gone w₀ w) :
    Deletes (AuthenticationRepository.deleteAccount >>= fun _ => tail) := by
  intro w₀ w hw
  apply Prog.informed_bind
  refine Prog.informed_mono (informed_deleteAccount hw) ?_
  rintro gone r w₁ w' ⟨hw', hr⟩
  cases r with
  | ok _ => exact htail gone w₁ w' hw'
  | error e =>
    rcases hr with hok | rfl
    · cases hok
    · exact ⟨rfl, hw'⟩

/-- Without a connection nothing is removed. -/
theorem deletes_whenConnected (hbody : Deletes body) : Deletes (whenConnected body) := by
  apply deletes_bind (confined_isConnected deletesAccount_of_isDialog)
    (keeps_quiet quiet_isConnected)
  intro connected
  cases connected with
  | true => exact hbody
  | false =>
    exact deletes_keeps (confined_stopLoading deletesAccount_of_isDialog)
      keeps_stopLoading

/-- With a form that is not accepted nothing is removed. -/
theorem deletes_whenValid (hbody : Deletes body) (form : Option Bool) :
    Deletes (whenValid form body) := by
  match form with
  | none =>
    exact deletes_keeps trivial (Prog.keeps_done (.error Exn.nullCheck))
  | some true => exact hbody
  | some false =>
    exact deletes_keeps (confined_stopLoading deletesAccount_of_isDialog)
      keeps_stopLoading

/-- The prompt of Google removes no account. -/
theorem deletesNone_signInWithGoogle : DeletesNone AuthenticationRepository.signInWithGoogle := by
  refine .handle (.bind (Prog.confined_invoke rfl) fun _ => .bind (Prog.confined_invoke rfl)
    fun account => ?_) fun e => ?_
  · cases account with
    | none => trivial
    | some account =>
      refine .bind (Prog.confined_invoke rfl) fun _ => .bind (Prog.confined_invoke rfl) fun _ => ?_
      refine .bind (Prog.confined_invoke rfl) fun _ => .bind (Prog.confined_invoke rfl) fun _ => ?_
      trivial
  · split <;> trivial

/-- The first provider is read off the state. -/
theorem deletesNone_firstProvider : DeletesNone UserController.firstProvider := by
  refine .bind (Prog.confined_read _) fun user => ?_
  cases user with
  | none => trivial
  | some user => rcases user with ⟨uid, email, emailVerified, _ | ⟨provider, rest⟩⟩ <;> trivial

/-- A deletion from the profile screen. -/
theorem informed_deleteUserAccount : ∀ w₀ w, Careful true w₀ w →
    UserController.deleteUserAccount.Informed overlapping learnDeletion CarefulOnce
      (fun gone _ => CarefulOnce gone) false w₀ w := by
  apply deletes_withLoader
  apply deletes_bind deletesNone_firstProvider (keeps_quiet quiet_firstProvider)
  intro provider
  split
  · split
    · apply deletes_bind deletesNone_signInWithGoogle (keeps_quiet quiet_signInWithGoogle)
      intro _
      apply deletes_deleteAccount
      intro gone w₀ w hw
      apply Prog.informed_bind
      refine informed_tame ⟨rfl, fun _ => rfl⟩ rfl hw fun v w' hw' => ?_
      exact informed_offAll hw'
    · split
      · have hto : DeletesNone (do
            FullScreenLoader.stopLoading
            await (.getTo .reAuthLoginFormForDeletion)) :=
          .bind (confined_stopLoading deletesAccount_of_isDialog) fun _ => Prog.confined_invoke rfl
        exact deletes_keeps hto (keeps_stopLoading.bind fun _ => keeps_tame rfl rfl)
      · exact fun _ _ hw => hw
  · exact fun _ _ hw => hw

/-- A deletion after the re-authentication. -/
theorem informed_reAuthenticateForDeletion (form : ReAuthForm) : ∀ w₀ w, Careful true w₀ w →
    (UserController.reAuthenticateEmailAndPasswordForDeletion form).Informed overlapping
      learnDeletion CarefulOnce (fun gone _ => CarefulOnce gone) false w₀ w := by
  have hreauth (email password : String) : DeletesNone
      (AuthenticationRepository.reAuthenticateWithEmailAndPassword email password) := by
    refine .handle (.bind (Prog.confined_read _) fun user => ?_) fun _ => trivial
    cases user with
    | some user => exact Prog.confined_invoke rfl
    | none => trivial
  apply deletes_withLoader
  apply deletes_whenConnected
  apply deletes_whenValid
  apply deletes_bind (hreauth _ _) (keeps_quiet (quiet_reAuthenticateWithEmailAndPassword _ _))
  intro _
  apply deletes_deleteAccount
  intro gone w₀ w hw
  apply Prog.informed_bind
  refine informed_tame ⟨rfl, fun _ => rfl⟩ rfl hw fun v w' hw' => ?_
  refine informed_tame ⟨rfl, fun h => by cases h⟩ rfl hw' fun v w'' hw'' => ?_
  exact informed_offAll hw''

/-- What is started of a deletion has removed no account. -/
theorem informed_body {op : AccessOperation} (hop : op.deletes = true) : ∀ w₀ w,
    Careful true w₀ w → op.body.Informed overlapping learnDeletion CarefulOnce
      (fun gone _ => CarefulOnce gone) false w₀ w := by
  intro w₀ w hw
  cases op with
  | deleteUserAccount => exact informed_deleteUserAccount w₀ w hw
  | reAuthenticateForDeletion form =>
    show Prog.Informed _ _ _ ((if OnPage .reAuthLoginFormForDeletion w = true then
      UserController.reAuthenticateEmailAndPasswordForDeletion form else pure ())) _ _ _ _
    split
    · exact informed_reAuthenticateForDeletion form w₀ w hw
    · exact hw
  | _ => cases hop

end Deletions

end AroundMuseo
