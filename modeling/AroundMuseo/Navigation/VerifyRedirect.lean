import AroundMuseo.Controllers.VerifyEmailController
import AroundMuseo.Platform.Overlapping

/-!
# The redirection after the verification of an email

The timer of a `VerifyEmailScreen` and its button lead to the success screen. The timer is
stopped by a redirection of its own only: one that goes on when the screen was closed leads
whoever is signed in then to the success screen. So does a callback that waits for its reload
while the success screen is left.
-/

namespace AroundMuseo

open Async VerifyEmailController

/-- The operations around the verification. Those of a `VerifyEmailScreen` are told apart by
its route. -/
inductive VerifyOperation where
  /-- The screen is built, with a new controller. -/
  | create (screen : Nat)
  | tick (screen : Nat)
  /-- The button that asks for the status. -/
  | press (screen : Nat)
  /-- The close icon. -/
  | close (screen : Nat)
  | resend
  | emailAndPasswordSignIn (form : LoginForm)
  | googleSignIn
  /-- The button of the success screen. -/
  | screenRedirect
  /-- The link in the mail is followed. -/
  | verify (uid : String)
  deriving DecidableEq

/-- The route is the current one and shows a `VerifyEmailScreen`. -/
def OnVerifyEmail (screen : Nat) (w : World) : Bool :=
  match w.nav.top with
  | some (k, .page (.verifyEmail _)) => k = screen
  | _ => false

/-- The screen is the current one. -/
def OnPage (screen : Screen) (w : World) : Bool := w.nav.top.map Prod.snd = some (.page screen)

/-- The email of an account is verified. -/
def World.verifyAccount (uid : String) (w : World) : World :=
  { w with accounts := match w.accounts.lookup uid with
      | some a => w.accounts.insert uid { a with emailVerified := true }
      | none => w.accounts }

namespace VerifyOperation

def body : VerifyOperation → App Unit
  | create screen => whenEnabled (OnVerifyEmail screen) (setTimerForAutoRedirect screen)
  | tick screen => whenEnabled (screen ∈ ·.verifyEmailTimers) (timerCallback screen)
  | press screen => whenEnabled (OnVerifyEmail screen) checkEmailVerificationStatus
  | close screen => whenEnabled (OnVerifyEmail screen) AuthenticationRepository.logout
  | resend => sendEmailVerification
  | emailAndPasswordSignIn form =>
    whenEnabled (OnPage .login) (LoginController.emailAndPasswordSignIn form)
  | googleSignIn => whenEnabled (OnPage .login) LoginController.googleSignIn
  | screenRedirect => whenEnabled (OnPage .success) AuthenticationRepository.screenRedirect
  | verify uid => Prog.modify (World.verifyAccount uid)

end VerifyOperation

/-- The redirections by the controller of a screen. One on the success screen is dropped. -/
def redirects (screen : Nat) (ms : NamedHistory VerifyOperation) :
    List (Async.Event (NamedReply VerifyOperation Reply) World Exn) :=
  (answers ms).filter fun ev =>
    (ev.call = (.tick screen, .getOff .success) ∨ ev.call = (.press screen, .getOff .success)) ∧
      ShowsRoute .success ev.state.nav = false

theorem redirects_append (screen : Nat) (ms ms' : NamedHistory VerifyOperation) :
    redirects screen (ms ++ ms') = redirects screen ms ++ redirects screen ms' := by
  rw [redirects, answers_append, List.filter_append]
  rfl

/-- When a redirection is right: the screen is the current one and its user is signed in. -/
def RightRedirect (screen : Nat) (uid : String)
    (ev : Async.Event (NamedReply VerifyOperation Reply) World Exn) : Prop :=
  OnVerifyEmail screen ev.state = true ∧ ∃ u, ev.state.currentUser = some u ∧ u.uid = uid

/-- The timer of a screen is active, or one of its callbacks has not come to its end. -/
def Pending (screen : Nat) (c : NamedPool VerifyOperation) : Prop :=
  screen ∈ c.state.verifyEmailTimers ∨ ∃ x ∈ c.tasks, x.1 = .tick screen ∧ x.2.isFinished = false

/-- The timer of the screen is active. -/
def TimerActive (screen : Nat) (w : World) : Bool := screen ∈ w.verifyEmailTimers

/-- How a screen is left while its timer or a callback is pending. -/
structure LeftInTime (screen : Nat) (c : NamedPool VerifyOperation)
    (_ : NamedHistory VerifyOperation) (c' : NamedPool VerifyOperation) : Prop where
  /-- Neither the screen nor the success screen is closed with a verified user signed in; the
  one may only lead to the other. -/
  closed : Pending screen c' → c'.state.Verified →
    OnVerifyEmail screen c.state = true ∨ ShowsRoute .success c.state.nav = true →
      c'.state.page = c.state.page ∨ ShowsRoute .success c'.state.nav = true
  /-- After the screen was left no verified user is signed in. -/
  signedIn : Pending screen c' → OnVerifyEmail screen c.state = false → c'.state.Verified →
    c.state.Verified

instance (screen : Nat) (c : NamedPool VerifyOperation) : Decidable (Pending screen c) :=
  inferInstanceAs (Decidable (_ ∨ ∃ x ∈ c.tasks, _))

instance (screen : Nat) (c : NamedPool VerifyOperation) (ms : NamedHistory VerifyOperation)
    (c' : NamedPool VerifyOperation) : Decidable (LeftInTime screen c ms c') :=
  decidable_of_iff
    ((Pending screen c' → c'.state.Verified →
      OnVerifyEmail screen c.state = true ∨ ShowsRoute .success c.state.nav = true →
        c'.state.page = c.state.page ∨ ShowsRoute .success c'.state.nav = true) ∧
      (Pending screen c' → OnVerifyEmail screen c.state = false → c'.state.Verified →
        c.state.Verified))
    ⟨fun h => ⟨h.1, h.2⟩, fun h => ⟨h.closed, h.signedIn⟩⟩

section View

/-- The calls that are made while a `VerifyEmailScreen` is the current screen. -/
def Call.tame : Call → Bool
  | .reload | .sendEmailVerification _ | .googleSignOut | .authSignOut | .snackBar _ _ _
  | .getOff .success | .getOffAll .login => true
  | _ => false

variable {ok : Call → Prop}

theorem confined_redirectIfVerified (screen : Nat) (h : ok (.getOff .success)) :
    (redirectIfVerified screen).Confined ok World.sessionView := by
  refine .bind (Prog.confined_read _) fun user => ?_
  split
  · exact .bind (Prog.confined_modify fun _ => rfl) fun _ => Prog.confined_invoke h
  · trivial

theorem confined_checkEmailVerificationStatus (h : ok (.getOff .success)) :
    checkEmailVerificationStatus.Confined ok World.sessionView := by
  refine .bind (Prog.confined_read _) fun user => ?_
  cases user with
  | none => trivial
  | some user =>
    dsimp only
    split
    · exact Prog.confined_invoke h
    · trivial

theorem confined_sendEmailVerification (hsend : ∀ uid, ok (.sendEmailVerification uid))
    (hshow : ∀ kind title message, ok (.snackBar kind title message)) :
    sendEmailVerification.Confined ok World.sessionView := by
  refine .handle (.bind (.handle (.bind (Prog.confined_read _) fun user => ?_) fun _ => trivial)
    fun _ => Prog.confined_invoke (hshow _ _ _)) fun _ => Prog.confined_invoke (hshow _ _ _)
  cases user with
  | none => trivial
  | some user => exact Prog.confined_invoke (hsend _)

end View

namespace VerifyOperation

theorem confined_body (op : VerifyOperation) :
    op.body.Confined (fun _ => True) World.sessionView := by
  cases op with
  | create screen => exact confined_whenEnabled (Prog.confined_modify fun _ => rfl)
  | tick screen =>
    apply confined_whenEnabled
    exact .bind (Prog.confined_invoke trivial) fun _ => confined_redirectIfVerified _ trivial
  | press screen => exact confined_whenEnabled (confined_checkEmailVerificationStatus trivial)
  | close screen => exact confined_whenEnabled unloading_logout.local.sessionView
  | resend => exact confined_sendEmailVerification (fun _ => trivial) fun _ _ _ => trivial
  | emailAndPasswordSignIn form =>
    exact confined_whenEnabled (local_emailAndPasswordSignIn form).sessionView
  | googleSignIn => exact confined_whenEnabled local_googleSignIn.sessionView
  | screenRedirect => exact confined_whenEnabled unloading_screenRedirect.local.sessionView
  | verify uid => exact Prog.confined_modify fun _ => rfl

/-- Only the controller of a screen starts and stops its timer. -/
theorem timers_body {op : VerifyOperation} {screen : Nat} (hcreate : op ≠ .create screen)
    (htick : op ≠ .tick screen) : op.body.Confined (fun _ => True) (TimerActive screen) := by
  have hlocal {p : App Unit} (h : Local p) : p.Confined (fun _ => True) (TimerActive screen) :=
    Prog.Confined.comp (h.mono fun _ _ => trivial) fun x => decide (screen ∈ x.2)
  cases op with
  | create screen' =>
    have hne : screen ≠ screen' := fun h => hcreate (h ▸ rfl)
    exact confined_whenEnabled (Prog.confined_modify fun w => by simp [TimerActive, hne])
  | tick screen' =>
    have hne : screen ≠ screen' := fun h => htick (h ▸ rfl)
    apply confined_whenEnabled
    refine .bind (Prog.confined_invoke trivial) fun _ => .bind (Prog.confined_read _) fun user => ?_
    split
    · refine .bind (Prog.confined_modify fun w => ?_) fun _ => Prog.confined_invoke trivial
      simp [TimerActive, hne]
    · trivial
  | press screen' =>
    refine confined_whenEnabled (.bind (Prog.confined_read _) fun user => ?_)
    cases user with
    | none => trivial
    | some user =>
      dsimp only
      split
      · exact Prog.confined_invoke trivial
      · trivial
  | close screen' => exact confined_whenEnabled (hlocal unloading_logout.local)
  | resend =>
    refine .handle (.bind (.handle (.bind (Prog.confined_read _) fun user => ?_) fun _ => trivial)
      fun _ => Prog.confined_invoke trivial) fun _ => Prog.confined_invoke trivial
    cases user with
    | none => trivial
    | some user => exact Prog.confined_invoke trivial
  | emailAndPasswordSignIn form =>
    exact confined_whenEnabled (hlocal (local_emailAndPasswordSignIn form))
  | googleSignIn => exact confined_whenEnabled (hlocal local_googleSignIn)
  | screenRedirect => exact confined_whenEnabled (hlocal unloading_screenRedirect.local)
  | verify uid => exact Prog.confined_modify fun _ => rfl

/-- The handlers of other screens. -/
def Elsewhere : VerifyOperation → Prop
  | emailAndPasswordSignIn _ | googleSignIn | screenRedirect => True
  | _ => False

/-- All but the handlers of other screens are tame. -/
theorem tame_body {op : VerifyOperation} (h : ¬ op.Elsewhere) :
    op.body.Confined (fun c => c.tame = true) World.sessionView := by
  cases op with
  | create screen => exact confined_whenEnabled (Prog.confined_modify fun _ => rfl)
  | tick screen =>
    apply confined_whenEnabled
    exact .bind (Prog.confined_invoke rfl) fun _ => confined_redirectIfVerified _ rfl
  | press screen => exact confined_whenEnabled (confined_checkEmailVerificationStatus rfl)
  | close screen =>
    apply confined_whenEnabled
    refine .handle (.bind (Prog.confined_invoke rfl) fun _ => ?_) fun _ => trivial
    exact .bind (Prog.confined_invoke rfl) fun _ => Prog.confined_invoke rfl
  | resend => exact confined_sendEmailVerification (fun _ => rfl) fun _ _ _ => rfl
  | emailAndPasswordSignIn form => exact absurd trivial h
  | googleSignIn => exact absurd trivial h
  | screenRedirect => exact absurd trivial h
  | verify uid => exact Prog.confined_modify fun _ => rfl

end VerifyOperation

section Fate

variable {screen : Nat} {uid : String} {w w' : World}

/-- The screen is the current one, and nobody but its user is signed in. -/
def Held (screen : Nat) (uid : String) (x : Navigator RouteContent × Option User) : Prop :=
  (∃ email rest, x.1.routes = (screen, .page (.verifyEmail email)) :: rest ∧
    ∀ r ∈ rest, r.1 ≠ screen) ∧ ∀ u, x.2 = some u → u.uid = uid

theorem onVerifyEmail_iff : OnVerifyEmail screen w = true ↔
    ∃ email, w.nav.top = some (screen, .page (.verifyEmail email)) := by
  unfold OnVerifyEmail
  split
  case h_1 k email htop =>
    constructor
    · intro h
      rw [decide_eq_true_eq] at h
      exact ⟨email, by rw [htop, h]⟩
    · rintro ⟨email', h⟩
      rw [htop] at h
      cases h
      exact decide_eq_true rfl
  case h_2 hno =>
    constructor
    · intro h
      cases h
    · rintro ⟨email, h⟩
      exact absurd h (hno screen email)

theorem Held.onVerifyEmail (h : Held screen uid w.sessionView) : OnVerifyEmail screen w = true := by
  obtain ⟨⟨email, rest, hroutes, -⟩, -⟩ := h
  refine onVerifyEmail_iff.mpr ⟨email, ?_⟩
  have hroutes' : w.nav.routes = (screen, .page (.verifyEmail email)) :: rest := hroutes
  rw [Navigator.top, hroutes', List.head?_cons]

/-- A screen that is current is not gone. -/
theorem not_gone_of_onVerifyEmail (h : OnVerifyEmail screen w = true) : ¬ w.nav.Gone screen := by
  obtain ⟨email, htop⟩ := onVerifyEmail_iff.mp h
  intro hgone
  exact hgone.2 _ (List.mem_of_mem_head? htop) rfl

theorem Held.lt_next (h : Held screen uid w.sessionView) : screen < w.nav.next := by
  obtain ⟨⟨email, rest, hroutes, -⟩, -⟩ := h
  have hroutes' : w.nav.routes = (screen, .page (.verifyEmail email)) :: rest := hroutes
  apply w.nav.fresh (screen, .page (.verifyEmail email))
  rw [hroutes']
  exact List.mem_cons_self

/-- The screen is replaced. -/
theorem Held.gone_off (h : Held screen uid w.sessionView) (x : RouteContent) :
    (w.nav.off x).Gone screen := by
  have hlt := h.lt_next
  obtain ⟨⟨email, rest, hroutes, hrest⟩, -⟩ := h
  have hroutes' : w.nav.routes = (screen, .page (.verifyEmail email)) :: rest := hroutes
  apply Navigator.Gone.push
  refine ⟨hlt, fun r hr => hrest r ?_⟩
  have hr' : r ∈ w.nav.routes.tail := hr
  rw [hroutes', List.tail_cons] at hr'
  exact hr'

theorem Held.page (h : Held screen uid w.sessionView) :
    ∃ email, w.page = some (screen, .page (.verifyEmail email)) := by
  obtain ⟨⟨email, rest, hroutes, -⟩, -⟩ := h
  have hroutes' : w.nav.routes = (screen, .page (.verifyEmail email)) :: rest := hroutes
  refine ⟨email, ?_⟩
  rw [World.page, currentPage, hroutes']
  rfl

/-- The page of the screen is not the success screen. -/
theorem Held.showsRoute (h : Held screen uid w.sessionView) :
    ShowsRoute .success w.nav = false := by
  obtain ⟨email, hpage⟩ := h.page
  have hpage' : currentPage w.nav = some (screen, .page (.verifyEmail email)) := hpage
  rw [ShowsRoute, hpage']
  rfl

theorem Held.gone_getOff (h : Held screen uid w.sessionView) :
    (getOff .success w.nav).Gone screen := by
  rw [getOff, h.showsRoute, if_neg Bool.false_ne_true]
  exact h.gone_off _

theorem Held.gone_offAll (h : Held screen uid w.sessionView) (x : RouteContent) :
    (w.nav.offAll x).Gone screen := by
  have hlt := h.lt_next
  refine ⟨Nat.lt_succ_of_lt hlt, fun r hr => ?_⟩
  rw [List.mem_singleton.mp hr]
  exact Nat.ne_of_gt hlt

/-- Refreshing the user who is signed in does not sign in another one. -/
theorem Held.reload (h : Held screen uid w.sessionView) : Held screen uid w.reload.sessionView := by
  refine ⟨h.1, fun u hu => ?_⟩
  obtain ⟨u', hu', rfl⟩ := Option.map_eq_some_iff.mp hu
  rw [← h.2 u' hu']
  cases w.accounts.lookup u'.uid <;> rfl

/-- The screen is current with its user, or it is gone. -/
def Fate (screen : Nat) (uid : String) (x : Navigator RouteContent × Option User) : Prop :=
  Held screen uid x ∨ x.1.Gone screen

theorem fate_of_tame (c : Call) (w w' : World) (r : Except Exn (Reply c)) (hc : c.tame = true)
    (h : overlapping.perform c w r = some w') (hw : Fate screen uid w.sessionView) :
    Fate screen uid w'.sessionView := by
  rcases hw with hw | hgone
  swap
  · exact .inr (gone_of_overlapping h hgone)
  rcases perform_of_overlapping h with h | rfl
  swap
  · exact .inl hw
  rcases r with e | v
  · simp only [Platform.perform, Option.ite_none_right_eq_some, Option.some.injEq] at h
    exact .inl (h.2 ▸ hw)
  · cases c with
    | reload =>
      cases h
      exact .inl hw.reload
    | sendEmailVerification | googleSignOut | snackBar =>
      cases h
      exact .inl hw
    | authSignOut =>
      cases h
      refine .inl ⟨hw.1, ?_⟩
      rintro u ⟨⟩
    | getOff screen' =>
      cases screen' with
      | success =>
        cases h
        exact .inr hw.gone_getOff
      | _ => cases hc
    | getOffAll =>
      cases h
      exact .inr (hw.gone_offAll _)
    | _ => cases hc

end Fate

section Segments

variable {screen : Nat} {uid : String} {w w' : World} {i : VerifyOperation}
  {ms : NamedHistory VerifyOperation} {t : Task (NamedReply VerifyOperation Reply) World Exn}

/-- What a callback does after its reload. -/
def afterReload (screen : Nat) :
    Except Exn Unit → Async.Prog (NamedReply VerifyOperation Reply) World Exn Unit
  | .ok _ => (redirectIfVerified screen).named (Parts.whole _ _) (.tick screen)
  | .error e => .done (.error e)

/-- The tasks of the callbacks of a timer. -/
def TickTask (screen : Nat) (t : Task (NamedReply VerifyOperation Reply) World Exn) : Prop :=
  t = .waiting (.tick screen, .reload) (afterReload screen) ∨
    (∃ r, t = .ready (afterReload screen r)) ∨ t = .finished

/-- The redirection is a synchronous call. -/
theorem advance_getOff (h : (Prog.named (Parts.whole VerifyOperation World) i
      (await (.getOff .success))).Advance (namedPlatform _) w ms t w') :
    t = .finished ∧ w' = w.withNav (getOff .success w.nav) ∧
      ms = [.answered ⟨w, (i, .getOff .success), .ok ()⟩] := by
  obtain ⟨v, w₁, rest, hv, rfl, hrest⟩ := h
  rw [Platform.named_whole_effect] at hv
  cases hv
  obtain ⟨rfl, rfl, rfl⟩ := hrest
  exact ⟨rfl, rfl, rfl⟩

/-- A segment calls for the redirection, in a state that shows what `w` shows, or makes no call.
It may stop the timer. -/
structure RedirectsOnce (i : VerifyOperation) (w : World) (ms : NamedHistory VerifyOperation)
    (w' : World) : Prop where
  calls : (w.Verified ∧ w'.nav = getOff .success w.nav ∧ ∃ w₁, w₁.sessionView = w.sessionView ∧
    ms = [.answered ⟨w₁, (i, .getOff .success), .ok ()⟩]) ∨ ms = []
  timers : w'.verifyEmailTimers ⊆ w.verifyEmailTimers

theorem advance_redirectIfVerified (h : ((redirectIfVerified screen).named
      (Parts.whole VerifyOperation World) i).Advance (namedPlatform _) w ms t w') :
    t = .finished ∧ RedirectsOnce i w ms w' := by
  have h' : (Prog.named (Parts.whole VerifyOperation World) i
      (if w.currentUser.any (·.emailVerified) then do
        Prog.modify fun w => { w with verifyEmailTimers := w.verifyEmailTimers.erase screen }
        await (.getOff .success) else pure ())).Advance (namedPlatform _) w ms t w' := h
  split at h'
  case isTrue hverified =>
    obtain ⟨u, hu, hemail⟩ := (Option.any_eq_true _ _).mp hverified
    obtain ⟨ht, rfl, hms⟩ := advance_getOff h'
    refine ⟨ht, .inl ⟨⟨u, hu, hemail⟩, rfl, ?_⟩, Finset.erase_subset screen _⟩
    exact ⟨{ w with verifyEmailTimers := w.verifyEmailTimers.erase screen }, rfl, hms⟩
  case isFalse =>
    obtain ⟨rfl, rfl, rfl⟩ := h'
    exact ⟨rfl, .inr rfl, Finset.Subset.refl _⟩

/-- What the button does with the user that it reads. -/
def redirectVerified : Option User → App Unit
  | some currentUser => if currentUser.emailVerified then await (.getOff .success) else pure ()
  | none => pure ()

theorem advance_checkEmailVerificationStatus (h : (checkEmailVerificationStatus.named
      (Parts.whole VerifyOperation World) i).Advance (namedPlatform _) w ms t w') :
    t = .finished ∧ RedirectsOnce i w ms w' := by
  have h' : (Prog.named (Parts.whole VerifyOperation World) i
      (redirectVerified w.currentUser)).Advance (namedPlatform _) w ms t w' := h
  cases hu : w.currentUser with
  | none =>
    rw [hu] at h'
    obtain ⟨rfl, rfl, rfl⟩ := h'
    exact ⟨rfl, .inr rfl, Finset.Subset.refl _⟩
  | some u =>
    rw [hu, redirectVerified] at h'
    split at h'
    case isTrue hemail =>
      obtain ⟨ht, rfl, hms⟩ := advance_getOff h'
      exact ⟨ht, .inl ⟨⟨u, hu, hemail⟩, rfl, _, rfl, hms⟩, Finset.Subset.refl _⟩
    case isFalse =>
      obtain ⟨rfl, rfl, rfl⟩ := h'
      exact ⟨rfl, .inr rfl, Finset.Subset.refl _⟩

/-- What the first segment of a callback does: it waits for its reload, or does nothing if the
timer is not active. -/
structure TickStarts (screen : Nat) (w : World) (ms : NamedHistory VerifyOperation)
    (t : Task (NamedReply VerifyOperation Reply) World Exn) (w' : World) : Prop where
  task : TickTask screen t
  silent : answers ms = []
  same : w' = w
  inactive : screen ∉ w.verifyEmailTimers → t = .finished

theorem advance_tick (h : (namedBody VerifyOperation.body (.tick screen)).Advance
      (namedPlatform _) w ms t w') : TickStarts screen w ms t w' := by
  rw [namedBody, VerifyOperation.body, advance_whenEnabled] at h
  split at h
  case isTrue hactive =>
    obtain ⟨rfl, rfl, rfl⟩ := h
    refine ⟨.inl ?_, rfl, rfl, fun hno => absurd (of_decide_eq_true hactive) hno⟩
    congr 1
    funext r
    cases r <;> rfl
  case isFalse =>
    obtain ⟨rfl, rfl, rfl⟩ := h
    exact ⟨.inr (.inr rfl), rfl, rfl, fun _ => rfl⟩

/-- The button redirects at once, or does nothing. -/
theorem advance_press (h : (namedBody VerifyOperation.body (.press screen)).Advance
      (namedPlatform _) w ms t w') : t = .finished ∧
        (OnVerifyEmail screen w = true ∧ RedirectsOnce (.press screen) w ms w' ∨
          ms = [] ∧ w' = w) := by
  rw [namedBody, VerifyOperation.body, advance_whenEnabled] at h
  split at h
  case isTrue hon =>
    obtain ⟨ht, hms⟩ := advance_checkEmailVerificationStatus h
    exact ⟨ht, .inl ⟨hon, hms⟩⟩
  case isFalse =>
    obtain ⟨rfl, rfl, rfl⟩ := h
    exact ⟨rfl, .inr ⟨rfl, rfl⟩⟩

/-- The timer of a screen starts at once, or nothing happens. -/
theorem advance_create (h : (namedBody VerifyOperation.body (.create screen)).Advance
      (namedPlatform _) w ms t w') : t = .finished ∧ (w' = w ∨ OnVerifyEmail screen w = true ∧
        w'.verifyEmailTimers = insert screen w.verifyEmailTimers) := by
  rw [namedBody, VerifyOperation.body, advance_whenEnabled] at h
  split at h
  case isTrue hon =>
    obtain ⟨rfl, rfl, rfl⟩ := h
    exact ⟨rfl, .inr ⟨hon, rfl⟩⟩
  case isFalse =>
    obtain ⟨rfl, rfl, rfl⟩ := h
    exact ⟨rfl, .inl rfl⟩

end Segments

section Runs

variable {screen : Nat} {uid : String} {w w' : World} {i op : VerifyOperation}
  {ms ms' : NamedHistory VerifyOperation} {t : Task (NamedReply VerifyOperation Reply) World Exn}
  {c c' : NamedPool VerifyOperation}

theorem named_confined (op : VerifyOperation) : (namedBody VerifyOperation.body op).Confined
    (fun call => call.1 = op) World.sessionView :=
  (op.confined_body.named fun _ _ h => h).mono fun _ h => h.1

theorem named_tame (h : ¬ op.Elsewhere) : (namedBody VerifyOperation.body op).Confined
    (fun call => call.2.tame = true) World.sessionView :=
  ((VerifyOperation.tame_body h).named fun _ _ h => h).mono fun _ h => h.2

/-- A screen that is gone stays so. -/
theorem gone_of_advance {p : Async.Prog (NamedReply VerifyOperation Reply) World Exn Unit}
    {ok : VerifyOperation × Call → Prop} (hp : p.Confined ok World.sessionView)
    (h : p.Advance (namedPlatform _) w ms t w') (hgone : w.nav.Gone screen) :
    w'.nav.Gone screen := by
  refine hp.advance_preserves (I := fun x => x.1.Gone screen) ?_ h hgone
  rintro ⟨op, call⟩ s s' r - hperform hs
  rw [Platform.named_whole_perform] at hperform
  exact gone_of_overlapping hperform hs

theorem fate_of_advance {p : Async.Prog (NamedReply VerifyOperation Reply) World Exn Unit}
    (hp : p.Confined (fun call => call.2.tame = true) World.sessionView)
    (h : p.Advance (namedPlatform _) w ms t w') (hw : Fate screen uid w.sessionView) :
    Fate screen uid w'.sessionView := by
  refine hp.advance_preserves ?_ h hw
  rintro ⟨op, call⟩ s s' r hcall hperform hs
  rw [Platform.named_whole_perform] at hperform
  exact fate_of_tame call s s' r hcall hperform hs

/-- What does not start or stop the timer leaves it as it is. -/
theorem timerActive_of_advance {p : Async.Prog (NamedReply VerifyOperation Reply) World Exn Unit}
    {ok : VerifyOperation × Call → Prop} (hp : p.Confined ok (TimerActive screen))
    (h : p.Advance (namedPlatform _) w ms t w') : TimerActive screen w' = TimerActive screen w := by
  refine hp.advance_preserves (I := (· = TimerActive screen w)) ?_ h rfl
  rintro ⟨op, call⟩ s s' r - hperform hs
  rw [Platform.named_whole_perform] at hperform
  have htimers : s'.verifyEmailTimers = s.verifyEmailTimers :=
    congrArg (·.2.2.2.2.2) (controllers_of_overlapping hperform)
  rw [TimerActive, htimers]
  exact hs

theorem named_timers (hcreate : op ≠ .create screen) (htick : op ≠ .tick screen) :
    (namedBody VerifyOperation.body op).Confined (fun _ => True) (TimerActive screen) :=
  ((VerifyOperation.timers_body hcreate htick).named fun _ _ h => h).mono fun _ _ => trivial

/-- While the screen is held, the handlers of other screens are not enabled. -/
theorem advance_of_held (hw : Held screen uid w.sessionView)
    (h : (namedBody VerifyOperation.body op).Advance (namedPlatform _) w ms t w') :
    t.Confined (fun call => call.2.tame = true) World.sessionView ∧
      Fate screen uid w'.sessionView := by
  have hpage (s : Screen) (hs : ∀ email, s ≠ .verifyEmail email) : OnPage s w = false := by
    obtain ⟨email, htop⟩ := onVerifyEmail_iff.mp hw.onVerifyEmail
    refine decide_eq_false ?_
    rw [htop]
    intro heq
    exact hs email (RouteContent.page.inj (Option.some.inj heq)).symm
  have hlogin : OnPage .login w = false := hpage .login nofun
  have hsuccess : OnPage .success w = false := hpage .success nofun
  by_cases hop : op.Elsewhere
  · have hidle : t = .finished ∧ w' = w := by
      cases op <;> try exact absurd hop not_false
      all_goals
        simp only [namedBody, VerifyOperation.body, advance_whenEnabled, hlogin, hsuccess,
          Bool.false_eq_true, if_false] at h
        exact ⟨h.2.1, h.2.2⟩
    obtain ⟨rfl, rfl⟩ := hidle
    exact ⟨trivial, .inl hw⟩
  · exact ⟨((named_tame hop).advance h).1, fate_of_advance (named_tame hop) h (.inl hw)⟩

/-- What a segment does about the redirection: nothing, or it redirects the screen while it
is held. -/
def RedirectsRight (screen : Nat) (uid : String) (w : World) (ms : NamedHistory VerifyOperation)
    (w' : World) : Prop :=
  redirects screen ms = [] ∨ Held screen uid w.sessionView ∧ w'.nav.Gone screen ∧
    ∃ ev, redirects screen ms = [ev] ∧ RightRedirect screen uid ev

theorem redirects_eq_nil_of_names (htick : op ≠ .tick screen) (hpress : op ≠ .press screen)
    (h : ∀ m ∈ ms, m.call.1 = op) : redirects screen ms = [] := by
  refine List.filter_eq_nil_iff.mpr fun ev hev => ?_
  obtain ⟨m, hm, hans⟩ := List.mem_filterMap.mp hev
  have hcall := h m hm
  cases m with
  | issued => cases hans
  | answered ev' =>
    cases hans
    have hcall' : ev.call.1 = op := hcall
    rw [decide_eq_true_eq]
    rintro (hc | hc)
    · rw [hc] at hcall'
      exact htick hcall'.symm
    · rw [hc] at hcall'
      exact hpress hcall'.symm

theorem RedirectsOnce.right (h : RedirectsOnce i w ms w')
    (hi : i = .tick screen ∨ i = .press screen)
    (hheld : w.Verified → Held screen uid w.sessionView ∨ ShowsRoute .success w.nav = true) :
    RedirectsRight screen uid w ms w' := by
  rcases h.calls with ⟨hverified, hnav, w₁, hview, rfl⟩ | rfl
  swap
  · exact .inl rfl
  have hnav₁ : w₁.nav = w.nav := congrArg Prod.fst hview
  have huser₁ : w₁.currentUser = w.currentUser := congrArg Prod.snd hview
  rcases hheld hverified with hw | hsuccess
  · obtain ⟨u, hu, -⟩ := hverified
    have hshows : ShowsRoute .success w₁.nav = false := hnav₁ ▸ hw.showsRoute
    refine .inr ⟨hw, hnav ▸ hw.gone_getOff, ⟨w₁, (i, .getOff .success), .ok ()⟩, ?_, ?_, u, ?_, ?_⟩
    · rcases hi with rfl | rfl <;> simp [redirects, answers, hshows]
    · have hon := hw.onVerifyEmail
      rw [OnVerifyEmail, ← hnav₁] at hon
      exact hon
    · exact huser₁.trans hu
    · exact hw.2 u hu
  · -- The success screen is shown already.
    rw [← hnav₁] at hsuccess
    exact .inl (by simp [redirects, answers, hsuccess])

/-- What holds in every run around a screen and its user. -/
structure VerifyInvariant (screen : Nat) (uid : String) (c : NamedPool VerifyOperation)
    (ms : NamedHistory VerifyOperation) : Prop where
  named : ∀ x ∈ c.tasks, x.2.Confined (fun call => call.1 = x.1) World.sessionView
  ticks : ∀ x ∈ c.tasks, x.1 = .tick screen → TickTask screen x.2
  presses : ∀ x ∈ c.tasks, x.1 = .press screen → x.2 = .finished
  timers : ∀ x ∈ c.tasks, x.1 ≠ .tick screen → x.2.Confined (fun _ => True) (TimerActive screen)
  fate : c.state.nav.Gone screen ∨ Held screen uid c.state.sessionView ∧
    ∀ x ∈ c.tasks, x.2.Confined (fun call => call.2.tame = true) World.sessionView
  left : c.state.nav.Gone screen → Pending screen c → c.state.Verified →
    ShowsRoute .success c.state.nav = true
  right : ∀ ev ∈ redirects screen ms, RightRedirect screen uid ev
  once : redirects screen ms = [] ∨ (redirects screen ms).length = 1 ∧ c.state.nav.Gone screen

/-- What is left of a screen after a step: once it is gone nothing can become pending again. -/
theorem VerifyInvariant.left_of_step (h : VerifyInvariant screen uid c ms)
    (hcond : LeftInTime screen c ms' c')
    (hpending : c.state.nav.Gone screen → Pending screen c' → Pending screen c)
    (hgone : c'.state.nav.Gone screen) (hp : Pending screen c') (hverified : c'.state.Verified) :
    ShowsRoute .success c'.state.nav = true := by
  have hclosed := hcond.closed hp hverified
  rcases h.fate with hgone₀ | ⟨hheld, -⟩
  · have hoff : OnVerifyEmail screen c.state = false := by
      rw [← Bool.not_eq_true]
      exact fun hon => not_gone_of_onVerifyEmail hon hgone₀
    have hverified₀ := hcond.signedIn hp hoff hverified
    have hsuccess := h.left hgone₀ (hpending hgone₀ hp) hverified₀
    rcases hclosed (.inr hsuccess) with hpage | hsuccess'
    · have hpage' : currentPage c'.state.nav = currentPage c.state.nav := hpage
      rw [ShowsRoute, hpage']
      exact hsuccess
    · exact hsuccess'
  · have hpage₀ := hheld.page
    rcases hclosed (.inl hheld.onVerifyEmail) with hpage | hsuccess'
    · obtain ⟨email, hpage₀⟩ := hpage₀
      rw [hpage₀] at hpage
      exact absurd rfl (hgone.2 _ (List.mem_of_find?_eq_some hpage))
    · exact hsuccess'

/-- A redirection that is right is the first one. -/
theorem VerifyInvariant.redirects_snoc (h : VerifyInvariant screen uid c ms)
    (hright : RedirectsRight screen uid c.state ms' w')
    (hgone : c.state.nav.Gone screen → w'.nav.Gone screen) :
    (∀ ev ∈ redirects screen (ms ++ ms'), RightRedirect screen uid ev) ∧
      (redirects screen (ms ++ ms') = [] ∨
        (redirects screen (ms ++ ms')).length = 1 ∧ w'.nav.Gone screen) := by
  rw [redirects_append]
  rcases hright with hnil | ⟨hheld, hgone', ev, hev, hright⟩
  · rw [hnil, List.append_nil]
    exact ⟨h.right, h.once.imp_right fun honce => ⟨honce.1, hgone honce.2⟩⟩
  · have hnone : redirects screen ms = [] := by
      rcases h.once with hnone | ⟨-, hgone₀⟩
      · exact hnone
      · exact absurd hgone₀ (not_gone_of_onVerifyEmail hheld.onVerifyEmail)
    rw [hnone, hev, List.nil_append]
    exact ⟨List.forall_mem_singleton.mpr hright, .inr ⟨rfl, hgone'⟩⟩

variable {s s' : World}
  {ts us : List (VerifyOperation × Task (NamedReply VerifyOperation Reply) World Exn)}

/-- What is pending after a task went on was pending before. -/
theorem Pending.before {t t' : Task (NamedReply VerifyOperation Reply) World Exn}
    (h : Pending screen ⟨s', ts ++ (op, t') :: us⟩) (ht : t.isFinished = false)
    (htimer : op ≠ .tick screen → TimerActive screen s' = TimerActive screen s) :
    Pending screen ⟨s, ts ++ (op, t) :: us⟩ := by
  by_cases hop : op = .tick screen
  · exact .inr ⟨(op, t), List.mem_append_right ts List.mem_cons_self, hop, ht⟩
  rcases h with hactive | ⟨x, hx, hname, hunfinished⟩
  · have hbefore : TimerActive screen s = true := (htimer hop).symm.trans (decide_eq_true hactive)
    exact .inl (of_decide_eq_true hbefore)
  · rcases List.mem_append.mp hx with hx | hx
    · exact .inr ⟨x, List.mem_append_left _ hx, hname, hunfinished⟩
    · rcases List.mem_cons.mp hx with rfl | hx
      · exact absurd hname hop
      · exact .inr ⟨x, List.mem_append_right ts (List.mem_cons_of_mem _ hx), hname, hunfinished⟩

/-- On a screen that is gone no timer starts, and a callback starts only if the timer is active. -/
theorem pending_of_start
    (hadv : (namedBody VerifyOperation.body op).Advance (namedPlatform _) s ms t s')
    (hgone : s.nav.Gone screen) (h : Pending screen ⟨s', ts ++ [(op, t)]⟩) :
    Pending screen ⟨s, ts⟩ := by
  have hold {x : VerifyOperation × Task (NamedReply VerifyOperation Reply) World Exn}
      (hx : x ∈ ts ++ [(op, t)]) (hno : x ≠ (op, t)) : x ∈ ts := by
    rcases List.mem_append.mp hx with hx | hx
    · exact hx
    · exact absurd (List.mem_singleton.mp hx) hno
  by_cases htick : op = .tick screen
  · subst htick
    have hstart := advance_tick hadv
    obtain rfl := hstart.same
    by_cases hactive : screen ∈ s'.verifyEmailTimers
    · exact .inl hactive
    rcases h with hactive' | ⟨x, hx, hname, hunfinished⟩
    · exact absurd hactive' hactive
    · refine .inr ⟨x, hold hx fun heq => ?_, hname, hunfinished⟩
      rw [heq, hstart.inactive hactive] at hunfinished
      cases hunfinished
  have hactive : TimerActive screen s' = TimerActive screen s := by
    by_cases hcreate : op = .create screen
    · subst hcreate
      rcases (advance_create hadv).2 with rfl | ⟨hon, -⟩
      · rfl
      · exact absurd hgone (not_gone_of_onVerifyEmail hon)
    · exact timerActive_of_advance (named_timers hcreate htick) hadv
  rcases h with hactive' | ⟨x, hx, hname, hunfinished⟩
  · have hbefore : TimerActive screen s = true := hactive.symm.trans (decide_eq_true hactive')
    exact .inl (of_decide_eq_true hbefore)
  · refine .inr ⟨x, hold hx fun heq => htick ?_, hname, hunfinished⟩
    rw [heq] at hname
    exact hname

/-- An operation that starts redirects only if its button is pressed on the screen. -/
theorem VerifyInvariant.redirectsRight_of_start (h : VerifyInvariant screen uid ⟨s, ts⟩ ms)
    (hadv : (namedBody VerifyOperation.body op).Advance (namedPlatform _) s ms' t s') :
    RedirectsRight screen uid s ms' s' := by
  obtain ⟨-, hnames⟩ := (named_confined op).advance hadv
  by_cases htick : op = .tick screen
  · subst htick
    rw [RedirectsRight, redirects, (advance_tick hadv).silent]
    exact .inl rfl
  by_cases hpress : op = .press screen
  · subst hpress
    rcases (advance_press hadv).2 with ⟨hon, honce⟩ | ⟨rfl, -⟩
    · refine honce.right (.inr rfl) fun _ => .inl ?_
      rcases h.fate with hgone | hheld
      · exact absurd hgone (not_gone_of_onVerifyEmail hon)
      · exact hheld.1
    · exact .inl rfl
  · exact .inl (redirects_eq_nil_of_names htick hpress hnames)

/-- A callback starts, the button is pressed, or something else happens. -/
theorem VerifyInvariant.start (h : VerifyInvariant screen uid ⟨s, ts⟩ ms)
    (hadv : (namedBody VerifyOperation.body op).Advance (namedPlatform _) s ms' t s')
    (hcond : LeftInTime screen ⟨s, ts⟩ ms' ⟨s', ts ++ [(op, t)]⟩) :
    VerifyInvariant screen uid ⟨s', ts ++ [(op, t)]⟩ (ms ++ ms') := by
  obtain ⟨hnamed, -⟩ := (named_confined op).advance hadv
  obtain ⟨hall, honce⟩ :=
    h.redirects_snoc (h.redirectsRight_of_start hadv) (gone_of_advance (named_confined op) hadv)
  refine ⟨?_, ?_, ?_, ?_, ?_, ?_, hall, honce⟩
  · exact List.forall_mem_append.mpr ⟨h.named, List.forall_mem_singleton.mpr hnamed⟩
  · refine List.forall_mem_append.mpr ⟨h.ticks, List.forall_mem_singleton.mpr ?_⟩
    rintro rfl
    exact (advance_tick hadv).task
  · refine List.forall_mem_append.mpr ⟨h.presses, List.forall_mem_singleton.mpr ?_⟩
    rintro rfl
    exact (advance_press hadv).1
  · refine List.forall_mem_append.mpr ⟨h.timers, List.forall_mem_singleton.mpr fun htick => ?_⟩
    by_cases hcreate : op = .create screen
    · subst hcreate
      have hfinished : t = .finished := (advance_create hadv).1
      rw [hfinished]
      trivial
    · exact ((named_timers hcreate htick).advance hadv).1
  · rcases h.fate with hgone | ⟨hheld, htasks⟩
    · exact .inl (gone_of_advance (named_confined op) hadv hgone)
    · obtain ⟨ht, hfate⟩ := advance_of_held hheld hadv
      rcases hfate with hheld' | hgone
      · exact .inr ⟨hheld',
          List.forall_mem_append.mpr ⟨htasks, List.forall_mem_singleton.mpr ht⟩⟩
      · exact .inl hgone
  · exact h.left_of_step hcond (pending_of_start hadv)

/-- An awaited call is answered. -/
theorem VerifyInvariant.serve {call : VerifyOperation × Call}
    {k : Except Exn (NamedReply VerifyOperation Reply call) →
      Async.Prog (NamedReply VerifyOperation Reply) World Exn Unit}
    {r : Except Exn (NamedReply VerifyOperation Reply call)}
    (h : VerifyInvariant screen uid ⟨s, ts ++ (op, .waiting call k) :: us⟩ ms)
    (hperform : (namedPlatform _).perform call s r = some s')
    (hcond : LeftInTime screen ⟨s, ts ++ (op, .waiting call k) :: us⟩ [.answered ⟨s, call, r⟩]
      ⟨s', ts ++ (op, .ready (k r)) :: us⟩) :
    VerifyInvariant screen uid ⟨s', ts ++ (op, .ready (k r)) :: us⟩
      (ms ++ [.answered ⟨s, call, r⟩]) := by
  obtain ⟨hnamed₁, hnamed, hnamed₂⟩ := forall_tasks_iff.mp h.named
  obtain ⟨hticks₁, htick, hticks₂⟩ := forall_tasks_iff.mp h.ticks
  obtain ⟨hpresses₁, hpress, hpresses₂⟩ := forall_tasks_iff.mp h.presses
  obtain ⟨htimers₁, htimer, htimers₂⟩ := forall_tasks_iff.mp h.timers
  have hname : call.1 = op := hnamed.1
  have hperform' : overlapping.perform call.2 s r = some s' := by
    rw [← hperform]
    exact (Platform.named_whole_perform overlapping call.1 call.2 s r).symm
  have hgone : s.nav.Gone screen → s'.nav.Gone screen := gone_of_overlapping hperform'
  have hactive : TimerActive screen s' = TimerActive screen s := by
    have htimers : s'.verifyEmailTimers = s.verifyEmailTimers :=
      congrArg (·.2.2.2.2.2) (controllers_of_overlapping hperform')
    rw [TimerActive, TimerActive, htimers]
  have hnone : redirects screen [.answered ⟨s, call, r⟩] = [] := by
    by_cases hop : op = .tick screen
    · rcases htick hop with hwait | ⟨r', hready⟩ | hfinished
      · cases hwait
        simp [redirects, answers]
      · cases hready
      · cases hfinished
    · by_cases hop' : op = .press screen
      · cases hpress hop'
      · exact redirects_eq_nil_of_names hop hop' (List.forall_mem_singleton.mpr hname)
  obtain ⟨hall, honce⟩ := h.redirects_snoc (.inl hnone) hgone
  refine ⟨?_, ?_, ?_, ?_, ?_, ?_, hall, honce⟩
  · exact forall_tasks_iff.mpr ⟨hnamed₁, hnamed.2 r, hnamed₂⟩
  · refine forall_tasks_iff.mpr ⟨hticks₁, fun hop => ?_, hticks₂⟩
    rcases htick hop with hwait | ⟨r', hready⟩ | hfinished
    · cases hwait
      exact .inr (.inl ⟨r, rfl⟩)
    · cases hready
    · cases hfinished
  · refine forall_tasks_iff.mpr ⟨hpresses₁, fun hop => ?_, hpresses₂⟩
    cases hpress hop
  · exact forall_tasks_iff.mpr ⟨htimers₁, fun hop => (htimer hop).2 r, htimers₂⟩
  · rcases h.fate with hgone₀ | ⟨hheld, htasks⟩
    · exact .inl (hgone hgone₀)
    · obtain ⟨htasks₁, htask, htasks₂⟩ := forall_tasks_iff.mp htasks
      rcases fate_of_tame call.2 s s' r htask.1 hperform' (.inl hheld) with hheld' | hgone'
      · exact .inr ⟨hheld', forall_tasks_iff.mpr ⟨htasks₁, htask.2 r, htasks₂⟩⟩
      · exact .inl hgone'
  · exact h.left_of_step hcond fun _ hp => hp.before rfl fun _ => hactive

/-- A callback that goes on comes to its end. It is pending, so the screen is held or the success
screen is shown. -/
theorem VerifyInvariant.tick_of_resume
    {p : Async.Prog (NamedReply VerifyOperation Reply) World Exn Unit}
    (h : VerifyInvariant screen uid ⟨s, ts ++ (.tick screen, .ready p) :: us⟩ ms)
    (hadv : p.Advance (namedPlatform _) s ms' t s') :
    t = .finished ∧ RedirectsRight screen uid s ms' s' := by
  obtain ⟨-, htick, -⟩ := forall_tasks_iff.mp h.ticks
  rcases htick rfl with hwait | ⟨r, hready⟩ | hfinished
  · cases hwait
  · cases hready
    cases r with
    | error e =>
      obtain ⟨rfl, rfl, rfl⟩ := hadv
      exact ⟨rfl, .inl rfl⟩
    | ok u =>
      obtain ⟨ht, honce⟩ := advance_redirectIfVerified hadv
      refine ⟨ht, honce.right (.inl rfl) fun hverified => ?_⟩
      rcases h.fate with hgone | hheld
      · have hmem := List.mem_append_right ts (List.mem_cons_self
          (a := ((.tick screen : VerifyOperation), Task.ready (afterReload screen (.ok u))))
          (l := us))
        exact .inr (h.left hgone (.inr ⟨_, hmem, rfl, rfl⟩) hverified)
      · exact .inl hheld.1
  · cases hfinished

/-- A task goes on; only a callback has anything left that redirects. -/
theorem VerifyInvariant.resume {p : Async.Prog (NamedReply VerifyOperation Reply) World Exn Unit}
    (h : VerifyInvariant screen uid ⟨s, ts ++ (op, .ready p) :: us⟩ ms)
    (hadv : p.Advance (namedPlatform _) s ms' t s')
    (hcond : LeftInTime screen ⟨s, ts ++ (op, .ready p) :: us⟩ ms' ⟨s', ts ++ (op, t) :: us⟩) :
    VerifyInvariant screen uid ⟨s', ts ++ (op, t) :: us⟩ (ms ++ ms') := by
  obtain ⟨hnamed₁, hnamed, hnamed₂⟩ := forall_tasks_iff.mp h.named
  obtain ⟨hticks₁, -, hticks₂⟩ := forall_tasks_iff.mp h.ticks
  obtain ⟨hpresses₁, hpress, hpresses₂⟩ := forall_tasks_iff.mp h.presses
  obtain ⟨htimers₁, htimer, htimers₂⟩ := forall_tasks_iff.mp h.timers
  have hconfined : p.Confined (fun call => call.1 = op) World.sessionView := hnamed
  obtain ⟨hnamed', hnames⟩ := hconfined.advance hadv
  have hnotPress : op ≠ .press screen := fun hop => by cases hpress hop
  have hafter : op = .tick screen → t = .finished ∧ RedirectsRight screen uid s ms' s' := by
    rintro rfl
    exact h.tick_of_resume hadv
  have hright : RedirectsRight screen uid s ms' s' := by
    by_cases hop : op = .tick screen
    · exact (hafter hop).2
    · exact .inl (redirects_eq_nil_of_names hop hnotPress hnames)
  obtain ⟨hall, honce⟩ := h.redirects_snoc hright (gone_of_advance hconfined hadv)
  refine ⟨?_, ?_, ?_, ?_, ?_, ?_, hall, honce⟩
  · exact forall_tasks_iff.mpr ⟨hnamed₁, hnamed', hnamed₂⟩
  · exact forall_tasks_iff.mpr ⟨hticks₁, fun hop => .inr (.inr (hafter hop).1), hticks₂⟩
  · exact forall_tasks_iff.mpr ⟨hpresses₁, fun hop => absurd hop hnotPress, hpresses₂⟩
  · have hkept (hop : op ≠ .tick screen) : p.Confined (fun _ => True) (TimerActive screen) :=
      htimer hop
    exact forall_tasks_iff.mpr ⟨htimers₁, fun hop => ((hkept hop).advance hadv).1, htimers₂⟩
  · rcases h.fate with hgone | ⟨hheld, htasks⟩
    · exact .inl (gone_of_advance hconfined hadv hgone)
    · obtain ⟨htasks₁, htask, htasks₂⟩ := forall_tasks_iff.mp htasks
      have htame : p.Confined (fun call => call.2.tame = true) World.sessionView := htask
      rcases fate_of_advance htame hadv (.inl hheld) with hheld' | hgone
      · exact .inr ⟨hheld', forall_tasks_iff.mpr ⟨htasks₁, (htame.advance hadv).1, htasks₂⟩⟩
      · exact .inl hgone
  · exact h.left_of_step hcond fun _ hp => hp.before rfl fun hop =>
      timerActive_of_advance (p := p) (htimer hop) hadv

/-- One step of a run. -/
theorem VerifyInvariant.step (h : VerifyInvariant screen uid c ms)
    (hstep : Pool.Step (namedPlatform _) (namedBody VerifyOperation.body) c ms' c')
    (hcond : LeftInTime screen c ms' c') : VerifyInvariant screen uid c' (ms ++ ms') := by
  cases hstep with
  | start op hadv => exact h.start hadv hcond
  | serve hperform => exact h.serve hperform hcond
  | resume hadv => exact h.resume hadv hcond

end Runs

/-- A `VerifyEmailScreen` was just opened for the user who is signed in. -/
structure VerifyEmailOpened (screen : Nat) (uid : String) (w : World) : Prop where
  opened : ∃ (nav : Navigator RouteContent) (email : Option String), screen = nav.next ∧
    (w.nav = nav.push (.page (.verifyEmail email)) ∨
      w.nav = nav.offAll (.page (.verifyEmail email)))
  user : ∃ u, w.currentUser = some u ∧ u.uid = uid

theorem VerifyEmailOpened.held {screen : Nat} {uid : String} {w : World}
    (h : VerifyEmailOpened screen uid w) : Held screen uid w.sessionView := by
  obtain ⟨⟨nav, email, rfl, hnav⟩, u, hu, rfl⟩ := h
  refine ⟨⟨email, ?_⟩, fun u' hu' => ?_⟩
  · rcases hnav with hnav | hnav
    · refine ⟨nav.routes, ?_, fun r hr => Nat.ne_of_lt (nav.fresh r hr)⟩
      rw [World.sessionView, hnav]
      rfl
    · refine ⟨[], ?_, List.forall_mem_nil _⟩
      rw [World.sessionView, hnav]
      rfl
  · have hu'' : w.currentUser = some u' := hu'
    rw [hu] at hu''
    cases hu''
    rfl

/-- If a verified user leaves the screen only for the success screen, and nobody who is verified
comes to be signed in later, as long as its timer or a callback is pending, then the redirection
happens at most once, while the screen is current, for its user. -/
theorem verifyRedirect_exact {screen : Nat} {uid : String} {w : World}
    (hopened : VerifyEmailOpened screen uid w) {c : NamedPool VerifyOperation}
    {ms : NamedHistory VerifyOperation} (hrun : Pool.RunMeeting (namedPlatform _)
      (namedBody VerifyOperation.body) (LeftInTime screen) ⟨w, []⟩ ms c) :
    (redirects screen ms).length ≤ 1 ∧ ∀ ev ∈ redirects screen ms, RightRedirect screen uid ev := by
  have hinit : VerifyInvariant screen uid ⟨w, []⟩ [] :=
    { named := List.forall_mem_nil _
      ticks := List.forall_mem_nil _
      presses := List.forall_mem_nil _
      timers := List.forall_mem_nil _
      fate := .inr ⟨hopened.held, List.forall_mem_nil _⟩
      left := fun hgone => absurd hgone (not_gone_of_onVerifyEmail hopened.held.onVerifyEmail)
      right := List.forall_mem_nil _
      once := .inl rfl }
  have h := hrun.invariant (VerifyInvariant screen uid) hinit fun _ _ _ _ h hstep hcond =>
    h.step hstep hcond
  refine ⟨?_, h.right⟩
  rcases h.once with hnone | ⟨hone, -⟩
  · rw [hnone]
    exact Nat.zero_le 1
  · exact hone.le

/-- A verified user with a password. -/
def ben : User := User.of "ben" "ben@example.com" "password"

/-- Two accounts. The email of ana is not verified, and she is on the screen that waits for it. -/
def World.verifying : World where
  accounts :=
    [(⟨"ana", ⟨some "ana@example.com", false, ["password"], fun _ _ => true⟩⟩ :
      Sigma fun _ : String => Account), ⟨"ben", ben.toAccount fun _ _ => true⟩].toAList
  currentUser := some ⟨"ana", some "ana@example.com", false, ["password"]⟩
  nav := Navigator.empty.offAll (.page (.verifyEmail (some "ana@example.com")))
  userController := { user := UserModel.empty 0 0 0 }
  verifyEmailTimers := {0}

theorem verifyEmailOpened_verifying : VerifyEmailOpened 0 "ana" World.verifying :=
  ⟨⟨.empty, some "ana@example.com", rfl, .inr rfl⟩, _, rfl, rfl⟩

/-- The link is followed while two callbacks wait for their reloads. The first to go on redirects,
the second does not, and then the success screen is left for the menu. -/
theorem verifyRedirect_link : ∃ (c : NamedPool VerifyOperation)
    (ms : NamedHistory VerifyOperation), Pool.RunMeeting (namedPlatform _)
      (namedBody VerifyOperation.body) (LeftInTime 0) ⟨World.verifying, []⟩ ms c ∧
    OnPage .navigationMenu c.state = true ∧ (redirects 0 ms).length = 1 ∧
    ∀ ev ∈ redirects 0 ms, RightRedirect 0 "ana" ev := by
  obtain ⟨ms, c, hrun, hq⟩ := named_pool_runMeeting VerifyOperation.body World.verifying
    (fun _ _ => none) (fun c ms c' => decide (LeftInTime 0 c ms c')) (LeftInTime 0)
    (fun _ _ _ => of_decide_eq_true)
    [.start (.verify "ana"), .start (.tick 0), .start (.tick 0), .go 1, .go 2, .go 2, .go 1,
      .start .screenRedirect]
    (fun out => OnPage .navigationMenu out.2.state && decide ((redirects 0 out.1).length = 1))
    (by decide +kernel)
  obtain ⟨hmenu, hone⟩ := Bool.and_eq_true_iff.mp hq
  exact ⟨c, ms, hrun, hmenu, of_decide_eq_true hone,
    (verifyRedirect_exact verifyEmailOpened_verifying hrun).2⟩

/-- The screen is closed, ben signs in, and the next callback takes him from the menu to the
success screen. -/
theorem not_verifyRedirect_signedIn : ∃ (c : NamedPool VerifyOperation)
    (ms : NamedHistory VerifyOperation), VerifyEmailOpened 0 "ana" World.verifying ∧
      Pool.Run (namedPlatform _) (namedBody VerifyOperation.body) ⟨World.verifying, []⟩ ms c ∧
      ¬ ((redirects 0 ms).length ≤ 1 ∧ ∀ ev ∈ redirects 0 ms, RightRedirect 0 "ana" ev) := by
  obtain ⟨ms, c, hrun, hq⟩ := named_pool_run VerifyOperation.body World.verifying (admitting ben)
    (.start (.close 0) :: List.replicate 4 (.go 0) ++
      .start (.emailAndPasswordSignIn ⟨"ben@example.com", "secret", false, some true⟩) ::
        List.replicate 6 (.go 1) ++ [.start (.tick 0), .go 2, .go 2])
    (fun out => (redirects 0 out.1).any fun ev =>
      OnPage .navigationMenu ev.state && decide (ev.state.currentUser = some ben))
    (by decide +kernel)
  obtain ⟨ev, hev, hmenu⟩ := List.any_eq_true.mp hq
  obtain ⟨-, huser⟩ := Bool.and_eq_true_iff.mp hmenu
  refine ⟨c, ms, verifyEmailOpened_verifying, hrun, fun h => ?_⟩
  obtain ⟨-, u, hu, huid⟩ := h.2 ev hev
  cases (of_decide_eq_true huser).symm.trans hu
  exact absurd huid (by decide)

end AroundMuseo
