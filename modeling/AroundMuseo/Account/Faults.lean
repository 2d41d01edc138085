import AroundMuseo.Account.Deletion
import AroundMuseo.Account.Registration

/-!
# What goes wrong between two writes

The faults of a run are the writes and deletions of accounts and documents that throw, and the
Google accounts whose email is not found. Together with the audit log they tell how far each
function of the repositories came.
-/

namespace AroundMuseo

open Async Firestore AuthenticationRepository

/-- What may go wrong when an account and its document are written or deleted. -/
inductive Fault where
  /-- Writing the document of a new user threw. -/
  | notSaved (uid : String)
  /-- Merging the profile of the Google account into the document threw. -/
  | notMerged (uid : String) (e : Exn)
  /-- Deleting the document threw. -/
  | docKept (uid : String)
  /-- Deleting the account, which existed, threw. -/
  | userKept (uid : String)
  /-- Firebase knows no email of the account that signed in. -/
  | noEmail (uid : String)
  /-- The look-up of an email among the documents found none or threw. -/
  | notFound
  deriving DecidableEq, Repr

/-- The fault that an event is. -/
def Fault.ofEvent : Event → Option Fault
  | ⟨_, .set .users id _, .error _⟩ => some (.notSaved id)
  | ⟨_, .setMerge .users id _, .error e⟩ => some (.notMerged id e)
  | ⟨_, .delete .users id, .error _⟩ => some (.docKept id)
  | ⟨w, .deleteUser uid, .error _⟩ => if uid ∈ w.accounts then some (.userKept uid) else none
  | ⟨_, .signInWithCredential _, .ok c⟩ =>
    if c.user.email = none then some (.noEmail c.user.uid) else none
  | ⟨_, .whereEq .users _ _, .ok []⟩ | ⟨_, .whereEq .users _ _, .error _⟩ => some .notFound
  | _ => none

/-- The faults of a run. -/
def faults (tr : List Event) : List Fault := tr.filterMap Fault.ofEvent

/-- No events, no faults. -/
@[simp] theorem faults_nil : faults [] = [] := rfl

/-- The faults of a run are those of its parts. -/
@[simp] theorem faults_append (tr tr' : List Event) :
    faults (tr ++ tr') = faults tr ++ faults tr' :=
  List.filterMap_append

/-- Closing the loader and reporting an error are no faults. -/
@[simp] theorem faults_catchEvents (w : World) (kind : SnackBarKind) (e : Exn) :
    faults (catchEvents w kind e) = [] := rfl

theorem faults_checkConnectivity {ev : Event} (hev : ev.call = .checkConnectivity)
    (tr : List Event) : faults (ev :: tr) = faults tr := by
  obtain ⟨w, c, r⟩ := ev
  cases hev
  cases r <;> rfl

/-- The mark changes nothing. -/
def Mark.Idle (m : Mark) : Prop := ∀ d : Directory, d.act m = d

/-- The run leaves no mark and has no faults. -/
def Unmarked (tr : List Event) : Prop := audit tr = [] ∧ faults tr = []

section Rules

variable {w : World} {α β : Type} {body : App Unit} {L : List Mark → List Fault → Prop}

/-- The `catch` block makes no fault. -/
theorem wp_withLoader_faults {text : String} {kind : SnackBarKind}
    (h : body.wp platform (fun _ tr _ => L (audit tr) (faults tr))
      (w.withNav (w.nav.push (.loader text docerAnimation)))) :
    (withLoader text kind body).wp platform (fun _ tr _ => L (audit tr) (faults tr)) w := by
  refine wp_withLoader.mpr (Prog.wp_mono h ?_)
  rintro (e | ⟨⟩) tr w' hL
  · show L (audit (tr ++ catchEvents w' kind e)) (faults (tr ++ catchEvents w' kind e))
    rwa [audit_append, audit_catchEvents, faults_append, faults_catchEvents, List.append_nil,
      List.append_nil]
  · exact hL

theorem wp_whenConnected_faults (hnil : L [] [])
    (h : body.wp platform (fun _ tr _ => L (audit tr) (faults tr)) w) :
    (whenConnected body).wp platform (fun _ tr _ => L (audit tr) (faults tr)) w := by
  refine wp_whenConnected (fun ev hev e => ?_) (fun ev hev => ?_) fun ev hev => ?_
  · rwa [(log_checkConnectivity hev _).1, faults_checkConnectivity hev]
  · rwa [(log_checkConnectivity hev _).1, faults_checkConnectivity hev]
  · simpa only [(log_checkConnectivity hev _).1, faults_checkConnectivity hev] using h

theorem wp_whenValid_faults {form : Option Bool} (hnil : L [] [])
    (h : body.wp platform (fun _ tr _ => L (audit tr) (faults tr)) w) :
    (whenValid form body).wp platform (fun _ tr _ => L (audit tr) (faults tr)) w :=
  wp_whenValid hnil hnil h

/-- What comes after an operation may be left out if it leaves nothing. -/
theorem wp_bind_unmarked {p : App α} {f : α → App β}
    (hp : p.wp platform (fun _ tr _ => L (audit tr) (faults tr)) w)
    (hf : ∀ a w, (f a).wp platform (fun _ tr _ => Unmarked tr) w) :
    (p >>= f).wp platform (fun _ tr _ => L (audit tr) (faults tr)) w := by
  refine Prog.wp_bind_of hp (fun _ _ _ h => h) fun a tr w' h => Prog.wp_mono (hf a w') ?_
  rintro r tr' w'' ⟨haudit, hfaults⟩
  rwa [audit_append, haudit, List.append_nil, faults_append, hfaults, List.append_nil]

end Rules

section Specs

variable {w : World}

/-- A registration that is refused has left no account. -/
theorem registerWithEmailAndPassword_faults (w : World) (email password : String) :
    (registerWithEmailAndPassword email password).wp platform
      (fun r tr _ => match r with
        | .ok c => c.user.uid ∉ w.accounts ∧ audit tr = [.registered c.user.uid] ∧ faults tr = []
        | .error _ => Unmarked tr) w := by
  rw [registerWithEmailAndPassword, rethrowing, Prog.wp_handle]
  refine Prog.wp_invoke.mpr ⟨fun _ e => ⟨rfl, rfl⟩, fun c w' h => ?_⟩
  obtain ⟨hnew, -⟩ := Option.ite_none_left_eq_some.mp h
  exact ⟨fun hmem => hnew (.inl hmem), rfl, rfl⟩

/-- The document is stored, or saving it throws. -/
theorem saveUserRecord_faults (w : World) (user : UserModel) :
    (UserRepository.saveUserRecord user).wp platform
      (fun r tr _ => match r with
        | .ok _ => audit tr = [.stored user.id] ∧ faults tr = []
        | .error _ => audit tr = [] ∧ faults tr = [.notSaved user.id]) w := by
  rw [UserRepository.saveUserRecord, UserRepository.rethrowing, Prog.wp_handle]
  refine wp_now_bind.mpr fun createdNow => wp_now_bind.mpr fun updatedNow => ?_
  refine wp_now_bind.mpr fun activeNow => ?_
  refine Prog.wp_invoke.mpr ⟨fun _ e => ⟨rfl, rfl⟩, ?_⟩
  rintro - _ ⟨⟩
  exact ⟨rfl, rfl⟩

/-- The fault of an account without an email. -/
def emailFaults (user : User) : List Fault :=
  if user.email = none then [.noEmail user.uid] else []

/-- What `signInWithGoogle` has done: nothing, or it has signed in an account, which exists
from then on, and has merged its profile or not. -/
inductive GoogleRun (w : World) :
    Except Exn (Option UserCredential) → List Mark → List Fault → World → Prop
  | notAccepted {r : Except Exn (Option UserCredential)} {m : Mark} (hm : m.Idle)
      (hr : ∀ c, r ≠ .ok (some c)) : GoogleRun w r [m] [] w
  | stored {c : UserCredential} {w' : World} (hsession : w'.currentUser = some c.user)
      (haccount : c.user.uid ∈ w'.accounts) (hdoc : c.user.uid ∈ w'.db .users) :
      GoogleRun w (.ok (some c)) [.accepted c.user.uid, .stored c.user.uid] (emailFaults c.user) w'
  | unstored {c : UserCredential} {w' : World} (e : Exn) (hsession : w'.currentUser = some c.user)
      (haccount : c.user.uid ∈ w'.accounts) (hdb : w'.db = w.db) :
      GoogleRun w (caught e) [.accepted c.user.uid]
        (emailFaults c.user ++ [.notMerged c.user.uid e]) w'

theorem caught_ne_some (e : Exn) (c : UserCredential) : caught e ≠ .ok (some c) := by
  intro h
  cases (caught_eq_ok h.symm).2

/-- A credential is returned only after its account was signed in and its profile merged. -/
theorem GoogleRun.of_some {w w' : World} {c : UserCredential} {log : List Mark} {fs : List Fault}
    (h : GoogleRun w (.ok (some c)) log fs w') :
    log = [.accepted c.user.uid, .stored c.user.uid] ∧ fs = emailFaults c.user ∧
      w'.currentUser = some c.user ∧ c.user.uid ∈ w'.accounts ∧ c.user.uid ∈ w'.db .users := by
  generalize hr : Except.ok (some c) = r at h
  cases h with
  | notAccepted hm hne => exact absurd hr.symm (hne c)
  | stored hsession haccount hdoc =>
    cases hr
    exact ⟨rfl, rfl, hsession, haccount, hdoc⟩
  | unstored e => exact absurd hr.symm (caught_ne_some e c)

/-- An accepted credential signs in an account that exists. -/
theorem mem_accounts_of_accepted {w₁ : World} {g : GoogleSignInAuthentication} {c : UserCredential}
    (h : effect (.signInWithCredential g) w c = some w₁) : c.user.uid ∈ w₁.accounts := by
  simp only [effect] at h
  split at h
  all_goals
    obtain ⟨-, hw⟩ := Option.ite_none_right_eq_some.mp h
    cases hw
    exact (AList.mem_insert _).mpr (.inl rfl)

theorem faults_accepted (w : World) (g : GoogleSignInAuthentication) (c : UserCredential)
    (tr : List Event) :
    faults (⟨w, .signInWithCredential g, .ok c⟩ :: tr) = emailFaults c.user ++ faults tr := by
  by_cases h : c.user.email = none <;> simp [faults, Fault.ofEvent, emailFaults, h]

/-- All ways out of the prompt, with the account and the document they leave. -/
theorem signInWithGoogle_faults (w : World) :
    signInWithGoogle.wp platform (fun r tr w' => GoogleRun w r (audit tr) (faults tr) w') w := by
  have hfailed (e : Exn) : GoogleRun w (caught e) [.failed e] [] w :=
    .notAccepted (fun _ => rfl) (caught_ne_some e)
  rw [signInWithGoogle, Prog.wp_handle]
  refine Prog.wp_invoke_bind.mpr ⟨fun _ e => wp_caught (hfailed e), ?_⟩
  rintro - _ ⟨⟩
  refine Prog.wp_invoke_bind.mpr ⟨fun _ e => wp_caught (hfailed e), ?_⟩
  rintro (_ | account) _ ⟨⟩
  · exact .notAccepted (fun _ => rfl) fun _ => by simp
  refine Prog.wp_invoke_bind.mpr ⟨fun _ e => wp_caught (hfailed e), ?_⟩
  rintro (g : GoogleSignInAuthentication) w₁ hg
  simp only [platform, effect, Option.ite_none_right_eq_some, Option.some.injEq] at hg
  obtain ⟨rfl, rfl⟩ := hg
  refine Prog.wp_invoke_bind.mpr ⟨fun _ e => wp_caught (hfailed e), fun c w₁ hc => ?_⟩
  obtain ⟨hsession, hdb⟩ := currentUser_of_accepted hc
  have haccount := mem_accounts_of_accepted hc
  refine wp_now_bind.mpr fun now => ?_
  refine Prog.wp_invoke_bind.mpr ⟨fun _ e => wp_caught ?_, ?_⟩
  · show GoogleRun w _ [.accepted c.user.uid] (faults (⟨w, .signInWithCredential g, .ok c⟩ ::
      [⟨w₁, .setMerge .users c.user.uid (googleProfile g.account now), .error e⟩])) w₁
    rw [faults_accepted]
    exact .unstored e hsession haccount hdb
  · rintro - _ ⟨⟩
    set w₂ := w₁.setDb .users ((w₁.db .users).setMerge c.user.uid (googleProfile g.account now))
    have hdoc : c.user.uid ∈ w₂.db .users := by
      rw [World.setDb_db_self]
      exact Collection.mem_setMerge.mpr (.inl rfl)
    show GoogleRun w (.ok (some c)) [.accepted c.user.uid, .stored c.user.uid]
      (faults (⟨w, .signInWithCredential g, .ok c⟩ :: [])) w₂
    rw [faults_accepted, faults_nil, List.append_nil]
    exact .stored hsession haccount hdoc

/-- What `deleteAccount` has done for the account `x`, and what went wrong. -/
inductive RemovalRun (hasDoc hasAccount : Prop) [Decidable hasDoc] [Decidable hasAccount]
    (x : String) : List Mark → List Fault → Prop
  | docKept : RemovalRun hasDoc hasAccount x [] [.docKept x]
  | userKept : RemovalRun hasDoc hasAccount x (if hasDoc then [.docRemoved x] else [])
      (if hasAccount then [.userKept x] else [])
  | removed : RemovalRun hasDoc hasAccount x
      ((if hasDoc then [.docRemoved x] else []) ++ [.userRemoved x]) []

/-- Only whether there are a document and an account matters. -/
theorem RemovalRun.congr {hasDoc hasAccount hasDoc' hasAccount' : Prop} [Decidable hasDoc]
    [Decidable hasAccount] [Decidable hasDoc'] [Decidable hasAccount'] {x : String}
    {ms : List Mark} {fs : List Fault} (h : RemovalRun hasDoc hasAccount x ms fs)
    (hdoc : hasDoc ↔ hasDoc') (haccount : hasAccount ↔ hasAccount') :
    RemovalRun hasDoc' hasAccount' x ms fs := by
  cases h with
  | docKept => exact .docKept
  | userKept =>
    simp only [hdoc, haccount]
    exact .userKept
  | removed =>
    simp only [hdoc]
    exact .removed

theorem faults_deleteUser (w : World) (x : String) (e : Exn) :
    faults [⟨w, .deleteUser x, .error e⟩] = if x ∈ w.accounts then [.userKept x] else [] := by
  by_cases h : x ∈ w.accounts <;> simp [faults, Fault.ofEvent, h]

/-- The account of the signed-in user is removed, or removing it throws. -/
theorem deleteCurrentUser_faults {u : User} (hu : w.currentUser = some u) :
    deleteCurrentUser.wp platform (fun r tr _ => match r with
      | .ok _ => audit tr = [.userRemoved u.uid] ∧ faults tr = []
      | .error _ => audit tr = [] ∧
        faults tr = if u.uid ∈ w.accounts then [.userKept u.uid] else []) w := by
  rw [deleteCurrentUser, authUser, Prog.wp_read_bind, hu]
  exact Prog.wp_invoke.mpr ⟨fun _ e => ⟨rfl, faults_deleteUser w u.uid e⟩, fun v w' _ => ⟨rfl, rfl⟩⟩

/-- The document goes before the account. -/
theorem deleteAccount_faults {u : User} (hu : w.currentUser = some u) :
    deleteAccount.wp platform (fun _ tr _ =>
      RemovalRun (u.uid ∈ w.db .users) (u.uid ∈ w.accounts) u.uid (audit tr) (faults tr)) w := by
  rw [deleteAccount, rethrowing, Prog.wp_handle, authUser, Prog.wp_read_bind, hu]
  rw [Prog.wp_bind, UserRepository.removeUserRecord, UserRepository.rethrowing, Prog.wp_handle]
  refine Prog.wp_invoke.mpr ⟨fun _ e => .docKept, ?_⟩
  rintro ⟨⟩ _ ⟨⟩
  refine Prog.wp_mono (deleteCurrentUser_faults hu) ?_
  have hdel := audit_delete w u.uid
  rintro (e | ⟨⟩) tr w' ⟨haudit, hfaults⟩
  · show RemovalRun _ _ _ (audit (⟨w, .delete .users u.uid, .ok ()⟩ :: (tr ++ [])))
      (faults (tr ++ []))
    rw [List.append_nil, audit_cons, hdel, haudit, hfaults, List.append_nil]
    exact .userKept
  · show RemovalRun _ _ _ (audit (⟨w, .delete .users u.uid, .ok ()⟩ :: tr)) (faults tr)
    rw [audit_cons, hdel, haudit, hfaults]
    exact .removed

theorem RemovalRun.not_mem_notMerged {hasDoc hasAccount : Prop} [Decidable hasDoc]
    [Decidable hasAccount] {x : String} {ms : List Mark} {fs : List Fault}
    (h : RemovalRun hasDoc hasAccount x ms fs) (y : String) (e : Exn) : .notMerged y e ∉ fs := by
  intro hmem
  cases h with
  | docKept => simp at hmem
  | userKept => split at hmem <;> simp at hmem
  | removed => cases hmem

/-- A re-authentication with a password changes nothing. -/
theorem reAuthenticateWithEmailAndPassword_faults (w : World) (email password : String) :
    (reAuthenticateWithEmailAndPassword email password).wp platform
      (fun r tr w' => w' = w ∧ match r with
        | .ok _ => ∃ u, w.currentUser = some u ∧ audit tr = [.reauthenticated u.uid] ∧
          faults tr = []
        | .error _ => Unmarked tr) w := by
  rw [reAuthenticateWithEmailAndPassword, rethrowing, Prog.wp_handle, authUser, Prog.wp_read_bind]
  cases hu : w.currentUser with
  | none => exact ⟨rfl, rfl, rfl⟩
  | some u =>
    refine Prog.wp_invoke.mpr ⟨fun _ e => ⟨rfl, rfl, rfl⟩, fun v w' h => ?_⟩
    obtain ⟨-, hw⟩ := Option.ite_none_right_eq_some.mp h
    exact ⟨(Option.some.inj hw).symm, u, rfl, rfl, rfl⟩

/-- An email is looked for unless the account has none. -/
theorem isRegisteredEmail_faults (w : World) (email : Option String) :
    (isRegisteredEmail email).wp platform (fun r tr w' => w' = w ∧ audit tr = [] ∧
      ∃ b, r = .ok b ∧ (b = true ∧ email ≠ none ∧ faults tr = [] ∨
        b = false ∧ faults tr = if email = none then [] else [.notFound])) w := by
  cases email with
  | none => exact ⟨rfl, rfl, false, rfl, .inr ⟨rfl, rfl⟩⟩
  | some email =>
    rw [isRegisteredEmail, Prog.wp_handle]
    refine Prog.wp_invoke_bind.mpr ⟨fun _ e => ⟨rfl, rfl, false, rfl, .inr ⟨rfl, rfl⟩⟩, ?_⟩
    intro docs w₁ h
    obtain ⟨-, hw⟩ := Option.ite_none_right_eq_some.mp h
    cases docs with
    | nil => exact ⟨(Option.some.inj hw).symm, rfl, false, rfl, .inr ⟨rfl, rfl⟩⟩
    | cons d docs => exact ⟨(Option.some.inj hw).symm, rfl, true, rfl,
      .inl ⟨rfl, Option.some_ne_none email, rfl⟩⟩

/-- An account that is turned away is removed, or removing it throws. -/
theorem deleteUser_faults {x : User} (hx : w.currentUser = some x) (hmem : x.uid ∈ w.accounts)
    (uid : String) : (deleteUser (some uid)).wp platform (fun _ tr _ =>
      audit tr = [] ∧ faults tr = [.userKept x.uid] ∨
      audit tr = [.userRemoved x.uid] ∧ faults tr = []) w := by
  rw [deleteUser, Prog.wp_handle]
  refine Prog.wp_mono (deleteCurrentUser_faults hx) ?_
  rintro (e | ⟨⟩) tr w' h
  · refine .inl ⟨?_, ?_⟩
    · rw [List.append_nil, h.1]
    · rw [List.append_nil, h.2, if_pos hmem]
  · exact .inr h

/-- The time of the last activity is about neither accounts nor documents. -/
theorem updateLastActive_unmarked (w : World) (uid : String) :
    (updateLastActive uid).wp platform (fun _ tr _ => Unmarked tr) w := by
  unfold updateLastActive
  split
  · rw [Prog.wp_handle]
    refine Prog.wp_invoke_bind.mpr ⟨nofun, ?_⟩
    rintro now _ ⟨⟩
    exact Prog.wp_invoke.mpr ⟨fun _ e => ⟨rfl, rfl⟩, fun v w₁ h => ⟨rfl, rfl⟩⟩
  · exact ⟨rfl, rfl⟩

/-- Two runs that mark nothing. -/
theorem Unmarked.append {tr tr' : List Event} (h : Unmarked tr) (h' : Unmarked tr') :
    Unmarked (tr ++ tr') := by
  refine ⟨?_, ?_⟩
  · rw [audit_append, h.1, h'.1, List.append_nil]
  · rw [faults_append, h.2, h'.2, List.append_nil]

/-- The redirection neither writes nor deletes a document of `Users` as a whole. -/
theorem screenRedirect_unmarked (w : World) :
    screenRedirect.wp platform (fun _ tr _ => Unmarked tr) w := by
  rw [screenRedirect, authUser, Prog.wp_read_bind]
  cases w.currentUser with
  | none =>
    refine Prog.wp_modify_bind.mpr (Prog.wp_read_bind.mpr ?_)
    split <;> exact (Sync.getOffAll _).wp.mpr ⟨rfl, rfl⟩
  | some user =>
    have hactive : (updateLastActive user.uid).unawaited.wp platform
        (fun _ tr _ => Unmarked tr) w :=
      Prog.wp_unawaited.mpr (updateLastActive_unmarked w user.uid)
    refine Prog.wp_bind_of hactive (fun e tr w' h => h) ?_
    intro _ tr w' h
    split
    · exact (Sync.getOffAll _).wp.mpr (h.append ⟨rfl, rfl⟩)
    · exact Prog.wp_read_bind.mpr ((Sync.getOffAll _).wp.mpr (h.append ⟨rfl, rfl⟩))

/-- What is left of a login: the loader is closed and the first screen is chosen. -/
theorem redirect_unmarked (w : World) : (do
    FullScreenLoader.stopLoading
    screenRedirect.unawaited : App Unit).wp platform (fun _ tr _ => Unmarked tr) w :=
  wp_stopLoading_bind.mpr (Prog.wp_unawaited.mpr
    (Prog.wp_mono (screenRedirect_unmarked _) fun _ _ _ h => h))

end Specs

end AroundMuseo
