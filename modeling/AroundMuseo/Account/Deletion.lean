import AroundMuseo.Account.Prompts
import AroundMuseo.Controllers.UserController
import AroundMuseo.Platform.Scenario

/-!
# Deleting an account

Deletion is guarded if nothing is removed but what belongs to the user who started
it, and nothing before that user proved to be who they are. The code goes on after
a Google prompt that ended without an exception, whatever the prompt gave.
-/

namespace AroundMuseo

open Async Firestore AuthenticationRepository

/-- The mark of a proof that the user is `x`. -/
def Mark.Proves (m : Mark) (x : String) : Prop := m = .accepted x ∨ m = .reauthenticated x

/-- The mark of a removal of something that belongs to `x`. -/
def Mark.Removes (m : Mark) (x : String) : Prop := m = .docRemoved x ∨ m = .userRemoved x

/-- Whatever is removed belongs to `u`, and `u` proved their identity before. -/
def Guarded (u : String) (log : List Mark) : Prop :=
  ∀ pre m post x, log = pre ++ m :: post → m.Removes x → x = u ∧ ∃ p ∈ pre, p.Proves u

/-- The Google prompt ended without an exception that the caller sees and without a
credential of `u`: it was cancelled, it failed in a way that `signInWithGoogle`
swallows, or it signed in another account. -/
def Unproved (u : String) (log : List Mark) : Prop :=
  .cancelled ∈ log ∨ (∃ e : Exn, .failed e ∈ log ∧ e.isMapped = false) ∨
    ∃ x, .accepted x ∈ log ∧ x ≠ u

/-- The logs of the two deleting operations, started by `u`, where `docs` are the
documents of `Users`. -/
inductive DeletionLog (docs : Set String) (u : String) : List Mark → Prop
  | idle : DeletionLog docs u []
  | refused (e : Exn) (he : e.isMapped = true) : DeletionLog docs u [.failed e]
  | cancelled {ms : List Mark} (h : Removal (u ∈ docs) u ms) : DeletionLog docs u (.cancelled :: ms)
  | failed (e : Exn) (he : e.isMapped = false) {ms : List Mark} (h : Removal (u ∈ docs) u ms) :
      DeletionLog docs u (.failed e :: ms)
  | stored {x : String} {ms : List Mark} (h : Removal True x ms) :
      DeletionLog docs u (.accepted x :: .stored x :: ms)
  | unstored {x : String} {ms : List Mark} (h : Removal (x ∈ docs) x ms) :
      DeletionLog docs u (.accepted x :: ms)
  | reauthenticated {ms : List Mark} (h : Removal (u ∈ docs) u ms) :
      DeletionLog docs u (.reauthenticated u :: ms)

/-- The two operations that delete an account. -/
inductive DeletionOperation where
  | deleteUserAccount
  | reAuthenticateEmailAndPasswordForDeletion (form : ReAuthForm)
  deriving DecidableEq, Repr

/-- The function behind an operation. -/
def DeletionOperation.body : DeletionOperation → App Unit
  | deleteUserAccount => UserController.deleteUserAccount
  | reAuthenticateEmailAndPasswordForDeletion form =>
    UserController.reAuthenticateEmailAndPasswordForDeletion form

section Logs

variable {w : World} {u : User}

theorem wp_firstProvider_bind {f : String → App Unit}
    {Q : Except Exn Unit → List Event → World → Prop}
    (hu : w.currentUser = some u) (herr : Q (.error Exn.noElement) [] w)
    (hok : ∀ provider, u.providerData.head? = some provider → (f provider).wp platform Q w) :
    (UserController.firstProvider >>= f).wp platform Q w := by
  rw [Prog.wp_bind, UserController.firstProvider, authUser, Prog.wp_read_bind, hu]
  rcases u with ⟨uid, email, emailVerified, _ | ⟨provider, rest⟩⟩
  · exact herr
  · exact hok provider rfl

/-- Closing the loader and leaving for the login screen leaves no mark. -/
theorem audit_leave (w : World) : (do
    FullScreenLoader.stopLoading
    await (.getOffAll .login) : App Unit).wp platform (fun _ tr _ => audit tr = []) w :=
  wp_stopLoading_bind.mpr ((Sync.getOffAll _).wp.mpr rfl)

theorem deleteUserAccount_log (hu : w.currentUser = some u) :
    UserController.deleteUserAccount.wp platform
      (fun _ tr _ => DeletionLog w.directory.docs u.uid (audit tr)) w := by
  refine wp_withLoader_log (L := fun log _ _ => DeletionLog _ _ log)
    (wp_firstProvider_bind hu .idle fun provider _ => ?_)
  split
  case isFalse => exact .idle
  split
  case isFalse =>
    split
    · exact wp_stopLoading_bind.mpr ((Sync.getTo _).wp.mpr .idle)
    · exact .idle
  refine Prog.wp_bind_of (signInWithGoogle_spec _) ?_ ?_
  · rintro e tr w' ⟨h, -⟩
    rcases h.of_error with ⟨-, e', he', hms⟩ | ⟨x, -, hms⟩ <;> rw [hms]
    · exact .refused e' he'
    · exact .unstored .nothing
  · rintro r tr w' ⟨h, -⟩
    -- whatever the prompt gave, the account that is signed in now is deleted
    have hdel (x : User) (hx : w'.currentUser = some x) :=
      wp_bind_audit (deleteAccount_spec hx) fun _ => audit_leave
    simp only [audit_append]
    rcases h.of_ok with ⟨rfl, hms⟩ | ⟨x, hx, ⟨hms, hdoc⟩ | ⟨hms, hdb⟩⟩
    · refine Prog.wp_mono (hdel u hu) fun _ tr' _ hrem => ?_
      rcases hms with hms | ⟨e, he, hms⟩ <;> rw [hms]
      · exact .cancelled hrem
      · exact .failed e he hrem
    · refine Prog.wp_mono (hdel x hx) fun _ tr' _ hrem => ?_
      rw [hms]
      exact .stored (by simpa [hdoc] using hrem)
    · refine Prog.wp_mono (hdel x hx) fun _ tr' _ hrem => ?_
      rw [hms]
      exact .unstored (by simpa [hdb, World.mem_docs] using hrem)

theorem reAuthenticateForDeletion_log (hu : w.currentUser = some u) (form : ReAuthForm) :
    (UserController.reAuthenticateEmailAndPasswordForDeletion form).wp platform
      (fun _ tr _ => DeletionLog w.directory.docs u.uid (audit tr)) w := by
  refine wp_withLoader_log (L := fun log _ _ => DeletionLog _ _ log) ?_
  refine wp_whenConnected_log (L := fun log _ _ => DeletionLog _ _ log) .idle ?_
  refine wp_whenValid_log (L := fun log _ _ => DeletionLog _ _ log) .idle ?_
  refine Prog.wp_bind_of (reAuthenticateWithEmailAndPassword_spec _ _ _) ?_ ?_
  · rintro e tr _ ⟨-, -, hlog⟩
    rw [hlog]
    exact .idle
  · rintro ⟨⟩ tr _ ⟨rfl, -, u', hu', hlog⟩
    have huu : u' = u := Option.some.inj (hu'.symm.trans hu)
    rw [huu] at hlog
    simp only [audit_append, hlog]
    refine Prog.wp_mono (wp_bind_audit (deleteAccount_spec hu) fun _ w => ?_) fun _ _ _ hrem =>
      .reauthenticated hrem
    exact wp_stopLoading_bind.mpr
      ((Sync.snackBar _ _ _).wp_bind.mpr ((Sync.getOffAll _).wp.mpr rfl))

/-- The log of either operation. -/
theorem DeletionOperation.log (op : DeletionOperation) (hu : w.currentUser = some u) :
    op.body.wp platform (fun _ tr _ => DeletionLog w.directory.docs u.uid (audit tr)) w := by
  cases op with
  | deleteUserAccount => exact deleteUserAccount_log hu
  | reAuthenticateEmailAndPasswordForDeletion form => exact reAuthenticateForDeletion_log hu form

end Logs

section Guarded

variable {u x : String} {hasDoc : Prop} {prompt ms : List Mark}

theorem Removal.owner (h : Removal hasDoc x ms) {m : Mark} {y : String} (hm : m ∈ ms)
    (hy : m.Removes y) : y = x := by
  rcases h.mem hm with rfl | rfl
  · rcases hy with hy | hy
    · exact (Mark.docRemoved.inj hy).symm
    · cases hy
  · rcases hy with hy | hy
    · cases hy
    · exact (Mark.userRemoved.inj hy).symm

/-- A deletion that removes something begins with a removal. -/
theorem Removal.cons (h : Removal hasDoc x ms) (hne : ms ≠ []) :
    ∃ m rest, ms = m :: rest ∧ m.Removes x := by
  cases h with
  | nothing => exact absurd rfl hne
  | docOnly => exact ⟨_, _, rfl, .inl rfl⟩
  | userOnly => exact ⟨_, _, rfl, .inr rfl⟩
  | both => exact ⟨_, _, rfl, .inl rfl⟩

/-- If the prompt removes nothing and the deletion removes what belongs to `x`, the run
is guarded when nothing is removed or when `x` is `u` and the prompt proved it. -/
theorem guarded_append (hprompt : ∀ m ∈ prompt, ∀ y, ¬ m.Removes y) (h : Removal hasDoc x ms) :
    Guarded u (prompt ++ ms) ↔ ms = [] ∨ (x = u ∧ ∃ p ∈ prompt, p.Proves u) := by
  constructor
  · intro hg
    by_cases hne : ms = []
    · exact .inl hne
    · obtain ⟨m, rest, rfl, hm⟩ := h.cons hne
      exact .inr (hg prompt m rest x rfl hm)
  · intro hor pre m post y hlog hy
    -- the removal `m` is not in the prompt, so the whole prompt comes before it
    rcases List.append_eq_append_iff.mp hlog with ⟨mid, rfl, hms⟩ | ⟨mid, hpre, hmid⟩
    · have hmem : m ∈ ms := by rw [hms]; simp
      rcases hor with rfl | ⟨rfl, p, hp, hproof⟩
      · cases hmem
      · exact ⟨h.owner hmem hy, p, List.mem_append_left _ hp, hproof⟩
    · cases mid with
      | nil =>
        rw [List.nil_append] at hmid
        rw [List.append_nil] at hpre
        have hmem : m ∈ ms := by rw [← hmid]; exact List.mem_cons_self
        rcases hor with rfl | ⟨rfl, p, hp, hproof⟩
        · cases hmem
        · exact ⟨h.owner hmem hy, p, hpre ▸ hp, hproof⟩
      | cons m' mid =>
        obtain ⟨rfl, -⟩ := List.cons.inj hmid
        exact absurd hy (hprompt m (by rw [hpre]; simp) y)

theorem removes_append (hprompt : ∀ m ∈ prompt, ∀ y, ¬ m.Removes y) (h : Removal hasDoc x ms) :
    (∃ m ∈ prompt ++ ms, ∃ y, m.Removes y) ↔ ms ≠ [] := by
  constructor
  · rintro ⟨m, hm, y, hy⟩ rfl
    rw [List.append_nil] at hm
    exact hprompt m hm y hy
  · intro hne
    obtain ⟨m, rest, rfl, hm⟩ := h.cons hne
    exact ⟨m, by simp, x, hm⟩

/-- The removals say nothing about the prompt. -/
theorem unproved_append (h : Removal hasDoc x ms) :
    Unproved u (prompt ++ ms) ↔ Unproved u prompt := by
  have hms (m : Mark) (hm : m ≠ .docRemoved x ∧ m ≠ .userRemoved x) : m ∉ ms := fun hmem =>
    (h.mem hmem).elim hm.1 hm.2
  simp [Unproved, hms]

/-- A log is guarded unless the prompt proved nothing and something was removed. -/
theorem guarded_append_iff (prompt : List Mark) (hprompt : ∀ m ∈ prompt, ∀ y, ¬ m.Removes y)
    (h : Removal hasDoc x ms)
    (hproof : ms = [] ∨ (Unproved u prompt ↔ ¬ (x = u ∧ ∃ p ∈ prompt, p.Proves u))) :
    Guarded u (prompt ++ ms) ↔
      ¬ (Unproved u (prompt ++ ms) ∧ ∃ m ∈ prompt ++ ms, ∃ y, m.Removes y) := by
  rw [guarded_append hprompt h, unproved_append h, removes_append hprompt h]
  rcases hproof with rfl | hproof
  · simp
  · rw [hproof, not_and_or, not_not, not_not]
    exact or_comm

theorem guarded_iff {docs : Set String} {log : List Mark} (h : DeletionLog docs u log) :
    Guarded u log ↔ ¬ (Unproved u log ∧ ∃ m ∈ log, ∃ y, m.Removes y) := by
  have hnothing : Removal False u [] := .nothing
  cases h with
  | idle => exact guarded_append_iff [] nofun hnothing (.inl rfl)
  | refused e he =>
    exact guarded_append_iff [.failed e] (by simp [Mark.Removes]) hnothing (.inl rfl)
  | cancelled h =>
    refine guarded_append_iff [.cancelled] (by simp [Mark.Removes]) h (.inr ?_)
    simp [Unproved, Mark.Proves]
  | failed e he h =>
    refine guarded_append_iff [.failed e] (by simp [Mark.Removes]) h (.inr ?_)
    simp [Unproved, Mark.Proves, he]
  | @stored x ms h =>
    refine guarded_append_iff [.accepted x, .stored x] (by simp [Mark.Removes]) h
      (.inr ?_)
    simp [Unproved, Mark.Proves]
  | @unstored x ms h =>
    refine guarded_append_iff [.accepted x] (by simp [Mark.Removes]) h (.inr ?_)
    simp [Unproved, Mark.Proves]
  | reauthenticated h =>
    refine guarded_append_iff [.reauthenticated u] (by simp [Mark.Removes]) h (.inr ?_)
    simp [Unproved, Mark.Proves]

end Guarded

/-- A deletion that `u` starts is guarded, and removes only what belongs to `u`, unless
the Google prompt ended without a proof and a deletion went through all the same. -/
theorem deletion_guarded_iff (op : DeletionOperation) {w w' : World} {u : User}
    {tr : List Event} {r : Except Exn Unit} (hu : w.currentUser = some u)
    (hrun : op.body.Run platform w tr r w') :
    Guarded u.uid (audit tr) ↔
      ¬ (Unproved u.uid (audit tr) ∧ ∃ m ∈ audit tr, ∃ x, m.Removes x) :=
  guarded_iff (Prog.wp_iff_run.mp (op.log hu) tr r w' hrun)

/-- A user of a Google account, alone in the store. -/
def googleUser : World := .withUsers [.of "u" "u@example.com" "google.com"]

/-- The prompt accepts the user's own account, and the deletion is guarded. -/
theorem deletion_guarded_by_own_account :
    ∃ tr r w', DeletionOperation.deleteUserAccount.body.Run platform googleUser tr r w' ∧
      .userRemoved "u" ∈ audit tr ∧ Guarded "u" (audit tr) := by
  obtain ⟨tr, r, w', hrun, hq⟩ := scenario_run
    DeletionOperation.deleteUserAccount.body googleUser
    (choosing { id := "u", email := "u@example.com" })
    (fun out => audit out.1 = [.accepted "u", .stored "u", .docRemoved "u", .userRemoved "u"])
    (by decide +kernel)
  have hlog := of_decide_eq_true hq
  refine ⟨tr, r, w', hrun, by simp [hlog], ?_⟩
  refine (deletion_guarded_iff .deleteUserAccount (u := .of "u" "u@example.com" "google.com") rfl
    hrun).mpr ?_
  rw [hlog]
  simp [Unproved, User.of]

/-- A cancelled prompt does not stop the deletion. -/
theorem deletion_not_guarded_when_cancelled :
    ¬ ∀ (op : DeletionOperation) (w w' : World) (u : User) (tr : List Event) (r : Except Exn Unit),
      w.currentUser = some u → op.body.Run platform w tr r w' → Guarded u.uid (audit tr) := by
  intro hall
  obtain ⟨tr, r, w', hrun, hq⟩ := scenario_run
    DeletionOperation.deleteUserAccount.body googleUser (fun _ _ => none)
    (fun out => audit out.1 = [.cancelled, .docRemoved "u", .userRemoved "u"])
    (by decide +kernel)
  have hlog := of_decide_eq_true hq
  have hg := hall .deleteUserAccount googleUser w' (.of "u" "u@example.com" "google.com") tr r rfl
    hrun
  obtain ⟨-, p, hp, hproof⟩ := hg [.cancelled] (.docRemoved "u") [.userRemoved "u"] "u" hlog
    (.inl rfl)
  rw [List.mem_singleton] at hp
  subst hp
  rcases hproof with h | h <;> cases h

end AroundMuseo
