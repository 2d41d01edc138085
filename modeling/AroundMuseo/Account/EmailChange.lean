import AroundMuseo.Account.Deletion

/-!
# Changing the email

Before the screen for a new email is shown, the user proves again who they are. The
Google path compares emails instead: equal emails are what a prompt that did nothing
leaves, and the comparison does not undo a switch to another account.
-/

namespace AroundMuseo

open Async Firestore AuthenticationRepository

/-- The screen for a new email is shown only after a proof of the identity `u`, and `u`
is signed in at the end. -/
def EmailChangeGuarded (u : String) (log : List Mark) (shown : List Screen)
    (session : Option User) : Prop :=
  (.changeEmail ∈ shown → ∃ m ∈ log, m.Proves u) ∧ session.map (·.uid) = some u

/-- The runs of the two operations that lead to a change of the email, started by `u`:
log, screens and the session at the end. -/
inductive EmailChangeLog (u : String) : List Mark → List Screen → Option User → Prop
  | idle {session : Option User} (hs : session.map (·.uid) = some u) :
      EmailChangeLog u [] [] session
  | askPassword {session : Option User} (hs : session.map (·.uid) = some u) :
      EmailChangeLog u [] [.reAuthLoginFormEmailChange] session
  | refused {session : Option User} (hs : session.map (·.uid) = some u) (e : Exn)
      (he : e.isMapped = true) : EmailChangeLog u [.failed e] [] session
  | cancelled {session : Option User} (hs : session.map (·.uid) = some u) :
      EmailChangeLog u [.cancelled] [.changeEmail] session
  | failed {session : Option User} (hs : session.map (·.uid) = some u) (e : Exn)
      (he : e.isMapped = false) : EmailChangeLog u [.failed e] [.changeEmail] session
  | accepted {session : Option User} {x : String} (hs : session.map (·.uid) = some x)
      {log : List Mark} (hlog : log = [] ∨ log = [.stored x]) (shown : List Screen) :
      EmailChangeLog u (.accepted x :: log) shown session
  | reauthenticated {session : Option User} (hs : session.map (·.uid) = some u) :
      EmailChangeLog u [.reauthenticated u] [.changeEmail] session

/-- The two operations that lead to a change of the email. -/
inductive EmailChangeOperation where
  | resetEmailAddress
  | reAuthenticateEmailAndPasswordEmailChange (form : ReAuthForm)
  deriving DecidableEq, Repr

/-- The function behind an operation. -/
def EmailChangeOperation.body : EmailChangeOperation → App Unit
  | resetEmailAddress => UserController.resetEmailAddress
  | reAuthenticateEmailAndPasswordEmailChange form =>
    UserController.reAuthenticateEmailAndPasswordEmailChange form

section Logs

variable {w : World} {u : User}

/-- What `resetEmailAddress` does after the Google prompt: it compares two emails. -/
private def compareEmails (before : Option User) : App Unit := do
  FullScreenLoader.stopLoading
  let user ← authUser
  if user.bind (·.email) ≠ before.bind (·.email) then
    await (.snackBar .error "Invalid re-authentication"
      "Cannot change email with a different Google account.")
    await (.getOff .profile)
  else
    await (.getOff .changeEmail)

/-- The comparison leaves no mark; an unchanged session passes it. -/
private theorem wp_compareEmails (before : Option User) :
    (compareEmails before).wp platform (fun _ tr w' => audit tr = [] ∧
      w'.currentUser = w.currentUser ∧
      (w.currentUser = before → screens tr = [.changeEmail])) w := by
  refine wp_stopLoading_bind.mpr (Prog.wp_read_bind.mpr ?_)
  split
  case isTrue hne =>
    refine (Sync.snackBar _ _ _).wp_bind.mpr ((Sync.getOff _).wp.mpr ⟨rfl, rfl, fun heq => ?_⟩)
    exact absurd (heq ▸ rfl) hne
  case isFalse => exact (Sync.getOff _).wp.mpr ⟨rfl, rfl, fun _ => rfl⟩

theorem resetEmailAddress_log (hu : w.currentUser = some u) :
    UserController.resetEmailAddress.wp platform
      (fun _ tr w' => EmailChangeLog u.uid (audit tr) (screens tr) w'.currentUser) w := by
  have hs : w.currentUser.map (·.uid) = some u.uid := by rw [hu, Option.map_some]
  refine wp_withLoader_log (Prog.wp_read_bind.mpr (wp_firstProvider_bind hu (.idle hs) ?_))
  intro provider _
  split
  case isFalse => exact .idle hs
  split
  case isFalse =>
    split
    · exact wp_stopLoading_bind.mpr ((Sync.getTo _).wp.mpr (.askPassword hs))
    · exact .idle hs
  refine Prog.wp_bind_of (signInWithGoogle_spec _) ?_ ?_
  · rintro e tr w' ⟨h, hscreens⟩
    rw [hscreens]
    rcases h.of_error with ⟨rfl, e', he', hms⟩ | ⟨x, hx, hms⟩ <;> rw [hms]
    · exact .refused hs e' he'
    · exact .accepted (by rw [hx, Option.map_some]) (.inl rfl) []
  · rintro r tr w' ⟨h, hscreens⟩
    refine Prog.wp_mono (wp_compareEmails w.currentUser) ?_
    rintro r' tr' w'' ⟨hlog, hsession, hshown⟩
    rw [audit_append, screens_append, hlog, hscreens, hsession, List.append_nil, List.nil_append]
    rcases h.of_ok with ⟨rfl, hms⟩ | ⟨x, hx, hms⟩
    · rw [hshown rfl]
      rcases hms with hms | ⟨e, he, hms⟩ <;> rw [hms]
      · exact .cancelled hs
      · exact .failed hs e he
    · have hsx : w'.currentUser.map (·.uid) = some x.uid := by rw [hx, Option.map_some]
      rcases hms with ⟨hms, -⟩ | ⟨hms, -⟩ <;> rw [hms]
      · exact .accepted hsx (.inr rfl) _
      · exact .accepted hsx (.inl rfl) _

theorem reAuthenticateEmailChange_log (hu : w.currentUser = some u) (form : ReAuthForm) :
    (UserController.reAuthenticateEmailAndPasswordEmailChange form).wp platform
      (fun _ tr w' => EmailChangeLog u.uid (audit tr) (screens tr) w'.currentUser) w := by
  have hs : w.currentUser.map (·.uid) = some u.uid := by rw [hu, Option.map_some]
  refine wp_withLoader_log (wp_whenConnected_log (.idle hs) (wp_whenValid_log (.idle hs) ?_))
  refine Prog.wp_bind_of (reAuthenticateWithEmailAndPassword_spec _ _ _) ?_ ?_
  · rintro e tr _ ⟨rfl, hscreens, hlog⟩
    rw [hlog, hscreens]
    exact .idle hs
  · rintro ⟨⟩ tr _ ⟨rfl, hscreens, u', hu', hlog⟩
    have huu : u' = u := Option.some.inj (hu'.symm.trans hu)
    refine wp_stopLoading_bind.mpr ((Sync.getOff _).wp.mpr ?_)
    rw [audit_append, screens_append, hscreens, hlog, huu]
    exact .reauthenticated hs

/-- The run of either operation. -/
theorem EmailChangeOperation.log (op : EmailChangeOperation) (hu : w.currentUser = some u) :
    op.body.wp platform
      (fun _ tr w' => EmailChangeLog u.uid (audit tr) (screens tr) w'.currentUser) w := by
  cases op with
  | resetEmailAddress => exact resetEmailAddress_log hu
  | reAuthenticateEmailAndPasswordEmailChange form => exact reAuthenticateEmailChange_log hu form

end Logs

/-- Such a run is guarded exactly when the Google prompt, if there was one, did not end
without a proof. -/
theorem EmailChangeLog.guarded_iff {u : String} {log : List Mark} {shown : List Screen}
    {session : Option User} (h : EmailChangeLog u log shown session) :
    EmailChangeGuarded u log shown session ↔ ¬ Unproved u log := by
  cases h with
  | idle hs => simp [EmailChangeGuarded, Unproved, hs]
  | askPassword hs => simp [EmailChangeGuarded, Unproved, hs]
  | refused hs e he => simp [EmailChangeGuarded, Unproved, hs, he]
  | cancelled hs => simp [EmailChangeGuarded, Unproved, Mark.Proves]
  | failed hs e he => simp [EmailChangeGuarded, Unproved, Mark.Proves, he]
  | @accepted session x hs log hlog shown =>
    have hproof : ¬ Unproved u (.accepted x :: log) ↔ x = u := by
      rcases hlog with rfl | rfl <;> simp [Unproved]
    rw [hproof, EmailChangeGuarded, hs]
    constructor
    · rintro ⟨-, hx⟩
      exact Option.some.inj hx
    · rintro rfl
      exact ⟨fun _ => ⟨.accepted x, List.mem_cons_self, .inl rfl⟩, rfl⟩
  | reauthenticated hs => simp [EmailChangeGuarded, Unproved, Mark.Proves, hs]

/-- The email can be changed only after a proof of the identity, and nobody else ends up
signed in, exactly when the prompt was not cancelled, did not fail in a way that is
swallowed and did not accept another account. -/
theorem emailChange_guarded_iff (op : EmailChangeOperation) {w w' : World} {u : User}
    {tr : List Event} {r : Except Exn Unit} (hu : w.currentUser = some u)
    (hrun : op.body.Run platform w tr r w') :
    EmailChangeGuarded u.uid (audit tr) (screens tr) w'.currentUser ↔ ¬ Unproved u.uid (audit tr) :=
  (Prog.wp_iff_run.mp (op.log hu) tr r w' hrun).guarded_iff

/-- The prompt accepts the user's own account. -/
theorem emailChange_guarded_by_own_account :
    ∃ tr r w', EmailChangeOperation.resetEmailAddress.body.Run platform googleUser tr r w' ∧
      .changeEmail ∈ screens tr ∧
      EmailChangeGuarded "u" (audit tr) (screens tr) w'.currentUser := by
  obtain ⟨tr, r, w', hrun, hq⟩ := scenario_run
    EmailChangeOperation.resetEmailAddress.body googleUser
    (choosing { id := "u", email := "u@example.com" })
    (fun out => audit out.1 = [.accepted "u", .stored "u"] ∧ screens out.1 = [.changeEmail])
    (by decide +kernel)
  obtain ⟨hlog, hshown⟩ := of_decide_eq_true hq
  refine ⟨tr, r, w', hrun, by simp [hshown], ?_⟩
  refine (emailChange_guarded_iff .resetEmailAddress
    (u := .of "u" "u@example.com" "google.com") rfl hrun).mpr ?_
  rw [hlog]
  simp [Unproved, User.of]

/-- A cancelled prompt opens the screen for a new email. -/
theorem emailChange_not_guarded_when_cancelled :
    ¬ ∀ (op : EmailChangeOperation) (w w' : World) (u : User) (tr : List Event)
      (r : Except Exn Unit), w.currentUser = some u → op.body.Run platform w tr r w' →
        EmailChangeGuarded u.uid (audit tr) (screens tr) w'.currentUser := by
  intro hall
  obtain ⟨tr, r, w', hrun, hq⟩ := scenario_run
    EmailChangeOperation.resetEmailAddress.body googleUser (fun _ _ => none)
    (fun out => audit out.1 = [.cancelled] ∧ screens out.1 = [.changeEmail])
    (by decide +kernel)
  obtain ⟨hlog, hshown⟩ := of_decide_eq_true hq
  have hg := hall .resetEmailAddress googleUser w' (.of "u" "u@example.com" "google.com") tr r rfl
    hrun
  obtain ⟨p, hp, hproof⟩ := hg.1 (by simp [hshown])
  rw [hlog, List.mem_singleton] at hp
  subst hp
  rcases hproof with h | h <;> cases h

end AroundMuseo
