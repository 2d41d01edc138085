import AroundMuseo.Account.Directory
import AroundMuseo.Repositories.AuthenticationRepository

/-!
# Sign-in, re-authentication and deletion

What the functions of the authentication repository leave in the audit log, one
constructor for each way a run of theirs can end.
-/

namespace AroundMuseo

open Async Firestore AuthenticationRepository

/-- What `signInWithGoogle` makes of an exception. -/
def caught (e : Exn) : Except Exn (Option UserCredential) :=
  if e.isMapped then .error (e.authRethrown "") else .ok none

/-- The outcomes of `signInWithGoogle`: result, log and state. -/
inductive SignInOutcome (w : World) :
    Except Exn (Option UserCredential) → List Mark → World → Prop
  | cancelled : SignInOutcome w (.ok none) [.cancelled] w
  | failed (e : Exn) : SignInOutcome w (caught e) [.failed e] w
  /-- The profile was merged into the document of the account. -/
  | stored {g : GoogleSignInAuthentication} {c : UserCredential} {w₁ : World} (now : DateTime)
      (h : effect (.signInWithCredential g) w c = some w₁) :
      SignInOutcome w (.ok (some c)) [.accepted c.user.uid, .stored c.user.uid]
        (w₁.setDb .users
          ((w₁.db .users).setMerge c.user.uid (googleProfile g.account now)))
  /-- The account is signed in, but its profile was not written. -/
  | unstored {g : GoogleSignInAuthentication} {c : UserCredential} {w₁ : World} (e : Exn)
      (h : effect (.signInWithCredential g) w c = some w₁) :
      SignInOutcome w (caught e) [.accepted c.user.uid] w₁

/-- The `catch` blocks of `signInWithGoogle`. -/
theorem wp_caught {Q : Except Exn (Option UserCredential) → List Event → World → Prop}
    {e : Exn} {w : World} (h : Q (caught e) [] w) :
    (if e.isMapped then throw (e.authRethrown "") else pure none :
      App (Option UserCredential)).wp platform Q w := by
  unfold caught at h
  split at h
  case isTrue he =>
    rw [if_pos he]
    exact h
  case isFalse he =>
    rw [if_neg he]
    exact h

/-- Every exception before the credential is accepted leaves the session alone, and no
screen is shown. -/
theorem signInWithGoogle_spec (w : World) :
    signInWithGoogle.wp platform
      (fun r tr w' => SignInOutcome w r (audit tr) w' ∧ screens tr = []) w := by
  rw [signInWithGoogle, Prog.wp_handle]
  refine Prog.wp_invoke_bind.mpr ⟨fun _ e => wp_caught ⟨.failed e, rfl⟩, ?_⟩
  rintro - _ ⟨⟩
  refine Prog.wp_invoke_bind.mpr ⟨fun _ e => wp_caught ⟨.failed e, rfl⟩, ?_⟩
  rintro (_ | account) _ ⟨⟩
  · exact ⟨.cancelled, rfl⟩
  refine Prog.wp_invoke_bind.mpr ⟨fun _ e => wp_caught ⟨.failed e, rfl⟩, ?_⟩
  rintro (g : GoogleSignInAuthentication) w₁ hg
  simp only [platform, effect, Option.ite_none_right_eq_some, Option.some.injEq] at hg
  obtain ⟨rfl, rfl⟩ := hg
  refine Prog.wp_invoke_bind.mpr ⟨fun _ e => wp_caught ⟨.failed e, rfl⟩, fun c w₁ hc => ?_⟩
  refine wp_now_bind.mpr fun now => ?_
  refine Prog.wp_invoke_bind.mpr ⟨fun _ e => wp_caught ⟨.unstored e hc, rfl⟩, ?_⟩
  rintro - _ ⟨⟩
  exact ⟨.stored now hc, rfl⟩

/-- The account of an accepted credential is the session, and nobody's document is
touched by accepting it. -/
theorem currentUser_of_accepted {w w₁ : World} {g : GoogleSignInAuthentication}
    {c : UserCredential} (h : effect (.signInWithCredential g) w c = some w₁) :
    w₁.currentUser = some c.user ∧ w₁.db = w.db := by
  simp only [effect] at h
  split at h
  all_goals
    obtain ⟨-, hw⟩ := Option.ite_none_right_eq_some.mp h
    cases hw
    exact ⟨rfl, rfl⟩

theorem caught_eq_error {e e' : Exn} (h : .error e' = caught e) : e.isMapped = true := by
  unfold caught at h
  split at h
  case isTrue he => exact he
  case isFalse => cases h

theorem caught_eq_ok {e : Exn} {r : Option UserCredential} (h : .ok r = caught e) :
    e.isMapped = false ∧ r = none := by
  unfold caught at h
  split at h
  case isTrue => cases h
  case isFalse he =>
    cases h
    exact ⟨Bool.eq_false_iff.mpr he, rfl⟩

/-- When `signInWithGoogle` throws, its caller stops. -/
theorem SignInOutcome.of_error {w w' : World} {e : Exn} {ms : List Mark}
    (h : SignInOutcome w (.error e) ms w') :
    (w' = w ∧ ∃ e' : Exn, e'.isMapped = true ∧ ms = [.failed e']) ∨
    ∃ x : User, w'.currentUser = some x ∧ ms = [.accepted x.uid] := by
  generalize hr : Except.error e = r at h
  cases h with
  | cancelled => cases hr
  | failed e' => exact .inl ⟨rfl, e', caught_eq_error hr, rfl⟩
  | stored now hc => cases hr
  | unstored e' hc => exact .inr ⟨_, (currentUser_of_accepted hc).1, rfl⟩

/-- When it does not throw, the session is as before or that of the accepted account. -/
theorem SignInOutcome.of_ok {w w' : World} {r : Option UserCredential} {ms : List Mark}
    (h : SignInOutcome w (.ok r) ms w') :
    (w' = w ∧ (ms = [.cancelled] ∨ ∃ e : Exn, e.isMapped = false ∧ ms = [.failed e])) ∨
    ∃ x : User, w'.currentUser = some x ∧
      (ms = [.accepted x.uid, .stored x.uid] ∧ x.uid ∈ w'.db .users ∨
        ms = [.accepted x.uid] ∧ w'.db = w.db) := by
  generalize hr : Except.ok r = r' at h
  cases h with
  | cancelled => exact .inl ⟨rfl, .inl rfl⟩
  | failed e' => exact .inl ⟨rfl, .inr ⟨e', (caught_eq_ok hr).1, rfl⟩⟩
  | stored now hc =>
    refine .inr ⟨_, (currentUser_of_accepted hc).1, .inl ⟨rfl, ?_⟩⟩
    rw [World.setDb_db_self]
    exact Collection.mem_setMerge.mpr (.inl rfl)
  | unstored e' hc =>
    obtain ⟨hu, hdb⟩ := currentUser_of_accepted hc
    exact .inr ⟨_, hu, .inr ⟨rfl, hdb⟩⟩

/-- A credential is returned only after its account was signed in and its profile
merged. -/
theorem SignInOutcome.of_some {w w' : World} {c : UserCredential} {ms : List Mark}
    (h : SignInOutcome w (.ok (some c)) ms w') :
    ms = [.accepted c.user.uid, .stored c.user.uid] ∧
    ∃ g w₁ now, effect (.signInWithCredential g) w c = some w₁ ∧
      w' = w₁.setDb .users ((w₁.db .users).setMerge c.user.uid (googleProfile g.account now)) := by
  generalize hr : Except.ok (some c) = r at h
  cases h with
  | cancelled => cases hr
  | failed e => cases (caught_eq_ok hr).2
  | stored now hc =>
    cases hr
    exact ⟨rfl, _, _, now, hc, rfl⟩
  | unstored e hc => cases (caught_eq_ok hr).2

/-- The outcomes of a re-authentication with a password, which changes nothing. -/
theorem reAuthenticateWithEmailAndPassword_spec (w : World) (email password : String) :
    (reAuthenticateWithEmailAndPassword email password).wp platform
      (fun r tr w' => w' = w ∧ screens tr = [] ∧ match r with
        | .ok _ => ∃ u, w.currentUser = some u ∧ audit tr = [.reauthenticated u.uid]
        | .error _ => audit tr = []) w := by
  rw [reAuthenticateWithEmailAndPassword, rethrowing, Prog.wp_handle, authUser, Prog.wp_read_bind]
  cases hu : w.currentUser with
  | none => exact ⟨rfl, rfl, rfl⟩
  | some u =>
    refine Prog.wp_invoke.mpr ⟨fun _ e => ⟨rfl, rfl, rfl⟩, fun v w' h => ?_⟩
    obtain ⟨-, hw⟩ := Option.ite_none_right_eq_some.mp h
    exact ⟨(Option.some.inj hw).symm, rfl, u, rfl, rfl⟩

/-- What a deletion removes of the account `x`, which has a document or not. -/
inductive Removal (hasDoc : Prop) (x : String) : List Mark → Prop
  | nothing : Removal hasDoc x []
  | docOnly (h : hasDoc) : Removal hasDoc x [.docRemoved x]
  | userOnly (h : ¬ hasDoc) : Removal hasDoc x [.userRemoved x]
  | both (h : hasDoc) : Removal hasDoc x [.docRemoved x, .userRemoved x]

/-- A deletion removes only what belongs to `x`. -/
theorem Removal.mem {hasDoc : Prop} {x : String} {ms : List Mark} (h : Removal hasDoc x ms)
    {m : Mark} (hm : m ∈ ms) : m = .docRemoved x ∨ m = .userRemoved x := by
  cases h <;> simp_all

/-- `_auth.currentUser?.delete()`, for a user who is signed in. -/
theorem deleteCurrentUser_spec {w : World} {u : User} (hu : w.currentUser = some u) :
    deleteCurrentUser.wp platform (fun r tr _ => match r with
      | .ok _ => audit tr = [.userRemoved u.uid]
      | .error _ => audit tr = []) w := by
  rw [deleteCurrentUser, authUser, Prog.wp_read_bind, hu]
  exact Prog.wp_invoke.mpr ⟨fun _ e => rfl, fun v w' _ => rfl⟩

theorem audit_delete (w : World) (x : String) :
    audit [⟨w, .delete .users x, .ok ()⟩] = if x ∈ w.db .users then [.docRemoved x] else [] := by
  by_cases h : x ∈ w.db .users <;> simp [audit, Mark.ofEvent, h]

/-- The document is deleted first, and the account only after that succeeded. -/
theorem deleteAccount_spec {w : World} {u : User} (hu : w.currentUser = some u) :
    deleteAccount.wp platform
      (fun _ tr _ => Removal (u.uid ∈ w.db .users) u.uid (audit tr)) w := by
  rw [deleteAccount, rethrowing, Prog.wp_handle, authUser, Prog.wp_read_bind, hu]
  rw [Prog.wp_bind, UserRepository.removeUserRecord, UserRepository.rethrowing, Prog.wp_handle]
  refine Prog.wp_invoke.mpr ⟨fun _ e => .nothing, ?_⟩
  rintro ⟨⟩ _ ⟨⟩
  refine Prog.wp_mono (deleteCurrentUser_spec hu) ?_
  have hdel := audit_delete w u.uid
  rintro (e | ⟨⟩) tr w' h
  · have hlog : audit (⟨w, .delete .users u.uid, .ok ()⟩ :: tr) =
        if u.uid ∈ w.db .users then [.docRemoved u.uid] else [] := by
      rw [audit_cons, hdel, h, List.append_nil]
    show Removal _ _ (audit (⟨w, .delete .users u.uid, .ok ()⟩ :: (tr ++ [])))
    rw [List.append_nil, hlog]
    split
    case isTrue hdoc => exact .docOnly hdoc
    case isFalse => exact .nothing
  · show Removal _ _ (audit (⟨w, .delete .users u.uid, .ok ()⟩ :: tr))
    rw [audit_cons, hdel, h]
    split
    case isTrue hdoc => exact .both hdoc
    case isFalse hdoc => exact .userOnly hdoc

end AroundMuseo
