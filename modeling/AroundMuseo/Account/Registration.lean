import AroundMuseo.Account.Prompts
import AroundMuseo.Controllers.AuthControllers

/-!
# Login, redirection and registered emails

What the rest of the sign-in functions leave in the audit log. The redirection and the
query for a registered email leave nothing, whatever becomes of them.
-/

namespace AroundMuseo

open Async Firestore AuthenticationRepository

variable {w : World}

/-- After a password login the email of the document is matched, which writes fields of
an existing document only. -/
theorem updateFirestoreEmailIfNeeded_spec (w : World) (uid authEmail : String) :
    (updateFirestoreEmailIfNeeded uid authEmail).wp platform
      (fun r tr _ => r = .ok () ∧ audit tr = []) w := by
  rw [updateFirestoreEmailIfNeeded, Prog.wp_handle]
  refine Prog.wp_invoke_bind.mpr ⟨fun _ e => ⟨rfl, rfl⟩, fun userDoc w₁ h => ?_⟩
  cases snapshotEmail userDoc with
  | error e => exact Prog.wp_throw_bind.mpr ⟨rfl, rfl⟩
  | ok firestoreEmail =>
    refine Prog.wp_pure_bind.mpr ?_
    by_cases hne : firestoreEmail ≠ some authEmail
    · rw [if_pos hne]
      exact Prog.wp_invoke.mpr ⟨fun _ e => ⟨rfl, rfl⟩, fun v w₂ hv => ⟨rfl, rfl⟩⟩
    · rw [if_neg hne]
      exact ⟨rfl, rfl⟩

theorem loginWithEmailAndPassword_spec (w : World) (email password : String) :
    (loginWithEmailAndPassword email password).wp platform
      (fun _ tr _ => audit tr = [] ∨ ∃ x, audit tr = [.signedIn x]) w := by
  rw [loginWithEmailAndPassword, rethrowing, Prog.wp_handle]
  refine Prog.wp_invoke_bind.mpr ⟨fun _ e => .inl rfl, fun c w₁ h => ?_⟩
  refine Prog.wp_bind_of (updateFirestoreEmailIfNeeded_spec _ _ _) ?_ ?_
  · rintro e tr w' ⟨⟨⟩, -⟩
  · rintro ⟨⟩ tr w' ⟨-, hlog⟩
    refine .inr ⟨c.user.uid, ?_⟩
    rw [audit_cons, List.append_nil, hlog]
    rfl

theorem updateLastActive_spec (w : World) (uid : String) :
    (updateLastActive uid).wp platform
      (fun r tr _ => r = .ok () ∧ audit tr = [] ∧ screens tr = []) w := by
  unfold updateLastActive
  split
  · rw [Prog.wp_handle]
    refine Prog.wp_invoke_bind.mpr ⟨nofun, ?_⟩
    rintro now _ ⟨⟩
    exact Prog.wp_invoke.mpr ⟨fun _ e => ⟨rfl, rfl, rfl⟩, fun v w₁ h => ⟨rfl, rfl, rfl⟩⟩
  · exact ⟨rfl, rfl, rfl⟩

/-- The redirection never throws, leaves no mark and shows one screen. -/
theorem screenRedirect_spec (w : World) :
    screenRedirect.wp platform
      (fun r tr _ => r = .ok () ∧ audit tr = [] ∧ ∃ screen, screens tr = [screen]) w := by
  rw [screenRedirect, authUser, Prog.wp_read_bind]
  cases w.currentUser with
  | none =>
    refine Prog.wp_modify_bind.mpr (Prog.wp_read_bind.mpr ?_)
    split <;> exact (Sync.getOffAll _).wp.mpr ⟨rfl, rfl, _, rfl⟩
  | some user =>
    have hactive : (updateLastActive user.uid).unawaited.wp platform
        (fun r tr _ => r = .ok () ∧ audit tr = [] ∧ screens tr = []) w :=
      Prog.wp_unawaited.mpr
        (Prog.wp_mono (updateLastActive_spec w user.uid) fun _ _ _ h => ⟨rfl, h.2⟩)
    refine Prog.wp_bind_of hactive ?_ ?_
    · rintro e tr w' ⟨⟨⟩, -⟩
    · rintro ⟨⟩ tr w' ⟨-, hlog, hshown⟩
      simp only [audit_append, screens_append, hlog, hshown, List.nil_append]
      split
      · exact (Sync.getOffAll _).wp.mpr ⟨rfl, rfl, _, rfl⟩
      · exact Prog.wp_read_bind.mpr ((Sync.getOffAll _).wp.mpr ⟨rfl, rfl, _, rfl⟩)

/-- Some document of the collection has the email. -/
def EmailIn (c : Collection) (email : String) : Prop :=
  ∃ x d, c.lookup x = some d ∧ d.lookup "Email" = some (.scalar (.string email))

/-- The query changes nothing and never throws. If it is answered, it tells whether the
email is that of a document. -/
theorem isRegisteredEmail_spec (w : World) (email : Option String) :
    (isRegisteredEmail email).wp platform (fun r tr w' => w' = w ∧ audit tr = [] ∧
      screens tr = [] ∧ ∃ b, r = .ok b ∧ ((∀ ev ∈ tr, ∃ v, ev.reply = .ok v) →
        (b = true ↔ ∃ e, email = some e ∧ EmailIn (w.db .users) e))) w := by
  cases email with
  | none => exact ⟨rfl, rfl, rfl, false, rfl, fun _ => by simp⟩
  | some e =>
    rw [isRegisteredEmail, Prog.wp_handle]
    refine Prog.wp_invoke_bind.mpr ⟨fun _ exn => ⟨rfl, rfl, rfl, false, rfl, fun hok => ?_⟩, ?_⟩
    · obtain ⟨v, hv⟩ := hok _ List.mem_cons_self
      cases hv
    · intro docs w₁ h
      obtain ⟨hdocs, hw⟩ := Option.ite_none_right_eq_some.mp h
      refine ⟨(Option.some.inj hw).symm, rfl, rfl, !docs.isEmpty, rfl, fun _ => ?_⟩
      rw [Bool.not_eq_true', List.isEmpty_eq_false_iff_exists_mem, hdocs]
      constructor
      · rintro ⟨d, hd⟩
        exact ⟨e, rfl, d.1, d.2, Collection.mem_whereEq.mp hd⟩
      · rintro ⟨_, ⟨rfl⟩, x, d, hd⟩
        exact ⟨(x, d), Collection.mem_whereEq.mpr hd⟩

/-- `deleteUser` swallows every exception. -/
theorem deleteUser_spec {x : User} (hx : w.currentUser = some x) (uid : String) :
    (deleteUser (some uid)).wp platform (fun r tr w' => r = .ok () ∧ screens tr = [] ∧
      (audit tr = [] ∧ (∃ ev ∈ tr, ∃ e, ev.reply = .error e) ∨
        audit tr = [.userRemoved x.uid] ∧ w' = w.deleteAccount x.uid)) w := by
  rw [deleteUser, Prog.wp_handle, deleteCurrentUser, authUser, Prog.wp_read_bind, hx]
  refine Prog.wp_invoke.mpr ⟨fun _ e => ⟨rfl, rfl, .inl ⟨rfl, ?_⟩⟩, fun v w' h => ?_⟩
  · exact ⟨_, List.mem_cons_self, e, rfl⟩
  · obtain ⟨-, hw⟩ := Option.ite_none_right_eq_some.mp h
    exact ⟨rfl, rfl, .inr ⟨rfl, (Option.some.inj hw).symm⟩⟩

/-- The tail of a login: the loader is closed and the first screen is chosen. -/
theorem audit_redirect (w : World) : (do
    FullScreenLoader.stopLoading
    screenRedirect.unawaited : App Unit).wp platform (fun _ tr _ => audit tr = []) w :=
  wp_stopLoading_bind.mpr (Prog.wp_unawaited.mpr
    (Prog.wp_mono (screenRedirect_spec _) fun _ _ _ h => h.2.1))

/-- What follows a Google sign-in that gave a credential removes the account at most. -/
theorem redirectOrDelete_log {x : User} (hx : w.currentUser = some x) (c : UserCredential) :
    (LoginController.redirectOrDelete c).wp platform
      (fun _ tr _ => audit tr = [] ∨ audit tr = [.userRemoved x.uid]) w := by
  refine Prog.wp_bind_of (isRegisteredEmail_spec _ _) ?_ ?_
  · rintro e tr w' ⟨-, hlog, -⟩
    exact .inl hlog
  · rintro b tr w' ⟨hw, hlog, -⟩
    have hx' : (w'.withNav w'.nav.pop).currentUser = some x := by
      rw [hw, World.withNav_currentUser, hx]
    simp only [audit_append, hlog, List.nil_append]
    cases b with
    | true => exact Prog.wp_mono (audit_redirect _) fun _ _ _ h => .inl h
    | false =>
      refine wp_stopLoading_bind.mpr ((Sync.snackBar _ _ _).wp_bind.mpr ?_)
      refine Prog.wp_mono (deleteUser_spec hx' _) ?_
      rintro r tr' w'' ⟨-, -, ⟨hlog', -⟩ | ⟨hlog', -⟩⟩
      · exact .inl hlog'
      · exact .inr hlog'

end AroundMuseo
