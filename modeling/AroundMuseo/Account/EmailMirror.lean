import AroundMuseo.Account.GoogleSignIn
import AroundMuseo.Controllers.UpdateControllers

/-!
# The stored email

A login should leave the email that Firebase reports in the user's document. A password
login stores the text that was typed instead, and only into a document whose email can be
read; a Google sign-in stores the email of the Google account.
-/

namespace AroundMuseo

open Async Firestore AuthenticationRepository

/-- What was entered at a login. -/
inductive Credentials where
  | password (email : String)
  | google (account : GoogleSignInAccount)

/-- A login that succeeded: the state before, what was entered, who is signed in and the
state after. -/
structure Login where
  before : World
  entered : Credentials
  user : User
  after : World

/-- The document of the user has the email that Firebase reports, which is found. -/
structure Login.Mirrored (l : Login) : Prop where
  session : l.after.currentUser = some l.user
  stored : ∃ d email, (l.after.db .users).lookup l.user.uid = some d ∧ l.user.email = some email ∧
    d.lookup "Email" = some (.scalar (.string email))
  registered : ∀ tr r w, (isRegisteredEmail l.user.email).Run platform l.after tr r w →
    AllAnswered tr → r = .ok true

/-- Firebase reports the email as it was entered, and for a password login the document has
an email that can be read. -/
def Login.Canonical (l : Login) : Prop :=
  match l.entered with
  | .password email => l.user.email = some email ∧
      ∃ e, snapshotEmail ((l.before.db .users).lookup l.user.uid) = .ok e
  | .google account => l.user.email = some account.email

/-- Any sequence of logins, requests to change the email, and changes that were verified,
with the logins that it contains. -/
inductive EmailHistory (w₀ : World) : List Login → World → Prop
  | start : EmailHistory w₀ [] w₀
  | loginWithEmailAndPassword {w w' : World} {log : List Login} {email password : String}
      {tr : List Event} {c : UserCredential} (h : EmailHistory w₀ log w)
      (hrun : (loginWithEmailAndPassword email password).Run platform w tr (.ok c) w')
      (hok : AllAnswered tr) :
      EmailHistory w₀ (log ++ [⟨w, .password email, c.user, w'⟩]) w'
  | signInWithGoogle {w w' : World} {log : List Login} {account : GoogleSignInAccount}
      {tr : List Event} {r : Except Exn (Option UserCredential)} {c : UserCredential}
      (h : EmailHistory w₀ log w) (hrun : signInWithGoogle.Run platform w tr r w')
      (hok : AllAnswered tr) (haccepts : Accepts tr account c) :
      EmailHistory w₀ (log ++ [⟨w, .google account, c.user, w'⟩]) w'
  | updateEmailAddress {w w' : World} {log : List Login} {email : String} {key : Option Bool}
      {tr : List Event} {r : Except Exn Unit} (h : EmailHistory w₀ log w)
      (hrun : (UpdateEmailController.updateEmailAddress email key).Run platform w tr r w')
      (hok : AllAnswered tr) : EmailHistory w₀ log w'
  | verified {w : World} {log : List Login} {uid email : String} {a a' : Account}
      (h : EmailHistory w₀ log w) (ha : w.accounts.lookup uid = some a)
      (hemail : a'.email = some email) :
      EmailHistory w₀ log { w with accounts := w.accounts.insert uid a' }

/-- What becomes of `Users` at a password login. -/
def matchEmail (users : Collection) (uid email : String) : Collection :=
  match snapshotEmail (users.lookup uid), users.lookup uid with
  | .ok stored, some d =>
    if stored = some email then users
    else users.insert uid (d.merge (Doc.ofFields [("Email", Scalar.string email)]))
  | _, _ => users

theorem snapshotEmail_eq_ok_some {d : Doc} {email : String} :
    snapshotEmail (some d) = .ok (some email) ↔
      d.lookup "Email" = some (.scalar (.string email)) := by
  simp only [snapshotEmail]
  split <;> simp_all

theorem lookup_matchEmail {users : Collection} {uid : String} {stored : Option String}
    (typed : String) (h : snapshotEmail (users.lookup uid) = .ok stored) :
    ∃ d, (matchEmail users uid typed).lookup uid = some d ∧
      d.lookup "Email" = some (.scalar (.string typed)) := by
  cases hd : users.lookup uid with
  | none =>
    rw [hd] at h
    cases h
  | some d =>
    rw [hd] at h
    simp only [matchEmail, hd, h]
    by_cases hstored : stored = some typed
    · rw [if_pos hstored]
      rw [hstored] at h
      exact ⟨d, hd, snapshotEmail_eq_ok_some.mp h⟩
    · rw [if_neg hstored]
      refine ⟨_, AList.lookup_insert users, ?_⟩
      rw [Doc.lookup_merge, Doc.lookup_ofFields_cons, if_pos rfl, Option.some_or]

/-- The document has the email of the user afterwards exactly if that is what was typed,
and the email of the document could be read. -/
theorem matchEmail_iff {users : Collection} {uid typed : String} {authEmail : Option String} :
    (∃ d email, (matchEmail users uid typed).lookup uid = some d ∧ authEmail = some email ∧
      d.lookup "Email" = some (.scalar (.string email))) ↔
      authEmail = some typed ∧ ∃ e, snapshotEmail (users.lookup uid) = .ok e := by
  constructor
  · rintro ⟨d, email, hd, hauth, hemail⟩
    cases hread : snapshotEmail (users.lookup uid) with
    | ok stored =>
      obtain ⟨d', hd', hemail'⟩ := lookup_matchEmail typed hread
      rw [hd] at hd'
      cases hd'
      rw [hemail] at hemail'
      cases hemail'
      exact ⟨hauth, stored, rfl⟩
    | error e =>
      -- The collection is unchanged, and its email can be read after all.
      have hsame : matchEmail users uid typed = users := by
        rw [matchEmail, hread]
      rw [hsame] at hd
      rw [hd, snapshotEmail_eq_ok_some.mpr hemail] at hread
      cases hread
  · rintro ⟨hauth, stored, hread⟩
    obtain ⟨d, hd, hemail⟩ := lookup_matchEmail typed hread
    exact ⟨d, typed, hd, hauth, hemail⟩

section Logins

variable {w : World}

/-- Matching the email, when every call is answered. -/
theorem updateFirestoreEmailIfNeeded_answered (w : World) (uid email : String) :
    (updateFirestoreEmailIfNeeded uid email).wp platform (fun _ tr w' => AllAnswered tr →
      w'.currentUser = w.currentUser ∧ w'.db .users = matchEmail (w.db .users) uid email) w := by
  rw [updateFirestoreEmailIfNeeded, Prog.wp_handle]
  refine wp_get_bind.mpr ⟨fun e hok => ?_, fun _ => ?_⟩
  · simp [allAnswered_cons] at hok
  · rw [matchEmail]
    cases hd : (w.db .users).lookup uid with
    | none => exact fun _ => ⟨rfl, rfl⟩
    | some d =>
      cases hread : snapshotEmail (some d) with
      | error e => exact fun _ => ⟨rfl, rfl⟩
      | ok stored =>
        refine Prog.wp_pure_bind.mpr ?_
        by_cases hstored : stored = some email
        · rw [if_neg (not_not.mpr hstored)]
          intro _
          exact ⟨rfl, (if_pos hstored).symm⟩
        · rw [if_pos hstored]
          refine Prog.wp_invoke.mpr ⟨fun _ e hok => ?_, fun v w' hw' _ => ?_⟩
          · simp [allAnswered_cons] at hok
          · obtain ⟨users, husers, rfl⟩ := Option.map_eq_some_iff.mp hw'
            obtain ⟨old, hold, rfl⟩ := Collection.update_eq_some.mp husers
            obtain rfl : d = old := Option.some.inj (hd.symm.trans hold)
            refine ⟨rfl, ?_⟩
            rw [World.setDb_db_self]
            exact (if_neg hstored).symm

theorem loginWithEmailAndPassword_answered (w : World) (email password : String) :
    (loginWithEmailAndPassword email password).wp platform (fun r tr w' => AllAnswered tr →
      ∀ c, r = .ok c → w'.currentUser = some c.user ∧
        w'.db .users = matchEmail (w.db .users) c.user.uid email) w := by
  rw [loginWithEmailAndPassword, rethrowing, Prog.wp_handle]
  refine Prog.wp_invoke_bind.mpr ⟨fun _ e _ c hc => ?_, fun c w₁ hc => ?_⟩
  · cases hc
  have hsignedIn : w₁ = w.signIn c.user := by
    simp only [platform, effect] at hc
    split at hc
    · exact (Option.some.inj (Option.ite_none_right_eq_some.mp hc).2).symm
    · cases hc
  subst hsignedIn
  refine Prog.wp_bind_of (updateFirestoreEmailIfNeeded_answered _ _ _) ?_ ?_
  · intro e tr w' _ hok c' hc'
    cases hc'
  · intro _ tr w' h hok c' hc'
    cases hc'
    rw [List.append_nil] at hok
    exact h (allAnswered_cons.mp hok).2

/-- What is stored is found by the query. -/
theorem isRegisteredEmail_of_stored {email : String} (h : EmailIn (w.db .users) email)
    {tr : List Event} {r : Except Exn Bool} {w' : World}
    (hrun : (isRegisteredEmail (some email)).Run platform w tr r w') (hok : AllAnswered tr) :
    r = .ok true := by
  obtain ⟨-, -, -, b, rfl, hb⟩ :=
    Prog.wp_iff_run.mp (isRegisteredEmail_spec w (some email)) _ _ _ hrun
  rw [(hb hok).mpr ⟨email, rfl, h⟩]

/-- The stored email decides whether a login is mirrored. -/
theorem Login.mirrored_iff {l : Login} (hsession : l.after.currentUser = some l.user) :
    l.Mirrored ↔ ∃ d email, (l.after.db .users).lookup l.user.uid = some d ∧
      l.user.email = some email ∧ d.lookup "Email" = some (.scalar (.string email)) := by
  constructor
  · intro h
    exact h.stored
  · rintro ⟨d, email, hd, hauth, hemail⟩
    refine ⟨hsession, ⟨d, email, hd, hauth, hemail⟩, fun tr r w hrun hok => ?_⟩
    rw [hauth] at hrun
    exact isRegisteredEmail_of_stored ⟨_, d, hd, hemail⟩ hrun hok

end Logins

/-- After each login of a history the email is mirrored if and only if it was entered as
Firebase reports it, and the document could be read. -/
theorem emailMirrored_iff {w₀ w : World} {log : List Login} (h : EmailHistory w₀ log w) :
    (∀ l ∈ log, l.Mirrored) ↔ ∀ l ∈ log, l.Canonical := by
  induction h with
  | start => simp
  | @loginWithEmailAndPassword w w' log email password tr c h hrun hok ih =>
    obtain ⟨hsession, husers⟩ :=
      Prog.wp_iff_run.mp (loginWithEmailAndPassword_answered _ _ _) _ _ _ hrun hok c rfl
    have hlogin : Login.Mirrored ⟨w, .password email, c.user, w'⟩ ↔
        Login.Canonical ⟨w, .password email, c.user, w'⟩ := by
      rw [Login.mirrored_iff hsession]
      show (∃ d email, (w'.db .users).lookup _ = some d ∧ _) ↔ _
      rw [husers]
      exact matchEmail_iff
    simp only [List.forall_mem_append, List.forall_mem_singleton, ih, hlogin]
  | @signInWithGoogle w w' log account tr r c h hrun hok haccepts ih =>
    obtain ⟨-, hsession, now, husers⟩ :=
      Prog.wp_iff_run.mp (signInWithGoogle_signedIn _) _ _ _ hrun hok account c haccepts
    have hlogin : Login.Mirrored ⟨w, .google account, c.user, w'⟩ ↔
        Login.Canonical ⟨w, .google account, c.user, w'⟩ := by
      rw [Login.mirrored_iff hsession]
      show (∃ d email, (w'.db .users).lookup _ = some d ∧ _) ↔ c.user.email = some account.email
      rw [husers]
      constructor
      · rintro ⟨d, email, hd, hauth, hemail⟩
        rw [Collection.lookup_setMerge, if_pos rfl] at hd
        cases hd
        rw [Doc.lookup_merge, lookup_email_googleProfile, Option.some_or] at hemail
        cases hemail
        exact hauth
      · intro hauth
        refine ⟨_, account.email, by rw [Collection.lookup_setMerge, if_pos rfl], hauth, ?_⟩
        rw [Doc.lookup_merge, lookup_email_googleProfile, Option.some_or]
    simp only [List.forall_mem_append, List.forall_mem_singleton, ih, hlogin]
  | updateEmailAddress _ _ _ ih => exact ih
  | verified _ _ _ ih => exact ih

/-- An account that is matched in any spelling of its email. -/
def World.withMatchedAccount : World where
  accounts := AList.singleton "ana" ⟨some "ana@example.com", true, ["password"],
    fun email password => email.toLower == "ana@example.com" && password == "secret"⟩
  db := fun
    | .users => AList.singleton "ana" (Doc.ofFields [("Email", Scalar.string "ana@example.com")])
    | _ => ∅
  userController := { user := UserModel.empty 0 0 0 }

/-- The account signs in with its email. -/
theorem emailMirrored_login : ∃ log w, EmailHistory World.withMatchedAccount log w ∧
    log ≠ [] ∧ ((∀ l ∈ log, l.Mirrored) ↔ ∀ l ∈ log, l.Canonical) := by
  obtain ⟨tr, r, w, hrun, hq⟩ := scenario_run
    (loginWithEmailAndPassword "ana@example.com" "secret") World.withMatchedAccount
    (admitting (.of "ana" "ana@example.com" "password"))
    (fun out => AllAnswered out.1 ∧ out.2.1.isOk = true) (by decide +kernel)
  obtain ⟨hok, hr⟩ := of_decide_eq_true hq
  cases r with
  | error e => cases hr
  | ok c =>
    have hhistory := EmailHistory.start.loginWithEmailAndPassword hrun hok
    exact ⟨_, w, hhistory, by simp, emailMirrored_iff hhistory⟩

/-- Typed with a capital letter the same account signs in, and the text is stored. -/
theorem not_emailMirrored_capital : ∃ log w, EmailHistory World.withMatchedAccount log w ∧
    ¬ ∀ l ∈ log, l.Mirrored := by
  obtain ⟨tr, r, w, hrun, hq⟩ := scenario_run
    (loginWithEmailAndPassword "Ana@example.com" "secret") World.withMatchedAccount
    (admitting (.of "ana" "ana@example.com" "password"))
    (fun out => AllAnswered out.1 ∧
      (out.2.1.toOption.map fun c => c.user) = some (User.of "ana" "ana@example.com" "password") ∧
      ((out.2.2.db .users).lookup "ana").bind (·.lookup "Email") =
        some (.scalar (.string "Ana@example.com")))
    (by decide +kernel)
  obtain ⟨hok, hr, hstored⟩ := of_decide_eq_true hq
  cases r with
  | error e => cases hr
  | ok c =>
    have huser : c.user = User.of "ana" "ana@example.com" "password" := Option.some.inj hr
    refine ⟨_, w, EmailHistory.start.loginWithEmailAndPassword hrun hok, fun hall => ?_⟩
    obtain ⟨-, ⟨d, email, hd, hauth, hemail⟩, -⟩ :=
      hall _ (List.mem_append_right _ (List.mem_singleton_self _))
    have hauth' : (User.of "ana" "ana@example.com" "password").email = some email := huser ▸ hauth
    have hd' : (w.db .users).lookup "ana" = some d := by
      rw [← hd]
      show _ = (w.db .users).lookup c.user.uid
      rw [huser]
      rfl
    dsimp only at hstored
    rw [hd', Option.bind_some, hemail] at hstored
    cases hauth'
    exact absurd hstored (by decide)

end AroundMuseo
