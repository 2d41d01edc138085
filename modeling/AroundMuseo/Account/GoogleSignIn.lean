import AroundMuseo.Account.Registration
import AroundMuseo.Platform.Scenario

/-!
# The gate for Google accounts

A Google account is meant to enter only if its email is that of a document of `Users`.
The question is asked after the sign-in has merged a document with that very email, and
with the email that Firebase knows, which need not be the one of the Google account.
-/

namespace AroundMuseo

open Async Firestore AuthenticationRepository

/-- The accepted credentials of a run, each with the Google account it belongs to. -/
def acceptances (tr : List Event) : List (GoogleSignInAccount × UserCredential) :=
  tr.filterMap fun
    | ⟨_, .signInWithCredential credentials, .ok c⟩ => some (credentials.account, c)
    | _ => none

/-- Firebase accepted the credential of the Google account `g` as that of `c`. -/
def Accepts (tr : List Event) (g : GoogleSignInAccount) (c : UserCredential) : Prop :=
  (g, c) ∈ acceptances tr

instance (tr : List Event) (g : GoogleSignInAccount) (c : UserCredential) :
    Decidable (Accepts tr g c) :=
  inferInstanceAs (Decidable (_ ∈ acceptances tr))

/-- A registered account is redirected. One that is not is turned away: there is no
redirection, no account and no document. -/
structure GateKept (users : Collection) (g : GoogleSignInAccount) (uid : String)
    (shown : List Screen) (w' : World) : Prop where
  turnedAway : ¬ EmailIn users g.email →
    shown = [] ∧ uid ∉ w'.db .users ∧ uid ∉ w'.accounts
  redirected : EmailIn users g.email → shown ≠ []

/-- The email that Firebase knows of the account is found after the profile of `g` was
merged into the document `uid`: it is the email of `g`, or that of another document. -/
def Recognised (users : Collection) (g : GoogleSignInAccount) (user : User) : Prop :=
  user.email = some g.email ∨ ∃ e, user.email = some e ∧
    ∃ x d, x ≠ user.uid ∧ users.lookup x = some d ∧ d.lookup "Email" = some (.scalar (.string e))

theorem lookup_email_googleProfile (g : GoogleSignInAccount) (now : DateTime) :
    (googleProfile g now).lookup "Email" = some (.scalar (.string g.email)) := by
  rw [googleProfile, Doc.lookup_ofFields_cons, if_pos rfl]

/-- What the query finds after the merge. -/
theorem emailIn_setMerge_iff (users : Collection) (g : GoogleSignInAccount) (user : User)
    (now : DateTime) :
    (∃ e, user.email = some e ∧ EmailIn (users.setMerge user.uid (googleProfile g now)) e) ↔
      Recognised users g user := by
  constructor
  · rintro ⟨e, he, x, d, hx, hd⟩
    rw [Collection.lookup_setMerge] at hx
    split at hx
    case isTrue =>
      rw [← Option.some.inj hx, Doc.lookup_merge, lookup_email_googleProfile, Option.some_or] at hd
      have hemail : g.email = e := Scalar.string.inj (Value.scalar.inj (Option.some.inj hd))
      exact .inl (by rw [he, hemail])
    case isFalse hne => exact .inr ⟨e, he, x, d, hne, hx, hd⟩
  · rintro (he | ⟨e, he, x, d, hne, hx, hd⟩)
    · refine ⟨g.email, he, user.uid, _, by rw [Collection.lookup_setMerge, if_pos rfl], ?_⟩
      rw [Doc.lookup_merge, lookup_email_googleProfile, Option.some_or]
    · exact ⟨e, he, x, d, by rw [Collection.lookup_setMerge, if_neg hne, hx], hd⟩

theorem accepts_append {tr tr' : List Event} {g : GoogleSignInAccount} {c : UserCredential} :
    Accepts (tr ++ tr') g c ↔ Accepts tr g c ∨ Accepts tr' g c := by
  rw [Accepts, acceptances, List.filterMap_append, List.mem_append]
  rfl

/-- An acceptance is in the audit log. -/
theorem mem_audit_of_accepts {tr : List Event} {g : GoogleSignInAccount} {c : UserCredential}
    (h : Accepts tr g c) : .accepted c.user.uid ∈ audit tr := by
  obtain ⟨⟨w, call, reply⟩, hmem, hev⟩ := List.mem_filterMap.mp h
  split at hev
  case h_1 heq =>
    cases hev
    exact List.mem_filterMap.mpr ⟨_, hmem, by rw [heq]; rfl⟩
  case h_2 => cases hev

section Spec

/-- What `signInWithGoogle` has done when no call failed and a credential was accepted. -/
structure SignedIn (w : World) (g : GoogleSignInAccount) (c : UserCredential) (w' : World) :
    Prop where
  session : w'.currentUser = some c.user
  merged : ∃ now, w'.db .users = (w.db .users).setMerge c.user.uid (googleProfile g now)

theorem signInWithGoogle_signedIn (w : World) :
    signInWithGoogle.wp platform (fun r tr w' => AllAnswered tr → ∀ g c, Accepts tr g c →
      r = .ok (some c) ∧ SignedIn w g c w') w := by
  rw [signInWithGoogle, Prog.wp_handle]
  refine Prog.wp_invoke_bind.mpr ⟨fun _ e => wp_caught fun hok => ?_, ?_⟩
  · simp [allAnswered_cons] at hok
  rintro - _ ⟨⟩
  refine Prog.wp_invoke_bind.mpr ⟨fun _ e => wp_caught fun hok => ?_, ?_⟩
  · simp [allAnswered_cons] at hok
  rintro (_ | account) _ ⟨⟩
  · intro hok g c hacc
    have hmem := mem_audit_of_accepts hacc
    simp [audit, Mark.ofEvent] at hmem
  refine Prog.wp_invoke_bind.mpr ⟨fun _ e => wp_caught fun hok => ?_, ?_⟩
  · simp [allAnswered_cons] at hok
  rintro (tokens : GoogleSignInAuthentication) w₁ htokens
  simp only [platform, effect, Option.ite_none_right_eq_some, Option.some.injEq] at htokens
  obtain ⟨rfl, rfl⟩ := htokens
  refine Prog.wp_invoke_bind.mpr ⟨fun _ e => wp_caught fun hok => ?_, fun c w₁ hc => ?_⟩
  · simp [allAnswered_cons] at hok
  refine wp_now_bind.mpr fun now => ?_
  refine Prog.wp_invoke_bind.mpr ⟨fun _ e => wp_caught fun hok => ?_, ?_⟩
  · simp [allAnswered_cons] at hok
  rintro - _ ⟨⟩
  intro hok g c' hacc
  obtain ⟨hsession, hdb⟩ := currentUser_of_accepted hc
  cases List.mem_singleton.mp hacc
  exact ⟨rfl, hsession, now, by rw [World.setDb_db_self, hdb]⟩

/-- The email decides between the redirection and the deletion of the account. -/
theorem redirectOrDelete_answered {w : World} {c : UserCredential}
    (hc : w.currentUser = some c.user) :
    (LoginController.redirectOrDelete c).wp platform (fun _ tr w' => AllAnswered tr →
      ((∃ e, c.user.email = some e ∧ EmailIn (w.db .users) e) → screens tr ≠ []) ∧
      (¬ (∃ e, c.user.email = some e ∧ EmailIn (w.db .users) e) →
        screens tr = [] ∧ c.user.uid ∉ w'.accounts ∧ w'.db = w.db)) w := by
  refine Prog.wp_bind_of (isRegisteredEmail_spec _ _) ?_ ?_
  · rintro e tr w' ⟨-, -, -, b, hb, -⟩
    cases hb
  rintro b tr w' ⟨hw, -, hscreens, b', hb, hiff⟩
  cases hb
  simp only [allAnswered_append, screens_append, hscreens, List.nil_append]
  cases b with
  | true =>
    refine wp_stopLoading_bind.mpr (Prog.wp_unawaited.mpr ?_)
    refine Prog.wp_mono (screenRedirect_spec _) ?_
    rintro r tr' w'' ⟨-, -, screen, hshown⟩ ⟨hok, -⟩
    have hshown' : screens (⟨w', .stopLoading, .ok w'.nav.top⟩ :: tr') = [screen] := hshown
    refine ⟨fun _ => by simp [hshown'], fun hno => absurd ((hiff hok).mp rfl) hno⟩
  | false =>
    have hx : ((w'.withNav w'.nav.pop).withNav (w'.withNav w'.nav.pop).nav).currentUser =
        some c.user := by
      rw [World.withNav_currentUser, World.withNav_currentUser, hw, hc]
    refine wp_stopLoading_bind.mpr ((Sync.snackBar _ _ _).wp_bind.mpr ?_)
    refine Prog.wp_mono (deleteUser_spec hx _) ?_
    rintro r tr' w'' ⟨-, hshown, hdel⟩ ⟨hok, hok'⟩
    have hno : ¬ ∃ e, c.user.email = some e ∧ EmailIn (w.db .users) e := fun h =>
      Bool.false_ne_true ((hiff hok).mpr h)
    refine ⟨fun h => absurd h hno, fun _ => ⟨hshown, ?_⟩⟩
    rcases hdel with ⟨-, ev, hev, e, he⟩ | ⟨-, rfl⟩
    · -- the deletion itself is answered, like every call
      obtain ⟨v, hv⟩ := hok' ev (List.mem_cons_of_mem _ (List.mem_cons_of_mem _ hev))
      rw [he] at hv
      cases hv
    · refine ⟨fun hmem => ?_, by rw [hw]; rfl⟩
      exact (AList.mem_erase.mp hmem).1 rfl

/-- What the gate does in a run with every call answered. -/
def GateRun (w : World) (tr : List Event) (w' : World) : Prop :=
  AllAnswered tr → ∀ g c, Accepts tr g c →
    (Recognised (w.db .users) g c.user → screens tr ≠ []) ∧
    (¬ Recognised (w.db .users) g c.user →
      screens tr = [] ∧ c.user.uid ∉ w'.accounts ∧ c.user.uid ∈ w'.db .users)

theorem gateRun_body (w : World) : (do
    match ← signInWithGoogle with
    | none => FullScreenLoader.stopLoading
    | some userCredential => LoginController.redirectOrDelete userCredential : App Unit).wp
      platform (fun _ tr w' => GateRun w tr w') w := by
  refine Prog.wp_bind_of (Prog.wp_and (signInWithGoogle_signedIn w) (signInWithGoogle_spec w))
    ?_ ?_
  · rintro e tr w' ⟨hsigned, -⟩ hok g c hacc
    cases (hsigned hok g c hacc).1
  rintro (_ | c) tr w' ⟨hsigned, hout, hscreens⟩
  · refine wp_stopLoading.mpr fun hok g c hacc => ?_
    rw [allAnswered_append] at hok
    rcases accepts_append.mp hacc with hacc | hacc
    · cases (hsigned hok.1 g c hacc).1
    · cases mem_audit_of_accepts hacc
  · have hc : w'.currentUser = some c.user := by
      obtain ⟨-, g, w₁, now, heff, rfl⟩ := hout.of_some
      exact (currentUser_of_accepted heff).1
    refine Prog.wp_mono (Prog.wp_and (redirectOrDelete_answered hc) (redirectOrDelete_log hc c)) ?_
    rintro r tr' w'' ⟨hgate, hlog⟩ hok g c' hacc
    rw [allAnswered_append] at hok
    rw [screens_append, hscreens, List.nil_append]
    have hacc' : Accepts tr g c' := by
      rcases accepts_append.mp hacc with hacc | hacc
      · exact hacc
      · have hmem := mem_audit_of_accepts hacc
        rcases hlog with hlog | hlog <;> simp [hlog] at hmem
    obtain ⟨hr, -, now, hmerged⟩ := hsigned hok.1 g c' hacc'
    cases hr
    have hgate' := hgate hok.2
    rw [hmerged, emailIn_setMerge_iff] at hgate'
    refine ⟨hgate'.1, fun hno => ?_⟩
    obtain ⟨hshown, hacct, hdb⟩ := hgate'.2 hno
    refine ⟨hshown, hacct, ?_⟩
    rw [hdb, hmerged]
    exact Collection.mem_setMerge.mpr (.inl rfl)

/-- Events without a mark and a screen around the run do not matter. -/
theorem GateRun.frame {w w' w'' : World} {tr : List Event} (h : GateRun w tr w')
    (pre post : List Event) (hpre : audit pre = [] ∧ screens pre = [])
    (hpost : audit post = [] ∧ screens post = [])
    (haccounts : w''.accounts = w'.accounts) (hdb : w''.db = w'.db) :
    GateRun w (pre ++ (tr ++ post)) w'' := by
  intro hok g c hacc
  rw [allAnswered_append, allAnswered_append] at hok
  have hacc' : Accepts tr g c := by
    rcases accepts_append.mp hacc with hacc | hacc
    · simpa [hpre.1] using mem_audit_of_accepts hacc
    · rcases accepts_append.mp hacc with hacc | hacc
      · exact hacc
      · simpa [hpost.1] using mem_audit_of_accepts hacc
  rw [screens_append, screens_append, hpre.2, hpost.2, List.nil_append, List.append_nil,
    haccounts, hdb]
  exact h hok.2.1 g c hacc'

theorem gateRun_nil (w w' : World) : GateRun w [] w' := by
  intro hok g c hacc
  cases hacc

/-- The whole of a Google sign-in: the loader and the check of the connection change
nothing about it. -/
theorem googleSignIn_gateRun (w : World) :
    LoginController.googleSignIn.wp platform (fun _ tr w' => GateRun w tr w') w := by
  have hbody : (do
      if ← NetworkManager.isConnected then
        match ← signInWithGoogle with
        | none => FullScreenLoader.stopLoading
        | some userCredential => LoginController.redirectOrDelete userCredential
      else
        FullScreenLoader.stopLoading
        await (.snackBar .error "No Internet" "Please check your internet connection.") :
      App Unit).wp platform (fun _ tr w' => GateRun w tr w')
        (w.withNav (w.nav.push (.loader "Logging you in..." docerAnimation))) := by
    have hev {ev : Event} (h : ev.call = .checkConnectivity) :
        audit [ev] = [] ∧ screens [ev] = [] := log_checkConnectivity h []
    refine wp_isConnected_bind (fun ev h e => ?_) fun ev h b => ?_
    · exact (gateRun_nil w w).frame [ev] [] (hev h) ⟨rfl, rfl⟩ rfl rfl
    cases b with
    | false =>
      refine wp_stopLoading_bind.mpr ((Sync.snackBar _ _ _).wp.mpr ?_)
      exact (gateRun_nil w w).frame [ev] _ (hev h) ⟨rfl, rfl⟩ rfl rfl
    | true =>
      refine Prog.wp_mono (gateRun_body _) fun r tr w' hrun => ?_
      have hframe := hrun.frame [ev] [] (hev h) ⟨rfl, rfl⟩ rfl rfl
      rwa [List.append_nil] at hframe
  refine wp_withLoader.mpr (Prog.wp_mono hbody ?_)
  rintro (e | ⟨⟩) tr w' hrun
  · exact hrun.frame [_] _ ⟨rfl, rfl⟩ ⟨rfl, rfl⟩ rfl rfl
  · have hframe := hrun.frame [⟨w, .openLoadingDialog "Logging you in..." docerAnimation,
      .ok w.nav.next⟩] [] ⟨rfl, rfl⟩ ⟨rfl, rfl⟩ rfl rfl
    rwa [List.append_nil] at hframe

end Spec

/-- With every call answered, the gate is kept for the Google account `g` exactly when its
email is that of a document, and Firebase knows the account by that email or by the email
of another document. -/
theorem gateKept_iff {w w' : World} {tr : List Event} {r : Except Exn Unit}
    {g : GoogleSignInAccount} {c : UserCredential}
    (hrun : LoginController.googleSignIn.Run platform w tr r w') (hok : AllAnswered tr)
    (hacc : Accepts tr g c) :
    GateKept (w.db .users) g c.user.uid (screens tr) w' ↔
      EmailIn (w.db .users) g.email ∧ Recognised (w.db .users) g c.user := by
  obtain ⟨hyes, hno⟩ :=
    Prog.wp_iff_run.mp (googleSignIn_gateRun w) tr r w' hrun hok g c hacc
  constructor
  · intro h
    have hrec : Recognised (w.db .users) g c.user := by
      by_contra hrec
      obtain ⟨hshown, -, hdoc⟩ := hno hrec
      by_cases hin : EmailIn (w.db .users) g.email
      · exact h.redirected hin hshown
      · exact (h.turnedAway hin).2.1 hdoc
    refine ⟨?_, hrec⟩
    by_contra hin
    exact hyes hrec (h.turnedAway hin).1
  · rintro ⟨hin, hrec⟩
    exact ⟨fun hout => absurd hin hout, fun _ => hyes hrec⟩

/-- The account of a registered user is let in. -/
theorem gateKept_for_registered :
    ∃ tr r w', LoginController.googleSignIn.Run platform
        (.withUsers [.of "u" "u@example.com" "google.com"]) tr r w' ∧
      AllAnswered tr ∧ Accepts tr { id := "u", email := "u@example.com" }
        ⟨.of "u" "u@example.com" "google.com"⟩ ∧
      GateKept ((World.withUsers [.of "u" "u@example.com" "google.com"]).db .users)
        { id := "u", email := "u@example.com" } "u" (screens tr) w' := by
  obtain ⟨tr, r, w', hrun, hq⟩ := scenario_run LoginController.googleSignIn
    (.withUsers [.of "u" "u@example.com" "google.com"])
    (choosing { id := "u", email := "u@example.com" })
    (fun out => AllAnswered out.1 ∧ Accepts out.1 { id := "u", email := "u@example.com" }
      ⟨.of "u" "u@example.com" "google.com"⟩)
    (by decide +kernel)
  obtain ⟨hok, hacc⟩ := of_decide_eq_true hq
  refine ⟨tr, r, w', hrun, hok, hacc, (gateKept_iff hrun hok hacc).mpr ⟨?_, .inl rfl⟩⟩
  exact ⟨"u", _, rfl, rfl⟩

/-- An account of which nothing is known is let in as well: the sign-in has just written
the document that the query finds. -/
theorem gate_not_kept_for_stranger :
    ¬ ∀ (w w' : World) (tr : List Event) (r : Except Exn Unit) (g : GoogleSignInAccount)
      (c : UserCredential), LoginController.googleSignIn.Run platform w tr r w' →
        AllAnswered tr → Accepts tr g c →
        GateKept (w.db .users) g c.user.uid (screens tr) w' := by
  intro hall
  obtain ⟨tr, r, w', hrun, hq⟩ := scenario_run LoginController.googleSignIn (.withUsers [])
    (choosing { id := "g", email := "g@example.com" })
    (fun out => AllAnswered out.1 ∧ Accepts out.1 { id := "g", email := "g@example.com" }
      ⟨.of "g" "g@example.com" "google.com"⟩ ∧ screens out.1 = [.navigationMenu])
    (by decide +kernel)
  obtain ⟨hok, hacc, hshown⟩ := of_decide_eq_true hq
  have hgate := hall _ w' tr r _ _ hrun hok hacc
  have hout : ¬ EmailIn ((World.withUsers []).db .users) "g@example.com" := by
    rintro ⟨x, d, hx, -⟩
    cases hx
  cases hshown.symm.trans (hgate.turnedAway hout).1

end AroundMuseo
