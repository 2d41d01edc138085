import AroundMuseo.Account.Consistency
import AroundMuseo.Controllers.UpdateControllers
import AroundMuseo.Favorites.StoredList

/-!
# Whose favourites

The repository keeps the user of its construction, while sign-ins, sign-outs and
deletions change the session. Its accesses are to the favourites of the signed-in user
exactly as long as the session is that user's.
-/

namespace AroundMuseo

open Async Firestore

/-- The operations that change the session or use the favourites. -/
inductive SessionOperation where
  | account (op : AccountOperation)
  | resetEmailAddress
  | updateEmailAddress (email : String) (updateEmailFormKey : Option Bool)
  | logout
  | getUserFavorites
  | addToFavorites (locationId : String)
  | removeFromFavorites (locationId : String)
  deriving DecidableEq, Repr

/-- The function behind an operation, on the one instance of the repository. -/
def SessionOperation.body (repository : LocationRepository) : SessionOperation → App Unit
  | account op => op.body
  | resetEmailAddress => UserController.resetEmailAddress
  | updateEmailAddress email form => UpdateEmailController.updateEmailAddress email form
  | logout => AuthenticationRepository.logout
  | getUserFavorites => do
    let _ ← repository.getUserFavorites
  | addToFavorites locationId => repository.addToFavorites locationId
  | removeFromFavorites locationId => repository.removeFromFavorites locationId

/-- The document of `User_Favorites` that a call addresses. -/
def Call.favoritesDoc : Call → Option String
  | .get .userFavorites id | .set .userFavorites id _ | .setMerge .userFavorites id _
  | .update .userFavorites id _ | .delete .userFavorites id | .runTransaction id _ => some id
  | _ => none

/-- Every access to the favourites is to those of the user who is signed in at that moment. -/
def OwnFavorites (ms : History) : Prop :=
  ∀ m ∈ ms, m.call.onFavorites = true →
    ∃ user, m.state.currentUser = some user ∧ m.call.favoritesDoc = some user.uid

/-- The uid that is signed in after some history, from the one before it: what the sign-ins,
sign-outs and deletions say. -/
def sessionAfter (session : Option String) (ms : History) : Option String :=
  (audit (answers ms)).foldl (fun session m => (Directory.act ⟨∅, ∅, session⟩ m).session) session

/-- At every access to the favourites the session is that of the given user again. -/
def SameSession (uid : String) (ms : History) : Prop :=
  ∀ pre m post, ms = pre ++ m :: post → m.call.onFavorites = true →
    sessionAfter (some uid) pre = some uid

section Frames

theorem local_resetEmailAddress : Local UserController.resetEmailAddress := by
  apply local_withLoader
  refine .bind quiet_authUser.local fun currentUser =>
    .bind quiet_firstProvider.local fun provider => ?_
  split
  · split
    · refine .bind quiet_signInWithGoogle.local fun _ => .bind local_stopLoading fun _ => ?_
      refine .bind quiet_authUser.local fun user => ?_
      split
      · exact .bind (Prog.confined_invoke rfl) fun _ => Prog.confined_invoke rfl
      · exact Prog.confined_invoke rfl
    · split
      · exact .bind local_stopLoading fun _ => Prog.confined_invoke rfl
      · trivial
  · trivial

theorem local_updateEmailAddress (email : String) (form : Option Bool) :
    Local (UpdateEmailController.updateEmailAddress email form) := by
  apply local_withLoader
  apply local_whenConnected
  apply local_whenValid
  refine .bind quiet_authUser.local fun currentUser => ?_
  split
  · have hlogout : Local AuthenticationRepository.logout.unawaited :=
      .unawaited unloading_logout.local
    have hreport : Local (do
        await (.snackBar .success "Verification Email Sent" <|
          "Please check your inbox and verify your new email. Once verified, you will need " ++
          "to log in again to continue using the app.")
        AuthenticationRepository.logout.unawaited) :=
      .bind (Prog.confined_invoke rfl) fun _ => hlogout
    refine .bind local_stopLoading fun _ => .bind quiet_authUser.local fun user => ?_
    cases user with
    | some user => exact .bind (Prog.confined_invoke rfl) fun _ => hreport
    | none => exact hreport
  · exact .bind local_stopLoading fun _ => Prog.confined_invoke rfl

/-- The calls that the repository of a user may make. -/
def Call.FavoritesOf (uid : String) (c : Call) : Prop :=
  c.onFavorites = true → c.favoritesDoc = some uid

theorem confined_getUserFavorites (uid : String) :
    (LocationRepository.getUserFavorites ⟨some uid⟩).Confined (Call.FavoritesOf uid)
      World.directory := by
  refine ⟨fun _ => rfl, fun r => ?_⟩
  match r with
  | .error e => trivial
  | .ok none => trivial
  | .ok (some data) =>
    have hdecode : (liftExcept (UserFavoritesLocationModel.fromSnapshot uid data)).Confined
        (Call.FavoritesOf uid) World.directory := trivial
    exact .handle (.bind hdecode fun _ => trivial) fun _ => trivial

/-- Every operation addresses the favourites of the user of the repository, if any. -/
theorem SessionOperation.confined (uid : String) (op : SessionOperation) :
    (op.body ⟨some uid⟩).Confined (Call.FavoritesOf uid) World.directory := by
  have hlocal {p : App Unit} (h : Local p) : p.Confined (Call.FavoritesOf uid) World.directory := by
    have hview := Prog.Confined.comp h fun x => Directory.ofServices x.1
    refine Prog.Confined.mono hview fun c hc hon => ?_
    rw [hc] at hon
    cases hon
  cases op with
  | account op => exact hlocal op.local
  | resetEmailAddress => exact hlocal local_resetEmailAddress
  | updateEmailAddress email form => exact hlocal (local_updateEmailAddress email form)
  | logout => exact hlocal unloading_logout.local
  | getUserFavorites => exact .bind (confined_getUserFavorites uid) fun _ => trivial
  | addToFavorites locationId => exact Prog.confined_invoke fun _ => rfl
  | removeFromFavorites locationId => exact Prog.confined_invoke fun _ => rfl

end Frames

section Session

variable {uid : String} {w₀ : World} {c₀ c : AppPool SessionOperation} {ms₀ ms pre post : History}

/-- What a mark does to the session depends on the session alone. -/
theorem Directory.session_act (d : Directory) (m : Mark) :
    (d.act m).session = (Directory.act ⟨∅, ∅, d.session⟩ m).session := by
  cases m <;> rfl

theorem session_foldl_actEvent (d : Directory) (ms : History) :
    ((answers ms).foldl Directory.actEvent d).session = sessionAfter d.session ms := by
  rw [Directory.foldl_actEvent, sessionAfter]
  generalize audit (answers ms) = log
  induction log generalizing d with
  | nil => rfl
  | cons m log ih => rw [List.foldl_cons, List.foldl_cons, ih, Directory.session_act]

/-- The session at a moment of a run. -/
theorem session_at (hrun₀ : Pool.Run platform (SessionOperation.body ⟨some uid⟩) ⟨w₀, []⟩ ms₀ c₀)
    (hrun : Pool.Run platform (SessionOperation.body ⟨some uid⟩) c₀ ms c)
    {m : Async.Moment Reply World Exn} (hms : ms = pre ++ m :: post) :
    m.state.currentUser.map (·.uid) = sessionAfter (c₀.state.currentUser.map (·.uid)) pre := by
  have htasks := (hrun₀.confined (SessionOperation.confined uid) (List.forall_mem_nil _)).1
  have hview := hrun.view_at (fun c w w' r _ h => platform_shows_directory c w w' r h)
    (SessionOperation.confined uid) htasks hms
  have hsession := session_foldl_actEvent c₀.state.directory pre
  rw [← hview] at hsession
  exact hsession

end Session

/-- The repository was constructed while `user` was signed in. From then on every access is to
the favourites of the user who is signed in exactly if at each the session is that user's. -/
theorem ownFavorites_iff {w₀ : World} {c₀ c : AppPool SessionOperation} {ms₀ ms : History}
    {user : User} (hrun₀ : Pool.Run platform
      (SessionOperation.body (LocationRepository.construct c₀.state)) ⟨w₀, []⟩ ms₀ c₀)
    (huser : c₀.state.currentUser = some user)
    (hrun : Pool.Run platform
      (SessionOperation.body (LocationRepository.construct c₀.state)) c₀ ms c) :
    OwnFavorites ms ↔ SameSession user.uid ms := by
  have hrepository : LocationRepository.construct c₀.state = ⟨some user.uid⟩ := by
    rw [LocationRepository.construct, huser]
    rfl
  rw [hrepository] at hrun₀ hrun
  have htasks := (hrun₀.confined (SessionOperation.confined user.uid) (List.forall_mem_nil _)).1
  have hcalls := (hrun.confined (SessionOperation.confined user.uid) htasks).2
  have hsession {m : Async.Moment Reply World Exn} {pre post : History}
      (hms : ms = pre ++ m :: post) :
      m.state.currentUser.map (·.uid) = sessionAfter (some user.uid) pre := by
    have hat := session_at hrun₀ hrun hms
    rw [huser] at hat
    exact hat
  constructor
  · intro hown pre m post hms haccess
    have hmem : m ∈ ms := hms ▸ List.mem_append_right pre List.mem_cons_self
    obtain ⟨current, hcurrent, hdoc⟩ := hown m hmem haccess
    have hsame : user.uid = current.uid :=
      Option.some.inj ((hcalls m hmem haccess).symm.trans hdoc)
    rw [← hsession hms, hcurrent, hsame]
    rfl
  · intro hsame m hmem haccess
    obtain ⟨pre, post, hms⟩ := List.append_of_mem hmem
    have hat := hsession hms
    rw [hsame pre m post hms haccess] at hat
    obtain ⟨current, hcurrent, huid⟩ := Option.map_eq_some_iff.mp hat
    refine ⟨current, hcurrent, ?_⟩
    rw [huid]
    exact hcalls m hmem haccess

/-- A user who is signed in when the repository is constructed. -/
def signedInUser : User := User.of "u" "u@example.com" "password"

/-- The user reads the favourites, and signs out when they are there. -/
theorem ownFavorites_read : ∃ ms c,
    Pool.Run platform
      (SessionOperation.body (LocationRepository.construct (World.withUsers [signedInUser])))
      ⟨World.withUsers [signedInUser], []⟩ ms c ∧
      c.Quiescent ∧ c.state.currentUser = none ∧
      (ms.filterMap fun m => m.call.favoritesDoc) = ["u", "u"] ∧
      OwnFavorites ms ∧ SameSession signedInUser.uid ms := by
  obtain ⟨ms, c, hrun, hq⟩ := scenario_pool_run
    (SessionOperation.body (LocationRepository.construct (World.withUsers [signedInUser])))
    (World.withUsers [signedInUser]) (fun _ _ => none)
    [.start .getUserFavorites, .go 0, .go 0, .start .logout, .go 1, .go 1, .go 1, .go 1]
    (fun out => decide (out.2.Quiescent ∧ out.2.state.currentUser = none ∧
      (out.1.filterMap fun m => m.call.favoritesDoc) = ["u", "u"]) &&
      out.1.all fun m => !m.call.onFavorites || decide (m.state.currentUser = some signedInUser ∧
        m.call.favoritesDoc = some "u"))
    (by decide +kernel)
  obtain ⟨hstate, hall⟩ := Bool.and_eq_true_iff.mp hq
  obtain ⟨hquiescent, hnobody, hdocs⟩ := of_decide_eq_true hstate
  have hown : OwnFavorites ms := by
    intro m hm haccess
    have haccess' := List.all_eq_true.mp hall m hm
    rw [haccess] at haccess'
    obtain ⟨huser, hdoc⟩ := of_decide_eq_true haccess'
    exact ⟨signedInUser, huser, hdoc⟩
  exact ⟨ms, c, hrun, hquiescent, hnobody, hdocs, hown,
    (ownFavorites_iff (.nil _) rfl hrun).mp hown⟩

/-- The user signs out, and then a location is added to their favourites. -/
theorem not_ownFavorites_after_logout : ∃ ms c,
    Pool.Run platform
      (SessionOperation.body (LocationRepository.construct (World.withUsers [signedInUser])))
      ⟨World.withUsers [signedInUser], []⟩ ms c ∧ ¬ OwnFavorites ms := by
  obtain ⟨ms, c, hrun, hq⟩ := scenario_pool_run
    (SessionOperation.body (LocationRepository.construct (World.withUsers [signedInUser])))
    (World.withUsers [signedInUser]) (fun _ _ => none)
    [.start .logout, .go 0, .go 0, .go 0, .go 0, .start (.addToFavorites "a")]
    (fun out => out.1.any fun m => m.call.onFavorites && m.state.currentUser.isNone)
    (by decide +kernel)
  simp only [List.any_eq_true, Bool.and_eq_true, Option.isNone_iff_eq_none] at hq
  obtain ⟨m, hmem, haccess, hnone⟩ := hq
  refine ⟨ms, c, hrun, fun hown => ?_⟩
  obtain ⟨user, huser, -⟩ := hown m hmem haccess
  rw [hnone] at huser
  cases huser

end AroundMuseo
