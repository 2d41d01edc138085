import AroundMuseo.Controllers.LocationController
import AroundMuseo.Favorites.StoredList

/-!
# Toggling favourites

A toggle changes the set in memory at once and then runs a transaction. The set follows
the order in which the transactions were issued, the stored list the order in which they
committed, and nothing keeps the two orders together. After all toggles they agree exactly
on the ids whose last transaction was the same in both orders.
-/

namespace AroundMuseo

open Async Firestore LocationController

/-- The favourites in memory. -/
def World.localFavorites (w : World) : Finset String := w.locationController.favoriteLocationIds

/-- The favourites in memory and the stored ones are the same set. -/
def FavoritesAgree (uid : String) (w : World) : Prop :=
  ∀ id, id ∈ w.storedFavorites uid ↔ ∃ x ∈ w.localFavorites, id = .string x

/-- The update of the favourites of a user that a moment issues, if it does. -/
def issue (uid : String) : Async.Moment Reply World Exn → Option (ListSet.Update Scalar)
  | .issued _ (.runTransaction id tx) => if id = uid then some tx.update else none
  | _ => none

/-- The updates of the favourites of a user that are issued in a history, in order. -/
def issues (uid : String) (ms : History) : List (ListSet.Update Scalar) := ms.filterMap (issue uid)

/-- The transactions that were issued and those that committed have the same say on an id:
the last ones are of one kind, or more occurrences were stored than were removed. -/
def Settled (uid : String) (w₀ : World) (ms : History) (x : String) : Prop :=
  ListSet.last? (.string x) (issues uid ms) = some (.add (.string x)) ↔
    ListSet.last? (.string x) (commits uid ms) = some (.add (.string x)) ∨
      ListSet.removals (.string x) (commits uid ms) <
        (w₀.storedFavorites uid).count (.string x)

section Segments

variable {uid x : String} {w w' : World} {ms : History} {t : Task Reply World Exn}

/-- What is left of a toggle after its transaction. -/
abbrev Refreshing (p : App Unit) : Prop := p.Confined (fun _ => False) World.localFavorites

/-- The first segment of a toggle. -/
theorem advance_toggleFavorite
    (h : (toggleFavorite ⟨some uid⟩ x).Advance platform w ms t w') :
    ∃ tx k, ms = [.issued w' (.runTransaction uid tx)] ∧ t = .waiting (.runTransaction uid tx) k ∧
      (∀ r, Refreshing (k r)) ∧
      if x ∈ w.localFavorites then
        tx = .removeFromFavorites x ∧ w'.localFavorites = w.localFavorites.erase x
      else tx = .addToFavorites x ∧ w'.localFavorites = insert x w.localFavorites := by
  have hrest (r : Except Exn Unit) :
      Refreshing ((Prog.done r : App Unit) >>= fun _ => modifyState (·.showFavorites)) := by
    cases r with
    | error e => trivial
    | ok v => exact Prog.confined_modify fun _ => rfl
  rw [toggleFavorite, Prog.advance_read_bind] at h
  by_cases hx : x ∈ w.locationController.favoriteLocationIds
  · rw [if_pos hx] at h
    have hcall : (await (.runTransaction uid (.removeFromFavorites x)) >>= fun _ =>
        modifyState (·.showFavorites)).Advance platform _ ms t w' := h
    obtain ⟨hms, ht, hw⟩ := (Prog.advance_invoke_bind rfl).mp hcall
    subst hw
    exact ⟨_, _, hms, ht, hrest, (if_pos hx).mpr ⟨rfl, rfl⟩⟩
  · rw [if_neg hx] at h
    have hcall : (await (.runTransaction uid (.addToFavorites x)) >>= fun _ =>
        modifyState (·.showFavorites)).Advance platform _ ms t w' := h
    obtain ⟨hms, ht, hw⟩ := (Prog.advance_invoke_bind rfl).mp hcall
    subst hw
    exact ⟨_, _, hms, ht, hrest, (if_neg hx).mpr ⟨rfl, rfl⟩⟩

theorem confined_toggleFavorite (uid x : String) : (toggleFavorite ⟨some uid⟩ x).Confined
    Call.IsTransaction (World.storedFavorites uid) := by
  have hmodify (f : LocationControllerState → LocationControllerState) :
      (modifyState f).Confined Call.IsTransaction (World.storedFavorites uid) :=
    Prog.confined_modify fun _ => rfl
  refine .bind (Prog.confined_read _) fun ids => ?_
  split
  · refine .bind (hmodify _) fun _ => .bind ?_ fun _ => hmodify _
    exact confined_transact _ uid (.removeFromFavorites x)
  · refine .bind (hmodify _) fun _ => .bind ?_ fun _ => hmodify _
    exact confined_transact _ uid (.addToFavorites x)

/-- A transaction does not touch the set in memory. -/
theorem localFavorites_perform {id : String} {tx : FavoritesTransaction} {r : Except Exn Unit}
    (h : platform.perform (.runTransaction id tx) w r = some w') :
    w'.localFavorites = w.localFavorites := by
  cases r with
  | error e =>
    have hw : some w = some w' := h
    cases hw
    rfl
  | ok v =>
    have htx : w.runTransaction id tx = some w' := h
    rw [World.runTransaction] at htx
    split at htx <;> cases htx <;> rfl

end Segments

/-- The update is of the kind that the favourites in memory go by. -/
theorem mem_after_toggle {x y : String} {ids ids' : Finset String} {tx : FavoritesTransaction}
    (h : if x ∈ ids then tx = .removeFromFavorites x ∧ ids' = ids.erase x
      else tx = .addToFavorites x ∧ ids' = insert x ids) :
    y ∈ ids' ↔ if tx.update.target = .string y then tx.update = .add (.string y) else y ∈ ids := by
  split at h
  · obtain ⟨rfl, rfl⟩ := h
    have htarget : (FavoritesTransaction.removeFromFavorites x).update.target = .string y ↔ x = y :=
      Scalar.string.injEq x y ▸ Iff.rfl
    by_cases hy : x = y
    · subst hy
      simp [FavoritesTransaction.update]
    · rw [if_neg (htarget.not.mpr hy), Finset.mem_erase]
      exact and_iff_right (Ne.symm hy)
  · obtain ⟨rfl, rfl⟩ := h
    have htarget : (FavoritesTransaction.addToFavorites x).update.target = .string y ↔ x = y :=
      Scalar.string.injEq x y ▸ Iff.rfl
    by_cases hy : x = y
    · subst hy
      simp [FavoritesTransaction.update]
    · rw [if_neg (htarget.not.mpr hy), Finset.mem_insert]
      exact or_iff_right (Ne.symm hy)

/-- A toggle that awaits its transaction, or goes on after it. -/
def Toggling (uid : String) (us : List (ListSet.Update Scalar)) : Task Reply World Exn → Prop
  | .waiting c k => (∃ tx, c = .runTransaction uid tx ∧ tx.update ∈ us) ∧ ∀ r, Refreshing (k r)
  | .ready p => Refreshing p
  | .finished => True

theorem Toggling.mono {uid : String} {us us' : List (ListSet.Update Scalar)} (h : us ⊆ us')
    {t : Task Reply World Exn} (ht : Toggling uid us t) : Toggling uid us' t := by
  cases t with
  | waiting c k =>
    obtain ⟨⟨tx, hc, htx⟩, hk⟩ := ht
    exact ⟨⟨tx, hc, h htx⟩, hk⟩
  | ready p => exact ht
  | finished => trivial

/-- The favourites in memory go by what was issued, and only what was issued commits. -/
structure TogglesIssued (uid : String) (w₀ : World) (c : AppPool String) (ms : History) : Prop where
  tasks : ∀ x ∈ c.tasks, Toggling uid (issues uid ms) x.2
  mem_iff : ∀ x, x ∈ c.state.localFavorites ↔
    ListSet.last? (.string x) (issues uid ms) = some (.add (.string x)) ∨
      ListSet.last? (.string x) (issues uid ms) = none ∧ x ∈ w₀.localFavorites
  commits_subset : commits uid ms ⊆ issues uid ms

section Invariant

variable {uid : String} {w₀ : World} {c c' : AppPool String} {ms ms' : History}

theorem issues_append (ms ms' : History) :
    issues uid (ms ++ ms') = issues uid ms ++ issues uid ms' :=
  List.filterMap_append

theorem commits_append (ms ms' : History) :
    commits uid (ms ++ ms') = commits uid ms ++ commits uid ms' := by
  rw [commits, answers_append, List.filterMap_append]
  rfl

theorem issues_issued (w : World) (tx : FavoritesTransaction) :
    issues uid [.issued w (.runTransaction uid tx)] = [tx.update] := by
  simp [issues, issue]

variable {w w' : World} {ts us : List (String × Task Reply World Exn)} {x : String}
  {t : Task Reply World Exn}

/-- A toggle starts: the local set changes, and the transaction is issued. -/
theorem TogglesIssued.start (h : TogglesIssued uid w₀ ⟨w, ts⟩ ms)
    (hsegment : (toggleFavorite ⟨some uid⟩ x).Advance platform w ms' t w') :
    TogglesIssued uid w₀ ⟨w', ts ++ [(x, t)]⟩ (ms ++ ms') := by
  obtain ⟨htasks, hmem, hcommits⟩ := h
  obtain ⟨tx, k, rfl, rfl, hk, hids⟩ := advance_toggleFavorite hsegment
  have hissues : issues uid (ms ++ [.issued w' (.runTransaction uid tx)]) =
      issues uid ms ++ [tx.update] := by
    rw [issues_append, issues_issued]
  have hsub : issues uid ms ⊆ issues uid ms ++ [tx.update] := List.subset_append_left _ _
  refine ⟨?_, fun y => ?_, ?_⟩
  · rw [hissues]
    refine List.forall_mem_append.mpr ⟨fun x hx => (htasks x hx).mono hsub, ?_⟩
    exact List.forall_mem_singleton.mpr ⟨⟨tx, rfl, by simp⟩, hk⟩
  · rw [hissues, ListSet.last?_snoc, mem_after_toggle hids]
    by_cases hy : tx.update.target = .string y
    · rw [if_pos hy, if_pos hy]
      simp
    · rw [if_neg hy, if_neg hy]
      exact hmem y
  · rw [hissues, commits_append]
    refine List.append_subset.mpr ⟨fun u hu => hsub (hcommits hu), ?_⟩
    exact List.nil_subset _

/-- A transaction is answered: if it commits, it does what was issued. -/
theorem TogglesIssued.serve {call : Call} {k : Except Exn (Reply call) → App Unit}
    {r : Except Exn (Reply call)}
    (h : TogglesIssued uid w₀ ⟨w, ts ++ (x, .waiting call k) :: us⟩ ms)
    (hperform : platform.perform call w r = some w') :
    TogglesIssued uid w₀ ⟨w', ts ++ (x, .ready (k r)) :: us⟩ (ms ++ [.answered ⟨w, call, r⟩]) := by
  obtain ⟨htasks, hmem, hcommits⟩ := h
  have hw := htasks (x, .waiting call k) (by simp)
  obtain ⟨⟨tx, rfl, htx⟩, hk⟩ := hw
  have hissues : issues uid (ms ++ [.answered ⟨w, .runTransaction uid tx, r⟩]) = issues uid ms := by
    rw [issues_append]
    exact List.append_nil _
  obtain ⟨hts, -, hus⟩ := forall_tasks_iff.mp htasks
  refine ⟨?_, fun y => ?_, ?_⟩
  · rw [hissues]
    exact forall_tasks_iff.mpr ⟨hts, hk r, hus⟩
  · rw [hissues, localFavorites_perform hperform]
    exact hmem y
  · rw [hissues, commits_append]
    refine List.append_subset.mpr ⟨hcommits, fun u hu => ?_⟩
    cases r with
    | error e => cases hu
    | ok v =>
      have heq : commits uid [.answered ⟨w, .runTransaction uid tx, .ok v⟩] = [tx.update] := by
        simp [commits, answers, committed]
      rw [heq] at hu
      rw [List.mem_singleton.mp hu]
      exact htx

/-- A toggle goes on: only the derived list is left. -/
theorem TogglesIssued.resume {p : App Unit}
    (h : TogglesIssued uid w₀ ⟨w, ts ++ (x, .ready p) :: us⟩ ms)
    (hsegment : p.Advance platform w ms' t w') :
    TogglesIssued uid w₀ ⟨w', ts ++ (x, t) :: us⟩ (ms ++ ms') := by
  obtain ⟨htasks, hmem, hcommits⟩ := h
  have hp : Refreshing p := htasks (x, .ready p) (by simp)
  obtain ⟨rfl, ht, hids⟩ := hp.advance_silent hsegment
  obtain ⟨hts, -, hus⟩ := forall_tasks_iff.mp htasks
  rw [List.append_nil]
  refine ⟨forall_tasks_iff.mpr ⟨hts, ?_, hus⟩, fun y => ?_, hcommits⟩
  · cases t with
    | waiting c k => exact absurd ht.1 not_false
    | ready p => exact ht
    | finished => trivial
  · have hlocal : w'.localFavorites = w.localFavorites := hids
    rw [hlocal]
    exact hmem y

theorem TogglesIssued.step (h : TogglesIssued uid w₀ c ms)
    (hstep : Pool.Step platform (fun x => toggleFavorite ⟨some uid⟩ x) c ms' c') :
    TogglesIssued uid w₀ c' (ms ++ ms') := by
  cases hstep with
  | start x hsegment => exact h.start hsegment
  | serve hperform => exact h.serve hperform
  | resume hsegment => exact h.resume hsegment

theorem togglesIssued_of_run
    (hrun : Pool.Run platform (fun x => toggleFavorite ⟨some uid⟩ x) ⟨w₀, []⟩ ms c) :
    TogglesIssued uid w₀ c ms := by
  refine Pool.Run.invariant (TogglesIssued uid w₀) hrun ?_ fun c₁ c₂ ms₁ ms₂ h hstep => h.step hstep
  refine ⟨List.forall_mem_nil _, fun x => ?_, List.nil_subset _⟩
  simp [issues]

end Invariant

section Agreement

variable {uid : String} {w₀ w : World} {ms : History}

/-- A transaction is about a string. -/
theorem exists_of_mem_commits {u : ListSet.Update Scalar} (h : u ∈ commits uid ms) :
    ∃ x, u.target = .string x := by
  obtain ⟨ev, -, hev⟩ := List.mem_filterMap.mp h
  unfold committed at hev
  split at hev
  case h_1 w id tx v =>
    obtain ⟨-, hu⟩ := Option.ite_none_right_eq_some.mp hev
    cases hu
    cases tx with
    | addToFavorites x => exact ⟨x, rfl⟩
    | removeFromFavorites x => exact ⟨x, rfl⟩
  case h_2 => cases hev

/-- Only strings come to be stored, so that it suffices to look at these. -/
theorem favoritesAgree_iff_forall (hinit : FavoritesAgree uid w₀)
    (hstored : w.storedFavorites uid =
      ListSet.run (w₀.storedFavorites uid) (commits uid ms)) :
    FavoritesAgree uid w ↔
      ∀ x, Scalar.string x ∈ w.storedFavorites uid ↔ x ∈ w.localFavorites := by
  constructor
  · intro h x
    rw [h]
    constructor
    · rintro ⟨y, hy, heq⟩
      cases heq
      exact hy
    · intro hx
      exact ⟨x, hx, rfl⟩
  · intro h id
    constructor
    · intro hid
      have hstring : ∃ x, id = .string x := by
        rw [hstored, ListSet.mem_run_iff] at hid
        rcases hid with hlast | hcount
        · obtain ⟨hmem, htarget⟩ := ListSet.last?_eq hlast
          obtain ⟨x, hx⟩ := exists_of_mem_commits hmem
          exact ⟨x, htarget.symm.trans hx⟩
        · have hmem : id ∈ w₀.storedFavorites uid := List.count_pos_iff.mp (by omega)
          obtain ⟨x, -, hx⟩ := (hinit id).mp hmem
          exact ⟨x, hx⟩
      obtain ⟨x, rfl⟩ := hstring
      exact ⟨x, (h x).mp hid, rfl⟩
    · rintro ⟨x, hx, rfl⟩
      exact (h x).mpr hx

end Agreement

/-- The favourites agree exactly if the transactions on every toggled id have settled. -/
theorem favoritesAgree_iff {uid : String} {w₀ : World} {c : AppPool String} {ms : History}
    (hinit : FavoritesAgree uid w₀)
    (hrun : Pool.Run platform (fun x => toggleFavorite ⟨some uid⟩ x) ⟨w₀, []⟩ ms c) :
    FavoritesAgree uid c.state ↔
      ∀ x, ListSet.last? (.string x) (issues uid ms) ≠ none → Settled uid w₀ ms x := by
  have hissued := togglesIssued_of_run hrun
  have hstored : c.state.storedFavorites uid =
      ListSet.run (w₀.storedFavorites uid) (commits uid ms) := by
    rw [← foldl_actOnFavorites]
    exact hrun.view_eq (showsOn_actOnFavorites uid) (confined_toggleFavorite uid)
      (List.forall_mem_nil _)
  rw [favoritesAgree_iff_forall hinit hstored]
  refine forall_congr' fun x => ?_
  rw [hstored, ListSet.mem_run_iff, hissued.mem_iff x]
  by_cases hx : ListSet.last? (.string x) (issues uid ms) = none
  · -- nothing was issued on the id, so nothing committed on it
    have hnone : ∀ u ∈ commits uid ms, u.target ≠ .string x :=
      fun u hu => ListSet.last?_eq_none.mp hx u (hissued.commits_subset hu)
    have hlast : ListSet.last? (.string x) (commits uid ms) = none :=
      ListSet.last?_eq_none.mpr hnone
    have hremovals : ListSet.removals (.string x) (commits uid ms) = 0 :=
      List.count_eq_zero.mpr fun hmem => hnone _ hmem rfl
    have hbefore : Scalar.string x ∈ w₀.storedFavorites uid ↔ x ∈ w₀.localFavorites := by
      rw [hinit]
      simp
    rw [hx, hlast, hremovals, List.count_pos_iff, hbefore]
    simp
  · rw [Settled]
    simp only [hx, false_and, or_false, ne_eq, not_false_eq_true, true_imp_iff]
    exact iff_comm

/-- The transactions of one id commit in the order of their issue, and so do those of another one
after them: the stored list and the one in memory hold the second id. -/
theorem favoritesAgree_toggled_twice : ∃ (c : AppPool String) (ms : History),
    Pool.Run platform (fun x => toggleFavorite ⟨some "u"⟩ x) ⟨World.withUsers [], []⟩ ms c ∧
      c.Quiescent ∧
      commits "u" ms = [.add (.string "a"), .remove (.string "a"), .add (.string "b")] ∧
      c.state.storedFavorites "u" = [.string "b"] ∧ c.state.localFavorites = {"b"} ∧
      FavoritesAgree "u" c.state ∧
      ∀ x, ListSet.last? (.string x) (issues "u" ms) ≠ none →
        Settled "u" (World.withUsers []) ms x := by
  obtain ⟨ms, c, hrun, hq⟩ := scenario_pool_run (fun x => toggleFavorite ⟨some "u"⟩ x)
    (World.withUsers []) (fun _ _ => none)
    [.start "a", .start "a", .go 0, .go 1, .go 0, .go 1, .start "b", .go 2, .go 2]
    (fun out => decide (out.2.Quiescent ∧
      commits "u" out.1 = [.add (.string "a"), .remove (.string "a"), .add (.string "b")] ∧
      out.2.state.storedFavorites "u" = [.string "b"] ∧ out.2.state.localFavorites = {"b"}))
    (by decide +kernel)
  obtain ⟨hquiescent, hcommits, hstored, hlocal⟩ := of_decide_eq_true hq
  have hinit : FavoritesAgree "u" (World.withUsers []) := by
    intro id
    exact iff_of_false List.not_mem_nil nofun
  have hagree : FavoritesAgree "u" c.state := by
    intro id
    rw [hstored, hlocal]
    simp
  exact ⟨c, ms, hrun, hquiescent, hcommits, hstored, hlocal, hagree,
    (favoritesAgree_iff hinit hrun).mp hagree⟩

/-- The removal overtakes the addition that was issued before it. -/
theorem not_favoritesAgree_overtaken : ∃ (c : AppPool String) (ms : History),
    FavoritesAgree "u" (World.withUsers []) ∧
      Pool.Run platform (fun x => toggleFavorite ⟨some "u"⟩ x) ⟨World.withUsers [], []⟩ ms c ∧
      AllAnswered (answers ms) ∧ c.Quiescent ∧ ¬ FavoritesAgree "u" c.state := by
  obtain ⟨ms, c, hrun, hq⟩ := scenario_pool_run (fun x => toggleFavorite ⟨some "u"⟩ x)
    (World.withUsers []) (fun _ _ => none)
    [.start "a", .start "a", .go 1, .go 0, .go 0, .go 1]
    (fun out => decide (AllAnswered (answers out.1)) && decide out.2.Quiescent &&
      decide (out.2.state.storedFavorites "u" = [.string "a"]) &&
      decide (out.2.state.localFavorites = ∅))
    (by decide +kernel)
  simp only [Bool.and_eq_true, decide_eq_true_eq] at hq
  obtain ⟨⟨⟨hok, hquiescent⟩, hstored⟩, hlocal⟩ := hq
  refine ⟨c, ms, fun id => iff_of_false List.not_mem_nil nofun, hrun, hok, hquiescent, fun h => ?_⟩
  obtain ⟨x, hx, -⟩ := (h (.string "a")).mp (by simp [hstored])
  rw [hlocal] at hx
  cases hx

end AroundMuseo
