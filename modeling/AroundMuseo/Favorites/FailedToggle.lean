import AroundMuseo.Favorites.Convergence

/-!
# A toggle that fails

A toggle changes the set in memory before it awaits its transaction, and nothing takes the
change back when the transaction throws.
-/

namespace AroundMuseo

open Async LocationController

/-- Neither the favourites in memory nor the stored ones are other than before. -/
structure FavoritesUnchanged (w w' : World) : Prop where
  ids : w'.localFavorites = w.localFavorites
  shown : w'.locationController.lists .favoriteLocations =
    w.locationController.lists .favoriteLocations
  stored : w'.db .userFavorites = w.db .userFavorites

/-- The set after the toggle of an id. -/
def toggled (x : String) (ids : Finset String) : Finset String :=
  if x ∈ ids then ids.erase x else insert x ids

/-- A toggle never leaves the set as it is. -/
theorem toggled_ne (x : String) (ids : Finset String) : toggled x ids ≠ ids := by
  intro h
  unfold toggled at h
  by_cases hx : x ∈ ids
  · rw [if_pos hx] at h
    have hmem : x ∈ ids.erase x := by
      rw [h]
      exact hx
    simp at hmem
  · rw [if_neg hx] at h
    apply hx
    rw [← h]
    simp

/-- The state after the first step of a toggle. -/
def World.toggleFavorite (x : String) (w : World) : World :=
  { w with locationController :=
      { w.locationController with favoriteLocationIds := toggled x w.localFavorites } }

section Spec

variable {repository : LocationRepository} {x : String} {w : World}

/-- A transaction that throws is the end, and has done nothing. -/
theorem transact_failed (repository : LocationRepository) (tx : FavoritesTransaction) (w : World) :
    (transact repository tx).wp platform (fun r tr w' => (∃ c ∈ failures tr, c.IsTransaction) →
      w' = w ∧ ∃ e, r = .error e) w := by
  have hcall (id : String) : (await (.runTransaction id tx)).wp platform (fun r tr w' =>
      (∃ c ∈ failures tr, c.IsTransaction) → w' = w ∧ ∃ e, r = .error e) w := by
    refine Prog.wp_invoke.mpr ⟨fun _ e _ => ⟨rfl, e, rfl⟩, fun v w' _ h => ?_⟩
    simp [failures] at h
  obtain ⟨userId⟩ := repository
  cases userId with
  | some uid =>
    rw [transact_eq]
    exact hcall uid
  | none =>
    have hauto : transact ⟨none⟩ tx =
        await (.autoId .userFavorites) >>= fun id => await (.runTransaction id tx) := by
      cases tx <;> rfl
    rw [hauto]
    refine Prog.wp_invoke_bind.mpr ⟨fun hawaited => ?_, fun id w' hw' => ?_⟩
    · cases hawaited
    obtain ⟨-, hw⟩ := Option.ite_none_left_eq_some.mp hw'
    cases hw
    exact Prog.wp_mono (hcall id) fun r tr w' h hfail => h (by simpa [failures] using hfail)

/-- When the transaction throws, the change of the set in memory is all that is left. -/
theorem toggleFavorite_failed (repository : LocationRepository) (x : String) (w : World) :
    (toggleFavorite repository x).wp platform (fun r tr w' =>
      (∃ c ∈ failures tr, c.IsTransaction) → w' = w.toggleFavorite x ∧ ∃ e, r = .error e) w := by
  have hrest (tx : FavoritesTransaction) (w₁ : World) :
      (transact repository tx >>= fun _ => modifyState (·.showFavorites)).wp platform
        (fun r tr w' => (∃ c ∈ failures tr, c.IsTransaction) → w' = w₁ ∧ ∃ e, r = .error e) w₁ := by
    refine Prog.wp_bind.mpr (Prog.wp_mono (transact_failed repository tx w₁) fun r tr w' h => ?_)
    cases r with
    | error e => exact h
    | ok v =>
      intro hfail
      rw [List.append_nil] at hfail
      obtain ⟨-, e, he⟩ := h hfail
      cases he
  rw [toggleFavorite, Prog.wp_read_bind]
  by_cases hx : x ∈ w.locationController.favoriteLocationIds
  · have hw : { w with locationController := { w.locationController with
        favoriteLocationIds := w.locationController.favoriteLocationIds.erase x } } =
          w.toggleFavorite x := by
      simp [World.toggleFavorite, toggled, World.localFavorites, hx]
    rw [if_pos hx]
    exact hw ▸ hrest (.removeFromFavorites x) _
  · have hw : { w with locationController := { w.locationController with
        favoriteLocationIds := insert x w.locationController.favoriteLocationIds } } =
          w.toggleFavorite x := by
      simp [World.toggleFavorite, toggled, World.localFavorites, hx]
    rw [if_neg hx]
    exact hw ▸ hrest (.addToFavorites x) _

end Spec

/-- After a toggle whose transaction throws, the set in memory is never as it was. -/
theorem failedToggle_never_unchanged {repository : LocationRepository} {x : String} {w w' : World}
    {tr : List Event} {r : Except Exn Unit}
    (hrun : (toggleFavorite repository x).Run platform w tr r w')
    (hfail : ∃ c ∈ failures tr, c.IsTransaction) : ¬ FavoritesUnchanged w w' := by
  intro h
  obtain ⟨rfl, -⟩ := Prog.wp_iff_run.mp (toggleFavorite_failed repository x w) tr r w' hrun hfail
  exact toggled_ne x w.localFavorites h.ids

/-- The store is unavailable while a location is added to the favourites. -/
theorem failedToggle_never_unchanged_unavailable : ∃ (tr : List Event) (r : Except Exn Unit)
    (w' : World), (toggleFavorite ⟨some "u"⟩ "a").Run platform (World.withUsers []) tr r w' ∧
      failures tr = [.runTransaction "u" (.addToFavorites "a")] ∧
      w'.storedFavorites "u" = [] ∧ w'.localFavorites = {"a"} ∧
      ¬ FavoritesUnchanged (World.withUsers []) w' := by
  obtain ⟨tr, r, w', hrun, hq⟩ := scenario_run (toggleFavorite ⟨some "u"⟩ "a") (World.withUsers [])
    (throwing (· = .runTransaction "u" (.addToFavorites "a"))
      (.firebase "unavailable" "The service is currently unavailable."))
    (fun out => decide (failures out.1 = [.runTransaction "u" (.addToFavorites "a")] ∧
      out.2.2.storedFavorites "u" = [] ∧ out.2.2.localFavorites = {"a"}))
    (by decide +kernel)
  obtain ⟨hfailures, hstored, hlocal⟩ := of_decide_eq_true hq
  refine ⟨tr, r, w', hrun, hfailures, hstored, hlocal,
    failedToggle_never_unchanged hrun ⟨_, ?_, "u", .addToFavorites "a", rfl⟩⟩
  rw [hfailures]
  exact List.mem_singleton_self _

/-- The heart stays although nothing was stored. -/
theorem not_favoritesUnchanged_unavailable : ∃ (tr : List Event) (r : Except Exn Unit) (w' : World),
    (toggleFavorite ⟨some "u"⟩ "a").Run platform (World.withUsers []) tr r w' ∧
      (∃ c ∈ failures tr, c.IsTransaction) ∧ ¬ FavoritesUnchanged (World.withUsers []) w' := by
  obtain ⟨tr, r, w', hrun, hq⟩ := scenario_run (toggleFavorite ⟨some "u"⟩ "a") (World.withUsers [])
    (throwing (· = .runTransaction "u" (.addToFavorites "a"))
      (.firebase "unavailable" "The service is currently unavailable."))
    (fun out => decide (failures out.1 = [.runTransaction "u" (.addToFavorites "a")]) &&
      decide (out.2.2.localFavorites = {"a"}))
    (by decide +kernel)
  obtain ⟨hfailures, hids⟩ := Bool.and_eq_true_iff.mp hq
  rw [decide_eq_true_eq] at hfailures hids
  refine ⟨tr, r, w', hrun, ⟨_, ?_, "u", .addToFavorites "a", rfl⟩, fun h => ?_⟩
  · rw [hfailures]
    exact List.mem_singleton_self _
  · have hsame := h.ids
    rw [hids] at hsame
    exact absurd hsame (by decide)

end AroundMuseo
