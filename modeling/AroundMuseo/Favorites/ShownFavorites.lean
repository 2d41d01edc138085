import AroundMuseo.Core.CachedFilter
import AroundMuseo.Favorites.Session
import AroundMuseo.Locations.Catalogue
import AroundMuseo.Locations.Updates
import AroundMuseo.Platform.Scenario

/-!
# The favourites that are shown

The list of favourites is the list of all locations, filtered by the set of ids. It is made
anew when the stored favourites have been fetched and after a toggle, but not when the list of
all locations changes, nor when the transaction of a toggle throws.
-/

namespace AroundMuseo

open Async Async.Prog Firestore LocationController

/-- The operations that change the list of all locations, the set of ids or the favourites that
are shown, and what other clients write meanwhile. -/
inductive FavoritesOperation where
  | fetch (op : LocationFetch)
  | fetchAllLocations
  | fetchUserFavorites
  | toggleFavorite (locationId : String)
  | write (n : CollectionName) (docs : Collection)
  deriving DecidableEq

/-- The function behind an operation. -/
def FavoritesOperation.body (intl : Intl) (repository : LocationRepository) :
    FavoritesOperation → App Unit
  | fetch op => op.body intl
  | fetchAllLocations => LocationController.fetchAllLocations intl
  | fetchUserFavorites => LocationController.fetchUserFavorites repository
  | toggleFavorite locationId => LocationController.toggleFavorite repository locationId
  | write n docs => Prog.modify fun w => w.setDb n docs

/-- The favourites that are shown are those of all locations whose ids are in the set. -/
def FavoritesShown (w : World) : Prop :=
  w.locationController.lists .favoriteLocations =
    (w.locationController.lists .allLocations).filter fun location =>
      location.2.id ∈ w.locationController.favoriteLocationIds

instance (w : World) : Decidable (FavoritesShown w) :=
  inferInstanceAs (Decidable (_ = _))

/-- The objects of a list, with their ids. -/
def LocationControllerState.refs (s : LocationControllerState) (list : LocationList) :
    List (Nat × String) :=
  (s.lists list).map fun location => (location.1, location.2.id)

/-- The location that a transaction is about. -/
def FavoritesTransaction.locationId : FavoritesTransaction → String
  | addToFavorites locationId | removeFromFavorites locationId => locationId

/-- The step leaves the favourites among all locations as they were, and if it is a transaction
that throws, then its location is neither among all locations nor shown. -/
structure LeavesFavorites (c : AppPool FavoritesOperation) (ms : History)
    (c' : AppPool FavoritesOperation) : Prop where
  catalogue : (c'.state.locationController.refs .allLocations).filter
      (·.2 ∈ c.state.locationController.favoriteLocationIds) =
    (c.state.locationController.refs .allLocations).filter
      (·.2 ∈ c.state.locationController.favoriteLocationIds)
  failed : ∀ w id tx e, .answered ⟨w, .runTransaction id tx, .error e⟩ ∈ ms →
    tx.locationId ∉ w.locationIds .allLocations ∧ tx.locationId ∉ w.locationIds .favoriteLocations

section Refs

variable {s : LocationControllerState}

theorem refs_modifyLocation (k : Nat) {f : LocationModel → LocationModel}
    (hf : ∀ l, (f l).id = l.id) (list : LocationList) :
    (s.modifyLocation k f).refs list = s.refs list := by
  unfold LocationControllerState.refs LocationControllerState.modifyLocation
  rw [List.map_map]
  apply List.map_congr_left
  intro location _
  by_cases hk : location.1 = k <;> simp [hk, hf]

/-- Showing the favourites filters all locations. -/
theorem refs_showFavorites : s.showFavorites.refs .favoriteLocations =
    (s.refs .allLocations).filter (·.2 ∈ s.favoriteLocationIds) := by
  unfold LocationControllerState.refs
  rw [LocationControllerState.lists_showFavorites, Function.update_self, List.filter_map]
  rfl

theorem refs_showFavorites_of_ne {list : LocationList} (h : list ≠ .favoriteLocations) :
    s.showFavorites.refs list = s.refs list := by
  unfold LocationControllerState.refs
  rw [LocationControllerState.lists_showFavorites, Function.update_of_ne h]

theorem mem_locationIds_of_refs {w : World} {list : LocationList} {a : Nat × String}
    (h : a ∈ w.locationController.refs list) : a.2 ∈ w.locationIds list := by
  obtain ⟨location, hlocation, rfl⟩ := List.mem_map.mp h
  exact List.mem_map.mpr ⟨location, hlocation, rfl⟩

/-- An update of the catalogue does not touch the favourites. -/
theorem refs_update {u : LocationControllerState → LocationControllerState}
    (hu : CatalogueUpdate u) : (u s).refs .favoriteLocations = s.refs .favoriteLocations ∧
      (u s).favoriteLocationIds = s.favoriteLocationIds := by
  unfold LocationControllerState.refs
  cases hu with
  | assignNew hlist locations =>
    rw [LocationControllerState.lists_assignNew, Function.update_of_ne hlist.symm]
    exact ⟨rfl, rfl⟩
  | addToAll list =>
    rw [LocationControllerState.lists_addToAll, Function.update_of_ne (by decide)]
    exact ⟨rfl, rfl⟩
  | showCategory hlist hall categoryId =>
    rw [LocationControllerState.lists_showCategory, Function.update_of_ne hlist.symm]
    exact ⟨rfl, rfl⟩
  | modifyLocation k hf => exact ⟨refs_modifyLocation k hf .favoriteLocations, rfl⟩

/-- In a coherent state the references tell the objects. -/
theorem lists_eq_of_refs (h : s.Coherent) {xs ys : List (Nat × LocationModel)}
    {list list' : LocationList} (hxs : xs ⊆ s.lists list) (hys : ys ⊆ s.lists list')
    (heq : (xs.map fun x => (x.1, x.2.id)) = ys.map fun x => (x.1, x.2.id)) : xs = ys := by
  induction xs generalizing ys with
  | nil => cases ys with
    | nil => rfl
    | cons y ys => simp at heq
  | cons x xs ih => cases ys with
    | nil => simp at heq
    | cons y ys =>
      obtain ⟨hxy, hrest⟩ := List.cons.inj heq
      have hfst : x.1 = y.1 := (Prod.ext_iff.mp hxy).1
      have hhead : x = y := h.unique list list' x (hxs List.mem_cons_self) y
        (hys List.mem_cons_self) hfst
      rw [hhead, ih (fun z hz => hxs (List.mem_cons_of_mem x hz))
        (fun z hz => hys (List.mem_cons_of_mem y hz)) hrest]

/-- The favourites are shown if the references say so. -/
theorem favoritesShown_of_refs {w : World} (h : w.locationController.Coherent)
    (hrefs : w.locationController.refs .favoriteLocations =
      (w.locationController.refs .allLocations).filter
        (·.2 ∈ w.locationController.favoriteLocationIds)) : FavoritesShown w := by
  unfold LocationControllerState.refs at hrefs
  rw [List.filter_map] at hrefs
  exact lists_eq_of_refs h (List.Subset.refl _) (List.filter_subset_self _) hrefs

end Refs

section Guarantee

/-- A fetch leaves the favourites and the set of ids alone. -/
structure FavoritesAlone (w₀ w : World) : Prop where
  coherent : w₀.locationController.Coherent → w.locationController.Coherent
  refs : w.locationController.refs .favoriteLocations =
    w₀.locationController.refs .favoriteLocations
  ids : w.locationController.favoriteLocationIds = w₀.locationController.favoriteLocationIds

/-- The updates of the catalogue leave the favourites alone. -/
theorem keptByUpdates_favoritesAlone : KeptByUpdates FavoritesAlone where
  refl w := ⟨id, rfl, rfl⟩
  same h hw _ := by
    obtain ⟨hcoherent, hrefs, hids⟩ := h
    constructor <;> rw [hw] <;> assumption
  update hu h := by
    obtain ⟨hrefs, hids⟩ := refs_update hu
    exact ⟨fun hw₀ => (h.coherent hw₀).update hu, hrefs.trans h.refs, hids.trans h.ids⟩

/-- The fetch of the favourites leaves all locations alone, and where it changes anything else
it applies the filter. -/
structure FavoritesApplied (w₀ w : World) : Prop where
  coherent : w₀.locationController.Coherent → w.locationController.Coherent
  catalogue : w.locationController.refs .allLocations = w₀.locationController.refs .allLocations
  applied : w.locationController.refs .favoriteLocations =
        w₀.locationController.refs .favoriteLocations ∧
      w.locationController.favoriteLocationIds = w₀.locationController.favoriteLocationIds ∨
    w.locationController.refs .favoriteLocations =
      (w.locationController.refs .allLocations).filter
        (·.2 ∈ w.locationController.favoriteLocationIds)

theorem ofController_favoritesApplied : OfController FavoritesApplied where
  refl w := ⟨id, rfl, .inl ⟨rfl, rfl⟩⟩
  same h hw _ := by
    obtain ⟨hcoherent, hcatalogue, happlied⟩ := h
    constructor <;> rw [hw] <;> assumption

/-- The filter is applied, after the set of ids has been changed. -/
theorem FavoritesApplied.show {w₀ w : World} (h : FavoritesApplied w₀ w) (ids : Finset String) :
    FavoritesApplied w₀ { w with locationController :=
      { w.locationController with favoriteLocationIds := ids }.showFavorites } where
  coherent hw₀ := by
    have hw := h.coherent hw₀
    exact LocationControllerState.Coherent.showFavorites ⟨hw.fresh, hw.unique⟩
  catalogue := (refs_showFavorites_of_ne (by decide)).trans h.catalogue
  applied := by
    right
    refine refs_showFavorites.trans ?_
    rw [refs_showFavorites_of_ne (by decide)]
    rfl

theorem FavoritesAlone.flag (b : Bool) (w₀ w : World) (h : FavoritesAlone w₀ w) : FavoritesAlone w₀
    { w with locationController := { w.locationController with isLoading := b } } where
  coherent hw₀ := ⟨(h.coherent hw₀).fresh, (h.coherent hw₀).unique⟩
  refs := h.refs
  ids := h.ids

theorem FavoritesApplied.flag (b : Bool) (w₀ w : World) (h : FavoritesApplied w₀ w) :
    FavoritesApplied w₀
      { w with locationController := { w.locationController with isLoading := b } } where
  coherent hw₀ := ⟨(h.coherent hw₀).fresh, (h.coherent hw₀).unique⟩
  catalogue := h.catalogue
  applied := h.applied

variable (intl : Intl) (repository : LocationRepository)

/-- Fetching the favourites applies the filter. -/
theorem keeps_fetchUserFavorites :
    (LocationController.fetchUserFavorites repository).Keeps platform FavoritesApplied := by
  rw [fetchUserFavorites_eq]
  refine keeps_whileLoading ofController_favoritesApplied ?_ FavoritesApplied.flag
  refine .bind (ofController_favoritesApplied.getUserFavorites repository) fun favorites => ?_
  cases favorites with
  | none => exact keeps_done _
  | some favorites => exact fun w₀ w h => h.show favorites.favoriteLocationIds.toFinset

/-- What the segments of an operation keep, if it is not a toggle. -/
def FavoritesOperation.guarantee : FavoritesOperation → World → World → Prop
  | fetchUserFavorites => FavoritesApplied
  | _ => FavoritesAlone

theorem keeps_guarantee {op : FavoritesOperation} (hop : ∀ x, op ≠ .toggleFavorite x) :
    (op.body intl repository).Keeps platform op.guarantee := by
  cases op with
  | fetch op =>
    have hbody : (FavoritesOperation.fetch op).body intl repository = op.body intl := rfl
    rw [hbody, body_eq_whileLoading]
    exact keeps_whileLoading keptByUpdates_favoritesAlone.toOfController
      (keeps_loadCategory intl keptByUpdates_favoritesAlone op) FavoritesAlone.flag
  | fetchAllLocations =>
    exact keeps_whileLoading keptByUpdates_favoritesAlone.toOfController
      (keeps_loadAllLocations intl keptByUpdates_favoritesAlone) FavoritesAlone.flag
  | fetchUserFavorites => exact keeps_fetchUserFavorites repository
  | toggleFavorite x => exact absurd rfl (hop x)
  | write n docs =>
    exact keeps_modify fun _ _ h => keptByUpdates_favoritesAlone.same h rfl rfl

theorem FavoritesOperation.guarantee_refl (op : FavoritesOperation) (w : World) :
    op.guarantee w w := by
  cases op with
  | fetchUserFavorites => exact ofController_favoritesApplied.refl w
  | _ => exact keptByUpdates_favoritesAlone.refl w

end Guarantee

section Toggle

/-- What is left of a toggle after its transaction. -/
def afterTransaction (r : Except Exn Unit) : App Unit :=
  (Prog.done r : App Unit) >>= fun _ => modifyState (·.showFavorites)

/-- The tasks of a toggle. -/
inductive ToggleTask (x : String) : Task Reply World Exn → Prop
  | waiting (id : String) (tx : FavoritesTransaction) (htx : tx.locationId = x) :
      ToggleTask x (.waiting (.runTransaction id tx) afterTransaction)
  | ready (r : Except Exn Unit) : ToggleTask x (.ready (afterTransaction r))
  | finished : ToggleTask x .finished

/-- The transaction of a toggle has thrown, or the toggle has returned. -/
def toggleOver : Task Reply World Exn → Bool
  | .ready (.done _) | .finished => true
  | _ => false

section Start

variable {repository : LocationRepository} {x : String} {w w' : World} {ms : History}
  {t : Task Reply World Exn}

/-- A transaction is awaited; before that an id may be generated. -/
theorem advance_transact {tx : FavoritesTransaction}
    (h : (transact repository tx >>= fun _ =>
      modifyState (·.showFavorites)).Advance platform w ms t w') :
    ToggleTask tx.locationId t ∧ toggleOver t = false ∧
      w'.locationController = w.locationController := by
  obtain ⟨userId⟩ := repository
  cases userId with
  | some uid =>
    rw [transact_eq, Prog.advance_invoke_bind rfl] at h
    obtain ⟨-, rfl, rfl⟩ := h
    exact ⟨.waiting uid tx rfl, rfl, rfl⟩
  | none =>
    have hauto : ∃ id w₁ rest, platform.effect (.autoId .userFavorites) w id = some w₁ ∧
        ms = .answered ⟨w, .autoId .userFavorites, .ok id⟩ :: rest ∧
          (await (.runTransaction id tx) >>= fun _ => modifyState (·.showFavorites)).Advance
            platform w₁ rest t w' := by
      cases tx <;> exact h
    obtain ⟨id, w₁, rest, hid, -, hcall⟩ := hauto
    obtain ⟨-, rfl, rfl⟩ := (Prog.advance_invoke_bind rfl).mp hcall
    exact ⟨.waiting id tx rfl, rfl, congrArg (·.2.2.1) (controllers_of_perform (r := .ok id) hid)⟩

/-- The first segment of a toggle changes the set of ids at its location. -/
theorem advance_toggle
    (h : (LocationController.toggleFavorite repository x).Advance platform w ms t w') :
    ToggleTask x t ∧ toggleOver t = false ∧ ∃ ids,
      w'.locationController = { w.locationController with favoriteLocationIds := ids } ∧
        ∀ i, i ≠ x → (i ∈ ids ↔ i ∈ w.locationController.favoriteLocationIds) := by
  rw [LocationController.toggleFavorite, Prog.advance_read_bind] at h
  by_cases hx : x ∈ w.locationController.favoriteLocationIds
  · rw [if_pos hx] at h
    have hnext : (transact repository (.removeFromFavorites x) >>= fun _ =>
        modifyState (·.showFavorites)).Advance platform _ ms t w' := h
    obtain ⟨ht, hover, hw⟩ := advance_transact hnext
    refine ⟨ht, hover, _, hw, fun i hi => ?_⟩
    simp [hi]
  · rw [if_neg hx] at h
    have hnext : (transact repository (.addToFavorites x) >>= fun _ =>
        modifyState (·.showFavorites)).Advance platform _ ms t w' := h
    obtain ⟨ht, hover, hw⟩ := advance_transact hnext
    refine ⟨ht, hover, _, hw, fun i hi => ?_⟩
    simp [hi]

end Start

/-- The last segment of a toggle applies the filter, unless the transaction has thrown. -/
theorem advance_afterTransaction {r : Except Exn Unit} {w w' : World} {ms : History}
    {t : Task Reply World Exn} (h : (afterTransaction r).Advance platform w ms t w') :
    ms = [] ∧ t = .finished ∧ w'.locationController = match r with
      | .ok _ => w.locationController.showFavorites
      | .error _ => w.locationController := by
  cases r <;>
  · obtain ⟨rfl, rfl, rfl⟩ := h
    exact ⟨rfl, rfl, rfl⟩

end Toggle

section Invariant

/-- The location of a toggle that is not over. -/
def pendingToggle : FavoritesOperation × Task Reply World Exn → Option String
  | (.toggleFavorite x, t) => if toggleOver t then none else some x
  | _ => none

/-- What is left of a started operation. -/
def FavoritesTask (x : FavoritesOperation × Task Reply World Exn) : Prop :=
  match x.1 with
  | .toggleFavorite locationId => ToggleTask locationId x.2
  | op => x.2.Keeps platform op.guarantee

/-- The favourites are shown but for the locations of the toggles that are not over. -/
structure FavoritesTracked (c : AppPool FavoritesOperation) : Prop where
  tasks : ∀ x ∈ c.tasks, FavoritesTask x
  coherent : c.state.locationController.Coherent
  agrees : CachedFilter.AgreesOutside Prod.snd (c.tasks.filterMap pendingToggle)
    (c.state.locationController.refs .favoriteLocations)
    (c.state.locationController.refs .allLocations) c.state.locationController.favoriteLocationIds

variable {intl : Intl} {repository : LocationRepository}

/-- A segment of an operation that is not a toggle. -/
theorem FavoritesTracked.segment {c c' : AppPool FavoritesOperation} (h : FavoritesTracked c)
    {op : FavoritesOperation} (hop : ∀ x, op ≠ .toggleFavorite x)
    (hguarantee : op.guarantee c.state c'.state)
    (hcatalogue : (c'.state.locationController.refs .allLocations).filter
        (·.2 ∈ c.state.locationController.favoriteLocationIds) =
      (c.state.locationController.refs .allLocations).filter
        (·.2 ∈ c.state.locationController.favoriteLocationIds))
    (hpending : c'.tasks.filterMap pendingToggle = c.tasks.filterMap pendingToggle) :
    c'.state.locationController.Coherent ∧
      CachedFilter.AgreesOutside Prod.snd (c'.tasks.filterMap pendingToggle)
        (c'.state.locationController.refs .favoriteLocations)
        (c'.state.locationController.refs .allLocations)
        c'.state.locationController.favoriteLocationIds := by
  have halone (halone : FavoritesAlone c.state c'.state) :
      c'.state.locationController.Coherent ∧
        CachedFilter.AgreesOutside Prod.snd (c'.tasks.filterMap pendingToggle)
          (c'.state.locationController.refs .favoriteLocations)
          (c'.state.locationController.refs .allLocations)
          c'.state.locationController.favoriteLocationIds := by
    refine ⟨halone.coherent h.coherent, ?_⟩
    rw [halone.refs, halone.ids, hpending]
    exact h.agrees.replace hcatalogue
  cases op with
  | fetchUserFavorites =>
    obtain ⟨hcoherent, hall, ⟨hrefs, hids⟩ | hfilter⟩ := hguarantee
    · exact halone ⟨hcoherent, hrefs, hids⟩
    · refine ⟨hcoherent h.coherent, ?_⟩
      rw [hfilter]
      exact CachedFilter.agreesOutside_filter _ _ _
  | toggleFavorite x => exact absurd rfl (hop x)
  | fetch | fetchAllLocations | write => exact halone hguarantee

section NotToggle

variable {op : FavoritesOperation} {t : Task Reply World Exn}

/-- Only a toggle needs a shape of its own. -/
theorem favoritesTask_iff (hop : ∀ x, op ≠ .toggleFavorite x) :
    FavoritesTask (op, t) ↔ t.Keeps platform op.guarantee := by
  cases op with
  | toggleFavorite x => exact absurd rfl (hop x)
  | _ => rfl

theorem pendingToggle_eq_none (hop : ∀ x, op ≠ .toggleFavorite x) :
    pendingToggle (op, t) = none := by
  cases op with
  | toggleFavorite x => exact absurd rfl (hop x)
  | _ => rfl

end NotToggle

theorem filterMap_pending_replace (ts us : List (FavoritesOperation × Task Reply World Exn))
    (x : FavoritesOperation × Task Reply World Exn) : (ts ++ x :: us).filterMap pendingToggle =
      ts.filterMap pendingToggle ++
        ([x].filterMap pendingToggle ++ us.filterMap pendingToggle) := by
  rw [← List.filterMap_append, ← List.filterMap_append]
  rfl

/-- An operation starts. -/
theorem FavoritesTracked.start {w w' : World}
    {ts : List (FavoritesOperation × Task Reply World Exn)} {ms : History}
    {t : Task Reply World Exn} {op : FavoritesOperation} (h : FavoritesTracked ⟨w, ts⟩)
    (hadv : (op.body intl repository).Advance platform w ms t w')
    (hleaves : LeavesFavorites ⟨w, ts⟩ ms ⟨w', ts ++ [(op, t)]⟩) :
    FavoritesTracked ⟨w', ts ++ [(op, t)]⟩ := by
  by_cases hop : ∃ x, op = .toggleFavorite x
  · obtain ⟨x, rfl⟩ := hop
    obtain ⟨ht, hover, ids, hw', hids⟩ := advance_toggle hadv
    have hpending : (ts ++ [(FavoritesOperation.toggleFavorite x, t)]).filterMap pendingToggle =
        ts.filterMap pendingToggle ++ [x] := by
      simp [pendingToggle, hover]
    refine ⟨List.forall_mem_append.mpr ⟨h.tasks, List.forall_mem_singleton.mpr ht⟩, ?_, ?_⟩
    · dsimp only
      rw [hw']
      exact ⟨h.coherent.fresh, h.coherent.unique⟩
    · dsimp only
      rw [hpending, hw']
      refine h.agrees.select (List.subset_append_left _ _) fun i hi => hids i ?_
      rintro rfl
      simp at hi
  · have hop : ∀ x, op ≠ .toggleFavorite x := fun x hx => hop ⟨x, hx⟩
    obtain ⟨hguarantee, ht⟩ :=
      (keeps_guarantee intl repository hop w w (op.guarantee_refl w)).advance hadv
    have hpending : (ts ++ [(op, t)]).filterMap pendingToggle = ts.filterMap pendingToggle := by
      simp [pendingToggle_eq_none hop]
    obtain ⟨hcoherent, hagrees⟩ := h.segment hop hguarantee hleaves.catalogue hpending
    refine ⟨List.forall_mem_append.mpr ⟨h.tasks, List.forall_mem_singleton.mpr ?_⟩,
      hcoherent, hagrees⟩
    exact (favoritesTask_iff hop).mpr ht

/-- A call is answered. -/
theorem FavoritesTracked.serve {w w' : World}
    {ts us : List (FavoritesOperation × Task Reply World Exn)} {op : FavoritesOperation}
    {call : Call}
    {k : Except Exn (Reply call) → App Unit} {r : Except Exn (Reply call)}
    (h : FavoritesTracked ⟨w, ts ++ (op, .waiting call k) :: us⟩)
    (hr : platform.perform call w r = some w')
    (hleaves : LeavesFavorites ⟨w, ts ++ (op, .waiting call k) :: us⟩ [.answered ⟨w, call, r⟩]
      ⟨w', ts ++ (op, .ready (k r)) :: us⟩) :
    FavoritesTracked ⟨w', ts ++ (op, .ready (k r)) :: us⟩ := by
  have hw' : w'.locationController = w.locationController :=
    congrArg (·.2.2.1) (controllers_of_perform hr)
  obtain ⟨htasks, hcoherent, hagrees⟩ := h
  dsimp only at htasks hcoherent hagrees
  obtain ⟨hts, htask, hus⟩ := forall_tasks_iff.mp htasks
  have htasks' (ht : FavoritesTask (op, .ready (k r))) :
      ∀ x ∈ ts ++ (op, .ready (k r)) :: us, FavoritesTask x :=
    forall_tasks_iff.mpr ⟨hts, ht, hus⟩
  by_cases hop : ∃ x, op = .toggleFavorite x
  · obtain ⟨x, rfl⟩ := hop
    have htoggle : ToggleTask x (.waiting call k) := htask
    cases htoggle with
    | waiting id tx htx =>
      refine ⟨htasks' (.ready r), hw' ▸ hcoherent, ?_⟩
      rw [filterMap_pending_replace] at hagrees ⊢
      rw [hw']
      cases r with
      | ok v => exact hagrees
      | error e =>
        -- nothing of the location is to be seen, so that nothing about it is stale
        obtain ⟨hall, hshown⟩ := hleaves.failed w id tx e List.mem_cons_self
        rw [htx] at hall hshown
        have hseen {list : LocationList} (hlist : x ∉ w.locationIds list) :
            ∀ a ∈ w.locationController.refs list,
              a.2 ∈ ts.filterMap pendingToggle ++ ([x] ++ us.filterMap pendingToggle) →
                a.2 ∈ ts.filterMap pendingToggle ++ ([] ++ us.filterMap pendingToggle) := by
          intro a ha hstale
          have hne : a.2 ≠ x := by
            rintro rfl
            exact hlist (mem_locationIds_of_refs ha)
          simpa [hne] using hstale
        refine hagrees.absent (hseen hshown) (hseen hall) fun i hi => ?_
        rcases List.mem_append.mp hi with hi | hi
        · exact List.mem_append_left _ hi
        · exact List.mem_append_right _ (List.mem_append_right _ hi)
  · have hop : ∀ x, op ≠ .toggleFavorite x := fun x hx => hop ⟨x, hx⟩
    refine ⟨htasks' ?_, hw' ▸ hcoherent, ?_⟩
    · have hwaiting := (favoritesTask_iff hop).mp htask
      exact (favoritesTask_iff hop).mpr (hwaiting.2 r)
    · rw [filterMap_pending_replace] at hagrees ⊢
      rw [hw']
      simpa [pendingToggle_eq_none hop] using hagrees

/-- A task goes on. -/
theorem FavoritesTracked.resume {w w' : World}
    {ts us : List (FavoritesOperation × Task Reply World Exn)} {op : FavoritesOperation}
    {p : App Unit} {ms : History} {t : Task Reply World Exn}
    (h : FavoritesTracked ⟨w, ts ++ (op, .ready p) :: us⟩) (hadv : p.Advance platform w ms t w')
    (hleaves : LeavesFavorites ⟨w, ts ++ (op, .ready p) :: us⟩ ms ⟨w', ts ++ (op, t) :: us⟩) :
    FavoritesTracked ⟨w', ts ++ (op, t) :: us⟩ := by
  obtain ⟨hts, htask, hus⟩ := forall_tasks_iff.mp h.tasks
  have htasks' (ht : FavoritesTask (op, t)) : ∀ x ∈ ts ++ (op, t) :: us, FavoritesTask x :=
    forall_tasks_iff.mpr ⟨hts, ht, hus⟩
  by_cases hop : ∃ x, op = .toggleFavorite x
  · obtain ⟨x, rfl⟩ := hop
    have htoggle : ToggleTask x (.ready p) := htask
    cases htoggle with
    | ready r =>
      obtain ⟨-, rfl, hw'⟩ := advance_afterTransaction hadv
      cases r with
      | ok v =>
        have hw' : w'.locationController = w.locationController.showFavorites := hw'
        refine ⟨htasks' .finished, hw' ▸ h.coherent.showFavorites, ?_⟩
        dsimp only
        rw [hw', refs_showFavorites, refs_showFavorites_of_ne (by decide)]
        exact CachedFilter.agreesOutside_filter _ _ _
      | error e =>
        have hw' : w'.locationController = w.locationController := hw'
        refine ⟨htasks' .finished, hw' ▸ h.coherent, ?_⟩
        have hagrees := h.agrees
        dsimp only at hagrees ⊢
        rw [filterMap_pending_replace] at hagrees ⊢
        rw [hw']
        exact hagrees
  · have hop : ∀ x, op ≠ .toggleFavorite x := fun x hx => hop ⟨x, hx⟩
    have hready := (favoritesTask_iff hop).mp htask
    obtain ⟨hguarantee, ht⟩ := Prog.Segments.advance (hready w) hadv
    have hpending : (ts ++ (op, t) :: us).filterMap pendingToggle =
        (ts ++ (op, .ready p) :: us).filterMap pendingToggle := by
      rw [filterMap_pending_replace, filterMap_pending_replace]
      simp [pendingToggle_eq_none hop]
    obtain ⟨hcoherent, hagrees⟩ := h.segment hop hguarantee hleaves.catalogue hpending
    exact ⟨htasks' ((favoritesTask_iff hop).mpr ht), hcoherent, hagrees⟩

/-- One step of a run. -/
theorem FavoritesTracked.step {c c' : AppPool FavoritesOperation} {ms : History}
    (h : FavoritesTracked c)
    (hstep : Pool.Step platform (FavoritesOperation.body intl repository) c ms c')
    (hleaves : LeavesFavorites c ms c') : FavoritesTracked c' := by
  cases hstep with
  | start op hadv => exact h.start hadv hleaves
  | serve hr => exact h.serve hr hleaves
  | resume hadv => exact h.resume hadv hleaves

end Invariant

/-- With no operation under way the favourites are shown, if every step has left them among all
locations and no transaction on one of these has thrown. -/
theorem favoritesShown_of_quiescent {intl : Intl} {repository : LocationRepository} {w₀ : World}
    {ms : History} {c : AppPool FavoritesOperation} (hfresh : w₀.locationController = {})
    (hrun : Pool.RunMeeting platform (FavoritesOperation.body intl repository) LeavesFavorites
      ⟨w₀, []⟩ ms c) (hquiet : c.Quiescent) : FavoritesShown c.state := by
  have htracked : FavoritesTracked c := by
    refine hrun.invariant (fun c _ => FavoritesTracked c) ?_ ?_
    · refine ⟨List.forall_mem_nil _, ?_, ?_⟩
      · dsimp only
        rw [hfresh]
        exact ⟨fun list => List.forall_mem_nil _, fun list list' => List.forall_mem_nil _⟩
      · dsimp only
        rw [hfresh]
        have hempty :
            CachedFilter.AgreesOutside Prod.snd ([] : List String) ([] : List (Nat × String))
            [] ∅ := CachedFilter.agreesOutside_nil.mpr rfl
        exact hempty
    · exact fun c₁ c₂ ms ms' h hstep hleaves => h.step hstep hleaves
  have hnone : c.tasks.filterMap pendingToggle = [] := by
    apply List.filterMap_eq_nil_iff.mpr
    rintro ⟨op, t⟩ hx
    have hfinished := hquiet (op, t) hx
    cases t with
    | finished => cases op <;> rfl
    | waiting | ready => cases hfinished
  have hagrees := htracked.agrees
  rw [hnone] at hagrees
  exact favoritesShown_of_refs htracked.coherent (CachedFilter.agreesOutside_nil.mp hagrees)

/-- For a step of a fetch of locations the condition is also necessary. -/
theorem favoritesShown_fetch_iff {w w' : World} (hcoherent : w.locationController.Coherent)
    (hstep : FavoritesAlone w w') (hshown : FavoritesShown w) : FavoritesShown w' ↔
      (w'.locationController.refs .allLocations).filter
          (·.2 ∈ w.locationController.favoriteLocationIds) =
        (w.locationController.refs .allLocations).filter
          (·.2 ∈ w.locationController.favoriteLocationIds) := by
  have hrefs {w : World} (h : FavoritesShown w) : w.locationController.refs .favoriteLocations =
      (w.locationController.refs .allLocations).filter
        (·.2 ∈ w.locationController.favoriteLocationIds) := by
    unfold LocationControllerState.refs
    rw [h, List.filter_map]
    rfl
  constructor
  · intro hshown'
    rw [← hrefs hshown, ← hstep.refs, hrefs hshown', hstep.ids]
  · intro hsame
    apply favoritesShown_of_refs (hstep.coherent hcoherent)
    rw [hstep.refs, hstep.ids, hrefs hshown, hsame]

/-- A user with one favourite, which is a place to visit. -/
def World.withFavorite : World :=
  { World.withUsers [signedInUser] with
    db := fun
      | .locations => AList.singleton "park" (unscheduled "1")
      | .userFavorites => AList.singleton "u" (FavoritesTransaction.fields [.string "park"])
      | _ => ∅ }

/-- The favourites among all locations stay, and no transaction throws. -/
def leavesFavorites (c : AppPool FavoritesOperation) (ms : History)
    (c' : AppPool FavoritesOperation) : Bool :=
  decide ((c'.state.locationController.refs .allLocations).filter
      (·.2 ∈ c.state.locationController.favoriteLocationIds) =
    (c.state.locationController.refs .allLocations).filter
      (·.2 ∈ c.state.locationController.favoriteLocationIds)) &&
  ms.all fun
    | .answered ⟨_, .runTransaction _ _, .error _⟩ => false
    | _ => true

/-- The check of the condition is sound. -/
theorem leavesFavorites_sound (c : AppPool FavoritesOperation) (ms : History)
    (c' : AppPool FavoritesOperation) (h : leavesFavorites c ms c' = true) :
    LeavesFavorites c ms c' := by
  obtain ⟨hcatalogue, hanswered⟩ := Bool.and_eq_true_iff.mp h
  refine ⟨of_decide_eq_true hcatalogue, fun w id tx e hthrown => ?_⟩
  have hfalse := List.all_eq_true.mp hanswered _ hthrown
  cases hfalse

/-- The places to visit are fetched, then the favourites, and then the one favourite is removed
and added again. -/
theorem favoritesShown_park : ∃ ms c,
    Pool.RunMeeting platform (FavoritesOperation.body Intl.utc ⟨some "u"⟩) LeavesFavorites
      ⟨World.withFavorite, []⟩ ms c ∧
    c.state.locationIds .favoriteLocations = ["park"] ∧ FavoritesShown c.state := by
  obtain ⟨ms, c, hrun, hq⟩ := scenario_pool_runMeeting
    (FavoritesOperation.body Intl.utc ⟨some "u"⟩) World.withFavorite (fun _ _ => none)
    leavesFavorites LeavesFavorites leavesFavorites_sound
    [.start (.fetch .fetchTouristSpots), .go 0, .go 0, .go 0, .go 0, .go 0, .go 0,
      .start .fetchUserFavorites, .go 1, .go 1,
      .start (.toggleFavorite "park"), .go 2, .go 2, .start (.toggleFavorite "park"), .go 3, .go 3]
    (fun out => decide out.2.Quiescent &&
      decide (out.2.state.locationIds .favoriteLocations = ["park"])) (by decide +kernel)
  obtain ⟨hquiet, hids⟩ := Bool.and_eq_true_iff.mp hq
  exact ⟨ms, c, hrun, of_decide_eq_true hids,
    favoritesShown_of_quiescent rfl hrun (of_decide_eq_true hquiet)⟩

/-- The favourites are fetched before the place to visit, which is not shown among them. -/
theorem not_favoritesShown_park : ¬ ∀ (w₀ : World) (ms : History) (c : AppPool FavoritesOperation),
    w₀.locationController = {} →
      Pool.Run platform (FavoritesOperation.body Intl.utc ⟨some "u"⟩) ⟨w₀, []⟩ ms c →
        c.Quiescent → (.fetchUserFavorites, .finished) ∈ c.tasks → FavoritesShown c.state := by
  intro hall
  obtain ⟨ms, c, hrun, hq⟩ := scenario_pool_run (FavoritesOperation.body Intl.utc ⟨some "u"⟩)
    World.withFavorite (fun _ _ => none)
    [.start .fetchUserFavorites, .go 0, .go 0,
      .start (.fetch .fetchTouristSpots), .go 1, .go 1, .go 1, .go 1, .go 1, .go 1]
    (fun out => decide out.2.Quiescent && !decide (FavoritesShown out.2.state) &&
      out.2.tasks.any fun x => decide (x.1 = .fetchUserFavorites) && x.2.isFinished)
    (by decide +kernel)
  obtain ⟨hend, hfetched⟩ := Bool.and_eq_true_iff.mp hq
  simp only [Bool.and_eq_true, decide_eq_true_eq, Bool.not_eq_true',
    decide_eq_false_iff_not] at hend
  exact hend.2 (hall World.withFavorite ms c rfl hrun hend.1 (finished_of_any hfetched))

end AroundMuseo
