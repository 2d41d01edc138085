import AroundMuseo.Locations.Calendar
import AroundMuseo.Locations.Fetches
import AroundMuseo.Platform.Scenario
import Mathlib.Data.Multiset.Bind

/-!
# The list of all locations

When every fetch has finished, the list of all locations holds each category as often as
it was fetched, except for the one whose fetch adds nothing, and for those with a location
whose category cannot be asked for. It is the catalogue exactly when these categories are
empty and no other one was fetched twice.
-/

namespace AroundMuseo

open Async Firestore LocationController LocationFetch

/-- The ids of the locations that a list of the controller shows. -/
def World.locationIds (w : World) (list : LocationList) : List String :=
  (w.locationController.lists list).map fun location => location.2.id

theorem World.locationIds_eq (w : World) (list : LocationList) :
    w.locationIds list = (w.locationController.keys list).map LocationKey.id := by
  rw [locationIds, LocationControllerState.keys, List.map_map]
  rfl

/-- The list of all locations is the catalogue: each stored location of the four
categories once, and nothing else; that is, what the four lists show together. -/
structure CatalogueLoaded (w : World) : Prop where
  once : ∀ op : LocationFetch, ∀ e ∈ categoryDocs w.db op,
    (w.locationIds .allLocations).count e.1 = 1
  only : ∀ id ∈ w.locationIds .allLocations, ∃ op : LocationFetch,
    ∃ e ∈ categoryDocs w.db op, e.1 = id
  perm : (w.locationIds .allLocations).Perm (w.locationIds .touristSpots ++
    w.locationIds .accommodations ++ w.locationIds .dining ++ w.locationIds .shopping)

section Ids

variable {db : CollectionName → Collection}

/-- The ids of the stored locations of a category. -/
def categoryIds (db : CollectionName → Collection) (op : LocationFetch) : List String :=
  (categoryDocs db op).map Prod.fst

theorem ids_decodeAll {docs : List (String × Doc)} {locations : List LocationModel}
    (h : LocationRepository.decodeAll docs = .ok locations) :
    locations.map (·.id) = docs.map Prod.fst := by
  induction docs generalizing locations with
  | nil =>
    cases h
    rfl
  | cons e docs ih =>
    rw [LocationRepository.decodeAll, List.mapM_cons] at h
    obtain ⟨l, hl, h⟩ := bind_eq_ok.mp h
    obtain ⟨ls, hls, h⟩ := bind_eq_ok.mp h
    cases h
    rw [List.map_cons, List.map_cons, ih hls, LocationModel.fromSnapshot_id hl]

theorem Legible.catalogue_ids {intl : Intl} (h : Legible intl db) (op : LocationFetch) :
    (catalogue db op).map LocationKey.id = categoryIds db op := by
  obtain ⟨locations, hlocations, hkeys⟩ := h.catalogue_eq op
  rw [hkeys, List.map_map, categoryIds, ← ids_decodeAll hlocations]
  rfl

/-- A location is of one category only. -/
theorem eq_of_mem_categoryIds {op op' : LocationFetch} {id : String} (h : id ∈ categoryIds db op)
    (h' : id ∈ categoryIds db op') : op = op' := by
  obtain ⟨e, he, rfl⟩ := List.mem_map.mp h
  obtain ⟨e', he', hid⟩ := List.mem_map.mp h'
  obtain ⟨hlookup, hcategory⟩ := Collection.mem_whereEq.mp he
  obtain ⟨hlookup', hcategory'⟩ := Collection.mem_whereEq.mp he'
  rw [hid, hlookup] at hlookup'
  rw [← Option.some.inj hlookup', hcategory] at hcategory'
  apply categoryId_injective
  simpa using hcategory'

/-- How often a location occurs if categories are put together. -/
theorem count_bind_categoryIds (ops : Multiset LocationFetch) {op : LocationFetch} {id : String}
    (h : id ∈ categoryIds db op) :
    (ops.bind fun op => (categoryIds db op : Multiset String)).count id = ops.count op := by
  have hnodup : (categoryIds db op).Nodup := Collection.nodup_whereEq _ _ _
  induction ops using Multiset.induction with
  | empty => rfl
  | cons op' ops ih =>
    rw [Multiset.cons_bind, Multiset.count_add, ih, Multiset.coe_count]
    by_cases hop : op' = op
    · subst hop
      rw [List.count_eq_one_of_mem hnodup h, Multiset.count_cons_self, Nat.add_comm]
    · have hno : id ∉ categoryIds db op' := fun h' => hop (eq_of_mem_categoryIds h' h)
      rw [List.count_eq_zero_of_not_mem hno, Multiset.count_cons_of_ne (Ne.symm hop), Nat.zero_add]

theorem count_bind_of_not_mem (ops : Multiset LocationFetch) {id : String}
    (h : ∀ op, id ∉ categoryIds db op) :
    (ops.bind fun op => (categoryIds db op : Multiset String)).count id = 0 := by
  refine Multiset.count_eq_zero.mpr fun hid => ?_
  obtain ⟨op, -, hop⟩ := Multiset.mem_bind.mp hid
  exact h op (Multiset.mem_coe.mp hop)

end Ids

/-- What holds while fetches are under way, `ops` having finished: their lists are loaded,
and the list of all locations has the contribution of each. -/
structure Loading (db : CollectionName → Collection) (w : World) (ops : Multiset LocationFetch) :
    Prop where
  db : w.db = db
  loaded : ∀ op ∈ ops, w.locationController.keys op.list = catalogue w.db op
  all : (w.locationController.keys .allLocations : Multiset LocationKey) =
    ops.bind fun op => (contribution w.db op : Multiset LocationKey)

section Loading

variable {intl : Intl} {db : CollectionName → Collection} {w w' : World}
  {ops : Multiset LocationFetch} {op : LocationFetch}

theorem Loading.of_guar (h : Loading db w ops) (hg : Guar w w') : Loading db w' ops := by
  refine ⟨hg.1.1.trans h.db, fun op hop => hg.1.loaded (h.loaded op hop), ?_⟩
  rw [hg.2, h.all, hg.1.1]

theorem Loading.of_last (h : Loading db w ops) (hlast : Last op w w') :
    Loading db w' (op ::ₘ ops) := by
  obtain ⟨hrely, hloaded, hall⟩ := hlast
  refine ⟨hrely.1.trans h.db, fun op' hop' => ?_, ?_⟩
  · rcases Multiset.mem_cons.mp hop' with rfl | hop'
    · rw [hloaded, hrely.1]
    · exact hrely.loaded (h.loaded op' hop')
  · rw [hall, ← Multiset.coe_add, h.all, Multiset.cons_bind, hrely.1, Multiset.add_comm]

/-- The invariant of all runs of fetches. -/
theorem loading_of_run (hlegible : Legible intl db) {c₀ c : AppPool LocationFetch} {ms : History}
    (hrun : Pool.Run platform (body intl) c₀ ms c)
    (hstart : c₀.tasks = []) (hdb : c₀.state.db = db)
    (hempty : c₀.state.locationController.keys .allLocations = [])
    (hok : AllAnswered (answers ms)) : Loading db c.state (Pool.finishedOps c.tasks) := by
  refine hrun.rely_guarantee Rely (fun _ => Guar) Last _ Rely.refl
    (fun _ _ _ => Rely.trans) ?_ ?_ ?_ hstart ?_ hok
  · intro op w ops h
    exact guarded_body (h.db ▸ hlegible) op
  · intro op w w' ops h hg
    exact ⟨hg.1, h.of_guar hg⟩
  · intro op w w' ops h hlast
    exact ⟨hlast.1, h.of_last hlast⟩
  · refine ⟨hdb, fun op hop => absurd hop (Multiset.notMem_zero op), ?_⟩
    rw [hempty]
    rfl

/-- The list of all locations holds the categories that add to it, by their ids. -/
theorem Loading.ids (h : Loading db w ops) (hlegible : Legible intl db) :
    (w.locationIds .allLocations : Multiset String) =
      (ops.filter fun op => op ≠ .fetchDining ∧ AllNamed db op).bind
        fun op => (categoryIds db op : Multiset String) := by
  have hdb := h.db
  subst hdb
  have hids : ∀ op : LocationFetch, ((contribution w.db op).map LocationKey.id : Multiset String) =
      if op ≠ .fetchDining ∧ AllNamed w.db op then (categoryIds w.db op : Multiset String)
      else 0 := by
    intro op
    rw [contribution]
    split
    · rw [hlegible.catalogue_ids]
    · rfl
  rw [World.locationIds_eq, ← Multiset.map_coe, h.all, Multiset.map_bind]
  clear h
  induction ops using Multiset.induction with
  | empty => rfl
  | cons op ops ih =>
    rw [Multiset.cons_bind, ih, Multiset.map_coe, hids]
    by_cases hop : op ≠ .fetchDining ∧ AllNamed w.db op
    · rw [if_pos hop, Multiset.filter_cons_of_pos ops hop, Multiset.cons_bind]
    · rw [if_neg hop, Multiset.filter_cons_of_neg ops hop, Multiset.zero_add]

/-- A list shows the category that was loaded into it. -/
theorem Loading.ids_list (h : Loading db w ops) (hlegible : Legible intl db) {op : LocationFetch}
    (hop : op ∈ ops) : w.locationIds op.list = categoryIds db op := by
  have hdb := h.db
  subst hdb
  rw [World.locationIds_eq, h.loaded op hop, hlegible.catalogue_ids]

end Loading

/-- Each category is empty, or its fetch adds to the list, was called once, and can ask for
the names of all the categories of its locations. -/
def FetchedOnce (db : CollectionName → Collection) (ops : List LocationFetch) : Prop :=
  ∀ op, categoryDocs db op = [] ∨ op ≠ .fetchDining ∧ AllNamed db op ∧ ops.count op = 1

instance (db : CollectionName → Collection) (ops : List LocationFetch) :
    Decidable (FetchedOnce db ops) :=
  inferInstanceAs (Decidable (∀ op, categoryDocs db op = [] ∨ _))

/-- The four categories put together. -/
theorem bind_all_categoryIds (db : CollectionName → Collection) :
    (({.fetchTouristSpots, .fetchAccommodations, .fetchDining, .fetchShopping} :
      Multiset LocationFetch).bind fun op => (categoryIds db op : Multiset String)) =
      (categoryIds db .fetchTouristSpots ++ categoryIds db .fetchAccommodations ++
        categoryIds db .fetchDining ++ categoryIds db .fetchShopping : List String) := by
  simp [Multiset.insert_eq_cons, ← Multiset.coe_add]

section Quiescent

variable {intl : Intl} {db : CollectionName → Collection} {w : World} {ops : Multiset LocationFetch}

/-- How often the list of all locations shows a stored location. -/
theorem Loading.count_allLocations (h : Loading db w ops) (hlegible : Legible intl db)
    {op : LocationFetch} {id : String} (hid : id ∈ categoryIds db op) :
    (w.locationIds .allLocations).count id =
      if op ≠ .fetchDining ∧ AllNamed db op then ops.count op else 0 := by
  rw [← Multiset.coe_count, h.ids hlegible, count_bind_categoryIds _ hid, Multiset.count_filter]

/-- The list is the catalogue if every category was added to it once. -/
theorem Loading.catalogueLoaded (h : Loading db w ops) (hlegible : Legible intl db)
    (hall : ∀ op, op ∈ ops) (hcount : ∀ op, ∀ id ∈ categoryIds db op,
      (w.locationIds .allLocations).count id = 1) : CatalogueLoaded w := by
  have hdb := h.db
  subst hdb
  have hcategory : ∀ id ∈ w.locationIds .allLocations, ∃ op, id ∈ categoryIds w.db op := by
    intro id hid
    rw [← Multiset.mem_coe, h.ids hlegible] at hid
    obtain ⟨op, -, hop⟩ := Multiset.mem_bind.mp hid
    exact ⟨op, hop⟩
  refine ⟨?_, ?_, ?_⟩
  · intro op e he
    exact hcount op e.1 (List.mem_map_of_mem he)
  · intro id hid
    obtain ⟨op, hop⟩ := hcategory id hid
    obtain ⟨e, he, rfl⟩ := List.mem_map.mp hop
    exact ⟨op, e, he, rfl⟩
  · have htouristSpots := h.ids_list hlegible (hall .fetchTouristSpots)
    have haccommodations := h.ids_list hlegible (hall .fetchAccommodations)
    have hdining := h.ids_list hlegible (hall .fetchDining)
    have hshopping := h.ids_list hlegible (hall .fetchShopping)
    simp only [list] at htouristSpots haccommodations hdining hshopping
    rw [htouristSpots, haccommodations, hdining, hshopping, ← Multiset.coe_eq_coe,
      ← bind_all_categoryIds]
    ext id
    by_cases hid : ∃ op, id ∈ categoryIds w.db op
    · obtain ⟨op, hop⟩ := hid
      rw [Multiset.coe_count, hcount op id hop, count_bind_categoryIds _ hop]
      cases op <;> rfl
    · rw [not_exists] at hid
      rw [count_bind_of_not_mem _ hid, Multiset.coe_count]
      refine List.count_eq_zero_of_not_mem fun hmem => ?_
      obtain ⟨op, hop⟩ := hcategory id hmem
      exact hid op hop

end Quiescent

/-- When no fetch is under way, the list of all locations is the catalogue exactly if there
is no place to dine and every other category is empty or was fetched once, its locations
having categories to ask for. -/
theorem catalogueLoaded_iff {intl : Intl} {w₀ : World} {c : AppPool LocationFetch} {ms : History}
    (hlegible : Legible intl w₀.db) (hempty : ∀ list, w₀.locationController.lists list = [])
    (hrun : Pool.Run platform (body intl) ⟨w₀, []⟩ ms c) (hok : AllAnswered (answers ms))
    (hcalled : ∀ op, op ∈ c.tasks.map Prod.fst) (hquiescent : c.Quiescent) :
    CatalogueLoaded c.state ↔ FetchedOnce w₀.db (c.tasks.map Prod.fst) := by
  have hkeys : w₀.locationController.keys .allLocations = [] := by
    rw [LocationControllerState.keys, hempty]
    rfl
  have h := loading_of_run hlegible hrun rfl rfl hkeys hok
  rw [hquiescent.finishedOps] at h
  constructor
  · intro hcatalogue op
    rcases hdocs : categoryDocs w₀.db op with - | ⟨e, docs⟩
    · exact .inl rfl
    · have he : e ∈ categoryDocs w₀.db op := hdocs ▸ List.mem_cons_self
      have honce := hcatalogue.once op e (h.db ▸ he)
      rw [h.count_allLocations hlegible (List.mem_map_of_mem he)] at honce
      by_cases hop : op ≠ .fetchDining ∧ AllNamed w₀.db op
      · rw [if_pos hop, Multiset.coe_count] at honce
        exact .inr ⟨hop.1, hop.2, honce⟩
      · rw [if_neg hop] at honce
        cases honce
  · intro honce
    refine h.catalogueLoaded hlegible hcalled fun op id hid => ?_
    rw [h.count_allLocations hlegible hid]
    rcases honce op with hdocs | ⟨hop, hnamed, hcount⟩
    · rw [categoryIds, hdocs] at hid
      exact absurd hid List.not_mem_nil
    · rw [if_pos ⟨hop, hnamed⟩, Multiset.coe_count, hcount]

/-- A location of a category without a schedule. -/
def unscheduled (categoryId : String) : Doc :=
  Doc.ofFields [("CategoryId", Scalar.string categoryId), ("SubCategoryId", Scalar.string "5")]

/-- A state with one location in the store. -/
def World.withLocation (id : String) (data : Doc) : World :=
  { World.withUsers [] with
    db := fun
      | .locations => AList.singleton id data
      | _ => ∅ }

theorem categoryDocs_withLocation (id categoryId : String) (op : LocationFetch) :
    categoryDocs (World.withLocation id (unscheduled categoryId)).db op =
      if categoryId = op.categoryId then [(id, unscheduled categoryId)] else [] := by
  have hfield : (unscheduled categoryId).lookup "CategoryId" =
      some (.scalar (.string categoryId)) := by
    simp [unscheduled]
  have hdocs : categoryDocs (World.withLocation id (unscheduled categoryId)).db op =
      [(id, unscheduled categoryId)].filter fun e : String × Doc =>
        e.2.lookup "CategoryId" = some (Scalar.string op.categoryId) := rfl
  rw [hdocs, List.filter_singleton, hfield]
  simp

/-- It can be read. -/
theorem legible_withLocation (intl : Intl) (id categoryId : String) :
    Legible intl (World.withLocation id (unscheduled categoryId)).db := by
  refine ⟨fun op => ?_, fun id data h => ?_⟩
  · rw [categoryDocs_withLocation]
    split
    · refine ⟨_, rfl, fun l hl => ?_⟩
      rw [List.mem_singleton.mp hl]
      exact ⟨[], rfl, nofun⟩
    · exact ⟨[], rfl, List.forall_mem_nil _⟩
  · cases h

/-- The four fetches, one after the other: the one of the location takes seven steps, the
others three. -/
def fetchMoves (op : LocationFetch) : List (Pool.Move LocationFetch) :=
  [.fetchTouristSpots, .fetchAccommodations, .fetchDining, .fetchShopping].zipIdx.flatMap
    fun (op', n) =>
    .start op' :: List.replicate (if op' = op then 6 else 2) (.go n)

/-- A catalogue of one shop is loaded: it is in the list, and in no other category. -/
theorem catalogueLoaded_shop : ∃ (c : AppPool LocationFetch) (ms : History),
    Pool.Run platform (body Intl.utc) ⟨World.withLocation "shop" (unscheduled "4"), []⟩ ms c ∧
      c.state.locationIds .allLocations = ["shop"] ∧
      FetchedOnce (World.withLocation "shop" (unscheduled "4")).db (c.tasks.map Prod.fst) ∧
      CatalogueLoaded c.state := by
  obtain ⟨ms, c, hrun, hq⟩ := scenario_pool_run (body Intl.utc)
    (World.withLocation "shop" (unscheduled "4")) (fun _ _ => none) (fetchMoves .fetchShopping)
    (fun out => decide (AllAnswered (answers out.1)) &&
      decide (∀ op, op ∈ out.2.tasks.map Prod.fst) && decide out.2.Quiescent &&
      decide (out.2.state.locationIds .allLocations = ["shop"]) &&
      decide (FetchedOnce (World.withLocation "shop" (unscheduled "4")).db
        (out.2.tasks.map Prod.fst)))
    (by decide +kernel)
  simp only [Bool.and_eq_true, decide_eq_true_eq] at hq
  obtain ⟨⟨⟨⟨hok, hcalled⟩, hquiescent⟩, hids⟩, honce⟩ := hq
  exact ⟨c, ms, hrun, hids, honce, (catalogueLoaded_iff (legible_withLocation _ _ _) (fun _ => rfl)
    hrun hok hcalled hquiescent).mpr honce⟩

/-- All four categories are fetched, and the only restaurant is not in the list. -/
theorem not_catalogueLoaded_restaurant : ∃ (c : AppPool LocationFetch) (ms : History),
    Legible Intl.utc (World.withLocation "restaurant" (unscheduled "3")).db ∧
      Pool.Run platform (body Intl.utc)
        ⟨World.withLocation "restaurant" (unscheduled "3"), []⟩ ms c ∧
      AllAnswered (answers ms) ∧ (∀ op, op ∈ c.tasks.map Prod.fst) ∧ c.Quiescent ∧
      ¬ CatalogueLoaded c.state := by
  obtain ⟨ms, c, hrun, hq⟩ := scenario_pool_run (body Intl.utc)
    (World.withLocation "restaurant" (unscheduled "3")) (fun _ _ => none) (fetchMoves .fetchDining)
    (fun out => decide (AllAnswered (answers out.1)) &&
      decide (∀ op, op ∈ out.2.tasks.map Prod.fst) && decide out.2.Quiescent &&
      decide (categoryDocs out.2.state.db .fetchDining = [("restaurant", unscheduled "3")]) &&
      decide (out.2.state.locationIds .allLocations = []))
    (by decide +kernel)
  simp only [Bool.and_eq_true, decide_eq_true_eq] at hq
  obtain ⟨⟨⟨⟨hok, hcalled⟩, hquiescent⟩, hdocs⟩, hids⟩ := hq
  refine ⟨c, ms, legible_withLocation _ _ _, hrun, hok, hcalled, hquiescent, fun hcatalogue => ?_⟩
  have honce := hcatalogue.once .fetchDining ("restaurant", unscheduled "3")
    (hdocs ▸ List.mem_singleton_self _)
  rw [hids] at honce
  cases honce

end AroundMuseo
