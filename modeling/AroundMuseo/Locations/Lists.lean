import AroundMuseo.Locations.Catalogue
import AroundMuseo.System.Collections

/-!
# What the lists of the catalogue show

A location that is shown is an object that the lists share. However the operations overlap, each
object shows a stored location with nothing but its details filled in, the lists of the categories
show their own category only, and an object is the same in every list.
-/

namespace AroundMuseo

open Async Firestore LocationController

/-- The category that a list is for. -/
def LocationList.categoryId : LocationList → Option String
  | touristSpots => some "1"
  | accommodations => some "2"
  | dining => some "3"
  | shopping => some "4"
  | allLocations | featuredLocations | favoriteLocations => none

/-- The location is stored, but for its details. -/
def StoredLocation (c : Collection) (l : LocationModel) : Prop :=
  ∃ data m, c.lookup l.id = some data ∧ LocationModel.fromSnapshot l.id data = .ok m ∧
    m.bare = l.bare

/-- The location may be shown in the list. -/
def MayShow (c : Collection) (list : LocationList) (l : LocationModel) : Prop :=
  StoredLocation c l ∧ ∀ id, list.categoryId = some id → l.categoryId = id

/-- The lists show stored locations of their categories, and share the objects. -/
structure ListsRight (c : Collection) (s : LocationControllerState) : Prop where
  shown : ∀ list, ∀ x ∈ s.lists list, MayShow c list x.2
  numbered : ∀ list, ∀ x ∈ s.lists list, x.1 < s.nextLocation
  shared : ∀ list list', ∀ x ∈ s.lists list, ∀ x' ∈ s.lists list', x.1 = x'.1 → x = x'

section Lists

variable {c : Collection} {s : LocationControllerState} {list : LocationList}

/-- The details do not matter. -/
theorem MayShow.of_bare {l l' : LocationModel} (h : MayShow c list l) (heq : l'.bare = l.bare) :
    MayShow c list l' := by
  have hid : l'.id = l.id := by
    have hbare := congrArg LocationModel.id heq
    exact hbare
  have hcategory : l'.categoryId = l.categoryId := by
    have hbare := congrArg LocationModel.categoryId heq
    exact hbare
  obtain ⟨⟨data, m, hdata, hm, hbare⟩, hlist⟩ := h
  refine ⟨⟨data, m, ?_, ?_, hbare.trans heq.symm⟩, ?_⟩
  · rwa [hid]
  · rwa [hid]
  · rwa [hcategory]

/-- Objects that are shown already are shown in another list. -/
theorem ListsRight.assign (h : ListsRight c s) {xs : List (Nat × LocationModel)}
    (hxs : ∀ x ∈ xs, ∃ list', x ∈ s.lists list' ∧
      ∀ id, list.categoryId = some id → x.2.categoryId = id) :
    ListsRight c { s with lists := Function.update s.lists list xs } := by
  have hold (list' : LocationList) (x : Nat × LocationModel)
      (hx : x ∈ Function.update s.lists list xs list') :
      ∃ list'', x ∈ s.lists list'' ∧ ∀ id, list'.categoryId = some id → x.2.categoryId = id := by
    by_cases heq : list' = list
    · subst heq
      rw [Function.update_self] at hx
      exact hxs x hx
    · rw [Function.update_of_ne heq] at hx
      exact ⟨list', hx, (h.shown list' x hx).2⟩
  constructor
  · intro list' x hx
    obtain ⟨list'', hx', hcategory⟩ := hold list' x hx
    exact ⟨(h.shown list'' x hx').1, hcategory⟩
  · intro list' x hx
    obtain ⟨list'', hx', -⟩ := hold list' x hx
    exact h.numbered list'' x hx'
  · intro list₁ list₂ x hx x' hx'
    obtain ⟨_, hx, -⟩ := hold list₁ x hx
    obtain ⟨_, hx', -⟩ := hold list₂ x' hx'
    exact h.shared _ _ x hx x' hx'

/-- The lists stay right when one is added to all locations. -/
theorem ListsRight.addToAll (h : ListsRight c s) (list : LocationList) :
    ListsRight c (s.addToAll list) := by
  apply h.assign
  intro x hx
  rcases List.mem_append.mp hx with hx | hx
  · exact ⟨.allLocations, hx, nofun⟩
  · exact ⟨list, hx, nofun⟩

theorem ListsRight.showCategory (h : ListsRight c s) {id : String}
    (hid : list.categoryId = some id) : ListsRight c (s.showCategory list id) := by
  apply h.assign
  intro x hx
  obtain ⟨hx, hcategory⟩ := List.mem_filter.mp hx
  refine ⟨.allLocations, hx, ?_⟩
  intro id' hid'
  cases hid.symm.trans hid'
  exact of_decide_eq_true hcategory

/-- The favourites are some of all locations. -/
theorem ListsRight.showFavorites (h : ListsRight c s) : ListsRight c s.showFavorites := by
  apply h.assign
  intro x hx
  exact ⟨.allLocations, (List.mem_filter.mp hx).1, nofun⟩

/-- The new objects have numbers of their own. -/
theorem ListsRight.assignNew (h : ListsRight c s) {locations : List LocationModel}
    (hlocations : ∀ l ∈ locations, MayShow c list l) :
    ListsRight c (s.assignNew list locations) := by
  have hnew {x : Nat × LocationModel}
      (hx : x ∈ (locations.zipIdx s.nextLocation).map fun pair => (pair.2, pair.1)) :
      s.nextLocation ≤ x.1 ∧ locations[x.1 - s.nextLocation]? = some x.2 := by
    obtain ⟨⟨l, k⟩, hl, rfl⟩ := List.mem_map.mp hx
    exact List.mk_mem_zipIdx_iff_le_and_getElem?_sub.mp hl
  have hold (list' : LocationList) (x : Nat × LocationModel)
      (hx : x ∈ (s.assignNew list locations).lists list') :
      (x ∈ s.lists list' ∧ x.1 < s.nextLocation) ∨
        list' = list ∧ s.nextLocation ≤ x.1 ∧ locations[x.1 - s.nextLocation]? = some x.2 := by
    rw [LocationControllerState.lists_assignNew] at hx
    by_cases heq : list' = list
    · subst heq
      rw [Function.update_self] at hx
      exact .inr ⟨rfl, hnew hx⟩
    · rw [Function.update_of_ne heq] at hx
      exact .inl ⟨hx, h.numbered list' x hx⟩
  constructor
  · intro list' x hx
    rcases hold list' x hx with ⟨hx, -⟩ | ⟨rfl, -, hl⟩
    · exact h.shown list' x hx
    · exact hlocations _ (List.mem_of_getElem? hl)
  · intro list' x hx
    show x.1 < s.nextLocation + locations.length
    rcases hold list' x hx with ⟨-, hlt⟩ | ⟨rfl, hle, hl⟩
    · omega
    · have := (List.getElem?_eq_some_iff.mp hl).1
      omega
  · intro list₁ list₂ x hx x' hx' hk
    rcases hold list₁ x hx with ⟨hx, hlt⟩ | ⟨-, hle, hl⟩ <;>
      rcases hold list₂ x' hx' with ⟨hx', hlt'⟩ | ⟨-, hle', hl'⟩
    · exact h.shared _ _ x hx x' hx' hk
    · omega
    · omega
    · rw [hk] at hl
      exact Prod.ext hk (Option.some.inj (hl.symm.trans hl'))

/-- The details of an object are filled in, in every list at once. -/
theorem ListsRight.modifyLocation (h : ListsRight c s) (k : Nat) {f : LocationModel → LocationModel}
    (hf : ∀ l, (f l).bare = l.bare) : ListsRight c (s.modifyLocation k f) := by
  have hold (list' : LocationList) (x : Nat × LocationModel)
      (hx : x ∈ (s.modifyLocation k f).lists list') :
      ∃ l, (x.1, l) ∈ s.lists list' ∧ x.2 = if x.1 = k then f l else l := by
    obtain ⟨⟨k', l⟩, hl, rfl⟩ := List.mem_map.mp hx
    exact ⟨l, hl, rfl⟩
  have hbare {x : Nat × LocationModel} {l : LocationModel}
      (hx : x.2 = if x.1 = k then f l else l) : x.2.bare = l.bare := by
    rw [hx]
    split
    · exact hf l
    · rfl
  constructor
  · intro list' x hx
    obtain ⟨l, hl, hx⟩ := hold list' x hx
    exact (h.shown list' _ hl).of_bare (hbare hx)
  · intro list' x hx
    obtain ⟨l, hl, -⟩ := hold list' x hx
    exact h.numbered list' (x.1, l) hl
  · intro list₁ list₂ x hx x' hx' hk
    obtain ⟨l, hl, hx⟩ := hold list₁ x hx
    obtain ⟨l', hl', hx'⟩ := hold list₂ x' hx'
    have hsame : l = l' := (Prod.mk.inj (h.shared _ _ _ hl _ hl' hk)).2
    exact Prod.ext hk (by rw [hx, hx', hk, hsame])

end Lists

section Documents

variable {c : Collection} {docs : List (String × Doc)} {locations : List LocationModel}

theorem mem_docs {x : String × Doc} : x ∈ c.docs ↔ c.lookup x.1 = some x.2 := by
  obtain ⟨i, d⟩ := x
  simp only [Collection.docs, List.mem_map, Prod.mk.injEq]
  constructor
  · rintro ⟨⟨j, e⟩, he, rfl, rfl⟩
    exact AList.mem_lookup_iff.mpr he
  · exact fun h => ⟨⟨i, d⟩, AList.mem_lookup_iff.mp h, rfl, rfl⟩

end Documents

section Operations

variable {c : Collection}

section Fetches

variable (intl : Intl)

end Fetches

end Operations

end AroundMuseo
