import AroundMuseo.Controllers.LocationController
import AroundMuseo.Core.RelyGuarantee

/-!
# The fetches of the catalogue

Four operations fill the lists of the categories and append to the list of all
locations, and any number of them may be under way at once. Of a location only its
identity, its schedule and its categories matter: the details are filled in while others
look on.
-/

namespace AroundMuseo

open Async Firestore LocationController

/-- The operations that load one category each. -/
inductive LocationFetch where
  | fetchTouristSpots | fetchAccommodations | fetchDining | fetchShopping
  deriving DecidableEq, Repr

namespace LocationFetch

theorem forall_iff {p : LocationFetch → Prop} : (∀ op, p op) ↔
    p fetchTouristSpots ∧ p fetchAccommodations ∧ p fetchDining ∧ p fetchShopping := by
  constructor
  · intro h
    exact ⟨h _, h _, h _, h _⟩
  · rintro ⟨h₁, h₂, h₃, h₄⟩ op
    cases op <;> assumption

instance {p : LocationFetch → Prop} [DecidablePred p] : Decidable (∀ op, p op) :=
  decidable_of_iff _ forall_iff.symm

def body (intl : Intl) : LocationFetch → App Unit
  | fetchTouristSpots => LocationController.fetchTouristSpots intl
  | fetchAccommodations => LocationController.fetchAccommodations intl
  | fetchDining => LocationController.fetchDining intl
  | fetchShopping => LocationController.fetchShopping intl

/-- The list that the operation fills. -/
def list : LocationFetch → LocationList
  | fetchTouristSpots => .touristSpots
  | fetchAccommodations => .accommodations
  | fetchDining => .dining
  | fetchShopping => .shopping

def categoryId : LocationFetch → String
  | fetchTouristSpots => "1"
  | fetchAccommodations => "2"
  | fetchDining => "3"
  | fetchShopping => "4"

theorem body_eq (intl : Intl) (op : LocationFetch) : op.body intl =
    fetchCategory intl op.list op.categoryId
      (if op = fetchDining then pure () else modifyState (·.addToAll op.list)) := by
  cases op <;> rfl

theorem list_ne_allLocations (op : LocationFetch) : op.list ≠ .allLocations := by
  cases op <;> decide

theorem list_injective : Function.Injective list := by
  intro op op' h
  cases op <;> cases op' <;> first | rfl | cases h

theorem categoryId_injective : Function.Injective categoryId := by
  intro op op' h
  cases op <;> cases op' <;> first | rfl | exact absurd h (by decide)

end LocationFetch

/-- What identifies a location, its schedule and its categories. -/
structure LocationKey where
  id : String
  operatingHours : Schedule
  categoryId : String
  subCategoryId : String

/-- The names of its categories can be asked for. -/
def LocationKey.Named (key : LocationKey) : Prop :=
  IsDocumentPath key.categoryId ∧ IsDocumentPath key.subCategoryId

instance (key : LocationKey) : Decidable key.Named := inferInstanceAs (Decidable (_ ∧ _))

def LocationModel.key (l : LocationModel) : LocationKey where
  id := l.id
  operatingHours := l.operatingHours
  categoryId := l.categoryId
  subCategoryId := l.subCategoryId

/-- The keys of a list of the controller. -/
def LocationControllerState.keys (s : LocationControllerState) (list : LocationList) :
    List LocationKey :=
  (s.lists list).map fun location => location.2.key

/-- The stored locations of a category. -/
def categoryDocs (db : CollectionName → Collection) (op : LocationFetch) : List (String × Doc) :=
  (db .locations).whereEq "CategoryId" (Scalar.string op.categoryId)

/-- The keys of the stored locations of a category. -/
def catalogue (db : CollectionName → Collection) (op : LocationFetch) : List LocationKey :=
  match LocationRepository.decodeAll (categoryDocs db op) with
  | .ok locations => locations.map LocationModel.key
  | .error _ => []

/-- The categories of all stored locations of a category have names to ask for. -/
def AllNamed (db : CollectionName → Collection) (op : LocationFetch) : Prop :=
  ∀ key ∈ catalogue db op, key.Named

instance (db : CollectionName → Collection) (op : LocationFetch) : Decidable (AllNamed db op) :=
  inferInstanceAs (Decidable (∀ key ∈ catalogue db op, key.Named))

/-- What an operation adds to the list of all locations: nothing unless it gets to its end. -/
def contribution (db : CollectionName → Collection) (op : LocationFetch) : List LocationKey :=
  if op ≠ .fetchDining ∧ AllNamed db op then catalogue db op else []

/-- The documents can be read: they decode, and the schedules are well formed. -/
structure Legible (intl : Intl) (db : CollectionName → Collection) : Prop where
  locations : ∀ op, ∃ locations, LocationRepository.decodeAll (categoryDocs db op) = .ok locations ∧
    ∀ l ∈ locations, WellFormed intl l.operatingHours
  categories : ∀ id data, (db .locationCategories).lookup id = some data →
    ∃ name, stringField data "Name" "" = .ok name

theorem Legible.catalogue_eq {intl : Intl} {db : CollectionName → Collection} (h : Legible intl db)
    (op : LocationFetch) : ∃ locations,
      LocationRepository.decodeAll (categoryDocs db op) = .ok locations ∧
        catalogue db op = locations.map LocationModel.key := by
  obtain ⟨locations, hlocations, -⟩ := h.locations op
  refine ⟨locations, hlocations, ?_⟩
  rw [catalogue, hlocations]

theorem Legible.wellFormed {intl : Intl} {db : CollectionName → Collection} (h : Legible intl db)
    {op : LocationFetch} {key : LocationKey} (hkey : key ∈ catalogue db op) :
    WellFormed intl key.operatingHours := by
  obtain ⟨locations, hlocations, hhours⟩ := h.locations op
  rw [catalogue, hlocations] at hkey
  obtain ⟨l, hl, rfl⟩ := List.mem_map.mp hkey
  exact hhours l hl

namespace LocationControllerState

variable (s : LocationControllerState)

section Shows

variable {κ : Type} (f : LocationModel → κ)

/-- What a list shows of each location. -/
def shows (list : LocationList) : List κ := (s.lists list).map fun location => f location.2

/-- An assigned list shows what was decoded. -/
theorem shows_assignNew (list : LocationList) (locations : List LocationModel) :
    (s.assignNew list locations).shows f = Function.update (s.shows f) list (locations.map f) := by
  funext list'
  by_cases h : list' = list
  · subst h
    have hfst : ((fun location : Nat × LocationModel => f location.2) ∘
        fun x : LocationModel × Nat => (x.2, x.1)) = f ∘ Prod.fst := rfl
    rw [shows, lists_assignNew, Function.update_self, Function.update_self, List.map_map, hfst,
      ← List.map_map, List.zipIdx_map_fst]
  · rw [shows, lists_assignNew, Function.update_of_ne h, Function.update_of_ne h, shows]

/-- All locations show the list in addition. -/
theorem shows_addToAll (list : LocationList) : (s.addToAll list).shows f =
    Function.update (s.shows f) .allLocations (s.shows f .allLocations ++ s.shows f list) := by
  funext list'
  by_cases h : list' = .allLocations
  · subst h
    rw [shows, lists_addToAll, Function.update_self, Function.update_self, List.map_append, shows,
      shows]
  · rw [shows, lists_addToAll, Function.update_of_ne h, Function.update_of_ne h, shows]

/-- An assignment that `f` does not see is not shown. -/
theorem shows_modifyLocation (k : Nat) {g : LocationModel → LocationModel}
    (hg : ∀ l, f (g l) = f l) : (s.modifyLocation k g).shows f = s.shows f := by
  funext list
  rw [shows, modifyLocation, shows, List.map_map]
  refine List.map_congr_left fun location _ => ?_
  obtain ⟨k', l⟩ := location
  show f (if k' = k then g l else l) = f l
  split
  · exact hg l
  · rfl

end Shows

theorem keys_assignNew (list : LocationList) (locations : List LocationModel) :
    (s.assignNew list locations).keys =
      Function.update s.keys list (locations.map LocationModel.key) :=
  s.shows_assignNew LocationModel.key list locations

theorem keys_addToAll (list : LocationList) : (s.addToAll list).keys =
    Function.update s.keys .allLocations (s.keys .allLocations ++ s.keys list) :=
  s.shows_addToAll LocationModel.key list

/-- The details of a location are not part of its key. -/
theorem keys_modifyLocation (k : Nat) {f : LocationModel → LocationModel}
    (hf : ∀ l, (f l).key = l.key) : (s.modifyLocation k f).keys = s.keys :=
  s.shows_modifyLocation LocationModel.key k hf

end LocationControllerState

/-- A document path is taken as it is, and any other path throws. -/
theorem guarded_doc_bind {α : Type} {P : Platform Reply World} {rely guar : World → World → Prop}
    {w₀ w : World} {path : String} {f : String → App α} {Q : Except Exn α → World → World → Prop}
    (hok : IsDocumentPath path → (f (documentId path)).Guarded P rely guar Q w₀ w)
    (herr : ¬ IsDocumentPath path → Q (.error Exn.invalidPath) w₀ w) :
    (doc path >>= f).Guarded P rely guar Q w₀ w := by
  rw [doc]
  split
  case isTrue hpath => exact hok hpath
  case isFalse hpath => exact herr hpath

namespace LocationFetch

/-- What the others may do while an operation awaits: nothing to the store, and to the
list of a category nothing but to load it. -/
def Rely (w w' : World) : Prop :=
  w'.db = w.db ∧ ∀ op : LocationFetch,
    w'.locationController.keys op.list = w.locationController.keys op.list ∨
      w'.locationController.keys op.list = catalogue w.db op

/-- Until its last segment an operation adds nothing to the list of all locations. -/
def Guar (w w' : World) : Prop :=
  Rely w w' ∧ w'.locationController.keys .allLocations = w.locationController.keys .allLocations

/-- With its last segment it has loaded its list and adds its contribution. -/
def Last (op : LocationFetch) (w w' : World) : Prop :=
  Rely w w' ∧ w'.locationController.keys op.list = catalogue w.db op ∧
    w'.locationController.keys .allLocations =
      w.locationController.keys .allLocations ++ contribution w.db op

theorem Rely.refl (w : World) : Rely w w := ⟨rfl, fun _ => .inl rfl⟩

/-- What the other fetches do adds up. -/
theorem Rely.trans {w₁ w₂ w₃ : World} (h : Rely w₁ w₂) (h' : Rely w₂ w₃) : Rely w₁ w₃ := by
  refine ⟨h'.1.trans h.1, fun op => ?_⟩
  rcases h'.2 op with hkeys | hloaded
  · rw [hkeys]
    exact h.2 op
  · rw [hloaded, h.1]
    exact .inr rfl

/-- A loaded list stays loaded. -/
theorem Rely.loaded {w w' : World} (h : Rely w w') {op : LocationFetch}
    (hw : w.locationController.keys op.list = catalogue w.db op) :
    w'.locationController.keys op.list = catalogue w'.db op := by
  rw [h.1]
  rcases h.2 op with hkeys | hloaded
  · rw [hkeys, hw]
  · exact hloaded

theorem Guar.refl (w : World) : Guar w w := ⟨.refl w, rfl⟩

/-- What a fetch does adds up. -/
theorem Guar.trans {w₁ w₂ w₃ : World} (h : Guar w₁ w₂) (h' : Guar w₂ w₃) : Guar w₁ w₃ :=
  ⟨h.1.trans h'.1, h'.2.trans h.2⟩

/-- A step that shows nothing. -/
theorem Guar.of_keys {w w' : World} (hdb : w'.db = w.db)
    (hkeys : w'.locationController.keys = w.locationController.keys) : Guar w w' := by
  refine ⟨⟨hdb, fun op => .inl ?_⟩, ?_⟩ <;> rw [hkeys]

section Guarded

variable {intl : Intl} {op : LocationFetch} {w₀ w : World}

/-- A name is read, whatever the others do, if the documents of the categories decode and
there is one to ask for. -/
theorem guarded_getCategoryNameById (hlegible : Legible intl w.db) (hg : Guar w₀ w) (id : String)
    {Q : Except Exn String → World → World → Prop}
    (h : IsDocumentPath id → ∀ name w₁, Rely w w₁ → Q (.ok name) w₁ w₁)
    (herr : ¬ IsDocumentPath id → ∀ e, Q (.error e) w₀ w) :
    (LocationRepository.getCategoryNameById id).Guarded platform Rely Guar Q w₀ w := by
  refine Prog.guarded_handle (guarded_doc_bind (fun hid => Prog.guarded_bind ?_)
    fun hid => herr hid _)
  refine Prog.guarded_invoke rfl hg fun w₁ hw₁ v w₂ hv => ?_
  obtain ⟨⟨-, rfl⟩, hw⟩ := Option.ite_none_right_eq_some.mp hv
  cases hw
  refine ⟨.refl w₁, fun w₃ hw₃ => ?_⟩
  have h := h hid
  cases hdoc : (w₁.db .locationCategories).lookup (documentId id) with
  | none => exact h "" w₃ (hw₁.trans hw₃)
  | some data =>
    obtain ⟨name, hname⟩ := hlegible.categories _ data (hw₁.1 ▸ hdoc)
    dsimp only
    rw [hname]
    exact h name w₃ (hw₁.trans hw₃)

theorem guarded_now_bind {α : Type} {f : DateTime → App α} {Q : Except Exn α → World → World → Prop}
    (h : ∀ t, (f t).Guarded platform Rely Guar Q w₀ w) :
    (await .now >>= f).Guarded platform Rely Guar Q w₀ w := by
  refine Prog.guarded_bind (Prog.guarded_invoke_sync rfl fun t w' hw => ?_)
  cases hw
  exact h t

theorem guarded_liftExcept {α : Type} {x : Except Exn α} {a : α} (hx : x = .ok a)
    {Q : Except Exn α → World → World → Prop} (h : Q (.ok a) w₀ w) :
    (liftExcept x).Guarded platform Rely Guar Q w₀ w := by
  rw [hx]
  exact h

/-- Filling in a detail shows nothing. -/
theorem guarded_modifyLocation {k : Nat} {g : LocationModel → LocationModel}
    {Q : Except Exn Unit → World → World → Prop} (hg : ∀ l, (g l).key = l.key)
    (h : ∀ w', Guar w w' → Q (.ok ()) w₀ w') :
    (LocationController.modifyLocation k g).Guarded platform Rely Guar Q w₀ w :=
  h _ (.of_keys rfl (w.locationController.keys_modifyLocation k hg))

/-- The names need two document paths. -/
theorem guarded_setLocationCategory (hlegible : Legible intl w.db) (hg : Guar w₀ w)
    (location : Nat × LocationModel) {Q : Except Exn Unit → World → World → Prop}
    (h : location.2.key.Named → ∀ w₁ w₂, Rely w w₂ → Guar w₁ w₂ → Q (.ok ()) w₁ w₂)
    (herr : ¬ location.2.key.Named → ∀ e w₁ w₂, Rely w w₂ → Guar w₁ w₂ → Q (.error e) w₁ w₂) :
    (setLocationCategory location).Guarded platform Rely Guar Q w₀ w := by
  refine Prog.guarded_bind (guarded_getCategoryNameById hlegible hg _
    (fun hcategory name w₁ hw₁ => ?_) fun hcategory e => ?_)
  · have hlegible₁ : Legible intl w₁.db := hw₁.1 ▸ hlegible
    refine Prog.guarded_bind (guarded_getCategoryNameById hlegible₁ (.refl w₁) _
      (fun hsubCategory subName w₂ hw₂ => ?_) fun hsubCategory e => ?_)
    · refine Prog.guarded_bind (guarded_modifyLocation (fun _ => by rfl) fun w₃ hw₃ => ?_)
      refine guarded_modifyLocation (fun _ => by rfl) fun w₄ hw₄ => ?_
      have hg₄ : Guar w₂ w₄ := hw₃.trans hw₄
      exact h ⟨hcategory, hsubCategory⟩ w₂ w₄ ((hw₁.trans hw₂).trans hg₄.1) hg₄
    · exact herr (fun hnamed => hsubCategory hnamed.2) e w₁ w₁ hw₁ (.refl w₁)
  · exact herr (fun hnamed => hcategory hnamed.1) e w₀ w (.refl w) hg

/-- The details of a location with a well-formed schedule are filled in, if its categories
have names. -/
theorem guarded_setLocationDetails (hlegible : Legible intl w.db) (hg : Guar w₀ w)
    {location : Nat × LocationModel} (hhours : WellFormed intl location.2.operatingHours)
    {Q : Except Exn Unit → World → World → Prop}
    (h : location.2.key.Named → ∀ w₁ w₂, Rely w w₂ → Guar w₁ w₂ → Q (.ok ()) w₁ w₂)
    (herr : ¬ location.2.key.Named → ∀ e w₁ w₂, Rely w w₂ → Guar w₁ w₂ → Q (.error e) w₁ w₂) :
    (setLocationDetails intl location).Guarded platform Rely Guar Q w₀ w := by
  refine Prog.guarded_bind (guarded_setLocationCategory hlegible hg location
    (fun hnamed w₁ w₂ hw₁ hw₂ => ?_) herr)
  refine guarded_now_bind fun t₁ => ?_
  obtain ⟨isOpen, hisOpen⟩ := checkIfLocationIsOpen_isOk t₁ hhours
  refine Prog.guarded_bind (guarded_liftExcept hisOpen ?_)
  refine Prog.guarded_bind (guarded_modifyLocation (fun _ => by rfl) fun w₃ hw₃ => ?_)
  refine guarded_now_bind fun t₂ => ?_
  obtain ⟨openTimes, hopenTimes⟩ := whenToOpen_isOk t₂ hhours
  refine Prog.guarded_bind (guarded_liftExcept hopenTimes ?_)
  refine Prog.guarded_bind (guarded_modifyLocation (fun _ => by rfl) fun w₄ hw₄ => ?_)
  refine guarded_now_bind fun t₃ => ?_
  obtain ⟨closeTimes, hcloseTimes⟩ := whenToClose_isOk t₃ hhours
  refine Prog.guarded_bind (guarded_liftExcept hcloseTimes ?_)
  refine guarded_modifyLocation (fun _ => by rfl) fun w₅ hw₅ => ?_
  have hg₅ : Guar w₂ w₅ := hw₃.trans (hw₄.trans hw₅)
  exact h hnamed w₁ w₅ (hw₁.trans hg₅.1) (hw₂.trans hg₅)

/-- A loaded list is as long as the catalogue. -/
theorem length_lists (w : World) (op : LocationFetch)
    (hloaded : w.locationController.keys op.list = catalogue w.db op) :
    (w.locationController.lists op.list).length = (catalogue w.db op).length := by
  rw [← hloaded, LocationControllerState.keys, List.length_map]

/-- The loop over a loaded list runs to its end, or to a location whose categories have no
names: the list may be loaded again meanwhile, but then it shows the same locations, and the
schedules are still well formed. -/
theorem guarded_forEachFrom (hlegible : Legible intl w.db) (hg : Guar w₀ w)
    (hloaded : w.locationController.keys op.list = catalogue w.db op) {remaining : Nat}
    (hremaining : remaining ≤ (catalogue w.db op).length)
    {Q : Except Exn Unit → World → World → Prop}
    (h : (∀ key ∈ (catalogue w.db op).drop ((catalogue w.db op).length - remaining), key.Named) →
      ∀ w₁ w₂, Rely w w₂ → Guar w₁ w₂ → Q (.ok ()) w₁ w₂)
    (herr : (∃ key ∈ (catalogue w.db op).drop ((catalogue w.db op).length - remaining),
      ¬ key.Named) → ∀ e w₁ w₂, Rely w w₂ → Guar w₁ w₂ → Q (.error e) w₁ w₂) :
    (forEachFrom op.list (setLocationDetails intl) (catalogue w.db op).length remaining).Guarded
      platform Rely Guar Q w₀ w := by
  induction remaining generalizing w₀ w with
  | zero =>
    refine Prog.guarded_read_bind.mpr ?_
    rw [if_neg (not_not.mpr (length_lists w op hloaded))]
    rw [Nat.sub_zero, List.drop_length] at h
    exact h (List.forall_mem_nil _) w₀ w (.refl w) hg
  | succ remaining ih =>
    have hnow := length_lists w op hloaded
    have hindex : (catalogue w.db op).length - (remaining + 1) <
        (w.locationController.lists op.list).length := by
      omega
    obtain ⟨location, hlocation⟩ : ∃ location, (w.locationController.lists op.list)[
        (catalogue w.db op).length - (remaining + 1)]? = some location :=
      ⟨_, List.getElem?_eq_getElem hindex⟩
    have hkey : (catalogue w.db op)[(catalogue w.db op).length - (remaining + 1)]? =
        some location.2.key := by
      have hat :
          (w.locationController.keys op.list)[(catalogue w.db op).length - (remaining + 1)]? =
          (catalogue w.db op)[(catalogue w.db op).length - (remaining + 1)]? := by
        rw [hloaded]
      rw [← hat, LocationControllerState.keys, List.getElem?_map, hlocation]
      rfl
    have hmem : location.2.key ∈ catalogue w.db op := List.mem_of_getElem? hkey
    -- What is left is the location and what comes after it.
    have hdrop : (catalogue w.db op).drop ((catalogue w.db op).length - (remaining + 1)) =
        location.2.key :: (catalogue w.db op).drop ((catalogue w.db op).length - remaining) := by
      obtain ⟨hlt, hget⟩ := List.getElem?_eq_some_iff.mp hkey
      have hnext : (catalogue w.db op).length - (remaining + 1) + 1 =
          (catalogue w.db op).length - remaining := by
        omega
      rw [List.drop_eq_getElem_cons hlt, hget, hnext]
    rw [hdrop] at h herr
    refine Prog.guarded_read_bind.mpr ?_
    rw [if_neg (not_not.mpr hnow), hlocation]
    refine Prog.guarded_bind (guarded_setLocationDetails hlegible hg (hlegible.wellFormed hmem)
      (fun hnamed w₁ w₂ hrely hw₂ => ?_) fun hnamed e w₁ w₂ hrely hw₂ => ?_)
    · rw [← hrely.1]
      refine ih (hrely.1 ▸ hlegible) hw₂ (hrely.loaded hloaded) (by rw [hrely.1]; omega) ?_ ?_
      · intro hrest w₃ w₄ hw₃ hw₄
        rw [hrely.1] at hrest
        exact h (List.forall_mem_cons.mpr ⟨hnamed, hrest⟩) w₃ w₄ (hrely.trans hw₃) hw₄
      · rintro ⟨key, hkey, hunnamed⟩ e w₃ w₄ hw₃ hw₄
        rw [hrely.1] at hkey
        exact herr ⟨key, List.mem_cons_of_mem _ hkey, hunnamed⟩ e w₃ w₄ (hrely.trans hw₃) hw₄
    · exact herr ⟨_, List.mem_cons_self, hnamed⟩ e w₁ w₂ hrely hw₂

variable (op) in
/-- The documents of a category are read and decoded. -/
theorem guarded_getLocationsByCategory (hlegible : Legible intl w.db) (hg : Guar w₀ w)
    {Q : Except Exn (List LocationModel) → World → World → Prop}
    (h : ∀ locations w₁, Rely w w₁ → locations.map LocationModel.key = catalogue w₁.db op →
      Q (.ok locations) w₁ w₁) :
    (LocationRepository.getLocationsByCategory op.categoryId).Guarded platform
      Rely Guar Q w₀ w := by
  refine Prog.guarded_handle (Prog.guarded_bind ?_)
  refine Prog.guarded_invoke rfl hg fun w₁ hw₁ v w₂ hv => ?_
  obtain ⟨rfl, hw⟩ := Option.ite_none_right_eq_some.mp hv
  cases hw
  refine ⟨.refl w₁, fun w₃ hw₃ => ?_⟩
  have hlegible₁ : Legible intl w₁.db := hw₁.1 ▸ hlegible
  obtain ⟨locations, hlocations, hkeys⟩ := hlegible₁.catalogue_eq op
  refine guarded_liftExcept hlocations ?_
  refine h locations w₃ (hw₁.trans hw₃) ?_
  rw [hw₃.1, hkeys]

/-- A category is loaded. -/
theorem guarded_assignNew {locations : List LocationModel}
    (hkeys : locations.map LocationModel.key = catalogue w.db op)
    {Q : Except Exn Unit → World → World → Prop}
    (h : ∀ w', Guar w w' → w'.locationController.keys op.list = catalogue w'.db op →
      Q (.ok ()) w₀ w') :
    (modifyState (·.assignNew op.list locations)).Guarded platform Rely Guar Q w₀ w := by
  have hupdate := w.locationController.keys_assignNew op.list locations
  refine h _ ⟨⟨rfl, fun op' => ?_⟩, ?_⟩ ?_
  · by_cases hop : op' = op
    · subst hop
      refine .inr ((congrFun hupdate op'.list).trans ?_)
      rw [Function.update_self, hkeys]
    · refine .inl ((congrFun hupdate op'.list).trans ?_)
      rw [Function.update_of_ne fun h => hop (list_injective h)]
  · refine (congrFun hupdate .allLocations).trans ?_
    rw [Function.update_of_ne op.list_ne_allLocations.symm]
  · refine (congrFun hupdate op.list).trans ?_
    rw [Function.update_self]
    exact hkeys

/-- The last step of a fetch makes its contribution. -/
theorem guarded_last (hloaded : w.locationController.keys op.list = catalogue w.db op)
    (hnamed : AllNamed w.db op) (hg : Guar w₀ w) {Q : Except Exn Unit → World → World → Prop}
    (h : ∀ w', Last op w₀ w' → Q (.ok ()) w₀ w') :
    (if op = .fetchDining then pure () else modifyState (·.addToAll op.list) : App Unit).Guarded
      platform Rely Guar Q w₀ w := by
  rw [hg.1.1] at hnamed
  have hloaded₀ : w.locationController.keys op.list = catalogue w₀.db op := by
    rw [hloaded, hg.1.1]
  by_cases hop : op = .fetchDining
  · rw [if_pos hop]
    refine h w ⟨hg.1, hloaded₀, ?_⟩
    rw [contribution, if_neg fun hadds => hadds.1 hop, List.append_nil]
    exact hg.2
  · rw [if_neg hop]
    have hupdate := w.locationController.keys_addToAll op.list
    have hlist (op' : LocationFetch) : (w.locationController.addToAll op.list).keys op'.list =
        w.locationController.keys op'.list := by
      rw [hupdate, Function.update_of_ne op'.list_ne_allLocations]
    refine h _ ⟨hg.1.trans ⟨rfl, fun op' => .inl (hlist op')⟩, (hlist op).trans hloaded₀, ?_⟩
    refine (congrFun hupdate .allLocations).trans ?_
    rw [Function.update_self, hg.2, hloaded₀, contribution, if_pos ⟨hop, hnamed⟩]

/-- A fetch that a category without a name ends adds nothing. -/
theorem last_of_unnamed (hloaded : w.locationController.keys op.list = catalogue w.db op)
    (hnamed : ¬ AllNamed w.db op) (hg : Guar w₀ w) : Last op w₀ w := by
  rw [hg.1.1] at hnamed
  refine ⟨hg.1, by rw [hloaded, hg.1.1], ?_⟩
  rw [contribution, if_neg fun hadds => hnamed hadds.2, List.append_nil]
  exact hg.2

/-- A fetch loads its list and, with its last segment, adds what it contributes. -/
theorem guarded_body (hlegible : Legible intl w.db) (op : LocationFetch) :
    (op.body intl).Guarded platform Rely Guar (fun _ => Last op) w w := by
  rw [op.body_eq, fetchCategory]
  refine Prog.guarded_ensure (Prog.guarded_handle (Prog.guarded_modify_bind.mpr ?_))
  refine Prog.guarded_bind (guarded_getLocationsByCategory op hlegible
    (.of_keys rfl rfl) fun locations w₁ hw₁ hkeys => ?_)
  have hlegible₁ : Legible intl w₁.db := hw₁.1 ▸ hlegible
  refine Prog.guarded_bind (guarded_assignNew hkeys fun w₂ hw₂ hloaded => ?_)
  have hlegible₂ : Legible intl w₂.db := hw₂.1.1 ▸ hlegible₁
  refine Prog.guarded_bind (Prog.guarded_read_bind.mpr ?_)
  rw [length_lists w₂ op hloaded]
  refine guarded_forEachFrom hlegible₂ hw₂ hloaded le_rfl ?_ ?_
  · intro hnamed w₃ w₄ hw₃ hw₄
    rw [Nat.sub_self, List.drop_zero] at hnamed
    exact guarded_last (hw₃.loaded hloaded) (hw₃.1 ▸ hnamed) hw₄ fun w₅ hlast => hlast
  · rintro ⟨key, hkey, hunnamed⟩ e w₃ w₄ hw₃ hw₄
    rw [Nat.sub_self, List.drop_zero] at hkey
    refine Prog.guarded_invoke_sync rfl fun _ w₅ hw₅ => ?_
    cases hw₅
    refine last_of_unnamed (hw₃.loaded hloaded) (fun hnamed => hunnamed ?_) hw₄
    exact hnamed key (hw₃.1 ▸ hkey)

end Guarded

end LocationFetch

end AroundMuseo
