import AroundMuseo.Controllers.LocationCategoryController
import AroundMuseo.Platform.Rules
import AroundMuseo.Platform.Scenario

/-!
# The hierarchy of the categories

A stored category does not decode: the decoder demands a field that the encoder leaves
out. So the hierarchy is loaded only where there is nothing to load.
-/

namespace AroundMuseo

open Async Firestore

/-- The documents of the categories. -/
def encodeAll (cs : List LocationCategoryModel) : List (String × Doc) :=
  cs.map fun c => (c.id, c.toJson)

/-- The first category already stops the decoding. -/
theorem decodeAll_encodeAll (cs : List LocationCategoryModel) :
    LocationCategoryRepository.decodeAll (encodeAll cs) =
      if cs = [] then .ok [] else .error Exn.typeError := by
  unfold LocationCategoryRepository.decodeAll encodeAll
  cases cs with
  | nil => rfl
  | cons c cs =>
    have hcons : c :: cs ≠ [] := List.cons_ne_nil c cs
    simp [LocationCategoryModel.fromSnapshot_toJson, hcons, bind, Except.bind]

/-- The categories are shown with those of them that have no parent, and no error is. -/
structure CategoriesLoaded (cs : List LocationCategoryModel) (tr : List Event) (w' : World) :
    Prop where
  silent : ∀ ev ∈ tr, ∀ kind title message, ev.call ≠ .snackBar kind title message
  all : w'.locationCategoryController.allLocationCategories = cs
  featured : w'.locationCategoryController.featuredCategories = cs.filter fun c => c.parentId = ""

section Fetch

variable {w : World} {cs : List LocationCategoryModel}

/-- The categories are read if there are none and the read does not throw. -/
theorem getAllCategories_spec (hstored : (w.db .locationCategories).docs = encodeAll cs) :
    LocationCategoryRepository.getAllCategories.wp platform (fun r tr w' =>
      w' = w ∧ (∀ ev ∈ tr, ∀ kind title message, ev.call ≠ .snackBar kind title message) ∧
        (r = .ok [] ∧ cs = [] ∧ AllAnswered tr ∨
          (∃ e, r = .error e) ∧ ¬ (cs = [] ∧ AllAnswered tr))) w := by
  unfold LocationCategoryRepository.getAllCategories
  rw [Prog.wp_handle, Prog.wp_invoke_bind]
  constructor
  · intro _ e
    simp [allAnswered_cons]
  · intro docs w' hw'
    obtain ⟨hdocs, hw⟩ := Option.ite_none_right_eq_some.mp hw'
    cases hw
    rw [hdocs, hstored, decodeAll_encodeAll]
    by_cases hcs : cs = []
    · simp [hcs, liftExcept, allAnswered_cons, allAnswered_nil]
    · simp [hcs, liftExcept, allAnswered_cons]

/-- After an exception the user is told, else the lists are as the store is. -/
theorem fetchLocationCategory_spec (hstored : (w.db .locationCategories).docs = encodeAll cs) :
    LocationCategoryController.fetchLocationCategory.wp platform
      (fun _ tr w' => CategoriesLoaded cs tr w' ↔ cs = [] ∧ AllAnswered tr) w := by
  have hstored' : (({ w with locationCategoryController :=
      { w.locationCategoryController with isLoading := true } } : World).db
        .locationCategories).docs =
        encodeAll cs := hstored
  unfold LocationCategoryController.fetchLocationCategory LocationCategoryController.modifyState
  rw [Prog.wp_ensure, Prog.wp_handle, Prog.wp_modify_bind, Prog.wp_bind]
  refine Prog.wp_mono (getAllCategories_spec hstored') ?_
  rintro r tr w' ⟨rfl, hsilent, ⟨rfl, hcs, hok⟩ | ⟨⟨e, rfl⟩, hfailed⟩⟩
  · simp only [Prog.wp_modify_bind, Prog.wp_modify, List.append_nil]
    refine iff_of_true ⟨hsilent, hcs.symm, ?_⟩ ⟨hcs, hok⟩
    simp [hcs]
  · dsimp only
    rw [(Sync.snackBar .error "Oh Snap!" e.toText).wp]
    have hanswered (w₁ : World) : AllAnswered (tr ++
        [(⟨w₁, .snackBar .error "Oh Snap!" e.toText, .ok ()⟩ : Event)]) ↔ AllAnswered tr := by
      simp [allAnswered_append, allAnswered_cons, allAnswered_nil]
    simp only [Prog.wp_modify, List.append_nil]
    refine iff_of_false (fun hloaded => ?_) ?_
    · exact hloaded.silent _ (List.mem_append_right _ (List.mem_singleton_self _)) _ _ _ rfl
    · rw [hanswered]
      exact hfailed

end Fetch

/-- The categories and their hierarchy are loaded exactly if none is stored and the read does
not throw. -/
theorem categoriesLoaded_iff {w w' : World} {cs : List LocationCategoryModel} {tr : List Event}
    {r : Except Exn Unit} (hstored : (w.db .locationCategories).docs = encodeAll cs)
    (hrun : LocationCategoryController.fetchLocationCategory.Run platform w tr r w') :
    CategoriesLoaded cs tr w' ↔ cs = [] ∧ AllAnswered tr :=
  Prog.wp_iff_run.mp (fetchLocationCategory_spec hstored) tr r w' hrun

/-- A state in which the categories are stored, one after the other. -/
def World.withCategories (cs : List LocationCategoryModel) : World :=
  (World.withUsers []).setDb .locationCategories
    ((cs.map fun c => (⟨c.id, c.toJson⟩ : Sigma fun _ : String => Doc)).toAList)

/-- Nothing is stored, so nothing is all there is to load. -/
theorem categoriesLoaded_nothing : ∃ (tr : List Event) (r : Except Exn Unit) (w' : World),
    LocationCategoryController.fetchLocationCategory.Run platform
      (World.withCategories []) tr r w' ∧
      AllAnswered tr ∧ CategoriesLoaded [] tr w' := by
  obtain ⟨tr, r, w', hrun, hq⟩ := scenario_run LocationCategoryController.fetchLocationCategory
    (World.withCategories []) (fun _ _ => none) (fun out => decide (AllAnswered out.1))
    (by decide +kernel)
  have hstored : ((World.withCategories []).db .locationCategories).docs = encodeAll [] := by
    rw [World.withCategories, World.setDb_db_self]
    rfl
  have hok := of_decide_eq_true hq
  exact ⟨tr, r, w', hrun, hok, (categoriesLoaded_iff hstored hrun).mpr ⟨rfl, hok⟩⟩

/-- The beaches are stored, and an error is shown instead of them. -/
theorem not_categoriesLoaded_beaches : ∃ (tr : List Event) (r : Except Exn Unit) (w' : World),
    ((World.withCategories [⟨"1", "Beaches", ""⟩]).db .locationCategories).docs =
        encodeAll [⟨"1", "Beaches", ""⟩] ∧
      LocationCategoryController.fetchLocationCategory.Run platform
        (World.withCategories [⟨"1", "Beaches", ""⟩]) tr r w' ∧
      AllAnswered tr ∧ ¬ CategoriesLoaded [⟨"1", "Beaches", ""⟩] tr w' := by
  obtain ⟨tr, r, w', hrun, hq⟩ := scenario_run LocationCategoryController.fetchLocationCategory
    (World.withCategories [⟨"1", "Beaches", ""⟩]) (fun _ _ => none)
    (fun out => decide (AllAnswered out.1) &&
      decide (out.2.2.locationCategoryController.allLocationCategories = []))
    (by decide +kernel)
  rw [Bool.and_eq_true, decide_eq_true_eq, decide_eq_true_eq] at hq
  obtain ⟨hok, hall⟩ := hq
  refine ⟨tr, r, w', ?_, hrun, hok, fun h => ?_⟩
  · rw [World.withCategories, World.setDb_db_self]
    rfl
  · have hloaded := h.all
    rw [hall] at hloaded
    cases hloaded

end AroundMuseo
