import AroundMuseo.Locations.Calendar
import AroundMuseo.System.Collections

/-!
# What the lists of the categories show

However the operations overlap, the two lists of the categories show what they did at the start, or
both show exactly the stored categories: the decoder never reads the parent of a category, so that
every one of them passes for a category without a parent. One that cannot be decoded keeps all of
them from being shown.
-/

namespace AroundMuseo

open Async Firestore LocationCategoryController

/-- The lists of the categories are those of the start, or show the collection. -/
def CategoriesRight (c : Collection) (s₀ s : LocationCategoryControllerState) : Prop :=
  (s.allLocationCategories = s₀.allLocationCategories ∧
    s.featuredCategories = s₀.featuredCategories) ∨
  LocationCategoryRepository.decodeAll c.docs = .ok s.allLocationCategories ∧
    s.featuredCategories = s.allLocationCategories

/-- A decoded category has no parent. -/
theorem parentId_of_fromSnapshot {data : Doc} {category : LocationCategoryModel}
    (h : LocationCategoryModel.fromSnapshot data = .ok category) : category.parentId = "" := by
  simp only [LocationCategoryModel.fromSnapshot, bind_eq_ok] at h
  obtain ⟨_, -, _, -, hcategory⟩ := h
  cases hcategory
  rfl

/-- Decoding gives no category a parent. -/
theorem parentId_of_decodeAll {docs : List (String × Doc)}
    {categories : List LocationCategoryModel}
    (h : LocationCategoryRepository.decodeAll docs = .ok categories) :
    ∀ category ∈ categories, category.parentId = "" := by
  induction docs generalizing categories with
  | nil =>
    cases h
    exact List.forall_mem_nil _
  | cons e docs ih =>
    simp only [LocationCategoryRepository.decodeAll, List.mapM_cons, bind_eq_ok] at h
    obtain ⟨category, hcategory, rest, hrest, heq⟩ := h
    cases heq
    exact List.forall_mem_cons.mpr ⟨parentId_of_fromSnapshot hcategory, ih hrest⟩

section Operations

variable {c : Collection} {s₀ : LocationCategoryControllerState}

/-- The program keeps the lists right. -/
abbrev KeepsCategories {α : Type} (c : Collection) (s₀ : LocationCategoryControllerState)
    (p : App α) : Prop :=
  KeepsShowing .locationCategories c (fun w => CategoriesRight c s₀ w.locationCategoryController) p

theorem closed_keepsCategories (c : Collection) (s₀ : LocationCategoryControllerState) :
    Prog.Closed fun {α} (p : App α) => KeepsCategories c s₀ p :=
  closed_keepsShowing _ c _

/-- No answer changes the lists. -/
theorem categoriesRight_of_controllers {w w' : World} (h : w'.controllers = w.controllers)
    (hlists : CategoriesRight c s₀ w.locationCategoryController) :
    CategoriesRight c s₀ w'.locationCategoryController := by
  rw [show w'.locationCategoryController = w.locationCategoryController from
    congrArg (fun x => x.2.2.2.1) h]
  exact hlists

/-- A call that does not write categories leaves the lists right. -/
theorem keepsCategories_call {call : Call} (hcall : call.writes .locationCategories = false) :
    KeepsCategories c s₀ (await call) :=
  keepsShowing_call (fun _ _ => categoriesRight_of_controllers) hcall

theorem keepsCategories_special (call : Call) (hc : call.isSpecial = false) :
    KeepsCategories c s₀ (await call) :=
  keepsCategories_call (writes_of_not_isSpecial (by decide) hc)

theorem keepsCategories_loads (call : Call) (hc : call.loads = true) :
    KeepsCategories c s₀ (await call) :=
  keepsCategories_call (writes_of_loads (by decide) hc)

theorem keepsCategories_update {u : World → World} (hdb : ∀ w, (u w).db = w.db)
    (hall : ∀ w, (u w).locationCategoryController.allLocationCategories =
      w.locationCategoryController.allLocationCategories)
    (hfeatured : ∀ w, (u w).locationCategoryController.featuredCategories =
      w.locationCategoryController.featuredCategories) :
    KeepsCategories c s₀ (Prog.modify u) := by
  apply keepsShowing_update fun w => congrFun (hdb w) _
  intro w h
  rw [CategoriesRight, hall w, hfeatured w]
  exact h

/-- Both lists are set in one segment. -/
theorem keepsCategories_show {categories : List LocationCategoryModel}
    (h : LocationCategoryRepository.decodeAll c.docs = .ok categories) : KeepsCategories c s₀ (do
      modifyState fun s => { s with allLocationCategories := categories }
      modifyState fun s => { s with
        featuredCategories := s.allLocationCategories.filter fun c => c.parentId = "" }) := by
  have hparents : categories.filter (fun category => category.parentId = "") = categories := by
    apply List.filter_eq_self.mpr
    intro category hcategory
    exact decide_eq_true (parentId_of_decodeAll h category hcategory)
  intro ms w₀ w hw _
  exact ⟨⟨hw.calls, hw.stored, .inr ⟨h, hparents⟩⟩, trivial⟩

/-- The fetch assigns what it has read. -/
theorem keepsCategories_fetchLocationCategory : KeepsCategories c s₀ fetchLocationCategory := by
  have hflag (b : Bool) : KeepsCategories c s₀ (modifyState fun s => { s with isLoading := b }) :=
    keepsCategories_update (fun _ => rfl) (fun _ => rfl) fun _ => rfl
  apply (closed_keepsCategories c s₀).ensure
  · apply (closed_keepsCategories c s₀).handle
    · apply (closed_keepsCategories c s₀).bind (hflag true)
      intro _
      apply keepsShowing_query
        (fun categories => LocationCategoryRepository.decodeAll c.docs = .ok categories) rfl rfl
      · intro w docs w' categories hstored hr hdecode
        obtain ⟨rfl, -⟩ := Option.ite_none_right_eq_some.mp hr
        rwa [hstored] at hdecode
      · exact fun _ hcategories => keepsCategories_show hcategories
    · exact fun _ => keepsCategories_call rfl
  · exact hflag false

/-- Every operation leaves the categories right. -/
theorem AppOperation.keepsCategories (intl : Intl) (repository : LocationRepository)
    (op : AppOperation) : KeepsCategories c s₀ (op.body intl repository) := by
  have hK := closed_keepsCategories c s₀
  have hmodify (f : LocationControllerState → LocationControllerState) :
      KeepsCategories c s₀ (LocationController.modifyState f) :=
    keepsCategories_update (fun _ => rfl) (fun _ => rfl) fun _ => rfl
  apply closed_content hK
  · exact fun call hc => keepsCategories_call (writes_of_not_writesElsewhere (by decide) hc)
  · exact fun _ _ => keepsCategories_call rfl
  · intro u hu
    apply keepsCategories_update
    · exact fun w => congrArg (fun x => x.1.2.2.1) (hu w)
    · exact fun w => congrArg (fun x => x.2.2.2.1) (hu w)
    · exact fun w => congrArg (fun x => x.2.2.2.2.1) (hu w)
  · exact closed_fetchLocations hK.toSequential keepsCategories_loads
      (fun _ => hK.read _) hmodify intl
  · apply closed_fetchAllLocations hK.toSequential keepsCategories_loads
      (fun _ => hK.read _) hmodify
  · exact hmodify _
  · exact keepsCategories_fetchLocationCategory
  · intro hfetch
    apply closed_logMuseumVisit hK.toSequential keepsCategories_special (readsHave_of_closed hK)
      hfetch
    · exact fun _ => keepsCategories_call rfl
    · exact fun _ => keepsCategories_update (fun _ => rfl) (fun _ => rfl) fun _ => rfl
  · apply closed_updateMuseumVisitTimeOut hK.toSequential keepsCategories_special
      (readsHave_of_closed hK)
    exact fun _ _ => keepsCategories_call rfl

end Operations

/-- In every interleaving, whatever is answered, the two lists show what they did at the start, or
both show exactly the stored categories. -/
theorem categories_show_stored {intl : Intl} {repository : LocationRepository} {w₀ : World}
    {ms : History} {c : AppPool AppOperation}
    (hrun : Pool.Run overlapping (AppOperation.body intl repository) ⟨w₀, []⟩ ms c) :
    CategoriesRight (w₀.db .locationCategories) w₀.locationCategoryController
      c.state.locationCategoryController :=
  right_of_run (fun _ _ => categoriesRight_of_controllers)
    (fun op => op.keepsCategories intl repository) (.inl ⟨rfl, rfl⟩) hrun

/-- Beaches, whose parent is stored. -/
def World.withBeaches : World :=
  (World.withUsers []).setDb .locationCategories (AList.singleton "1" (Doc.ofFields
    [("CategoryId", Scalar.string "1"), ("Name", Scalar.string "Beach"),
      ("ParentId", Scalar.string "7")]))

/-- The categories are fetched twice at once, and the beaches are featured like the others. -/
theorem categories_show_stored_beaches : ∃ ms c,
    Pool.Run overlapping (AppOperation.body Intl.utc ⟨some "u"⟩) ⟨World.withBeaches, []⟩ ms c ∧
      c.state.locationCategoryController.allLocationCategories ≠ [] ∧
      c.state.locationCategoryController.featuredCategories =
        c.state.locationCategoryController.allLocationCategories := by
  obtain ⟨ms, c, hrun, hq⟩ := app_pool_run Intl.utc ⟨some "u"⟩ World.withBeaches (fun _ _ => none)
    [.start .fetchLocationCategory, .start .fetchLocationCategory, .go 0, .go 1, .go 1]
    (fun out => decide (out.2.state.locationCategoryController.allLocationCategories ≠ []))
    (by decide +kernel)
  have hshown := of_decide_eq_true hq
  refine ⟨ms, c, hrun, hshown, ?_⟩
  rcases categories_show_stored hrun with ⟨hstart, -⟩ | ⟨-, hfeatured⟩
  · exact absurd hstart hshown
  · exact hfeatured

end AroundMuseo
