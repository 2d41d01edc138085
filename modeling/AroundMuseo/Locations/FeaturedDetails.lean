import AroundMuseo.Core.RelyGuarantee
import AroundMuseo.Locations.CategoryDetails
import AroundMuseo.Platform.Scenario

/-!
# The details of the featured locations

Every featured location has a future that fills in its details, and no future touches the
object of another. So whatever the order of the replies, and whichever of the schedules
throw, a location with a well-formed schedule ends with its details, unless its own category
cannot be asked for: then it stays as it was loaded.
-/

namespace AroundMuseo

open Async Firestore LocationController

/-- If the clock shows anything, it is one of the given instants. -/
def Shows (times : List DateTime) (ev : Event) : Prop := ∀ t ∈ clock [ev], t ∈ times

instance (times : List DateTime) : DecidablePred (Shows times) :=
  fun ev => inferInstanceAs (Decidable (∀ t ∈ clock [ev], t ∈ times))

theorem shows_clock {tr : List Event} {ev : Event} (h : ev ∈ tr) : Shows (clock tr) ev := by
  intro t ht
  obtain ⟨before, after, rfl⟩ := List.append_of_mem h
  rw [clock_append, ← List.singleton_append, clock_append]
  simp [ht]

section Futures

variable (intl : Intl) (db : CollectionName → Collection) (times : List DateTime)
  (base : List (Nat × LocationModel))

/-- The objects are those that were loaded, with whatever details. Where a category cannot be
asked for, the object is as it was loaded. -/
structure Loaded (w : World) : Prop where
  objects : List.Forall₂ (fun x y => y.1 = x.1 ∧ ∃ d, y.2 = LocationModel.withDetails x.2 d) base
    (w.locationController.lists .featuredLocations)
  unnamed : ∀ x ∈ base, ¬ x.2.key.Named → x ∈ w.locationController.lists .featuredLocations

/-- The details of the location do not throw. -/
def Fillable (x : Nat × LocationModel) : Prop :=
  x.2.key.Named ∧ WellFormed intl x.2.operatingHours

/-- The object of a location has its details, of some of the instants. -/
def HasDetails (x : Nat × LocationModel) (w : World) : Prop :=
  ∃ t₁ t₂ t₃ d, t₁ ∈ times ∧ t₂ ∈ times ∧ t₃ ∈ times ∧ detailsAt intl db x.2 t₁ t₂ t₃ = .ok d ∧
    (x.1, x.2.withDetails d) ∈ w.locationController.lists .featuredLocations

/-- What a future may do while others wait: details that are filled in stay so. -/
def FutureRely (w w' : World) : Prop :=
  w'.db = w.db ∧ (Loaded base w → Loaded base w') ∧ ∀ x ∈ base,
    Fillable intl x → HasDetails intl db times x w → HasDetails intl db times x w'

/-- In the end a future has filled in the details of its location. -/
def FutureLast (x : Nat × LocationModel) (w w' : World) : Prop :=
  FutureRely intl db times base w w' ∧ (x ∈ base → Fillable intl x → Loaded base w →
    HasDetails intl db times x w')

variable {intl db times base} {w w₀ w₁ : World}

theorem FutureRely.refl (w : World) : FutureRely intl db times base w w :=
  ⟨rfl, id, fun _ _ _ => id⟩

/-- What the other futures do adds up. -/
theorem FutureRely.trans {w₁ w₂ w₃ : World} (h : FutureRely intl db times base w₁ w₂)
    (h' : FutureRely intl db times base w₂ w₃) : FutureRely intl db times base w₁ w₃ := by
  refine ⟨h'.1.trans h.1, fun hloaded => h'.2.1 (h.2.1 hloaded), fun x hx hfill hdetails => ?_⟩
  exact h'.2.2 x hx hfill (h.2.2 x hx hfill hdetails)

/-- A featured location stays in the list, with some details. -/
theorem Loaded.exists_mem (h : Loaded base w) {x : Nat × LocationModel} (hx : x ∈ base) :
    ∃ d, (x.1, x.2.withDetails d) ∈ w.locationController.lists .featuredLocations := by
  obtain ⟨i, hi⟩ := List.mem_iff_getElem?.mp hx
  have hlength := h.objects.length_eq
  obtain ⟨hlt, rfl⟩ := List.getElem?_eq_some_iff.mp hi
  obtain ⟨hfst, d, hsnd⟩ := List.Forall₂.get h.objects hlt (hlength ▸ hlt)
  refine ⟨d, ?_⟩
  have hmem := List.get_mem (w.locationController.lists .featuredLocations) ⟨i, hlength ▸ hlt⟩
  rwa [← Prod.mk.eta (p := List.get _ _), hfst, hsnd] at hmem

theorem Loaded.ids_eq (h : Loaded base w) :
    w.locationController.ids .featuredLocations = base.map Prod.fst := by
  have hobjects := h.objects
  rw [LocationControllerState.ids]
  generalize w.locationController.lists .featuredLocations = ys at hobjects
  clear h
  induction hobjects with
  | nil => rfl
  | cons h _ ih => rw [List.map_cons, List.map_cons, h.1, ih]

/-- A segment that assigns nothing, in the future of a location that throws. -/
theorem futureLast_of_lists {x : Nat × LocationModel} {w' : World} (hdb : w'.db = w.db)
    (hlists : w'.locationController.lists = w.locationController.lists)
    (hfill : ¬ Fillable intl x) : FutureLast intl db times base x w w' := by
  refine ⟨⟨hdb, fun hloaded => ?_, fun y _ _ hdone => ?_⟩, fun _ h _ => absurd h hfill⟩
  · exact ⟨hlists ▸ hloaded.objects, hlists ▸ hloaded.unnamed⟩
  · rw [HasDetails, hlists]
    exact hdone

/-- A segment that assigns details to its own object. -/
theorem futureLast_of_modifyLocation (hnodup : (base.map Prod.fst).Nodup) {x : Nat × LocationModel}
    (hx : x ∈ base) (hnamed : x.2.key.Named) {w' : World} {g : LocationModel → LocationModel}
    (hdb : w'.db = w.db)
    (hlists : w'.locationController.lists = (w.locationController.modifyLocation x.1 g).lists)
    (hg : ∀ l, ∃ d, g l = l.withDetails d)
    (hdetails : WellFormed intl x.2.operatingHours → ∃ t₁ t₂ t₃ d, t₁ ∈ times ∧ t₂ ∈ times ∧
      t₃ ∈ times ∧ detailsAt intl db x.2 t₁ t₂ t₃ = .ok d ∧ ∀ l, g l = l.withDetails d) :
    FutureLast intl db times base x w w' := by
  have hlist : w'.locationController.lists .featuredLocations =
      (w.locationController.lists .featuredLocations).map fun y =>
        (y.1, if y.1 = x.1 then g y.2 else y.2) := congrFun hlists _
  have hother {y : Nat × LocationModel} (hid : y.1 ≠ x.1)
      (hmem : y ∈ w.locationController.lists .featuredLocations) :
      y ∈ w'.locationController.lists .featuredLocations := by
    rw [hlist]
    refine List.mem_map.mpr ⟨y, hmem, ?_⟩
    rw [if_neg hid]
  have hown (hwf : WellFormed intl x.2.operatingHours) {d : Details}
      (hmem : (x.1, x.2.withDetails d) ∈ w.locationController.lists .featuredLocations) :
      HasDetails intl db times x w' := by
    obtain ⟨t₁, t₂, t₃, d', h₁, h₂, h₃, hd', hset⟩ := hdetails hwf
    refine ⟨t₁, t₂, t₃, d', h₁, h₂, h₃, hd', ?_⟩
    rw [hlist]
    refine List.mem_map.mpr ⟨_, hmem, ?_⟩
    rw [if_pos rfl, hset]
    rfl
  refine ⟨⟨hdb, fun hloaded => ⟨?_, fun y hy hunnamed => ?_⟩, fun y hy hfill hdone => ?_⟩,
    fun _ hfill hloaded => ?_⟩
  · rw [hlist, List.forall₂_map_right_iff]
    refine List.Forall₂.imp (fun a b h => ⟨h.1, ?_⟩) hloaded.objects
    obtain ⟨-, d, hd⟩ := h
    by_cases hb : b.1 = x.1
    · obtain ⟨d', hd'⟩ := hg b.2
      rw [if_pos hb, hd', hd]
      exact ⟨d', rfl⟩
    · rw [if_neg hb]
      exact ⟨d, hd⟩
  · refine hother (fun hid => hunnamed ?_) (hloaded.unnamed y hy hunnamed)
    rwa [List.inj_on_of_nodup_map hnodup hy hx hid]
  · obtain ⟨t₁, t₂, t₃, d, h₁, h₂, h₃, hd, hmem⟩ := hdone
    by_cases hid : y.1 = x.1
    · obtain rfl : y = x := List.inj_on_of_nodup_map hnodup hy hx hid
      exact hown hfill.2 hmem
    · exact ⟨t₁, t₂, t₃, d, h₁, h₂, h₃, hd, hother hid hmem⟩
  · obtain ⟨d, hmem⟩ := hloaded.exists_mem hx
    exact hown hfill.2 hmem

variable (intl db times base) in
/-- What is left of a future, while the others do theirs. -/
abbrev FutureGuarded {α : Type} (p : App α) (Q : Except Exn α → World → World → Prop)
    (w₀ w : World) : Prop :=
  p.Guarded (platform.restrict (Shows times)) (FutureRely intl db times base)
    (FutureRely intl db times base) Q w₀ w

theorem futureGuarded_getCategoryNameById_bind (hnames : NamesDecode w.db)
    (hg : FutureRely intl db times base w₀ w) {id : String} {f : String → App Unit}
    {Q : Except Exn Unit → World → World → Prop}
    (h : IsDocumentPath id → ∀ w₁, FutureRely intl db times base w w₁ →
      FutureGuarded intl db times base (f (nameOf w₁.db id)) Q w₁ w₁)
    (herr : ¬ IsDocumentPath id → ∀ e, Q (.error e) w₀ w) :
    FutureGuarded intl db times base (LocationRepository.getCategoryNameById id >>= f) Q w₀ w := by
  refine Prog.guarded_bind (Prog.guarded_handle (guarded_doc_bind
    (fun hid => Prog.guarded_bind ?_) fun hid => herr hid _))
  have h := h hid
  refine Prog.guarded_invoke rfl hg fun w₁ hw₁ v w₂ hv => ?_
  have hv' := (Platform.restrict_effect_eq_some.mp hv).2
  obtain ⟨⟨-, rfl⟩, hw⟩ := Option.ite_none_right_eq_some.mp hv'
  cases hw
  refine ⟨.refl w₁, fun w₃ hw₃ => ?_⟩
  have hrely := hw₁.trans hw₃
  have hthen := h w₃ hrely
  cases hdoc : (w₁.db .locationCategories).lookup (documentId id) with
  | none =>
    rw [nameOf, hw₃.1, hdoc] at hthen
    exact hthen
  | some data =>
    obtain ⟨name, hname⟩ := hnames _ data (hw₁.1 ▸ hdoc)
    dsimp only
    rw [hname]
    rw [nameOf_of_lookup (hw₃.1 ▸ hdoc) hname] at hthen
    exact hthen

/-- The clock shows one of the times. -/
theorem futureGuarded_now_bind {f : DateTime → App Unit}
    {Q : Except Exn Unit → World → World → Prop}
    (h : ∀ t ∈ times, FutureGuarded intl db times base (f t) Q w₀ w) :
    FutureGuarded intl db times base (await .now >>= f) Q w₀ w := by
  refine Prog.guarded_bind (Prog.guarded_invoke_sync rfl fun t w' hw => ?_)
  obtain ⟨hshows, hw'⟩ := Platform.restrict_effect_eq_some.mp hw
  cases hw'
  exact h t (hshows t (List.mem_singleton_self t))

/-- What a schedule throws ends the future, and `Future.wait` keeps it. -/
theorem futureGuarded_liftExcept_bind {α : Type} {x : Except Exn α} {f : α → App Unit}
    {Q : Except Exn Unit → World → World → Prop}
    (hok : ∀ a, x = .ok a → FutureGuarded intl db times base (f a) Q w₀ w)
    (herr : ∀ e, x = .error e → Q (.error e) w₀ w) :
    FutureGuarded intl db times base (liftExcept x >>= f) Q w₀ w := by
  cases x with
  | ok a => exact hok a rfl
  | error e => exact herr e rfl

/-- The future of a location fills in its own details. -/
theorem futureGuarded_featuredLocationDetails (hnodup : (base.map Prod.fst).Nodup)
    (hdb : w.db = db) (hnames : NamesDecode db) {x : Nat × LocationModel} (hx : x ∈ base) :
    FutureGuarded intl db times base (featuredLocationDetails intl x)
      (fun _ => FutureLast intl db times base x) w w := by
  obtain ⟨k, l⟩ := x
  subst hdb
  refine Prog.guarded_handle (Prog.guarded_bind ?_)
  refine futureGuarded_getCategoryNameById_bind hnames (.refl w) (fun hcategory w₁ hw₁ => ?_)
    fun hcategory e => futureLast_of_lists rfl rfl fun hfill => hcategory hfill.1.1
  refine futureGuarded_getCategoryNameById_bind (hw₁.1 ▸ hnames) (.refl w₁)
    (fun hsubCategory w₂ hw₂ => ?_)
    fun hsubCategory e => futureLast_of_lists rfl rfl fun hfill => hsubCategory hfill.1.2
  have hnamed : l.key.Named := ⟨hcategory, hsubCategory⟩
  have hname : nameOf w₁.db l.categoryId = nameOf w.db l.categoryId := by
    rw [hw₁.1]
  have hsubName : nameOf w₂.db l.subCategoryId = nameOf w.db l.subCategoryId := by
    rw [hw₂.1, hw₁.1]
  rw [hname, hsubName]
  -- From here on the future runs without a break, on the object `k` alone.
  set name := nameOf w.db l.categoryId
  set subName := nameOf w.db l.subCategoryId
  have hthrows {w' : World} {α : Type} {x : Except Exn α} {e : Exn} (he : x = .error e)
      (hisOk : WellFormed intl l.operatingHours → ∃ a, x = .ok a) (hdb : w'.db = w₂.db)
      (g : LocationModel → Details)
      (hlists : w'.locationController.lists =
        (w₂.locationController.modifyLocation k fun l => l.withDetails (g l)).lists) :
      FutureLast intl w.db times base (k, l) w₂ w' := by
    refine futureLast_of_modifyLocation hnodup hx hnamed hdb hlists (fun l => ⟨g l, rfl⟩) fun hwf =>
      ?_
    obtain ⟨a, ha⟩ := hisOk hwf
    rw [he] at ha
    cases ha
  refine futureGuarded_now_bind fun t₁ ht₁ => futureGuarded_liftExcept_bind
    (fun isOpen hisOpen => ?_) fun e he => ?_
  · refine Prog.guarded_modify_bind.mpr (futureGuarded_now_bind fun t₂ ht₂ =>
      futureGuarded_liftExcept_bind (fun openTimes hopenTimes => ?_) fun e he => ?_)
    · refine Prog.guarded_modify_bind.mpr (futureGuarded_now_bind fun t₃ ht₃ =>
        futureGuarded_liftExcept_bind (fun closeTimes hcloseTimes => ?_) fun e he => ?_)
      · have hd := (detailsAt_eq_ok (d := ⟨name, subName, isOpen, openTimes, closeTimes⟩)).mpr
          ⟨rfl, rfl, hisOpen, hopenTimes, hcloseTimes⟩
        refine futureLast_of_modifyLocation
          (g := fun l' => l'.withDetails _) hnodup hx hnamed rfl ?_
          (fun l' => ⟨_, rfl⟩) fun _ => ⟨t₁, t₂, t₃, _, ht₁, ht₂, ht₃, hd, fun l' => rfl⟩
        simp only [LocationControllerState.modifyLocation_modifyLocation]
        rfl
      · refine hthrows he (whenToClose_isOk t₃) rfl (fun l => { l.details with
          categoryName := name, subCategoryName := subName, isOpen, openTimes }) ?_
        simp only [LocationControllerState.modifyLocation_modifyLocation]
        rfl
    · refine hthrows he (whenToOpen_isOk t₂) rfl (fun l => { l.details with
        categoryName := name, subCategoryName := subName, isOpen }) ?_
      simp only [LocationControllerState.modifyLocation_modifyLocation]
      rfl
  · refine hthrows he (checkIfLocationIsOpen_isOk t₁) rfl (fun l => { l.details with
      categoryName := name, subCategoryName := subName }) ?_
    simp only [LocationControllerState.modifyLocation_modifyLocation]
    rfl

/-- When all the futures have completed, the locations have their details, unless those throw. -/
theorem hasDetails_of_wait {ms : History} {c : AppPool (Nat × LocationModel)}
    (hwait : Pool.Run platform (featuredLocationDetails intl) ⟨w, []⟩ ms c)
    (hok : AllAnswered (answers ms))
    (hstarted : c.tasks.map Prod.fst = w.locationController.lists .featuredLocations)
    (hcompleted : c.Quiescent) (hnodup : (w.locationController.ids .featuredLocations).Nodup)
    (hnames : NamesDecode w.db) :
    Loaded (w.locationController.lists .featuredLocations) c.state ∧
      ∀ x ∈ w.locationController.lists .featuredLocations, Fillable intl x →
        HasDetails intl w.db (clock (answers ms)) x c.state := by
  set base := w.locationController.lists .featuredLocations with hbase
  set times := clock (answers ms)
  have hloaded : Loaded base w := by
    refine ⟨?_, fun x hx _ => hbase ▸ hx⟩
    rw [← hbase]
    exact List.forall₂_same.mpr fun x _ => ⟨rfl, x.2.details, rfl⟩
  -- The futures of other locations never start.
  have hrun := (hwait.restrict fun ev hev => shows_clock hev).congr_body
    (fun x => if x ∈ base then featuredLocationDetails intl x else pure ())
    fun x hx => by rw [if_pos (hstarted ▸ hx)]
  have hinv := Pool.Run.rely_guarantee (FutureRely intl w.db times base)
    (fun _ => FutureRely intl w.db times base) (FutureLast intl w.db times base)
    (fun w' ops => w'.db = w.db ∧ Loaded base w' ∧ ∀ x ∈ ops, x ∈ base →
      Fillable intl x → HasDetails intl w.db times x w')
    FutureRely.refl (fun _ _ _ => FutureRely.trans) ?_ ?_ ?_ hrun rfl
    ⟨rfl, hloaded, fun x hx => absurd hx (Multiset.notMem_zero x)⟩ hok
  · rw [hcompleted.finishedOps, hstarted] at hinv
    exact ⟨hinv.2.1, fun x hx hfill => hinv.2.2 x hx hx hfill⟩
  · intro x w' ops hw'
    by_cases hx : x ∈ base
    · rw [if_pos hx]
      exact futureGuarded_featuredLocationDetails hnodup hw'.1 hnames hx
    · rw [if_neg hx]
      exact ⟨.refl w', fun hmem => absurd hmem hx⟩
  · intro x w' w'' ops hw' hrely
    refine ⟨hrely, hrely.1.trans hw'.1, hrely.2.1 hw'.2.1, fun y hy hmem hfill => ?_⟩
    exact hrely.2.2 y hmem hfill (hw'.2.2 y hy hmem hfill)
  · intro x w' w'' ops hw' hlast
    refine ⟨hlast.1, hlast.1.1.trans hw'.1, hlast.1.2.1 hw'.2.1, fun y hy hmem hfill => ?_⟩
    rcases Multiset.mem_cons.mp hy with rfl | hy
    · exact hlast.2 hmem hfill hw'.2.1
    · exact hlast.1.2.2 y hmem hfill (hw'.2.2 y hy hmem hfill)

end Futures

end AroundMuseo
