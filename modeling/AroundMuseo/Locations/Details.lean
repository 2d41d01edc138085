import AroundMuseo.Locations.Fetches
import AroundMuseo.Platform.Rules

/-!
# The details of the locations

Loading a category fills in the details of its locations one after the other, and each
schedule is looked at three times, with the clock of that moment. A category that cannot be
asked for or a schedule that throws ends the loop, and the `try` block with it.
-/

namespace AroundMuseo

open Async Firestore LocationController

/-- What the clock showed during a run. -/
def clock (tr : List Event) : List DateTime :=
  tr.filterMap fun
    | ⟨_, .now, .ok t⟩ => some t
    | _ => none

@[simp] theorem clock_nil : clock [] = [] := rfl

@[simp] theorem clock_append (tr tr' : List Event) : clock (tr ++ tr') = clock tr ++ clock tr' :=
  List.filterMap_append

/-- What the controller fills in after loading. -/
structure Details where
  categoryName : String
  subCategoryName : String
  isOpen : Bool
  openTimes : String
  closeTimes : String
  deriving DecidableEq

namespace LocationModel

def details (l : LocationModel) : Details where
  categoryName := l.categoryName
  subCategoryName := l.subCategoryName
  isOpen := l.isOpen
  openTimes := l.openTimes
  closeTimes := l.closeTimes

def withDetails (l : LocationModel) (d : Details) : LocationModel :=
  { l with
    categoryName := d.categoryName
    subCategoryName := d.subCategoryName
    isOpen := d.isOpen
    openTimes := d.openTimes
    closeTimes := d.closeTimes }

@[simp] theorem details_withDetails (l : LocationModel) (d : Details) :
    (l.withDetails d).details = d := rfl

end LocationModel

/-- The documents of the categories decode. -/
def NamesDecode (db : CollectionName → Collection) : Prop :=
  ∀ id data, (db .locationCategories).lookup id = some data →
    ∃ name, stringField data "Name" "" = .ok name

/-- The name of a category. -/
def nameOf (db : CollectionName → Collection) (id : String) : String :=
  match (db .locationCategories).lookup (documentId id) with
  | some data => (stringField data "Name" "").toOption.getD ""
  | none => ""

variable (intl : Intl)

/-- The details of a location when its categories can be asked for and the clock shows three
instants. -/
def detailsAt (db : CollectionName → Collection) (l : LocationModel) (t₁ t₂ t₃ : DateTime) :
    Except Exn Details := do
  return {
    categoryName := nameOf db l.categoryId
    subCategoryName := nameOf db l.subCategoryId
    isOpen := ← checkIfLocationIsOpen intl l.operatingHours t₁
    openTimes := ← whenToOpen intl l.operatingHours t₂
    closeTimes := ← whenToClose intl l.operatingHours t₃ }

/-- The categories of the location can be asked for, and none of the first three instants
makes its schedule throw. -/
def DetailsPass (l : LocationModel) (times : List DateTime) : Prop :=
  l.key.Named ∧
  (∀ t ∈ times[0]?, ∃ b, checkIfLocationIsOpen intl l.operatingHours t = .ok b) ∧
  (∀ t ∈ times[1]?, ∃ s, whenToOpen intl l.operatingHours t = .ok s) ∧
  ∀ t ∈ times[2]?, ∃ s, whenToClose intl l.operatingHours t = .ok s

/-- The details of no location throw: each is looked at with three readings of the clock. -/
def AllDetailsPass : List LocationModel → List DateTime → Prop
  | [], _ => True
  | l :: rest, times => DetailsPass intl l times ∧ AllDetailsPass rest (times.drop 3)

/-- Every location has got its details, at instants of its own. -/
inductive Filled (db : CollectionName → Collection) :
    List (Nat × LocationModel) → List DateTime → List (Nat × LocationModel) → Prop
  | nil : Filled db [] [] []
  | cons {k : Nat} {l : LocationModel} {d : Details} {t₁ t₂ t₃ : DateTime} {times : List DateTime}
      {rest rest' : List (Nat × LocationModel)} (hnamed : l.key.Named)
      (h : detailsAt intl db l t₁ t₂ t₃ = .ok d)
      (hrest : Filled db rest times rest') :
      Filled db ((k, l) :: rest) (t₁ :: t₂ :: t₃ :: times) ((k, l.withDetails d) :: rest')

variable {intl} {db : CollectionName → Collection}

section Details

variable {l : LocationModel} {t₁ t₂ t₃ : DateTime} {d : Details}

/-- The details are two names and what the three functions return. -/
theorem detailsAt_eq_ok : detailsAt intl db l t₁ t₂ t₃ = .ok d ↔
    d.categoryName = nameOf db l.categoryId ∧ d.subCategoryName = nameOf db l.subCategoryId ∧
      checkIfLocationIsOpen intl l.operatingHours t₁ = .ok d.isOpen ∧
      whenToOpen intl l.operatingHours t₂ = .ok d.openTimes ∧
      whenToClose intl l.operatingHours t₃ = .ok d.closeTimes := by
  simp only [detailsAt, bind_eq_ok, pure, Except.pure, Except.ok.injEq]
  constructor
  · rintro ⟨isOpen, hisOpen, openTimes, hopenTimes, closeTimes, hcloseTimes, rfl⟩
    exact ⟨rfl, rfl, hisOpen, hopenTimes, hcloseTimes⟩
  · rintro ⟨hcategory, hsubCategory, hisOpen, hopenTimes, hcloseTimes⟩
    refine ⟨_, hisOpen, _, hopenTimes, _, hcloseTimes, ?_⟩
    rw [← hcategory, ← hsubCategory]

/-- The details of the first location take three readings of the clock. -/
theorem allDetailsPass_cons {rest : List LocationModel} {times : List DateTime}
    (hnamed : l.key.Named) (h : detailsAt intl db l t₁ t₂ t₃ = .ok d) :
    AllDetailsPass intl (l :: rest) (t₁ :: t₂ :: t₃ :: times) ↔ AllDetailsPass intl rest times := by
  obtain ⟨-, -, hisOpen, hopenTimes, hcloseTimes⟩ := detailsAt_eq_ok.mp h
  simp [AllDetailsPass, DetailsPass, hnamed, hisOpen, hopenTimes, hcloseTimes]

/-- Named categories and well-formed schedules do not throw, whatever the clock shows. -/
theorem allDetailsPass_of_wellFormed {locations : List LocationModel}
    (h : ∀ l ∈ locations, l.key.Named ∧ WellFormed intl l.operatingHours) (times : List DateTime) :
    AllDetailsPass intl locations times := by
  induction locations generalizing times with
  | nil => trivial
  | cons l rest ih =>
    obtain ⟨⟨hnamed, hhours⟩, hrest⟩ := List.forall_mem_cons.mp h
    refine ⟨⟨hnamed, fun t _ => ?_, fun t _ => ?_, fun t _ => ?_⟩, ih hrest _⟩
    · exact checkIfLocationIsOpen_isOk t hhours
    · exact whenToOpen_isOk t hhours
    · exact whenToClose_isOk t hhours

/-- The name that is stored. -/
theorem nameOf_of_lookup {id name : String} {data : Doc}
    (hdoc : (db .locationCategories).lookup (documentId id) = some data)
    (hname : stringField data "Name" "" = .ok name) : nameOf db id = name := by
  rw [nameOf, hdoc]
  dsimp only
  rw [hname]
  rfl

end Details

section Filled

variable {xs ys : List (Nat × LocationModel)} {times : List DateTime}

/-- Where details were filled in, none of the schedules has thrown. -/
theorem Filled.allDetailsPass (h : Filled intl db xs times ys) :
    AllDetailsPass intl (xs.map Prod.snd) times := by
  induction h with
  | nil => trivial
  | cons hnamed h _ ih => exact (allDetailsPass_cons hnamed h).mpr ih

/-- The details at a position, with the instants they are of. -/
theorem Filled.get (h : Filled intl db xs times ys) {i k : Nat} {l : LocationModel}
    (hi : xs[i]? = some (k, l)) : l.key.Named ∧ ∃ t₁ t₂ t₃ d, t₁ ∈ times ∧ t₂ ∈ times ∧
      t₃ ∈ times ∧ detailsAt intl db l t₁ t₂ t₃ = .ok d ∧ ys[i]? = some (k, l.withDetails d) := by
  induction h generalizing i with
  | nil => simp at hi
  | @cons k' l' d t₁ t₂ t₃ times rest rest' hnamed h hrest ih =>
    cases i with
    | zero =>
      rw [List.getElem?_cons_zero] at hi
      cases hi
      exact ⟨hnamed, t₁, t₂, t₃, d, by simp, by simp, by simp, h, rfl⟩
    | succ i =>
      rw [List.getElem?_cons_succ] at hi
      obtain ⟨hnamed', s₁, s₂, s₃, e, h₁, h₂, h₃, hd, hget⟩ := ih hi
      exact ⟨hnamed', s₁, s₂, s₃, e, by simp [h₁], by simp [h₂], by simp [h₃], hd, hget⟩

end Filled

/-- What holds after every run whose calls are all answered, of the outcome, of what the
clock showed and of the state. -/
def WhenAnswered {α : Type} (p : App α) (Q : Except Exn α → List DateTime → World → Prop)
    (w : World) : Prop :=
  p.wp platform (fun r tr w' => AllAnswered tr → Q r (clock tr) w') w

namespace WhenAnswered

variable {α β : Type} {w : World} {p : App α} {f : α → App β}
  {Q : Except Exn β → List DateTime → World → Prop}

theorem mono {Q Q' : Except Exn α → List DateTime → World → Prop} (h : WhenAnswered p Q w)
    (hQ : ∀ r times w', Q r times w' → Q' r times w') : WhenAnswered p Q' w :=
  Prog.wp_mono h fun _ _ _ h' hok => hQ _ _ _ (h' hok)

theorem andThen {g : Except Exn α → App β}
    (h : WhenAnswered p (fun r times w' => WhenAnswered (g r) (fun r' times' w'' =>
      Q r' (times ++ times') w'') w') w) : WhenAnswered (p.andThen g) Q w := by
  refine Prog.wp_andThen.mpr (Prog.wp_mono h fun r tr w' h' => ?_)
  by_cases hok : AllAnswered tr
  · refine Prog.wp_mono (h' hok) fun r' tr' w'' h'' hall => ?_
    rw [clock_append]
    exact h'' (allAnswered_append.mp hall).2
  · exact Prog.wp_iff_run.mpr fun tr' r' w'' _ hall => absurd (allAnswered_append.mp hall).1 hok

theorem bind (h : WhenAnswered p (fun r times w' => match r with
      | .ok a => WhenAnswered (f a) (fun r' times' w'' => Q r' (times ++ times') w'') w'
      | .error e => Q (.error e) times w') w) : WhenAnswered (p >>= f) Q w := by
  refine andThen (mono h fun r times w' h' => ?_)
  cases r with
  | ok a => exact h'
  | error e =>
    intro _
    rw [clock_nil, List.append_nil]
    exact h'

theorem handle {Q : Except Exn α → List DateTime → World → Prop} {h : Exn → App α}
    (hp : WhenAnswered p (fun r times w' => match r with
      | .ok a => Q (.ok a) times w'
      | .error e => WhenAnswered (h e) (fun r' times' w'' => Q r' (times ++ times') w'') w') w) :
    WhenAnswered (tryCatch p h) Q w := by
  refine andThen (mono hp fun r times w' h' => ?_)
  cases r with
  | ok a =>
    intro _
    rw [clock_nil, List.append_nil]
    exact h'
  | error e => exact h'

theorem read_bind {γ : Type} {g : World → γ} {f : γ → App β} :
    WhenAnswered (Prog.read g >>= f) Q w ↔ WhenAnswered (f (g w)) Q w := Iff.rfl

theorem modify_bind {u : World → World} {f : Unit → App β} :
    WhenAnswered (Prog.modify u >>= f) Q w ↔ WhenAnswered (f ()) Q (u w) := Iff.rfl

/-- A reading of the clock is remembered. -/
theorem now_bind {f : DateTime → App β}
    (h : ∀ t, WhenAnswered (f t) (fun r times => Q r (t :: times)) w) :
    WhenAnswered (await .now >>= f) Q w := by
  refine wp_now_bind.mpr fun t => Prog.wp_mono (h t) fun r tr w' h' hok => ?_
  exact h' (allAnswered_cons.mp hok).2

theorem snackBar {kind : SnackBarKind} {title message : String}
    {Q : Except Exn Unit → List DateTime → World → Prop} (h : Q (.ok ()) [] w) :
    WhenAnswered (await (.snackBar kind title message)) Q w :=
  (Sync.snackBar kind title message).wp.mpr fun _ => h

/-- What a decoder throws ends the program. -/
theorem liftExcept_bind {x : Except Exn α} (hok : ∀ a, x = .ok a → WhenAnswered (f a) Q w)
    (herr : ∀ e, x = .error e → Q (.error e) [] w) : WhenAnswered (liftExcept x >>= f) Q w := by
  cases x with
  | ok a => exact hok a rfl
  | error e => exact fun _ => herr e rfl

/-- A document path is taken as it is, and any other path throws. -/
theorem doc_bind {path : String} {f : String → App β}
    (hok : IsDocumentPath path → WhenAnswered (f (documentId path)) Q w)
    (herr : ¬ IsDocumentPath path → Q (.error Exn.invalidPath) [] w) :
    WhenAnswered (doc path >>= f) Q w := by
  rw [doc]
  split
  case isTrue hpath => exact hok hpath
  case isFalse hpath => exact fun _ => herr hpath

/-- A name is read as it is stored, if there is one to ask for. -/
theorem getCategoryNameById_bind (hnames : NamesDecode w.db) {id : String} {f : String → App β}
    (h : IsDocumentPath id → WhenAnswered (f (nameOf w.db id)) Q w)
    (herr : ¬ IsDocumentPath id → ∀ e, Q (.error e) [] w) :
    WhenAnswered (LocationRepository.getCategoryNameById id >>= f) Q w := by
  refine bind (handle (doc_bind (fun hid => ?_) fun hid _ => herr hid _))
  have h := h hid
  refine wp_get_bind.mpr ⟨fun e hok => ?_, fun _ => ?_⟩
  · obtain ⟨v, hv⟩ := (allAnswered_cons.mp hok).1
    cases hv
  · cases hdoc : (w.db .locationCategories).lookup (documentId id) with
    | none =>
      rw [nameOf, hdoc] at h
      intro _
      exact h
    | some data =>
      obtain ⟨name, hname⟩ := hnames _ data hdoc
      dsimp only
      rw [hname]
      rw [nameOf_of_lookup hdoc hname] at h
      intro _
      exact h

end WhenAnswered

/-- The identities of a list of the controller. -/
def LocationControllerState.ids (s : LocationControllerState) (list : LocationList) : List Nat :=
  (s.lists list).map Prod.fst

namespace LocationControllerState

variable (s : LocationControllerState)

theorem ids_modifyLocation (k : Nat) (f : LocationModel → LocationModel) :
    (s.modifyLocation k f).ids = s.ids := by
  funext list
  rw [ids, modifyLocation, List.map_map]
  rfl

/-- Assigning twice to the same object. -/
theorem modifyLocation_modifyLocation (k : Nat) (f g : LocationModel → LocationModel) :
    (s.modifyLocation k f).modifyLocation k g = s.modifyLocation k (g ∘ f) := by
  simp only [modifyLocation, List.map_map]
  congr 1
  funext list
  refine List.map_congr_left fun location _ => ?_
  obtain ⟨k', l⟩ := location
  by_cases h : k' = k <;> simp [h]

/-- In a list without duplicates one location is modified. -/
theorem lists_modifyLocation_of_nodup {list : LocationList}
    {before after : List (Nat × LocationModel)}
    {k : Nat} {l : LocationModel} (h : s.lists list = before ++ (k, l) :: after)
    (hnodup : (s.ids list).Nodup) (f : LocationModel → LocationModel) :
    (s.modifyLocation k f).lists list = before ++ (k, f l) :: after := by
  rw [ids, h, List.map_append, List.map_cons, List.nodup_middle, List.nodup_cons] at hnodup
  have hother (xs : List (Nat × LocationModel)) (hxs : k ∉ xs.map Prod.fst) :
      xs.map (fun location => (location.1, if location.1 = k then f location.2 else location.2)) =
        xs := by
    conv_rhs => rw [← List.map_id xs]
    refine List.map_congr_left fun location hmem => ?_
    have hne : location.1 ≠ k := fun heq => hxs (heq ▸ List.mem_map_of_mem hmem)
    rw [if_neg hne]
    rfl
  have hbefore : k ∉ before.map Prod.fst := fun hmem => hnodup.1 (List.mem_append_left _ hmem)
  have hafter : k ∉ after.map Prod.fst := fun hmem => hnodup.1 (List.mem_append_right _ hmem)
  show (s.lists list).map (fun location =>
    (location.1, if location.1 = k then f location.2 else location.2)) = _
  rw [h, List.map_append, List.map_cons, hother before hbefore, hother after hafter, if_pos rfl]

theorem lists_modifyLocation_singleton {list : LocationList} {k : Nat} {l : LocationModel}
    (h : s.lists list = [(k, l)]) (f : LocationModel → LocationModel) :
    (s.modifyLocation k f).lists list = [(k, f l)] := by
  have hlist : s.lists list = [] ++ (k, l) :: [] := h
  exact s.lists_modifyLocation_of_nodup hlist (by simp [ids, h]) f

end LocationControllerState

section Loop

variable {w : World}

/-- The details of a location are set, unless a category or its schedule throws. -/
theorem whenAnswered_setLocationDetails (hnames : NamesDecode w.db) (k : Nat) (l : LocationModel) :
    WhenAnswered (setLocationDetails intl (k, l)) (fun r times w' => w'.db = w.db ∧ match r with
      | .ok _ => l.key.Named ∧ ∃ t₁ t₂ t₃ d, times = [t₁, t₂, t₃] ∧
        detailsAt intl w.db l t₁ t₂ t₃ = .ok d ∧
        w'.locationController = w.locationController.modifyLocation k (·.withDetails d)
      | .error _ => ¬ DetailsPass intl l times ∧
        w'.locationController.ids = w.locationController.ids) w := by
  refine .bind (.getCategoryNameById_bind hnames (fun hcategory =>
    .getCategoryNameById_bind hnames (fun hsubCategory => ?_) fun hsubCategory e => ?_)
    fun hcategory e => ?_)
  rotate_left
  · exact ⟨rfl, fun hpass => hsubCategory hpass.1.2, rfl⟩
  · exact ⟨rfl, fun hpass => hcategory hpass.1.1, rfl⟩
  intro _
  refine .now_bind fun t₁ => .liftExcept_bind (fun isOpen hisOpen => ?_) fun e he => ?_
  · refine WhenAnswered.modify_bind.mpr (.now_bind fun t₂ =>
      .liftExcept_bind (fun openTimes hopenTimes => ?_) fun e he => ?_)
    · refine WhenAnswered.modify_bind.mpr (.now_bind fun t₃ =>
        .liftExcept_bind (fun closeTimes hcloseTimes => ?_) fun e he => ?_)
      · intro _
        refine ⟨rfl, ⟨hcategory, hsubCategory⟩, t₁, t₂, t₃,
          ⟨nameOf w.db l.categoryId, nameOf w.db l.subCategoryId, isOpen,
          openTimes, closeTimes⟩, rfl, ?_, ?_⟩
        · exact detailsAt_eq_ok.mpr ⟨rfl, rfl, hisOpen, hopenTimes, hcloseTimes⟩
        · simp only [LocationControllerState.modifyLocation_modifyLocation]
          rfl
      · refine ⟨rfl, ?_, ?_⟩
        · simp [DetailsPass, he]
        · simp only [LocationControllerState.ids_modifyLocation]
    · refine ⟨rfl, ?_, ?_⟩
      · simp [DetailsPass, he]
      · simp only [LocationControllerState.ids_modifyLocation]
  · refine ⟨rfl, ?_, ?_⟩
    · simp [DetailsPass, he]
    · simp only [LocationControllerState.ids_modifyLocation]

/-- The loop sets the details of all that is left, unless the details of one throw. -/
theorem whenAnswered_forEachFrom (hnames : NamesDecode w.db) {list : LocationList}
    {before after : List (Nat × LocationModel)}
    (hlist : w.locationController.lists list = before ++ after)
    (hnodup : (w.locationController.ids list).Nodup) :
    WhenAnswered (forEachFrom list (setLocationDetails intl) (before.length + after.length)
        after.length) (fun r times w' => w'.db = w.db ∧
      w'.locationController.ids = w.locationController.ids ∧ match r with
      | .ok _ => ∃ after', w'.locationController.lists list = before ++ after' ∧
        Filled intl w.db after times after'
      | .error _ => ¬ AllDetailsPass intl (after.map Prod.snd) times) w := by
  have hlength : (w.locationController.lists list).length = before.length + after.length := by
    rw [hlist, List.length_append]
  induction after generalizing w before with
  | nil =>
    refine WhenAnswered.read_bind.mpr ?_
    rw [if_neg (not_not.mpr hlength)]
    intro _
    exact ⟨rfl, rfl, [], hlist, .nil⟩
  | cons location after ih =>
    obtain ⟨k, l⟩ := location
    have hget : (w.locationController.lists list)[before.length + (after.length + 1) -
        (after.length + 1)]? = some (k, l) := by
      rw [Nat.add_sub_cancel, hlist]
      simp
    refine WhenAnswered.read_bind.mpr ?_
    rw [if_neg (not_not.mpr hlength)]
    simp only [List.length_cons] at hget ⊢
    rw [hget]
    refine .bind (.mono (whenAnswered_setLocationDetails hnames k l) fun r times w₁ h => ?_)
    obtain ⟨hdb, h⟩ := h
    cases r with
    | error e =>
      refine ⟨hdb, h.2, fun hpass => h.1 hpass.1⟩
    | ok =>
      obtain ⟨hnamed, t₁, t₂, t₃, d, rfl, hd, hw₁⟩ := h
      have hids : w₁.locationController.ids = w.locationController.ids := by
        rw [hw₁, LocationControllerState.ids_modifyLocation]
      have hlist₁ :
          w₁.locationController.lists list = (before ++ [(k, l.withDetails d)]) ++ after := by
        rw [hw₁, w.locationController.lists_modifyLocation_of_nodup hlist hnodup, List.append_assoc]
        rfl
      have hnext := ih (w := w₁) (hdb ▸ hnames) hlist₁ (hids ▸ hnodup)
        (by rw [hlist₁, List.length_append])
      have hlen : before.length + (after.length + 1) =
          (before ++ [(k, l.withDetails d)]).length + after.length := by
        simp only [List.length_append, List.length_cons, List.length_nil]
        omega
      rw [hlen]
      refine .mono hnext fun r times w₂ h₂ => ?_
      obtain ⟨hdb₂, hids₂, h₂⟩ := h₂
      refine ⟨hdb₂.trans hdb, hids₂.trans hids, ?_⟩
      cases r with
      | error e =>
        intro hpass
        exact h₂ ((allDetailsPass_cons hnamed hd).mp hpass)
      | ok =>
        obtain ⟨after', hafter', hfilled⟩ := h₂
        rw [List.append_assoc] at hafter'
        rw [hdb] at hfilled
        exact ⟨_, hafter', .cons hnamed hd hfilled⟩

end Loop

end AroundMuseo
