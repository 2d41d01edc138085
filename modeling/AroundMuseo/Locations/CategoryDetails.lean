import AroundMuseo.Locations.Details

/-!
# The details of a category

The loop of a category stops at the first location whose details throw: those behind it
keep what was loaded, and the list is not added to the list of all locations.
-/

namespace AroundMuseo

open Async Firestore LocationController

namespace LocationControllerState

variable (s : LocationControllerState) (list : LocationList) (locations : List LocationModel)

/-- A list that is assigned has new locations. -/
theorem ids_assignNew : (s.assignNew list locations).ids list =
    List.range' s.nextLocation locations.length := by
  rw [ids, lists_assignNew, Function.update_self, List.map_map]
  exact List.zipIdx_map_snd _ _

theorem ids_assignNew_of_ne {list' : LocationList} (h : list' ≠ list) :
    (s.assignNew list locations).ids list' = s.ids list' := by
  rw [ids, lists_assignNew, Function.update_of_ne h, ids]

theorem snd_assignNew : ((s.assignNew list locations).lists list).map Prod.snd = locations := by
  rw [lists_assignNew, Function.update_self, List.map_map]
  exact List.zipIdx_map_fst _ _

/-- A list is added to all locations as it is. -/
theorem ids_addToAll : (s.addToAll list).ids .allLocations =
    s.ids .allLocations ++ s.ids list := by
  rw [ids, lists_addToAll, Function.update_self, List.map_append]
  rfl

end LocationControllerState

section Category

variable {intl : Intl} {w : World} {locations : List LocationModel}

/-- The documents of a query are decoded. -/
theorem whenAnswered_getLocationsByCategory_bind {op : LocationFetch}
    (hdecode : LocationRepository.decodeAll (categoryDocs w.db op) = .ok locations)
    {f : List LocationModel → App Unit} {Q : Except Exn Unit → List DateTime → World → Prop}
    (h : WhenAnswered (f locations) Q w) :
    WhenAnswered (LocationRepository.getLocationsByCategory op.categoryId >>= f) Q w := by
  refine .bind (.handle ?_)
  refine Prog.wp_invoke_bind.mpr ⟨fun _ e hok => ?_, fun v w' hv => ?_⟩
  · obtain ⟨v, hv⟩ := (allAnswered_cons.mp hok).1
    cases hv
  · obtain ⟨rfl, hw⟩ := Option.ite_none_right_eq_some.mp hv
    cases hw
    have hdone : liftExcept (LocationRepository.decodeAll (categoryDocs w.db op)) =
        (Prog.done (.ok locations) : App _) := by
      rw [hdecode]
      rfl
    show Prog.wp platform (liftExcept (LocationRepository.decodeAll (categoryDocs w.db op))) _ w
    rw [hdone]
    intro _
    exact h

/-- A fetch either fills in and adds everything, or some details throw and nothing is added. -/
theorem whenAnswered_fetch (op : LocationFetch) (hop : op ≠ .fetchDining)
    (hdecode : LocationRepository.decodeAll (categoryDocs w.db op) = .ok locations)
    (hnames : NamesDecode w.db) :
    WhenAnswered (op.body intl) (fun _ times w' =>
      w'.locationController.ids op.list =
        List.range' w.locationController.nextLocation locations.length ∧
      ((∃ xs, xs.map Prod.snd = locations ∧
          Filled intl w.db xs times (w'.locationController.lists op.list) ∧
          w'.locationController.ids .allLocations =
            w.locationController.ids .allLocations ++ w'.locationController.ids op.list) ∨
        ¬ AllDetailsPass intl locations times ∧
          w'.locationController.ids .allLocations = w.locationController.ids .allLocations)) w := by
  rw [op.body_eq, if_neg hop, fetchCategory, Prog.ensure]
  set s := w.locationController.assignNew op.list locations with hs
  have hids : s.ids op.list = List.range' w.locationController.nextLocation locations.length :=
    w.locationController.ids_assignNew op.list locations
  have hall : s.ids .allLocations = w.locationController.ids .allLocations :=
    w.locationController.ids_assignNew_of_ne op.list locations op.list_ne_allLocations.symm
  have hsnd : (s.lists op.list).map Prod.snd = locations :=
    w.locationController.snd_assignNew op.list locations
  have hnodup : (s.ids op.list).Nodup := by
    rw [hids]
    exact List.nodup_range'
  set w₁ : World := { w with locationController := { s with isLoading := true } } with hw₁
  have hloop := @whenAnswered_forEachFrom intl w₁ hnames op.list [] (s.lists op.list) rfl hnodup
  simp only [List.length_nil, Nat.zero_add, List.nil_append] at hloop
  refine .andThen (.handle (WhenAnswered.modify_bind.mpr ?_))
  refine whenAnswered_getLocationsByCategory_bind
    (w := { w with locationController := { w.locationController with isLoading := true } })
    hdecode ?_
  refine WhenAnswered.modify_bind.mpr (.bind (WhenAnswered.read_bind.mpr ?_))
  refine .mono hloop fun r times w₂ h => ?_
  obtain ⟨hdb, hids₂, h⟩ := h
  have hids' : w₂.locationController.ids op.list =
      List.range' w.locationController.nextLocation locations.length := by
    rw [hids₂]
    exact hids
  have hall' : w₂.locationController.ids .allLocations =
      w.locationController.ids .allLocations := by
    rw [hids₂]
    exact hall
  cases r with
  | ok =>
    obtain ⟨after, hafter, hfilled⟩ := h
    have hadded : (w₂.locationController.addToAll op.list).lists op.list =
        w₂.locationController.lists op.list := by
      rw [LocationControllerState.lists_addToAll, Function.update_of_ne op.list_ne_allLocations]
    have hids'' : (w₂.locationController.addToAll op.list).ids op.list =
        w₂.locationController.ids op.list := congrArg (List.map Prod.fst) hadded
    intro _ _
    rw [clock_nil, List.append_nil, List.append_nil]
    refine ⟨hids''.trans hids', .inl ⟨s.lists op.list, hsnd, ?_, ?_⟩⟩
    · show Filled intl w.db _ times ((w₂.locationController.addToAll op.list).lists op.list)
      rw [hadded, hafter]
      exact hfilled
    · show (w₂.locationController.addToAll op.list).ids .allLocations =
        _ ++ (w₂.locationController.addToAll op.list).ids op.list
      rw [w₂.locationController.ids_addToAll, hall', hids'']
  | error e =>
    rw [hsnd] at h
    refine WhenAnswered.snackBar fun _ => ?_
    simp only [clock_nil, List.append_nil]
    exact ⟨hids', .inr ⟨h, hall'⟩⟩

end Category

/-- The program may return `a`, with all its calls answered and the clock showing `times`. -/
def CanReturn {α : Type} (p : App α) (w : World) (times : List DateTime) (a : α) (w' : World) :
    Prop :=
  ∃ tr, p.Run platform w tr (.ok a) w' ∧ AllAnswered tr ∧ clock tr = times

namespace CanReturn

variable {α β : Type} {p : App α} {w w₁ w₂ : World} {times times' : List DateTime} {a : α}

theorem bind {f : α → App β} {b : β} (hp : CanReturn p w times a w₁)
    (hf : CanReturn (f a) w₁ times' b w₂) : CanReturn (p >>= f) w (times ++ times') b w₂ := by
  obtain ⟨tr, hrun, hok, rfl⟩ := hp
  obtain ⟨tr', hrun', hok', rfl⟩ := hf
  exact ⟨tr ++ tr', hrun.bind hrun', allAnswered_append.mpr ⟨hok, hok'⟩, clock_append tr tr'⟩

theorem handle {h : Exn → App α} (hp : CanReturn p w times a w₁) :
    CanReturn (tryCatch p h) w times a w₁ := by
  obtain ⟨tr, hrun, hok, htimes⟩ := hp
  exact ⟨tr, hrun.handle_ok, hok, htimes⟩

theorem ensure {q : App Unit} (hp : CanReturn p w times a w₁) (hq : CanReturn q w₁ times' () w₂) :
    CanReturn (p.ensure q) w (times ++ times') a w₂ := by
  obtain ⟨tr, hrun, hok, rfl⟩ := hp
  obtain ⟨tr', hrun', hok', rfl⟩ := hq
  exact ⟨tr ++ tr', hrun.ensure hrun', allAnswered_append.mpr ⟨hok, hok'⟩, clock_append tr tr'⟩

theorem pure (a : α) : CanReturn (pure a : App α) w [] a w :=
  ⟨[], ⟨rfl, rfl, rfl⟩, allAnswered_nil, rfl⟩

theorem read (g : World → α) : CanReturn (Prog.read g) w [] (g w) w :=
  ⟨[], Prog.run_read g, allAnswered_nil, rfl⟩

theorem modify (u : World → World) : CanReturn (Prog.modify u) w [] () (u w) :=
  ⟨[], Prog.run_modify u, allAnswered_nil, rfl⟩

theorem liftExcept {x : Except Exn α} (hx : x = .ok a) : CanReturn (liftExcept x) w [] a w := by
  subst hx
  exact .pure a

theorem now (t : DateTime) : CanReturn (await .now) w [t] t w :=
  ⟨_, Prog.run_invoke rfl, allAnswered_cons.mpr ⟨⟨t, rfl⟩, allAnswered_nil⟩, rfl⟩

/-- Any other call. -/
theorem invoke {c : Call} {v : Reply c} (h : platform.effect c w v = some w₁)
    (hclock : clock [⟨w, c, .ok v⟩] = []) : CanReturn (await c) w [] v w₁ :=
  ⟨_, Prog.run_invoke h, allAnswered_cons.mpr ⟨⟨v, rfl⟩, allAnswered_nil⟩, hclock⟩

/-- The reference of a document path. -/
theorem doc {path : String} (h : IsDocumentPath path) :
    CanReturn (doc path) w [] (documentId path) w := by
  rw [AroundMuseo.doc, if_pos h]
  exact .pure _

theorem getCategoryNameById (hnames : NamesDecode w.db) {id : String} (hid : IsDocumentPath id) :
    CanReturn (LocationRepository.getCategoryNameById id) w [] (nameOf w.db id) w := by
  refine handle (bind (doc hid) ?_)
  have hget : CanReturn (await (.get .locationCategories (documentId id))) w []
      ((w.db .locationCategories).lookup (documentId id)) w :=
    invoke (if_pos ⟨documentId_ne_empty hid, rfl⟩) rfl
  refine bind hget ?_
  cases hdoc : (w.db .locationCategories).lookup (documentId id) with
  | none =>
    rw [nameOf, hdoc]
    exact .pure ""
  | some data =>
    obtain ⟨name, hname⟩ := hnames _ data hdoc
    rw [nameOf_of_lookup hdoc hname]
    exact .liftExcept hname

theorem setLocationDetails {intl : Intl} (hnames : NamesDecode w.db) {k : Nat} {l : LocationModel}
    (hnamed : l.key.Named) {t₁ t₂ t₃ : DateTime} {d : Details}
    (hd : detailsAt intl w.db l t₁ t₂ t₃ = .ok d) :
    CanReturn (setLocationDetails intl (k, l)) w [t₁, t₂, t₃] ()
      { w with
        locationController := w.locationController.modifyLocation k (·.withDetails d) } := by
  obtain ⟨hcategory, hsubCategory, hisOpen, hopenTimes, hcloseTimes⟩ := detailsAt_eq_ok.mp hd
  obtain ⟨hcategoryId, hsubCategoryId⟩ : IsDocumentPath l.categoryId ∧
    IsDocumentPath l.subCategoryId := hnamed
  have hnamesSet : CanReturn (setLocationCategory (k, l)) w [] () _ :=
    bind (getCategoryNameById hnames hcategoryId) (bind (getCategoryNameById hnames hsubCategoryId)
      (bind (modify _) (modify _)))
  have hrun : CanReturn (LocationController.setLocationDetails intl (k, l)) w [t₁, t₂, t₃] () _ :=
    bind hnamesSet (bind (now t₁) (bind (liftExcept hisOpen) (bind (modify _)
      (bind (now t₂) (bind (liftExcept hopenTimes) (bind (modify _)
        (bind (now t₃) (bind (liftExcept hcloseTimes) (modify _)))))))))
  simp only [LocationControllerState.modifyLocation_modifyLocation, ← hcategory, ← hsubCategory]
    at hrun
  exact hrun

/-- A loop over one element. -/
theorem forEach {list : LocationList} {action : Nat × LocationModel → App Unit}
    {x : Nat × LocationModel} (hlist : w.locationController.lists list = [x])
    (haction : CanReturn (action x) w times () w₁)
    (hlist' : (w₁.locationController.lists list).length = 1) :
    CanReturn (forEach list action) w times () w₁ := by
  have hend : CanReturn (forEachFrom list action 1 0) w₁ [] () w₁ := by
    refine bind (read _) ?_
    rw [if_neg (not_not.mpr hlist')]
    exact .pure ()
  have hstart : CanReturn (forEachFrom list action 1 1) w ([] ++ (times ++ [])) () w₁ := by
    refine bind (read _) ?_
    rw [hlist]
    exact bind haction hend
  rw [List.nil_append, List.append_nil] at hstart
  show CanReturn _ w ([] ++ times) () w₁
  refine bind (read _) ?_
  rw [hlist]
  exact hstart

end CanReturn

/-- The program may throw `e` before it looks at the clock, with all its calls answered. -/
def CanThrow {α : Type} (p : App α) (w : World) (e : Exn) (w' : World) : Prop :=
  ∃ tr, p.Run platform w tr (.error e) w' ∧ AllAnswered tr ∧ clock tr = []

namespace CanThrow

variable {α β : Type} {p : App α} {w w₁ w₂ : World} {e e' : Exn}

theorem bind {f : α → App β} (hp : CanThrow p w e w₁) : CanThrow (p >>= f) w e w₁ := by
  obtain ⟨tr, hrun, hok, htimes⟩ := hp
  exact ⟨tr, hrun.bind_error, hok, htimes⟩

/-- What comes after `p` throws. -/
theorem bind_of_returns {f : α → App β} {a : α} (hp : CanReturn p w [] a w₁)
    (hf : CanThrow (f a) w₁ e w₂) : CanThrow (p >>= f) w e w₂ := by
  obtain ⟨tr, hrun, hok, htimes⟩ := hp
  obtain ⟨tr', hrun', hok', htimes'⟩ := hf
  refine ⟨tr ++ tr', hrun.bind hrun', allAnswered_append.mpr ⟨hok, hok'⟩, ?_⟩
  rw [clock_append, htimes, htimes', List.append_nil]

/-- An exception that gets its text is thrown. -/
theorem rethrow {h : Exn → App α} (hp : CanThrow p w e w₁) (hh : h e = throw e') :
    CanThrow (tryCatch p h) w e' w₁ := by
  obtain ⟨tr, hrun, hok, htimes⟩ := hp
  have hthrow : (h e).Run platform w₁ [] (.error e') w₁ := by
    rw [hh]
    exact ⟨rfl, rfl, rfl⟩
  refine ⟨tr ++ [], hrun.handle_error hthrow, allAnswered_append.mpr ⟨hok, allAnswered_nil⟩, ?_⟩
  rw [List.append_nil, htimes]

/-- What is thrown is caught. -/
theorem handle {h : Exn → App α} {a : α} (hp : CanThrow p w e w₁)
    (hh : CanReturn (h e) w₁ [] a w₂) : CanReturn (tryCatch p h) w [] a w₂ := by
  obtain ⟨tr, hrun, hok, htimes⟩ := hp
  obtain ⟨tr', hrun', hok', htimes'⟩ := hh
  refine ⟨tr ++ tr', hrun.handle_error hrun', allAnswered_append.mpr ⟨hok, hok'⟩, ?_⟩
  rw [clock_append, htimes, htimes', List.append_nil]

theorem getCategoryNameById {id : String} (hid : ¬ IsDocumentPath id) :
    ∃ e, CanThrow (LocationRepository.getCategoryNameById id) w e w := by
  have hdoc : CanThrow (doc id) w Exn.invalidPath w := by
    rw [doc, if_neg hid]
    exact ⟨[], ⟨rfl, rfl, rfl⟩, allAnswered_nil, rfl⟩
  exact ⟨_, rethrow (bind hdoc) rfl⟩

/-- A location with a category that cannot be asked for gets no details. -/
theorem setLocationDetails {intl : Intl} (hnames : NamesDecode w.db) {k : Nat} {l : LocationModel}
    (hnamed : ¬ l.key.Named) : ∃ e, CanThrow (setLocationDetails intl (k, l)) w e w := by
  by_cases hcategory : IsDocumentPath l.categoryId
  · have hsubCategory : ¬ IsDocumentPath l.subCategoryId := fun h => hnamed ⟨hcategory, h⟩
    obtain ⟨e, he⟩ := getCategoryNameById (w := w) hsubCategory
    exact ⟨e, bind (bind_of_returns (.getCategoryNameById hnames hcategory) (bind he))⟩
  · obtain ⟨e, he⟩ := getCategoryNameById (w := w) hcategory
    exact ⟨e, bind (bind he)⟩

end CanThrow

/-- A category with one location is loaded, with the details of three instants. -/
theorem canReturn_fetch {intl : Intl} {w : World} {op : LocationFetch} {l : LocationModel}
    (hdecode : LocationRepository.decodeAll (categoryDocs w.db op) = .ok [l])
    (hnames : NamesDecode w.db) (hnamed : l.key.Named) {t₁ t₂ t₃ : DateTime} {d : Details}
    (hd : detailsAt intl w.db l t₁ t₂ t₃ = .ok d) :
    ∃ w', CanReturn (op.body intl) w [t₁, t₂, t₃] () w' ∧
      ∃ k, w'.locationController.lists op.list = [(k, l.withDetails d)] := by
  set k := w.locationController.nextLocation
  set w₁ : World := { w with locationController :=
    { w.locationController.assignNew op.list [l] with isLoading := true } } with hw₁
  have hlist : w₁.locationController.lists op.list = [(k, l)] := by
    rw [hw₁]
    exact Function.update_self ..
  have hlist' : (w₁.locationController.modifyLocation k (·.withDetails d)).lists op.list =
      [(k, l.withDetails d)] :=
    w₁.locationController.lists_modifyLocation_singleton hlist _
  set w₀ : World :=
    { w with locationController := { w.locationController with isLoading := true } }
  have hquery : CanReturn (await (.whereEq .locations "CategoryId" (Scalar.string op.categoryId)))
      w₀ [] (categoryDocs w.db op) w₀ := .invoke (if_pos rfl) rfl
  have hdocs : CanReturn (LocationRepository.getLocationsByCategory op.categoryId) w₀ [] [l] w₀ :=
    .handle (.bind hquery (.liftExcept hdecode))
  have hloop : CanReturn (setLocationsDetails intl op.list) w₁ [t₁, t₂, t₃] ()
      { w₁ with locationController :=
          w₁.locationController.modifyLocation k (·.withDetails d) } := by
    refine .forEach hlist (.setLocationDetails (w := w₁) hnames hnamed hd) ?_
    rw [hlist', List.length_singleton]
  have hbody (last : App Unit) (w₂ : World)
      (hlast : CanReturn last { w₁ with
        locationController := w₁.locationController.modifyLocation k (·.withDetails d) } [] () w₂) :
      CanReturn (fetchCategory intl op.list op.categoryId last) w [t₁, t₂, t₃] ()
        { w₂ with locationController := { w₂.locationController with isLoading := false } } := by
    have hloading : CanReturn (setIsLoading true) w [] () w₀ := .modify _
    have hassign : CanReturn (modifyState (·.assignNew op.list [l])) w₀ [] () w₁ := .modify _
    have hdone : CanReturn (setIsLoading false) w₂ [] () _ := .modify _
    show CanReturn _ w (([] ++ ([] ++ ([] ++ ([t₁, t₂, t₃] ++ [])))) ++ []) () _
    refine .ensure (.handle ?_) hdone
    refine .bind hloading (.bind hdocs ?_)
    exact .bind hassign (.bind hloop hlast)
  rw [op.body_eq]
  by_cases hop : op = .fetchDining
  · rw [if_pos hop]
    exact ⟨_, hbody _ _ (.pure ()), k, hlist'⟩
  · rw [if_neg hop]
    refine ⟨_, hbody _ _ (.modify _), k, ?_⟩
    exact (Function.update_of_ne op.list_ne_allLocations _ _).trans hlist'

end AroundMuseo
