import AroundMuseo.Locations.Catalogue
import AroundMuseo.Locations.FeaturedDetails

/-!
# One bad schedule

A fetch should give a location with a well-formed schedule the details that it would get if
there were no other location. The featured locations always get them. A category does if and
only if the categories of all its locations can be asked for and none of their schedules
throws when it is looked at: the others lose their details, or at least their place in the
list of all locations.
-/

namespace AroundMuseo

open Async Firestore LocationController

/-- The fetches that fill in details: the featured locations, and the categories that are
added to the list of all locations. -/
inductive DetailFetch where
  | fetchFeaturedLocations
  | fetchCategory (op : LocationFetch) (hop : op ≠ .fetchDining)

namespace DetailFetch

/-- The list that the fetch fills. -/
def list : DetailFetch → LocationList
  | fetchFeaturedLocations => .featuredLocations
  | fetchCategory op _ => op.list

/-- The documents that the repository finds. -/
def docs (db : CollectionName → Collection) : DetailFetch → List (String × Doc)
  | fetchFeaturedLocations => ((db .locations).whereEq "IsFeatured" (Scalar.bool true)).take 5
  | fetchCategory op _ => categoryDocs db op

/-- The runs of the fetch. -/
def Runs (intl : Intl) (w : World) (tr : List Event) (w' : World) : DetailFetch → Prop
  | fetchFeaturedLocations => FetchFeaturedLocations intl w tr w'
  | fetchCategory op _ => ∃ r, (op.body intl).Run platform w tr r w'

/-- The locations have been added to the list of all locations, for a category. -/
def Added (w w' : World) : DetailFetch → Prop
  | fetchFeaturedLocations => True
  | fetchCategory op _ => w'.locationController.ids .allLocations =
      w.locationController.ids .allLocations ++ w'.locationController.ids op.list

/-- For a category, the details of no location throw when the clock shows what it does. -/
def DetailsPass (intl : Intl) (locations : List LocationModel) (times : List DateTime) :
    DetailFetch → Prop
  | fetchFeaturedLocations => True
  | fetchCategory _ _ => AllDetailsPass intl locations times

end DetailFetch

/-- The state with a single location stored. -/
def World.only (w : World) (d : String × Doc) : World :=
  w.setDb .locations ((∅ : Collection).set d.1 d.2)

variable (intl : Intl)

/-- The same fetch with the location alone sets these details, the clock showing only what
it showed. -/
def DetailFetch.SetsAlone (f : DetailFetch) (w : World) (times : List DateTime)
    (d : String × Doc) (details : Details) : Prop :=
  ∃ tr w' k l, f.Runs intl (w.only d) tr w' ∧ AllAnswered tr ∧ clock tr ⊆ times ∧
    w'.locationController.lists f.list = [(k, l)] ∧ l.details = details

/-- Every location with a well-formed schedule has the details that it gets alone. -/
def DetailFetch.Isolates (f : DetailFetch) (w : World) (tr : List Event) (w' : World) : Prop :=
  ∀ (i : Nat) (d : String × Doc) (l : LocationModel), (f.docs w.db)[i]? = some d →
    LocationModel.fromSnapshot d.1 d.2 = .ok l → WellFormed intl l.operatingHours →
    ∃ (k : Nat) (l' : LocationModel), (w'.locationController.lists f.list)[i]? = some (k, l') ∧
      f.SetsAlone intl w (clock tr) d l'.details

variable {intl} {w w' : World} {tr : List Event} {locations : List LocationModel}

section Only

variable {d : String × Doc}

theorem namesDecode_only (h : NamesDecode w.db) : NamesDecode (w.only d).db := by
  have hdb : (w.only d).db .locationCategories = w.db .locationCategories :=
    w.setDb_db_of_ne _ (by decide)
  rw [NamesDecode, hdb]
  exact h

theorem detailsAt_only {l : LocationModel} {t₁ t₂ t₃ : DateTime} :
    detailsAt intl (w.only d).db l t₁ t₂ t₃ = detailsAt intl w.db l t₁ t₂ t₃ := by
  have hdb : (w.only d).db .locationCategories = w.db .locationCategories :=
    w.setDb_db_of_ne _ (by decide)
  rw [detailsAt, detailsAt, nameOf, nameOf, nameOf, nameOf, hdb]

/-- A document that is found is found alone. -/
theorem DetailFetch.docs_only (f : DetailFetch) (h : d ∈ f.docs w.db) :
    f.docs (w.only d).db = [d] := by
  have hdb : (w.only d).db .locations = (∅ : Collection).set d.1 d.2 := w.setDb_db_self ..
  cases f with
  | fetchFeaturedLocations =>
    have hfield := (Collection.mem_whereEq.mp (List.mem_of_mem_take h)).2
    rw [docs, hdb, Collection.whereEq_set_empty hfield]
    rfl
  | fetchCategory op hop =>
    rw [docs, categoryDocs, hdb, Collection.whereEq_set_empty (Collection.mem_whereEq.mp h).2]

theorem decodeAll_docs_only {f : DetailFetch} (h : d ∈ f.docs w.db) {l : LocationModel}
    (hl : LocationModel.fromSnapshot d.1 d.2 = .ok l) :
    LocationRepository.decodeAll (f.docs (w.only d).db) = .ok [l] := by
  rw [f.docs_only h]
  exact LocationRepository.decodeAll_cons.mpr ⟨l, [], hl, rfl, rfl⟩

end Only

section Featured

/-- The featured locations are loaded. -/
theorem whenAnswered_loadFeaturedLocations
    (hdecode : LocationRepository.decodeAll (DetailFetch.fetchFeaturedLocations.docs w.db) =
      .ok locations) :
    WhenAnswered loadFeaturedLocations (fun r times w' => r = .ok () ∧ times = [] ∧ w'.db = w.db ∧
      w'.locationController.lists =
        (w.locationController.assignNew .featuredLocations locations).lists) w := by
  refine WhenAnswered.modify_bind.mpr (.bind (.handle ?_))
  refine Prog.wp_invoke_bind.mpr ⟨fun _ e hok => ?_, fun v w' hv => ?_⟩
  · obtain ⟨v, hv⟩ := (allAnswered_cons.mp hok).1
    cases hv
  · obtain ⟨rfl, hw⟩ := Option.ite_none_right_eq_some.mp hv
    cases hw
    have hdone : liftExcept (LocationRepository.decodeAll
        (((w.db .locations).whereEq "IsFeatured" (Scalar.bool true)).take 5)) =
        (Prog.done (.ok locations) : App _) := by
      rw [DetailFetch.docs] at hdecode
      rw [hdecode]
      rfl
    show Prog.wp platform (liftExcept (LocationRepository.decodeAll
      (((w.db .locations).whereEq "IsFeatured" (Scalar.bool true)).take 5))) _ _
    rw [hdone]
    intro _ _
    exact ⟨rfl, rfl, rfl, rfl⟩

theorem whenAnswered_endFeaturedLocations (error : Option Exn) :
    WhenAnswered (endFeaturedLocations error) (fun _ times w' => times = [] ∧
      w'.locationController.lists = w.locationController.lists) w := by
  refine .andThen ?_
  cases error with
  | none =>
    intro _ _
    exact ⟨rfl, rfl⟩
  | some e =>
    refine .snackBar fun _ => ?_
    exact ⟨rfl, rfl⟩

theorem canReturn_endFeaturedLocations (error : Option Exn) (w : World) :
    CanReturn (endFeaturedLocations error) w [] () { w with
      locationController := { w.locationController with isLoading := false } } := by
  cases error with
  | none =>
    have hreport : CanReturn (pure ()) w [] () w := .pure ()
    exact .ensure hreport (.modify _)
  | some e =>
    have hreport : CanReturn (await (.snackBar .error "Oh Snap!" e.toText)) w [] () w :=
      .invoke rfl rfl
    exact .ensure hreport (.modify _)

/-- With one featured location the fetch may end as the future of that location may. -/
theorem exists_fetchFeaturedLocations {l l' : LocationModel} {times : List DateTime}
    (hdecode : LocationRepository.decodeAll (DetailFetch.fetchFeaturedLocations.docs w.db) =
      .ok [l])
    (hfuture : ∀ k w₁, w₁.db = w.db → w₁.locationController.lists .featuredLocations = [(k, l)] →
      ∃ w₂, CanReturn (featuredLocationDetails intl (k, l)) w₁ times () w₂ ∧
        w₂.locationController.lists .featuredLocations = [(k, l')]) :
    ∃ tr w' k, FetchFeaturedLocations intl w tr w' ∧ AllAnswered tr ∧ clock tr = times ∧
      w'.locationController.lists .featuredLocations = [(k, l')] := by
  set k := w.locationController.nextLocation
  set w₀ : World :=
    { w with locationController := { w.locationController with isLoading := true } }
  set w₁ : World := { w with locationController :=
    { w.locationController.assignNew .featuredLocations [l] with
      isLoading := true
      featuredError := none } } with hw₁
  have hlist : w₁.locationController.lists .featuredLocations = [(k, l)] := by
    show (w.locationController.assignNew .featuredLocations [l]).lists .featuredLocations = _
    rw [LocationControllerState.lists_assignNew, Function.update_self]
    rfl
  have hload : CanReturn loadFeaturedLocations w [] () w₁ := by
    have hquery : CanReturn (await (.whereEqLimit .locations "IsFeatured" (Scalar.bool true) 5))
        w₀ [] (((w.db .locations).whereEq "IsFeatured" (Scalar.bool true)).take 5) w₀ :=
      .invoke (if_pos rfl) rfl
    have hdocs : CanReturn LocationRepository.getFeaturedLocations w₀ [] [l] w₀ :=
      .handle (.bind hquery (.liftExcept hdecode))
    exact .bind (.modify _) (.bind hdocs (.bind (.modify _) (.modify _)))
  obtain ⟨w₂, hfuture, hlist₂⟩ := hfuture k w₁ rfl hlist
  have hend := canReturn_endFeaturedLocations w₂.locationController.featuredError w₂
  obtain ⟨tr, hrun, hok, htimes⟩ := hload
  obtain ⟨tr', hrun', hok', htimes'⟩ := hfuture
  obtain ⟨tr'', hrun'', hok'', htimes''⟩ := hend
  obtain ⟨ms, hwait, rfl⟩ := Prog.Run.pool hrun'
  have hcompleted :
      Pool.Quiescent (⟨w₂, [((k, l), .finished)]⟩ : AppPool (Nat × LocationModel)) := by
    intro x hx
    rw [List.mem_singleton.mp hx]
    rfl
  refine ⟨_, _, k, .loaded hrun hwait hlist.symm hcompleted hrun'', ?_, ?_, ?_⟩
  · exact allAnswered_append.mpr ⟨allAnswered_append.mpr ⟨hok, hok'⟩, hok''⟩
  · rw [clock_append, clock_append, htimes, htimes', htimes'', List.nil_append, List.append_nil]
  · exact hlist₂

/-- The only featured location may get the details of three instants. -/
theorem setsAlone_featured {d : String × Doc} {l : LocationModel} {times : List DateTime}
    (hd : d ∈ DetailFetch.fetchFeaturedLocations.docs w.db)
    (hl : LocationModel.fromSnapshot d.1 d.2 = .ok l) (hnames : NamesDecode w.db)
    (hnamed : l.key.Named) {t₁ t₂ t₃ : DateTime} {details : Details}
    (hdetails : detailsAt intl w.db l t₁ t₂ t₃ = .ok details) (htimes : [t₁, t₂, t₃] ⊆ times) :
    DetailFetch.fetchFeaturedLocations.SetsAlone intl w times d details := by
  have hfuture (k : Nat) (w₁ : World) (hdb : w₁.db = (w.only d).db)
      (hlist : w₁.locationController.lists .featuredLocations = [(k, l)]) :
      ∃ w₂, CanReturn (featuredLocationDetails intl (k, l)) w₁ [t₁, t₂, t₃] () w₂ ∧
        w₂.locationController.lists .featuredLocations = [(k, l.withDetails details)] := by
    have hnames₁ : NamesDecode w₁.db := hdb ▸ namesDecode_only hnames
    have hdetails₁ : detailsAt intl w₁.db l t₁ t₂ t₃ = .ok details := by
      rw [hdb]
      exact detailsAt_only.trans hdetails
    exact ⟨_, .handle (.setLocationDetails hnames₁ hnamed hdetails₁),
      w₁.locationController.lists_modifyLocation_singleton hlist (·.withDetails details)⟩
  obtain ⟨tr, w', k, hfetch, hok, hclock, hone⟩ :=
    exists_fetchFeaturedLocations (decodeAll_docs_only hd hl) hfuture
  exact ⟨tr, w', k, _, hfetch, hok, hclock ▸ htimes, hone, rfl⟩

/-- The only featured location stays as it was loaded if a category of it cannot be asked for. -/
theorem setsAlone_unnamed {d : String × Doc} {l : LocationModel} (times : List DateTime)
    (hd : d ∈ DetailFetch.fetchFeaturedLocations.docs w.db)
    (hl : LocationModel.fromSnapshot d.1 d.2 = .ok l) (hnames : NamesDecode w.db)
    (hnamed : ¬ l.key.Named) :
    DetailFetch.fetchFeaturedLocations.SetsAlone intl w times d l.details := by
  have hfuture (k : Nat) (w₁ : World) (hdb : w₁.db = (w.only d).db)
      (hlist : w₁.locationController.lists .featuredLocations = [(k, l)]) :
      ∃ w₂, CanReturn (featuredLocationDetails intl (k, l)) w₁ [] () w₂ ∧
        w₂.locationController.lists .featuredLocations = [(k, l)] := by
    have hnames₁ : NamesDecode w₁.db := hdb ▸ namesDecode_only hnames
    have hthrow : ∃ e, CanThrow (setLocationDetails intl (k, l)) w₁ e w₁ :=
      CanThrow.setLocationDetails hnames₁ hnamed
    obtain ⟨e, he⟩ := hthrow
    exact ⟨_, he.handle (.modify _), hlist⟩
  obtain ⟨tr, w', k, hfetch, hok, hclock, hone⟩ :=
    exists_fetchFeaturedLocations (decodeAll_docs_only hd hl) hfuture
  refine ⟨tr, w', k, l, hfetch, hok, ?_, hone, rfl⟩
  rw [hclock]
  exact List.nil_subset times

theorem isolates_fetchFeaturedLocations
    (hrun : FetchFeaturedLocations intl w tr w') (hok : AllAnswered tr)
    (hdecode : LocationRepository.decodeAll (DetailFetch.fetchFeaturedLocations.docs w.db) =
      .ok locations) (hnames : NamesDecode w.db) :
    DetailFetch.fetchFeaturedLocations.Isolates intl w tr w' := by
  cases hrun with
  | @notLoaded w₁ w₂ tr tr' e r hload hend =>
    have hanswered := (allAnswered_append.mp hok).1
    have h := Prog.wp_iff_run.mp (whenAnswered_loadFeaturedLocations hdecode) _ _ _ hload hanswered
    cases h.1
  | @loaded w₁ w₂ tr tr' r ms c hload hwait hstarted hcompleted hend =>
    obtain ⟨hok₁, hokEnd⟩ := allAnswered_append.mp hok
    obtain ⟨hokLoad, hokWait⟩ := allAnswered_append.mp hok₁
    obtain ⟨-, -, hdb, hlists⟩ :=
      Prog.wp_iff_run.mp (whenAnswered_loadFeaturedLocations hdecode) _ _ _ hload hokLoad
    obtain ⟨-, hlistsEnd⟩ :=
      Prog.wp_iff_run.mp (whenAnswered_endFeaturedLocations _) _ _ _ hend hokEnd
    have hlist := congrFun hlists .featuredLocations
    have hnodup : (w₁.locationController.ids .featuredLocations).Nodup := by
      rw [LocationControllerState.ids, hlist]
      have hids := w.locationController.ids_assignNew .featuredLocations locations
      rw [LocationControllerState.ids] at hids
      rw [hids]
      exact List.nodup_range'
    obtain ⟨hloaded, hdetails⟩ :=
      hasDetails_of_wait hwait hokWait hstarted hcompleted hnodup (hdb ▸ hnames)
    intro i d l hi hl hwf
    have hmemd := List.mem_of_getElem? hi
    have hget : (w₁.locationController.lists .featuredLocations)[i]? =
        some (w.locationController.nextLocation + i, l) := by
      rw [hlist, LocationControllerState.lists_assignNew, Function.update_self]
      simp [LocationRepository.decodeAll_getElem? hdecode hi hl]
    set k := w.locationController.nextLocation + i
    -- The object at the position is that of the location.
    have hat {l' : LocationModel}
        (hmem : (k, l') ∈ c.state.locationController.lists .featuredLocations) :
        (w'.locationController.lists .featuredLocations)[i]? = some (k, l') := by
      obtain ⟨hlt, hbase⟩ := List.getElem?_eq_some_iff.mp hget
      have hlt' : i < (c.state.locationController.lists .featuredLocations).length :=
        hloaded.objects.length_eq ▸ hlt
      obtain ⟨hfst, -⟩ := List.Forall₂.get hloaded.objects hlt hlt'
      have hids : (c.state.locationController.ids .featuredLocations).Nodup := by
        rw [hloaded.ids_eq]
        exact hnodup
      rw [hlistsEnd, ← List.inj_on_of_nodup_map hids (List.getElem_mem hlt') hmem
        (hfst.trans (by rw [List.get_eq_getElem, hbase])), List.getElem?_eq_getElem]
    by_cases hnamed : l.key.Named
    · obtain ⟨t₁, t₂, t₃, dt, h₁, h₂, h₃, hdt, hmem⟩ :=
        hdetails (k, l) (List.mem_of_getElem? hget) ⟨hnamed, hwf⟩
      rw [hdb] at hdt
      refine ⟨k, l.withDetails dt, hat hmem, setsAlone_featured hmemd hl hnames hnamed hdt ?_⟩
      rw [clock_append, clock_append]
      intro t ht
      simp only [List.mem_cons, List.not_mem_nil, or_false] at ht
      rcases ht with rfl | rfl | rfl <;> simp [*]
    · have hmem := hloaded.unnamed (k, l) (List.mem_of_getElem? hget) hnamed
      exact ⟨k, l, hat hmem, setsAlone_unnamed _ hmemd hl hnames hnamed⟩

end Featured

/-- A category isolates its locations, and adds them, if and only if no details throw. -/
theorem isolates_fetchCategory_iff {op : LocationFetch} (hop : op ≠ .fetchDining)
    {r : Except Exn Unit} (hrun : (op.body intl).Run platform w tr r w') (hok : AllAnswered tr)
    (hdecode : LocationRepository.decodeAll (categoryDocs w.db op) = .ok locations)
    (hnames : NamesDecode w.db) :
    (DetailFetch.fetchCategory op hop).Isolates intl w tr w' ∧
      (DetailFetch.fetchCategory op hop).Added w w' ↔ AllDetailsPass intl locations (clock tr) := by
  obtain ⟨hids, h⟩ :=
    Prog.wp_iff_run.mp (whenAnswered_fetch op hop hdecode hnames) _ _ _ hrun hok
  rcases h with ⟨xs, hxs, hfilled, hadded⟩ | ⟨hthrows, hall⟩
  · refine iff_of_true ⟨fun i d l hi hl hwf => ?_, hadded⟩ (hxs ▸ hfilled.allDetailsPass)
    have hget : (xs.map Prod.snd)[i]? = some l := by
      rw [hxs]
      exact LocationRepository.decodeAll_getElem? hdecode hi hl
    rw [List.getElem?_map, Option.map_eq_some_iff] at hget
    obtain ⟨⟨k, l'⟩, hget, rfl⟩ := hget
    obtain ⟨hnamed, t₁, t₂, t₃, dt, h₁, h₂, h₃, hdt, hat⟩ := hfilled.get hget
    refine ⟨k, l'.withDetails dt, hat, ?_⟩
    have hdocs := decodeAll_docs_only (f := .fetchCategory op hop) (List.mem_of_getElem? hi) hl
    obtain ⟨w₁, ⟨tr₁, hrun₁, hok₁, hclock⟩, k', hone⟩ := canReturn_fetch
      hdocs (namesDecode_only hnames) hnamed (detailsAt_only.trans hdt)
    refine ⟨tr₁, w₁, k', _, ⟨_, hrun₁⟩, hok₁, ?_, hone, rfl⟩
    rw [hclock]
    intro t ht
    simp only [List.mem_cons, List.not_mem_nil, or_false] at ht
    rcases ht with rfl | rfl | rfl <;> assumption
  · -- Some details throw, so there is a location, and it is not added.
    refine iff_of_false (fun h => ?_) hthrows
    have hadded := h.2
    rw [DetailFetch.Added, hall, hids] at hadded
    have hlength := congrArg List.length hadded
    rw [List.length_append, List.length_range'] at hlength
    have hnil : locations = [] := List.eq_nil_of_length_eq_zero (by omega)
    rw [hnil] at hthrows
    exact hthrows trivial

/-- After a fetch with all its reads answered, the locations with well-formed schedules have
the details that they get alone, and the list is added, if and only if no details throw;
those of featured locations may. -/
theorem detailFetch_isolates_iff (f : DetailFetch) (hrun : f.Runs intl w tr w')
    (hok : AllAnswered tr) (hdecode : LocationRepository.decodeAll (f.docs w.db) = .ok locations)
    (hnames : NamesDecode w.db) :
    f.Isolates intl w tr w' ∧ f.Added w w' ↔ f.DetailsPass intl locations (clock tr) := by
  cases f with
  | fetchFeaturedLocations =>
    have hisolates := isolates_fetchFeaturedLocations hrun hok hdecode hnames
    exact iff_of_true ⟨hisolates, trivial⟩ trivial
  | fetchCategory op hop =>
    obtain ⟨r, hrun⟩ := hrun
    exact isolates_fetchCategory_iff hop hrun hok hdecode hnames

/-- A single place to visit is fetched with its details, and added. -/
theorem detailFetch_isolates_park : ∃ tr w',
    (DetailFetch.fetchCategory .fetchTouristSpots (by decide)).Runs Intl.utc
      (World.withLocation "park" (unscheduled "1")) tr w' ∧
    (DetailFetch.fetchCategory .fetchTouristSpots (by decide)).Isolates Intl.utc
      (World.withLocation "park" (unscheduled "1")) tr w' ∧
    (DetailFetch.fetchCategory .fetchTouristSpots (by decide)).Added
      (World.withLocation "park" (unscheduled "1")) w' ∧
    w'.locationIds .allLocations = ["park"] := by
  have hlegible := legible_withLocation Intl.utc "park" "1"
  obtain ⟨locations, hdecode, hkeys⟩ := hlegible.catalogue_eq .fetchTouristSpots
  have hnamed : AllNamed (World.withLocation "park" (unscheduled "1")).db .fetchTouristSpots := by
    decide +kernel
  have hpass (times : List DateTime) : AllDetailsPass Intl.utc locations times := by
    refine allDetailsPass_of_wellFormed (fun l hl => ?_) times
    have hkey : l.key ∈
        catalogue (World.withLocation "park" (unscheduled "1")).db .fetchTouristSpots :=
      hkeys ▸ List.mem_map_of_mem hl
    exact ⟨hnamed _ hkey, hlegible.wellFormed hkey⟩
  obtain ⟨tr, r, w', hrun, hq⟩ := scenario_run (LocationFetch.fetchTouristSpots.body Intl.utc)
    (World.withLocation "park" (unscheduled "1")) (fun _ _ => none)
    (fun out => decide (AllAnswered out.1) &&
      decide (out.2.2.locationIds .allLocations = ["park"])) (by decide +kernel)
  simp only [Bool.and_eq_true, decide_eq_true_eq] at hq
  obtain ⟨hok, hids⟩ := hq
  have hfetch : (DetailFetch.fetchCategory .fetchTouristSpots (by decide)).Runs Intl.utc
      (World.withLocation "park" (unscheduled "1")) tr w' := ⟨r, hrun⟩
  obtain ⟨hisolates, hadded⟩ :=
    (detailFetch_isolates_iff _ hfetch hok hdecode nofun).mpr (hpass (clock tr))
  exact ⟨tr, w', hfetch, hisolates, hadded, hids⟩

/-- A place to visit whose schedule tells no time. -/
def ruin : Doc :=
  Doc.ofFields [("CategoryId", Scalar.string "1"), ("SubCategoryId", Scalar.string "5"),
    ("OperatingHours", .map [("Thu", .string "always")])]

/-- A ruin and a park, to be visited. -/
def World.withRuin : World :=
  { World.withUsers [] with
    db := fun
      | .locations => (AList.singleton "park" (unscheduled "1")).insert "ruin" ruin
      | _ => ∅ }

/-- On a Thursday the schedule of the ruin throws, and the park is not added either. -/
theorem not_detailFetch_isolates_ruin : ∃ tr w' locations,
    (DetailFetch.fetchCategory .fetchTouristSpots (by decide)).Runs Intl.utc World.withRuin tr w' ∧
      AllAnswered tr ∧
      LocationRepository.decodeAll (categoryDocs World.withRuin.db .fetchTouristSpots) =
        .ok locations ∧
      NamesDecode World.withRuin.db ∧
      ¬ ((DetailFetch.fetchCategory .fetchTouristSpots (by decide)).Isolates Intl.utc
          World.withRuin tr w' ∧
        (DetailFetch.fetchCategory .fetchTouristSpots (by decide)).Added World.withRuin w') := by
  obtain ⟨locations, hdecode⟩ : ∃ locations, LocationRepository.decodeAll
      (categoryDocs World.withRuin.db .fetchTouristSpots) = .ok locations := by
    have hok : (LocationRepository.decodeAll
        (categoryDocs World.withRuin.db .fetchTouristSpots)).isOk = true := by
      decide +kernel
    cases h : LocationRepository.decodeAll (categoryDocs World.withRuin.db .fetchTouristSpots) with
    | ok locations => exact ⟨locations, rfl⟩
    | error e =>
      rw [h] at hok
      cases hok
  obtain ⟨tr, r, w', hrun, hq⟩ := scenario_run (LocationFetch.fetchTouristSpots.body Intl.utc)
    World.withRuin (fun _ _ => none)
    (fun out => decide (AllAnswered out.1) &&
      decide (out.2.2.locationController.ids .allLocations = []) &&
      decide (out.2.2.locationController.ids .touristSpots = [0, 1]))
    (by decide +kernel)
  simp only [Bool.and_eq_true, decide_eq_true_eq] at hq
  obtain ⟨⟨hok, hall⟩, hspots⟩ := hq
  refine ⟨tr, w', locations, ⟨r, hrun⟩, hok, hdecode, nofun, fun h => ?_⟩
  have hadded : w'.locationController.ids .allLocations =
      World.withRuin.locationController.ids .allLocations ++
        w'.locationController.ids .touristSpots := h.2
  rw [hall, hspots] at hadded
  cases hadded

end AroundMuseo
