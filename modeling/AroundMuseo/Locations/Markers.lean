import AroundMuseo.Core.Beside
import AroundMuseo.Locations.Spots
import AroundMuseo.Platform.Scenario

/-!
# The markers of the map

The markers are made once, while fetches may be under way: a loop makes one for each
location that its list shows when the loop starts. A list is empty or shows its category, so
that a loop makes all markers of a category or none.
-/

namespace AroundMuseo

open Async LocationController LocationFetch

/-- The marker shows the location. -/
def Marker.IsOf (m : Marker) (s : Spot) : Prop :=
  m.markerId = s.name ∧ m.position = .ofGeoPoint s.coordinates

/-- Markers were added, exactly those of the spots. -/
structure Marked (spots : List Spot) (before after : List Marker) : Prop where
  kept : ∀ m ∈ before, m ∈ after
  all : ∀ s ∈ spots, ∃ m ∈ after, m.IsOf s
  only : ∀ m ∈ after, m ∈ before ∨ ∃ s ∈ spots, m.IsOf s

theorem Marked.nil (markers : List Marker) : Marked [] markers markers :=
  ⟨fun _ hm => hm, List.forall_mem_nil _, fun _ hm => .inl hm⟩

theorem Marked.append {spots spots' : List Spot} {before mid after : List Marker}
    (h : Marked spots before mid) (h' : Marked spots' mid after) :
    Marked (spots ++ spots') before after := by
  refine ⟨fun m hm => h'.kept m (h.kept m hm), ?_, fun m hm => ?_⟩
  · refine List.forall_mem_append.mpr ⟨fun s hs => ?_, h'.all⟩
    obtain ⟨m, hm, hof⟩ := h.all s hs
    exact ⟨m, h'.kept m hm, hof⟩
  · rcases h'.only m hm with hmid | ⟨s, hs, hof⟩
    · rcases h.only m hmid with hbefore | ⟨s, hs, hof⟩
      · exact .inl hbefore
      · exact .inr ⟨s, List.mem_append_left _ hs, hof⟩
    · exact .inr ⟨s, List.mem_append_right _ hs, hof⟩

/-- The marker of one location is added to the set. -/
theorem marked_singleton (location : LocationModel) (bitmapIcon : BitmapDescriptor)
    (markers : List Marker) : Marked [location.spot] markers
      (if MapController.marker location bitmapIcon ∈ markers then markers
        else markers ++ [MapController.marker location bitmapIcon]) := by
  have hof : (MapController.marker location bitmapIcon).IsOf location.spot := ⟨rfl, rfl⟩
  split
  case isTrue hmem =>
    refine ⟨fun m hm => hm, List.forall_mem_singleton.mpr ⟨_, hmem, hof⟩, fun m hm => .inl hm⟩
  case isFalse =>
    refine ⟨fun m hm => List.mem_append_left _ hm, ?_, fun m hm => ?_⟩
    · exact List.forall_mem_singleton.mpr
        ⟨_, List.mem_append_right _ (List.mem_singleton_self _), hof⟩
    · rcases List.mem_append.mp hm with hm | hm
      · exact .inl hm
      · rw [List.mem_singleton.mp hm]
        exact .inr ⟨_, List.mem_singleton_self _, hof⟩

section Loading

variable {intl : Intl} {c c' : AppPool LocationFetch} {tr : List Event}

/-- The fetches that are under way only load their lists. -/
def Fetching (c : AppPool LocationFetch) : Prop :=
  Pool.Guarded platform SameDb (fun _ => FetchStep) (fun _ => FetchStep) c.tasks c.state

theorem Fetching.of_sameDb {w : World} (h : Fetching c) (hw : w.db = c.state.db) :
    Fetching ⟨w, c.tasks⟩ :=
  Pool.Guarded.of_rely (fun _ _ _ h h' => h'.trans h) h hw

/-- What the fetches do by themselves. -/
theorem Fetching.run {ms : History} (h : Fetching c)
    (hrun : Pool.Run platform (LocationFetch.body intl) c ms c') (hok : AllAnswered (answers ms)) :
    Fetching c' ∧ FetchStep c.state c'.state := by
  have hkeep : ∀ s s', FetchStep c.state s → FetchStep s s' → SameDb s s' ∧ FetchStep c.state s' :=
    fun _ _ hs h => ⟨h.db, hs.trans h⟩
  exact hrun.guarded SameDb (fun _ => FetchStep) (fun _ => FetchStep)
    (fun s _ => FetchStep c.state s) (fun _ => rfl) (fun _ _ _ h h' => h'.trans h)
    (fun op s _ _ => guarded_fetch intl op s) (fun _ s s' _ => hkeep s s')
    (fun _ s s' _ => hkeep s s') h (.refl _) hok

/-- What a part of the loading does: it runs to its end, and adds the markers of the spots. -/
structure MarksTo (spots : List Spot) (c : AppPool LocationFetch) (r : Except Exn Unit)
    (c' : AppPool LocationFetch) : Prop where
  ok : r = .ok ()
  fetching : Fetching c'
  load : LoadStep c.state c'.state
  marked : Marked spots c.state.mapScreen.controllerMarkers c'.state.mapScreen.controllerMarkers

/-- One marker is made when its icon has been loaded, whatever the fetches do meanwhile. -/
theorem loadMarker_marks {location : Nat × LocationModel} {r : Except Exn Unit} (h : Fetching c)
    (hrun : (MapController.loadMarker location).Beside platform (LocationFetch.body intl) c tr r c')
    (hok : AllAnswered tr) : MarksTo [location.2.spot] c r c' := by
  rcases Prog.beside_bind.mp hrun with ⟨tr₁, icon, c₁, tr₂, hicon, hadd, rfl⟩ | ⟨e, hicon, -⟩
  · obtain ⟨c₂, ms₁, w, ms₂, hbefore, hcall, hafter, rfl⟩ := (Prog.beside_invoke rfl).mp hicon
    cases hcall
    simp only [allAnswered_append, allAnswered_cons] at hok
    obtain ⟨⟨hok₁, -, hok₂⟩, -⟩ := hok
    obtain ⟨h₂, hstep₁⟩ := h.run hbefore hok₁
    obtain ⟨h₁, hstep₂⟩ := h₂.run hafter hok₂
    have hstep : FetchStep c.state c₁.state := hstep₁.trans hstep₂
    obtain ⟨-, rfl, rfl⟩ := Prog.beside_modify.mp hadd
    refine ⟨rfl, h₁.of_sameDb rfl, hstep.toLoadStep.trans (.of_map _ _), ?_⟩
    rw [← hstep.mapScreen]
    exact marked_singleton location.2 icon _
  · obtain ⟨c₂, ms₁, w, ms₂, -, -, -, rfl⟩ := (Prog.beside_invoke rfl).mp hicon
    simp only [allAnswered_append, allAnswered_cons] at hok
    obtain ⟨-, ⟨v, hv⟩, -⟩ := hok
    cases hv

theorem length_lists_of_spots {w : World} {op : LocationFetch} :
    (w.locationController.lists op.list).length = (w.spots op).length := by
  rw [World.spots, LocationControllerState.shows, List.length_map]

/-- The loop over a loaded list runs to its end, and makes the markers of what is left. -/
theorem forEachFrom_marks {op : LocationFetch} {remaining : Nat} {r : Except Exn Unit}
    (h : Fetching c) (hsettled : SpotsSettled c.state)
    (hremaining : remaining ≤ (c.state.spots op).length)
    (hrun : (forEachFrom op.list MapController.loadMarker (c.state.spots op).length
      remaining).Beside platform (LocationFetch.body intl) c tr r c') (hok : AllAnswered tr) :
    MarksTo ((c.state.spots op).drop ((c.state.spots op).length - remaining)) c r c' := by
  induction remaining generalizing c tr with
  | zero =>
    have hdone := Prog.beside_read_bind.mp hrun
    rw [if_neg (not_not.mpr length_lists_of_spots)] at hdone
    obtain ⟨-, rfl, rfl⟩ := hdone
    rw [Nat.sub_zero, List.drop_length]
    exact ⟨rfl, h, .refl _, .nil _⟩
  | succ remaining ih =>
    have hindex : (c.state.spots op).length - (remaining + 1) < (c.state.spots op).length := by
      omega
    have hindex' : (c.state.spots op).length - (remaining + 1) <
        (c.state.locationController.lists op.list).length := by
      rw [length_lists_of_spots]
      exact hindex
    have hbody := Prog.beside_read_bind.mp hrun
    rw [if_neg (not_not.mpr length_lists_of_spots), List.getElem?_eq_getElem hindex'] at hbody
    dsimp only at hbody
    have hspot : (c.state.locationController.lists op.list)[
        (c.state.spots op).length - (remaining + 1)].2.spot =
        (c.state.spots op)[(c.state.spots op).length - (remaining + 1)] := by
      simp only [World.spots, LocationControllerState.shows, List.getElem_map]
    have hstored : Stored c.state.db op (c.state.spots op) := by
      rcases hsettled op with hempty | hstored
      · rw [hempty] at hremaining
        simp at hremaining
      · exact hstored
    rcases Prog.beside_bind.mp hbody with ⟨tr₁, u, c₁, tr₂, hone, hrest, rfl⟩ | ⟨e, hone, -⟩
    · rw [allAnswered_append] at hok
      have hmark := loadMarker_marks h hone hok.1
      have hsame : c₁.state.spots op = c.state.spots op := hmark.load.spots_eq hstored
      rw [← hsame] at hrest
      have hleft :=
        ih hmark.fetching (hmark.load.settled hsettled) (by rw [hsame]; omega) hrest hok.2
      refine ⟨hleft.ok, hleft.fetching, hmark.load.trans hleft.load, ?_⟩
      have hmarked := hmark.marked.append hleft.marked
      rw [hspot, hsame, List.singleton_append] at hmarked
      have hsucc : (c.state.spots op).length - remaining =
          (c.state.spots op).length - (remaining + 1) + 1 := by
        omega
      rw [hsucc] at hmarked
      rw [List.drop_eq_getElem_cons hindex]
      exact hmarked
    · have hmark := loadMarker_marks h hone hok
      cases hmark.ok

variable (op : LocationFetch) in
/-- A loop makes the markers of the spots that its list shows when it starts. -/
theorem loadMarkers_marks {r : Except Exn Unit} (h : Fetching c)
    (hsettled : SpotsSettled c.state) (hrun : (MapController.loadMarkers op.list).Beside platform
      (LocationFetch.body intl) c tr r c') (hok : AllAnswered tr) :
    MarksTo (c.state.spots op) c r c' := by
  have hloop := Prog.beside_read_bind.mp hrun
  rw [length_lists_of_spots] at hloop
  have hmarks := forEachFrom_marks h hsettled le_rfl hloop hok
  rw [Nat.sub_self, List.drop_zero] at hmarks
  exact hmarks

end Loading

/-- The loops of `loadMarkersFromLocations` run one after the other; `start op` is the state
in which the loop over the list of `op` starts. -/
inductive LoopsStart (intl : Intl) (c : AppPool LocationFetch) :
    (LocationFetch → World) → List Event → AppPool LocationFetch → Prop
  | mk {c₁ c₂ c₃ c₄ : AppPool LocationFetch} {tr₁ tr₂ tr₃ tr₄ : List Event}
      (htouristSpots : (MapController.loadMarkers .touristSpots).Beside platform
        (LocationFetch.body intl) ⟨{ c.state with mapScreen := {} }, c.tasks⟩ tr₁ (.ok ()) c₁)
      (haccommodations : (MapController.loadMarkers .accommodations).Beside platform
        (LocationFetch.body intl) c₁ tr₂ (.ok ()) c₂)
      (hdining : (MapController.loadMarkers .dining).Beside platform
        (LocationFetch.body intl) c₂ tr₃ (.ok ()) c₃)
      (hshopping : (MapController.loadMarkers .shopping).Beside platform
        (LocationFetch.body intl) c₃ tr₄ (.ok ()) c₄) :
      LoopsStart intl c
        (fun
          | .fetchTouristSpots => { c.state with mapScreen := {} }
          | .fetchAccommodations => c₁.state
          | .fetchDining => c₂.state
          | .fetchShopping => c₃.state)
        (tr₁ ++ (tr₂ ++ (tr₃ ++ tr₄)))
        ⟨{ c₄.state with mapScreen.markers := c₄.state.mapScreen.controllerMarkers }, c₄.tasks⟩

/-- The spots of the four lists. -/
def World.mapSpots (w : World) : List Spot :=
  w.spots .fetchTouristSpots ++ w.spots .fetchAccommodations ++ w.spots .fetchDining ++
    w.spots .fetchShopping

/-- The spots that the four lists showed when their loops started. -/
def startSpots (start : LocationFetch → World) : List Spot :=
  (start .fetchTouristSpots).spots .fetchTouristSpots ++
    (start .fetchAccommodations).spots .fetchAccommodations ++
    (start .fetchDining).spots .fetchDining ++ (start .fetchShopping).spots .fetchShopping

section Opening

variable {intl : Intl} {c c' : AppPool LocationFetch} {tr : List Event}
  {start : LocationFetch → World}

variable (op : LocationFetch) in
/-- A loop that is followed by others. -/
theorem loadMarkers_bind {α : Type} {f : Unit → App α} {r : Except Exn α}
    (h : Fetching c) (hsettled : SpotsSettled c.state)
    (hrun : (MapController.loadMarkers op.list >>= f).Beside platform (LocationFetch.body intl) c tr
      r c') (hok : AllAnswered tr) : ∃ tr₁ c₁ tr₂,
      (MapController.loadMarkers op.list).Beside platform (LocationFetch.body intl) c tr₁
        (.ok ()) c₁ ∧
      MarksTo (c.state.spots op) c (.ok ()) c₁ ∧ SpotsSettled c₁.state ∧
      (f ()).Beside platform (LocationFetch.body intl) c₁ tr₂ r c' ∧ AllAnswered tr₂ ∧
      tr = tr₁ ++ tr₂ := by
  rcases Prog.beside_bind.mp hrun with ⟨tr₁, u, c₁, tr₂, hloop, hrest, rfl⟩ | ⟨e, hloop, -⟩
  · rw [allAnswered_append] at hok
    have hmarks := loadMarkers_marks op h hsettled hloop hok.1
    exact ⟨tr₁, c₁, tr₂, hloop, hmarks, hmarks.load.settled hsettled, hrest, hok.2, rfl⟩
  · cases (loadMarkers_marks op h hsettled hloop hok).ok

/-- The four loops run, and the set of markers is returned. -/
theorem loadMarkersFromLocations_loops {r : Except Exn (List Marker)} {c₀ : AppPool LocationFetch}
    (h : Fetching c₀) (hsettled : SpotsSettled c₀.state)
    (hrun : MapController.loadMarkersFromLocations.Beside platform
      (LocationFetch.body intl) c₀ tr r c')
    (hok : AllAnswered tr) : r = .ok c'.state.mapScreen.controllerMarkers ∧
      ∃ c₁ c₂ c₃ tr₁ tr₂ tr₃ tr₄,
        (MapController.loadMarkers .touristSpots).Beside platform (LocationFetch.body intl) c₀ tr₁
          (.ok ()) c₁ ∧
        (MapController.loadMarkers .accommodations).Beside platform (LocationFetch.body intl) c₁ tr₂
          (.ok ()) c₂ ∧
        (MapController.loadMarkers .dining).Beside platform (LocationFetch.body intl) c₂ tr₃
          (.ok ()) c₃ ∧
        (MapController.loadMarkers .shopping).Beside platform (LocationFetch.body intl) c₃ tr₄
          (.ok ()) c' ∧
        tr = tr₁ ++ (tr₂ ++ (tr₃ ++ tr₄)) := by
  obtain ⟨tr₁, c₁, rest₁, hloop₁, h₁, hsettled₁, hrest₁, hok₁, rfl⟩ :=
    loadMarkers_bind .fetchTouristSpots h hsettled hrun hok
  obtain ⟨tr₂, c₂, rest₂, hloop₂, h₂, hsettled₂, hrest₂, hok₂, rfl⟩ :=
    loadMarkers_bind .fetchAccommodations h₁.fetching hsettled₁ hrest₁ hok₁
  obtain ⟨tr₃, c₃, rest₃, hloop₃, h₃, hsettled₃, hrest₃, hok₃, rfl⟩ :=
    loadMarkers_bind .fetchDining h₂.fetching hsettled₂ hrest₂ hok₂
  obtain ⟨tr₄, c₄, rest₄, hloop₄, -, -, hrest₄, -, rfl⟩ :=
    loadMarkers_bind .fetchShopping h₃.fetching hsettled₃ hrest₃ hok₃
  obtain ⟨rfl, rfl, rfl⟩ := hrest₄
  rw [List.append_nil]
  exact ⟨rfl, c₁, c₂, c₃, tr₁, tr₂, tr₃, tr₄, hloop₁, hloop₂, hloop₃, hloop₄, rfl⟩

/-- An opening of the map runs the four loops. -/
theorem exists_loopsStart {r : Except Exn Unit} (h : Fetching c) (hsettled : SpotsSettled c.state)
    (hopen : MapScreen.initState.Beside platform (LocationFetch.body intl) c tr r c')
    (hok : AllAnswered tr) : ∃ start, LoopsStart intl c start tr c' := by
  have hfetching₀ : Fetching ⟨{ c.state with mapScreen := {} }, c.tasks⟩ := h.of_sameDb rfl
  have hsettled₀ : SpotsSettled { c.state with mapScreen := {} } :=
    (LoadStep.of_map c.state {}).settled hsettled
  have htry : (tryCatch MapScreen.loadMarkers fun _ => pure ()).Beside platform
      (LocationFetch.body intl) ⟨{ c.state with mapScreen := {} }, c.tasks⟩ tr r c' := hopen
  obtain ⟨tr₁, r₁, c₁, tr₂, hload, hcatch, rfl⟩ := Prog.beside_andThen.mp htry
  rw [allAnswered_append] at hok
  rcases Prog.beside_bind.mp hload with ⟨tr₃, markers, c₂, tr₄, hmarkers, hset, rfl⟩ |
    ⟨e, hmarkers, -⟩
  · rw [allAnswered_append] at hok
    obtain ⟨hr, c₃, c₄, c₅, us₁, us₂, us₃, us₄, hloop₁, hloop₂, hloop₃, hloop₄, rfl⟩ :=
      loadMarkersFromLocations_loops hfetching₀ hsettled₀ hmarkers hok.1.1
    cases hr
    obtain ⟨rfl, rfl, rfl⟩ := Prog.beside_modify.mp hset
    obtain ⟨rfl, -, rfl⟩ := hcatch
    rw [List.append_nil, List.append_nil]
    exact ⟨_, .mk hloop₁ hloop₂ hloop₃ hloop₄⟩
  · obtain ⟨hr, -⟩ := loadMarkersFromLocations_loops hfetching₀ hsettled₀ hmarkers hok.1
    cases hr

/-- What an opening of the map leaves behind. -/
theorem LoopsStart.marked (h : LoopsStart intl c start tr c') (hfetching : Fetching c)
    (hsettled : SpotsSettled c.state) (hok : AllAnswered tr) :
    Fetching c' ∧ Marked (startSpots start) [] c'.state.mapScreen.markers ∧
      ∀ op, SpotsSettled (start op) ∧ LoadStep (start op) c'.state := by
  cases h with
  | @mk c₁ c₂ c₃ c₄ tr₁ tr₂ tr₃ tr₄ hloop₁ hloop₂ hloop₃ hloop₄ =>
    simp only [allAnswered_append] at hok
    obtain ⟨hok₁, hok₂, hok₃, hok₄⟩ := hok
    have hfetching₀ : Fetching ⟨{ c.state with mapScreen := {} }, c.tasks⟩ :=
      hfetching.of_sameDb rfl
    have hsettled₀ : SpotsSettled { c.state with mapScreen := {} } :=
      (LoadStep.of_map c.state {}).settled hsettled
    have h₁ := loadMarkers_marks .fetchTouristSpots hfetching₀ hsettled₀ hloop₁ hok₁
    have hsettled₁ := h₁.load.settled hsettled₀
    have h₂ := loadMarkers_marks .fetchAccommodations h₁.fetching hsettled₁ hloop₂ hok₂
    have hsettled₂ := h₂.load.settled hsettled₁
    have h₃ := loadMarkers_marks .fetchDining h₂.fetching hsettled₂ hloop₃ hok₃
    have hsettled₃ := h₃.load.settled hsettled₂
    have h₄ := loadMarkers_marks .fetchShopping h₃.fetching hsettled₃ hloop₄ hok₄
    have hlast : ∀ m, LoadStep c₃.state { c₄.state with mapScreen := m } :=
      fun m => h₄.load.trans (.of_map _ m)
    refine ⟨h₄.fetching.of_sameDb rfl, ?_, fun op => ?_⟩
    · exact ((h₁.marked.append h₂.marked).append h₃.marked).append h₄.marked
    · cases op with
      | fetchTouristSpots =>
        exact ⟨hsettled₀, h₁.load.trans (h₂.load.trans (h₃.load.trans (hlast _)))⟩
      | fetchAccommodations => exact ⟨hsettled₁, h₂.load.trans (h₃.load.trans (hlast _))⟩
      | fetchDining => exact ⟨hsettled₂, h₃.load.trans (hlast _)⟩
      | fetchShopping => exact ⟨hsettled₃, hlast _⟩

end Opening

end AroundMuseo
