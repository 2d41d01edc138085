import AroundMuseo.Locations.Catalogue
import AroundMuseo.Locations.Markers
import Mathlib.Data.Finset.Card

/-!
# The map shows every location

A location has a marker of its own exactly if its category was loaded when the loop over the
list came to it, because the map is never built again. And since a marker is named after
its location, no two locations may have the same name.
-/

namespace AroundMuseo

open Async LocationFetch

/-- Every location of the four lists has a marker at its coordinates, and different ones have
markers with different ids. -/
def ShowsEveryLocation (w : World) : Prop :=
  ∃ marker : String → Marker,
    (∀ s ∈ w.mapSpots, marker s.id ∈ w.mapScreen.markers ∧
      (marker s.id).position = .ofGeoPoint s.coordinates) ∧
    ∀ s ∈ w.mapSpots, ∀ s' ∈ w.mapSpots, s.id ≠ s'.id →
      (marker s.id).markerId ≠ (marker s'.id).markerId

/-- When its loop started, each list showed what it shows in `w`. -/
def LoadedInTime (intl : Intl) (c : AppPool LocationFetch) (tr : List Event)
    (c' : AppPool LocationFetch) (w : World) : Prop :=
  ∃ start, LoopsStart intl c start tr c' ∧ ∀ op, (start op).spots op = w.spots op

/-- Different locations have different names. -/
def DistinctNames (w : World) : Prop :=
  ∀ s ∈ w.mapSpots, ∀ s' ∈ w.mapSpots, s.name = s'.name → s.id = s'.id

section Ids

variable {w : World}

/-- The order in which the lists are read. -/
def fetchOrder : List LocationFetch :=
  [fetchTouristSpots, fetchAccommodations, fetchDining, fetchShopping]

theorem mapSpots_eq (w : World) : w.mapSpots = fetchOrder.flatMap w.spots := by
  simp [World.mapSpots, fetchOrder]

theorem mem_categoryIds_of_settled (h : SpotsSettled w) {op : LocationFetch} {s : Spot}
    (hs : s ∈ w.spots op) : s.id ∈ categoryIds w.db op := by
  rcases h op with hempty | ⟨locations, hlocations, hspots⟩
  · rw [hempty] at hs
    cases hs
  · rw [hspots] at hs
    obtain ⟨l, hl, rfl⟩ := List.mem_map.mp hs
    rw [categoryIds, ← ids_decodeAll hlocations]
    exact List.mem_map_of_mem hl

theorem nodup_ids_of_settled (h : SpotsSettled w) (op : LocationFetch) :
    ((w.spots op).map Spot.id).Nodup := by
  rcases h op with hempty | ⟨locations, hlocations, hspots⟩
  · rw [hempty]
    exact List.nodup_nil
  · have hids : (w.spots op).map Spot.id = locations.map (·.id) := by
      rw [hspots, List.map_map]
      rfl
    rw [hids, ids_decodeAll hlocations]
    exact Firestore.Collection.nodup_whereEq _ _ _

/-- No location is in two of the lists, or twice in one. -/
theorem nodup_mapSpots (h : SpotsSettled w) : (w.mapSpots.map Spot.id).Nodup := by
  have hdistinct : fetchOrder.Pairwise (· ≠ ·) := by decide
  rw [mapSpots_eq, List.map_flatMap, List.nodup_flatMap]
  refine ⟨fun op _ => nodup_ids_of_settled h op, hdistinct.imp fun {op op'} hop => ?_⟩
  apply List.disjoint_left.mpr
  intro id hid hid'
  obtain ⟨s, hs, rfl⟩ := List.mem_map.mp hid
  obtain ⟨s', hs', heq⟩ := List.mem_map.mp hid'
  have hmem' := mem_categoryIds_of_settled h hs'
  rw [heq] at hmem'
  exact hop (eq_of_mem_categoryIds (mem_categoryIds_of_settled h hs) hmem')

theorem eq_of_id_eq (h : SpotsSettled w) {s s' : Spot} (hs : s ∈ w.mapSpots) (hs' : s' ∈ w.mapSpots)
    (hid : s.id = s'.id) : s = s' :=
  List.inj_on_of_nodup_map (nodup_mapSpots h) hs hs' hid

end Ids

section Counting

variable {w : World} {start : LocationFetch → World}

/-- If every location has a marker of its own, then the names of the spots that were marked
are as many as the locations. -/
theorem length_le_of_shows (h : SpotsSettled w) (hmarked : Marked (startSpots start) []
      w.mapScreen.markers) (hshows : ShowsEveryLocation w) :
    w.mapSpots.length ≤ ((startSpots start).map Spot.name).toFinset.card := by
  obtain ⟨marker, hmarker, hdistinct⟩ := hshows
  have hcard : (w.mapSpots.map Spot.id).toFinset.card = w.mapSpots.length := by
    rw [List.toFinset_card_of_nodup (nodup_mapSpots h), List.length_map]
  rw [← hcard]
  apply Finset.card_le_card_of_injOn fun id => (marker id).markerId
  · intro id hid
    obtain ⟨s, hs, rfl⟩ := List.mem_map.mp (List.mem_toFinset.mp hid)
    rcases hmarked.only _ (hmarker s hs).1 with hnone | ⟨s', hs', hname, -⟩
    · cases hnone
    · exact List.mem_toFinset.mpr (List.mem_map.mpr ⟨s', hs', hname.symm⟩)
  · intro id hid id' hid' heq
    obtain ⟨s, hs, rfl⟩ := List.mem_map.mp (List.mem_toFinset.mp hid)
    obtain ⟨s', hs', rfl⟩ := List.mem_map.mp (List.mem_toFinset.mp hid')
    by_contra hne
    exact hdistinct s hs s' hs' hne heq

/-- A loop found its list empty, or as it is in the end. -/
theorem start_eq_nil_or (hstart : ∀ op, SpotsSettled (start op) ∧ LoadStep (start op) w)
    (op : LocationFetch) : (start op).spots op = [] ∨ (start op).spots op = w.spots op := by
  obtain ⟨hsettled, hload⟩ := hstart op
  rcases hsettled op with hempty | hstored
  · exact .inl hempty
  · exact .inr (hload.spots_eq hstored).symm

/-- If no fewer spots were marked than there are, then every list was loaded in time. -/
theorem start_eq_of_length (hstart : ∀ op, SpotsSettled (start op) ∧ LoadStep (start op) w)
    (hlength : w.mapSpots.length ≤ (startSpots start).length) (op : LocationFetch) :
    (start op).spots op = w.spots op := by
  have hle : ∀ op, ((start op).spots op).length ≤ (w.spots op).length := by
    intro op
    rcases start_eq_nil_or hstart op with hempty | heq
    · rw [hempty]
      exact Nat.zero_le _
    · rw [heq]
  have h₁ := hle fetchTouristSpots
  have h₂ := hle fetchAccommodations
  have h₃ := hle fetchDining
  have h₄ := hle fetchShopping
  simp only [World.mapSpots, startSpots, List.length_append] at hlength
  have hlengths : ((start op).spots op).length = (w.spots op).length := by
    cases op <;> omega
  rcases start_eq_nil_or hstart op with hempty | heq
  · rw [hempty, List.length_nil] at hlengths
    rw [hempty, List.eq_nil_of_length_eq_zero hlengths.symm]
  · exact heq

theorem startSpots_eq (h : ∀ op, (start op).spots op = w.spots op) :
    startSpots start = w.mapSpots := by
  simp only [startSpots, World.mapSpots, h]

theorem distinctNames_of_length (h : w.mapSpots.length ≤ (w.mapSpots.map Spot.name).toFinset.card) :
    DistinctNames w := by
  have hcard : (w.mapSpots.map Spot.name).toFinset.card ≤ (w.mapSpots.map Spot.name).length :=
    List.toFinset_card_le _
  rw [List.length_map] at hcard
  have hnodup : (w.mapSpots.map Spot.name).Nodup := by
    rw [← Multiset.coe_nodup, ← Multiset.toFinset_card_eq_card_iff_nodup, Multiset.coe_card,
      List.length_map]
    exact Nat.le_antisymm hcard h
  intro s hs s' hs' hname
  rw [List.inj_on_of_nodup_map hnodup hs hs' hname]

/-- The markers that were made are as wanted if everything was loaded in time. -/
theorem shows_of_distinctNames (h : SpotsSettled w) (hmarked : Marked w.mapSpots []
      w.mapScreen.markers) (hnames : DistinctNames w) : ShowsEveryLocation w := by
  have hchoice : ∀ id, ∃ m : Marker, ∀ s ∈ w.mapSpots, s.id = id →
      m ∈ w.mapScreen.markers ∧ m.IsOf s := by
    intro id
    by_cases hid : ∃ s ∈ w.mapSpots, s.id = id
    · obtain ⟨s, hs, rfl⟩ := hid
      obtain ⟨m, hm, hof⟩ := hmarked.all s hs
      refine ⟨m, fun s' hs' heq => ?_⟩
      rw [eq_of_id_eq h hs' hs heq]
      exact ⟨hm, hof⟩
    · exact ⟨⟨"", ⟨0, 0⟩, ⟨""⟩⟩, fun s hs heq => absurd ⟨s, hs, heq⟩ hid⟩
  choose marker hmarker using hchoice
  refine ⟨marker, fun s hs => ?_, fun s hs s' hs' hne heq => ?_⟩
  · obtain ⟨hm, hof⟩ := hmarker s.id s hs rfl
    exact ⟨hm, hof.2⟩
  · have hname := (hmarker s.id s hs rfl).2.1
    have hname' := (hmarker s'.id s' hs' rfl).2.1
    rw [hname, hname'] at heq
    exact hne (hnames s hs s' hs' heq)

end Counting

/-- The map shows every location exactly if each category was loaded when the loop over its
list started, and no two locations have the same name. -/
theorem showsEveryLocation_iff {intl : Intl} {w₀ : World} {c₀ c₁ c₂ : AppPool LocationFetch}
    {ms ms' : History} {tr : List Event} {r : Except Exn Unit}
    (hempty : ∀ op : LocationFetch, w₀.locationController.lists op.list = [])
    (hbefore : Pool.Run platform (LocationFetch.body intl) ⟨w₀, []⟩ ms c₀)
    (hopen : MapScreen.initState.Beside platform (LocationFetch.body intl) c₀ tr r c₁)
    (hafter : Pool.Run platform (LocationFetch.body intl) c₁ ms' c₂)
    (hok : AllAnswered (answers ms ++ tr ++ answers ms')) :
    ShowsEveryLocation c₂.state ↔
      LoadedInTime intl c₀ tr c₁ c₂.state ∧ DistinctNames c₂.state := by
  simp only [allAnswered_append] at hok
  obtain ⟨⟨hok₀, hok₁⟩, hok₂⟩ := hok
  have hsettled₀ : SpotsSettled w₀ := by
    intro op
    rw [World.spots, LocationControllerState.shows, hempty op]
    exact .inl rfl
  have hnone : Fetching ⟨w₀, []⟩ := List.forall_mem_nil _
  obtain ⟨hfetching, hstep⟩ := hnone.run hbefore hok₀
  have hsettled : SpotsSettled c₀.state := hstep.toLoadStep.settled hsettled₀
  -- what is known of the end, whatever the loops found
  have hend : ∀ start, LoopsStart intl c₀ start tr c₁ → SpotsSettled c₂.state ∧
      Marked (startSpots start) [] c₂.state.mapScreen.markers ∧
        ∀ op, SpotsSettled (start op) ∧ LoadStep (start op) c₂.state := by
    intro start hloops
    obtain ⟨hfetching₁, hmarked, hstart⟩ := hloops.marked hfetching hsettled hok₁
    obtain ⟨-, hstep₂⟩ := hfetching₁.run hafter hok₂
    have hlast : ∀ op, LoadStep (start op) c₂.state :=
      fun op => (hstart op).2.trans hstep₂.toLoadStep
    rw [hstep₂.mapScreen]
    refine ⟨(hlast .fetchTouristSpots).settled (hstart _).1, hmarked, fun op => ?_⟩
    exact ⟨(hstart op).1, hlast op⟩
  constructor
  · intro hshows
    obtain ⟨start, hloops⟩ := exists_loopsStart hfetching hsettled hopen hok₁
    obtain ⟨hsettled₂, hmarked, hstart⟩ := hend start hloops
    have hlength := length_le_of_shows hsettled₂ hmarked hshows
    have hnames := List.toFinset_card_le ((startSpots start).map Spot.name)
    rw [List.length_map] at hnames
    have heq := start_eq_of_length hstart (hlength.trans hnames)
    rw [startSpots_eq heq] at hlength
    exact ⟨⟨start, hloops, heq⟩, distinctNames_of_length hlength⟩
  · rintro ⟨⟨start, hloops, heq⟩, hnames⟩
    obtain ⟨hsettled₂, hmarked, -⟩ := hend start hloops
    rw [startSpots_eq heq] at hmarked
    exact shows_of_distinctNames hsettled₂ hmarked hnames

/-- One shop is loaded, and then the map is opened. -/
theorem showsEveryLocation_loaded : ∃ (c₀ c₁ : AppPool LocationFetch) (ms : History)
    (tr : List Event) (r : Except Exn Unit),
    Pool.Run platform (LocationFetch.body Intl.utc)
      ⟨World.withLocation "shop" (unscheduled "4"), []⟩ ms c₀ ∧
    MapScreen.initState.Beside platform (LocationFetch.body Intl.utc) c₀ tr r c₁ ∧
    c₁.state.mapSpots.map (·.id) = ["shop"] ∧ c₁.state.mapScreen.markers.length = 1 ∧
    ShowsEveryLocation c₁.state ∧ LoadedInTime Intl.utc c₀ tr c₁ c₁.state ∧
    DistinctNames c₁.state := by
  obtain ⟨ms, c₀, hbefore, hq⟩ := scenario_pool_run (LocationFetch.body Intl.utc)
    (World.withLocation "shop" (unscheduled "4")) (fun _ _ => none) (fetchMoves .fetchShopping)
    (fun out => decide (AllAnswered (answers out.1)) &&
      (MapScreen.initState.follow platform (scenario fun _ _ => none) out.2.state).any
        fun out' : List Event × Except Exn Unit × World => decide (AllAnswered out'.1) &&
          decide (out'.2.2.mapSpots.map (·.id) = ["shop"] ∧ out'.2.2.mapScreen.markers.length = 1 ∧
            ∃ marker ∈ out'.2.2.mapScreen.markers, ∀ s ∈ out'.2.2.mapSpots,
              marker.position = .ofGeoPoint s.coordinates))
    (by decide +kernel)
  obtain ⟨hok₀, hopen⟩ := Bool.and_eq_true_iff.mp hq
  obtain ⟨tr, r, w, hrun, hq'⟩ := Prog.exists_run_of_follow hopen
  simp only [Bool.and_eq_true, decide_eq_true_eq] at hq' hok₀
  obtain ⟨hok, hids, hone, marker, hmarker, hposition⟩ := hq'
  have hid : ∀ s ∈ w.mapSpots, s.id = "shop" := by
    intro s hs
    have hmem : s.id ∈ w.mapSpots.map (·.id) := List.mem_map_of_mem hs
    rw [hids] at hmem
    exact List.mem_singleton.mp hmem
  have hshows : ShowsEveryLocation w :=
    ⟨fun _ => marker, fun s hs => ⟨hmarker, hposition s hs⟩, fun s hs s' hs' hne =>
      absurd ((hid s hs).trans (hid s' hs').symm) hne⟩
  have hbeside : MapScreen.initState.Beside platform (LocationFetch.body Intl.utc)
      ⟨c₀.state, c₀.tasks⟩ tr r ⟨w, c₀.tasks⟩ := hrun.beside c₀.tasks
  have hanswered : AllAnswered (answers ms ++ tr ++ answers ([] : History)) := by
    simp only [allAnswered_append]
    exact ⟨⟨hok₀, hok⟩, allAnswered_nil⟩
  obtain ⟨hloaded, hnames⟩ :=
    (showsEveryLocation_iff (fun _ => rfl) hbefore hbeside (.nil _) hanswered).mp hshows
  exact ⟨c₀, ⟨w, c₀.tasks⟩, ms, tr, r, hbefore, hbeside, hids, hone, hshows, hloaded, hnames⟩

/-- The map is opened before the only shop is loaded, and never shows it. -/
theorem not_showsEveryLocation_early : ¬ ∀ (w₀ : World) (c₁ c₂ : AppPool LocationFetch)
    (ms' : History) (tr : List Event) (r : Except Exn Unit),
    (∀ op : LocationFetch, w₀.locationController.lists op.list = []) →
    MapScreen.initState.Beside platform (LocationFetch.body Intl.utc) ⟨w₀, []⟩ tr r c₁ →
    Pool.Run platform (LocationFetch.body Intl.utc) c₁ ms' c₂ →
    AllAnswered (tr ++ answers ms') → c₂.Quiescent → ShowsEveryLocation c₂.state := by
  intro hall
  obtain ⟨tr, r, w, hrun, hq⟩ := scenario_run MapScreen.initState
    (World.withLocation "shop" (unscheduled "4")) (fun _ _ => none)
    (fun out =>
      decide (AllAnswered out.1) && ((⟨out.2.2, []⟩ : AppPool LocationFetch).follow platform
      (LocationFetch.body Intl.utc) (scenario fun _ _ => none) (fetchMoves .fetchShopping)).any
        fun out' : History × AppPool LocationFetch =>
          decide (AllAnswered (answers out'.1)) && decide out'.2.Quiescent &&
          decide (out'.2.state.mapSpots ≠ []) &&
          decide (out'.2.state.mapScreen.markers = []))
    (by decide +kernel)
  obtain ⟨hok, hfetch⟩ := Bool.and_eq_true_iff.mp hq
  obtain ⟨ms', c₂, hafter, hq'⟩ := Pool.exists_run_of_follow _ hfetch
  simp only [Bool.and_eq_true, decide_eq_true_eq] at hq' hok
  obtain ⟨⟨⟨hok', hquiescent⟩, hspots⟩, hmarkers⟩ := hq'
  obtain ⟨s, hs⟩ := List.exists_mem_of_ne_nil _ hspots
  obtain ⟨marker, hmarker, -⟩ := hall _ ⟨w, []⟩ c₂ ms' tr r (fun _ => rfl) (hrun.beside []) hafter
    (allAnswered_append.mpr ⟨hok, hok'⟩) hquiescent
  have hmem := (hmarker s hs).1
  rw [hmarkers] at hmem
  cases hmem

end AroundMuseo
