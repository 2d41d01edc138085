import AroundMuseo.Locations.LoadingFlag
import AroundMuseo.Locations.Markers

/-!
# Selecting a location on the map

When the camera has arrived, the marker of the selected location is looked for by its position.
So the card that opens is that of the location whose marker was the first to be added there, and
there may be none yet.
-/

namespace AroundMuseo

open Async Async.Prog Firestore LocationController

/-- What overlaps while a map is open, and before. -/
inductive MapOperation where
  | loading (op : LoadingOperation)
  | checkInMap (location : LocationModel)
  | initState
  | onMapCreated
  | moveCameraToMarker
  | onTapFound (location : LocationModel)

/-- The function behind an operation. -/
def MapOperation.body (intl : Intl) (repository : LocationRepository) : MapOperation → App Unit
  | loading op => op.body intl repository
  | checkInMap location => BottomCheckInMap.onPressed location
  | initState => MapScreen.initState
  | onMapCreated => MapScreen.onMapCreated
  | moveCameraToMarker => MapScreen.moveCameraToMarker
  | onTapFound location => MapScreen.onTapFound location

section Aligned

/-- Every marker is that of the location that its `onTap` is about. -/
def MapScreenState.Aligned (s : MapScreenState) : Prop :=
  List.Forall₂ (fun m x => m.IsOf x.2.spot) s.controllerMarkers s.onTaps

/-- The markers stay aligned. -/
def KeepsAligned (w₀ w : World) : Prop := w₀.mapScreen.Aligned → w.mapScreen.Aligned

/-- The first marker at a position is that of the first location there. -/
theorem find?_of_aligned {markers : List Marker} {onTaps : List (Nat × LocationModel)}
    (h : List.Forall₂ (fun m x => m.IsOf x.2.spot) markers onTaps) (position : LatLng) :
    ((markers.zip onTaps).find? fun marker => marker.1.position = position).map Prod.snd =
      onTaps.find? fun x => LatLng.ofGeoPoint x.2.coordinates = position := by
  induction h with
  | nil => rfl
  | @cons m x markers onTaps hof _ ih =>
    have hposition : m.position = .ofGeoPoint x.2.coordinates := hof.2
    rw [List.zip_cons_cons, List.find?_cons, List.find?_cons]
    dsimp only
    rw [hposition]
    by_cases hx : LatLng.ofGeoPoint x.2.coordinates = position
    · simp [hx]
    · simp [hx, ih]

variable {intl : Intl} {repository : LocationRepository}

/-- The updates of the catalogue do not touch the markers. -/
theorem keptByUpdates_keepsAligned : KeptByUpdates KeepsAligned where
  refl _ h := h
  same h _ hw h₀ := by
    rw [hw]
    exact h h₀
  update _ h := h

theorem keepsAligned_modifyState (f : LocationControllerState → LocationControllerState) :
    (modifyState f).Keeps platform KeepsAligned := keeps_modify fun _ _ h => h

theorem keepsAligned_whileLoading {p : App Unit} (hp : p.Keeps platform KeepsAligned) :
    (whileLoading p).Keeps platform KeepsAligned :=
  keeps_whileLoading keptByUpdates_keepsAligned.toOfController hp fun _ _ _ h => h

theorem keepsAligned_loading (op : LoadingOperation) :
    (op.body intl repository).Keeps platform KeepsAligned := by
  cases op with
  | fetch op =>
    show (op.body intl).Keeps platform KeepsAligned
    rw [body_eq_whileLoading]
    exact keepsAligned_whileLoading (keeps_loadCategory intl keptByUpdates_keepsAligned op)
  | fetchAllLocations =>
    exact keepsAligned_whileLoading (keeps_loadAllLocations intl keptByUpdates_keepsAligned)
  | fetchUserFavorites =>
    show (fetchUserFavorites repository).Keeps platform KeepsAligned
    rw [fetchUserFavorites_eq]
    apply keepsAligned_whileLoading
    refine .bind (keptByUpdates_keepsAligned.getUserFavorites repository) fun favorites => ?_
    cases favorites with
    | none => exact keeps_done _
    | some favorites =>
      exact .bind (keepsAligned_modifyState _) fun _ => keepsAligned_modifyState _
  | loadFeaturedLocations n =>
    refine .bind (keepsAligned_modifyState _) fun _ => ?_
    refine .bind keptByUpdates_keepsAligned.getLocations fun locations => ?_
    exact .bind (keepsAligned_modifyState _) fun _ => keepsAligned_modifyState _
  | featuredLocationDetails n location =>
    exact .handle (keptByUpdates_keepsAligned.setLocationDetails intl location) fun _ =>
      keepsAligned_modifyState _
  | endFeaturedLocations n error =>
    refine .andThen ?_ fun r => .bind (keepsAligned_modifyState _) fun _ => keeps_done r
    cases error with
    | none => exact keeps_done _
    | some e => exact keptByUpdates_keepsAligned.await _

/-- A marker is added together with its location, or not at all. -/
theorem keepsAligned_addMarker (location : Nat × LocationModel) (icon : BitmapDescriptor) :
    (MapController.addMarker location (MapController.marker location.2 icon)).Keeps platform
      KeepsAligned := by
  apply keeps_modify
  intro w₀ w h h₀
  have haligned := h h₀
  unfold MapScreenState.Aligned at haligned ⊢
  by_cases hmem : MapController.marker location.2 icon ∈ w.mapScreen.controllerMarkers
  · simp only [if_pos hmem]
    exact haligned
  · simp only [if_neg hmem]
    have hof : (MapController.marker location.2 icon).IsOf location.2.spot := ⟨rfl, rfl⟩
    exact List.rel_append haligned (.cons hof .nil)

/-- Every marker is added with its handler. -/
theorem keepsAligned_loadMarkers (list : LocationList) :
    (MapController.loadMarkers list).Keeps platform KeepsAligned := by
  refine .bind (keeps_read _) fun length => keeps_forEachFrom (fun location => ?_) length length
  exact .bind (keptByUpdates_keepsAligned.await _) fun icon => keepsAligned_addMarker location icon

theorem keepsAligned_initState : MapScreen.initState.Keeps platform KeepsAligned := by
  refine .bind (keeps_modify fun _ _ _ _ => .nil) fun _ => .handle ?_ fun _ => keeps_done _
  refine .bind ?_ fun _ => keeps_modify fun _ _ h => h
  refine .bind (keepsAligned_loadMarkers _) fun _ => .bind (keepsAligned_loadMarkers _) fun _ => ?_
  refine .bind (keepsAligned_loadMarkers _) fun _ => .bind (keepsAligned_loadMarkers _) fun _ => ?_
  exact keeps_read _

theorem keepsAligned_moveCameraToMarker :
    MapScreen.moveCameraToMarker.Keeps platform KeepsAligned := by
  refine .bind (keeps_read _) fun selectedLocation => ?_
  split
  · refine .bind (keeps_modify fun _ _ h => h) fun _ => ?_
    refine .bind (keptByUpdates_keepsAligned.await _) fun _ => ?_
    cases selectedLocation with
    | none => exact keeps_done _
    | some position =>
      refine .bind (keptByUpdates_keepsAligned.await _) fun _ =>
        .bind (keeps_read _) fun markers => ?_
      split
      · exact keptByUpdates_keepsAligned.await _
      · exact keeps_done _
  · exact keeps_done _

/-- No operation parts markers from their handlers. -/
theorem keepsAligned_body (op : MapOperation) :
    (op.body intl repository).Keeps platform KeepsAligned := by
  cases op with
  | loading op => exact keepsAligned_loading op
  | checkInMap location => exact keeps_modify fun _ _ h => h
  | initState => exact keepsAligned_initState
  | onMapCreated =>
    refine .bind (keeps_read _) fun mapCreated => ?_
    split
    · exact .bind (keeps_done _) fun _ => keeps_modify fun _ _ h => h
    · exact keeps_modify fun _ _ h => h
  | moveCameraToMarker => exact keepsAligned_moveCameraToMarker
  | onTapFound location =>
    exact .bind (keeps_modify fun _ _ h => h) fun _ => keepsAligned_moveCameraToMarker

/-- The markers are aligned, and stay so. -/
structure MapPool (c : AppPool MapOperation) : Prop where
  tasks : ∀ x ∈ c.tasks, x.2.Keeps platform KeepsAligned
  aligned : c.state.mapScreen.Aligned

/-- A run keeps the markers aligned. -/
theorem MapPool.run {c c' : AppPool MapOperation} {ms : History} (h : MapPool c)
    (hrun : Pool.Run platform (MapOperation.body intl repository) c ms c') : MapPool c' := by
  have hserve : ∀ (c : Call) (w w' : World) (r : Except Exn (Reply c)),
      platform.perform c w r = some w' → w.mapScreen.Aligned → w'.mapScreen.Aligned := by
    intro c w w' r hperform h
    have hmap : w'.mapScreen = w.mapScreen :=
      congrArg (·.2.2.2.2.1) (controllers_of_perform hperform)
    rw [hmap]
    exact h
  obtain ⟨htasks, haligned⟩ := hrun.preserves keepsAligned_body hserve h.tasks h.aligned
  exact ⟨htasks, haligned⟩

theorem MapPool.of_mapScreen {c : AppPool MapOperation} {w : World} (h : MapPool c)
    (hw : w.mapScreen = c.state.mapScreen) : MapPool ⟨w, c.tasks⟩ := by
  refine ⟨h.tasks, ?_⟩
  rw [hw]
  exact h.aligned

end Aligned

/-- What `moveCameraToMarker` does when the camera has arrived. -/
def MapController.tapMarkerAt (position : LatLng) : App Unit := do
  let markers ← Prog.read fun w => w.mapScreen.controllerMarkers.zip w.mapScreen.onTaps
  match markers.find? fun marker => marker.1.position = position with
  | some marker => onTap marker.2
  | none => throw Exn.noElement

section Selection

variable (intl : Intl) (repository : LocationRepository)

/-- The location is chosen from the search, or the map is opened to show it. -/
inductive Selects (l : LocationModel) (c : AppPool MapOperation) (tr : List Event)
    (r : Except Exn Unit) (c' : AppPool MapOperation) : Prop
  | search (h : (MapScreen.onTapFound l).Beside platform
      (MapOperation.body intl repository) c tr r c')
  | checkInMap (hselected : c.state.selectedLocation = some (.ofGeoPoint l.coordinates))
      (h : MapScreen.moveCameraToMarker.Beside platform
        (MapOperation.body intl repository) c tr r c')

/-- The map is there, and then the camera has arrived. -/
inductive CameraMoved (l : LocationModel) (c : AppPool MapOperation) :
    List Event → AppPool MapOperation → Prop
  | mk {w : World} {c₁ c₂ : AppPool MapOperation} {tr₁ tr₂ : List Event}
      (hw : w = { c.state with selectedLocation := none })
      (hmap : (await .mapController).Beside platform (MapOperation.body intl repository)
        ⟨w, c.tasks⟩ tr₁ (.ok ()) c₁)
      (hcamera : (await (.animateCamera (.ofGeoPoint l.coordinates))).Beside platform
        (MapOperation.body intl repository) c₁ tr₂ (.ok ()) c₂) : CameraMoved l c (tr₁ ++ tr₂) c₂

/-- Nothing is thrown, and the last call opens the card of the location. -/
def OpensCard (l : LocationModel) (tr : List Event) (r : Except Exn Unit) : Prop :=
  r = .ok () ∧ ∃ tr' w card, card.id = l.id ∧
    tr = tr' ++ [⟨w, .addInfoWindow card (.ofGeoPoint l.coordinates), .ok ()⟩]

/-- The marker of the location has been added, and the markers that were added before it are
elsewhere. -/
def MarkedFirst (l : LocationModel) (w : World) : Prop :=
  ∃ before x after, w.mapScreen.onTaps = before ++ x :: after ∧ x.2.id = l.id ∧
    LatLng.ofGeoPoint x.2.coordinates = .ofGeoPoint l.coordinates ∧
    ∀ y ∈ before, LatLng.ofGeoPoint y.2.coordinates ≠ .ofGeoPoint l.coordinates

variable {intl : Intl} {repository : LocationRepository} {l : LocationModel}
  {c c' : AppPool MapOperation} {tr : List Event} {r : Except Exn Unit}

/-- The first handler at the position decides. -/
theorem markedFirst_iff {w : World} : MarkedFirst l w ↔
    ∃ x, (w.mapScreen.onTaps.find? fun x =>
      LatLng.ofGeoPoint x.2.coordinates = .ofGeoPoint l.coordinates) = some x ∧ x.2.id = l.id := by
  unfold MarkedFirst
  simp only [List.find?_eq_some_iff_append, decide_eq_true_eq, Bool.not_eq_true',
    decide_eq_false_iff_not]
  constructor
  · rintro ⟨before, x, after, honTaps, hid, hposition, hbefore⟩
    exact ⟨x, ⟨hposition, before, after, honTaps, hbefore⟩, hid⟩
  · rintro ⟨x, ⟨hposition, before, after, honTaps, hbefore⟩, hid⟩
    exact ⟨before, x, after, honTaps, hid, hposition, hbefore⟩

/-- A location that has a marker is found if no other one has a marker at its position. -/
theorem markedFirst_of_unique {w : World}
    (hmarked : ∃ x ∈ w.mapScreen.onTaps, LatLng.ofGeoPoint x.2.coordinates =
      .ofGeoPoint l.coordinates)
    (hunique : ∀ x ∈ w.mapScreen.onTaps,
      LatLng.ofGeoPoint x.2.coordinates = .ofGeoPoint l.coordinates → x.2.id = l.id) :
    MarkedFirst l w := by
  obtain ⟨x, hx, hposition⟩ := hmarked
  have hsome : (w.mapScreen.onTaps.find? fun x =>
      LatLng.ofGeoPoint x.2.coordinates = .ofGeoPoint l.coordinates).isSome = true := by
    rw [List.find?_isSome]
    exact ⟨x, hx, decide_eq_true hposition⟩
  obtain ⟨y, hy⟩ := Option.isSome_iff_exists.mp hsome
  have hat : LatLng.ofGeoPoint y.2.coordinates = .ofGeoPoint l.coordinates := by
    simpa using List.find?_some hy
  exact markedFirst_iff.mpr ⟨y, hy, hunique y (List.mem_of_find?_eq_some hy) hat⟩

instance (l : LocationModel) (w : World) : Decidable (MarkedFirst l w) :=
  decidable_of_iff ((w.mapScreen.onTaps.find? fun x =>
      LatLng.ofGeoPoint x.2.coordinates = .ofGeoPoint l.coordinates).any
        (·.2.id = l.id) = true) <| by
    rw [markedFirst_iff, Option.any_eq_true]
    simp only [decide_eq_true_eq]

/-- The card that the last call opens. -/
def openedCard (tr : List Event) : Option LocationModel :=
  tr.getLast?.bind fun ev => match ev.call with
    | .addInfoWindow card _ => some card
    | _ => none

/-- The card that is opened is that of the location. -/
theorem OpensCard.id_eq (h : OpensCard l tr r) : (openedCard tr).map (·.id) = some l.id := by
  obtain ⟨-, tr', w, card, hid, rfl⟩ := h
  simp [openedCard, hid]

/-- However the location is selected, the camera is sent to its position. -/
theorem Selects.moveCamera (h : Selects intl repository l c tr r c') :
    (MapController.moveCameraToMarker (some (.ofGeoPoint l.coordinates))).Beside platform
      (MapOperation.body intl repository) ⟨{ c.state with selectedLocation := none }, c.tasks⟩ tr r
      c' := by
  cases h with
  | search h =>
    have hmove := beside_read_bind.mp (show MapScreen.moveCameraToMarker.Beside platform _
      ⟨{ c.state with selectedLocation := some (.ofGeoPoint l.coordinates) },
      c.tasks⟩ tr r c' from h)
    exact hmove
  | checkInMap hselected h =>
    have hmove := beside_read_bind.mp h
    rw [hselected] at hmove
    exact hmove

/-- While a call is awaited the markers stay aligned, and it is answered. -/
theorem MapPool.await {x : Call} {out : Except Exn (Reply x)} (h : MapPool c)
    (ha : x.awaited = true)
    (hrun : (await x).Beside platform (MapOperation.body intl repository) c tr out c')
    (hok : AllAnswered tr) : MapPool c' ∧ ∃ v, out = .ok v := by
  obtain ⟨c₁, ms₁, w, ms₂, hbefore, hcall, hafter, rfl⟩ := (beside_invoke ha).mp hrun
  simp only [allAnswered_append, allAnswered_cons] at hok
  have hmap : w.mapScreen = c₁.state.mapScreen :=
    congrArg (·.2.2.2.2.1) (controllers_of_perform hcall)
  exact ⟨((h.run hbefore).of_mapScreen hmap).run hafter, hok.2.1⟩

/-- What is done when the camera has arrived, if the markers are aligned. -/
theorem opensCard_of_arrived (tr₁ : List Event) {tr₂ : List Event} (h : MapPool c)
    (hrun : (MapController.tapMarkerAt (.ofGeoPoint l.coordinates)).Beside platform
      (MapOperation.body intl repository) c tr₂ r c') :
    c' = c ∧ (OpensCard l (tr₁ ++ tr₂) r ↔ MarkedFirst l c.state) := by
  have htap := beside_read_bind.mp hrun
  have hfirst := find?_of_aligned h.aligned (.ofGeoPoint l.coordinates)
  rw [markedFirst_iff, ← hfirst]
  cases hfind :
    (c.state.mapScreen.controllerMarkers.zip c.state.mapScreen.onTaps).find? fun marker =>
      marker.1.position = .ofGeoPoint l.coordinates with
  | none =>
    rw [hfind] at htap
    obtain ⟨rfl, rfl, rfl⟩ := htap
    refine ⟨rfl, iff_of_false ?_ ?_⟩
    · rintro ⟨hr, -⟩
      cases hr
    · rintro ⟨x, hx, -⟩
      cases hx
  | some marker =>
    rw [hfind] at htap hfirst
    obtain ⟨v, w, heffect, rfl, rfl, rfl⟩ := (beside_invoke_sync rfl).mp htap
    cases heffect
    have hposition : LatLng.ofGeoPoint marker.2.2.coordinates = .ofGeoPoint l.coordinates := by
      have hsome := List.find?_some hfirst.symm
      exact of_decide_eq_true hsome
    refine ⟨rfl, ?_⟩
    constructor
    · rintro ⟨-, tr', w, card, hid, htr⟩
      have hlast := List.append_inj_right' htr rfl
      simp only [List.cons.injEq, Event.mk.injEq, Call.addInfoWindow.injEq] at hlast
      refine ⟨marker.2, rfl, ?_⟩
      rw [hlast.1.2.1.1]
      exact hid
    · rintro ⟨x, hx, hid⟩
      cases hx
      refine ⟨rfl, tr₁, c.state, marker.2.2, hid, ?_⟩
      rw [hposition]

/-- The card of the selected location is opened exactly if, when the camera has arrived, the
marker of the location has been added and no marker was added before it at its position. The
rest is synchronous, so that the camera has arrived in the state in which the selection ends. -/
theorem opensCard_iff_markedFirst {w₀ : World} {ms : History} (hmap : w₀.mapScreen = {})
    (hbefore : Pool.Run platform (MapOperation.body intl repository) ⟨w₀, []⟩ ms c)
    (h : Selects intl repository l c tr r c') (hok : AllAnswered tr) :
    (∃ tr₁, tr₁ <+: tr ∧ CameraMoved intl repository l c tr₁ c') ∧
      (OpensCard l tr r ↔ MarkedFirst l c'.state) := by
  have haligned : w₀.mapScreen.Aligned := by
    rw [hmap]
    exact .nil
  have hpool : MapPool c := MapPool.run ⟨List.forall_mem_nil _, haligned⟩ hbefore
  have hpool₀ : MapPool ⟨{ c.state with selectedLocation := none }, c.tasks⟩ :=
    hpool.of_mapScreen rfl
  rcases beside_bind.mp h.moveCamera with ⟨tr₁, u, c₁, rest₁, hcreated, hrest₁, rfl⟩ |
    ⟨e, hcreated, -⟩
  · rw [allAnswered_append] at hok
    obtain ⟨hpool₁, -⟩ := hpool₀.await rfl hcreated hok.1
    rcases beside_bind.mp hrest₁ with ⟨tr₂, u', c₂, rest₂, hcamera, harrived, rfl⟩ | ⟨e, hcamera, -⟩
    · rw [allAnswered_append] at hok
      obtain ⟨hpool₂, -⟩ := hpool₁.await rfl hcamera hok.2.1
      obtain ⟨rfl, hiff⟩ := opensCard_of_arrived (tr₁ ++ tr₂) hpool₂ harrived
      rw [← List.append_assoc]
      exact ⟨⟨tr₁ ++ tr₂, List.prefix_append _ _, .mk rfl hcreated hcamera⟩, hiff⟩
    · obtain ⟨-, v, hv⟩ := hpool₁.await rfl hcamera hok.2
      cases hv
  · obtain ⟨-, v, hv⟩ := hpool₀.await rfl hcreated hok
    cases hv

/-- Once the map is created, the camera can be moved and the function ends, whatever else is
under way. -/
theorem exists_beside_moveCameraToMarker (position : LatLng) {c : AppPool MapOperation}
    (hcreated : c.state.mapScreen.mapCreated = true) : ∃ tr r,
      (MapController.moveCameraToMarker (some position)).Beside platform
        (MapOperation.body intl repository) c tr r c ∧ AllAnswered tr := by
  have hcall : ∀ x : Call, x.awaited = true → ∀ v, effect x c.state v = some c.state →
      (await x).Beside platform (MapOperation.body intl repository) c
        [⟨c.state, x, .ok v⟩] (.ok v) c := by
    intro x ha v heffect
    exact (beside_invoke ha).mpr ⟨c, [], c.state, [], .nil c, heffect, .nil c, rfl⟩
  have hmap := hcall .mapController rfl () (if_pos hcreated)
  have hcamera := hcall (.animateCamera position) rfl () rfl
  have hrest : ∃ tr r, (MapController.tapMarkerAt position).Beside platform
      (MapOperation.body intl repository) c tr r c ∧ AllAnswered tr := by
    simp only [MapController.tapMarkerAt, beside_read_bind]
    split
    case h_1 marker hfind =>
      refine ⟨_, _, (beside_invoke_sync rfl).mpr ⟨(), c.state, rfl, rfl, rfl, rfl⟩, ?_⟩
      simp [AllAnswered]
    case h_2 hfind => exact ⟨[], _, ⟨rfl, rfl, rfl⟩, allAnswered_nil⟩
  obtain ⟨tr, r, hrest, hok⟩ := hrest
  have harrived := (beside_bind (f := fun _ => MapController.tapMarkerAt position)).mpr
    (.inl ⟨_, (), c, tr, hcamera, hrest, rfl⟩)
  refine ⟨_, r, beside_bind.mpr (.inl ⟨_, (), c, _, hmap, harrived, rfl⟩), ?_⟩
  simp [allAnswered_cons, hok]

end Selection

section Scenarios

/-- A document of a location; all are at one place. -/
def placed (name categoryId : String) : Doc :=
  Doc.ofFields [("Name", Scalar.string name), ("CategoryId", Scalar.string categoryId),
    ("SubCategoryId", Scalar.string "5"), ("Coordinates", Scalar.geoPoint 15 121)]

/-- A store with a museum and the café in it. -/
def World.withCafe : World :=
  { World.withUsers [] with
    db := fun
      | .locations => [(⟨"museum", placed "Museum" "1"⟩ : Sigma fun _ : String => Doc),
          ⟨"cafe", placed "Cafe" "3"⟩].toAList
      | _ => ∅ }

/-- All locations are fetched, then the map is opened, the two markers are made, and the map is
created. -/
def mapMoves : List (Pool.Move MapOperation) :=
  .start (.loading .fetchAllLocations) :: List.replicate 10 (.go 0) ++
    .start .initState :: List.replicate 4 (.go 1) ++ [.start .onMapCreated]

/-- A location of the list is chosen from the search when all of this has been done. -/
theorem exists_selects_mapMoves (n : Nat)
    (q : AppPool MapOperation → LocationModel → List Event → Bool)
    (h : ((⟨World.withCafe, []⟩ : AppPool MapOperation).follow platform
      (MapOperation.body Intl.utc ⟨some "u"⟩) (scenario fun _ _ => none) mapMoves).any
        (fun out => decide (AllAnswered (answers out.1)) &&
          decide ((out.2.state.locationController.lists .allLocations).map (·.2.id)).Nodup &&
          (out.2.state.locationController.lists .allLocations)[n]?.any fun l =>
            ((MapScreen.onTapFound l.2).follow platform (scenario fun _ _ => none) out.2.state).any
              fun out' => decide (AllAnswered out'.1) && q ⟨out'.2.2, out.2.tasks⟩ l.2 out'.1) =
                true) :
    ∃ ms c l tr r c', Pool.Run platform (MapOperation.body Intl.utc ⟨some "u"⟩)
      ⟨World.withCafe, []⟩ ms c ∧
      ((c.state.locationController.lists .allLocations).map (·.2.id)).Nodup ∧
      l ∈ (c.state.locationController.lists .allLocations).map Prod.snd ∧
      Selects Intl.utc ⟨some "u"⟩ l c tr r c' ∧ AllAnswered (answers ms ++ tr) ∧
        q c' l tr = true := by
  obtain ⟨ms, c, hrun, hq⟩ := Pool.exists_run_of_follow mapMoves h
  simp only [Bool.and_eq_true, decide_eq_true_eq, Option.any_eq_true] at hq
  obtain ⟨⟨hok, hdistinct⟩, l, hl, ⟨tr, r, w⟩, hfollow, hok', hq'⟩ := hq
  have htap := Prog.follow_run hfollow
  refine ⟨ms, c, l.2, tr, r, ⟨w, c.tasks⟩, hrun, hdistinct, ?_,
    .search (htap.beside c.tasks), ?_, hq'⟩
  · exact List.mem_map_of_mem (List.mem_of_getElem? hl)
  · exact allAnswered_append.mpr ⟨hok, hok'⟩

/-- The museum is chosen, whose marker is the first. -/
theorem opensCard_museum : ∃ ms c l tr r c', Pool.Run platform
      (MapOperation.body Intl.utc ⟨some "u"⟩) ⟨World.withCafe, []⟩ ms c ∧
    l ∈ (c.state.locationController.lists .allLocations).map Prod.snd ∧
    Selects Intl.utc ⟨some "u"⟩ l c tr r c' ∧ OpensCard l tr r := by
  obtain ⟨ms, c, l, tr, r, c', hrun, -, hl, hselects, hok, hfirst⟩ := exists_selects_mapMoves 0
    (fun c' l _ => decide (MarkedFirst l c'.state)) (by decide +kernel)
  have hanswered := (allAnswered_append.mp hok).2
  exact ⟨ms, c, l, tr, r, c', hrun, hl, hselects,
    (opensCard_iff_markedFirst rfl hrun hselects hanswered).2.mpr (of_decide_eq_true hfirst)⟩

/-- The café is chosen, and the card of the museum opens. -/
theorem not_opensCard_cafe : ¬ ∀ (w₀ : World) (ms : History) (c : AppPool MapOperation)
    (l : LocationModel) (tr : List Event) (r : Except Exn Unit) (c' : AppPool MapOperation),
    w₀.mapScreen = {} →
    Pool.Run platform (MapOperation.body Intl.utc ⟨some "u"⟩) ⟨w₀, []⟩ ms c →
    ((c.state.locationController.lists .allLocations).map (·.2.id)).Nodup →
    l ∈ (c.state.locationController.lists .allLocations).map Prod.snd →
    Selects Intl.utc ⟨some "u"⟩ l c tr r c' → AllAnswered (answers ms ++ tr) →
      OpensCard l tr r := by
  intro hall
  obtain ⟨ms, c, l, tr, r, c', hrun, hdistinct, hl, hselects, hok, hcard⟩ :=
    exists_selects_mapMoves 1
    (fun _ l tr => decide ((openedCard tr).map (·.id) ≠ some l.id)) (by decide +kernel)
  have hopens := hall _ ms c l tr r c' rfl hrun hdistinct hl hselects hok
  exact of_decide_eq_true hcard hopens.id_eq

end Scenarios

end AroundMuseo
