import AroundMuseo.Core.Machine
import AroundMuseo.Screens.NavigationScreen
import Mathlib.Algebra.Order.Ring.Rat

/-!
# What the route is about

Everything that the screen of a route shows and asks for starts at one place: at the position of
the user, if that was known in time, and at a fixed place else. It is asked for once.
-/

namespace AroundMuseo

open Dart (Json)

namespace LatLngBounds

/-- The box contains the point, if it does not wrap around. -/
def Contains (b : LatLngBounds) (p : LatLng) : Prop :=
  (b.southwest.latitude ≤ p.latitude ∧ p.latitude ≤ b.northeast.latitude) ∧
    b.southwest.longitude ≤ p.longitude ∧ p.longitude ≤ b.northeast.longitude

/-- The smallest box around two points. -/
structure IsLeast (b : LatLngBounds) (p q : LatLng) : Prop where
  left : b.Contains p
  right : b.Contains q
  least : ∀ b' : LatLngBounds, b'.Contains p → b'.Contains q → ∀ r, b.Contains r → b'.Contains r

end LatLngBounds

namespace NavigationScreen

theorem isLeast_calculateBounds (origin destination : LatLng) :
    (calculateBounds origin destination).IsLeast origin destination := by
  have hmin (a b : Rat) : (if a < b then a else b) = min a b := by
    split
    case isTrue h => exact (min_eq_left h.le).symm
    case isFalse h => exact (min_eq_right (not_lt.mp h)).symm
  have hmax (a b : Rat) : (if a > b then a else b) = max a b := by
    split
    case isTrue h => exact (max_eq_left h.le).symm
    case isFalse h => exact (max_eq_right (not_lt.mp h)).symm
  simp only [calculateBounds, hmin, hmax]
  refine ⟨?_, ?_, ?_⟩
  · simp [LatLngBounds.Contains]
  · simp [LatLngBounds.Contains]
  · rintro b ⟨⟨hs, hn⟩, hw, he⟩ ⟨⟨hs', hn'⟩, hw', he'⟩ r ⟨⟨hsouth, hnorth⟩, hwest, heast⟩
    refine ⟨⟨?_, ?_⟩, ?_, ?_⟩
    · exact (le_min hs hs').trans hsouth
    · exact hnorth.trans (max_le hn hn')
    · exact (le_min hw hw').trans hwest
    · exact heast.trans (max_le he he')

/-- The requests for the route and the distance. -/
def Request.isFetch : Request → Bool
  | getRouteBetweenCoordinates _ _ | distanceMatrix _ _ => true
  | _ => false

/-- What the inputs brought of the distance and the duration. -/
def brought : Input → Option (String × String)
  | .distanceMatrix answer => answer.bind getDistanceAndETA
  | _ => none

/-- What holds of the screen after some inputs and the requests that it made. -/
structure RouteRight (target : Target) (inputs : List Input) (s : State) (os : List Request) :
    Prop where
  origin : s.origin = s.currentPosition.getD ({} : State).origin
  fetches : os.filter Request.isFetch = if s.phase = .done then
      [.getRouteBetweenCoordinates s.origin target.destination,
        .distanceMatrix s.origin target.destination]
    else []
  bounds : ∀ b, .newLatLngBounds b ∈ os → s.phase = .done ∧ b.IsLeast s.origin target.destination
  markers : s.markers = [] ∨ s.markers = markersOf target s.currentPosition
  eta : s.distance = none ∧ s.duration = none ∨ ∃ i ∈ inputs, ∃ distance duration,
    brought i = some (distance, duration) ∧ s.distance = some distance ∧ s.duration = some duration

variable {target : Target} {inputs : List Input} {i : Input} {s s' : State} {os : List Request}

/-- What the screen shows of the distance stays as the inputs grow. -/
theorem eta_snoc (h : s.distance = none ∧ s.duration = none ∨ ∃ i ∈ inputs, ∃ distance duration,
      brought i = some (distance, duration) ∧ s.distance = some distance ∧
        s.duration = some duration) :
    s.distance = none ∧ s.duration = none ∨ ∃ j ∈ inputs ++ [i], ∃ distance duration,
      brought j = some (distance, duration) ∧ s.distance = some distance ∧
        s.duration = some duration := by
  apply h.imp_right
  rintro ⟨j, hj, hbrought⟩
  exact ⟨j, List.mem_append_left _ hj, hbrought⟩

/-- A step that asks for nothing and touches neither the place nor the distance. -/
theorem RouteRight.same (h : RouteRight target inputs s os) (horigin : s'.origin = s.origin)
    (hposition : s'.currentPosition = s.currentPosition) (hphase : s'.phase = s.phase)
    (hmarkers : s'.markers = s.markers) (hdistance : s'.distance = s.distance)
    (hduration : s'.duration = s.duration) : RouteRight target (inputs ++ [i]) s' (os ++ []) := by
  rw [List.append_nil]
  refine ⟨?_, ?_, ?_, ?_, ?_⟩
  · rw [horigin, hposition]
    exact h.origin
  · rw [hphase, horigin]
    exact h.fetches
  · rw [hphase, horigin]
    exact h.bounds
  · rw [hmarkers, hposition]
    exact h.markers
  · rw [hdistance, hduration]
    exact eta_snoc h.eta

@[simp] theorem loadMarkers_origin : (loadMarkers target s).origin = s.origin := by
  unfold loadMarkers State.setState
  split <;> rfl

@[simp] theorem loadMarkers_currentPosition :
    (loadMarkers target s).currentPosition = s.currentPosition := by
  unfold loadMarkers State.setState
  split <;> rfl

@[simp] theorem loadMarkers_phase : (loadMarkers target s).phase = s.phase := by
  unfold loadMarkers State.setState
  split <;> rfl

@[simp] theorem loadMarkers_distance : (loadMarkers target s).distance = s.distance := by
  unfold loadMarkers State.setState
  split <;> rfl

@[simp] theorem loadMarkers_duration : (loadMarkers target s).duration = s.duration := by
  unfold loadMarkers State.setState
  split <;> rfl

theorem loadMarkers_markers (h : s.markers = [] ∨ s.markers = markersOf target s.currentPosition) :
    (loadMarkers target s).markers = [] ∨
      (loadMarkers target s).markers = markersOf target s.currentPosition := by
  unfold loadMarkers State.setState
  split
  · exact .inr rfl
  · exact h

/-- When the position is known or given up, everything is asked for once. -/
theorem RouteRight.located (h : RouteRight target inputs s os) (hphase : s.phase ≠ .done) :
    RouteRight target (inputs ++ [i]) (located target s).1 (os ++ (located target s).2) := by
  have hnone := h.fetches
  rw [if_neg hphase] at hnone
  refine ⟨?_, ?_, ?_, ?_, ?_⟩
  · simpa [NavigationScreen.located] using h.origin
  · have hcamera : (if s.mounted then animateCameraToFitMarkers target s else []).filter
        Request.isFetch = [] := by
      unfold animateCameraToFitMarkers
      split
      · split <;> rfl
      · rfl
    simp only [NavigationScreen.located, loadMarkers_phase, loadMarkers_origin, if_true]
    rw [List.filter_append, hnone, List.nil_append, List.filter_append, hcamera, List.append_nil]
    rfl
  · intro b hb
    simp only [NavigationScreen.located, loadMarkers_phase, loadMarkers_origin, true_and]
    rw [List.mem_append] at hb
    rcases hb with hb | hb
    · exact absurd (h.bounds b hb).1 hphase
    · simp only [NavigationScreen.located, List.mem_append, List.mem_cons, reduceCtorEq,
        List.not_mem_nil, or_false, false_or] at hb
      unfold animateCameraToFitMarkers at hb
      split at hb
      · split at hb
        · cases List.mem_singleton.mp hb
          exact isLeast_calculateBounds _ _
        · cases hb
      · cases hb
  · simp only [NavigationScreen.located, loadMarkers_currentPosition]
    apply loadMarkers_markers
    exact h.markers
  · simp only [NavigationScreen.located, loadMarkers_distance, loadMarkers_duration]
    exact eta_snoc h.eta

/-- The position is stored before anything was asked for. -/
theorem RouteRight.setPosition (h : RouteRight target inputs s os) (hphase : s.phase ≠ .done)
    (position : GeoPoint) : RouteRight target inputs (setPosition target position s) os := by
  have hkept : (NavigationScreen.setPosition target position s).phase = s.phase := by
    unfold NavigationScreen.setPosition State.setState
    split
    · exact loadMarkers_phase
    · rfl
  have hnone := h.fetches
  rw [if_neg hphase] at hnone
  refine ⟨?_, ?_, ?_, ?_, ?_⟩
  · unfold NavigationScreen.setPosition State.setState
    split
    · simp
    · exact h.origin
  · rw [hkept, if_neg hphase]
    exact hnone
  · intro b hb
    exact absurd (h.bounds b hb).1 hphase
  · unfold NavigationScreen.setPosition State.setState
    split
    case isTrue hmounted =>
      simp [loadMarkers, State.setState, hmounted]
    case isFalse => exact h.markers
  · unfold NavigationScreen.setPosition State.setState
    split
    · simpa using h.eta
    · exact h.eta

theorem RouteRight.permission (h : RouteRight target inputs s os) (hphase : s.phase ≠ .done) :
    RouteRight target (inputs ++ [i]) { s with phase := .position }
      (os ++ [.getCurrentPosition]) := by
  have hnone := h.fetches
  rw [if_neg hphase] at hnone
  refine ⟨h.origin, ?_, ?_, h.markers, eta_snoc h.eta⟩
  · rw [List.filter_append, hnone]
    rfl
  · intro b hb
    rcases List.mem_append.mp hb with hb | hb
    · exact absurd (h.bounds b hb).1 hphase
    · cases List.mem_singleton.mp hb

/-- A response with a distance and a duration shows both. -/
theorem RouteRight.fetched (h : RouteRight target inputs s os) {answer : Option HttpResponse}
    {distance duration : String}
    (hanswer : answer.bind getDistanceAndETA = some (distance, duration)) :
    RouteRight target (inputs ++ [.distanceMatrix answer])
      (State.setState (fun s => { s with distance := some distance, duration := some duration })
        { s with awaitingETA := false }) (os ++ []) := by
  unfold State.setState
  split
  · rw [List.append_nil]
    refine ⟨h.origin, h.fetches, h.bounds, h.markers, .inr ?_⟩
    exact ⟨_, List.mem_append_right _ (List.mem_singleton_self _), distance, duration, hanswer,
      rfl, rfl⟩
  · exact h.same rfl rfl rfl rfl rfl rfl

theorem RouteRight.step (h : RouteRight target inputs s os) {os' : List Request}
    (hstep : step target s i = some (s', os')) :
    RouteRight target (inputs ++ [i]) s' (os ++ os') := by
  cases i with
  | permission answer =>
    obtain ⟨hphase, hstep⟩ := Option.ite_none_right_eq_some.mp hstep
    have hbefore : s.phase ≠ .done := by simp [hphase]
    split at hstep <;> cases hstep
    · exact h.permission hbefore
    · exact h.permission hbefore
    · exact h.located hbefore
  | position answer =>
    obtain ⟨hphase, hstep⟩ := Option.ite_none_right_eq_some.mp hstep
    have hbefore : s.phase ≠ .done := by simp [hphase]
    cases answer with
    | none =>
      cases hstep
      exact h.located hbefore
    | some position =>
      cases hstep
      apply (h.setPosition hbefore position).located
      unfold NavigationScreen.setPosition State.setState
      split
      · rw [loadMarkers_phase]
        exact hbefore
      · exact hbefore
  | route answer =>
    obtain ⟨-, hstep⟩ := Option.ite_none_right_eq_some.mp hstep
    cases answer with
    | none =>
      cases hstep
      exact h.same rfl rfl rfl rfl rfl rfl
    | some result =>
      dsimp only at hstep
      split at hstep
      · cases hstep
        exact h.same rfl rfl rfl rfl rfl rfl
      · cases hstep
        unfold State.setState
        split <;> exact h.same rfl rfl rfl rfl rfl rfl
  | distanceMatrix answer =>
    obtain ⟨-, hstep⟩ := Option.ite_none_right_eq_some.mp hstep
    split at hstep
    case h_1 distance duration hanswer =>
      cases hstep
      exact h.fetched hanswer
    case h_2 =>
      cases hstep
      exact h.same rfl rfl rfl rfl rfl rfl
  | mapCreated | dispose =>
    obtain ⟨-, hstep⟩ := Option.ite_none_right_eq_some.mp hstep
    cases hstep
    exact h.same rfl rfl rfl rfl rfl rfl

/-- In every run the route and the distance are asked for once, together, from the position of the
user or, without one, from a fixed place; the camera frames just that way and the markers stand at
its ends. Distance and duration are shown together, as one response had them. -/
theorem route_agrees {target : Target} {inputs : List Input} {s : State} {os : List Request}
    (hrun : Machine.Run (step target) {} [.requestPermission] inputs s os) :
    RouteRight target inputs s os := by
  apply hrun.invariant fun inputs s os => RouteRight target inputs s os
  · refine ⟨rfl, rfl, ?_, .inl rfl, .inl ⟨rfl, rfl⟩⟩
    intro b hb
    cases List.mem_singleton.mp hb
  · intro inputs s os i s' os' hright hstep
    exact hright.step hstep

/-- A place to go to. -/
def museo : Target := ⟨⟨16, 122⟩, "Museo"⟩

/-- A response with a distance and a duration. -/
def twelveKilometres : HttpResponse where
  statusCode := 200
  body := some (.object [("rows", .array [.object [("elements", .array [.object
    [("distance", .object [("text", .string "12 km")]),
      ("duration", .object [("text", .string "20 mins")])]])]])])

/-- If the permission is denied, the way is asked for from the fixed place. If it is granted, then
from the position of the user: there is a marker, the camera frames the way, and the distance and
the duration are shown that were answered. -/
theorem route_agrees_denied_granted :
    (∃ (s : State) (os : List Request), Machine.Run (step museo) {} [.requestPermission]
        [.mapCreated, .permission (some .denied), .distanceMatrix none] s os ∧
      s.currentPosition = none ∧ os.filter Request.isFetch =
        [.getRouteBetweenCoordinates ({} : State).origin ⟨16, 122⟩,
          .distanceMatrix ({} : State).origin ⟨16, 122⟩]) ∧
    ∃ (s : State) (os : List Request), Machine.Run (step museo) {} [.requestPermission]
        [.mapCreated, .permission (some .whileInUse), .position (some ⟨14, 121⟩),
          .distanceMatrix (some twelveKilometres)] s os ∧
      s.currentPosition = some ⟨14, 121⟩ ∧ os.filter Request.isFetch =
        [.getRouteBetweenCoordinates ⟨14, 121⟩ ⟨16, 122⟩, .distanceMatrix ⟨14, 121⟩ ⟨16, 122⟩] ∧
      .newLatLngBounds ⟨⟨14, 121⟩, ⟨16, 122⟩⟩ ∈ os ∧
      LatLngBounds.IsLeast ⟨⟨14, 121⟩, ⟨16, 122⟩⟩ ⟨14, 121⟩ ⟨16, 122⟩ ∧
      s.markers =
        [⟨"origin", ⟨14, 121⟩, "Starting Location"⟩, ⟨"destination", ⟨16, 122⟩, "Museo"⟩] ∧
      s.distance = some "12 km" ∧ s.duration = some "20 mins" := by
  constructor
  · obtain ⟨⟨s, os⟩, hout, hq⟩ := (Option.any_eq_true _ _).mp (show ((Machine.run (step museo) {}
      [.requestPermission] [.mapCreated, .permission (some .denied), .distanceMatrix none]).any
        fun out => decide (out.1.currentPosition = none ∧ out.1.phase = .done)) = true by
          decide +kernel)
    obtain ⟨hposition, hphase⟩ := of_decide_eq_true hq
    have hright := route_agrees (Machine.run_sound hout)
    refine ⟨s, os, Machine.run_sound hout, hposition, ?_⟩
    rw [hright.fetches, if_pos hphase, hright.origin, hposition]
    rfl
  · obtain ⟨⟨s, os⟩, hout, hq⟩ := (Option.any_eq_true _ _).mp (show ((Machine.run (step museo) {}
      [.requestPermission] [.mapCreated, .permission (some .whileInUse), .position (some ⟨14, 121⟩),
        .distanceMatrix (some twelveKilometres)]).any fun out =>
          decide (out.1.currentPosition = some ⟨14, 121⟩ ∧ out.1.phase = .done ∧
            .newLatLngBounds ⟨⟨14, 121⟩, ⟨16, 122⟩⟩ ∈ out.2 ∧
            out.1.markers =
              [⟨"origin", ⟨14, 121⟩, "Starting Location"⟩, ⟨"destination", ⟨16, 122⟩, "Museo"⟩] ∧
            out.1.distance = some "12 km" ∧ out.1.duration = some "20 mins")) = true by
          decide +kernel)
    obtain ⟨hposition, hphase, hbounds, hmarkers, hdistance, hduration⟩ := of_decide_eq_true hq
    have hright := route_agrees (Machine.run_sound hout)
    have horigin : s.origin = ⟨14, 121⟩ := by
      rw [hright.origin, hposition]
      rfl
    have hleast := (hright.bounds _ hbounds).2
    rw [horigin] at hleast
    refine ⟨s, os, Machine.run_sound hout, hposition, ?_, hbounds, hleast, hmarkers, hdistance,
      hduration⟩
    rw [hright.fetches, if_pos hphase, horigin]
    rfl

/-- What the distance service must answer: a row with an element that has both texts. -/
structure Offers (response : HttpResponse) (distance duration : String) : Prop where
  statusCode : response.statusCode = 200
  body : ∃ data row rows element elements distances durations,
    response.body = some (.object data) ∧
    data.lookup "rows" = some (.array (.object row :: rows)) ∧
    row.lookup "elements" = some (.array (.object element :: elements)) ∧
    element.lookup "distance" = some (.object distances) ∧
    distances.lookup "text" = some (.string distance) ∧
    element.lookup "duration" = some (.object durations) ∧
    durations.lookup "text" = some (.string duration)

/-- The text of a part of an element. -/
theorem text_eq_some {element value text : Json} {part s : String}
    (hpart : element.field part = some value) (htext : value.field "text" = some text)
    (hs : text.asString = some s) :
    ∃ fields inner, element = .object fields ∧ fields.lookup part = some (.object inner) ∧
      inner.lookup "text" = some (.string s) := by
  rw [Json.asString_eq_some] at hs
  subst hs
  obtain ⟨inner, rfl, hinner⟩ := (Json.field_eq_some Json.string_ne_null).mp htext
  obtain ⟨fields, rfl, hfields⟩ := (Json.field_eq_some Json.object_ne_null).mp hpart
  exact ⟨fields, inner, rfl, hfields, hinner⟩

/-- Of the responses of all shapes, the distance and the duration are taken from just those that
offer both. -/
theorem getDistanceAndETA_eq_some {response : HttpResponse} {distance duration : String} :
    getDistanceAndETA response = some (distance, duration) ↔ Offers response distance duration := by
  constructor
  · intro h
    obtain ⟨hstatus, h⟩ := Option.ite_none_right_eq_some.mp h
    obtain ⟨data, hdata, h⟩ := Option.bind_eq_some_iff.mp h
    obtain ⟨rows, hrows, h⟩ := Option.bind_eq_some_iff.mp h
    split at h
    case h_1 => cases h
    case h_2 rows hnull =>
      obtain ⟨b, hb, h⟩ := Option.bind_eq_some_iff.mp h
      obtain ⟨-, h⟩ := Option.ite_none_right_eq_some.mp h
      obtain ⟨row, hrow, h⟩ := Option.bind_eq_some_iff.mp h
      obtain ⟨elements, helements, h⟩ := Option.bind_eq_some_iff.mp h
      obtain ⟨element, helement, h⟩ := Option.bind_eq_some_iff.mp h
      obtain ⟨_, hdistance, h⟩ := Option.bind_eq_some_iff.mp h
      obtain ⟨_, hdistanceText, h⟩ := Option.bind_eq_some_iff.mp h
      obtain ⟨_, hdistanceString, h⟩ := Option.bind_eq_some_iff.mp h
      obtain ⟨_, hduration, h⟩ := Option.bind_eq_some_iff.mp h
      obtain ⟨_, hdurationText, h⟩ := Option.bind_eq_some_iff.mp h
      obtain ⟨_, hdurationString, h⟩ := Option.bind_eq_some_iff.mp h
      cases h
      -- from the texts upwards every value turns out to be an object or a list
      obtain ⟨fields, distances, rfl, hdistances, hdistance⟩ :=
        text_eq_some hdistance hdistanceText hdistanceString
      obtain ⟨_, durations, heq, hdurations, hduration⟩ :=
        text_eq_some hduration hdurationText hdurationString
      cases heq
      obtain ⟨others, rfl⟩ := Json.first_eq_object.mp helement
      obtain ⟨row, rfl, hrowElements⟩ := (Json.field_eq_some Json.array_ne_null).mp helements
      obtain ⟨rows, rfl⟩ := Json.first_eq_object.mp hrow
      obtain ⟨data, rfl, hdataRows⟩ := (Json.field_eq_some Json.array_ne_null).mp hrows
      exact ⟨hstatus, data, row, rows, fields, others, distances, durations, hdata, hdataRows,
        hrowElements, hdistances, hdistance, hdurations, hduration⟩
  · rintro ⟨hstatus, data, row, rows, element, elements, distances, durations, hbody, hrows,
      helements, hdistances, hdistance, hdurations, hduration⟩
    simp [getDistanceAndETA, hstatus, hbody, Json.field, hrows, Json.isNotEmpty, Json.first,
      helements, hdistances, hdistance, hdurations, hduration, Json.asString]

end NavigationScreen

end AroundMuseo
