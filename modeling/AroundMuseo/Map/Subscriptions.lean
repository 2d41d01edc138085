import AroundMuseo.Controllers.LocationUpdates
import AroundMuseo.Core.Histories
import AroundMuseo.Core.Segments

/-!
# Subscriptions of closed maps

A screen cancels its subscription when it is closed, if it has one by then. The controller may
still be waiting for the user to grant the permission, and then it subscribes afterwards for a
screen that is gone. Nothing ever cancels such a subscription, but nothing is shown of it either.
-/

namespace AroundMuseo

open Async Async.Prog

abbrev ScreenPool : Type := Pool LocationReply Maps Exn ScreenOperation

abbrev MapHistory : Type := List (Moment LocationReply Maps Exn)

/-- The controller subscribed for a screen that was closed. -/
def SubscribedLate (screen : Nat) (ms : MapHistory) : Prop :=
  ∃ ev ∈ answers ms, ev.call = .listen screen ∧ (ev.state.screens screen).isMounted = false

/-- The position that an event tells; both coordinates may be missing. -/
def LocationData.position (data : LocationData) : Option LatLng :=
  match data.latitude, data.longitude with
  | some latitude, some longitude => some (.ofGeoPoint ⟨latitude, longitude⟩)
  | _, _ => none

/-- The position that an event brings to a screen, if that is open. -/
def broughtPosition (screen : Nat) : Async.Event LocationReply Maps Exn → Option LatLng
  | ⟨m, .locationChanged screen', .ok data⟩ =>
    if screen' = screen ∧ (m.screens screen).isMounted = true then data.position else none
  | _ => none

/-- The last position that an event brought. -/
def lastPosition (screen : Nat) (ms : MapHistory) : Option LatLng :=
  ((answers ms).filterMap (broughtPosition screen)).getLast?

/-- What the history says of a screen, where no operation is in the middle of a segment. -/
structure ScreenRight (ms : MapHistory) (m : Maps) (screen : Nat) : Prop where
  fresh : m.opened ≤ screen → m.screens screen = {} ∧ m.listening screen = false
  known : m.listening screen = true → (m.screens screen).hasSubscription = true
  late : m.listening screen = true ∧ (m.screens screen).isMounted = false ↔ SubscribedLate screen ms
  position : (m.screens screen).currentPosition = lastPosition screen ms

/-- The maps agree with the history. -/
def MapsRight (ms : MapHistory) (m : Maps) : Prop := ∀ screen, ScreenRight ms m screen

/-- Screens are only ever added. -/
def MoreOpened (m m' : Maps) : Prop := m.opened ≤ m'.opened

theorem moreOpened_refl (m : Maps) : MoreOpened m m := Nat.le_refl _

theorem moreOpened_trans {m m' m'' : Maps} (h : MoreOpened m m') (h' : MoreOpened m' m'') :
    MoreOpened m m'' := Nat.le_trans h h'

section History

variable {screen screen' : Nat} {ms : MapHistory} {m m' : Maps}

theorem subscribedLate_answered {ev : Async.Event LocationReply Maps Exn} :
    SubscribedLate screen (ms ++ [.answered ev]) ↔ SubscribedLate screen ms ∨
      ev.call = .listen screen ∧ (ev.state.screens screen).isMounted = false := by
  simp [SubscribedLate, answers, or_and_right, exists_or]

theorem subscribedLate_issued {c : LocationCall} :
    SubscribedLate screen (ms ++ [.issued m c]) ↔ SubscribedLate screen ms := by
  simp [SubscribedLate, answers]

theorem lastPosition_answered {ev : Async.Event LocationReply Maps Exn} :
    lastPosition screen (ms ++ [.answered ev]) =
      (broughtPosition screen ev).or (lastPosition screen ms) := by
  cases h : broughtPosition screen ev <;> simp [lastPosition, answers, h]

theorem lastPosition_issued {c : LocationCall} :
    lastPosition screen (ms ++ [.issued m c]) = lastPosition screen ms := by
  simp [lastPosition, answers]

/-- An answer that neither subscribes nor brings a position, and what it may not touch. -/
theorem ScreenRight.answered {ev : Async.Event LocationReply Maps Exn}
    (h : ScreenRight ms m screen) (hlisten : ev.call ≠ .listen screen)
    (hbrought : broughtPosition screen ev = none) (hopened : m.opened ≤ m'.opened)
    (hscreen : m'.screens screen = m.screens screen)
    (hlistening : m'.listening screen = m.listening screen) :
    ScreenRight (ms ++ [.answered ev]) m' screen := by
  constructor
  · intro hfresh
    rw [hscreen, hlistening]
    exact h.fresh (hopened.trans hfresh)
  · rw [hscreen, hlistening]
    exact h.known
  · rw [hscreen, hlistening, subscribedLate_answered, h.late]
    simp [hlisten]
  · rw [hscreen, lastPosition_answered, hbrought]
    exact h.position

theorem MapsRight.issued {c : LocationCall} (h : MapsRight ms m) :
    MapsRight (ms ++ [.issued m c]) m := by
  intro screen
  refine ⟨(h screen).fresh, (h screen).known, ?_, ?_⟩
  · rw [subscribedLate_issued]
    exact (h screen).late
  · rw [lastPosition_issued]
    exact (h screen).position

/-- The plugin answers a question. -/
theorem MapsRight.served {c : LocationCall} {r : Except Exn (LocationReply c)}
    (ha : locationPlatform.awaited c = true) (hr : locationPlatform.perform c m r = some m')
    (h : MapsRight ms m) : MapsRight (ms ++ [.answered ⟨m, c, r⟩]) m' ∧ MoreOpened m m' := by
  have hm : m' = m := by
    cases r with
    | ok v => cases c <;> first | (cases hr; rfl) | cases ha
    | error e =>
      rw [Platform.perform, if_pos ha] at hr
      exact (Option.some.inj hr).symm
  subst hm
  refine ⟨fun screen => ?_, moreOpened_refl _⟩
  apply (h screen).answered _ _ le_rfl rfl rfl
  · intro heq
    have heq : c = .listen screen := heq
    subst heq
    cases ha
  · cases c <;> first | rfl | cases ha

/-- A new screen is opened. -/
theorem MapsRight.opened (h : MapsRight ms m) : MapsRight ms
    { m.setScreen m.opened fun _ => { isMounted := true } with opened := m.opened + 1 } := by
  intro screen
  by_cases hscreen : screen = m.opened
  · subst hscreen
    obtain ⟨hempty, hsilent⟩ := (h m.opened).fresh le_rfl
    have hlate := (h m.opened).late
    have hposition := (h m.opened).position
    rw [hempty] at hlate hposition
    constructor
    · intro hfresh
      exact absurd hfresh (Nat.not_succ_le_self _)
    · intro hlistening
      exact absurd (hsilent.symm.trans hlistening) Bool.false_ne_true
    · simp [← hlate, hsilent]
    · simp [← hposition]
  · constructor
    · intro hfresh
      simp only [Maps.setScreen_of_ne hscreen, Maps.setScreen_listening]
      exact (h screen).fresh (Nat.le_of_succ_le hfresh)
    · simp only [Maps.setScreen_of_ne hscreen, Maps.setScreen_listening]
      exact (h screen).known
    · simp only [Maps.setScreen_of_ne hscreen, Maps.setScreen_listening]
      exact (h screen).late
    · simp only [Maps.setScreen_of_ne hscreen]
      exact (h screen).position

/-- A controller subscribes; if its screen is closed by then, it does so late. -/
theorem MapsRight.listened (h : MapsRight ms m) (hopened : screen < m.opened) :
    MapsRight (ms ++ [.answered ⟨m, .listen screen, .ok ()⟩])
      (Maps.setScreen screen ({ · with hasSubscription := true })
        { m with listening := Function.update m.listening screen true }) := by
  intro screen'
  by_cases hscreen : screen' = screen
  · subst hscreen
    constructor
    · intro hfresh
      exact absurd hopened (Nat.not_lt_of_le hfresh)
    · intro _
      simp
    · rw [subscribedLate_answered, ← (h screen').late]
      simp only [Maps.setScreen_self, Maps.setScreen_listening, Function.update_self]
      tauto
    · rw [lastPosition_answered, Maps.setScreen_self]
      exact (h screen').position
  · apply (h screen').answered
    · exact fun heq => hscreen (LocationCall.listen.inj heq).symm
    · rfl
    · exact le_rfl
    · exact Maps.setScreen_of_ne hscreen
    · exact Function.update_of_ne hscreen _ _

/-- A screen without a subscription is closed. -/
theorem MapsRight.closed (h : MapsRight ms m) (hmounted : (m.screens screen).isMounted = true)
    (hnone : (m.screens screen).hasSubscription = false) :
    MapsRight ms (m.setScreen screen ({ · with isMounted := false })) := by
  intro screen'
  by_cases hscreen : screen' = screen
  · subst hscreen
    have hsilent : m.listening screen' = false := by
      rw [← Bool.not_eq_true]
      intro hlistening
      rw [(h screen').known hlistening] at hnone
      cases hnone
    constructor
    · intro hfresh
      rw [((h screen').fresh hfresh).1] at hmounted
      cases hmounted
    · intro hlistening
      exact absurd (hsilent.symm.trans hlistening) Bool.false_ne_true
    · simp [← (h screen').late, hsilent]
    · rw [Maps.setScreen_self]
      exact (h screen').position
  · constructor
    · simp only [Maps.setScreen_of_ne hscreen, Maps.setScreen_listening]
      exact (h screen').fresh
    · simp only [Maps.setScreen_of_ne hscreen, Maps.setScreen_listening]
      exact (h screen').known
    · simp only [Maps.setScreen_of_ne hscreen, Maps.setScreen_listening]
      exact (h screen').late
    · simp only [Maps.setScreen_of_ne hscreen]
      exact (h screen').position

/-- A screen with a subscription is closed, and cancels it. -/
theorem MapsRight.cancelled {m₁ : Maps} (h : MapsRight ms m)
    (hmounted : (m.screens screen).isMounted = true)
    (hm₁ : m₁ = m.setScreen screen ({ · with isMounted := false })) :
    MapsRight (ms ++ [.answered ⟨m₁, .cancel screen, .ok ()⟩])
      { m₁ with listening := Function.update m₁.listening screen false } := by
  subst hm₁
  intro screen'
  by_cases hscreen : screen' = screen
  · subst hscreen
    constructor
    · intro hfresh
      rw [((h screen').fresh hfresh).1] at hmounted
      cases hmounted
    · intro hlistening
      simp at hlistening
    · rw [subscribedLate_answered, ← (h screen').late]
      simp [hmounted]
    · rw [lastPosition_answered, Maps.setScreen_self]
      exact (h screen').position
  · apply (h screen').answered
    · exact nofun
    · rfl
    · exact le_rfl
    · dsimp only
      exact Maps.setScreen_of_ne hscreen
    · exact Function.update_of_ne hscreen _ _

/-- An event brings a position to an open screen. -/
theorem MapsRight.moved (h : MapsRight ms m) {data : LocationData} {position : LatLng}
    (hmounted : (m.screens screen).isMounted = true) (hdata : data.position = some position) :
    MapsRight (ms ++ [.answered ⟨m, .locationChanged screen, .ok data⟩])
      (m.setScreen screen ({ · with currentPosition := some position })) := by
  intro screen'
  by_cases hscreen : screen' = screen
  · subst hscreen
    constructor
    · intro hfresh
      rw [((h screen').fresh hfresh).1] at hmounted
      cases hmounted
    · rw [Maps.setScreen_self]
      exact (h screen').known
    · rw [subscribedLate_answered, Maps.setScreen_self]
      simpa using (h screen').late
    · rw [lastPosition_answered, broughtPosition, if_pos ⟨rfl, hmounted⟩, hdata,
        Maps.setScreen_self]
      rfl
  · apply (h screen').answered
    · exact nofun
    · exact if_neg fun hsame => hscreen hsame.1.symm
    · exact le_rfl
    · exact Maps.setScreen_of_ne hscreen
    · rfl

/-- An event that brings nothing is dropped. -/
theorem MapsRight.dropped (h : MapsRight ms m) {data : LocationData}
    (hnone : data.position = none ∨ (m.screens screen).isMounted = false) :
    MapsRight (ms ++ [.answered ⟨m, .locationChanged screen, .ok data⟩]) m := by
  intro screen'
  apply (h screen').answered
  · exact nofun
  · rw [broughtPosition]
    split
    case isTrue hopen =>
      obtain ⟨rfl, hmounted⟩ := hopen
      exact hnone.resolve_right fun hclosed => by simp [hmounted] at hclosed
    case isFalse => rfl
  · exact le_rfl
  · rfl
  · rfl

end History

section Operations

variable {screen : Nat} {ms : MapHistory} {m₀ m : Maps}

/-- What every segment of a map ends with. -/
abbrev MapUpholds (p : MapApp Unit) (ms : MapHistory) (m₀ m : Maps) : Prop :=
  p.Upholds locationPlatform MapsRight MoreOpened
    (fun _ ms m₀ m => MapsRight ms m ∧ MoreOpened m₀ m) ms m₀ m

/-- A question to the plugin, for a screen that was opened. -/
theorem upholds_locate {c : LocationCall} (ha : locationPlatform.awaited c = true)
    {f : LocationReply c → MapApp Unit} (hinv : MapsRight ms m) (hrely : MoreOpened m₀ m)
    (hopened : screen < m.opened)
    (h : ∀ a ms m, MapsRight ms m → screen < m.opened → MapUpholds (f a) ms m m) :
    MapUpholds (locate c >>= f) ms m₀ m := by
  apply upholds_bind
  apply upholds_invoke ha hinv.issued hrely
  intro r ms' m' _ hmore hinv'
  cases r with
  | ok a => exact h a ms' m' hinv' (hopened.trans_le hmore)
  | error e => exact ⟨hinv', moreOpened_refl _⟩

theorem upholds_listen (hinv : MapsRight ms m) (hrely : MoreOpened m₀ m)
    (hopened : screen < m.opened) : MapUpholds (MapController.listen screen) ms m₀ m := by
  apply upholds_bind
  apply upholds_invoke_sync rfl
  intro a m' hm'
  cases hm'
  exact ⟨hinv.listened hopened, hrely⟩

theorem upholds_listenIfPermitted (hinv : MapsRight ms m) (hopened : screen < m.opened) :
    MapUpholds (MapController.listenIfPermitted screen) ms m m := by
  apply upholds_locate rfl hinv (moreOpened_refl _) hopened
  intro permissionGranted ms m hinv hopened
  split
  · apply upholds_locate rfl hinv (moreOpened_refl _) hopened
    intro permissionGranted ms m hinv hopened
    split
    · exact upholds_listen hinv (moreOpened_refl _) hopened
    · exact ⟨hinv, moreOpened_refl _⟩
  · exact upholds_listen hinv (moreOpened_refl _) hopened

theorem upholds_getLocationUpdates (hinv : MapsRight ms m) (hrely : MoreOpened m₀ m)
    (hopened : screen < m.opened) :
    MapUpholds (MapController.getLocationUpdates screen) ms m₀ m := by
  apply upholds_locate rfl hinv hrely hopened
  intro serviceEnabled ms m hinv hopened
  split
  · exact upholds_listenIfPermitted hinv hopened
  · apply upholds_locate rfl hinv (moreOpened_refl _) hopened
    intro serviceEnabled ms m hinv hopened
    split
    · exact upholds_listenIfPermitted hinv hopened
    · exact ⟨hinv, moreOpened_refl _⟩

theorem upholds_dispose (hinv : MapsRight ms m) (hrely : MoreOpened m₀ m) :
    MapUpholds (MapScreen.dispose screen) ms m₀ m := by
  apply upholds_read_bind.mpr
  split
  case isFalse => exact ⟨hinv, hrely⟩
  case isTrue hmounted =>
    apply upholds_modify_bind.mpr
    apply upholds_read_bind.mpr
    rw [Maps.setScreen_self]
    split
    case isTrue =>
      apply upholds_invoke_sync rfl
      intro a m' hm'
      cases hm'
      exact ⟨hinv.cancelled hmounted rfl, hrely⟩
    case isFalse hnone =>
      exact ⟨hinv.closed hmounted (Bool.eq_false_iff.mpr hnone), hrely⟩

theorem upholds_onLocationChanged (hinv : MapsRight ms m) (hrely : MoreOpened m₀ m) :
    MapUpholds (MapScreen.onLocationChanged screen) ms m₀ m := by
  apply upholds_bind
  apply upholds_invoke_sync rfl
  intro data m' hm'
  obtain ⟨-, hm'⟩ := Option.ite_none_right_eq_some.mp hm'
  cases hm'
  dsimp only
  split
  case h_1 latitude longitude hlatitude hlongitude =>
    apply upholds_read_bind.mpr
    split
    case isTrue hmounted =>
      refine ⟨hinv.moved hmounted ?_, hrely⟩
      rw [LocationData.position, hlatitude, hlongitude]
    case isFalse hclosed => exact ⟨hinv.dropped (.inr (Bool.eq_false_iff.mpr hclosed)), hrely⟩
  case h_2 hincomplete =>
    refine ⟨hinv.dropped (.inl ?_), hrely⟩
    rw [LocationData.position]
    split
    case h_1 hlatitude hlongitude => exact (hincomplete _ _ hlatitude hlongitude).elim
    case h_2 => rfl

theorem ScreenOperation.steady (op : ScreenOperation) :
    op.body.Steady locationPlatform MapsRight MoreOpened := by
  intro ms m₀ m hinv hrely
  cases op with
  | initState =>
    apply upholds_read_bind.mpr
    apply upholds_modify_bind.mpr
    exact upholds_getLocationUpdates hinv.opened (Nat.le_succ_of_le hrely) (Nat.lt_succ_self _)
  | dispose screen => exact upholds_dispose hinv hrely
  | onLocationChanged screen => exact upholds_onLocationChanged hinv hrely

end Operations

theorem mapsRight_start : MapsRight [] {} := by
  intro screen
  refine ⟨fun _ => ⟨rfl, rfl⟩, nofun, ?_, rfl⟩
  simp [SubscribedLate, answers]

theorem mapsRight_of_run {ms : MapHistory} {c : ScreenPool}
    (hrun : Pool.Run locationPlatform ScreenOperation.body ⟨{}, []⟩ ms c) :
    MapsRight ms c.state := by
  have hserve (c : LocationCall) (ms : MapHistory) (m₀ m m' : Maps)
      (r : Except Exn (LocationReply c)) (ha : locationPlatform.awaited c = true)
      (_ : .issued m₀ c ∈ ms) (hr : locationPlatform.perform c m r = some m')
      (hinv : MapsRight ms m) :
      MapsRight (ms ++ [.answered ⟨m, c, r⟩]) m' ∧ MoreOpened m m' := hinv.served ha hr
  exact (hrun.upholds moreOpened_refl (fun _ _ _ => moreOpened_trans) ScreenOperation.steady hserve
    (Pool.upholds_start mapsRight_start)).1.inv

/-- In every interleaving the subscriptions that are served for closed screens are those that the
controllers made after the closing. -/
theorem subscription_outlives_iff {ms : MapHistory} {c : ScreenPool}
    (hrun : Pool.Run locationPlatform ScreenOperation.body ⟨{}, []⟩ ms c) (screen : Nat) :
    c.state.listening screen = true ∧ (c.state.screens screen).isMounted = false ↔
      SubscribedLate screen ms := (mapsRight_of_run hrun screen).late

/-- The answers of the plugin: the permission is asked for, and all is granted. -/
def grantingAll (_ : Maps) : (c : LocationCall) → Except Exn (LocationReply c)
  | .serviceEnabled | .requestService => .ok true
  | .hasPermission => .ok .denied
  | .requestPermission => .ok .granted
  | .listen _ | .cancel _ => .ok ()
  | .locationChanged _ => .ok ⟨some 15, some 121⟩

/-- The run of the maps in which the moves happen in the given order. -/
theorem map_pool_run (moves : List (Pool.Move ScreenOperation)) (q : MapHistory × ScreenPool → Bool)
    (h : ((⟨{}, []⟩ : ScreenPool).follow locationPlatform ScreenOperation.body grantingAll
      moves).any q = true) :
    ∃ ms c, Pool.Run locationPlatform ScreenOperation.body ⟨{}, []⟩ ms c ∧ q (ms, c) = true :=
  Pool.exists_run_of_follow moves h

/-- The map is closed while the user is asked. The subscription that is made then is served on. -/
theorem subscription_outlives_iff_closed : ∃ (ms : MapHistory) (c : ScreenPool),
    Pool.Run locationPlatform ScreenOperation.body ⟨{}, []⟩ ms c ∧ c.Quiescent ∧
      SubscribedLate 0 ms := by
  obtain ⟨ms, c, hrun, hq⟩ := map_pool_run
    [.start .initState, .go 0, .go 0, .go 0, .go 0, .go 0, .start (.dispose 0), .go 0]
    (fun out => decide out.2.Quiescent &&
      (out.2.state.listening 0 && decide ((out.2.state.screens 0).isMounted = false)))
    (by decide +kernel)
  obtain ⟨hquiet, hserved⟩ := Bool.and_eq_true_iff.mp hq
  obtain ⟨hlistening, hclosed⟩ := Bool.and_eq_true_iff.mp hserved
  refine ⟨ms, c, hrun, of_decide_eq_true hquiet, ?_⟩
  exact (subscription_outlives_iff hrun 0).mp ⟨hlistening, of_decide_eq_true hclosed⟩

/-- In every interleaving each screen shows the last position that an event brought while it was
open; the position of a closed screen stays. -/
theorem currentPosition_is_last {ms : MapHistory} {c : ScreenPool}
    (hrun : Pool.Run locationPlatform ScreenOperation.body ⟨{}, []⟩ ms c) (screen : Nat) :
    (c.state.screens screen).currentPosition = lastPosition screen ms :=
  (mapsRight_of_run hrun screen).position

/-- Two maps are opened and one is closed before the events come. -/
theorem currentPosition_is_last_second : ∃ (ms : MapHistory) (c : ScreenPool),
    Pool.Run locationPlatform ScreenOperation.body ⟨{}, []⟩ ms c ∧ lastPosition 0 ms = none ∧
      (c.state.screens 1).currentPosition = some ⟨15, 121⟩ := by
  obtain ⟨ms, c, hrun, hq⟩ := map_pool_run
    [.start .initState, .go 0, .go 0, .go 0, .go 0, .go 0, .go 0, .start .initState, .go 1, .go 1,
      .go 1, .go 1, .go 1, .go 1, .start (.dispose 0), .start (.onLocationChanged 1)]
    (fun out => decide ((out.2.state.screens 0).currentPosition = none) &&
      decide (lastPosition 1 out.1 = some ⟨15, 121⟩))
    (by decide +kernel)
  obtain ⟨hfirst, hsecond⟩ := Bool.and_eq_true_iff.mp hq
  refine ⟨ms, c, hrun, ?_, ?_⟩
  · rw [← currentPosition_is_last hrun 0]
    exact of_decide_eq_true hfirst
  · rw [currentPosition_is_last hrun 1]
    exact of_decide_eq_true hsecond

end AroundMuseo
