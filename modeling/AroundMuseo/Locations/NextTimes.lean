import AroundMuseo.Locations.OpenStatus

/-!
# The advertised times

The next opening is the earliest one within a week, and the closing is today's. Both
functions compare hours with the hour of now and otherwise look for the first entry of the
seven days after today. They name the wrong day exactly when now is in the hour of opening
or closing, before the time, and some other day of the week has an entry too.
-/

namespace AroundMuseo

open LocationController

section Weekdays

theorem weekdayName_add_seven (day : Int) : weekdayName (day + (7 : Nat)) = weekdayName day := by
  have hmod : (day + (7 : Nat)) % 7 = day % 7 := by omega
  rw [weekdayName, weekdayName, hmod]

theorem length_weekdayName (day : Int) : (weekdayName day).toList.length = 3 := by
  unfold weekdayName
  split <;> rfl

theorem weekdayName_emod (day : Int) : weekdayName (day % 7) = weekdayName day := by
  rw [weekdayName, weekdayName, Int.emod_emod]

theorem weekdayName_injective {day day' : Int} (h : weekdayName day = weekdayName day') :
    day % 7 = day' % 7 := by
  have hfin : ∀ i j : Fin 7, weekdayName i.1 = weekdayName j.1 → i = j := by decide
  have hcast (d : Int) : ((d % 7).toNat : Int) = d % 7 := by omega
  have heq := hfin ⟨(day % 7).toNat, by omega⟩ ⟨(day' % 7).toNat, by omega⟩ (by
    rw [hcast, hcast, weekdayName_emod, weekdayName_emod]
    exact h)
  have hnat := congrArg Fin.val heq
  simp only at hnat
  omega

/-- The weekday is read off a text that starts with it. -/
theorem weekdayName_of_append {day day' : Int} {time time' : String}
    (h : weekdayName day ++ ", " ++ time = weekdayName day' ++ ", " ++ time') :
    weekdayName day = weekdayName day' := by
  have hlist := congrArg String.toList h
  simp only [String.toList_append, List.append_assoc] at hlist
  have hlength : (weekdayName day).toList.length = (weekdayName day').toList.length := by
    rw [length_weekdayName, length_weekdayName]
  exact String.toList_inj.mp (List.append_inj_left hlist hlength)

end Weekdays

/-- The first element that a search of consecutive numbers finds. -/
theorem filterMap_range'_eq_cons {α : Type} {f : Nat → Option α} {n s : Nat} {x : α} {rest : List α}
    (h : (List.range' s n).filterMap f = x :: rest) :
    ∃ i, s ≤ i ∧ i < s + n ∧ f i = some x ∧ ∀ j, s ≤ j → j < i → f j = none := by
  induction n generalizing s with
  | zero => cases h
  | succ n ih =>
    rw [List.range'_succ, List.filterMap_cons] at h
    cases hs : f s with
    | some y =>
      rw [hs] at h
      obtain ⟨rfl, -⟩ := List.cons.inj h
      exact ⟨s, le_rfl, by omega, hs, fun j hj hlt => by omega⟩
    | none =>
      rw [hs] at h
      obtain ⟨i, hi, hlt, hfi, hbefore⟩ := ih h
      refine ⟨i, by omega, by omega, hfi, fun j hj hji => ?_⟩
      by_cases hjs : j = s
      · rw [hjs, hs]
      · exact hbefore j (by omega) hji

namespace Calendar

variable {intl : Intl} (cal : Calendar intl)

/-- The schedule opens at a time of a day. -/
def OpensAt (schedule : Schedule) (day : Int) (openTime : Nat) : Prop :=
  ∃ closeTime, cal.entry schedule day = some (openTime, closeTime)

/-- An opening after now and within the next seven days. -/
def Upcoming (schedule : Schedule) (now : DateTime) (day : Int) (openTime : Nat) : Prop :=
  cal.OpensAt schedule day openTime ∧
    cal.day now * 1440 + cal.minute now < day * 1440 + openTime ∧
    day * 1440 + openTime ≤ cal.day now * 1440 + cal.minute now + 7 * 1440

/-- The earliest of the openings that are upcoming. -/
def NextOpening (schedule : Schedule) (now : DateTime) (day : Int) (openTime : Nat) : Prop :=
  cal.Upcoming schedule now day openTime ∧ ∀ day' openTime',
    cal.Upcoming schedule now day' openTime' → day * 1440 + openTime ≤ day' * 1440 + openTime'

/-- The text names the weekday of the day and the time. -/
def Names (text : String) (day : Int) (time : Nat) : Prop :=
  ∃ timeText t, text = weekdayName day ++ ", " ++ timeText ∧ cal.minute t = time ∧
    (timeText = intl.jm t ∨ parseTimeString intl timeText = .ok t)

/-- No call throws, and if the location is closed then the next opening is named. -/
def OpensRight (schedule : Schedule) (now : DateTime) : Prop :=
  ∃ text, whenToOpen intl schedule now = .ok text ∧ (¬ cal.OpenAt schedule now →
    (∃ day openTime, cal.NextOpening schedule now day openTime ∧ cal.Names text day openTime) ∨
    (∀ day openTime, ¬ cal.Upcoming schedule now day openTime) ∧ text = "Closed")

/-- No call throws, and during today's interval its end is named. -/
def ClosesRight (schedule : Schedule) (now : DateTime) : Prop :=
  ∃ text, whenToClose intl schedule now = .ok text ∧ ∀ e ∈ cal.entry schedule (cal.day now),
    e.1 ≤ cal.minute now → cal.minute now < e.2 → cal.Names text (cal.day now) e.2

/-- Entries end on the day they start. -/
def SameDay (schedule : Schedule) : Prop :=
  ∀ day e, cal.entry schedule day = some e → e.1 < e.2

/-- Another day of the week than today has an entry. -/
def OtherDay (schedule : Schedule) (now : DateTime) : Prop :=
  ∃ i : Nat, 1 ≤ i ∧ i < 7 ∧ cal.entry schedule (cal.day now + i) ≠ none

section Entries

variable {schedule : Schedule} {days : List (String × String)} {now : DateTime} {day : Int}

theorem entry_add_seven (schedule : Schedule) (day : Int) :
    cal.entry schedule (day + (7 : Nat)) = cal.entry schedule day := by
  rw [entry, entry, weekdayName_add_seven]

theorem timeOf_lt {hours : String} {i time : Nat} (h : cal.timeOf hours i = some time) :
    time < 1440 := by
  rw [timeOf] at h
  split at h
  · cases h
    exact cal.minute_lt _
  · cases h

theorem entry_lt {e : Nat × Nat} (h : cal.entry schedule day = some e) :
    e.1 < 1440 ∧ e.2 < 1440 := by
  simp only [entry, Option.bind_eq_bind, Option.bind_eq_some_iff, Option.pure_def] at h
  obtain ⟨days, -, hours, -, openTime, hopen, closeTime, hclose, he⟩ := h
  cases he
  exact ⟨cal.timeOf_lt hopen, cal.timeOf_lt hclose⟩

/-- An entry with its texts. -/
theorem exists_parts (h : EntriesParse intl (some days)) {hours : String}
    (hhours : hoursOf days (weekdayName day) = some hours) :
    ∃ part₀ part₁ openTime closeTime, hoursPart hours 0 = .ok part₀ ∧
      hoursPart hours 1 = .ok part₁ ∧ parseTimeString intl part₀ = .ok openTime ∧
      parseTimeString intl part₁ = .ok closeTime ∧
      cal.entry (some days) day = some (cal.minute openTime, cal.minute closeTime) := by
  have hwf := h days rfl _ _ hhours
  obtain ⟨part₀, openTime, hpart₀, hopen, htime₀⟩ := cal.exists_times hwf (i := 0) (by decide)
  obtain ⟨part₁, closeTime, hpart₁, hclose, htime₁⟩ := cal.exists_times hwf (i := 1) (by decide)
  exact ⟨part₀, part₁, openTime, closeTime, hpart₀, hpart₁, hopen, hclose,
    cal.entry_of_times hhours htime₀ htime₁⟩

theorem hoursOf_eq_none_iff (h : EntriesParse intl (some days)) :
    hoursOf days (weekdayName day) = none ↔ cal.entry (some days) day = none := by
  constructor
  · exact cal.entry_of_hoursOf_none
  · intro hentry
    cases hhours : hoursOf days (weekdayName day) with
    | none => rfl
    | some hours =>
      obtain ⟨_, _, _, _, -, -, -, -, heq⟩ := cal.exists_parts h hhours
      rw [hentry] at heq
      cases heq

/-- The part of an entry with the time that it denotes. -/
def part (e : Nat × Nat) : Nat → Nat
  | 0 => e.1
  | _ => e.2

/-- The first day after today with an entry, of which a part is shown. -/
structure FirstAfter (schedule : Schedule) (now : DateTime) (k : Nat) (text : String) (i : Nat)
    (e : Nat × Nat) : Prop where
  pos : 1 ≤ i
  le : i ≤ 7
  entry : cal.entry schedule (cal.day now + i) = some e
  before : ∀ j : Nat, 1 ≤ j → j < i → cal.entry schedule (cal.day now + j) = none
  names : cal.Names text (cal.day now + i) (part e k)
  text : ∃ time, text = weekdayName (cal.day now + i) ++ ", " ++ time

/-- What the search over the next seven days finds. -/
theorem nextDay_spec (h : EntriesParse intl (some days)) (now : DateTime) {k : Nat} (hk : k < 2) :
    nextDay intl now days k = .ok none ∧
      (∀ i : Nat, 1 ≤ i → i ≤ 7 → cal.entry (some days) (cal.day now + i) = none) ∨
    ∃ text i e, nextDay intl now days k = .ok (some text) ∧
      cal.FirstAfter (some days) now k text i e := by
  have hday (i : Nat) : intl.dayName (addDays now i) = weekdayName (cal.day now + i) := by
    rw [cal.dayName_eq, cal.day_addDays]
  rw [nextDay]
  simp only [hday]
  split
  case h_1 name hours rest hfind =>
    obtain ⟨i, hpos, hlt, hi, hbefore⟩ := filterMap_range'_eq_cons hfind
    obtain ⟨hours', hhours, heq⟩ := Option.map_eq_some_iff.mp hi
    cases heq
    obtain ⟨part₀, part₁, openTime, closeTime, hpart₀, hpart₁, hopen, hclose, hentry⟩ :=
      cal.exists_parts h hhours
    have hnone : ∀ j : Nat, 1 ≤ j → j < i → cal.entry (some days) (cal.day now + j) = none := by
      intro j hj hji
      exact cal.entry_of_hoursOf_none (Option.map_eq_none_iff.mp (hbefore j hj hji))
    right
    obtain rfl | rfl : k = 0 ∨ k = 1 := by omega
    · rw [hpart₀]
      exact ⟨_, i, _, rfl, hpos, by omega, hentry, hnone,
        ⟨part₀, openTime, rfl, rfl, .inr hopen⟩, ⟨part₀, rfl⟩⟩
    · rw [hpart₁]
      exact ⟨_, i, _, rfl, hpos, by omega, hentry, hnone,
        ⟨part₁, closeTime, rfl, rfl, .inr hclose⟩, ⟨part₁, rfl⟩⟩
  case h_2 hfind =>
    refine .inl ⟨rfl, fun i hpos hle => ?_⟩
    have hi := List.filterMap_eq_nil_iff.mp hfind i (by simp; omega)
    exact cal.entry_of_hoursOf_none (Option.map_eq_none_iff.mp hi)

/-- Either today's opening is ahead by the hour, or the search decides. -/
theorem whenToOpen_cases (h : EntriesParse intl (some days)) (now : DateTime) :
    (∃ e text, cal.entry (some days) (cal.day now) = some e ∧
      cal.minute now / 60 < e.1 / 60 ∧ whenToOpen intl (some days) now = .ok text ∧
      cal.Names text (cal.day now) e.1) ∨
    (∀ e ∈ cal.entry (some days) (cal.day now), e.1 / 60 ≤ cal.minute now / 60) ∧
      ((∀ i : Nat, 1 ≤ i → i ≤ 7 → cal.entry (some days) (cal.day now + i) = none) ∧
        whenToOpen intl (some days) now = .ok "Closed" ∨
      ∃ text i e, whenToOpen intl (some days) now = .ok text ∧
        cal.FirstAfter (some days) now 0 text i e) := by
  have hnext : (∀ i : Nat, 1 ≤ i → i ≤ 7 → cal.entry (some days) (cal.day now + i) = none) ∧
      (do return (← nextDay intl now days 0).getD "Closed" : Except Exn String) = .ok "Closed" ∨
      ∃ text i e, (do return (← nextDay intl now days 0).getD "Closed" : Except Exn String) =
        .ok text ∧ cal.FirstAfter (some days) now 0 text i e := by
    rcases cal.nextDay_spec h now (k := 0) (by decide) with ⟨heq, hnone⟩ | ⟨text, i, e, heq, hfirst⟩
    · rw [heq]
      exact .inl ⟨hnone, rfl⟩
    · rw [heq]
      exact .inr ⟨text, i, e, rfl, hfirst⟩
  simp only [whenToOpen, cal.dayName_eq]
  cases hhours : hoursOf days (weekdayName (cal.day now)) with
  | none =>
    have htoday := (cal.hoursOf_eq_none_iff h).mp hhours
    exact .inr ⟨by simp [htoday], hnext⟩
  | some hours =>
    obtain ⟨part₀, -, openTime, closeTime, hpart₀, -, hopen, -, htoday⟩ := cal.exists_parts h hhours
    simp only [hpart₀, hopen, bind, Except.bind, cal.hour_eq, htoday] at hnext ⊢
    by_cases hhour : cal.minute now / 60 < cal.minute openTime / 60
    · rw [if_pos hhour]
      exact .inl ⟨_, _, rfl, hhour, rfl, ⟨intl.jm openTime, openTime, rfl, rfl, .inl rfl⟩⟩
    · rw [if_neg hhour]
      exact .inr ⟨by simpa using hhour, hnext⟩

/-- Either today is closed, or its closing is ahead by the hour, or the search decides. -/
theorem whenToClose_cases (h : EntriesParse intl (some days)) (now : DateTime) :
    cal.entry (some days) (cal.day now) = none ∧ whenToClose intl (some days) now = .ok "Closed" ∨
    ∃ e text, cal.entry (some days) (cal.day now) = some e ∧
      whenToClose intl (some days) now = .ok text ∧
      (cal.minute now / 60 < e.2 / 60 ∧ cal.Names text (cal.day now) e.2 ∨
        e.2 / 60 ≤ cal.minute now / 60 ∧ ∃ i e', cal.FirstAfter (some days) now 1 text i e') := by
  simp only [whenToClose, cal.dayName_eq]
  cases hhours : hoursOf days (weekdayName (cal.day now)) with
  | none => exact .inl ⟨(cal.hoursOf_eq_none_iff h).mp hhours, rfl⟩
  | some hours =>
    obtain ⟨-, part₁, openTime, closeTime, -, hpart₁, -, hclose, htoday⟩ :=
      cal.exists_parts h hhours
    simp only [hpart₁, hclose, bind, Except.bind, cal.hour_eq, htoday]
    right
    by_cases hhour : cal.minute now / 60 < cal.minute closeTime / 60
    · rw [if_pos hhour]
      exact ⟨_, _, rfl, rfl, .inl ⟨hhour, ⟨intl.jm closeTime, closeTime, rfl, rfl, .inl rfl⟩⟩⟩
    · rw [if_neg hhour]
      rcases cal.nextDay_spec h now (k := 1) (by decide) with ⟨-, hnone⟩ | ⟨text, i, e, heq, hfirst⟩
      · -- The search comes round to today's entry.
        have hweek := hnone 7 (by decide) le_rfl
        rw [cal.entry_add_seven, htoday] at hweek
        cases hweek
      · rw [heq]
        exact ⟨_, text, rfl, rfl, .inr ⟨Nat.le_of_not_lt hhour, i, e, hfirst⟩⟩

/-- An opening is upcoming today, or on one of the seven days after. -/
theorem Upcoming.cases {openTime : Nat} (h : cal.Upcoming schedule now day openTime) :
    day = cal.day now ∧ cal.minute now < openTime ∨
      ∃ j : Nat, 1 ≤ j ∧ j ≤ 7 ∧ day = cal.day now + j := by
  obtain ⟨⟨closeTime, hentry⟩, hafter, hweek⟩ := h
  have hopen := (cal.entry_lt hentry).1
  have hminute := cal.minute_lt now
  by_cases htoday : day = cal.day now
  · exact .inl ⟨htoday, by omega⟩
  · exact .inr ⟨(day - cal.day now).toNat, by omega, by omega, by omega⟩

/-- The first entry after today is the next opening, if today's opening is over. -/
theorem FirstAfter.nextOpening {text : String} {i : Nat} {e : Nat × Nat}
    (h : cal.FirstAfter schedule now 0 text i e)
    (htoday : ∀ e ∈ cal.entry schedule (cal.day now), e.1 ≤ cal.minute now) :
    cal.NextOpening schedule now (cal.day now + i) e.1 := by
  have hpos := h.pos
  have hle := h.le
  have hlt := (cal.entry_lt h.entry).1
  have hminute := cal.minute_lt now
  constructor
  · refine ⟨⟨e.2, h.entry⟩, by omega, ?_⟩
    by_cases hi : i = 7
    · have hentry := h.entry
      rw [hi, cal.entry_add_seven] at hentry
      have := htoday e hentry
      omega
    · omega
  · intro day' openTime' hupcoming
    obtain ⟨closeTime', hentry'⟩ := hupcoming.1
    rcases hupcoming.cases with ⟨rfl, hlater⟩ | ⟨j, hj, -, rfl⟩
    · have := htoday _ hentry'
      omega
    · rcases Nat.lt_trichotomy j i with hji | rfl | hij
      · rw [h.before j hj hji] at hentry'
        cases hentry'
      · have hentry := h.entry
        rw [hentry'] at hentry
        cases hentry
        exact Int.le_refl _
      · omega

/-- If no entry is on the days after today, then no opening is upcoming. -/
theorem not_upcoming (hnone : ∀ i : Nat, 1 ≤ i → i ≤ 7 →
    cal.entry schedule (cal.day now + i) = none)
    (day : Int) (openTime : Nat) : ¬ cal.Upcoming schedule now day openTime := by
  intro hupcoming
  obtain ⟨closeTime, hentry⟩ := hupcoming.1
  rcases hupcoming.cases with ⟨rfl, -⟩ | ⟨j, hj, hj7, rfl⟩
  · have hweek := hnone 7 (by decide) le_rfl
    rw [cal.entry_add_seven, hentry] at hweek
    cases hweek
  · rw [hnone j hj hj7] at hentry
    cases hentry

/-- Today's opening is the next one until it is reached. -/
theorem nextOpening_today {e : Nat × Nat} (htoday : cal.entry schedule (cal.day now) = some e)
    (hopen : cal.minute now < e.1) : cal.NextOpening schedule now (cal.day now) e.1 := by
  have hlt := (cal.entry_lt htoday).1
  refine ⟨⟨⟨e.2, htoday⟩, by omega, by omega⟩, fun day' openTime' hupcoming => ?_⟩
  rcases hupcoming.cases with ⟨rfl, -⟩ | ⟨j, hj, -, rfl⟩
  · obtain ⟨closeTime', hentry'⟩ := hupcoming.1
    rw [htoday] at hentry'
    cases hentry'
    exact Int.le_refl _
  · omega

theorem NextOpening.unique {day' : Int} {openTime openTime' : Nat}
    (h : cal.NextOpening schedule now day openTime)
    (h' : cal.NextOpening schedule now day' openTime') : day = day' := by
  obtain ⟨closeTime, hentry⟩ := h.1.1
  obtain ⟨closeTime', hentry'⟩ := h'.1.1
  have hlt := (cal.entry_lt hentry).1
  have hlt' := (cal.entry_lt hentry').1
  have hle := h.2 day' openTime' h'.1
  have hle' := h'.2 day openTime h.1
  omega

section FirstAfter

variable {k i : Nat} {e : Nat × Nat} {text : String}

/-- The text names today's weekday only if the search has come round to today. -/
theorem FirstAfter.eq_seven {time : Nat} (h : cal.FirstAfter schedule now k text i e)
    (hnames : cal.Names text (cal.day now) time) : i = 7 := by
  have hpos := h.pos
  have hle := h.le
  obtain ⟨time, htext⟩ := h.text
  obtain ⟨timeText, -, htext', -, -⟩ := hnames
  have hday := weekdayName_injective (weekdayName_of_append (htext.symm.trans htext'))
  omega

theorem FirstAfter.otherDay_iff (h : cal.FirstAfter schedule now k text i e) :
    cal.OtherDay schedule now ↔ i ≠ 7 := by
  have hpos := h.pos
  have hle := h.le
  constructor
  · rintro ⟨j, hj, hj7, hentry⟩ rfl
    exact hentry (h.before j hj hj7)
  · intro hi
    exact ⟨i, h.pos, by omega, by simp [h.entry]⟩

/-- A week after today the names are today's. -/
theorem FirstAfter.names_today {today : Nat × Nat}
    (htoday : cal.entry schedule (cal.day now) = some today)
    (h : cal.FirstAfter schedule now k text 7 e) : cal.Names text (cal.day now) (part today k) := by
  have hentry := h.entry
  rw [cal.entry_add_seven, htoday] at hentry
  obtain rfl := Option.some.inj hentry
  obtain ⟨timeText, t, htext, hrest⟩ := h.names
  rw [weekdayName_add_seven] at htext
  exact ⟨timeText, t, htext, hrest⟩

end FirstAfter

/-- A next opening that is named is that of the first entry after today, on its weekday. -/
theorem opensRight_iff (h : EntriesParse intl (some days)) (hsame : cal.SameDay (some days))
    (now : DateTime) :
    cal.OpensRight (some days) now ↔ (cal.OtherDay (some days) now →
      ∀ e ∈ cal.entry (some days) (cal.day now),
        ¬ (cal.minute now / 60 = e.1 / 60 ∧ cal.minute now < e.1)) := by
  rcases cal.whenToOpen_cases h now with ⟨e, text, htoday, hhour, heq, hnames⟩ |
    ⟨hhour, ⟨hnone, heq⟩ | ⟨text, i, e, heq, hfirst⟩⟩
  · have hopen : cal.minute now < e.1 := by omega
    have hright : cal.OpensRight (some days) now :=
      ⟨text, heq, fun _ => .inl ⟨_, _, cal.nextOpening_today htoday hopen, hnames⟩⟩
    have hcond : ∀ e' ∈ cal.entry (some days) (cal.day now),
        ¬ (cal.minute now / 60 = e'.1 / 60 ∧ cal.minute now < e'.1) := by
      intro e' he'
      obtain rfl := Option.some.inj (htoday.symm.trans he')
      omega
    exact iff_of_true hright fun _ => hcond
  · have hweek := hnone 7 (by decide) (Nat.le_refl 7)
    rw [cal.entry_add_seven] at hweek
    exact iff_of_true ⟨"Closed", heq, fun _ => .inr ⟨cal.not_upcoming hnone, rfl⟩⟩
      fun _ e' he' => by simp [hweek] at he'
  · by_cases hover : ∀ e' ∈ cal.entry (some days) (cal.day now), e'.1 ≤ cal.minute now
    · refine iff_of_true
        ⟨text, heq, fun _ => .inl ⟨_, _, hfirst.nextOpening cal hover, hfirst.names⟩⟩
        fun _ e' he' => ?_
      have := hover e' he'
      omega
    · -- Today's opening is the next one, in the hour of now.
      simp only [not_forall, Nat.not_le] at hover
      obtain ⟨today, htoday, hopen⟩ := hover
      have hnext := cal.nextOpening_today htoday hopen
      have hhour' := hhour today htoday
      have hclosed : ¬ cal.OpenAt (some days) now := by
        rintro (⟨e', he', hle, -⟩ | ⟨e', he', hle, -⟩)
        · obtain rfl := Option.some.inj (htoday.symm.trans he')
          omega
        · have := hsame _ _ he'
          omega
      constructor
      · rintro ⟨text', heq', hright⟩ hother
        obtain rfl := Except.ok.inj (heq.symm.trans heq')
        rcases hright hclosed with ⟨day, openTime, hnext', hnames⟩ | ⟨hnever, -⟩
        · obtain rfl := hnext.unique cal hnext'
          exact absurd (hfirst.eq_seven cal hnames) ((hfirst.otherDay_iff cal).mp hother)
        · exact absurd hnext.1 (hnever _ _)
      · intro hcond
        have hother : ¬ cal.OtherDay (some days) now := fun hother =>
          hcond hother today htoday ⟨by omega, hopen⟩
        obtain rfl : i = 7 := not_not.mp (mt (hfirst.otherDay_iff cal).mpr hother)
        exact ⟨text, heq, fun _ => .inl ⟨_, _, hnext, hfirst.names_today cal htoday⟩⟩

/-- The closing time that is named is today's, if the weekday is. -/
theorem closesRight_iff (h : EntriesParse intl (some days)) (now : DateTime) :
    cal.ClosesRight (some days) now ↔ (cal.OtherDay (some days) now →
      ∀ e ∈ cal.entry (some days) (cal.day now),
        ¬ (cal.minute now / 60 = e.2 / 60 ∧ e.1 ≤ cal.minute now ∧ cal.minute now < e.2)) := by
  rcases cal.whenToClose_cases h now with ⟨htoday, heq⟩ |
    ⟨e, text, htoday, heq, ⟨hhour, hnames⟩ | ⟨hhour, i, e', hfirst⟩⟩
  · exact iff_of_true ⟨"Closed", heq, by simp [htoday]⟩ (by simp [htoday])
  · constructor
    · intro _ _ e' he'
      obtain rfl := Option.some.inj (htoday.symm.trans he')
      omega
    · intro _
      refine ⟨text, heq, fun e' he' _ _ => ?_⟩
      obtain rfl := Option.some.inj (htoday.symm.trans he')
      exact hnames
  · constructor
    · rintro ⟨text', heq', hright⟩ hother e'' he'' ⟨-, hopen, hclose⟩
      obtain rfl := Except.ok.inj (heq.symm.trans heq')
      have hnames := hright e'' he'' hopen hclose
      exact (hfirst.otherDay_iff cal).mp hother (hfirst.eq_seven cal hnames)
    · intro hcond
      refine ⟨text, heq, fun e'' he'' hopen hclose => ?_⟩
      obtain rfl := Option.some.inj (htoday.symm.trans he'')
      have hother : ¬ cal.OtherDay (some days) now := fun hother =>
        hcond hother e htoday ⟨by omega, hopen, hclose⟩
      obtain rfl : i = 7 := not_not.mp (mt (hfirst.otherDay_iff cal).mpr hother)
      exact hfirst.names_today cal htoday

end Entries

/-- Where another day of the week has an entry, now is not in the hour of today's opening
before it, nor in the hour of today's closing while today's interval lasts. -/
def TimesDecide (schedule : Schedule) (now : DateTime) : Prop :=
  schedule ≠ none ∧ (cal.OtherDay schedule now → ∀ e ∈ cal.entry schedule (cal.day now),
    ¬ (cal.minute now / 60 = e.1 / 60 ∧ cal.minute now < e.1) ∧
    ¬ (cal.minute now / 60 = e.2 / 60 ∧ e.1 ≤ cal.minute now ∧ cal.minute now < e.2))

/-- The next opening and today's closing are named right exactly where the schedule is not
null and the hours decide. -/
theorem nextTimes_iff {schedule : Schedule} (h : EntriesParse intl schedule)
    (hsame : cal.SameDay schedule) (now : DateTime) :
    cal.OpensRight schedule now ∧ cal.ClosesRight schedule now ↔ cal.TimesDecide schedule now := by
  cases schedule with
  | none =>
    constructor
    · rintro ⟨⟨text, heq, -⟩, -⟩
      cases heq
    · rintro ⟨hne, -⟩
      exact absurd rfl hne
  | some days =>
    rw [cal.opensRight_iff h hsame, cal.closesRight_iff h, TimesDecide, ← imp_and]
    simp [forall_and]

end Calendar

/-- A location that is open on Thursdays and Fridays, from half past eight. -/
def thursdaysAndFridays : Schedule :=
  some [("Thu", "8:30 AM - 5:00 PM"), ("Fri", "8:30 AM - 5:00 PM")]

theorem entriesParse_thursdaysAndFridays : EntriesParse Intl.utc thursdaysAndFridays := by
  apply entriesParse_of_forall
  intro p hp
  simp only [List.mem_cons, List.not_mem_nil, or_false] at hp
  rcases hp with rfl | rfl <;> exact wellFormedHours_halfPastEight

theorem sameDay_thursdaysAndFridays : Calendar.utc.SameDay thursdaysAndFridays := by
  intro day e he
  simp only [Calendar.entry, thursdaysAndFridays, Option.bind_eq_bind, Option.bind_some,
    Option.bind_eq_some_iff, Option.pure_def] at he
  obtain ⟨hours, hhours, openTime, hopen, closeTime, hclose, heq⟩ := he
  have hmem := mem_of_hoursOf hhours
  obtain rfl : hours = "8:30 AM - 5:00 PM" := by
    simp only [List.mem_cons, Prod.mk.injEq, List.not_mem_nil, or_false] at hmem
    rcases hmem with ⟨-, h⟩ | ⟨-, h⟩ <;> exact h
  have hopen' : Calendar.utc.timeOf "8:30 AM - 5:00 PM" 0 = some 510 := by decide +kernel
  have hclose' : Calendar.utc.timeOf "8:30 AM - 5:00 PM" 1 = some 1020 := by decide +kernel
  rw [hopen'] at hopen
  rw [hclose'] at hclose
  cases hopen
  cases hclose
  cases heq
  decide

/-- On Thursday at noon the hours decide. Friday's opening and today's closing are named. -/
theorem nextTimes_noon : Calendar.utc.TimesDecide thursdaysAndFridays 43200000000 ∧
    whenToOpen Intl.utc thursdaysAndFridays 43200000000 = .ok "Fri, 8:30 AM" ∧
      whenToClose Intl.utc thursdaysAndFridays 43200000000 = .ok "Thu, 5:00 PM" ∧
        Calendar.utc.OpensRight thursdaysAndFridays 43200000000 ∧
          Calendar.utc.ClosesRight thursdaysAndFridays 43200000000 := by
  have htoday : Calendar.utc.entry thursdaysAndFridays (Calendar.utc.day 43200000000) =
      some (510, 1020) := by
    decide +kernel
  have hminute : Calendar.utc.minute 43200000000 = 720 := by decide
  have hdecide : Calendar.utc.TimesDecide thursdaysAndFridays 43200000000 := by
    refine ⟨by decide, fun _ => ?_⟩
    rw [htoday, hminute]
    simp
  exact ⟨hdecide, by decide +kernel, by decide +kernel, (Calendar.utc.nextTimes_iff
    entriesParse_thursdaysAndFridays sameDay_thursdaysAndFridays 43200000000).mpr hdecide⟩

/-- On Thursday at a quarter past eight Friday's opening is named. -/
theorem not_nextTimes_quarter_past_eight :
    EntriesParse Intl.utc thursdaysAndFridays ∧ Calendar.utc.SameDay thursdaysAndFridays ∧
      ¬ Calendar.utc.OpensRight thursdaysAndFridays 29700000000 := by
  refine ⟨entriesParse_thursdaysAndFridays, sameDay_thursdaysAndFridays, ?_⟩
  rintro ⟨text, heq, hright⟩
  obtain rfl : text = "Fri, 8:30 AM" := by
    have hfriday : whenToOpen Intl.utc thursdaysAndFridays 29700000000 = .ok "Fri, 8:30 AM" := by
      decide +kernel
    exact Except.ok.inj (heq.symm.trans hfriday)
  have htoday : Calendar.utc.entry thursdaysAndFridays (Calendar.utc.day 29700000000) =
      some (510, 1020) := by
    decide +kernel
  have hminute : Calendar.utc.minute 29700000000 = 495 := by decide
  have hnext := Calendar.utc.nextOpening_today htoday (by rw [hminute]; decide)
  have hyesterday : Calendar.utc.entry thursdaysAndFridays (Calendar.utc.day 29700000000 - 1) =
      none := by
    decide +kernel
  have hclosed : ¬ Calendar.utc.OpenAt thursdaysAndFridays 29700000000 := by
    rw [Calendar.OpenAt, Calendar.OpenSinceYesterday, htoday, hyesterday, hminute]
    simp
  rcases hright hclosed with ⟨day, openTime, hnext', timeText, t, htext, -⟩ | ⟨hnever, -⟩
  · obtain rfl := hnext.unique Calendar.utc hnext'
    have hday : weekdayName 1 ++ ", " ++ "8:30 AM" =
        weekdayName (Calendar.utc.day 29700000000) ++ ", " ++ timeText := htext
    exact absurd (weekdayName_of_append hday) (by decide)
  · exact hnever _ _ hnext.1

end AroundMuseo
