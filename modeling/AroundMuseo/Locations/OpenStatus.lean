import AroundMuseo.Locations.Calendar

/-!
# Open or closed

An entry of a schedule opens an interval on its day, which ends on the next day if the
closing time is not later than the opening time. The controller compares whole hours, and
looks at today's entry only; it is right exactly where that makes no difference.
-/

namespace AroundMuseo

open LocationController

/-- Every entry of the schedule that is not empty gives two times. -/
def EntriesParse (intl : Intl) (schedule : Schedule) : Prop :=
  ∀ days, schedule = some days →
    ∀ day hours, hoursOf days day = some hours → WellFormedHours intl hours

namespace Calendar

variable {intl : Intl} (cal : Calendar intl)

/-- The minutes since midnight of a part of an entry. -/
def timeOf (hours : String) (i : Nat) : Option Nat :=
  match hoursPart hours i >>= parseTimeString intl with
  | .ok t => some (cal.minute t)
  | .error _ => none

/-- The opening and the closing time on a day, in minutes since midnight. -/
def entry (schedule : Schedule) (day : Int) : Option (Nat × Nat) := do
  let days ← schedule
  let hours ← hoursOf days (weekdayName day)
  let openTime ← cal.timeOf hours 0
  let closeTime ← cal.timeOf hours 1
  return (openTime, closeTime)

/-- Yesterday's interval ends on this day, and not before now. -/
def OpenSinceYesterday (schedule : Schedule) (now : DateTime) : Prop :=
  ∃ e ∈ cal.entry schedule (cal.day now - 1), e.2 ≤ e.1 ∧ cal.minute now < e.2

/-- Now lies in the interval of today's entry, or in what is left of yesterday's. -/
def OpenAt (schedule : Schedule) (now : DateTime) : Prop :=
  (∃ e ∈ cal.entry schedule (cal.day now),
    e.1 ≤ cal.minute now ∧ (cal.minute now < e.2 ∨ e.2 ≤ e.1)) ∨
  cal.OpenSinceYesterday schedule now

/-- The hours alone decide. If yesterday's interval has not ended, then the hour lies within
today's hours as well; else now is not in the hour of opening and before the time, not in
the hour of closing and before the time, and not in an interval that ends tomorrow. -/
def HoursDecide (schedule : Schedule) (now : DateTime) : Prop :=
  (cal.OpenSinceYesterday schedule now → ∃ e ∈ cal.entry schedule (cal.day now),
    e.1 / 60 ≤ cal.minute now / 60 ∧ cal.minute now / 60 < e.2 / 60) ∧
  (¬ cal.OpenSinceYesterday schedule now → ∀ e ∈ cal.entry schedule (cal.day now),
    ¬ (cal.minute now / 60 = e.1 / 60 ∧ cal.minute now < e.1 ∧ cal.minute now / 60 < e.2 / 60) ∧
    ¬ (cal.minute now / 60 = e.2 / 60 ∧ e.1 ≤ cal.minute now ∧ cal.minute now < e.2) ∧
    ¬ (e.2 ≤ e.1 ∧ e.1 ≤ cal.minute now))

section Entries

variable {schedule : Schedule} {days : List (String × String)} {day : Int} {hours : String}

/-- The two times of a well-formed entry. -/
theorem exists_times (h : WellFormedHours intl hours) {i : Nat} (hi : i < 2) :
    ∃ part t, hoursPart hours i = .ok part ∧ parseTimeString intl part = .ok t ∧
      cal.timeOf hours i = some (cal.minute t) := by
  obtain ⟨part, t, hpart, ht⟩ := h i hi
  refine ⟨part, t, hpart, ht, ?_⟩
  have hbind : (hoursPart hours i >>= parseTimeString intl) = .ok t :=
    bind_eq_ok.mpr ⟨part, hpart, ht⟩
  rw [timeOf, hbind]

/-- A day without hours has no entry. -/
theorem entry_of_hoursOf_none (h : hoursOf days (weekdayName day) = none) :
    cal.entry (some days) day = none := by
  simp [entry, h]

/-- Two times make the entry of a day. -/
theorem entry_of_times (hhours : hoursOf days (weekdayName day) = some hours)
    {openTime closeTime : Nat}
    (hopen : cal.timeOf hours 0 = some openTime) (hclose : cal.timeOf hours 1 = some closeTime) :
    cal.entry (some days) day = some (openTime, closeTime) := by
  simp [entry, hhours, hopen, hclose]

/-- What the controller computes: today's entry, by the hours. -/
theorem checkIfLocationIsOpen_eq (h : EntriesParse intl schedule) (now : DateTime) :
    checkIfLocationIsOpen intl schedule now =
      .ok (match cal.entry schedule (cal.day now) with
        | some e => decide (e.1 / 60 ≤ cal.minute now / 60) &&
            decide (cal.minute now / 60 < e.2 / 60)
        | none => false) := by
  cases schedule with
  | none => rfl
  | some days =>
    rw [checkIfLocationIsOpen, Option.bind_some, cal.dayName_eq]
    cases hhours : hoursOf days (weekdayName (cal.day now)) with
    | none =>
      rw [cal.entry_of_hoursOf_none hhours]
      rfl
    | some hours =>
      have hwf := h days rfl _ _ hhours
      obtain ⟨part₀, openTime, hpart₀, hopen, htime₀⟩ := cal.exists_times hwf (i := 0) (by decide)
      obtain ⟨part₁, closeTime, hpart₁, hclose, htime₁⟩ := cal.exists_times hwf (i := 1) (by decide)
      rw [cal.entry_of_times hhours htime₀ htime₁]
      dsimp only
      rw [hpart₀, hpart₁]
      show (parseTimeString intl part₀ >>= fun openTime => parseTimeString intl part₁ >>= _) = _
      rw [hopen, hclose]
      show Except.ok _ = _
      rw [cal.hour_eq, cal.hour_eq, cal.hour_eq]

end Entries

/-- The status is right exactly where the hours decide. -/
theorem openStatus_iff {schedule : Schedule} (h : EntriesParse intl schedule) (now : DateTime) :
    (∃ b, checkIfLocationIsOpen intl schedule now = .ok b ∧
      (b = true ↔ cal.OpenAt schedule now)) ↔ cal.HoursDecide schedule now := by
  rw [cal.checkIfLocationIsOpen_eq h now, OpenAt, HoursDecide]
  cases htoday : cal.entry schedule (cal.day now) with
  | none =>
    by_cases hyesterday : cal.OpenSinceYesterday schedule now <;> simp [hyesterday]
  | some e =>
    obtain ⟨openTime, closeTime⟩ := e
    generalize cal.minute now = m
    by_cases hyesterday : cal.OpenSinceYesterday schedule now
    · simp [hyesterday]
    · simp only [hyesterday, Option.mem_some_iff, exists_eq_left', forall_eq', Except.ok.injEq,
        Bool.and_eq_true, decide_eq_true_eq, or_false, false_imp_iff, true_imp_iff, true_and,
        not_false_eq_true]
      omega

end Calendar

theorem mem_of_hoursOf {days : List (String × String)} {day hours : String}
    (h : hoursOf days day = some hours) : (day, hours) ∈ days := by
  have hlookup := (Option.filter_eq_some_iff.mp h).1
  induction days with
  | nil => cases hlookup
  | cons p rest ih =>
    obtain ⟨day', hours'⟩ := p
    rw [List.lookup_cons] at hlookup
    split at hlookup
    case h_1 heq =>
      cases hlookup
      rw [eq_of_beq heq]
      exact List.mem_cons_self
    case h_2 =>
      exact List.mem_cons_of_mem _ (ih (Option.filter_eq_some_iff.mpr
        ⟨hlookup, (Option.filter_eq_some_iff.mp h).2⟩) hlookup)

/-- A schedule of well-formed texts can be parsed. -/
theorem entriesParse_of_forall {intl : Intl} {days : List (String × String)}
    (h : ∀ p ∈ days, WellFormedHours intl p.2) : EntriesParse intl (some days) := by
  rintro days' hdays day hours hhours
  cases hdays
  exact h _ (mem_of_hoursOf hhours)

/-- A location that opens at half past eight on Thursdays. -/
def halfPastEight : Schedule := some [("Thu", "8:30 AM - 5:00 PM")]

theorem wellFormedHours_halfPastEight : WellFormedHours Intl.utc "8:30 AM - 5:00 PM" := by
  intro i hi
  match i, hi with
  | 0, _ =>
    exact ⟨"8:30 AM", 1640995200000000 + 510 * 60000000, by decide +kernel, by decide +kernel⟩
  | 1, _ =>
    exact ⟨"5:00 PM", 1640995200000000 + 1020 * 60000000, by decide +kernel, by decide +kernel⟩

theorem entriesParse_halfPastEight : EntriesParse Intl.utc halfPastEight := by
  apply entriesParse_of_forall
  intro p hp
  rw [List.mem_singleton] at hp
  subst hp
  exact wellFormedHours_halfPastEight

/-- On Thursday at noon the hours decide, and it is open as it is said to be. -/
theorem openStatus_noon : Calendar.utc.HoursDecide halfPastEight 43200000000 ∧
    checkIfLocationIsOpen Intl.utc halfPastEight 43200000000 = .ok true ∧
      Calendar.utc.OpenAt halfPastEight 43200000000 := by
  have htoday :
      Calendar.utc.entry halfPastEight (Calendar.utc.day 43200000000) = some (510, 1020) := by
    decide +kernel
  have hyesterday : Calendar.utc.entry halfPastEight (Calendar.utc.day 43200000000 - 1) = none := by
    decide +kernel
  have hminute : Calendar.utc.minute 43200000000 = 720 := by decide
  have hdecide : Calendar.utc.HoursDecide halfPastEight 43200000000 := by
    rw [Calendar.HoursDecide, Calendar.OpenSinceYesterday, htoday, hyesterday, hminute]
    simp
  have hopen : checkIfLocationIsOpen Intl.utc halfPastEight 43200000000 = .ok true := by
    decide +kernel
  obtain ⟨b, hb, hright⟩ :=
    (Calendar.utc.openStatus_iff entriesParse_halfPastEight 43200000000).mpr hdecide
  cases hopen.symm.trans hb
  exact ⟨hdecide, hopen, hright.mp rfl⟩

/-- On Thursday at a quarter past eight it is said to be open. -/
theorem openStatus_quarter_past_eight :
    EntriesParse Intl.utc halfPastEight ∧
      checkIfLocationIsOpen Intl.utc halfPastEight 29700000000 = .ok true ∧
      ¬ Calendar.utc.OpenAt halfPastEight 29700000000 := by
  refine ⟨entriesParse_halfPastEight, by decide +kernel, ?_⟩
  have htoday :
      Calendar.utc.entry halfPastEight (Calendar.utc.day 29700000000) = some (510, 1020) := by
    decide +kernel
  have hyesterday : Calendar.utc.entry halfPastEight (Calendar.utc.day 29700000000 - 1) = none := by
    decide +kernel
  have hminute : Calendar.utc.minute 29700000000 = 495 := by decide
  rw [Calendar.OpenAt, Calendar.OpenSinceYesterday, htoday, hyesterday, hminute]
  simp

end AroundMuseo
