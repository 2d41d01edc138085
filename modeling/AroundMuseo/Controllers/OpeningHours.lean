import AroundMuseo.Core.DartString
import AroundMuseo.Models.LocationModel

/-!
# Opening hours

What `LocationController` works out from a location's schedule: whether it is open, and
when it opens and closes next. A schedule maps the short name of a day to a text such as
`8:00 AM - 5:00 PM`; the names, hours and texts of points in time are the formatting
library's and the platform's.
-/

namespace AroundMuseo

/-- Points in time as the formatting library and the local calendar have them. -/
structure Intl where
  /-- `DateFormat('E').format(t)` -/
  dayName : DateTime → String
  /-- `t.hour` -/
  hour : DateTime → Nat
  /-- `DateFormat.jm().format(t)` -/
  jm : DateTime → String
  /-- `DateFormat('yyyy-MM-dd hh:mm a').parse(s)` -/
  parse : String → Except Exn DateTime

/-- `Map<String, String>?`. -/
abbrev Schedule := Option (List (String × String))

namespace LocationController

/-- `now.add(Duration(days: i))`. -/
def addDays (now : DateTime) (i : Nat) : DateTime := now + i * 86400000000

variable (intl : Intl)

def parseTimeString (timeString : String) : Except Exn DateTime :=
  intl.parse ("2022-01-01 " ++ timeString)

/-- `hours.split('-')[i].trim()`. -/
def hoursPart (hours : String) (i : Nat) : Except Exn String :=
  match (Dart.split hours '-')[i]? with
  | some part => .ok (Dart.trim part)
  | none => .error Exn.rangeError

/-- The schedule of a day, if it is neither missing nor empty. -/
def hoursOf (operatingHours : List (String × String)) (day : String) : Option String :=
  (operatingHours.lookup day).filter (· ≠ "")

/-- The `for` loops over the next seven days: the first of them with a schedule, and the
given part of it. -/
def nextDay (now : DateTime) (operatingHours : List (String × String)) (part : Nat) :
    Except Exn (Option String) :=
  let days := (List.range' 1 7).filterMap fun i =>
    let day := intl.dayName (addDays now i)
    (hoursOf operatingHours day).map fun hours => (day, hours)
  match days with
  | (day, hours) :: _ => do return some (day ++ ", " ++ (← hoursPart hours part))
  | [] => return none

def checkIfLocationIsOpen (operatingHours : Schedule) (now : DateTime) : Except Exn Bool :=
  match operatingHours.bind (hoursOf · (intl.dayName now)) with
  | none => return false
  | some hours => do
    let openTime ← parseTimeString intl (← hoursPart hours 0)
    let closeTime ← parseTimeString intl (← hoursPart hours 1)
    return intl.hour openTime ≤ intl.hour now && intl.hour now < intl.hour closeTime

def whenToOpen (operatingHours : Schedule) (now : DateTime) : Except Exn String :=
  match operatingHours with
  | none => .error Exn.nullCheck
  | some operatingHours =>
    match hoursOf operatingHours (intl.dayName now) with
    | none => do return (← nextDay intl now operatingHours 0).getD "Closed"
    | some hours => do
      let openTime ← parseTimeString intl (← hoursPart hours 0)
      if intl.hour now < intl.hour openTime then
        return intl.dayName now ++ ", " ++ intl.jm openTime
      else
        return (← nextDay intl now operatingHours 0).getD "Closed"

def whenToClose (operatingHours : Schedule) (now : DateTime) : Except Exn String :=
  match operatingHours with
  | none => return "Closed"
  | some operatingHours =>
    match hoursOf operatingHours (intl.dayName now) with
    | none => return "Closed"
    | some hours => do
      let closeTime ← parseTimeString intl (← hoursPart hours 1)
      if intl.hour now < intl.hour closeTime then
        return intl.dayName now ++ ", " ++ intl.jm closeTime
      else
        return (← nextDay intl now operatingHours 1).getD ""

/-- The two ends of a day's hours are points in time. -/
def WellFormedHours (hours : String) : Prop :=
  ∀ i < 2, ∃ part t, hoursPart hours i = .ok part ∧ parseTimeString intl part = .ok t

/-- The hours of every day are empty or well formed. -/
def WellFormed (operatingHours : Schedule) : Prop :=
  ∃ days, operatingHours = some days ∧
    ∀ day hours, hoursOf days day = some hours → WellFormedHours intl hours

section WellFormed

variable {intl} {operatingHours : Schedule} {days : List (String × String)} {hours : String}

theorem WellFormedHours.hoursPart (h : WellFormedHours intl hours) {i : Nat} (hi : i < 2) :
    ∃ part, hoursPart hours i = .ok part := by
  obtain ⟨part, -, hpart, -⟩ := h i hi
  exact ⟨part, hpart⟩

theorem WellFormedHours.parse (h : WellFormedHours intl hours) {i : Nat} (hi : i < 2)
    {part : String} (hpart : LocationController.hoursPart hours i = .ok part) :
    ∃ t, parseTimeString intl part = .ok t := by
  obtain ⟨part', t, hpart', ht⟩ := h i hi
  cases hpart.symm.trans hpart'
  exact ⟨t, ht⟩

variable (now : DateTime)

/-- Well-formed hours can be looked through for the next day. -/
theorem nextDay_isOk
    (h : ∀ day hours, hoursOf days day = some hours → WellFormedHours intl hours)
    {i : Nat} (hi : i < 2) : ∃ out, nextDay intl now days i = .ok out := by
  rw [nextDay]
  split
  case h_1 day hours rest heq =>
    have hmem : (day, hours) ∈ (List.range' 1 7).filterMap fun i =>
        (hoursOf days (intl.dayName (addDays now i))).map fun hours =>
          (intl.dayName (addDays now i), hours) := by
      rw [heq]
      exact List.mem_cons_self
    obtain ⟨k, -, hk⟩ := List.mem_filterMap.mp hmem
    obtain ⟨hours', hhours, heq'⟩ := Option.map_eq_some_iff.mp hk
    cases heq'
    exact isOk_bind ((h _ _ hhours).hoursPart hi) fun part _ => ⟨_, rfl⟩
  case h_2 => exact ⟨none, rfl⟩

/-- A well-formed schedule does not throw. -/
theorem checkIfLocationIsOpen_isOk (h : WellFormed intl operatingHours) :
    ∃ b, checkIfLocationIsOpen intl operatingHours now = .ok b := by
  obtain ⟨days, rfl, h⟩ := h
  rw [checkIfLocationIsOpen, Option.bind_some]
  cases hhours : hoursOf days (intl.dayName now) with
  | none => exact ⟨false, rfl⟩
  | some hours =>
    have hwf := h _ _ hhours
    refine isOk_bind (hwf.hoursPart (i := 0) (by decide)) fun part₀ hpart₀ => ?_
    refine isOk_bind (hwf.parse (by decide) hpart₀) fun openTime _ => ?_
    refine isOk_bind (hwf.hoursPart (i := 1) (by decide)) fun part₁ hpart₁ => ?_
    exact isOk_bind (hwf.parse (by decide) hpart₁) fun closeTime _ => ⟨_, rfl⟩

theorem whenToOpen_isOk (h : WellFormed intl operatingHours) :
    ∃ s, whenToOpen intl operatingHours now = .ok s := by
  obtain ⟨days, rfl, h⟩ := h
  have hnext : ∃ s, (do return (← nextDay intl now days 0).getD "Closed" : Except Exn String) =
      .ok s := isOk_bind (nextDay_isOk now h (by decide)) fun out _ => ⟨_, rfl⟩
  simp only [whenToOpen]
  cases hhours : hoursOf days (intl.dayName now) with
  | none => exact hnext
  | some hours =>
    have hwf := h _ _ hhours
    refine isOk_bind (hwf.hoursPart (i := 0) (by decide)) fun part hpart => ?_
    refine isOk_bind (hwf.parse (by decide) hpart) fun openTime _ => ?_
    split
    · exact ⟨_, rfl⟩
    · exact hnext

theorem whenToClose_isOk (h : WellFormed intl operatingHours) :
    ∃ s, whenToClose intl operatingHours now = .ok s := by
  obtain ⟨days, rfl, h⟩ := h
  simp only [whenToClose]
  cases hhours : hoursOf days (intl.dayName now) with
  | none => exact ⟨_, rfl⟩
  | some hours =>
    have hwf := h _ _ hhours
    refine isOk_bind (hwf.hoursPart (i := 1) (by decide)) fun part hpart => ?_
    refine isOk_bind (hwf.parse (by decide) hpart) fun closeTime _ => ?_
    split
    · exact ⟨_, rfl⟩
    · exact isOk_bind (nextDay_isOk now h (by decide)) fun out _ => ⟨_, rfl⟩

end WellFormed

end LocationController

end AroundMuseo
