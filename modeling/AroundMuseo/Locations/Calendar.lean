import AroundMuseo.Controllers.OpeningHours

/-!
# The calendar

What the formatting library is assumed to tell of a point in time: the weekday of its
day, and its time of day. Coordinated universal time is such a calendar.
-/

namespace AroundMuseo

/-- The abbreviation of a weekday; the days are counted from a Thursday. -/
def weekdayName (day : Int) : String :=
  match day % 7 with
  | 0 => "Thu"
  | 1 => "Fri"
  | 2 => "Sat"
  | 3 => "Sun"
  | 4 => "Mon"
  | 5 => "Tue"
  | _ => "Wed"

/-- The days and the minutes that the formatting library goes by. -/
structure Calendar (intl : Intl) where
  /-- The number of the day. -/
  day : DateTime → Int
  /-- The minutes since midnight. -/
  minute : DateTime → Nat
  minute_lt : ∀ t, minute t < 1440
  dayName_eq : ∀ t, intl.dayName t = weekdayName (day t)
  hour_eq : ∀ t, intl.hour t = minute t / 60
  day_addDays : ∀ t i, day (LocationController.addDays t i) = day t + i

/-- The number that the digits denote. -/
def digits (s : String) : Option Nat :=
  if s ≠ "" ∧ s.toList.all Char.isDigit then
    some (s.toList.foldl (fun n c => 10 * n + (c.toNat - '0'.toNat)) 0)
  else none

/-- The minutes since midnight of a time such as `5:30 PM`. -/
def clockTime (s : String) : Option Nat := do
  let [h, rest] := Dart.split s ':' | none
  let [m, half] := Dart.split rest ' ' | none
  let hour ← digits h
  let minute ← digits m
  if hour = 0 ∨ 12 < hour ∨ 60 ≤ minute then none
  else if half = "AM" then some (hour % 12 * 60 + minute)
  else if half = "PM" then some ((hour % 12 + 12) * 60 + minute)
  else none

/-- A time such as `5:30 PM` of the minutes since midnight. -/
def clockText (minute : Nat) : String :=
  let hour := if minute / 60 % 12 = 0 then 12 else minute / 60 % 12
  toString hour ++ ":" ++ (if minute % 60 < 10 then "0" else "") ++ toString (minute % 60) ++
    (if minute < 720 then " AM" else " PM")

/-- Days and times of day in coordinated universal time. -/
def Intl.utc : Intl where
  dayName t := weekdayName (t / 86400000000)
  hour t := (t % 86400000000 / 3600000000).toNat
  jm t := clockText (t % 86400000000 / 60000000).toNat
  parse s :=
    if "2022-01-01 ".toList.isPrefixOf s.toList then
      match clockTime (String.ofList (s.toList.drop 11)) with
      | some minute => .ok (1640995200000000 + minute * 60000000)
      | none => .error (.format "")
    else .error (.format "")

def Calendar.utc : Calendar Intl.utc where
  day t := t / 86400000000
  minute t := (t % 86400000000 / 60000000).toNat
  minute_lt t := by omega
  dayName_eq _ := rfl
  hour_eq t := by
    show (t % 86400000000 / 3600000000).toNat = (t % 86400000000 / 60000000).toNat / 60
    have hhour : t % 86400000000 / 3600000000 = t % 86400000000 / 60000000 / 60 := by
      rw [Int.ediv_ediv_of_nonneg (by decide)]
      rfl
    have hfloor : ∀ x : Int, (x / 60).toNat = x.toNat / 60 := by omega
    rw [hhour, hfloor]
  day_addDays t i := by
    show (t + i * 86400000000) / 86400000000 = t / 86400000000 + i
    exact Int.add_mul_ediv_right t i (by decide)

example : clockTime "8:05 AM" = some 485 := by decide +kernel

end AroundMuseo
