import AroundMuseo.Locations.Calendar

/-!
# The hours as they are listed

The details of a location list the hours of the seven days, a line a day. Whoever reads the
lines back has a schedule that is as good as the stored one: it is open at the same times,
it names the same next times, and it is listed the same way.
-/

namespace AroundMuseo

namespace LocationController

/-- The days in the order of the listing. -/
def daysOrder : List String := ["Mon", "Tue", "Wed", "Thu", "Fri", "Sat", "Sun"]

def formatOperatingHours (operatingHours : Schedule) : String :=
  let days := operatingHours.getD []
  if days = [] then "No operating hours available"
  else
    let sortedEntries := daysOrder.map fun day =>
      let hours := (days.lookup day).getD ""
      if hours = "" then (day, "Closed") else (day, hours)
    "\n".intercalate (sortedEntries.map fun entry => entry.1 ++ ": " ++ entry.2)

/-- The entry that a line of the listing stands for. -/
def readRow (line : String) : Option (String × String) :=
  let hours := String.ofList (line.toList.drop 5)
  if (line.toList.drop 3).take 2 = ": ".toList then
    some (String.ofList (line.toList.take 3), if hours = "Closed" then "" else hours)
  else none

/-- The schedule that a listing stands for. -/
def readHours (text : String) : Schedule := some ((Dart.split text '\n').filterMap readRow)

/-- The listing is not ambiguous: no hours go over several lines, or are the word for none. -/
def Readable (days : List (String × String)) : Prop :=
  ∀ day ∈ daysOrder, ∀ hours ∈ hoursOf days day, '\n' ∉ hours.toList ∧ hours ≠ "Closed"

instance (days : List (String × String)) : Decidable (Readable days) :=
  List.decidableBAll _ daysOrder

example : formatOperatingHours (some [("Status", "Always Open"), ("Tue", "8:00 AM - 5:00 PM")]) =
    "Mon: Closed\nTue: 8:00 AM - 5:00 PM\nWed: Closed\nThu: Closed\n" ++
      "Fri: Closed\nSat: Closed\nSun: Closed" := by
  decide +kernel

section SameHours

variable {intl : Intl} {days days' : List (String × String)}

/-- Nothing but the hours of the days of the week is looked at. -/
theorem nextDay_congr (h : ∀ t, hoursOf days (intl.dayName t) = hoursOf days' (intl.dayName t))
    (now : DateTime) (part : Nat) : nextDay intl now days part = nextDay intl now days' part := by
  simp only [nextDay, h]

theorem checkIfLocationIsOpen_congr
    (h : ∀ t, hoursOf days (intl.dayName t) = hoursOf days' (intl.dayName t)) (now : DateTime) :
    checkIfLocationIsOpen intl (some days) now = checkIfLocationIsOpen intl (some days') now := by
  simp only [checkIfLocationIsOpen, Option.bind_some, h]

theorem whenToOpen_congr
    (h : ∀ t, hoursOf days (intl.dayName t) = hoursOf days' (intl.dayName t)) (now : DateTime) :
    whenToOpen intl (some days) now = whenToOpen intl (some days') now := by
  simp only [whenToOpen, h, nextDay_congr h]

theorem whenToClose_congr
    (h : ∀ t, hoursOf days (intl.dayName t) = hoursOf days' (intl.dayName t)) (now : DateTime) :
    whenToClose intl (some days) now = whenToClose intl (some days') now := by
  simp only [whenToClose, h, nextDay_congr h]

end SameHours

section Listing

variable {days : List (String × String)} {day hours : String}

/-- The line of a day. -/
def rowOf (days : List (String × String)) (day : String) : String :=
  day ++ ": " ++ (hoursOf days day).getD "Closed"

theorem formatOperatingHours_eq (hdays : days ≠ []) :
    formatOperatingHours (some days) = "\n".intercalate (daysOrder.map (rowOf days)) := by
  have hrow : ∀ day, (fun entry : String × String => entry.1 ++ ": " ++ entry.2)
      (if (days.lookup day).getD "" = "" then (day, "Closed")
        else (day, (days.lookup day).getD "")) = rowOf days day := by
    intro day
    rw [rowOf, hoursOf]
    cases hlookup : days.lookup day with
    | none => simp
    | some hours => by_cases hempty : hours = "" <;> simp [hempty, Option.filter]
  simp only [formatOperatingHours, Option.getD_some, if_neg hdays, List.map_map]
  congr 1
  exact List.map_congr_left fun day _ => hrow day

theorem daysOrder_facts (hday : day ∈ daysOrder) : day.toList.length = 3 ∧ '\n' ∉ day.toList := by
  have h : ∀ day ∈ daysOrder, day.toList.length = 3 ∧ '\n' ∉ day.toList := by decide +kernel
  exact h day hday

theorem weekdayName_mem_daysOrder (day : Int) : weekdayName day ∈ daysOrder := by
  unfold weekdayName
  split <;> decide

/-- No line is broken. -/
theorem not_mem_rowOf (h : Readable days) (hday : day ∈ daysOrder) :
    '\n' ∉ (rowOf days day).toList := by
  have hname := (daysOrder_facts hday).2
  have hcolon : '\n' ∉ ": ".toList := by decide
  have hhours : '\n' ∉ ((hoursOf days day).getD "Closed").toList := by
    cases hhours : hoursOf days day with
    | none => decide
    | some hours => exact (h day hday hours hhours).1
  rw [rowOf, String.toList_append, String.toList_append, List.mem_append, List.mem_append]
  simp only [hname, hcolon, hhours, or_self, not_false_eq_true]

/-- The lines of a listing are read one by one. -/
theorem split_listing (h : Readable days) :
    Dart.split ("\n".intercalate (daysOrder.map (rowOf days))) '\n' =
      daysOrder.map (rowOf days) := by
  have hlines : ∀ line ∈ (daysOrder.map (rowOf days)).map String.toList, '\n' ∉ line := by
    intro line hline
    simp only [List.mem_map] at hline
    obtain ⟨-, ⟨day, hday, rfl⟩, rfl⟩ := hline
    exact not_mem_rowOf h hday
  have hne : (daysOrder.map (rowOf days)).map String.toList ≠ [] := by simp [daysOrder]
  rw [Dart.split, String.toList_intercalate]
  show List.map String.ofList (List.splitOn '\n' (List.intercalate ['\n'] _)) = _
  rw [List.splitOn_intercalate '\n' hlines hne, List.map_map]
  simp

/-- A line is read as the day and its hours. -/
theorem readRow_rowOf (h : Readable days) (hday : day ∈ daysOrder) :
    readRow (rowOf days day) = some (day, (hoursOf days day).getD "") := by
  have hlength := (daysOrder_facts hday).1
  have hlist : (rowOf days day).toList =
      day.toList ++ (':' :: ' ' :: ((hoursOf days day).getD "Closed").toList) := by
    rw [rowOf, String.toList_append, String.toList_append, List.append_assoc]
    rfl
  have hdrop : (rowOf days day).toList.drop 3 =
      ':' :: ' ' :: ((hoursOf days day).getD "Closed").toList := by
    rw [hlist, ← hlength, List.drop_left]
  have htake : (rowOf days day).toList.take 3 = day.toList := by
    rw [hlist, ← hlength, List.take_left]
  have hrest : (rowOf days day).toList.drop 5 = ((hoursOf days day).getD "Closed").toList := by
    rw [show 5 = 3 + 2 from rfl, ← List.drop_drop, hdrop]
    rfl
  have hcolon : ((rowOf days day).toList.drop 3).take 2 = ": ".toList := by
    rw [hdrop]
    rfl
  simp only [readRow, hcolon, htake, hrest, if_true, String.ofList_toList]
  cases hhours : hoursOf days day with
  | none => simp
  | some hours => simp [(h day hday hours hhours).2]

/-- The rows of all days are read. -/
theorem readHours_listing (h : Readable days) (hdays : days ≠ []) :
    readHours (formatOperatingHours (some days)) =
      some (daysOrder.map fun day => (day, (hoursOf days day).getD "")) := by
  rw [formatOperatingHours_eq hdays, readHours, split_listing h, List.filterMap_map]
  congr 1
  rw [← List.filterMap_eq_map]
  exact List.filterMap_congr fun day hday => readRow_rowOf h hday

theorem readHours_empty : readHours (formatOperatingHours (some [])) = some [] := by
  decide +kernel

end Listing

/-- Looking up a key among entries that are made of their keys. -/
theorem lookup_map_self {α β : Type} [BEq α] [LawfulBEq α] (f : α → β) (keys : List α) {key : α}
    (h : key ∈ keys) : (keys.map fun k => (k, f k)).lookup key = some (f key) := by
  induction keys with
  | nil => cases h
  | cons k keys ih =>
    rw [List.map_cons, List.lookup_cons]
    by_cases hk : key = k
    · simp [hk]
    · have hmem : key ∈ keys := (List.mem_cons.mp h).resolve_left hk
      have hbeq : (key == k) = false := by simpa using hk
      rw [hbeq]
      exact ih hmem

section Read

variable {days : List (String × String)}

/-- What is read has the hours that are stored. -/
theorem exists_readHours (h : Readable days) :
    ∃ read, readHours (formatOperatingHours (some days)) = some read ∧ (days = [] ↔ read = []) ∧
      ∀ day ∈ daysOrder, hoursOf read day = hoursOf days day := by
  by_cases hdays : days = []
  · subst hdays
    exact ⟨[], readHours_empty, Iff.rfl, fun _ _ => rfl⟩
  · refine ⟨_, readHours_listing h hdays, ?_, ?_⟩
    · simp [hdays, daysOrder]
    · intro day hday
      rw [hoursOf, lookup_map_self _ _ hday]
      cases hhours : hoursOf days day with
      | none => simp
      | some hours =>
        have hne : hours ≠ "" := by
          have hfilter := (Option.filter_eq_some_iff.mp hhours).2
          simpa using hfilter
        simp [hne]

/-- A listing says all that matters about the hours. -/
theorem listing_read {intl : Intl} (cal : Calendar intl) (h : Readable days) (now : DateTime) :
    let read := readHours (formatOperatingHours (some days))
    checkIfLocationIsOpen intl read now = checkIfLocationIsOpen intl (some days) now ∧
      whenToOpen intl read now = whenToOpen intl (some days) now ∧
      whenToClose intl read now = whenToClose intl (some days) now ∧
      formatOperatingHours read = formatOperatingHours (some days) := by
  obtain ⟨read, hread, hempty, hhours⟩ := exists_readHours h
  have hname : ∀ t, hoursOf read (intl.dayName t) = hoursOf days (intl.dayName t) := by
    intro t
    rw [cal.dayName_eq]
    exact hhours _ (weekdayName_mem_daysOrder _)
  simp only [hread]
  refine ⟨checkIfLocationIsOpen_congr hname now, whenToOpen_congr hname now,
    whenToClose_congr hname now, ?_⟩
  by_cases hdays : days = []
  · rw [hempty.mp hdays, hdays]
  · have hread' : read ≠ [] := fun heq => hdays (hempty.mpr heq)
    rw [formatOperatingHours_eq hdays, formatOperatingHours_eq hread']
    congr 1
    apply List.map_congr_left
    intro day hday
    rw [rowOf, rowOf, hhours day hday]

/-- A shop that is open on Fridays, read on a Thursday. -/
theorem listing_read_fridays :
    let days := [("Fri", "8:30 AM - 5:00 PM"), ("Status", "Closed")]
    let read := readHours (formatOperatingHours (some days))
    checkIfLocationIsOpen Intl.utc read 43200000000 =
        checkIfLocationIsOpen Intl.utc (some days) 43200000000 ∧
      whenToOpen Intl.utc read 43200000000 = whenToOpen Intl.utc (some days) 43200000000 ∧
      whenToClose Intl.utc read 43200000000 = whenToClose Intl.utc (some days) 43200000000 ∧
      formatOperatingHours read = formatOperatingHours (some days) :=
  listing_read Calendar.utc (by decide +kernel) 43200000000

end Read

end LocationController

end AroundMuseo
