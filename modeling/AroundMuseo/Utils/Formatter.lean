import AroundMuseo.Core.Chunks
import AroundMuseo.Core.DartRange
import AroundMuseo.Core.While
import AroundMuseo.Utils.Validators

/-!
# Formatting phone numbers

`MAppFormatter.internationalFormatPhoneNumber` writes the country code and then the remaining
digits in groups. Its loop reads every group with its full length, also the last one, so
an odd number of digits makes it throw.
-/

namespace AroundMuseo

open Cutting

namespace MAppFormatter

/-- The characters that `RegExp(r'\D')` does not match. -/
def digitsOf (text : String) : List Char := text.toList.filter (· ∈ MAppValidator.digits)

/-- `phoneNumber.replaceAll(RegExp(r'\D'), '')` -/
def digitsOnly (phoneNumber : String) : String := String.ofList (digitsOf phoneNumber)

/-- The country code, and the digits after it. -/
def extractCountryCode (phoneNumber : String) : Except Dart.RangeError (String × String) := do
  let code ← Dart.substring (digitsOnly phoneNumber) 0 (some 2)
  let digitsOnly ← Dart.substring (digitsOnly phoneNumber) 2 none
  return ("+" ++ code, digitsOnly)

/-- The variables of the loop. -/
structure Formatting where
  i : Int
  formattedNumber : String

/-- The variables before the loop. -/
def Formatting.start (countryCode : String) : Formatting := ⟨0, "(" ++ countryCode ++ ") "⟩

/-- The condition of the loop. -/
def hasMoreDigits (digitsOnly : String) (s : Formatting) : Bool := s.i < Dart.length digitsOnly

/-- The body of the loop. -/
def writeGroup (countryCode digitsOnly : String) (s : Formatting) :
    Except Dart.RangeError Formatting := do
  let groupLength : Int := if s.i = 0 ∧ countryCode = "+1" then 3 else 2
  let stop := s.i + groupLength
  let group ← Dart.substring digitsOnly s.i (some stop)
  let formattedNumber := s.formattedNumber ++ group
  return ⟨stop, if stop < Dart.length digitsOnly then formattedNumber ++ " " else formattedNumber⟩

/-- The loop; there is no answer where it does not end within the fuel. -/
def writeGroups (fuel : Nat) (countryCode digitsOnly : String) :
    Option (Except Dart.RangeError String) :=
  (While.run (hasMoreDigits digitsOnly) (writeGroup countryCode digitsOnly) fuel
    (.start countryCode)).map fun result => result.map (·.formattedNumber)

def internationalFormatPhoneNumber (fuel : Nat) (phoneNumber : String) :
    Option (Except Dart.RangeError String) :=
  ExceptT.run do
    let (countryCode, digitsOnly) ← extractCountryCode phoneNumber
    writeGroups fuel countryCode digitsOnly

/-- The values that the loop index takes. -/
def loopIndices (fuel : Nat) (phoneNumber : String) : Except Dart.RangeError (List Int) := do
  let (countryCode, digitsOnly) ← extractCountryCode phoneNumber
  return (While.heads (hasMoreDigits digitsOnly) (writeGroup countryCode digitsOnly) fuel
    (.start countryCode)).map (·.i)

section Digits

variable {phoneNumber : String} {ds : List Char}

theorem toList_digitsOnly (phoneNumber : String) :
    (digitsOnly phoneNumber).toList = digitsOf phoneNumber :=
  String.toList_ofList

theorem mem_digits_of_mem {c : Char} (h : c ∈ digitsOf phoneNumber) : c ∈ MAppValidator.digits := by
  have hdigit := List.of_mem_filter h
  exact of_decide_eq_true hdigit

/-- A digit is one code unit. -/
theorem length_ofList (hds : ∀ c ∈ ds, c ∈ MAppValidator.digits) :
    Dart.length (String.ofList ds) = ds.length := by
  have hunits : (MAppValidator.digits.all fun c => decide (c.toNat < 0x10000)) = true := by
    decide +kernel
  rw [Dart.length, String.toList_ofList]
  induction ds with
  | nil => rfl
  | cons c ds ih =>
    have hc := of_decide_eq_true (List.all_eq_true.mp hunits c (hds c List.mem_cons_self))
    rw [List.map_cons, List.sum_cons, if_pos hc, ih fun d hd => hds d (List.mem_cons_of_mem c hd),
      List.length_cons, Nat.add_comm]

theorem extractCountryCode_eq_ok (h : 2 ≤ (digitsOf phoneNumber).length) :
    extractCountryCode phoneNumber = .ok ("+" ++ String.ofList ((digitsOf phoneNumber).take 2),
      String.ofList ((digitsOf phoneNumber).drop 2)) := by
  have hcode : Dart.sublist (digitsOf phoneNumber) 0 (some 2) =
      .ok ((digitsOf phoneNumber).take 2) :=
    Dart.sublist_eq_ok 0 2 (Nat.zero_le _) h
  have hrest : Dart.sublist (digitsOf phoneNumber) 2 none = .ok ((digitsOf phoneNumber).drop 2) :=
    Dart.sublist_none 2 h
  rw [extractCountryCode, Dart.substring, Dart.substring, toList_digitsOnly, hcode, hrest]
  rfl

theorem extractCountryCode_eq_error (h : (digitsOf phoneNumber).length < 2) :
    extractCountryCode phoneNumber =
      .error ⟨2, 0, (digitsOf phoneNumber).length, "end"⟩ := by
  have hcode : Dart.sublist (digitsOf phoneNumber) 0 (some 2) =
      .error ⟨2, 0, (digitsOf phoneNumber).length, "end"⟩ :=
    Dart.sublist_eq_error 0 (Nat.zero_le _) (.inr (by omega))
  rw [extractCountryCode, Dart.substring, toList_digitsOnly, hcode]
  rfl

/-- The country code has two digits, so the first group is never longer than the others. -/
theorem countryCode_ne (h : 2 ≤ (digitsOf phoneNumber).length) :
    "+" ++ String.ofList ((digitsOf phoneNumber).take 2) ≠ "+1" := by
  intro heq
  have hlength := congrArg (fun s : String => s.toList.length) heq
  simp only [String.toList_append, String.toList_ofList, List.length_append,
    List.length_take] at hlength
  rw [Nat.min_eq_left h] at hlength
  revert hlength
  decide +kernel

end Digits

section Loop

variable {countryCode : String} {head ds : List Char} {i : Nat} {s s' : Formatting}

/-- A group is read where its two digits are left. -/
theorem writeGroup_eq_ok (hcode : countryCode ≠ "+1") (hds : ∀ c ∈ ds, c ∈ MAppValidator.digits)
    (hi : i + 2 ≤ ds.length) (hs : s.i = i) : writeGroup countryCode (String.ofList ds) s =
      .ok ⟨(i + 2 : Nat), s.formattedNumber ++ String.ofList ((ds.take (i + 2)).drop i) ++
        if i + 2 < ds.length then " " else ""⟩ := by
  have hgroup : Dart.sublist ds i (some ((i : Int) + 2)) = .ok ((ds.take (i + 2)).drop i) :=
    Dart.sublist_eq_ok i (i + 2) (Nat.le_add_right i 2) hi
  simp only [writeGroup]
  rw [if_neg fun h => hcode h.2, Dart.substring, String.toList_ofList, hs, hgroup,
    length_ofList hds]
  by_cases hmore : i + 2 < ds.length
  · have hmore' : (i : Int) + 2 < ds.length := by omega
    simp [hmore, hmore', bind, Except.bind, pure, Except.pure, Except.map]
  · have hmore' : ¬ (i : Int) + 2 < ds.length := by omega
    simp [hmore, hmore', bind, Except.bind, pure, Except.pure, Except.map]

/-- The last group has one digit, but two are read. -/
theorem writeGroup_eq_error (hcode : countryCode ≠ "+1") (hi : i + 1 = ds.length) (hs : s.i = i) :
    writeGroup countryCode (String.ofList ds) s =
      .error ⟨ds.length + 1, ds.length - 1, ds.length, "end"⟩ := by
  have hgroup : Dart.sublist ds i (some ((i : Int) + 2)) =
      .error ⟨(i : Int) + 2, i, ds.length, "end"⟩ :=
    Dart.sublist_eq_error i (by omega) (.inr (by omega))
  have hstop : (i : Int) + 2 = ds.length + 1 := by omega
  have hstart : (i : Int) = ds.length - 1 := by omega
  simp only [writeGroup]
  rw [if_neg fun h => hcode h.2, Dart.substring, String.toList_ofList, hs, hgroup, hstop, hstart]
  rfl

theorem i_lt_of_writeGroup {digitsOnly : String}
    (h : writeGroup countryCode digitsOnly s = .ok s') :
    s.i < s'.i := by
  simp only [writeGroup] at h
  generalize hlength : (if s.i = 0 ∧ countryCode = "+1" then (3 : Int) else 2) = groupLength at h
  have hpos : 0 < groupLength := by
    rw [← hlength]
    split <;> decide
  cases hgroup : Dart.substring digitsOnly s.i (some (s.i + groupLength)) with
  | error e =>
    rw [hgroup] at h
    cases h
  | ok group =>
    rw [hgroup] at h
    cases h
    exact Int.lt_add_of_pos_right s.i hpos

/-- The groups so far are those of the first `i` digits, which are an even number; a
separator is pending while there are others, and before the first group. -/
structure Grouped (head ds : List Char) (i : Nat) (groups : List (List Char)) (s : Formatting) :
    Prop where
  index : s.i = i
  even : 2 ∣ i
  le : i ≤ ds.length
  cut : Cut 2 ds i groups
  text : s.formattedNumber.toList = head ++ groups.flatMap (' ' :: ·) ++
    if i < ds.length ∨ groups = [] then [' '] else []

theorem grouped_start (countryCode : String) (ds : List Char) :
    Grouped ("(" ++ countryCode ++ ")").toList ds 0 [] (.start countryCode) := by
  refine ⟨rfl, Nat.dvd_zero 2, Nat.zero_le _, Cut.zero, ?_⟩
  rw [if_pos (.inr rfl), List.flatMap_nil, List.append_nil, Formatting.start]
  simp

/-- A round writes a group of two digits, or it throws. -/
theorem Grouped.round {groups : List (List Char)} (hcode : countryCode ≠ "+1")
    (hds : ∀ c ∈ ds, c ∈ MAppValidator.digits) (h : Grouped head ds i groups s)
    (hi : i < ds.length) :
    While.Post (fun s' => Grouped head ds (i + 2) (groups ++ [(ds.take (i + 2)).drop i]) s')
      (fun e => ds.length % 2 = 1 ∧ e = ⟨ds.length + 1, ds.length - 1, ds.length, "end"⟩)
      (writeGroup countryCode (String.ofList ds) s) := by
  have heven := h.even
  by_cases hpair : i + 2 ≤ ds.length
  · rw [writeGroup_eq_ok hcode hds hpair h.index]
    refine ⟨rfl, by omega, hpair, h.cut.step Nat.two_pos hi, ?_⟩
    have htext := h.text
    rw [if_pos (.inl hi)] at htext
    dsimp only
    rw [String.toList_append, String.toList_append, htext, String.toList_ofList,
      List.flatMap_append, List.flatMap_singleton]
    have hseparator : (if i + 2 < ds.length then " " else "").toList =
        if i + 2 < ds.length ∨ groups ++ [(ds.take (i + 2)).drop i] = [] then [' '] else [] := by
      simp only [List.append_eq_nil_iff, List.cons_ne_nil, and_false, or_false]
      split <;> rfl
    rw [hseparator]
    simp
  · rw [writeGroup_eq_error hcode (by omega) h.index]
    exact ⟨by omega, rfl⟩

/-- The text that the loop makes of the remaining digits. -/
structure Formatted (head ds : List Char) (s : Formatting) : Prop where
  even : ds.length % 2 = 0
  index : s.i = ds.length
  text : ∃ groups, Chunks 2 groups ds ∧ s.formattedNumber.toList =
    head ++ groups.flatMap (' ' :: ·) ++ if groups = [] then [' '] else []

theorem Grouped.formatted {groups : List (List Char)} (h : Grouped head ds i groups s)
    (hi : i = ds.length) : Formatted head ds s := by
  have heven := h.even
  refine ⟨by omega, by rw [h.index, hi], groups, h.cut.done (Nat.le_of_eq hi.symm), ?_⟩
  have hdone : ¬ i < ds.length := by omega
  have htext := h.text
  simp only [hdone, false_or] at htext
  exact htext

/-- The loop formats an even number of digits, and throws at the last one of an odd number. -/
theorem exists_run (hcode : countryCode ≠ "+1") (hds : ∀ c ∈ ds, c ∈ MAppValidator.digits) :
    ∃ fuel r, While.run (hasMoreDigits (String.ofList ds))
        (writeGroup countryCode (String.ofList ds)) fuel (.start countryCode) = some r ∧
      While.Post (Formatted ("(" ++ countryCode ++ ")").toList ds)
        (fun e => ds.length % 2 = 1 ∧ e = ⟨ds.length + 1, ds.length - 1, ds.length, "end"⟩) r := by
  have hround (s : Formatting)
      (hs : ∃ i groups, Grouped ("(" ++ countryCode ++ ")").toList ds i groups s)
      (hguard : hasMoreDigits (String.ofList ds) s = true) :
      While.Post
        (fun s' => (∃ i groups, Grouped ("(" ++ countryCode ++ ")").toList ds i groups s') ∧
          (ds.length - s'.i).toNat < (ds.length - s.i).toNat)
        (fun e => ds.length % 2 = 1 ∧ e = ⟨ds.length + 1, ds.length - 1, ds.length, "end"⟩)
        (writeGroup countryCode (String.ofList ds) s) := by
    obtain ⟨i, groups, h⟩ := hs
    have hless := of_decide_eq_true hguard
    rw [length_ofList hds, h.index] at hless
    have hnext := h.round hcode hds (Int.ofNat_lt.mp hless)
    cases hbody : writeGroup countryCode (String.ofList ds) s with
    | error e =>
      rw [hbody] at hnext
      exact hnext
    | ok s' =>
      rw [hbody] at hnext
      have hindex := hnext.index
      have hindex₀ := h.index
      exact ⟨⟨_, _, hnext⟩, by omega⟩
  have hfuel : ((ds.length : Int) - (Formatting.start countryCode).i).toNat < ds.length + 1 := by
    rw [Formatting.start]
    dsimp only
    omega
  obtain ⟨r, hrun, hpost⟩ := While.run_of_variant
    (fun s : Formatting => ((ds.length : Int) - s.i).toNat) hround
    ⟨0, [], grouped_start countryCode ds⟩ hfuel
  refine ⟨ds.length + 1, r, hrun, ?_⟩
  cases r with
  | error e => exact hpost
  | ok s =>
    obtain ⟨⟨i, groups, h⟩, hguard⟩ := hpost
    have hdone := of_decide_eq_false hguard
    rw [length_ofList hds, h.index] at hdone
    have hle := h.le
    exact h.formatted (by omega)

end Loop

section Groups

variable {head ds : List Char} {groups : List (List Char)}

/-- The digits of the text are those of its head and of the groups. -/
theorem filter_groups (h : Chunks 2 groups ds) (hds : ∀ c ∈ ds, c ∈ MAppValidator.digits) :
    (groups.flatMap (' ' :: ·)).filter (· ∈ MAppValidator.digits) = ds := by
  rw [← h.flatten] at hds ⊢
  clear h
  induction groups with
  | nil => rfl
  | cons group groups ih =>
    rw [List.flatten_cons] at hds ⊢
    have hgroup : group.filter (· ∈ MAppValidator.digits) = group :=
      List.filter_eq_self.mpr fun c hc => decide_eq_true (hds c (List.mem_append_left _ hc))
    have hseparator : (decide (' ' ∈ MAppValidator.digits)) = false := by decide +kernel
    rw [List.flatMap_cons, List.cons_append, List.filter_cons, hseparator, List.filter_append,
      hgroup, ih fun c hc => hds c (List.mem_append_right _ hc)]
    rfl

theorem not_mem_of_digits {cs : List Char} (h : ∀ c ∈ cs, c ∈ MAppValidator.digits) : ' ' ∉ cs := by
  intro hmem
  exact absurd (h ' ' hmem) (by decide +kernel)

/-- The text ends with a digit if there are groups. -/
theorem getLast?_groups (h : Chunks 2 groups ds) (hds : ∀ c ∈ ds, c ∈ MAppValidator.digits)
    (hne : groups ≠ []) : (head ++ groups.flatMap (' ' :: ·)).getLast? ≠ some ' ' := by
  rcases List.eq_nil_or_concat' groups with rfl | ⟨init, group, rfl⟩
  · exact absurd rfl hne
  have hpos := h.length_pos Nat.two_pos group (by simp)
  rcases List.eq_nil_or_concat' group with rfl | ⟨digits, c, rfl⟩
  · cases hpos
  have hlast : head ++ (init ++ [digits ++ [c]]).flatMap (' ' :: ·) =
      (head ++ init.flatMap (' ' :: ·) ++ ' ' :: digits) ++ [c] := by
    simp
  have hc : c ∈ MAppValidator.digits := by
    apply hds
    rw [← h.flatten]
    simp
  rw [hlast, List.getLast?_concat]
  rintro ⟨⟩
  exact absurd hc (by decide +kernel)

end Groups

/-- The text has the digits of the input, its groups are not empty, it does not end with a
separator, and the loop went up to the number of the remaining digits. -/
structure PhoneNumberFormatted (phoneNumber result : String) (indices : List Int) : Prop where
  digits : digitsOnly result = digitsOnly phoneNumber
  groups : ∀ group ∈ (Dart.split result ' ').tail, group ≠ ""
  noTrailing : result.toList.getLast? ≠ some ' '
  increasing : indices.IsChain (· < ·)
  last : indices.getLast? = some (Dart.length (digitsOnly phoneNumber) - 2 : Int)

/-- The function returns a text that is formatted. -/
def FormatsPhoneNumber (phoneNumber : String) : Prop :=
  ∃ fuel result indices, internationalFormatPhoneNumber fuel phoneNumber = some (.ok result) ∧
    loopIndices fuel phoneNumber = .ok indices ∧ PhoneNumberFormatted phoneNumber result indices

section Input

variable {phoneNumber : String}

/-- The text before the groups: the country code in parentheses. -/
def countryCodeText (phoneNumber : String) : List Char :=
  '(' :: '+' :: (digitsOf phoneNumber).take 2 ++ [')']

theorem toList_countryCode (phoneNumber : String) :
    ("(" ++ ("+" ++ String.ofList ((digitsOf phoneNumber).take 2)) ++ ")").toList =
      countryCodeText phoneNumber := by
  simp [countryCodeText]

theorem digits_take (phoneNumber : String) :
    ∀ c ∈ (digitsOf phoneNumber).take 2, c ∈ MAppValidator.digits :=
  fun _ hc => mem_digits_of_mem (List.mem_of_mem_take hc)

theorem filter_countryCodeText (phoneNumber : String) :
    (countryCodeText phoneNumber).filter (· ∈ MAppValidator.digits) =
      (digitsOf phoneNumber).take 2 := by
  have hdigits : ((digitsOf phoneNumber).take 2).filter (· ∈ MAppValidator.digits) =
      (digitsOf phoneNumber).take 2 :=
    List.filter_eq_self.mpr fun c hc => decide_eq_true (digits_take phoneNumber c hc)
  have hleft : decide ('(' ∈ MAppValidator.digits) = false := by decide +kernel
  have hplus : decide ('+' ∈ MAppValidator.digits) = false := by decide +kernel
  have hright : decide (')' ∈ MAppValidator.digits) = false := by decide +kernel
  simp [countryCodeText, hdigits, hleft, hplus, hright]

theorem digits_drop (phoneNumber : String) :
    ∀ c ∈ (digitsOf phoneNumber).drop 2, c ∈ MAppValidator.digits :=
  fun _ hc => mem_digits_of_mem (List.mem_of_mem_drop hc)

/-- A number with fewer than two digits has no country code. -/
theorem format_short (h : (digitsOf phoneNumber).length < 2) (fuel : Nat) :
    internationalFormatPhoneNumber fuel phoneNumber =
      some (.error ⟨2, 0, (digitsOf phoneNumber).length, "end"⟩) := by
  rw [internationalFormatPhoneNumber, extractCountryCode_eq_error h]
  rfl

/-- The function and its loop end in the same way. -/
theorem format_eq (h : 2 ≤ (digitsOf phoneNumber).length) (fuel : Nat) :
    internationalFormatPhoneNumber fuel phoneNumber =
      writeGroups fuel ("+" ++ String.ofList ((digitsOf phoneNumber).take 2))
        (String.ofList ((digitsOf phoneNumber).drop 2)) := by
  rw [internationalFormatPhoneNumber, extractCountryCode_eq_ok h]
  rfl

theorem loopIndices_eq (h : 2 ≤ (digitsOf phoneNumber).length) (fuel : Nat) :
    loopIndices fuel phoneNumber =
      .ok ((While.heads (hasMoreDigits (String.ofList ((digitsOf phoneNumber).drop 2)))
        (writeGroup ("+" ++ String.ofList ((digitsOf phoneNumber).take 2))
          (String.ofList ((digitsOf phoneNumber).drop 2))) fuel
        (.start ("+" ++ String.ofList ((digitsOf phoneNumber).take 2)))).map (·.i)) := by
  rw [loopIndices, extractCountryCode_eq_ok h]
  rfl

theorem format_unique {fuel fuel' : Nat} {r r' : Except Dart.RangeError String}
    (h : internationalFormatPhoneNumber fuel phoneNumber = some r)
    (h' : internationalFormatPhoneNumber fuel' phoneNumber = some r') : r = r' := by
  rcases Nat.lt_or_ge (digitsOf phoneNumber).length 2 with hshort | hlong
  · rw [format_short hshort] at h h'
    exact Option.some.inj (h.symm.trans h')
  · rw [format_eq hlong, writeGroups] at h h'
    obtain ⟨s, hs, rfl⟩ := Option.map_eq_some_iff.mp h
    obtain ⟨s', hs', rfl⟩ := Option.map_eq_some_iff.mp h'
    rw [While.run_unique hs hs']

/-- An odd number of digits makes the function throw, with the bounds of the group that it
could not read. -/
theorem format_odd (h : 2 ≤ (digitsOf phoneNumber).length)
    (hodd : (digitsOf phoneNumber).length % 2 = 1) :
    ∃ fuel, internationalFormatPhoneNumber fuel phoneNumber =
      some (.error ⟨(digitsOf phoneNumber).length - 1, (digitsOf phoneNumber).length - 3,
        (digitsOf phoneNumber).length - 2, "end"⟩) := by
  obtain ⟨fuel, r, hrun, hpost⟩ := exists_run (countryCode_ne h) (digits_drop phoneNumber)
  have hlength : (((digitsOf phoneNumber).drop 2).length : Int) =
      (digitsOf phoneNumber).length - 2 := by
    rw [List.length_drop]
    omega
  cases r with
  | ok s =>
    have heven := hpost.even
    omega
  | error e =>
    obtain ⟨-, he⟩ := hpost
    have hstop : ((digitsOf phoneNumber).length : Int) - 2 + 1 =
        (digitsOf phoneNumber).length - 1 := by
      omega
    have hstart : ((digitsOf phoneNumber).length : Int) - 2 - 1 =
        (digitsOf phoneNumber).length - 3 := by
      omega
    rw [hlength, hstop, hstart] at he
    rw [he] at hrun
    refine ⟨fuel, ?_⟩
    rw [format_eq h, writeGroups, hrun]
    rfl

/-- An even number of digits is formatted. -/
theorem format_even (h : 2 ≤ (digitsOf phoneNumber).length)
    (heven : (digitsOf phoneNumber).length % 2 = 0) :
    ∃ fuel result indices groups,
      internationalFormatPhoneNumber fuel phoneNumber = some (.ok result) ∧
      loopIndices fuel phoneNumber = .ok indices ∧ indices.IsChain (· < ·) ∧
      indices.getLast? = some (((digitsOf phoneNumber).drop 2).length : Int) ∧
      Chunks 2 groups ((digitsOf phoneNumber).drop 2) ∧
      result.toList = countryCodeText phoneNumber ++ groups.flatMap (' ' :: ·) ++
        if groups = [] then [' '] else [] := by
  obtain ⟨fuel, r, hrun, hpost⟩ := exists_run (countryCode_ne h) (digits_drop phoneNumber)
  cases r with
  | error e =>
    have hlength : ((digitsOf phoneNumber).drop 2).length = (digitsOf phoneNumber).length - 2 :=
      List.length_drop
    have hodd := hpost.1
    omega
  | ok s =>
    obtain ⟨groups, hgroups, htext⟩ := hpost.text
    rw [toList_countryCode] at htext
    refine ⟨fuel, s.formattedNumber, _, groups, ?_, loopIndices_eq h fuel, ?_, ?_, hgroups, htext⟩
    · rw [format_eq h, writeGroups, hrun]
      rfl
    · rw [List.isChain_map]
      exact While.isChain_heads fun s s' _ hbody => i_lt_of_writeGroup hbody
    · rw [List.getLast?_map, While.getLast?_heads hrun, Option.map_some, hpost.index]

end Input

/-- What the text of an even number of digits is, if there are groups. -/
theorem phoneNumberFormatted_of_groups {phoneNumber result : String} {indices : List Int}
    {groups : List (List Char)} (h : 2 ≤ (digitsOf phoneNumber).length)
    (hgroups : Chunks 2 groups ((digitsOf phoneNumber).drop 2)) (hne : groups ≠ [])
    (htext : result.toList = countryCodeText phoneNumber ++ groups.flatMap (' ' :: ·))
    (hincreasing : indices.IsChain (· < ·))
    (hlast : indices.getLast? = some (((digitsOf phoneNumber).drop 2).length : Int)) :
    PhoneNumberFormatted phoneNumber result indices := by
  have hdrop := digits_drop phoneNumber
  have htake := digits_take phoneNumber
  have hcode : ' ' ∉ countryCodeText phoneNumber := by
    have hdigits := not_mem_of_digits htake
    simpa [countryCodeText] using hdigits
  have hgroup : ∀ group ∈ groups, ' ' ∉ group := by
    intro group hmem
    apply not_mem_of_digits
    intro c hc
    apply hdrop
    rw [← hgroups.flatten]
    exact List.mem_flatten_of_mem hmem hc
  refine ⟨?_, ?_, ?_, hincreasing, ?_⟩
  · rw [digitsOnly, digitsOnly, digitsOf, htext, List.filter_append, filter_groups hgroups hdrop,
      filter_countryCodeText, List.take_append_drop]
  · rw [Dart.split, htext, Dart.splitOn_flatMap_cons hcode hgroup, List.map_cons, List.tail_cons]
    intro group hmem
    obtain ⟨cs, hcs, rfl⟩ := List.mem_map.mp hmem
    have hpos := hgroups.length_pos Nat.two_pos cs hcs
    intro hempty
    rw [String.ofList_eq_empty_iff.mp hempty] at hpos
    cases hpos
  · rw [htext]
    exact getLast?_groups hgroups hdrop hne
  · rw [hlast, digitsOnly, length_ofList fun _ hc => mem_digits_of_mem hc, List.length_drop,
      Int.ofNat_sub h]
    rfl

/-- The function formats exactly the numbers with an even number of digits, more than those
of the country code. -/
theorem formatsPhoneNumber_iff (phoneNumber : String) : FormatsPhoneNumber phoneNumber ↔
    (digitsOf phoneNumber).length % 2 = 0 ∧ 2 < (digitsOf phoneNumber).length := by
  constructor
  · rintro ⟨fuel, result, indices, hresult, -, hformatted⟩
    have h : 2 ≤ (digitsOf phoneNumber).length := by
      by_contra hshort
      rw [format_short (Nat.not_le.mp hshort)] at hresult
      cases hresult
    have heven : (digitsOf phoneNumber).length % 2 = 0 := by
      by_contra hodd
      obtain ⟨fuel', herror⟩ := format_odd h (Nat.mod_two_ne_zero.mp hodd)
      cases format_unique hresult herror
    refine ⟨heven, Nat.lt_of_le_of_ne h fun htwo => ?_⟩
    -- the separator after the country code is the last character
    obtain ⟨fuel', result', -, groups, hresult', -, -, -, hgroups, htext⟩ := format_even h heven
    cases format_unique hresult hresult'
    have hnil : groups = [] := by
      rw [htwo, List.drop_length] at hgroups
      exact hgroups.eq_nil
    rw [hnil, if_pos rfl] at htext
    apply hformatted.noTrailing
    rw [htext, List.getLast?_append]
    rfl
  · rintro ⟨heven, hmore⟩
    have h : 2 ≤ (digitsOf phoneNumber).length := Nat.le_of_lt hmore
    obtain ⟨fuel, result, indices, groups, hresult, hindices, hincreasing, hlast, hgroups, htext⟩ :=
      format_even h heven
    have hne : groups ≠ [] := by
      rintro rfl
      have hflatten := congrArg List.length hgroups.flatten
      rw [List.flatten_nil, List.length_nil, List.length_drop] at hflatten
      omega
    rw [if_neg hne, List.append_nil] at htext
    exact ⟨fuel, result, indices, hresult, hindices,
      phoneNumberFormatted_of_groups h hgroups hne htext hincreasing hlast⟩

/-- A number of the United States has eleven digits. -/
theorem not_formatsPhoneNumber_us : 2 ≤ (digitsOf "+1 555 123 4567").length ∧
    ¬ FormatsPhoneNumber "+1 555 123 4567" := by
  refine ⟨by decide +kernel, ?_⟩
  rintro ⟨fuel, result, indices, hresult, -, -⟩
  have hthrows : internationalFormatPhoneNumber 5 "+1 555 123 4567" =
      some (.error ⟨10, 8, 9, "end"⟩) := by decide +kernel
  cases format_unique hresult hthrows

/-- One of the Philippines has twelve. -/
example : internationalFormatPhoneNumber 6 "+63 917 555 0123" =
    some (.ok "(+63) 91 75 55 01 23") := by decide +kernel

end MAppFormatter

end AroundMuseo
