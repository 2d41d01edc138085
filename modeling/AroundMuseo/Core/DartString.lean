import Mathlib.Algebra.GroupWithZero.Nat
import Mathlib.Data.List.DropRight
import Mathlib.Tactic.Common

/-!
# Strings as Dart has them

`trim` and `split` on lists of code points. Dart trims the Unicode white space and
the byte order mark.
-/

namespace Dart

/-- The characters that `String.trim` removes. -/
def isWhitespace (c : Char) : Bool :=
  let n := c.toNat
  (9 ≤ n && n ≤ 13) || n == 0x20 || n == 0x85 || n == 0xA0 || n == 0x1680 ||
    (0x2000 ≤ n && n ≤ 0x200A) || n == 0x2028 || n == 0x2029 || n == 0x202F || n == 0x205F ||
    n == 0x3000 || n == 0xFEFF

/-- `s.trim()`: drop leading and trailing white space. -/
def trim (s : String) : String :=
  String.ofList ((s.toList.dropWhile isWhitespace).rdropWhile isWhitespace)

/-- `s.length`: the code units of UTF-16. -/
def length (s : String) : Nat :=
  (s.toList.map fun c => if c.toNat < 0x10000 then 1 else 2).sum

/-- `int.tryParse(s)` of a text that is nothing but digits. -/
def parseDigits (s : String) : Nat := s.toList.foldl (fun n c => 10 * n + (c.toNat - '0'.toNat)) 0

/-- `s.split(c)` for a separator of one character; never empty. -/
def split (s : String) (c : Char) : List String := (s.toList.splitOn c).map String.ofList

section Trim

variable {s : String}

theorem toList_trim (s : String) :
    (trim s).toList = (s.toList.dropWhile isWhitespace).rdropWhile isWhitespace := by
  rw [trim, String.toList_ofList]

/-- Trimming takes nothing away but white space. -/
theorem mem_trim {c : Char} (hc : isWhitespace c = false) : c ∈ (trim s).toList ↔ c ∈ s.toList := by
  have hdrop (l : List Char) : c ∈ l.dropWhile isWhitespace ↔ c ∈ l := by
    induction l with
    | nil => simp
    | cons d l ih =>
      rw [List.dropWhile_cons]
      by_cases hd : isWhitespace d = true
      · have hne : c ≠ d := by
          intro heq
          rw [heq, hd] at hc
          cases hc
        simp [hd, ih, hne]
      · simp [hd]
  rw [toList_trim, List.rdropWhile, List.mem_reverse, hdrop, List.mem_reverse, hdrop]

/-- A check of finitely many characters, one after the other. -/
theorem not_isWhitespace_of_all {cs : List Char} (h : (cs.all fun c => !isWhitespace c) = true) :
    ∀ c ∈ cs, isWhitespace c = false := by
  simpa using h

/-- A text without white space is not changed. -/
theorem trim_eq_self (h : ∀ c ∈ s.toList, isWhitespace c = false) : trim s = s := by
  have hdrop (l : List Char) (hl : ∀ c ∈ l, isWhitespace c = false) :
      l.dropWhile isWhitespace = l := by
    cases l with
    | nil => rfl
    | cons c l =>
      have hc : isWhitespace c = false := hl c List.mem_cons_self
      simp [hc]
  have hreverse : ∀ c ∈ s.toList.reverse, isWhitespace c = false := by
    intro c hc
    exact h c (List.mem_reverse.mp hc)
  rw [trim, hdrop s.toList h, List.rdropWhile, hdrop s.toList.reverse hreverse,
    List.reverse_reverse, String.ofList_toList]

/-- There is nothing but white space. -/
def Blank (s : String) : Prop := ∀ c ∈ s.toList, isWhitespace c = true

instance (s : String) : Decidable (Blank s) :=
  List.decidableBAll _ s.toList

/-- Nothing is left of white space, and something of any other text. -/
theorem trim_eq_empty_iff : trim s = "" ↔ Blank s := by
  constructor
  · intro h c hc
    by_contra hwhite
    have hmem : c ∈ (trim s).toList := (mem_trim (by simpa using hwhite)).mpr hc
    rw [h] at hmem
    simp at hmem
  · intro h
    have hdrop : s.toList.dropWhile isWhitespace = [] := List.dropWhile_eq_nil_iff.mpr h
    rw [trim, hdrop]
    rfl

end Trim

/-- A text in which every part but the first one follows a separator is split into its parts. -/
theorem splitOn_flatMap_cons {c : Char} {head : List Char} {parts : List (List Char)}
    (hhead : c ∉ head)
    (hparts : ∀ part ∈ parts, c ∉ part) :
    (head ++ parts.flatMap (c :: ·)).splitOn c = head :: parts := by
  induction parts generalizing head with
  | nil => rw [List.flatMap_nil, List.append_nil, List.splitOn_eq_singleton hhead]
  | cons part parts ih =>
    obtain ⟨hpart, hrest⟩ := List.forall_mem_cons.mp hparts
    rw [List.flatMap_cons, List.cons_append, List.splitOn_append_cons_self_of_not_mem hhead,
      ih hpart hrest]

end Dart
