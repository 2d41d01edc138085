import Mathlib.Data.Int.Order.Basic
import Mathlib.Tactic.Common

/-!
# Ranges as Dart checks them

`sublist` and `substring` check their range before they read anything, and throw a
`RangeError` that names the bound which is wrong.
-/

namespace Dart

/-- `RangeError.range(invalidValue, minValue, maxValue, name)` -/
structure RangeError where
  invalidValue : Int
  minValue : Int
  maxValue : Int
  name : String
  deriving DecidableEq, Repr

/-- `RangeError.checkValidRange(start, end, length)`: the end of the range, which is the
length where none is given. -/
def checkValidRange (start : Int) (stop : Option Int) (length : Int) : Except RangeError Int :=
  if start < 0 ∨ length < start then .error ⟨start, 0, length, "start"⟩
  else
    match stop with
    | none => .ok length
    | some stop =>
      if stop < start ∨ length < stop then .error ⟨stop, start, length, "end"⟩ else .ok stop

variable {α : Type} {xs : List α}

/-- `xs.sublist(start, end)` -/
def sublist (xs : List α) (start : Int) (stop : Option Int) : Except RangeError (List α) := do
  let stop ← checkValidRange start stop xs.length
  return (xs.take stop.toNat).drop start.toNat

/-- `s.substring(start, end)` of a text whose characters are single code units. -/
def substring (s : String) (start : Int) (stop : Option Int) : Except RangeError String :=
  (sublist s.toList start stop).map String.ofList

theorem sublist_eq_ok (start stop : Nat) (hstart : start ≤ stop) (hstop : stop ≤ xs.length) :
    sublist xs start (some (stop : Int)) = .ok ((xs.take stop).drop start) := by
  have hcheck : checkValidRange start (some (stop : Int)) xs.length = .ok (stop : Int) := by
    rw [checkValidRange, if_neg (by omega)]
    exact if_neg (by omega)
  rw [sublist, hcheck]
  rfl

theorem sublist_none (start : Nat) (hstart : start ≤ xs.length) :
    sublist xs start none = .ok (xs.drop start) := by
  have hcheck : checkValidRange start none xs.length = .ok (xs.length : Int) := by
    rw [checkValidRange, if_neg (by omega)]
  rw [sublist, hcheck]
  simp [bind, Except.bind, pure, Except.pure]

/-- The range starts in the list and ends where it should not. -/
theorem sublist_eq_error (start : Nat) {stop : Int} (hstart : start ≤ xs.length)
    (hstop : stop < start ∨ xs.length < stop) :
    sublist xs start (some stop) = .error ⟨stop, start, xs.length, "end"⟩ := by
  have hcheck : checkValidRange start (some stop) xs.length =
      .error ⟨stop, start, xs.length, "end"⟩ := by
    rw [checkValidRange, if_neg (by omega)]
    exact if_pos hstop
  rw [sublist, hcheck]
  rfl

end Dart
