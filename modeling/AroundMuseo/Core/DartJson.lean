import Mathlib.Data.Rat.Defs

/-!
# JSON values as Dart sees them

A decoded value is `dynamic`: an index or a cast is tried when the program runs, and throws
when the value is of another kind. An object has no key that is a number, and answers `null`.
-/

namespace Dart

/-- What `json.decode` makes of a text. -/
inductive Json where
  | null
  | bool (b : Bool)
  | num (n : Rat)
  | string (s : String)
  | array (elements : List Json)
  | object (fields : List (String × Json))

namespace Json

variable {j v : Json} {key : String}

/-- `j[key]`; `none` stands for an exception. -/
def field (j : Json) (key : String) : Option Json :=
  match j with
  | object fields => some ((fields.lookup key).getD null)
  | _ => none

/-- `j[0]` -/
def first : Json → Option Json
  | array elements => elements.head?
  | string s => s.toList.head?.map fun c => string (String.singleton c)
  | object _ => some null
  | _ => none

/-- `j.isNotEmpty` -/
def isNotEmpty : Json → Option Bool
  | array elements => some !elements.isEmpty
  | string s => some !s.isEmpty
  | object fields => some !fields.isEmpty
  | _ => none

/-- `String s = j` -/
def asString : Json → Option String
  | string s => some s
  | _ => none

/-- A field that is not `null` is there. -/
theorem field_eq_some (hv : v ≠ null) : j.field key = some v ↔
    ∃ fields, j = object fields ∧ fields.lookup key = some v := by
  cases j with
  | object fields =>
    simp only [field, Option.some.injEq, object.injEq, exists_eq_left']
    cases hkey : fields.lookup key with
    | none => simp [hv.symm]
    | some value => simp
  | _ => simp [field]

theorem object_ne_null {fields : List (String × Json)} : object fields ≠ null := nofun

theorem array_ne_null {elements : List Json} : array elements ≠ null := nofun

theorem string_ne_null {s : String} : string s ≠ null := nofun

/-- The first element is an object exactly in a list that starts with it. -/
theorem first_eq_object {fields : List (String × Json)} :
    j.first = some (object fields) ↔ ∃ rest, j = array (object fields :: rest) := by
  cases j with
  | array elements => cases elements <;> simp [first]
  | string s => simp [first]
  | _ => simp [first]

/-- Only a string is read as one. -/
theorem asString_eq_some {s : String} : j.asString = some s ↔ j = string s := by
  cases j <;> simp [asString]

end Json

end Dart
