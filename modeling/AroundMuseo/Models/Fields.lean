import AroundMuseo.Core.Firestore
import AroundMuseo.Utils.Exceptions

/-!
# Reading document fields

How a factory constructor reads one field of `document.data()`. A missing field
and a stored `null` both read as `null`, so the `??` default applies to either; a
value of another type fails the implicit downcast from `dynamic`.
-/

namespace AroundMuseo

open Firestore

/-- A point in time, in microseconds since the epoch. -/
abbrev DateTime := Int

/-- `data[key] ?? dflt` as a `String`. -/
def stringField (data : Doc) (key : String) (dflt : String) : Except Exn String :=
  match data.lookup key with
  | none | some (.scalar .null) => .ok dflt
  | some (.scalar (.string s)) => .ok s
  | some _ => .error Exn.typeError

/-- `data[key] ?? dflt` as a `bool`. -/
def boolField (data : Doc) (key : String) (dflt : Bool) : Except Exn Bool :=
  match data.lookup key with
  | none | some (.scalar .null) => .ok dflt
  | some (.scalar (.bool b)) => .ok b
  | some _ => .error Exn.typeError

/-- `data.containsKey(key) ? data[key]?.toDate() ?? now : now`. -/
def dateField (data : Doc) (key : String) (now : DateTime) : Except Exn DateTime :=
  match data.lookup key with
  | none | some (.scalar .null) => .ok now
  | some (.scalar (.timestamp t)) => .ok t
  | some _ => .error Exn.typeError

/-- `List<String>.from(xs)`. -/
def stringList : List Scalar → Except Exn (List String)
  | [] => .ok []
  | .string s :: xs => do return s :: (← stringList xs)
  | _ :: _ => .error Exn.typeError

/-- `data[key] != null ? List<String>.from(data[key]) : []`. -/
def stringListField (data : Doc) (key : String) : Except Exn (List String) :=
  match data.lookup key with
  | none | some (.scalar .null) => .ok []
  | some (.array xs) => stringList xs
  | some _ => .error Exn.typeError

/-- `Map<String, String>.from(m)`. -/
def stringMap : List (String × Scalar) → Except Exn (List (String × String))
  | [] => .ok []
  | (k, .string s) :: m => do return (k, s) :: (← stringMap m)
  | _ :: _ => .error Exn.typeError

/-- `data[key] != null ? Map<String, String>.from(data[key]) : {}`. -/
def stringMapField (data : Doc) (key : String) : Except Exn (List (String × String)) :=
  match data.lookup key with
  | none | some (.scalar .null) => .ok []
  | some (.map m) => stringMap m
  | some _ => .error Exn.typeError

/-- The value of a nullable `DateTime` or string field when it is stored. -/
def nullable (f : α → Scalar) : Option α → Value
  | none => Scalar.null
  | some a => f a

/-- A decoder succeeds if its steps do. -/
theorem bind_eq_ok {α β : Type} {x : Except Exn α} {f : α → Except Exn β} {b : β} :
    (x >>= f) = .ok b ↔ ∃ a, x = .ok a ∧ f a = .ok b := by
  cases x with
  | error e => exact ⟨nofun, nofun⟩
  | ok a => exact ⟨fun h => ⟨a, rfl, h⟩, fun ⟨_, rfl, h⟩ => h⟩

theorem isOk_bind {α β : Type} {x : Except Exn α} {f : α → Except Exn β} (hx : ∃ a, x = .ok a)
    (hf : ∀ a, x = .ok a → ∃ b, f a = .ok b) : ∃ b, (x >>= f) = .ok b := by
  obtain ⟨a, ha⟩ := hx
  obtain ⟨b, hb⟩ := hf a ha
  exact ⟨b, bind_eq_ok.mpr ⟨a, ha, hb⟩⟩

/-- Whether a date decodes does not depend on the clock. -/
theorem dateField_isOk (data : Doc) (key : String) (t t' : DateTime) :
    (∃ a, dateField data key t = .ok a) ↔ ∃ a, dateField data key t' = .ok a := by
  unfold dateField
  split <;> simp

/-- A list of strings survives being stored. -/
theorem stringList_map_string (xs : List String) : stringList (xs.map Scalar.string) = .ok xs := by
  induction xs with
  | nil => rfl
  | cons x xs ih => simp [stringList, ih, pure, Except.pure, bind, Except.bind]

/-- So does a map to strings. -/
theorem stringMap_map_string (m : List (String × String)) :
    stringMap (m.map fun e => (e.1, Scalar.string e.2)) = .ok m := by
  induction m with
  | nil => rfl
  | cons e m ih => simp [stringMap, ih, pure, Except.pure, bind, Except.bind]

end AroundMuseo
