import AroundMuseo.Models.Fields

/-!
# The museum logbook entry

`MuseumLogbookModel` with its encoder and decoder. Both times are nullable in the
model, and the decoder replaces a stored `null` by the current time.
-/

namespace AroundMuseo

open Firestore

structure MuseumLogbookModel where
  id : String
  userId : String := ""
  firstName : String
  lastName : String
  addressCity : String
  addressProvState : String
  addressCountry : String
  gender : String := ""
  birthYear : String := ""
  timeIn : Option DateTime := none
  timeOut : Option DateTime := none
  deriving DecidableEq, Repr

namespace MuseumLogbookModel

/-- `MuseumLogbookModel.empty()`, created at the given times. -/
def empty (inNow outNow : DateTime) : MuseumLogbookModel where
  id := ""
  firstName := ""
  lastName := ""
  addressCity := ""
  addressProvState := ""
  addressCountry := ""
  timeIn := some inNow
  timeOut := some outNow

def toJson (m : MuseumLogbookModel) : Doc :=
  Doc.ofFields [
    ("UserId", Scalar.string m.userId),
    ("FirstName", Scalar.string m.firstName),
    ("LastName", Scalar.string m.lastName),
    ("Gender", Scalar.string m.gender),
    ("BirthYear", Scalar.string m.birthYear),
    ("AddressCity", Scalar.string m.addressCity),
    ("AddressProvState", Scalar.string m.addressProvState),
    ("AddressCountry", Scalar.string m.addressCountry),
    ("TimeIn", nullable .timestamp m.timeIn),
    ("TimeOut", nullable .timestamp m.timeOut)]

/-- `MuseumLogbookModel.fromSnapshot`, with the two readings of the clock that it
may use. -/
def fromSnapshot (inNow outNow : DateTime) (id : String) :
    Option Doc → Except Exn MuseumLogbookModel
  | some data => do
    return {
      id
      userId := ← stringField data "UserId" ""
      firstName := ← stringField data "FirstName" ""
      lastName := ← stringField data "LastName" ""
      gender := ← stringField data "Gender" ""
      birthYear := ← stringField data "BirthYear" ""
      addressCity := ← stringField data "AddressCity" ""
      addressProvState := ← stringField data "AddressProvState" ""
      addressCountry := ← stringField data "AddressCountry" ""
      timeIn := some (← dateField data "TimeIn" inNow)
      timeOut := some (← dateField data "TimeOut" outNow) }
  | none => .ok (empty inNow outNow)

/-- A nullable time is read back as the clock if it was `null`. -/
theorem dateField_of_nullable {data : Doc} {key : String} {t : Option DateTime}
    (h : data.lookup key = some (nullable .timestamp t)) (now : DateTime) :
    dateField data key now = .ok (t.getD now) := by
  cases t with
  | none => simp [dateField, h, nullable]
  | some t => simp [dateField, h, nullable]

/-- An entry with the encoded fields, whatever else it has, decodes to the model; only a
missing time becomes the reader's. -/
theorem fromSnapshot_of_toJson {m : MuseumLogbookModel} {data : Doc}
    (h : ∀ key ≠ "timeOut", data.lookup key = m.toJson.lookup key) (inNow outNow : DateTime)
    (id : String) :
    fromSnapshot inNow outNow id (some data) = .ok { m with
      id
      timeIn := some (m.timeIn.getD inNow)
      timeOut := some (m.timeOut.getD outNow) } := by
  have hstring (key s : String) (hkey : key ≠ "timeOut")
      (hs : m.toJson.lookup key = some (.scalar (.string s))) :
        stringField data key "" = .ok s := by
    rw [stringField, h key hkey, hs]
  have hin : dateField data "TimeIn" inNow = .ok (m.timeIn.getD inNow) :=
    dateField_of_nullable (h "TimeIn" (by decide)) inNow
  have hout : dateField data "TimeOut" outNow = .ok (m.timeOut.getD outNow) :=
    dateField_of_nullable (h "TimeOut" (by decide)) outNow
  rw [fromSnapshot, hstring "UserId" m.userId (by decide) rfl,
    hstring "FirstName" m.firstName (by decide) rfl, hstring "LastName" m.lastName (by decide) rfl,
    hstring "Gender" m.gender (by decide) rfl, hstring "BirthYear" m.birthYear (by decide) rfl,
    hstring "AddressCity" m.addressCity (by decide) rfl,
    hstring "AddressProvState" m.addressProvState (by decide) rfl,
    hstring "AddressCountry" m.addressCountry (by decide) rfl, hin, hout]
  rfl

end MuseumLogbookModel

end AroundMuseo
