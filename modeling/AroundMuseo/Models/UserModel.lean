import AroundMuseo.Models.Fields

/-!
# The user record

`UserModel` with its encoder and decoder. The encoder writes the current time into
the three time fields of the model before it stores them, and the decoder looks
for the last activity under another name than the encoder's.
-/

namespace AroundMuseo

open Firestore

inductive AppRole where
  | admin
  | user
  deriving DecidableEq, Repr

/-- The `name` of an enumeration value. -/
def AppRole.name : AppRole → String
  | admin => "admin"
  | user => "user"

structure UserModel where
  id : String
  firstName : String
  lastName : String
  email : String
  gender : String := ""
  birthYear : String := ""
  addressCity : String
  addressProvState : String
  addressCountry : String
  profilePicture : String := ""
  role : AppRole := .user
  createdAt : Option DateTime := none
  updatedAt : Option DateTime := none
  lastActive : Option DateTime := none
  deriving DecidableEq, Repr

namespace UserModel

/-- `UserModel.empty()`, created at the given times. -/
def empty (createdNow updatedNow activeNow : DateTime) : UserModel where
  id := ""
  firstName := ""
  lastName := ""
  email := ""
  addressCity := ""
  addressProvState := ""
  addressCountry := ""
  createdAt := some createdNow
  updatedAt := some updatedNow
  lastActive := some activeNow

/-- `toJson()`, with the model it leaves behind: the time fields are assigned
`DateTime.now()` on the way, one reading of the clock each. -/
def toJson (u : UserModel) (createdNow updatedNow activeNow : DateTime) : Doc × UserModel :=
  (Doc.ofFields [
    ("FirstName", Scalar.string u.firstName),
    ("LastName", Scalar.string u.lastName),
    ("Email", Scalar.string u.email),
    ("Gender", Scalar.string u.gender),
    ("BirthYear", Scalar.string u.birthYear),
    ("AddressCity", Scalar.string u.addressCity),
    ("AddressProvState", Scalar.string u.addressProvState),
    ("AddressCountry", Scalar.string u.addressCountry),
    ("ProfilePicture", Scalar.string u.profilePicture),
    ("Role", Scalar.string u.role.name),
    ("CreatedAt", Scalar.timestamp createdNow),
    ("UpdatedAt", Scalar.timestamp updatedNow),
    ("LastActive", Scalar.timestamp activeNow)],
   { u with
      createdAt := some createdNow
      updatedAt := some updatedNow
      lastActive := some activeNow })

/-- The role is the administrator's only if the field says so. -/
def roleField (data : Doc) : AppRole :=
  if data.lookup "Role" = some (.scalar (.string AppRole.admin.name)) then .admin else .user

/-- `UserModel.fromSnapshot`, with the three readings of the clock that it may use. -/
def fromSnapshot (createdNow updatedNow activeNow : DateTime) (id : String) :
    Option Doc → Except Exn UserModel
  | some data => do
    return {
      id
      firstName := ← stringField data "FirstName" ""
      lastName := ← stringField data "LastName" ""
      email := ← stringField data "Email" ""
      gender := ← stringField data "Gender" ""
      birthYear := ← stringField data "BirthYear" ""
      addressCity := ← stringField data "AddressCity" ""
      addressProvState := ← stringField data "AddressProvState" ""
      addressCountry := ← stringField data "AddressCountry" ""
      profilePicture := ← stringField data "ProfilePicture" ""
      role := roleField data
      createdAt := some (← dateField data "CreatedAt" createdNow)
      updatedAt := some (← dateField data "UpdatedAt" updatedNow)
      lastActive := some (← dateField data "lastActive" activeNow) }
  | none => .ok (empty createdNow updatedNow activeNow)

/-- Whatever else is decoded, the id is the id of the document. -/
theorem fromSnapshot_id {t₁ t₂ t₃ : DateTime} {id : String} {data : Doc} {u : UserModel}
    (h : fromSnapshot t₁ t₂ t₃ id (some data) = .ok u) : u.id = id := by
  simp only [fromSnapshot, bind_eq_ok] at h
  obtain ⟨_, -, _, -, _, -, _, -, _, -, _, -, _, -, _, -, _, -, _, -, _, -, _, -, hu⟩ := h
  cases hu
  rfl

/-- Whether a document decodes does not depend on the clock, nor on the id. -/
theorem decodes_of_decodes {t₁ t₂ t₃ : DateTime} (s₁ s₂ s₃ : DateTime) {id id' : String}
    {data : Doc} (h : ∃ user, fromSnapshot t₁ t₂ t₃ id (some data) = .ok user) :
    ∃ user, fromSnapshot s₁ s₂ s₃ id' (some data) = .ok user := by
  simp only [fromSnapshot, bind_eq_ok] at h ⊢
  obtain ⟨-, firstName, h₁, lastName, h₂, email, h₃, gender, h₄, birthYear, h₅, city, h₆,
    province, h₇, country, h₈, picture, h₉, created, hc, updated, hu, active, ha, -⟩ := h
  obtain ⟨created', hc'⟩ := (dateField_isOk _ _ _ s₁).mp ⟨created, hc⟩
  obtain ⟨updated', hu'⟩ := (dateField_isOk _ _ _ s₂).mp ⟨updated, hu⟩
  obtain ⟨active', ha'⟩ := (dateField_isOk _ _ _ s₃).mp ⟨active, ha⟩
  exact ⟨_, firstName, h₁, lastName, h₂, email, h₃, gender, h₄, birthYear, h₅, city, h₆,
    province, h₇, country, h₈, picture, h₉, created', hc', updated', hu', active', ha', rfl⟩

end UserModel

end AroundMuseo
