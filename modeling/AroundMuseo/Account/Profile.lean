import AroundMuseo.Account.Prompts
import AroundMuseo.Controllers.UpdateControllers

/-!
# The profile of a user

The fields that the profile screens show, in memory and as a document decodes, and what
becomes of the decoded ones when fields are merged into the document.
-/

namespace AroundMuseo

open Firestore

/-- The fields that are shown and edited. -/
structure Profile where
  firstName : String
  lastName : String
  email : String
  gender : String
  birthYear : String
  addressCity : String
  addressProvState : String
  addressCountry : String
  profilePicture : String
  deriving DecidableEq

def UserModel.profile (user : UserModel) : Profile where
  firstName := user.firstName
  lastName := user.lastName
  email := user.email
  gender := user.gender
  birthYear := user.birthYear
  addressCity := user.addressCity
  addressProvState := user.addressProvState
  addressCountry := user.addressCountry
  profilePicture := user.profilePicture

/-- The profile of a record that was not found. -/
def Profile.empty : Profile := ⟨"", "", "", "", "", "", "", "", ""⟩

/-- The document decodes, at some time, to a record with the profile. -/
def Decodes (document : Option Doc) (profile : Profile) : Prop :=
  ∃ t₁ t₂ t₃ id user, UserModel.fromSnapshot t₁ t₂ t₃ id document = .ok user ∧
    user.profile = profile

/-- The dates of a record decode. -/
def DatesDecode (d : Doc) : Prop :=
  ∀ key ∈ ["CreatedAt", "UpdatedAt", "lastActive"], ∃ t, dateField d key 0 = .ok t

/-- Without a document the profile is the empty one. -/
theorem decodes_none {profile : Profile} : Decodes none profile ↔ profile = Profile.empty := by
  constructor
  · rintro ⟨t₁, t₂, t₃, id, user, h, rfl⟩
    cases h
    rfl
  · rintro rfl
    exact ⟨0, 0, 0, "", _, rfl, rfl⟩

section Fields

variable {d fields : Doc} {key : String}

/-- A field that is not merged is read as before. -/
theorem stringField_merge_of_none (h : fields.lookup key = none) (dflt : String) :
    stringField (d.merge fields) key dflt = stringField d key dflt := by
  rw [stringField, stringField, Doc.lookup_merge, h, Option.none_or]

/-- A field that is written is read back. -/
theorem stringField_merge_of_some {v : Value} (h : fields.lookup key = some v) (dflt : String) :
    stringField (d.merge fields) key dflt = stringField fields key dflt := by
  rw [stringField, stringField, Doc.lookup_merge, h, Option.some_or]

/-- A date that is not written is still the old one. -/
theorem dateField_merge_of_none (h : fields.lookup key = none) (now : DateTime) :
    dateField (d.merge fields) key now = dateField d key now := by
  rw [dateField, dateField, Doc.lookup_merge, h, Option.none_or]

/-- Writing no dates leaves the dates readable, or not. -/
theorem datesDecode_merge (h : ∀ key ∈ ["CreatedAt", "UpdatedAt", "lastActive"],
    fields.lookup key = none) : DatesDecode (d.merge fields) ↔ DatesDecode d := by
  refine forall₂_congr fun key hkey => ?_
  rw [dateField_merge_of_none (h key hkey)]

end Fields

/-- The stored fields with the values they are read into. -/
def Profile.fields : List (String × (Profile → String)) := [
  ("FirstName", firstName), ("LastName", lastName), ("Email", email), ("Gender", gender),
  ("BirthYear", birthYear), ("AddressCity", addressCity), ("AddressProvState", addressProvState),
  ("AddressCountry", addressCountry), ("ProfilePicture", profilePicture)]

/-- What holds of all fields of a profile, field by field. -/
theorem Profile.forall_fields {p : String × (Profile → String) → Prop} :
    (∀ x ∈ fields, p x) ↔ p ("FirstName", firstName) ∧ p ("LastName", lastName) ∧
      p ("Email", email) ∧ p ("Gender", gender) ∧ p ("BirthYear", birthYear) ∧
      p ("AddressCity", addressCity) ∧ p ("AddressProvState", addressProvState) ∧
      p ("AddressCountry", addressCountry) ∧ p ("ProfilePicture", profilePicture) := by
  simp [fields]

/-- A profile is given by its fields. -/
theorem Profile.ext_fields {p p' : Profile} (h : ∀ x ∈ fields, x.2 p = x.2 p') : p = p' := by
  rw [forall_fields] at h
  obtain ⟨h₁, h₂, h₃, h₄, h₅, h₆, h₇, h₈, h₉⟩ := h
  cases p
  cases p'
  simp_all

/-- A document decodes to a profile exactly if each field does. -/
theorem decodes_some {d : Doc} {profile : Profile} : Decodes (some d) profile ↔
    DatesDecode d ∧ ∀ x ∈ Profile.fields, stringField d x.1 "" = .ok (x.2 profile) := by
  have hdate (key : String) (t : DateTime) :
      (∃ a, dateField d key t = .ok a) ↔ ∃ a, dateField d key 0 = .ok a :=
    dateField_isOk d key t 0
  simp only [Decodes, UserModel.fromSnapshot, bind_eq_ok, DatesDecode, Profile.forall_fields,
    List.forall_mem_cons, List.not_mem_nil, false_imp_iff, forall_const, and_true]
  constructor
  · rintro ⟨t₁, t₂, t₃, id, user,
      ⟨firstName, h₁, lastName, h₂, email, h₃, gender, h₄, birthYear, h₅,
      city, h₆, province, h₇, country, h₈, picture, h₉, created, hc, updated, hu, active,
      ha, huser⟩, rfl⟩
    cases huser
    exact ⟨⟨(hdate _ _).mp ⟨_, hc⟩, (hdate _ _).mp ⟨_, hu⟩, (hdate _ _).mp ⟨_, ha⟩⟩,
      h₁, h₂, h₃, h₄, h₅, h₆, h₇, h₈, h₉⟩
  · rintro ⟨⟨⟨created, hc⟩, ⟨updated, hu⟩, ⟨active, ha⟩⟩, h₁, h₂, h₃, h₄, h₅, h₆, h₇, h₈, h₉⟩
    exact ⟨0, 0, 0, "", _, ⟨_, h₁, _, h₂, _, h₃, _, h₄, _, h₅, _, h₆, _, h₇, _, h₈, _, h₉, _, hc, _,
      hu, _, ha, rfl⟩, rfl⟩

/-- A document without fields decodes like one that does not exist. -/
theorem decodes_getD {document : Option Doc} {profile : Profile} :
    Decodes (some (document.getD ∅)) profile ↔ Decodes document profile := by
  cases document with
  | some d => rfl
  | none =>
    rw [decodes_none]
    constructor
    · rintro ⟨t₁, t₂, t₃, id, user, h, rfl⟩
      cases h
      rfl
    · rintro rfl
      exact ⟨0, 0, 0, "", _, rfl, rfl⟩

/-- What a document decodes to is determined. -/
theorem Decodes.unique {document : Option Doc} {profile profile' : Profile}
    (h : Decodes document profile) (h' : Decodes document profile') : profile = profile' := by
  rw [← decodes_getD, decodes_some] at h h'
  apply Profile.ext_fields
  intro x hx
  exact Except.ok.inj ((h.2 x hx).symm.trans (h'.2 x hx))

/-- After a merge the fields that were merged are read anew. -/
theorem Decodes.merge_iff {d fields : Doc} {profile profile' : Profile}
    (h : Decodes (some d) profile) (hdates : ∀ key ∈ ["CreatedAt", "UpdatedAt", "lastActive"],
      fields.lookup key = none) :
    Decodes (some (d.merge fields)) profile' ↔ ∀ x ∈ Profile.fields,
      match fields.lookup x.1 with
      | some _ => stringField fields x.1 "" = .ok (x.2 profile')
      | none => x.2 profile' = x.2 profile := by
  rw [decodes_some] at h
  rw [decodes_some, and_iff_right ((datesDecode_merge hdates).mpr h.1)]
  refine forall₂_congr fun x hx => ?_
  cases hfield : fields.lookup x.1 with
  | some v => rw [stringField_merge_of_some hfield]
  | none =>
    rw [stringField_merge_of_none hfield, h.2 x hx, Except.ok.injEq]
    exact eq_comm

/-- Strings are written for fields of the profile, which then has them. -/
def Profile.Written (fields : Doc) (profile profile' : Profile) : Prop :=
  (∀ key ∈ ["CreatedAt", "UpdatedAt", "lastActive"], fields.lookup key = none) ∧
    ∀ x ∈ Profile.fields, match fields.lookup x.1 with
      | some _ => stringField fields x.1 "" = .ok (x.2 profile')
      | none => x.2 profile' = x.2 profile

/-- Writing to both sides keeps them equal. -/
theorem Decodes.written {d fields : Doc} {profile profile' : Profile}
    (h : Decodes (some d) profile) (hwritten : Profile.Written fields profile profile') :
    Decodes (some (d.merge fields)) profile' :=
  (h.merge_iff hwritten.1).mpr hwritten.2

section Forms

variable (user : UserModel)

theorem written_name (firstName lastName : String) :
    Profile.Written (Doc.ofFields [
        ("FirstName", Scalar.string firstName),
        ("LastName", Scalar.string lastName)])
      user.profile { user with firstName, lastName : UserModel }.profile := by
  refine ⟨by simp, Profile.forall_fields.mpr ?_⟩
  simp [stringField, UserModel.profile]

theorem written_address (addressCity addressProvState addressCountry : String) :
    Profile.Written (Doc.ofFields [
        ("AddressCity", Scalar.string addressCity),
        ("AddressProvState", Scalar.string addressProvState),
        ("AddressCountry", Scalar.string addressCountry)])
      user.profile
        { user with addressCity, addressProvState, addressCountry : UserModel }.profile := by
  refine ⟨by simp, Profile.forall_fields.mpr ?_⟩
  simp [stringField, UserModel.profile]

theorem written_birthYear (birthYear : String) :
    Profile.Written (Doc.ofFields [("BirthYear", Scalar.string birthYear)])
      user.profile { user with birthYear : UserModel }.profile := by
  refine ⟨by simp, Profile.forall_fields.mpr ?_⟩
  simp [stringField, UserModel.profile]

theorem written_gender (gender : String) :
    Profile.Written (Doc.ofFields [("Gender", Scalar.string gender)])
      user.profile { user with gender : UserModel }.profile := by
  refine ⟨by simp, Profile.forall_fields.mpr ?_⟩
  simp [stringField, UserModel.profile]

theorem written_profilePicture (profilePicture : String) :
    Profile.Written (Doc.ofFields [("ProfilePicture", Scalar.string profilePicture)])
      user.profile { user with profilePicture : UserModel }.profile := by
  refine ⟨by simp, Profile.forall_fields.mpr ?_⟩
  simp [stringField, UserModel.profile]

/-- A Google sign-in writes the email and the picture of the Google account. -/
theorem decodes_googleProfile_iff {document : Option Doc} {profile : Profile}
    (h : Decodes document profile) (account : GoogleSignInAccount) (now : DateTime) :
    Decodes (some ((document.getD ∅).merge (AuthenticationRepository.googleProfile account now)))
      profile ↔
        account.email = profile.email ∧ account.photoUrl.getD "" = profile.profilePicture := by
  rw [(decodes_getD.mpr h).merge_iff (by simp [AuthenticationRepository.googleProfile]),
    Profile.forall_fields]
  cases hphoto : account.photoUrl <;>
    simp [AuthenticationRepository.googleProfile, stringField, nullable, hphoto]

end Forms

end AroundMuseo
