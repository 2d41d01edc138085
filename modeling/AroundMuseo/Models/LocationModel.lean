import AroundMuseo.Models.Fields

/-!
# Locations and favourites

`LocationModel` and `UserFavoritesLocationModel` with their decoders. The names of
the categories and the opening information are not stored with a location's
identity: the controller fills them in after loading.
-/

namespace AroundMuseo

open Firestore

structure GeoPoint where
  latitude : Rat
  longitude : Rat
  deriving DecidableEq, Repr

structure LocationModel where
  id : String
  name : String
  categoryId : String
  subCategoryId : String
  categoryName : String
  subCategoryName : String
  address : String
  coordinates : GeoPoint
  description : String
  contactNumber : String
  socials : String
  thumbnail : String
  images : Option (List String) := none
  operatingHours : Option (List (String × String)) := none
  isFeatured : Bool := false
  isOpen : Bool := false
  openTimes : String := ""
  closeTimes : String := ""
  deriving DecidableEq, Repr

namespace LocationModel

/-- `data['Coordinates'] ?? const GeoPoint(0, 0)`. -/
def coordinatesField (data : Doc) : Except Exn GeoPoint :=
  match data.lookup "Coordinates" with
  | none | some (.scalar .null) => .ok ⟨0, 0⟩
  | some (.scalar (.geoPoint latitude longitude)) => .ok ⟨latitude, longitude⟩
  | some _ => .error Exn.typeError

/-- `LocationModel.fromSnapshot`. -/
def fromSnapshot (id : String) (data : Doc) : Except Exn LocationModel := do
  return {
    id
    name := ← stringField data "Name" ""
    categoryId := ← stringField data "CategoryId" ""
    subCategoryId := ← stringField data "SubCategoryId" ""
    categoryName := ← stringField data "CategoryName" ""
    subCategoryName := ← stringField data "SubCategoryName" ""
    address := ← stringField data "Address" ""
    coordinates := ← coordinatesField data
    description := ← stringField data "Description" ""
    contactNumber := ← stringField data "ContactNumber" ""
    socials := ← stringField data "Socials" ""
    thumbnail := ← stringField data "Thumbnail" ""
    images := some (← stringListField data "Images")
    operatingHours := some (← stringMapField data "OperatingHours")
    isFeatured := ← boolField data "IsFeatured" false }

/-- `LocationModel.fromQuerySnapshot`, a copy of the above. -/
def fromQuerySnapshot (id : String) (data : Doc) : Except Exn LocationModel := do
  return {
    id
    name := ← stringField data "Name" ""
    categoryId := ← stringField data "CategoryId" ""
    subCategoryId := ← stringField data "SubCategoryId" ""
    categoryName := ← stringField data "CategoryName" ""
    subCategoryName := ← stringField data "SubCategoryName" ""
    address := ← stringField data "Address" ""
    coordinates := ← coordinatesField data
    description := ← stringField data "Description" ""
    contactNumber := ← stringField data "ContactNumber" ""
    socials := ← stringField data "Socials" ""
    thumbnail := ← stringField data "Thumbnail" ""
    images := some (← stringListField data "Images")
    operatingHours := some (← stringMapField data "OperatingHours")
    isFeatured := ← boolField data "IsFeatured" false }

/-- The two decoders are copies of one another. -/
theorem fromQuerySnapshot_eq : fromQuerySnapshot = fromSnapshot := rfl

/-- The fields of a location, with its coordinates as they are given. -/
def fields (m : LocationModel) (coordinates : Value) : List (String × Value) := [
  ("Name", Scalar.string m.name),
  ("CategoryId", Scalar.string m.categoryId),
  ("SubCategoryId", Scalar.string m.subCategoryId),
  ("CategoryName", Scalar.string m.categoryName),
  ("SubCategoryName", Scalar.string m.subCategoryName),
  ("Address", Scalar.string m.address),
  ("Coordinates", coordinates),
  ("Description", Scalar.string m.description),
  ("ContactNumber", Scalar.string m.contactNumber),
  ("Socials", Scalar.string m.socials),
  ("Thumbnail", Scalar.string m.thumbnail),
  ("Images", .array ((m.images.getD []).map .string)),
  ("OperatingHours", .map ((m.operatingHours.getD []).map fun e => (e.1, .string e.2))),
  ("IsFeatured", Scalar.bool m.isFeatured)]

/-- `toJson()`: the coordinates become a map. -/
def toJson (m : LocationModel) : Doc :=
  Doc.ofFields (m.fields (.map [
    ("latitude", .number m.coordinates.latitude),
    ("longitude", .number m.coordinates.longitude)]))

/-- Whatever else is decoded, the id is the id of the document. -/
theorem fromSnapshot_id {id : String} {data : Doc} {m : LocationModel}
    (h : fromSnapshot id data = .ok m) : m.id = id := by
  simp only [fromSnapshot, bind_eq_ok] at h
  obtain ⟨_, -, _, -, _, -, _, -, _, -, _, -, _, -, _, -, _, -, _, -, _, -, _, -, _, -, _, -, hm⟩ :=
    h
  cases hm
  rfl

end LocationModel

structure UserFavoritesLocationModel where
  userId : String
  favoriteLocationIds : List String
  deriving DecidableEq, Repr

/-- `UserFavoritesLocationModel.fromSnapshot`; the document exists where it is used. -/
def UserFavoritesLocationModel.fromSnapshot (id : String) (data : Doc) :
    Except Exn UserFavoritesLocationModel := do
  return { userId := id, favoriteLocationIds := ← stringListField data "FavoriteLocationIds" }

end AroundMuseo
