import AroundMuseo.Models.LocationModel

/-!
# The round trip of a location

The encoder writes the coordinates as a map of two numbers, where both decoders expect a
geo point. No other field is in the way.
-/

namespace AroundMuseo

open Firestore

namespace LocationModel

/-- The fields that are stored: all but the opening information of the moment. -/
def persisted (m : LocationModel) : LocationModel :=
  { m with
    isOpen := false
    openTimes := ""
    closeTimes := "" }

/-- The document as the decoders expect it. -/
def legibleJson (m : LocationModel) : Doc :=
  Doc.ofFields (m.fields (Scalar.geoPoint m.coordinates.latitude m.coordinates.longitude))

/-- A location whose coordinates are stored as a geo point is decoded as it was. -/
theorem fromSnapshot_legibleJson {m : LocationModel} (himages : m.images.isSome)
    (hhours : m.operatingHours.isSome) : fromSnapshot m.id m.legibleJson = .ok m.persisted := by
  obtain ⟨images, himages⟩ := Option.isSome_iff_exists.mp himages
  obtain ⟨hours, hhours⟩ := Option.isSome_iff_exists.mp hhours
  have hcoordinates : coordinatesField m.legibleJson = .ok m.coordinates := by
    simp [coordinatesField, legibleJson, fields]
  have hlist : stringListField m.legibleJson "Images" = .ok images := by
    simp [stringListField, legibleJson, fields, himages, stringList_map_string]
  have hmap : stringMapField m.legibleJson "OperatingHours" = .ok hours := by
    simp [stringMapField, legibleJson, fields, hhours, stringMap_map_string]
  have hfeatured : boolField m.legibleJson "IsFeatured" false = .ok m.isFeatured := by
    simp [boolField, legibleJson, fields]
  have hstring (key s : String) (hs : m.legibleJson.lookup key = some (.scalar (.string s))) :
      stringField m.legibleJson key "" = .ok s := by
    rw [stringField, hs]
  rw [fromSnapshot, hstring "Name" m.name rfl, hstring "CategoryId" m.categoryId rfl,
    hstring "SubCategoryId" m.subCategoryId rfl, hstring "CategoryName" m.categoryName rfl,
    hstring "SubCategoryName" m.subCategoryName rfl, hstring "Address" m.address rfl, hcoordinates,
    hstring "Description" m.description rfl, hstring "ContactNumber" m.contactNumber rfl,
    hstring "Socials" m.socials rfl, hstring "Thumbnail" m.thumbnail rfl, hlist, hmap, hfeatured]
  simp [persisted, himages, hhours, bind, Except.bind, pure, Except.pure]

/-- The decoders do not know the encoded coordinates. -/
theorem coordinatesField_toJson (m : LocationModel) :
    coordinatesField m.toJson = .error Exn.typeError := by
  have hmap : m.toJson.lookup "Coordinates" = some (.map [
      ("latitude", .number m.coordinates.latitude),
      ("longitude", .number m.coordinates.longitude)]) := by
    simp [toJson, fields]
  rw [coordinatesField, hmap]

/-- A document is decoded only if its coordinates are. -/
theorem coordinatesField_of_fromSnapshot {id : String} {data : Doc} {m : LocationModel}
    (h : fromSnapshot id data = .ok m) :
    ∃ coordinates, coordinatesField data = .ok coordinates := by
  simp only [fromSnapshot, bind_eq_ok] at h
  obtain ⟨_, -, _, -, _, -, _, -, _, -, _, -, coordinates, hcoordinates, -⟩ := h
  exact ⟨coordinates, hcoordinates⟩

end LocationModel

/-- Both decoders read an encoded location, and read it alike and as it was. -/
structure LocationRoundTrips (m : LocationModel) : Prop where
  fromSnapshot : LocationModel.fromSnapshot m.id m.toJson = .ok m.persisted
  fromQuerySnapshot : LocationModel.fromQuerySnapshot m.id m.toJson = .ok m.persisted

/-- No location makes the round trip. -/
theorem locationRoundTrips_never (m : LocationModel) : ¬ LocationRoundTrips m := by
  intro h
  obtain ⟨coordinates, hcoordinates⟩ :=
    LocationModel.coordinatesField_of_fromSnapshot h.fromSnapshot
  rw [m.coordinatesField_toJson] at hcoordinates
  cases hcoordinates

/-- Not even one without a name. -/
theorem not_locationRoundTrips_nameless : ∃ m : LocationModel, m.images.isSome ∧
    m.operatingHours.isSome ∧ ¬ LocationRoundTrips m := by
  refine ⟨⟨"a", "", "", "", "", "", "", ⟨0, 0⟩, "", "", "", "", some [], some [], false, false, "",
    ""⟩, rfl, rfl, fun h => ?_⟩
  have hname := congrArg Except.isOk h.fromSnapshot
  revert hname
  decide

end AroundMuseo
