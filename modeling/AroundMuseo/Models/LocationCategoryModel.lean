import AroundMuseo.Models.Fields

/-!
# The categories of locations

`LocationCategoryModel` with its encoder and decoder. The id is not among the encoded
fields, and the decoder looks for it there; the parent is encoded and never decoded.
-/

namespace AroundMuseo

open Firestore

structure LocationCategoryModel where
  id : String
  name : String
  parentId : String := ""
  deriving DecidableEq, Repr

namespace LocationCategoryModel

def toJson (c : LocationCategoryModel) : Doc :=
  Doc.ofFields [("Name", Scalar.string c.name), ("ParentId", Scalar.string c.parentId)]

/-- `data[key] as String` -/
def requiredString (data : Doc) (key : String) : Except Exn String :=
  match data.lookup key with
  | some (.scalar (.string s)) => .ok s
  | _ => .error Exn.typeError

/-- `LocationCategoryModel.fromSnapshot`; the id of the document is not used. -/
def fromSnapshot (data : Doc) : Except Exn LocationCategoryModel := do
  return {
    id := ← requiredString data "CategoryId"
    name := ← requiredString data "Name" }

/-- What is encoded does not decode. -/
theorem fromSnapshot_toJson (c : LocationCategoryModel) :
    fromSnapshot c.toJson = .error Exn.typeError := by
  have hid : c.toJson.lookup "CategoryId" = none := by simp [toJson]
  simp [fromSnapshot, requiredString, hid, bind, Except.bind]

end LocationCategoryModel

end AroundMuseo
