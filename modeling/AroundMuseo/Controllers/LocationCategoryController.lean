import AroundMuseo.Platform.Calls

/-!
# The location categories

`LocationCategoryController` with its repository. The parent categories are picked out of
the loaded ones by their missing parent.
-/

namespace AroundMuseo

open Async Firestore

namespace LocationCategoryRepository

/-- `snapshot.docs.map((document) => LocationCategoryModel.fromSnapshot(document)).toList()`. -/
def decodeAll (docs : List (String × Doc)) : Except Exn (List LocationCategoryModel) :=
  docs.mapM fun e => LocationCategoryModel.fromSnapshot e.2

/-- Get all location categories -/
def getAllCategories : App (List LocationCategoryModel) := do
  try
    let docs ← await (.getAll .locationCategories)
    liftExcept (decodeAll docs)
  catch e => throw (e.firestoreRethrownNoFormat "Something went wrong. Please try again.")

end LocationCategoryRepository

namespace LocationCategoryController

/-- Update the state of the controller. -/
def modifyState (f : LocationCategoryControllerState → LocationCategoryControllerState) :
    App Unit :=
  Prog.modify fun w => { w with locationCategoryController := f w.locationCategoryController }

/-- Load location category data -/
def fetchLocationCategory : App Unit :=
  Prog.ensure
    (do
      try
        modifyState fun s => { s with isLoading := true }
        let locationCategories ← LocationCategoryRepository.getAllCategories
        modifyState fun s => { s with allLocationCategories := locationCategories }
        modifyState fun s => { s with
          featuredCategories := s.allLocationCategories.filter fun c => c.parentId = "" }
      catch e => await (.snackBar .error "Oh Snap!" e.toText))
    (modifyState fun s => { s with isLoading := false })

end LocationCategoryController

end AroundMuseo
