import AroundMuseo.Repositories.UserRepository

/-!
# The location repository

Reads of the catalogue, and the reads and writes of one user's favourites. Whose
favourites is fixed when the repository is constructed.
-/

namespace AroundMuseo

open Async Firestore

structure LocationRepository where
  userId : Option String
  deriving DecidableEq, Repr

namespace LocationRepository

/-- `String? userId = FirebaseAuth.instance.currentUser?.uid`. -/
def construct (w : World) : LocationRepository where
  userId := w.currentUser.map (·.uid)

/-- The `on` clauses that close the reads. -/
def rethrowing (p : App α) : App α := do
  try p
  catch e => throw (e.firestoreRethrownNoFormat "Something went wrong. Please try again.")

/-- `snapshot.docs.map((e) => LocationModel.fromSnapshot(e)).toList()`. -/
def decodeAll (docs : List (String × Doc)) : Except Exn (List LocationModel) :=
  docs.mapM fun e => LocationModel.fromSnapshot e.1 e.2

theorem decodeAll_cons {e : String × Doc} {docs : List (String × Doc)}
    {locations : List LocationModel} : decodeAll (e :: docs) = .ok locations ↔
      ∃ l rest, LocationModel.fromSnapshot e.1 e.2 = .ok l ∧ decodeAll docs = .ok rest ∧
        locations = l :: rest := by
  simp only [decodeAll, List.mapM_cons, bind_eq_ok, pure, Except.pure, Except.ok.injEq]
  constructor
  · rintro ⟨l, hl, rest, hrest, rfl⟩
    exact ⟨l, rest, hl, hrest, rfl⟩
  · rintro ⟨l, rest, hl, hrest, rfl⟩
    exact ⟨l, hl, rest, hrest, rfl⟩

theorem decodeAll_getElem? {docs : List (String × Doc)} {locations : List LocationModel}
    (h : decodeAll docs = .ok locations) {i : Nat} {e : String × Doc} (hi : docs[i]? = some e)
    {l : LocationModel} (hl : LocationModel.fromSnapshot e.1 e.2 = .ok l) :
    locations[i]? = some l := by
  induction docs generalizing locations i with
  | nil => simp at hi
  | cons e' docs ih =>
    obtain ⟨l', rest, hl', hrest, rfl⟩ := decodeAll_cons.mp h
    cases i with
    | zero =>
      rw [List.getElem?_cons_zero] at hi
      cases hi
      cases hl'.symm.trans hl
      rfl
    | succ i => exact ih hrest hi

/-- Get limited featured locations -/
def getFeaturedLocations : App (List LocationModel) :=
  rethrowing do
    let docs ← await (.whereEqLimit .locations "IsFeatured" (Scalar.bool true) 5)
    liftExcept (decodeAll docs)

/-- Get all locations -/
def getAllLocations : App (List LocationModel) :=
  rethrowing do
    let docs ← await (.getAll .locations)
    liftExcept (decodeAll docs)

/-- Get locations by category -/
def getLocationsByCategory (categoryId : String) : App (List LocationModel) :=
  rethrowing do
    let docs ← await (.whereEq .locations "CategoryId" (Scalar.string categoryId))
    liftExcept (decodeAll docs)

/-- Get Category Name based on the Category Id -/
def getCategoryNameById (categoryId : String) : App String :=
  rethrowing do
    let id ← doc categoryId
    match ← await (.get .locationCategories id) with
    | some data => liftExcept (stringField data "Name" "")
    | none => pure ""

variable (repository : LocationRepository)

/-- Get user favorites -/
def getUserFavorites : App (Option UserFavoritesLocationModel) :=
  rethrowing do
    let id ← docRef .userFavorites repository.userId
    match ← await (.get .userFavorites id) with
    | some data => return some (← liftExcept (UserFavoritesLocationModel.fromSnapshot id data))
    | none => return none

def addToFavorites (locationId : String) : App Unit := do
  let userFavoritesRef ← docRef .userFavorites repository.userId
  await (.runTransaction userFavoritesRef (.addToFavorites locationId))

def removeFromFavorites (locationId : String) : App Unit := do
  let userFavoritesRef ← docRef .userFavorites repository.userId
  await (.runTransaction userFavoritesRef (.removeFromFavorites locationId))

end LocationRepository

end AroundMuseo
