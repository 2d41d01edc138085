import AroundMuseo.Models.Fields

/-!
# The transactions on a user's favourites

The handlers that `addToFavorites` and `removeFromFavorites` pass to
`runTransaction`. A handler sees a snapshot of the document and either throws,
writes nothing, or writes the document; the store applies it atomically.
-/

namespace AroundMuseo

open Firestore

/-- The two handlers passed to `runTransaction`. -/
inductive FavoritesTransaction where
  | addToFavorites (locationId : String)
  | removeFromFavorites (locationId : String)
  deriving DecidableEq, Repr

namespace FavoritesTransaction

/-- `List<dynamic> ids = snapshot.data()?['FavoriteLocationIds'] ?? []`. -/
def favoriteLocationIds (data : Doc) : Except Exn (List Scalar) :=
  match data.lookup "FavoriteLocationIds" with
  | none | some (.scalar .null) => .ok []
  | some (.array ids) => .ok ids
  | some _ => .error Exn.typeError

/-- The list that `addToFavorites` writes, if it writes. -/
def addId (locationId : String) (ids : List Scalar) : Option (List Scalar) :=
  if .string locationId ∈ ids then none else some (ids ++ [.string locationId])

/-- The list that `removeFromFavorites` writes, if it writes: `List.remove` takes
out the first occurrence only. -/
def removeId (locationId : String) (ids : List Scalar) : Option (List Scalar) :=
  if .string locationId ∈ ids then some (ids.erase (.string locationId)) else none

/-- `{'FavoriteLocationIds': ids}`. -/
def fields (ids : List Scalar) : Doc := Doc.ofFields [("FavoriteLocationIds", .array ids)]

/-- The document after the handler, from the one before it. -/
def apply : FavoritesTransaction → Option Doc → Except Exn (Option Doc)
  | addToFavorites locationId, none => .ok (some (fields [.string locationId]))
  | addToFavorites locationId, some data => do
    match addId locationId (← favoriteLocationIds data) with
    | some ids => return some (data.merge (fields ids))
    | none => return some data
  | removeFromFavorites _, none => .ok none
  | removeFromFavorites locationId, some data => do
    match removeId locationId (← favoriteLocationIds data) with
    | some ids => return some (data.merge (fields ids))
    | none => return some data

end FavoritesTransaction

end AroundMuseo
