import AroundMuseo.Locations.Calendar
import AroundMuseo.System.Parts

/-!
# Spinners

Each function that shows a spinner hides it again in its `finally` block. Others may hide it
earlier, but as long as it is shown some operation is under way that will hide it.
-/

namespace AroundMuseo

open Async Spinner

/-- The operation shows the spinner: a detected code because the visit is logged. -/
def AppOperation.Shows (x : Spinner) : AppOperation → Prop
  | fetchLocations _ | fetchAllLocations | fetchUserFavorites => x = .locations
  | fetchLocationCategory => x = .locationCategories
  | fetchUserRecord | onDetect _ => x = .profile
  | uploadUserProfilePicture => x = .image
  | _ => False

section Parts

variable {x : Spinner} {may : Prop} {α : Type} {p : App α}

end Parts

section Runs

variable {intl : Intl} {repository : LocationRepository} {w₀ : World} {c : AppPool AppOperation}
  {ms : History}

end Runs

end AroundMuseo
