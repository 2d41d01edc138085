import AroundMuseo.Controllers.OpeningHours
import AroundMuseo.Core.Pool
import AroundMuseo.Repositories.LocationRepository

/-!
# The location controller

Loading the catalogue, one category at a time, and toggling a favourite. The loop over a
list that other operations may replace meanwhile is Dart's: the iterator remembers the
length and the index, and checks the length before every element.
-/

namespace AroundMuseo

open Async Firestore

namespace LocationControllerState

variable (s : LocationControllerState)

/-- `list.assignAll(locations)`, where the locations are new objects. -/
def assignNew (list : LocationList) (locations : List LocationModel) : LocationControllerState :=
  { s with
    lists := Function.update s.lists list
      ((locations.zipIdx s.nextLocation).map fun (location, k) => (k, location))
    nextLocation := s.nextLocation + locations.length }

/-- `allLocations.addAll(list)`. -/
def addToAll (list : LocationList) : LocationControllerState :=
  { s with
    lists := Function.update s.lists .allLocations (s.lists .allLocations ++ s.lists list) }

/-- Assign to fields of the object `k`, which every list with it shows. -/
def modifyLocation (k : Nat) (f : LocationModel → LocationModel) : LocationControllerState :=
  { s with
    lists := fun list => (s.lists list).map fun (k', location) =>
      (k', if k' = k then f location else location) }

/-- `list.assignAll(allLocations.where((location) => location.categoryId == categoryId))`. -/
def showCategory (list : LocationList) (categoryId : String) : LocationControllerState :=
  { s with
    lists := Function.update s.lists list
      ((s.lists .allLocations).filter fun location => location.2.categoryId = categoryId) }

/-- `favoriteLocations.assignAll(allLocations.where(..))`. -/
def showFavorites : LocationControllerState :=
  { s with
    lists := Function.update s.lists .favoriteLocations
      ((s.lists .allLocations).filter fun location => location.2.id ∈ s.favoriteLocationIds) }

theorem lists_assignNew (list : LocationList) (locations : List LocationModel) :
    (s.assignNew list locations).lists = Function.update s.lists list
      ((locations.zipIdx s.nextLocation).map fun (location, k) => (k, location)) := rfl

theorem lists_addToAll (list : LocationList) : (s.addToAll list).lists =
    Function.update s.lists .allLocations (s.lists .allLocations ++ s.lists list) := rfl

theorem lists_showCategory (list : LocationList) (categoryId : String) :
    (s.showCategory list categoryId).lists = Function.update s.lists list
      ((s.lists .allLocations).filter fun location => location.2.categoryId = categoryId) := rfl

theorem lists_showFavorites : s.showFavorites.lists = Function.update s.lists .favoriteLocations
    ((s.lists .allLocations).filter fun location => location.2.id ∈ s.favoriteLocationIds) := rfl

end LocationControllerState

namespace LocationController

/-- Update the state of the controller. -/
def modifyState (f : LocationControllerState → LocationControllerState) : App Unit :=
  Prog.modify fun w => { w with locationController := f w.locationController }

def setIsLoading (b : Bool) : App Unit := modifyState fun s => { s with isLoading := b }

def modifyLocation (k : Nat) (f : LocationModel → LocationModel) : App Unit :=
  modifyState (·.modifyLocation k f)

/-- `ConcurrentModificationError` of a list. -/
def concurrentModification (length : Nat) : Exn :=
  .other ("Concurrent modification during iteration: Instance(length:" ++ toString length ++
    ") of '_GrowableList'.")

/-- What is left of `Future.forEach(list, action)` when `remaining` of the `length` elements
that the list had at the start have not been visited. -/
def forEachFrom (list : LocationList) (action : Nat × LocationModel → App Unit) (length : Nat) :
    Nat → App Unit
  | 0 => do
    let now ← Prog.read fun w => (w.locationController.lists list).length
    if now ≠ length then throw (concurrentModification now)
  | remaining + 1 => do
    let locations ← Prog.read fun w => w.locationController.lists list
    if locations.length ≠ length then throw (concurrentModification locations.length)
    else
      match locations[length - (remaining + 1)]? with
      | some location =>
        action location
        forEachFrom list action length remaining
      | none => pure ()

/-- `Future.forEach(list, action)`: one element after the other. -/
def forEach (list : LocationList) (action : Nat × LocationModel → App Unit) : App Unit := do
  let length ← Prog.read fun w => (w.locationController.lists list).length
  forEachFrom list action length length

def setLocationCategory (location : Nat × LocationModel) : App Unit := do
  let categoryName ← LocationRepository.getCategoryNameById location.2.categoryId
  let subCategoryName ← LocationRepository.getCategoryNameById location.2.subCategoryId
  modifyLocation location.1 fun l => { l with categoryName := categoryName }
  modifyLocation location.1 fun l => { l with subCategoryName := subCategoryName }

variable (intl : Intl)

/-- The body of the loop in `setLocationsDetails`. -/
def setLocationDetails (location : Nat × LocationModel) : App Unit := do
  setLocationCategory location
  let isOpen ← liftExcept (checkIfLocationIsOpen intl location.2.operatingHours (← await .now))
  modifyLocation location.1 fun l => { l with isOpen := isOpen }
  let openTimes ← liftExcept (whenToOpen intl location.2.operatingHours (← await .now))
  modifyLocation location.1 fun l => { l with openTimes := openTimes }
  let closeTimes ← liftExcept (whenToClose intl location.2.operatingHours (← await .now))
  modifyLocation location.1 fun l => { l with closeTimes := closeTimes }

def setLocationsDetails (locations : LocationList) : App Unit :=
  forEach locations (setLocationDetails intl)

/-- The shape of the four fetch functions: the category is loaded into its list, the
details are set, and `last` is done with it. -/
def fetchCategory (list : LocationList) (categoryId : String) (last : App Unit) : App Unit :=
  Prog.ensure
    (do
      try
        setIsLoading true
        let locations ← LocationRepository.getLocationsByCategory categoryId
        modifyState (·.assignNew list locations)
        setLocationsDetails intl list
        last
      catch e => await (.snackBar .error "Oh Snap!" e.toText))
    (setIsLoading false)

def fetchTouristSpots : App Unit :=
  fetchCategory intl .touristSpots "1" (modifyState (·.addToAll .touristSpots))

def fetchAccommodations : App Unit :=
  fetchCategory intl .accommodations "2" (modifyState (·.addToAll .accommodations))

/-- Unlike the others, this one does not add its list to `allLocations`. -/
def fetchDining : App Unit :=
  fetchCategory intl .dining "3" (pure ())

def fetchShopping : App Unit :=
  fetchCategory intl .shopping "4" (modifyState (·.addToAll .shopping))

/-- The locations are loaded anew and, with their details set, shared out among the categories. -/
def fetchAllLocations : App Unit :=
  Prog.ensure
    (do
      try
        setIsLoading true
        let locations ← LocationRepository.getAllLocations
        modifyState (·.assignNew .allLocations locations)
        forEach .allLocations (setLocationDetails intl)
        modifyState (·.showCategory .touristSpots "1")
        modifyState (·.showCategory .accommodations "2")
        modifyState (·.showCategory .dining "3")
        modifyState (·.showCategory .shopping "4")
      catch e => await (.snackBar .error "Oh Snap!" e.toText))
    (setIsLoading false)

section Featured

/-- What `fetchFeaturedLocations` does before it waits for the details. -/
def loadFeaturedLocations : App Unit := do
  setIsLoading true
  let locations ← LocationRepository.getFeaturedLocations
  modifyState (·.assignNew .featuredLocations locations)
  modifyState fun s => { s with featuredError := none }

/-- The future of one featured location. It sets the same details as the loop of the
categories; `Future.wait` lets all of them complete and keeps the first error. -/
def featuredLocationDetails (location : Nat × LocationModel) : App Unit := do
  try
    setLocationDetails intl location
  catch e => modifyState fun s => { s with featuredError := s.featuredError.or (some e) }

/-- The `catch` block of `fetchFeaturedLocations`, if there is an error, and its `finally`. -/
def endFeaturedLocations (error : Option Exn) : App Unit :=
  Prog.ensure
    (match error with
      | some e => await (.snackBar .error "Oh Snap!" e.toText)
      | none => pure ())
    (setIsLoading false)

/-- `fetchFeaturedLocations`. The futures start one after the other, and their replies come
in any order. -/
inductive FetchFeaturedLocations (w : World) : List Event → World → Prop
  | notLoaded {w₁ w₂ : World} {tr tr' : List Event} {e : Exn} {r : Except Exn Unit}
      (hload : loadFeaturedLocations.Run platform w tr (.error e) w₁)
      (hend : (endFeaturedLocations (some e)).Run platform w₁ tr' r w₂) :
      FetchFeaturedLocations w (tr ++ tr') w₂
  | loaded {w₁ w₂ : World} {tr tr' : List Event} {r : Except Exn Unit}
      {ms : List (Moment Reply World Exn)} {c : Pool Reply World Exn (Nat × LocationModel)}
      (hload : loadFeaturedLocations.Run platform w tr (.ok ()) w₁)
      (hwait : Pool.Run platform (featuredLocationDetails intl) ⟨w₁, []⟩ ms c)
      (hstarted : c.tasks.map Prod.fst = w₁.locationController.lists .featuredLocations)
      (hcompleted : c.Quiescent)
      (hend : (endFeaturedLocations c.state.locationController.featuredError).Run platform c.state
        tr' r w₂) :
      FetchFeaturedLocations w (tr ++ answers ms ++ tr') w₂

end Featured

section Favorites

variable (locationRepository : LocationRepository)

def fetchUserFavorites : App Unit :=
  Prog.ensure
    (do
      try
        setIsLoading true
        let userFavorites ← locationRepository.getUserFavorites
        match userFavorites with
        | some userFavorites =>
          modifyState fun s => { s with
            favoriteLocationIds := userFavorites.favoriteLocationIds.toFinset }
          modifyState (·.showFavorites)
        | none => pure ()
      catch e => await (.snackBar .error "Oh Snap!" e.toText))
    (setIsLoading false)

def toggleFavorite (locationId : String) : App Unit := do
  let favoriteLocationIds ← Prog.read (·.locationController.favoriteLocationIds)
  if locationId ∈ favoriteLocationIds then
    modifyState fun s => { s with favoriteLocationIds := s.favoriteLocationIds.erase locationId }
    locationRepository.removeFromFavorites locationId
  else
    modifyState fun s => { s with favoriteLocationIds := insert locationId s.favoriteLocationIds }
    locationRepository.addToFavorites locationId
  modifyState (·.showFavorites)

end Favorites

end LocationController

end AroundMuseo
