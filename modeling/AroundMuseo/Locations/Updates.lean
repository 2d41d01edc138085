import AroundMuseo.Core.Segments
import AroundMuseo.Locations.Fetches
import AroundMuseo.Platform.Frames

/-!
# What the fetches do to the controller

Between two awaits a fetch updates the lists of the controller in a few ways, and sets the flag
at its start and at its end. What all of these keep, a fetch keeps.
-/

namespace AroundMuseo

open Async Async.Prog LocationController

/-- The updates that a fetch makes of the lists. -/
inductive CatalogueUpdate : (LocationControllerState → LocationControllerState) → Prop
  | assignNew {list : LocationList} (hlist : list ≠ .favoriteLocations)
      (locations : List LocationModel) : CatalogueUpdate (·.assignNew list locations)
  | addToAll (list : LocationList) : CatalogueUpdate (·.addToAll list)
  | showCategory {list : LocationList} (hlist : list ≠ .favoriteLocations)
      (hall : list ≠ .allLocations) (categoryId : String) :
      CatalogueUpdate (·.showCategory list categoryId)
  | modifyLocation (k : Nat) {f : LocationModel → LocationModel} (hf : ∀ l, (f l).id = l.id) :
      CatalogueUpdate (·.modifyLocation k f)

/-- A guarantee about the controller and the map alone. -/
structure OfController (guar : World → World → Prop) : Prop where
  refl : ∀ w, guar w w
  same : ∀ {w₀ w w'}, guar w₀ w → w'.locationController = w.locationController →
    w'.mapScreen = w.mapScreen → guar w₀ w'

/-- What the segments of a program keep if they only make such updates. -/
structure KeptByUpdates (guar : World → World → Prop) : Prop extends OfController guar where
  update : ∀ {u w₀ w}, CatalogueUpdate u → guar w₀ w →
    guar w₀ { w with locationController := u w.locationController }

section OfController

variable {guar : World → World → Prop} (hguar : OfController guar)

include hguar

/-- A program that leaves both alone. -/
theorem OfController.confined {α : Type} {p : App α}
    (hp : p.Confined (fun _ => True) fun w => (w.locationController, w.mapScreen)) :
    p.Keeps platform guar := by
  apply hp.keeps
  · exact hguar.refl
  · intro w₀ w w' hw hview
    exact hguar.same hw (congrArg Prod.fst hview) (congrArg Prod.snd hview)
  · intro c _ _ w₀ w v w' hw heffect
    have hcontrollers := controllers_of_effect heffect
    exact hguar.same hw (congrArg (·.2.2.1) hcontrollers) (congrArg (·.2.2.2.2.1) hcontrollers)

theorem OfController.await (c : Call) : (AroundMuseo.await c).Keeps platform guar :=
  hguar.confined (confined_invoke trivial)

theorem OfController.getUserFavorites (repository : LocationRepository) :
    repository.getUserFavorites.Keeps platform guar := by
  apply hguar.confined
  refine .handle (.bind ?_ fun id => .bind (confined_invoke trivial) fun data => ?_)
    fun _ => trivial
  · cases repository.userId with
    | none => exact confined_invoke trivial
    | some uid => trivial
  · cases data with
    | none => trivial
    | some data => exact .bind trivial fun _ => trivial

end OfController

/-- The loop, by induction on the elements that are left. -/
theorem keeps_forEachFrom {guar : World → World → Prop} {list : LocationList}
    {action : Nat × LocationModel → App Unit}
    (haction : ∀ location, (action location).Keeps platform guar) (length remaining : Nat) :
    (LocationController.forEachFrom list action length remaining).Keeps platform guar := by
  induction remaining with
  | zero =>
    refine .bind (keeps_read _) fun now => ?_
    split <;> exact keeps_done _
  | succ remaining ih =>
    refine .bind (keeps_read _) fun locations => ?_
    split
    · exact keeps_done _
    · split
      · exact .bind (haction _) fun _ => ih
      · exact keeps_done _

namespace KeptByUpdates

variable {guar : World → World → Prop} (hguar : KeptByUpdates guar)

include hguar

theorem modifyState {u : LocationControllerState → LocationControllerState}
    (hu : CatalogueUpdate u) : (LocationController.modifyState u).Keeps platform guar :=
  keeps_modify fun _ _ hw => hguar.update hu hw

theorem getCategoryNameById (id : String) :
    (LocationRepository.getCategoryNameById id).Keeps platform guar := by
  obtain ⟨r, hdoc⟩ := exists_doc_eq id
  have hpath : (doc id).Keeps platform guar := hdoc ▸ keeps_done r
  refine .handle (.bind hpath fun id => .bind (hguar.await _) fun data => ?_) fun _ => keeps_done _
  cases data with
  | none => exact keeps_done _
  | some data => exact keeps_done _

theorem setLocationDetails (intl : Intl) (location : Nat × LocationModel) :
    (LocationController.setLocationDetails intl location).Keeps platform guar := by
  have hmodify {f : LocationModel → LocationModel} (hf : ∀ l, (f l).id = l.id) :
      (LocationController.modifyLocation location.1 f).Keeps platform guar :=
    hguar.modifyState (.modifyLocation _ hf)
  have hcategory : (setLocationCategory location).Keeps platform guar := by
    refine .bind (hguar.getCategoryNameById _) fun _ => ?_
    refine .bind (hguar.getCategoryNameById _) fun _ => ?_
    exact .bind (hmodify fun _ => rfl) fun _ => hmodify fun _ => rfl
  refine .bind hcategory fun _ => .bind (hguar.await _) fun _ => .bind (keeps_done _) fun _ => ?_
  refine .bind (hmodify fun _ => rfl) fun _ => .bind (hguar.await _) fun _ => ?_
  refine .bind (keeps_done _) fun _ => .bind (hmodify fun _ => rfl) fun _ => ?_
  refine .bind (hguar.await _) fun _ => .bind (keeps_done _) fun _ => ?_
  exact hmodify fun _ => rfl

theorem forEach (intl : Intl) (list : LocationList) :
    (LocationController.forEach list (LocationController.setLocationDetails intl)).Keeps
      platform guar :=
  .bind (keeps_read _) fun length => keeps_forEachFrom (hguar.setLocationDetails intl) length length

/-- The documents are read and decoded. -/
theorem getLocations {c : Call} {f : Reply c → Except Exn (List LocationModel)} :
    (LocationRepository.rethrowing (do
      let docs ← AroundMuseo.await c
      AroundMuseo.liftExcept (f docs))).Keeps platform guar :=
  .handle (.bind (hguar.await _) fun _ => keeps_done _) fun _ => keeps_done _

theorem last (op : LocationFetch) :
    (if op = .fetchDining then pure () else LocationController.modifyState (·.addToAll op.list) :
      App Unit).Keeps platform guar := by
  split
  · exact keeps_done _
  · exact hguar.modifyState (.addToAll _)

end KeptByUpdates

section Loading

/-- The flag is set around a fetch, whose failure is reported. -/
def whileLoading (p : App Unit) : App Unit :=
  Prog.ensure
    (do
      try
        setIsLoading true
        p
      catch e => await (.snackBar .error "Oh Snap!" e.toText))
    (setIsLoading false)

variable (intl : Intl)

/-- What a fetch of a category does while the flag is set. -/
def loadCategory (op : LocationFetch) : App Unit := do
  let locations ← LocationRepository.getLocationsByCategory op.categoryId
  LocationController.modifyState (·.assignNew op.list locations)
  setLocationsDetails intl op.list
  if op = .fetchDining then pure () else LocationController.modifyState (·.addToAll op.list)

/-- What the fetch of all locations does while the flag is set. -/
def loadAllLocations : App Unit := do
  let locations ← LocationRepository.getAllLocations
  LocationController.modifyState (·.assignNew .allLocations locations)
  forEach .allLocations (LocationController.setLocationDetails intl)
  LocationController.modifyState (·.showCategory .touristSpots "1")
  LocationController.modifyState (·.showCategory .accommodations "2")
  LocationController.modifyState (·.showCategory .dining "3")
  LocationController.modifyState (·.showCategory .shopping "4")

/-- The favourites that are found are shown. -/
def showUserFavorites : Option UserFavoritesLocationModel → App Unit
  | some userFavorites => do
    LocationController.modifyState fun s => { s with
      favoriteLocationIds := userFavorites.favoriteLocationIds.toFinset }
    LocationController.modifyState (·.showFavorites)
  | none => pure ()

/-- A fetch loads its category while the flag is set. -/
theorem body_eq_whileLoading (op : LocationFetch) :
    op.body intl = whileLoading (loadCategory intl op) := by
  rw [op.body_eq]
  rfl

/-- Fetching the favourites is loading and then showing them. -/
theorem fetchUserFavorites_eq (repository : LocationRepository) :
    fetchUserFavorites repository =
      whileLoading (repository.getUserFavorites >>= showUserFavorites) := by
  have hshow : showUserFavorites = fun userFavorites => match userFavorites with
      | some userFavorites => do
        LocationController.modifyState fun s => { s with
          favoriteLocationIds := userFavorites.favoriteLocationIds.toFinset }
        LocationController.modifyState (·.showFavorites)
      | none => pure () := by
    funext userFavorites
    cases userFavorites <;> rfl
  rw [hshow]
  rfl

/-- A guarantee that does not see the flag is kept by the whole fetch. -/
theorem keeps_whileLoading {guar : World → World → Prop} (hguar : OfController guar) {p : App Unit}
    (hp : p.Keeps platform guar)
    (hflag : ∀ b w₀ w, guar w₀ w →
      guar w₀ { w with locationController := { w.locationController with isLoading := b } }) :
    (whileLoading p).Keeps platform guar := by
  have hset (b : Bool) : (setIsLoading b).Keeps platform guar := keeps_modify (hflag b)
  refine .andThen (.handle (.bind (hset true) fun _ => hp) fun e => hguar.await _) fun r => ?_
  exact .bind (hset false) fun _ => keeps_done r

variable {guar : World → World → Prop} (hguar : KeptByUpdates guar)

include hguar

theorem keeps_loadCategory (op : LocationFetch) : (loadCategory intl op).Keeps platform guar := by
  refine .bind hguar.getLocations fun locations => ?_
  refine .bind (hguar.modifyState (.assignNew (by cases op <;> decide) locations)) fun _ => ?_
  exact .bind (hguar.forEach intl op.list) fun _ => hguar.last op

theorem keeps_loadAllLocations : (loadAllLocations intl).Keeps platform guar := by
  have hshow {list : LocationList} (hlist : list ≠ .favoriteLocations) (hall : list ≠ .allLocations)
      (categoryId : String) :
      (LocationController.modifyState (·.showCategory list categoryId)).Keeps platform guar :=
    hguar.modifyState (.showCategory hlist hall categoryId)
  refine .bind hguar.getLocations fun locations => ?_
  refine .bind (hguar.modifyState (.assignNew (by decide) locations)) fun _ => ?_
  refine .bind (hguar.forEach intl .allLocations) fun _ => ?_
  refine .bind (hshow (by decide) (by decide) _) fun _ => ?_
  refine .bind (hshow (by decide) (by decide) _) fun _ => ?_
  refine .bind (hshow (by decide) (by decide) _) fun _ => ?_
  exact hshow (by decide) (by decide) _

end Loading

section Coherent

/-- An identity denotes one object, and the next one none. -/
structure LocationControllerState.Coherent (s : LocationControllerState) : Prop where
  fresh : ∀ list, ∀ x ∈ s.lists list, x.1 < s.nextLocation
  unique : ∀ list list', ∀ x ∈ s.lists list, ∀ y ∈ s.lists list', x.1 = y.1 → x = y

namespace LocationControllerState

variable {s s' : LocationControllerState}

/-- Lists that only share objects out among them. -/
theorem Coherent.share (h : s.Coherent) (hnext : s'.nextLocation = s.nextLocation)
    (hlists : ∀ list, ∀ x ∈ s'.lists list, ∃ list', x ∈ s.lists list') : s'.Coherent := by
  constructor
  · intro list x hx
    obtain ⟨list', hx'⟩ := hlists list x hx
    rw [hnext]
    exact h.fresh list' x hx'
  · intro list₁ list₂ x hx y hy hxy
    obtain ⟨list₁', hx'⟩ := hlists list₁ x hx
    obtain ⟨list₂', hy'⟩ := hlists list₂ y hy
    exact h.unique list₁' list₂' x hx' y hy' hxy

/-- A list that is assigned has the new locations, the others keep theirs. -/
theorem mem_lists_assignNew {list list' : LocationList} {locations : List LocationModel}
    {x : Nat × LocationModel} : x ∈ (s.assignNew list locations).lists list' ↔
      if list' = list then s.nextLocation ≤ x.1 ∧ locations[x.1 - s.nextLocation]? = some x.2
      else x ∈ s.lists list' := by
  rw [lists_assignNew]
  by_cases hlist : list' = list
  · subst hlist
    obtain ⟨k, l⟩ := x
    rw [Function.update_self, if_pos rfl]
    simp [List.mem_zipIdx_iff_le_and_getElem?_sub]
  · rw [Function.update_of_ne hlist, if_neg hlist]

/-- New locations are nowhere else. -/
theorem Coherent.assignNew (h : s.Coherent) (list : LocationList) (locations : List LocationModel) :
    (s.assignNew list locations).Coherent := by
  constructor
  · intro list' x hx
    rw [mem_lists_assignNew] at hx
    show x.1 < s.nextLocation + locations.length
    split at hx
    · obtain ⟨hlt, -⟩ := List.getElem?_eq_some_iff.mp hx.2
      omega
    · have hfresh := h.fresh list' x hx
      omega
  · intro list₁ list₂ x hx y hy hxy
    rw [mem_lists_assignNew] at hx hy
    split at hx <;> split at hy
    · rw [hxy, hy.2] at hx
      exact Prod.ext hxy (Option.some.inj hx.2).symm
    · have hfresh := h.fresh list₂ y hy
      omega
    · have hfresh := h.fresh list₁ x hx
      omega
    · exact h.unique list₁ list₂ x hx y hy hxy

/-- A location is modified in all lists at once. -/
theorem Coherent.modifyLocation (h : s.Coherent) (k : Nat) (f : LocationModel → LocationModel) :
    (s.modifyLocation k f).Coherent := by
  constructor
  · intro list x hx
    obtain ⟨x', hx', rfl⟩ := List.mem_map.mp hx
    exact h.fresh list x' hx'
  · intro list₁ list₂ x hx y hy hxy
    obtain ⟨x', hx', rfl⟩ := List.mem_map.mp hx
    obtain ⟨y', hy', rfl⟩ := List.mem_map.mp hy
    rw [h.unique list₁ list₂ x' hx' y' hy' hxy]

theorem Coherent.showFavorites (h : s.Coherent) : s.showFavorites.Coherent := by
  refine h.share ?_ fun list x hx => ?_
  · rfl
  by_cases hlist : list = .favoriteLocations
  · subst hlist
    exact ⟨.allLocations, (List.mem_filter.mp hx).1⟩
  · refine ⟨list, ?_⟩
    rwa [lists_showFavorites, Function.update_of_ne hlist] at hx

/-- No update of the catalogue makes two of one location. -/
theorem Coherent.update (h : s.Coherent) {u : LocationControllerState → LocationControllerState}
    (hu : CatalogueUpdate u) : (u s).Coherent := by
  cases hu with
  | assignNew hlist locations => exact h.assignNew _ locations
  | modifyLocation k hf => exact h.modifyLocation k _
  | addToAll list =>
    refine h.share ?_ fun list' x hx => ?_
    · rfl
    rw [lists_addToAll] at hx
    by_cases hlist : list' = .allLocations
    · subst hlist
      rw [Function.update_self] at hx
      rcases List.mem_append.mp hx with hx | hx
      · exact ⟨_, hx⟩
      · exact ⟨_, hx⟩
    · rw [Function.update_of_ne hlist] at hx
      exact ⟨_, hx⟩
  | @showCategory list hlist hall categoryId =>
    refine h.share ?_ fun list' x hx => ?_
    · rfl
    by_cases hlist' : list' = list
    · subst hlist'
      rw [lists_showCategory, Function.update_self] at hx
      exact ⟨.allLocations, (List.mem_filter.mp hx).1⟩
    · rw [lists_showCategory, Function.update_of_ne hlist'] at hx
      exact ⟨_, hx⟩

end LocationControllerState

end Coherent

end AroundMuseo
