import AroundMuseo.Controllers.MapController
import AroundMuseo.Locations.Fetches

/-!
# What the map needs of the lists

Of a location the map shows the name and the coordinates. The fetches leave these alone once
a category is loaded, and they leave the map alone; no assumption is made on whether what
they read can be decoded.
-/

namespace AroundMuseo

open Async Firestore LocationController

/-- What the map shows of a location. -/
structure Spot where
  id : String
  name : String
  coordinates : GeoPoint
  deriving DecidableEq, Repr

def LocationModel.spot (l : LocationModel) : Spot := ⟨l.id, l.name, l.coordinates⟩

/-- The spots of the list that an operation fills. -/
def World.spots (w : World) (op : LocationFetch) : List Spot :=
  w.locationController.shows LocationModel.spot op.list

/-- The spots that the documents of a category are decoded to. -/
def Stored (db : CollectionName → Collection) (op : LocationFetch) (spots : List Spot) : Prop :=
  ∃ locations, LocationRepository.decodeAll (categoryDocs db op) = .ok locations ∧
    spots = locations.map LocationModel.spot

/-- What is stored is read in one way. -/
theorem Stored.unique {db : CollectionName → Collection} {op : LocationFetch}
    {spots spots' : List Spot}
    (h : Stored db op spots) (h' : Stored db op spots') : spots = spots' := by
  obtain ⟨locations, hlocations, rfl⟩ := h
  obtain ⟨locations', hlocations', rfl⟩ := h'
  rw [hlocations] at hlocations'
  cases hlocations'
  rfl

/-- A list stays as it is, or its category is loaded into it. -/
structure LoadStep (w w' : World) : Prop where
  db : w'.db = w.db
  spots : ∀ op, w'.spots op = w.spots op ∨ Stored w.db op (w'.spots op)

/-- What the fetches do: they leave the map alone. -/
structure FetchStep (w w' : World) : Prop extends LoadStep w w' where
  mapScreen : w'.mapScreen = w.mapScreen

/-- Each list is empty or shows its category. -/
def SpotsSettled (w : World) : Prop := ∀ op, w.spots op = [] ∨ Stored w.db op (w.spots op)

/-- The part of the state that the map and the fetches share. -/
def World.spotsView (w : World) :
    (CollectionName → Collection) × MapScreenState × (LocationFetch → List Spot) :=
  (w.db, w.mapScreen, w.spots)

section Steps

variable {w w' w₁ w₂ w₃ : World}

theorem LoadStep.refl (w : World) : LoadStep w w := ⟨rfl, fun _ => .inl rfl⟩

/-- The map is not part of what is loaded. -/
theorem LoadStep.of_map (w : World) (mapScreen : MapScreenState) :
    LoadStep w { w with mapScreen := mapScreen } := ⟨rfl, fun _ => .inl rfl⟩

/-- What the loading does adds up. -/
theorem LoadStep.trans (h : LoadStep w₁ w₂) (h' : LoadStep w₂ w₃) : LoadStep w₁ w₃ := by
  refine ⟨h'.db.trans h.db, fun op => ?_⟩
  rcases h'.spots op with hkept | hstored
  · rw [hkept]
    exact h.spots op
  · rw [h.db] at hstored
    exact .inr hstored

/-- Settled spots stay settled. -/
theorem LoadStep.settled (h : LoadStep w w') (hw : SpotsSettled w) : SpotsSettled w' := by
  intro op
  rw [h.db]
  rcases h.spots op with hkept | hstored
  · rw [hkept]
    exact hw op
  · exact .inr hstored

/-- A loaded list shows the same spots from then on. -/
theorem LoadStep.spots_eq (h : LoadStep w w') {op : LocationFetch}
    (hw : Stored w.db op (w.spots op)) : w'.spots op = w.spots op := by
  rcases h.spots op with hkept | hstored
  · exact hkept
  · exact hstored.unique hw

theorem FetchStep.of_view (h : FetchStep w w₁) (hview : w'.spotsView = w₁.spotsView) :
    FetchStep w w' := by
  have hdb : w'.db = w₁.db := congrArg Prod.fst hview
  have hmap : w'.mapScreen = w₁.mapScreen := congrArg (fun x => x.2.1) hview
  have hspots : w'.spots = w₁.spots := congrArg (fun x => x.2.2) hview
  refine ⟨⟨hdb.trans h.db, fun op => ?_⟩, hmap.trans h.mapScreen⟩
  rw [hspots]
  exact h.spots op

theorem FetchStep.refl (w : World) : FetchStep w w := ⟨.refl w, rfl⟩

/-- What a fetch does adds up. -/
theorem FetchStep.trans (h : FetchStep w₁ w₂) (h' : FetchStep w₂ w₃) : FetchStep w₁ w₃ :=
  ⟨h.toLoadStep.trans h'.toLoadStep, h'.mapScreen.trans h.mapScreen⟩

end Steps

/-- The calls that only read. -/
def Call.reads : Call → Bool
  | .get _ _ | .whereEq _ _ _ | .now | .snackBar _ _ _ => true
  | _ => false

/-- Reading changes nothing. -/
theorem eq_of_reads {c : Call} (hc : c.reads = true) {w w' : World} {v : Reply c}
    (h : effect c w v = some w') : w' = w := by
  cases c with
  | get | whereEq =>
    obtain ⟨-, hw⟩ := Option.ite_none_right_eq_some.mp h
    exact (Option.some.inj hw).symm
  | now | snackBar => exact (Option.some.inj h).symm
  | _ => cases hc

namespace LocationFetch

/-- What a fetch relies on while it waits. -/
def SameDb (w w' : World) : Prop := w'.db = w.db

section Fetch

variable {intl : Intl} {op : LocationFetch} {w₀ w : World} {α : Type}

/-- The function reads, and changes nothing that the map shows. -/
abbrev Details (p : App α) : Prop := p.Confined (fun c => c.reads = true) World.spotsView

theorem details_modifyState {f : LocationControllerState → LocationControllerState}
    (hf : ∀ s (op : LocationFetch), (f s).shows LocationModel.spot op.list =
      s.shows LocationModel.spot op.list) : Details (modifyState f) := by
  apply Prog.confined_modify
  intro w
  have hspots :
      ({ w with locationController := f w.locationController } : World).spots = w.spots := by
    funext op
    exact hf w.locationController op
  show (w.db, w.mapScreen, _) = _
  rw [hspots]
  rfl

theorem details_modifyLocation (k : Nat) {g : LocationModel → LocationModel}
    (hg : ∀ l, (g l).spot = l.spot) : Details (LocationController.modifyLocation k g) :=
  details_modifyState fun s op => congrFun (s.shows_modifyLocation LocationModel.spot k hg) op.list

theorem details_getCategoryNameById (id : String) :
    Details (LocationRepository.getCategoryNameById id) := by
  obtain ⟨r, hdoc⟩ := exists_doc_eq id
  have hpath : Details (doc id) := hdoc ▸ trivial
  refine .handle (.bind hpath fun id => .bind (Prog.confined_invoke rfl) fun data => ?_)
    fun _ => trivial
  cases data <;> trivial

/-- The details are no part of a spot. -/
theorem details_setLocationDetails (location : Nat × LocationModel) :
    Details (setLocationDetails intl location) := by
  refine .bind ?_ fun _ => ?_
  · refine .bind (details_getCategoryNameById _) fun _ => ?_
    refine .bind (details_getCategoryNameById _) fun _ => ?_
    exact .bind (details_modifyLocation _ fun _ => rfl) fun _ =>
      details_modifyLocation _ fun _ => rfl
  · refine .bind (Prog.confined_invoke rfl) fun _ => .bind trivial fun _ => ?_
    refine .bind (details_modifyLocation _ fun _ => rfl) fun _ => ?_
    refine .bind (Prog.confined_invoke rfl) fun _ => .bind trivial fun _ => ?_
    refine .bind (details_modifyLocation _ fun _ => rfl) fun _ => ?_
    refine .bind (Prog.confined_invoke rfl) fun _ => .bind trivial fun _ => ?_
    exact details_modifyLocation _ fun _ => rfl

theorem details_forEachFrom {list : LocationList} {action : Nat × LocationModel → App Unit}
    (h : ∀ location, Details (action location)) (length remaining : Nat) :
    Details (forEachFrom list action length remaining) := by
  induction remaining with
  | zero =>
    refine .bind (Prog.confined_read _) fun now => ?_
    split <;> trivial
  | succ remaining ih =>
    refine .bind (Prog.confined_read _) fun locations => ?_
    split
    · trivial
    · split
      · exact .bind (h _) fun _ => ih
      · trivial

/-- What a fetch does after it has loaded its list. -/
theorem details_rest (op : LocationFetch) : Details (do
    setLocationsDetails intl op.list
    if op = fetchDining then pure () else modifyState (·.addToAll op.list) : App Unit) := by
  refine .bind (.bind (Prog.confined_read _) fun _ =>
    details_forEachFrom details_setLocationDetails _ _) fun _ => ?_
  split
  · trivial
  · apply details_modifyState
    intro s op'
    rw [s.shows_addToAll, Function.update_of_ne op'.list_ne_allLocations]

theorem guarded_details {p : App α} (hp : Details p) (h : FetchStep w₀ w) :
    p.Guarded platform SameDb FetchStep (fun _ w₁ w' => FetchStep w₁ w' ∧ SameDb w w') w₀ w :=
  hp.guarded FetchStep.refl (fun _ _ _ h h' => h'.trans h) (fun _ _ _ h hview => h.of_view hview)
    (fun _ _ hview => congrArg Prod.fst hview) (fun _ _ _ _ hc h => by rw [eq_of_reads hc h]) h

variable (op) in
/-- The documents of the category are read, whatever they are decoded to. -/
theorem guarded_getSpots (h : FetchStep w₀ w)
    {Q : Except Exn (List LocationModel) → World → World → Prop}
    (herror : ∀ e w₁, Q (.error e) w₁ w₁)
    (hok : ∀ locations w₁, Stored w₁.db op (locations.map LocationModel.spot) →
      Q (.ok locations) w₁ w₁) :
    (LocationRepository.getLocationsByCategory op.categoryId).Guarded platform SameDb FetchStep Q
      w₀ w := by
  refine Prog.guarded_handle (Prog.guarded_bind ?_)
  refine Prog.guarded_invoke rfl h fun w₁ _ v w₂ hv => ?_
  obtain ⟨rfl, hw⟩ := Option.ite_none_right_eq_some.mp hv
  cases hw
  refine ⟨.refl w₁, fun w₃ hw₃ => ?_⟩
  dsimp only
  cases hdecoded : LocationRepository.decodeAll
      ((w₁.db .locations).whereEq "CategoryId" (Scalar.string op.categoryId)) with
  | error e => exact herror _ w₃
  | ok locations =>
    refine hok locations w₃ ⟨locations, ?_, rfl⟩
    have hdb : w₃.db = w₁.db := hw₃
    rw [hdb]
    exact hdecoded

theorem fetchStep_assignNew {locations : List LocationModel}
    (h : Stored w.db op (locations.map LocationModel.spot)) :
    FetchStep w
      { w with locationController := w.locationController.assignNew op.list locations } := by
  have hupdate := w.locationController.shows_assignNew LocationModel.spot op.list locations
  refine ⟨⟨rfl, fun op' => ?_⟩, rfl⟩
  by_cases hop : op' = op
  · subst hop
    right
    have hspots := congrFun hupdate op'.list
    rw [Function.update_self] at hspots
    show Stored w.db op' ((w.locationController.assignNew op'.list locations).shows _ op'.list)
    rw [hspots]
    exact h
  · left
    have hspots := congrFun hupdate op'.list
    rw [Function.update_of_ne fun heq => hop (list_injective heq)] at hspots
    exact hspots

/-- The end of a fetch. -/
theorem guarded_setIsLoading {Q : Except Exn Unit → World → World → Prop} (b : Bool)
    (h : FetchStep w₀ w) (hQ : ∀ w₁ w₂, FetchStep w₁ w₂ → Q (.ok ()) w₁ w₂) :
    (setIsLoading b).Guarded platform SameDb FetchStep Q w₀ w :=
  hQ w₀ _ (h.of_view rfl)

/-- An exception is only shown. -/
theorem guarded_report {Q : Except Exn Unit → World → World → Prop} (e : Exn)
    (h : FetchStep w₀ w) (hQ : ∀ w₁ w₂, FetchStep w₁ w₂ → Q (.ok ()) w₁ w₂) :
    (await (.snackBar .error "Oh Snap!" e.toText)).Guarded platform SameDb FetchStep Q w₀ w := by
  apply Prog.guarded_invoke_sync rfl
  intro v w' hv
  cases hv
  exact hQ w₀ w h

/-- A fetch does nothing but load its list, as far as the map is concerned. -/
theorem guarded_fetch (intl : Intl) (op : LocationFetch) (w : World) :
    (op.body intl).Guarded platform SameDb FetchStep (fun _ => FetchStep) w w := by
  rw [op.body_eq, fetchCategory]
  refine Prog.guarded_ensure (Prog.guarded_handle (Prog.guarded_modify_bind.mpr ?_))
  have hloading : FetchStep w
      { w with locationController := { w.locationController with isLoading := true } } :=
    (FetchStep.refl w).of_view rfl
  refine Prog.guarded_bind (guarded_getSpots op hloading ?_ ?_)
  · intro e w₁
    exact guarded_report e (.refl w₁) fun _ _ h => guarded_setIsLoading false h fun _ _ h' => h'
  · intro locations w₁ hstored
    refine Prog.guarded_modify_bind.mpr ?_
    refine Prog.guarded_mono (guarded_details (details_rest op) (fetchStep_assignNew hstored)) ?_
    rintro (e | u) w₂ w₃ ⟨h, -⟩
    · exact guarded_report e h fun _ _ h' => guarded_setIsLoading false h' fun _ _ h'' => h''
    · exact guarded_setIsLoading false h fun _ _ h' => h'

end Fetch

end LocationFetch

end AroundMuseo
