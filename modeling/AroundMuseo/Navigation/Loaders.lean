import AroundMuseo.Controllers.UpdateControllers
import AroundMuseo.Platform.Frames
import AroundMuseo.Platform.Rules

/-!
# Loaders are opened and closed in pairs

An operation opens its loader first and closes it by hand on every way out. The rules
here follow its body from the open loader to a close of that loader or to an exception
with the loader still on top, which the `catch` block closes.
-/

namespace AroundMuseo

open Async

/-- The loaders that a run opens. -/
def opened (tr : List Event) : List Nat :=
  tr.filterMap fun
    | ⟨_, .openLoadingDialog _ _, .ok n⟩ => some n
    | _ => none

/-- The routes that the calls of `stopLoading` pop. -/
def popped (tr : List Event) : List Nat :=
  tr.filterMap fun
    | ⟨_, .stopLoading, .ok (some route)⟩ => some route.1
    | _ => none

/-- No loader of the run is left, and `stopLoading` popped loaders of the run only. -/
structure Balanced (tr : List Event) (nav : Navigator RouteContent) : Prop where
  closed : ∀ n ∈ opened tr, ∀ route ∈ nav.routes, route.1 ≠ n
  own : ∀ n ∈ popped tr, n ∈ opened tr

@[simp] theorem opened_append (tr tr' : List Event) :
    opened (tr ++ tr') = opened tr ++ opened tr' :=
  List.filterMap_append

@[simp] theorem popped_append (tr tr' : List Event) :
    popped (tr ++ tr') = popped tr ++ popped tr' :=
  List.filterMap_append

/-- Calls that open and close no loader. -/
theorem opened_popped_of_unloading {tr : List Event}
    (h : ∀ ev ∈ tr, ev.call.isLoading = false) : opened tr = [] ∧ popped tr = [] := by
  constructor
  · refine List.filterMap_eq_nil_iff.mpr ?_
    rintro ⟨w, c, r⟩ hmem
    have hc : c.isLoading = false := h _ hmem
    cases c <;> first | rfl | cases hc
  · refine List.filterMap_eq_nil_iff.mpr ?_
    rintro ⟨w, c, r⟩ hmem
    have hc : c.isLoading = false := h _ hmem
    cases c <;> first | rfl | cases hc

/-- An answer to a call that does not navigate keeps the navigator. -/
theorem nav_of_effect {c : Call} (hc : c.navigates = false) {w w' : World} {v : Reply c}
    (h : effect c w v = some w') : w'.nav = w.nav := by
  cases c with
  | openLoadingDialog | stopLoading | getTo | getOff | getOffAll => cases hc
  | signInWithCredential g =>
    simp only [effect] at h
    split at h <;>
    · obtain ⟨-, hw⟩ := Option.ite_none_right_eq_some.mp h
      cases hw
      rfl
  | signInWithEmailAndPassword email password =>
    simp only [effect] at h
    split at h
    · obtain ⟨-, hw⟩ := Option.ite_none_right_eq_some.mp h
      cases hw
      rfl
    · cases h
  | update n id d =>
    obtain ⟨docs, -, rfl⟩ := Option.map_eq_some_iff.mp h
    rfl
  | runTransaction id tx =>
    simp only [effect, World.runTransaction] at h
    split at h <;> cases h <;> rfl
  | createUserWithEmailAndPassword | add | autoId =>
    obtain ⟨-, hw⟩ := Option.ite_none_left_eq_some.mp h
    cases hw
    rfl
  | googleAuthentication | reauthenticateWithCredential | deleteUser | get | getAll | whereEq
  | whereEqLimit | getDownloadURL | mapController =>
    obtain ⟨-, hw⟩ := Option.ite_none_right_eq_some.mp h
    cases hw
    rfl
  | checkConnectivity | googleSignOut | googleSignIn | authSignOut | sendPasswordResetEmail
  | verifyBeforeUpdateEmail | set | setMerge | delete | putFile | showModalBottomSheet
  | pickImage | now | snackBar | sendEmailVerification | reload | bitmapDescriptorAsset
  | animateCamera | addInfoWindow =>
    cases h
    rfl

/-- A call that does not navigate keeps the navigator, whatever it is answered. -/
theorem nav_of_quiet {c : Call} (hc : c.navigates = false) {w w' : World}
    {r : Except Exn (Reply c)} (h : platform.perform c w r = some w') : w'.nav = w.nav := by
  cases r with
  | ok v => exact nav_of_effect hc h
  | error e =>
    simp only [Platform.perform, Option.ite_none_right_eq_some, Option.some.injEq] at h
    rw [h.2]

/-- A call that is not about loaders cannot bring back a route that is gone. -/
theorem gone_of_unloading {c : Call} (hc : c.isLoading = false) {w w' : World}
    {r : Except Exn (Reply c)} (h : platform.perform c w r = some w') {k : Nat}
    (hk : w.nav.Gone k) : w'.nav.Gone k := by
  by_cases hn : c.navigates = false
  · rw [nav_of_quiet hn h]
    exact hk
  · rcases r with e | v
    · simp only [Platform.perform, Option.ite_none_right_eq_some, Option.some.injEq] at h
      exact h.2 ▸ hk
    · cases c with
      | getTo screen =>
        cases h
        exact gone_getTo hk _
      | getOff screen =>
        cases h
        exact gone_getOff hk _
      | getOffAll screen =>
        cases h
        exact hk.offAll _
      | openLoadingDialog | stopLoading => cases hc
      | _ => exact absurd rfl hn

variable {α β : Type} {w : World} {p : App α} {f : α → App β}

/-- A quiet function opens and closes no loader and leaves the navigator as it was. -/
theorem wp_quiet (h : Quiet p) (w : World) :
    p.wp platform (fun _ tr w' => opened tr = [] ∧ popped tr = [] ∧ w'.nav = w.nav) w := by
  have hquiet : p.Confined (fun c => c.navigates = false) World.surroundings :=
    Prog.Confined.mono h fun c hc => (Bool.or_eq_false_iff.mp hc).1
  have hnav : p.Confined (fun c => c.navigates = false) World.nav :=
    Prog.Confined.comp hquiet fun s => s.1.2.2.2
  refine Prog.wp_mono (hnav.wp_keeps (fun c w₁ w₂ r hc => nav_of_quiet hc) w) ?_
  rintro r tr w' ⟨hcalls, hkeep⟩
  have hload : ∀ ev ∈ tr, ev.call.isLoading = false := fun ev hev => by
    have hev := hcalls ev hev
    revert hev
    cases ev.call <;> simp [Call.navigates, Call.isLoading]
  exact ⟨(opened_popped_of_unloading hload).1, (opened_popped_of_unloading hload).2, hkeep⟩

/-- A function that is not about loaders keeps gone routes gone. -/
theorem wp_unloading (h : Unloading p) (w : World) {k : Nat} (hk : w.nav.Gone k) :
    p.wp platform (fun _ tr w' => opened tr = [] ∧ popped tr = [] ∧ w'.nav.Gone k) w := by
  have hunloading : p.Confined (fun c => c.isLoading = false) World.surroundings :=
    Prog.Confined.mono h fun c hc => (Bool.or_eq_false_iff.mp hc).1
  have hnav : p.Confined (fun c => c.isLoading = false) World.nav :=
    Prog.Confined.comp hunloading fun s => s.1.2.2.2
  have hkeep := hnav.wp_preserves (P := platform) (I := Navigator.Gone k)
    (fun c w₁ w₂ r hc hr hg => gone_of_unloading hc hr hg) w hk
  refine Prog.wp_mono hkeep ?_
  rintro r tr w' ⟨hcalls, hgone⟩
  exact ⟨(opened_popped_of_unloading hcalls).1, (opened_popped_of_unloading hcalls).2, hgone⟩

/-- How the body under a loader ends, where `nav` is the navigator before the loader was
opened: the loader is closed and nothing was thrown, or an exception left it on top. -/
inductive ClosesLoader (nav : Navigator RouteContent) (x : RouteContent) :
    Except Exn Unit → List Nat → Navigator RouteContent → Prop
  | closed {nav' : Navigator RouteContent} (h : nav'.Gone nav.next) :
      ClosesLoader nav x (.ok ()) [nav.next] nav'
  | thrown (e : Exn) : ClosesLoader nav x (.error e) [] (nav.push x)

/-- From `w` the rest of the body closes the loader, which is on top of `nav`. -/
def Closes (nav : Navigator RouteContent) (x : RouteContent) (p : App Unit) (w : World) : Prop :=
  p.wp platform (fun r tr w' => opened tr = [] ∧ ClosesLoader nav x r (popped tr) w'.nav) w

/-- What follows the close: nothing is thrown and no loader is touched. -/
def Leaves (k : Nat) (p : App Unit) (w : World) : Prop :=
  p.wp platform
    (fun r tr w' => r = .ok () ∧ opened tr = [] ∧ popped tr = [] ∧ w'.nav.Gone k) w

section Rules

variable {nav : Navigator RouteContent} {x : RouteContent} {q : App Unit} {k : Nat}

/-- A quiet step in front: if it throws, the loader is still on top. -/
theorem closes_bind {f : α → App Unit} (hp : Quiet p) (hw : w.nav = nav.push x)
    (hf : ∀ a w', w'.nav = nav.push x → Closes nav x (f a) w') : Closes nav x (p >>= f) w := by
  refine Prog.wp_bind_of (wp_quiet hp w) ?_ ?_
  · rintro e tr w' ⟨hopen, hpop, hnav⟩
    rw [hpop, hnav, hw]
    exact ⟨hopen, .thrown e⟩
  · rintro a tr w' ⟨hopen, hpop, hnav⟩
    have hrest := hf a w' (hnav.trans hw)
    unfold Closes at hrest
    simpa only [opened_append, popped_append, hopen, hpop, List.nil_append] using hrest

/-- An exception leaves the loader on top, for the `catch` block. -/
theorem closes_throw (hw : w.nav = nav.push x) (e : Exn) : Closes nav x (throw e) w := by
  rw [Closes, Prog.wp_throw, hw]
  exact ⟨rfl, .thrown e⟩

/-- The close, with what follows it. -/
theorem closes_stopLoading_bind (hw : w.nav = nav.push x)
    (hq : ∀ w', w'.nav.Gone nav.next → Leaves nav.next q w') :
    Closes nav x (FullScreenLoader.stopLoading >>= fun _ => q) w := by
  refine wp_stopLoading_bind.mpr ?_
  have hgone : (w.withNav w.nav.pop).nav.Gone nav.next := by
    rw [World.withNav_nav, hw]
    exact nav.gone_push_pop x
  refine Prog.wp_mono (hq _ hgone) ?_
  rintro r tr w' ⟨rfl, hopen, hpop, hgone'⟩
  have hpop' : popped (⟨w, .stopLoading, .ok w.nav.top⟩ :: tr) = [nav.next] := by
    rw [← List.singleton_append, popped_append, hpop, hw]
    rfl
  rw [hpop']
  exact ⟨hopen, .closed hgone'⟩

/-- The close is the end. -/
theorem closes_stopLoading (hw : w.nav = nav.push x) :
    Closes nav x FullScreenLoader.stopLoading w := by
  refine wp_stopLoading.mpr ⟨rfl, ?_⟩
  rw [World.withNav_nav, hw]
  exact .closed (nav.gone_push_pop x)

/-- Without a connection the loader is closed and nothing else happens. -/
theorem closes_whenConnected (hw : w.nav = nav.push x)
    (hq : ∀ w', w'.nav = nav.push x → Closes nav x q w') : Closes nav x (whenConnected q) w := by
  refine closes_bind quiet_isConnected hw fun b w' hw' => ?_
  cases b with
  | true => exact hq w' hw'
  | false => exact closes_stopLoading hw'

/-- A form that is not accepted closes the loader, and one that is not built throws. -/
theorem closes_whenValid {form : Option Bool} (hw : w.nav = nav.push x)
    (hq : Closes nav x q w) : Closes nav x (whenValid form q) w := by
  match form with
  | none => exact closes_throw hw _
  | some true => exact hq
  | some false => exact closes_stopLoading hw

/-- One thing after the close, and then another. -/
theorem leaves_bind {q' : App Unit} {w : World} (h : Leaves k q w)
    (h' : ∀ w', w'.nav.Gone k → Leaves k q' w') : Leaves k (q >>= fun _ => q') w := by
  refine Prog.wp_bind_of h ?_ ?_
  · rintro e tr w' ⟨⟨⟩, -⟩
  · rintro ⟨⟩ tr w' ⟨-, hopen, hpop, hgone⟩
    have hrest := h' w' hgone
    unfold Leaves at hrest
    simpa only [opened_append, popped_append, hopen, hpop, List.nil_append] using hrest

/-- A function that is not about loaders and never throws. -/
theorem leaves_of_unloading (hq : Unloading q) (hgone : w.nav.Gone k)
    (hok : q.wp platform (fun r _ _ => r = .ok ()) w) : Leaves k q w :=
  Prog.wp_and hok (wp_unloading hq w hgone)

/-- What nobody waits for may throw. -/
theorem leaves_unawaited {p : App Unit} (hp : Unloading p) (hgone : w.nav.Gone k) :
    Leaves k p.unawaited w := by
  refine leaves_of_unloading (.unawaited hp) hgone (Prog.wp_unawaited.mpr ?_)
  exact Prog.wp_mono (wp_unloading hp w hgone) fun _ _ _ _ => rfl

/-- A snack bar is no route. -/
theorem leaves_snackBar (kind : SnackBarKind) (title message : String) (hgone : w.nav.Gone k) :
    Leaves k (await (.snackBar kind title message)) w :=
  (Sync.snackBar kind title message).wp.mpr ⟨rfl, rfl, rfl, hgone⟩

/-- A page on top of the stack does not bring the loader back. -/
theorem leaves_getTo (screen : Screen) (hgone : w.nav.Gone k) :
    Leaves k (await (.getTo screen)) w :=
  (Sync.getTo screen).wp.mpr ⟨rfl, rfl, rfl, gone_getTo hgone _⟩

/-- A page in place of the top route does not either. -/
theorem leaves_getOff (screen : Screen) (hgone : w.nav.Gone k) :
    Leaves k (await (.getOff screen)) w :=
  (Sync.getOff screen).wp.mpr ⟨rfl, rfl, rfl, gone_getOff hgone _⟩

/-- Nor does a page in place of all routes. -/
theorem leaves_getOffAll (screen : Screen) (hgone : w.nav.Gone k) :
    Leaves k (await (.getOffAll screen)) w :=
  (Sync.getOffAll screen).wp.mpr ⟨rfl, rfl, rfl, hgone.offAll _⟩

/-- Balance of a run that opens the loader `k` only. -/
theorem balanced_iff_of_opened {tr : List Event} {nav : Navigator RouteContent} {k : Nat}
    (h : opened tr = [k]) :
    Balanced tr nav ↔ (∀ route ∈ nav.routes, route.1 ≠ k) ∧ ∀ n ∈ popped tr, n = k := by
  constructor
  · rintro ⟨hclosed, hown⟩
    simp only [h, List.mem_singleton] at hclosed hown
    exact ⟨hclosed k rfl, hown⟩
  · rintro ⟨hclosed, hown⟩
    refine ⟨fun n hn => ?_, fun n hn => ?_⟩
    · rw [h, List.mem_singleton] at hn
      exact hn ▸ hclosed
    · rw [h, List.mem_singleton]
      exact hown n hn

/-- A run that opens no loader may pop nothing. -/
theorem balanced_iff_of_not_opened {tr : List Event} {nav : Navigator RouteContent}
    (h : opened tr = []) : Balanced tr nav ↔ popped tr = [] := by
  constructor
  · rintro ⟨-, hown⟩
    refine List.eq_nil_iff_forall_not_mem.mpr fun n hn => ?_
    have hmem := hown n hn
    rw [h] at hmem
    cases hmem
  · intro hpop
    refine ⟨fun n hn => ?_, fun n hn => ?_⟩
    · rw [h] at hn
      cases hn
    · rw [hpop] at hn
      cases hn

/-- The loader is opened by the first event, and the rest opens none. -/
theorem opened_popped_cons {text : String} {tr : List Event} (hopen : opened tr = []) :
    opened (⟨w, .openLoadingDialog text docerAnimation, .ok w.nav.next⟩ :: tr) = [w.nav.next] ∧
      popped (⟨w, .openLoadingDialog text docerAnimation, .ok w.nav.next⟩ :: tr) = popped tr := by
  constructor
  · rw [← List.singleton_append, opened_append, hopen]
    rfl
  · rw [← List.singleton_append, popped_append]
    rfl

/-- The `catch` block pops the top of the stack. -/
theorem popped_catchEvents (w : World) (kind : SnackBarKind) (e : Exn) :
    popped (catchEvents w kind e) = (w.nav.routes.head?.map Prod.fst).toList := by
  unfold catchEvents Navigator.top
  cases w.nav.routes.head? <;> rfl

/-- The events of an operation under a loader, from those of its body. -/
def loaderEvents (w : World) (text : String) (kind : SnackBarKind) (tr : List Event)
    (w' : World) : Except Exn Unit → List Event
  | .ok _ => ⟨w, .openLoadingDialog text docerAnimation, .ok w.nav.next⟩ :: tr
  | .error e =>
    ⟨w, .openLoadingDialog text docerAnimation, .ok w.nav.next⟩ :: (tr ++ catchEvents w' kind e)

/-- The state after an operation under a loader. -/
def loaderState (w' : World) : Except Exn Unit → World
  | .ok _ => w'
  | .error _ => w'.withNav w'.nav.pop

/-- An operation under a loader, from its body alone. -/
theorem wp_withLoader_iff {text : String} {kind : SnackBarKind} {body : App Unit}
    {Q : List Event → World → Prop} : (withLoader text kind body).wp platform (fun _ => Q) w ↔
      body.wp platform
        (fun r tr w' => Q (loaderEvents w text kind tr w' r) (loaderState w' r))
        (w.withNav (w.nav.push (.loader text docerAnimation))) := by
  rw [wp_withLoader, iff_iff_eq]
  congr! 2 with r tr w'
  cases r <;> rfl

/-- A body that closes its loader makes a balanced operation, because the `catch` block
closes it otherwise. -/
theorem ClosesLoader.balanced {text : String} {kind : SnackBarKind} {r : Except Exn Unit}
    {tr : List Event} {w' : World} (hopen : opened tr = [])
    (h : ClosesLoader w.nav (.loader text docerAnimation) r (popped tr) w'.nav) :
    Balanced (loaderEvents w text kind tr w' r) (loaderState w' r).nav := by
  generalize hpopped : popped tr = ids at h
  generalize hnav : w'.nav = nav' at h
  cases h with
  | closed hgone =>
    obtain ⟨hopened, hpopped'⟩ := opened_popped_cons (w := w) hopen
    refine (balanced_iff_of_opened hopened).mpr ⟨?_, fun n hn => ?_⟩
    · rw [loaderState, hnav]
      exact hgone.2
    · rw [hpopped', hpopped] at hn
      exact List.mem_singleton.mp hn
  | thrown e =>
    have hcatch : opened (tr ++ catchEvents w' kind e) = [] := by
      rw [opened_append, hopen]
      rfl
    obtain ⟨hopened, hpopped'⟩ := opened_popped_cons (w := w) hcatch
    refine (balanced_iff_of_opened hopened).mpr ⟨?_, fun n hn => ?_⟩
    · rw [loaderState, World.withNav_nav, hnav]
      exact (w.nav.gone_push_pop _).2
    · rw [hpopped', popped_append, hpopped, popped_catchEvents, hnav] at hn
      exact List.mem_singleton.mp hn

theorem balanced_withLoader {text : String} {kind : SnackBarKind} {body : App Unit}
    (h : Closes w.nav (.loader text docerAnimation) body
      (w.withNav (w.nav.push (.loader text docerAnimation)))) :
    (withLoader text kind body).wp platform (fun _ tr w' => Balanced tr w'.nav) w :=
  wp_withLoader_iff.mpr (Prog.wp_mono h fun _ _ _ hbody => hbody.2.balanced hbody.1)

end Rules

end AroundMuseo
