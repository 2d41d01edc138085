import AroundMuseo.Utils.FullScreenLoader

/-!
# Rules for the synchronous calls

The navigator and the snack bars answer at once and in one way, so each of their
calls is a deterministic step of a run. The rules for the shared shape of the
operations follow: a loader around the body, a check of the connection and a check
of the form in front of it.
-/

namespace AroundMuseo

open Async

variable {w w' : World} {α β : Type} {Q : Except Exn α → List Event → World → Prop}

/-- The only answer of a call of the navigator or of a snack bar, and the navigator
after it. -/
inductive Sync (w : World) : (c : Call) → Reply c → Navigator RouteContent → Prop
  | openLoadingDialog (text animation : String) :
      Sync w (.openLoadingDialog text animation) w.nav.next (w.nav.push (.loader text animation))
  | stopLoading : Sync w .stopLoading w.nav.top w.nav.pop
  | getTo (s : Screen) : Sync w (.getTo s) () (getTo s w.nav)
  | getOff (s : Screen) : Sync w (.getOff s) () (getOff s w.nav)
  | getOffAll (s : Screen) : Sync w (.getOffAll s) () (w.nav.offAll (.page s))
  | snackBar (k : SnackBarKind) (title message : String) :
      Sync w (.snackBar k title message) () w.nav

namespace Sync

variable {c : Call} {v : Reply c} {nav : Navigator RouteContent}

theorem awaited_eq (h : Sync w c v nav) : platform.awaited c = false := by
  cases h <;> rfl

theorem effect_iff (h : Sync w c v nav) (v' : Reply c) (w' : World) :
    platform.effect c w v' = some w' ↔ v' = v ∧ w' = w.withNav nav := by
  cases h <;> simp [platform, effect, eq_comm]

/-- A synchronous call in front of the rest of a program. -/
theorem wp_bind {f : Reply c → App α} (h : Sync w c v nav) :
    (await c >>= f).wp platform Q w ↔
      (f v).wp platform (fun r tr => Q r (⟨w, c, .ok v⟩ :: tr)) (w.withNav nav) :=
  Prog.wp_invoke_bind_of_unique h.awaited_eq h.effect_iff

/-- A synchronous call at the end of a program. -/
theorem wp {Q : Except Exn (Reply c) → List Event → World → Prop} (h : Sync w c v nav) :
    (await c).wp platform Q w ↔ Q (.ok v) [⟨w, c, .ok v⟩] (w.withNav nav) :=
  Prog.wp_invoke_of_unique h.awaited_eq h.effect_iff

end Sync

/-- The clock may say anything. -/
theorem wp_now_bind {f : DateTime → App α} : (await .now >>= f).wp platform Q w ↔
    ∀ t : DateTime, (f t).wp platform (fun r tr => Q r (⟨w, .now, .ok t⟩ :: tr)) w := by
  rw [Prog.wp_invoke_bind]
  constructor
  · intro h t
    exact h.2 t w rfl
  · intro h
    refine ⟨nofun, fun t w' hw => ?_⟩
    cases hw
    exact h t

/-- A document is read as it is stored, unless reading it throws, as it does with an empty
id. -/
theorem wp_get_bind {n : CollectionName} {id : String} {f : Option Firestore.Doc → App α} :
    (await (.get n id) >>= f).wp platform Q w ↔
      (∀ e, Q (.error e) [⟨w, .get n id, .error e⟩] w) ∧
      (id ≠ "" → (f ((w.db n).lookup id)).wp platform
        (fun r tr => Q r (⟨w, .get n id, .ok ((w.db n).lookup id)⟩ :: tr)) w) := by
  rw [Prog.wp_invoke_bind]
  constructor
  · intro h
    exact ⟨h.1 rfl, fun hid => h.2 _ w (if_pos ⟨hid, rfl⟩)⟩
  · intro h
    refine ⟨fun _ => h.1, fun v w' hv => ?_⟩
    obtain ⟨⟨hid, rfl⟩, hw⟩ := Option.ite_none_right_eq_some.mp hv
    cases hw
    exact h.2 hid

section Loader

variable {Q : Except Exn Unit → List Event → World → Prop} {body : App Unit}

theorem wp_stopLoading : FullScreenLoader.stopLoading.wp platform Q w ↔
    Q (.ok ()) [⟨w, .stopLoading, .ok w.nav.top⟩] (w.withNav w.nav.pop) :=
  Sync.stopLoading.wp_bind

theorem wp_stopLoading_bind {Q : Except Exn α → List Event → World → Prop} {f : Unit → App α} :
    (FullScreenLoader.stopLoading >>= f).wp platform Q w ↔
      (f ()).wp platform (fun r tr => Q r (⟨w, .stopLoading, .ok w.nav.top⟩ :: tr))
        (w.withNav w.nav.pop) := by
  rw [Prog.wp_bind, wp_stopLoading]
  rfl

theorem wp_openLoadingDialog_bind {text animation : String} {f : Unit → App α}
    {Q : Except Exn α → List Event → World → Prop} :
    (FullScreenLoader.openLoadingDialog text animation >>= f).wp platform Q w ↔
      (f ()).wp platform
        (fun r tr => Q r (⟨w, .openLoadingDialog text animation, .ok w.nav.next⟩ :: tr))
        (w.withNav (w.nav.push (.loader text animation))) := by
  rw [Prog.wp_bind, FullScreenLoader.openLoadingDialog,
    (Sync.openLoadingDialog text animation).wp_bind]
  rfl

/-- The events of a `catch` block: the loader is closed and the error is shown. -/
def catchEvents (w : World) (kind : SnackBarKind) (e : Exn) : List Event :=
  [⟨w, .stopLoading, .ok w.nav.top⟩,
    ⟨w.withNav w.nav.pop, .snackBar kind "Oh Snap!" e.toText, .ok ()⟩]

/-- An operation under a loader ends normally: its body does, or the `catch` block
does. -/
theorem wp_withLoader {text : String} {kind : SnackBarKind} :
    (withLoader text kind body).wp platform Q w ↔
      body.wp platform (fun r tr w' => match r with
        | .ok _ => Q (.ok ()) (⟨w, .openLoadingDialog text docerAnimation, .ok w.nav.next⟩ :: tr) w'
        | .error e =>
          Q (.ok ()) (⟨w, .openLoadingDialog text docerAnimation, .ok w.nav.next⟩ ::
            (tr ++ catchEvents w' kind e)) (w'.withNav w'.nav.pop))
        (w.withNav (w.nav.push (.loader text docerAnimation))) := by
  rw [withLoader, Prog.wp_handle, wp_openLoadingDialog_bind, iff_iff_eq]
  congr! 3 with r tr w'
  cases r with
  | ok a => rfl
  | error e =>
    funext w'
    exact eq_iff_iff.mpr (wp_stopLoading_bind.trans (Sync.snackBar kind "Oh Snap!" e.toText).wp)

/-- The connection is checked by one call, which changes nothing. -/
theorem wp_isConnected_bind {Q : Except Exn α → List Event → World → Prop} {f : Bool → App α}
    (herr : ∀ ev : Event, ev.call = .checkConnectivity → ∀ e, Q (.error e) [ev] w)
    (hok : ∀ ev : Event, ev.call = .checkConnectivity →
      ∀ b, (f b).wp platform (fun r tr => Q r (ev :: tr)) w) :
    (NetworkManager.isConnected >>= f).wp platform Q w := by
  rw [Prog.wp_bind, NetworkManager.isConnected, Prog.wp_handle]
  refine Prog.wp_invoke_bind.mpr ⟨fun _ e => ?_, ?_⟩
  · cases e with
    | platform code text => exact hok ⟨w, .checkConnectivity, .error _⟩ rfl false
    | firebaseAuth | firebase | format | other | message | mAppFormat =>
      exact herr ⟨w, .checkConnectivity, .error _⟩ rfl _
  · rintro v _ ⟨⟩
    exact hok ⟨w, .checkConnectivity, .ok v⟩ rfl _

/-- `body` behind a connection check. -/
theorem wp_whenConnected
    (herr : ∀ ev : Event, ev.call = .checkConnectivity → ∀ e, Q (.error e) [ev] w)
    (hoff : ∀ ev : Event, ev.call = .checkConnectivity →
      Q (.ok ()) [ev, ⟨w, .stopLoading, .ok w.nav.top⟩] (w.withNav w.nav.pop))
    (hon : ∀ ev : Event, ev.call = .checkConnectivity →
      body.wp platform (fun r tr => Q r (ev :: tr)) w) :
    (whenConnected body).wp platform Q w := by
  refine wp_isConnected_bind herr fun ev hev b => ?_
  cases b with
  | true => exact hon ev hev
  | false => exact wp_stopLoading.mpr (hoff ev hev)

/-- `body` behind a check of the form. -/
theorem wp_whenValid {form : Option Bool}
    (herr : Q (.error Exn.nullCheck) [] w)
    (hoff : Q (.ok ()) [⟨w, .stopLoading, .ok w.nav.top⟩] (w.withNav w.nav.pop))
    (hon : body.wp platform Q w) : (whenValid form body).wp platform Q w := by
  match form with
  | none => exact herr
  | some false => exact wp_stopLoading.mpr hoff
  | some true => exact hon

end Loader

end AroundMuseo
