import AroundMuseo.Core.Named
import AroundMuseo.Core.Segments
import AroundMuseo.Navigation.Loaders
import AroundMuseo.Platform.Scenario

/-!
# The platform for overlapping operations

Two writes are made by functions that nobody waits for: the time of the last activity and
the end of a visit. Their callers go on at once, and what they throw is caught. While
operations overlap such a write is therefore answered at once, and one that is refused
does nothing.
-/

namespace AroundMuseo

open Async

/-- The writes that nobody waits for. -/
def Call.detached : Call → Bool
  | .update .users _ d => (d.lookup "LastActive").isSome
  | .update .museumLogbook _ _ => true
  | _ => false

/-- The platform of operations that overlap. -/
def overlapping : Async.Platform Reply World where
  awaited c := c.awaited && !c.detached
  effect c w v := if c.detached then some ((effect c w v).getD w) else effect c w v

/-- A call does what it does on the platform, or nothing. -/
theorem perform_of_overlapping {c : Call} {w w' : World} {r : Except Exn (Reply c)}
    (h : overlapping.perform c w r = some w') : platform.perform c w r = some w' ∨ w' = w := by
  cases r with
  | error e =>
    simp only [Platform.perform, Option.ite_none_right_eq_some, Option.some.injEq] at h
    exact .inr h.2.symm
  | ok v =>
    simp only [Platform.perform_ok, overlapping] at h
    split at h
    · cases heffect : effect c w v with
      | none =>
        rw [heffect] at h
        exact .inr (Option.some.inj h).symm
      | some w₁ =>
        rw [heffect] at h
        exact .inl (heffect.trans h)
    · exact .inl h

/-- No call changes the controllers. -/
theorem controllers_of_overlapping {c : Call} {w w' : World} {r : Except Exn (Reply c)}
    (h : overlapping.perform c w r = some w') : w'.controllers = w.controllers := by
  rcases perform_of_overlapping h with h | rfl
  · exact controllers_of_perform h
  · rfl

/-- Nothing brings back a route that is gone. -/
theorem gone_of_perform {c : Call} {w w' : World} {r : Except Exn (Reply c)}
    (h : platform.perform c w r = some w') {k : Nat} (hk : w.nav.Gone k) : w'.nav.Gone k := by
  by_cases hc : c.isLoading = false
  · exact gone_of_unloading hc h hk
  rcases r with e | v
  · simp only [Platform.perform, Option.ite_none_right_eq_some, Option.some.injEq] at h
    exact h.2 ▸ hk
  · cases c with
    | openLoadingDialog text animation =>
      obtain ⟨-, hw⟩ := Option.ite_none_right_eq_some.mp h
      cases hw
      exact hk.push _
    | stopLoading =>
      obtain ⟨-, hw⟩ := Option.ite_none_right_eq_some.mp h
      cases hw
      exact hk.pop
    | _ => exact absurd rfl hc

theorem gone_of_overlapping {c : Call} {w w' : World} {r : Except Exn (Reply c)}
    (h : overlapping.perform c w r = some w') {k : Nat} (hk : w.nav.Gone k) : w'.nav.Gone k := by
  rcases perform_of_overlapping h with h | rfl
  · exact gone_of_perform h hk
  · exact hk

/-- Run the program if the state allows it, else do nothing: what a handler does that
belongs to a screen or to a timer. -/
def whenEnabled (enabled : World → Bool) (p : App Unit) : App Unit := do
  if ← Prog.read enabled then p

/-- A verified user is signed in. -/
def World.Verified (w : World) : Prop := ∃ u, w.currentUser = some u ∧ u.emailVerified = true

instance (w : World) : Decidable w.Verified :=
  decidable_of_iff (w.currentUser.any (·.emailVerified) = true) (Option.any_eq_true _ _)

/-- The part of the state that tells what is shown and who is signed in. -/
def World.sessionView (w : World) : Navigator RouteContent × Option User := (w.nav, w.currentUser)

theorem Local.sessionView {α : Type} {p : App α} (h : Local p) :
    p.Confined (fun _ => True) World.sessionView :=
  (h.mono fun _ _ => trivial).comp fun x => (x.1.2.2.2, x.1.2.1)

theorem confined_whenEnabled {τ : Type} {ok : Call → Prop} {view : World → τ}
    {enabled : World → Bool} {p : App Unit} (hp : p.Confined ok view) :
    (whenEnabled enabled p).Confined ok view := by
  refine .bind (Prog.confined_read _) fun b => ?_
  cases b with
  | true => exact hp
  | false => trivial

/-- The operations of the app with the name of the one that makes each call. -/
abbrev NamedPool (ι : Type) := Async.Pool (NamedReply ι Reply) World Exn ι

/-- The history of named operations. -/
abbrev NamedHistory (ι : Type) := List (Async.Moment (NamedReply ι Reply) World Exn)

/-- The platform of named operations that overlap. -/
abbrev namedPlatform (ι : Type) : Async.Platform (NamedReply ι Reply) World :=
  overlapping.named (Parts.whole ι World)

/-- An operation under its name. -/
abbrev namedBody {ι : Type} (body : ι → App Unit) (op : ι) :
    Async.Prog (NamedReply ι Reply) World Exn Unit :=
  (body op).named (Parts.whole ι World) op

section Named

variable {ι : Type} {i : ι} {p : App Unit} {w w' : World} {ms : NamedHistory ι}
  {t : Task (NamedReply ι Reply) World Exn}

/-- A handler that is not enabled does nothing. -/
theorem advance_whenEnabled {enabled : World → Bool} :
    ((whenEnabled enabled p).named (Parts.whole ι World) i).Advance (namedPlatform ι) w ms t w' ↔
      if enabled w then (p.named (Parts.whole ι World) i).Advance (namedPlatform ι) w ms t w'
      else ms = [] ∧ t = .finished ∧ w' = w := by
  show ((if enabled w then p else pure ()).named (Parts.whole ι World) i).Advance _ _ _ _ _ ↔ _
  split <;> rfl

end Named

/-- A run of operations in which the moves happen in the given order, and a last step. -/
theorem overlapping_pool_run {ι : Type} (body : ι → App Unit) (w : World)
    (special : World → (c : Call) → Option (Except Exn (Reply c)))
    (moves : List (Async.Pool.Move ι)) (last : Async.Pool.Move ι)
    (q : World → World → Bool)
    (h : ((⟨w, []⟩ : AppPool ι).follow overlapping body (scenario special) moves).any
      (fun out => (out.2.move overlapping body (scenario special) last).any fun out' =>
        q out.2.state out'.2.state) = true) :
    ∃ ms c ms' c', Async.Pool.Run overlapping body ⟨w, []⟩ ms c ∧
      Async.Pool.Step overlapping body c ms' c' ∧ q c.state c'.state = true := by
  obtain ⟨ms, c, hrun, hlast⟩ := Async.Pool.exists_run_of_follow moves h
  obtain ⟨ms', c', hstep, hq⟩ := Async.Pool.exists_step_of_move last hlast
  exact ⟨ms, c, ms', c', hrun, hstep, hq⟩

/-- The same, if every step of the run and the last one are `ok`. -/
theorem overlapping_pool_runMeeting {ι : Type} (body : ι → App Unit) (w : World)
    (special : World → (c : Call) → Option (Except Exn (Reply c)))
    (ok : AppPool ι → History → AppPool ι → Bool) (cond : AppPool ι → History → AppPool ι → Prop)
    (hok : ∀ c ms c', ok c ms c' = true → cond c ms c') (moves : List (Async.Pool.Move ι))
    (last : Async.Pool.Move ι) (q : AppPool ι → AppPool ι → Bool)
    (h : ((⟨w, []⟩ : AppPool ι).followMeeting overlapping body (scenario special) ok moves).any
      (fun out => (out.2.move overlapping body (scenario special) last).any fun out' =>
        ok out.2 out'.1 out'.2 && q out.2 out'.2) = true) :
    ∃ ms c ms' c', Async.Pool.RunMeeting overlapping body cond ⟨w, []⟩ ms c ∧
      Async.Pool.Step overlapping body c ms' c' ∧ cond c ms' c' ∧ q c c' = true := by
  obtain ⟨ms, c, hrun, hlast⟩ := Async.Pool.exists_runMeeting_of_followMeeting hok moves h
  obtain ⟨ms', c', hstep, hq⟩ := Async.Pool.exists_step_of_move last hlast
  obtain ⟨hcond, hq⟩ := Bool.and_eq_true_iff.mp hq
  exact ⟨ms, c, ms', c', hrun, hstep, hok c ms' c' hcond, hq⟩

/-- A run of named operations in which the moves happen in the given order. -/
theorem named_pool_run {ι : Type} (body : ι → App Unit) (w : World)
    (special : World → (c : Call) → Option (Except Exn (Reply c)))
    (moves : List (Async.Pool.Move ι)) (q : NamedHistory ι × NamedPool ι → Bool)
    (h : ((⟨w, []⟩ : NamedPool ι).follow (namedPlatform ι) (namedBody body)
      (fun w c => scenario special w c.2) moves).any q = true) :
    ∃ ms c, Async.Pool.Run (namedPlatform ι) (namedBody body) ⟨w, []⟩ ms c ∧ q (ms, c) = true :=
  Async.Pool.exists_run_of_follow moves h

/-- A run of named operations in which the moves happen in the given order, if each step is
`ok`. -/
theorem named_pool_runMeeting {ι : Type} (body : ι → App Unit) (w : World)
    (special : World → (c : Call) → Option (Except Exn (Reply c)))
    (ok : NamedPool ι → NamedHistory ι → NamedPool ι → Bool)
    (cond : NamedPool ι → NamedHistory ι → NamedPool ι → Prop)
    (hok : ∀ c ms c', ok c ms c' = true → cond c ms c')
    (moves : List (Async.Pool.Move ι)) (q : NamedHistory ι × NamedPool ι → Bool)
    (h : ((⟨w, []⟩ : NamedPool ι).followMeeting (namedPlatform ι) (namedBody body)
      (fun w c => scenario special w c.2) ok moves).any q = true) :
    ∃ ms c, Async.Pool.RunMeeting (namedPlatform ι) (namedBody body) cond ⟨w, []⟩ ms c ∧
      q (ms, c) = true :=
  Async.Pool.exists_runMeeting_of_followMeeting hok moves h

end AroundMuseo
