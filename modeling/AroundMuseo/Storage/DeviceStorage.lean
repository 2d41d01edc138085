import AroundMuseo.Controllers.OnBoardingController
import AroundMuseo.Core.Journal
import AroundMuseo.System.Parts

/-!
# The device storage

No call changes the storage of the device. Three updates do: the login that a form submits, the
mark of a first start and the end of the onboarding. Each is followed at once by a call that
tells of it, so that the history of the calls says what is stored.
-/

namespace AroundMuseo

open Async Firestore

/-- The operations of the app and the button of the onboarding, in any state of its controller. -/
inductive StorageOperation where
  | app (op : AppOperation)
  | nextPage (s : OnBoardingController)
  deriving DecidableEq

def StorageOperation.body (intl : Intl) (repository : LocationRepository) :
    StorageOperation → App Unit
  | app op => op.body intl repository
  | nextPage s => s.nextPage.2

/-- An answer leaves the storage of the device alone. -/
theorem deviceStorage_of_effect {c : Call} {w w' : World} {v : Reply c}
    (h : effect c w v = some w') : w'.deviceStorage = w.deviceStorage := by
  cases c with
  | signInWithCredential g =>
    simp only [effect] at h
    split at h <;>
    · obtain ⟨-, hw⟩ := Option.ite_none_right_eq_some.mp h
      cases hw
      rfl
  | signInWithEmailAndPassword email password =>
    simp only [effect] at h
    split at h
    · obtain ⟨-, hw⟩ := Option.ite_none_right_eq_some.mp h
      cases hw
      rfl
    · cases h
  | update n id d =>
    obtain ⟨docs, -, rfl⟩ := Option.map_eq_some_iff.mp h
    rfl
  | runTransaction id tx =>
    simp only [effect, World.runTransaction] at h
    split at h <;> cases h <;> rfl
  | createUserWithEmailAndPassword | add | autoId =>
    obtain ⟨-, hw⟩ := Option.ite_none_left_eq_some.mp h
    cases hw
    rfl
  | googleAuthentication | reauthenticateWithCredential | deleteUser | get | getAll | whereEq
  | whereEqLimit | getDownloadURL | mapController | openLoadingDialog | stopLoading =>
    obtain ⟨-, hw⟩ := Option.ite_none_right_eq_some.mp h
    cases hw
    rfl
  | _ =>
    cases h
    rfl

theorem deviceStorage_of_overlapping {c : Call} {w w' : World} {r : Except Exn (Reply c)}
    (h : overlapping.perform c w r = some w') : w'.deviceStorage = w.deviceStorage := by
  rcases perform_of_overlapping h with h | rfl
  · cases r with
    | ok v => exact deviceStorage_of_effect h
    | error e =>
      simp only [Platform.perform, Option.ite_none_right_eq_some, Option.some.injEq] at h
      rw [h.2]
  · rfl

section Journal

variable {ρ : Type} {view : (AList fun _ : String => Scalar) → ρ}
  {act : ρ → Moment Reply World Exn → ρ}

/-- The program announces what it changes of the storage. -/
abbrev Announces {α : Type} (view : (AList fun _ : String => Scalar) → ρ)
    (act : ρ → Moment Reply World Exn → ρ) (p : App α) : Prop :=
  p.Journaled overlapping (fun w => view w.deviceStorage) act

theorem closed_announces : Prog.Closed fun {α} (p : App α) => Announces view act p :=
  Prog.closed_journaled overlapping _ act

/-- A call that tells of nothing. -/
theorem announces_call {c : Call} (hissued : ∀ v w, act v (.issued w c) = v)
    (hanswered : ∀ v w r, act v (.answered ⟨w, c, r⟩) = v) : Announces view act (await c) := by
  apply Prog.journaled_invoke hissued hanswered
  intro w v w' heffect
  rw [deviceStorage_of_overlapping (r := .ok v) heffect]

theorem announces_update {u : World → World} (hu : ∀ w, (u w).deviceStorage = w.deviceStorage) :
    Announces view act (Prog.modify u) :=
  Prog.journaled_modify fun w => congrArg view (hu w)

end Journal

section Runs

variable {ι ρ : Type} {view : (AList fun _ : String => Scalar) → ρ}
  {act : ι → ρ → Moment Reply World Exn → ρ} {body : ι → App Unit}

/-- What the journal of a run of named operations says of the storage. -/
theorem storage_journal (hbody : ∀ i, Announces view (act i) (body i))
    (hact : ∀ i v w (c : Call) (r : Except Exn (Reply c)), overlapping.awaited c = true →
      act i v (.answered ⟨w, c, r⟩) = v)
    {w₀ : World} {c : NamedPool ι} {ms : NamedHistory ι}
    (hrun : Pool.Run (namedPlatform ι) (namedBody body) ⟨w₀, []⟩ ms c) :
    JournalRight (fun w => view w.deviceStorage)
      (fun v m => act m.call.1 v (m.seen (Parts.whole ι World))) (namedPlatform ι)
      (view w₀.deviceStorage) ms (view c.state.deviceStorage) := by
  apply hrun.journal
  · exact fun i => (hbody i).named fun _ _ => rfl
  · intro c w w' r _ hr
    have hperform : overlapping.perform c.2 w r = some w' := by
      rw [← Platform.named_whole_perform overlapping c.1]
      exact hr
    rw [deviceStorage_of_overlapping hperform]
  · exact fun v w c r ha => hact c.1 v w c.2 r ha

end Runs

end AroundMuseo
