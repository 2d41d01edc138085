import AroundMuseo.Core.Histories
import AroundMuseo.System.Parts

/-!
# The collections that are only read

Most collections are only read by the app. What an answer finds in one of them is therefore still
stored when it is shown, whatever overlaps.
-/

namespace AroundMuseo

open Async Firestore

/-- The calls that write to a collection. -/
def Call.writes (n : CollectionName) : Call → Bool
  | .set m _ _ | .setMerge m _ _ | .update m _ _ | .delete m _ | .add m _ => m = n
  | .runTransaction _ _ => n = .userFavorites
  | _ => false

section Calls

variable {n : CollectionName} {c : Call} {w w' : World}

/-- A call writes to no other collection. -/
theorem db_of_effect (hc : c.writes n = false) {v : Reply c} (h : effect c w v = some w') :
    w'.db n = w.db n := by
  cases c with
  | signInWithCredential g =>
    simp only [effect] at h
    split at h <;>
    · obtain ⟨-, hw⟩ := Option.ite_none_right_eq_some.mp h
      cases hw
      rfl
  | signInWithEmailAndPassword email password =>
    simp only [effect] at h
    split at h
    · obtain ⟨-, hw⟩ := Option.ite_none_right_eq_some.mp h
      cases hw
      rfl
    · cases h
  | set m | setMerge m | delete m =>
    cases h
    exact World.setDb_db_of_ne w _ (ne_comm.mp (of_decide_eq_false hc))
  | update m id d =>
    obtain ⟨docs, -, rfl⟩ := Option.map_eq_some_iff.mp h
    exact World.setDb_db_of_ne w _ (ne_comm.mp (of_decide_eq_false hc))
  | add m d =>
    obtain ⟨-, hw⟩ := Option.ite_none_left_eq_some.mp h
    cases hw
    exact World.setDb_db_of_ne w _ (ne_comm.mp (of_decide_eq_false hc))
  | runTransaction id tx =>
    simp only [effect, World.runTransaction] at h
    split at h <;> cases h
    · exact World.setDb_db_of_ne w _ (of_decide_eq_false hc)
    · rfl
  | createUserWithEmailAndPassword | autoId =>
    obtain ⟨-, hw⟩ := Option.ite_none_left_eq_some.mp h
    cases hw
    rfl
  | googleAuthentication | reauthenticateWithCredential | deleteUser | get | getAll | whereEq
  | whereEqLimit | getDownloadURL | mapController | openLoadingDialog | stopLoading =>
    obtain ⟨-, hw⟩ := Option.ite_none_right_eq_some.mp h
    cases hw
    rfl
  | _ =>
    cases h
    rfl

/-- A call that does not write to a collection leaves it alone. -/
theorem db_of_overlapping (hc : c.writes n = false) {r : Except Exn (Reply c)}
    (h : overlapping.perform c w r = some w') : w'.db n = w.db n := by
  rcases perform_of_overlapping h with h | rfl
  · cases r with
    | ok v => exact db_of_effect hc h
    | error e =>
      simp only [Platform.perform, Option.ite_none_right_eq_some, Option.some.injEq] at h
      rw [h.2]
  · rfl

/-- What does not write elsewhere writes to the records of the users. -/
theorem writes_of_not_writesElsewhere (hn : n ≠ .users) (hc : c.writesElsewhere = false) :
    c.writes n = false := by
  cases c with
  | set m | setMerge m | update m | delete m | add m =>
    have hm : m = .users := not_not.mp (of_decide_eq_false hc)
    exact decide_eq_false fun h => hn (h ▸ hm)
  | runTransaction => cases hc
  | _ => rfl

theorem writes_of_loads (hn : n ≠ .users) (hc : c.loads = true) : c.writes n = false :=
  writes_of_not_writesElsewhere hn (ordinary_of_loads hc).2.1

theorem writes_of_not_isSpecial (hn : n ≠ .users) (hc : c.isSpecial = false) : c.writes n = false :=
  writes_of_not_writesElsewhere hn
    (writesElsewhere_of_not_isReserved (Bool.or_eq_false_iff.mp hc).1)

end Calls

/-- A collection is the given one, which no operation writes to, and what is shown is right. -/
structure Showing (n : CollectionName) (c : Collection) (right : World → Prop) (ms : History)
    (w : World) : Prop where
  calls : ∀ m ∈ ms, m.call.writes n = false
  stored : w.db n = c
  right : right w

section Showing

variable {n : CollectionName} {c : Collection} {right : World → Prop}

/-- The program keeps what it shows right. -/
abbrev KeepsShowing {α : Type} (n : CollectionName) (c : Collection) (right : World → Prop)
    (p : App α) : Prop :=
  p.Steady overlapping (Showing n c right) fun _ _ => True

theorem closed_keepsShowing (n : CollectionName) (c : Collection) (right : World → Prop) :
    Prog.Closed fun {α} (p : App α) => KeepsShowing n c right p :=
  Prog.closed_steady overlapping _ _

theorem keepsShowing_update {u : World → World} (hdb : ∀ w, (u w).db n = w.db n)
    (hu : ∀ w, right w → right (u w)) : KeepsShowing n c right (Prog.modify u) :=
  Prog.steady_modify (fun _ w h => ⟨h.calls, (hdb w).trans h.stored, hu w h.right⟩)
    fun _ _ _ => trivial

variable {call : Call} {ms : History} {w w' : World}

/-- A call that is issued has not written yet. -/
theorem Showing.issued (h : Showing n c right ms w) (hcall : call.writes n = false) (s : World) :
    Showing n c right (ms ++ [.issued s call]) w :=
  ⟨List.forall_mem_append.mpr ⟨h.calls, List.forall_mem_singleton.mpr hcall⟩, h.stored, h.right⟩

variable (hright : ∀ w w', w'.controllers = w.controllers → right w → right w')

include hright

/-- What is shown changes by no answer. -/
theorem Showing.answered {r : Except Exn (Reply call)} (h : Showing n c right ms w)
    (hcall : call.writes n = false) (hr : overlapping.perform call w r = some w') :
    Showing n c right (ms ++ [.answered ⟨w, call, r⟩]) w' := by
  refine ⟨?_, ?_, ?_⟩
  · exact List.forall_mem_append.mpr ⟨h.calls, List.forall_mem_singleton.mpr hcall⟩
  · rw [db_of_overlapping hcall hr, h.stored]
  · exact hright w w' (controllers_of_overlapping hr) h.right

/-- A call that does not write to the collection leaves what is shown right. -/
theorem keepsShowing_call (hcall : call.writes n = false) :
    KeepsShowing n c right (await call) := by
  apply Prog.steady_invoke fun _ => trivial
  · exact fun ms w h => h.issued hcall w
  · intro _ ms _ w v w' heffect h _
    exact ⟨h.answered hright (r := .ok v) hcall heffect, trivial⟩

omit hright in
/-- What a query has found and the decoder read is right for what follows. -/
theorem keepsShowing_query {β : Type} {decode : Reply call → Except Exn β} {rethrown : Exn → Exn}
    (post : β → Prop) {rest : β → App Unit} (ha : overlapping.awaited call = true)
    (hcall : call.writes n = false)
    (hdecode : ∀ w docs w' b, w.db n = c →
      overlapping.perform call w (Except.ok (ε := Exn) docs) = some w' →
      decode docs = .ok b → post b)
    (hrest : ∀ b, post b → KeepsShowing n c right (rest b)) :
    KeepsShowing n c right (do
      let b ← tryCatch
        (do
          let docs ← await call
          liftExcept (decode docs))
        fun e => throw (rethrown e)
      rest b) := by
  refine Prog.steady_bind_of ?_ hrest
  intro ms w₀ w h _
  apply Prog.upholds_handle
  apply Prog.upholds_bind
  apply Prog.upholds_invoke ha (h.issued hcall w) trivial
  intro r ms' w' hserved _ h'
  cases r with
  | error e => exact ⟨⟨h', trivial⟩, nofun⟩
  | ok docs =>
    obtain ⟨before, w₁, w₂, after, -, hbefore, hr⟩ := hserved
    show Prog.Upholds _ _ _ (liftExcept (decode docs)) _ _ _ _
    cases hb : decode docs with
    | error e => exact ⟨⟨h', trivial⟩, nofun⟩
    | ok b =>
      refine ⟨⟨h', trivial⟩, ?_⟩
      rintro _ ⟨⟩
      exact hdecode w₁ docs w₂ b hbefore.stored hr hb

/-- What every operation keeps right is right after every run. -/
theorem right_of_run {ι : Type} {body : ι → App Unit}
    {w₀ : World} {pool : AppPool ι} (hbody : ∀ op, KeepsShowing n (w₀.db n) right (body op))
    (hstart : right w₀) (hrun : Pool.Run overlapping body ⟨w₀, []⟩ ms pool) : right pool.state := by
  have hserve (call : Call) (ms : History) (w₁ w w' : World) (r : Except Exn (Reply call))
      (_ : overlapping.awaited call = true) (hissued : .issued w₁ call ∈ ms)
      (hr : overlapping.perform call w r = some w') (h : Showing n (w₀.db n) right ms w) :
      Showing n (w₀.db n) right (ms ++ [.answered ⟨w, call, r⟩]) w' ∧ True :=
    ⟨h.answered hright (h.calls (.issued w₁ call) hissued) hr, trivial⟩
  have hinit : Showing n (w₀.db n) right [] w₀ := ⟨List.forall_mem_nil _, rfl, hstart⟩
  have huphold := hrun.upholds (fun _ => trivial) (fun _ _ _ _ _ => trivial) hbody hserve
    (Pool.upholds_start hinit)
  exact huphold.1.inv.right

end Showing

end AroundMuseo
