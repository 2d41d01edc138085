import AroundMuseo.Core.Program
import Mathlib.Tactic.Common

/-!
# Runs of one program

A platform says which calls are awaited and what a reply does to the state. An
awaited call may instead throw, and then it has had no effect; a synchronous call
never throws. A run lists the calls it made with their outcomes, so that a
property of a run may speak of the outcomes as well as of the final state.
Weakest preconditions range over every run, and `follow` computes the one run
that a script of outcomes determines.
-/

namespace Async

variable {C : Type} {R : C → Type} {σ ε α β : Type}

/-- A call with its outcome and the state that it was made in. -/
structure Event (R : C → Type) (σ ε : Type) where
  state : σ
  call : C
  reply : Except ε (R call)

/-- The meaning of the calls: `effect c s v` is the state after call `c` was
answered by `v` in state `s`, and `none` if that answer is impossible there. -/
structure Platform (R : C → Type) (σ : Type) where
  awaited : C → Bool
  effect : (c : C) → σ → R c → Option σ

/-- One outcome of a call. Throwing is atomic: it leaves the state as it was. -/
def Platform.perform (P : Platform R σ) (c : C) (s : σ) : Except ε (R c) → Option σ
  | .ok v => P.effect c s v
  | .error _ => if P.awaited c then some s else none

@[simp] theorem Platform.perform_ok (P : Platform R σ) (c : C) (s : σ) (v : R c) :
    P.perform (ε := ε) c s (.ok v) = P.effect c s v := rfl

/-- Every call of the run was answered. -/
def AllAnswered (tr : List (Event R σ ε)) : Prop := ∀ ev ∈ tr, ∃ v, ev.reply = .ok v

instance (tr : List (Event R σ ε)) : Decidable (AllAnswered tr) :=
  decidable_of_iff (∀ ev ∈ tr, ev.reply.isOk = true) <| forall₂_congr fun ev _ => by
    cases ev.reply <;> simp [Except.isOk, Except.toBool]

theorem allAnswered_nil : AllAnswered ([] : List (Event R σ ε)) := List.forall_mem_nil _

theorem allAnswered_cons {ev : Event R σ ε} {tr : List (Event R σ ε)} :
    AllAnswered (ev :: tr) ↔ (∃ v, ev.reply = .ok v) ∧ AllAnswered tr :=
  List.forall_mem_cons

theorem allAnswered_append {tr tr' : List (Event R σ ε)} :
    AllAnswered (tr ++ tr') ↔ AllAnswered tr ∧ AllAnswered tr' :=
  List.forall_mem_append

/-- The calls of the run that threw. -/
def failures (tr : List (Event R σ ε)) : List C :=
  tr.filterMap fun ev => match ev.reply with
    | .ok _ => none
    | .error _ => some ev.call

@[simp] theorem failures_nil : failures ([] : List (Event R σ ε)) = [] := rfl

@[simp] theorem failures_append (tr tr' : List (Event R σ ε)) :
    failures (tr ++ tr') = failures tr ++ failures tr' :=
  List.filterMap_append

/-- Nothing has failed exactly if everything was answered. -/
theorem failures_eq_nil_iff {tr : List (Event R σ ε)} : failures tr = [] ↔ AllAnswered tr := by
  rw [failures, List.filterMap_eq_nil_iff]
  refine forall₂_congr fun ev _ => ?_
  cases ev.reply <;> simp

namespace Prog

/-- `Run P p s tr r s'`: from `s` the program makes the calls `tr`, finishes with
`r` and leaves `s'`. -/
def Run (P : Platform R σ) :
    Prog R σ ε α → σ → List (Event R σ ε) → Except ε α → σ → Prop
  | done r, s, tr, out, s' => tr = [] ∧ out = r ∧ s' = s
  | step u k, s, tr, out, s' => (k s).Run P (u s) tr out s'
  | call c k, s, tr, out, s' => ∃ r s₁ rest,
      P.perform c s r = some s₁ ∧ tr = ⟨s, c, r⟩ :: rest ∧ (k r).Run P s₁ rest out s'

/-- What must hold of the state so that every run ends in `Q`. -/
def wp (P : Platform R σ) :
    Prog R σ ε α → (Except ε α → List (Event R σ ε) → σ → Prop) → σ → Prop
  | done r, Q, s => Q r [] s
  | step u k, Q, s => (k s).wp P Q (u s)
  | call c k, Q, s => ∀ r s', P.perform c s r = some s' →
      (k r).wp P (fun out tr => Q out (⟨s, c, r⟩ :: tr)) s'

variable {P : Platform R σ} {Q Q' : Except ε α → List (Event R σ ε) → σ → Prop} {s : σ}

/-- The weakest precondition is exactly the postcondition of all runs. -/
theorem wp_iff_run {p : Prog R σ ε α} :
    p.wp P Q s ↔ ∀ tr r s', p.Run P s tr r s' → Q r tr s' := by
  induction p generalizing Q s with
  | done r =>
    constructor
    · rintro h tr out s' ⟨rfl, rfl, rfl⟩
      exact h
    · intro h
      exact h [] r s ⟨rfl, rfl, rfl⟩
  | step u k ih => exact ih s
  | call c k ih =>
    constructor
    · rintro h tr out s' ⟨r, s₁, rest, hp, rfl, hr⟩
      exact (ih r).mp (h r s₁ hp) rest out s' hr
    · intro h r s₁ hp
      exact (ih r).mpr fun tr out s' hr => h _ out s' ⟨r, s₁, tr, hp, rfl, hr⟩

/-- The postcondition may be weakened. -/
theorem wp_mono {p : Prog R σ ε α} (h : p.wp P Q s)
    (hQ : ∀ r tr s', Q r tr s' → Q' r tr s') : p.wp P Q' s :=
  wp_iff_run.mpr fun tr r s' hr => hQ r tr s' (wp_iff_run.mp h tr r s' hr)

/-- Two postconditions hold together. -/
theorem wp_and {p : Prog R σ ε α} (h : p.wp P Q s) (h' : p.wp P Q' s) :
    p.wp P (fun r tr s' => Q r tr s' ∧ Q' r tr s') s :=
  wp_iff_run.mpr fun tr r s' hr =>
    ⟨wp_iff_run.mp h tr r s' hr, wp_iff_run.mp h' tr r s' hr⟩

/-- The events of the second program come after those of the first. -/
theorem wp_andThen {p : Prog R σ ε α} {f : Except ε α → Prog R σ ε β}
    {Q : Except ε β → List (Event R σ ε) → σ → Prop} :
    (p.andThen f).wp P Q s ↔
      p.wp P (fun r tr s' => (f r).wp P (fun r' tr' => Q r' (tr ++ tr')) s') s := by
  induction p generalizing Q s with
  | done r => rfl
  | step u k ih => exact ih s
  | call c k ih =>
    exact forall_congr' fun r => forall_congr' fun s' => imp_congr_right fun _ => ih r

/-- A call either throws, if it is awaited, or is answered. -/
theorem wp_call {c : C} {k : Except ε (R c) → Prog R σ ε α} :
    (call c k).wp P Q s ↔
      (P.awaited c = true →
        ∀ e, (k (.error e)).wp P (fun out tr => Q out (⟨s, c, .error e⟩ :: tr)) s) ∧
      ∀ v s', P.effect c s v = some s' →
        (k (.ok v)).wp P (fun out tr => Q out (⟨s, c, .ok v⟩ :: tr)) s' := by
  constructor
  · intro h
    exact ⟨fun ha e => h (.error e) s (by simp [Platform.perform, ha]), fun v s' hv =>
      h (.ok v) s' hv⟩
  · rintro ⟨he, hv⟩ (e | v) s' hp
    · simp only [Platform.perform, Option.ite_none_right_eq_some, Option.some.injEq] at hp
      obtain ⟨ha, rfl⟩ := hp
      exact he ha e
    · exact hv v s' hp

section Rules

variable {p : Prog R σ ε α} {Qb : Except ε β → List (Event R σ ε) → σ → Prop}

@[simp] theorem wp_done {r : Except ε α} : (done r).wp P Q s ↔ Q r [] s := Iff.rfl

@[simp] theorem wp_pure {a : α} : (pure a : Prog R σ ε α).wp P Q s ↔ Q (.ok a) [] s := Iff.rfl

@[simp] theorem wp_throw {e : ε} : (throw e : Prog R σ ε α).wp P Q s ↔ Q (.error e) [] s := Iff.rfl

@[simp] theorem wp_read {f : σ → α} : (read f).wp P Q s ↔ Q (.ok (f s)) [] s := Iff.rfl

@[simp] theorem wp_modify {u : σ → σ} {Q : Except ε Unit → List (Event R σ ε) → σ → Prop} :
    (modify u).wp P Q s ↔ Q (.ok ()) [] (u s) := Iff.rfl

@[simp] theorem wp_read_bind {f : σ → α} {k : α → Prog R σ ε β} :
    (read f >>= k).wp P Qb s ↔ (k (f s)).wp P Qb s := Iff.rfl

@[simp] theorem wp_modify_bind {u : σ → σ} {k : Unit → Prog R σ ε β} :
    (modify u >>= k).wp P Qb s ↔ (k ()).wp P Qb (u s) := Iff.rfl

@[simp] theorem wp_pure_bind {a : α} {k : α → Prog R σ ε β} :
    (pure a >>= k).wp P Qb s ↔ (k a).wp P Qb s := Iff.rfl

@[simp] theorem wp_throw_bind {e : ε} {k : α → Prog R σ ε β} :
    ((throw e : Prog R σ ε α) >>= k).wp P Qb s ↔ Qb (.error e) [] s := Iff.rfl

/-- Sequential composition: the exception ends the run, a value is handed on. -/
theorem wp_bind {f : α → Prog R σ ε β} :
    (p >>= f).wp P Qb s ↔ p.wp P (fun r tr s' => match r with
      | .ok a => (f a).wp P (fun r' tr' => Qb r' (tr ++ tr')) s'
      | .error e => Qb (.error e) tr s') s := by
  rw [bind_eq, Prog.bind, wp_andThen, iff_iff_eq]
  congr! 3 with r tr s'
  cases r <;> simp

/-- An exception handler. -/
theorem wp_handle {h : ε → Prog R σ ε α} :
    (tryCatch p h).wp P Q s ↔ p.wp P (fun r tr s' => match r with
      | .ok a => Q (.ok a) tr s'
      | .error e => (h e).wp P (fun r' tr' => Q r' (tr ++ tr')) s') s := by
  rw [tryCatch_eq, handle, wp_andThen, iff_iff_eq]
  congr! 3 with r tr s'
  cases r <;> simp

/-- A finaliser runs on every outcome. -/
theorem wp_ensure {q : Prog R σ ε Unit} :
    (p.ensure q).wp P Q s ↔ p.wp P (fun r tr s' => q.wp P (fun r' tr' s'' => match r' with
      | .ok _ => Q r (tr ++ tr') s''
      | .error e => Q (.error e) (tr ++ tr') s'') s') s := by
  have hq (r : Except ε α) (tr : List (Event R σ ε)) (s' : σ) :
      (q.bind fun _ => done r).wp P (fun r' tr' => Q r' (tr ++ tr')) s' ↔
        q.wp P (fun r' tr' s'' => match r' with
          | .ok _ => Q r (tr ++ tr') s''
          | .error e => Q (.error e) (tr ++ tr') s'') s' := by
    rw [← bind_eq, wp_bind, iff_iff_eq]
    congr! 3 with r' tr' s''
    cases r' <;> simp
  rw [ensure, wp_andThen]
  simp only [hq]

/-- The outcome of a program that is not awaited is lost. -/
theorem wp_unawaited {Q : Except ε Unit → List (Event R σ ε) → σ → Prop} :
    p.unawaited.wp P Q s ↔ p.wp P (fun _ tr s' => Q (.ok ()) tr s') s := by
  rw [unawaited, wp_andThen]
  simp

/-- A call followed by the rest of the program. -/
theorem wp_invoke_bind {c : C} {f : R c → Prog R σ ε β} :
    (invoke c >>= f).wp P Qb s ↔
      (P.awaited c = true → ∀ e, Qb (.error e) [⟨s, c, .error e⟩] s) ∧
      ∀ v s', P.effect c s v = some s' →
        (f v).wp P (fun out tr => Qb out (⟨s, c, .ok v⟩ :: tr)) s' := wp_call

/-- A call fails, if it is awaited, or takes effect. -/
theorem wp_invoke {c : C} {Q : Except ε (R c) → List (Event R σ ε) → σ → Prop} :
    (invoke c).wp P Q s ↔
      (P.awaited c = true → ∀ e, Q (.error e) [⟨s, c, .error e⟩] s) ∧
      ∀ v s', P.effect c s v = some s' → Q (.ok v) [⟨s, c, .ok v⟩] s' := wp_call

/-- A synchronous call with one possible answer is a deterministic step. -/
theorem wp_call_of_unique {c : C} {k : Except ε (R c) → Prog R σ ε α} {v : R c} {s' : σ}
    (ha : P.awaited c = false)
    (h : ∀ v' s'', P.effect c s v' = some s'' ↔ v' = v ∧ s'' = s') :
    (call c k).wp P Q s ↔
      (k (.ok v)).wp P (fun out tr => Q out (⟨s, c, .ok v⟩ :: tr)) s' := by
  rw [wp_call]
  constructor
  · rintro ⟨-, hv⟩
    exact hv v s' ((h v s').mpr ⟨rfl, rfl⟩)
  · intro hf
    refine ⟨fun ht => by simp [ha] at ht, fun v' s'' he => ?_⟩
    obtain ⟨rfl, rfl⟩ := (h v' s'').mp he
    exact hf

theorem wp_invoke_bind_of_unique {c : C} {f : R c → Prog R σ ε β} {v : R c} {s' : σ}
    (ha : P.awaited c = false)
    (h : ∀ v' s'', P.effect c s v' = some s'' ↔ v' = v ∧ s'' = s') :
    (invoke c >>= f).wp P Qb s ↔ (f v).wp P (fun out tr => Qb out (⟨s, c, .ok v⟩ :: tr)) s' :=
  wp_call_of_unique ha h

theorem wp_invoke_of_unique {c : C} {v : R c} {s' : σ}
    {Q : Except ε (R c) → List (Event R σ ε) → σ → Prop} (ha : P.awaited c = false)
    (h : ∀ v' s'', P.effect c s v' = some s'' ↔ v' = v ∧ s'' = s') :
    (invoke c).wp P Q s ↔ Q (.ok v) [⟨s, c, .ok v⟩] s' :=
  wp_call_of_unique ha h

end Rules

section Build

variable {p : Prog R σ ε α} {s₁ s₂ : σ} {tr tr' : List (Event R σ ε)}

theorem Run.andThen {f : Except ε α → Prog R σ ε β} {r : Except ε α} {r' : Except ε β}
    (hp : p.Run P s tr r s₁) (hf : (f r).Run P s₁ tr' r' s₂) :
    (p.andThen f).Run P s (tr ++ tr') r' s₂ := by
  induction p generalizing s tr with
  | done out =>
    obtain ⟨rfl, rfl, rfl⟩ := hp
    exact hf
  | step u k ih => exact ih s hp
  | call c k ih =>
    obtain ⟨reply, s', rest, hc, rfl, hk⟩ := hp
    exact ⟨reply, s', rest ++ tr', hc, rfl, ih reply hk⟩

/-- A value goes on in the continuation. -/
theorem Run.bind {f : α → Prog R σ ε β} {a : α} {r : Except ε β} (hp : p.Run P s tr (.ok a) s₁)
    (hf : (f a).Run P s₁ tr' r s₂) : (p >>= f).Run P s (tr ++ tr') r s₂ :=
  Run.andThen hp hf

/-- A value passes the handler by. -/
theorem Run.handle_ok {h : ε → Prog R σ ε α} {a : α} (hp : p.Run P s tr (.ok a) s₁) :
    (tryCatch p h).Run P s tr (.ok a) s₁ := by
  have hdone : (done (.ok a) : Prog R σ ε α).Run P s₁ [] (.ok a) s₁ := ⟨rfl, rfl, rfl⟩
  have hrun : (tryCatch p h).Run P s (tr ++ []) (.ok a) s₁ := Run.andThen hp hdone
  rwa [List.append_nil] at hrun

/-- What is thrown ends the program. -/
theorem Run.bind_error {f : α → Prog R σ ε β} {e : ε} (hp : p.Run P s tr (.error e) s₁) :
    (p >>= f).Run P s tr (.error e) s₁ := by
  have hdone : (done (.error e) : Prog R σ ε β).Run P s₁ [] (.error e) s₁ := ⟨rfl, rfl, rfl⟩
  have hrun : (p >>= f).Run P s (tr ++ []) (.error e) s₁ := Run.andThen hp hdone
  rwa [List.append_nil] at hrun

/-- An exception goes on in the handler. -/
theorem Run.handle_error {h : ε → Prog R σ ε α} {e : ε} {r : Except ε α}
    (hp : p.Run P s tr (.error e) s₁) (hh : (h e).Run P s₁ tr' r s₂) :
    (tryCatch p h).Run P s (tr ++ tr') r s₂ :=
  Run.andThen hp hh

/-- A finaliser that returns keeps the outcome. -/
theorem Run.ensure {q : Prog R σ ε Unit} {r : Except ε α} (hp : p.Run P s tr r s₁)
    (hq : q.Run P s₁ tr' (.ok ()) s₂) : (p.ensure q).Run P s (tr ++ tr') r s₂ := by
  have hdone : (done r : Prog R σ ε α).Run P s₂ [] r s₂ := ⟨rfl, rfl, rfl⟩
  have hlast := Run.bind hq (f := fun _ => done r) hdone
  rw [List.append_nil] at hlast
  exact Run.andThen hp hlast

theorem run_read (f : σ → α) : (read f : Prog R σ ε α).Run P s [] (.ok (f s)) s := ⟨rfl, rfl, rfl⟩

theorem run_modify (u : σ → σ) : (modify u : Prog R σ ε Unit).Run P s [] (.ok ()) (u s) :=
  ⟨rfl, rfl, rfl⟩

theorem run_invoke {c : C} {v : R c} (h : P.effect c s v = some s') :
    (invoke c : Prog R σ ε (R c)).Run P s [⟨s, c, .ok v⟩] (.ok v) s' :=
  ⟨.ok v, s', [], h, rfl, rfl, rfl, rfl⟩

end Build

/-- Use what is known of a callee: its postcondition replaces its body. -/
theorem wp_bind_of {p : Prog R σ ε α} {f : α → Prog R σ ε β}
    {Qb : Except ε β → List (Event R σ ε) → σ → Prop} (hp : p.wp P Q s)
    (herr : ∀ e tr s', Q (.error e) tr s' → Qb (.error e) tr s')
    (hok : ∀ a tr s', Q (.ok a) tr s' → (f a).wp P (fun r tr' => Qb r (tr ++ tr')) s') :
    (p >>= f).wp P Qb s := by
  rw [wp_bind]
  refine wp_mono hp ?_
  rintro (e | a) tr s' h
  · exact herr e tr s' h
  · exact hok a tr s' h

/-- The program throws exactly when one of its calls does: it neither handles an
exception nor throws one of its own. -/
def Propagates (P : Platform R σ) (p : Prog R σ ε α) : Prop :=
  ∀ s, p.wp P (fun r tr _ => (∃ a, r = .ok a) ↔ AllAnswered tr) s

section Propagates

variable {P : Platform R σ}

theorem propagates_pure (a : α) : (pure a : Prog R σ ε α).Propagates P :=
  fun _ => iff_of_true ⟨a, rfl⟩ allAnswered_nil

theorem propagates_read (f : σ → α) : (read f : Prog R σ ε α).Propagates P :=
  fun s => iff_of_true ⟨f s, rfl⟩ allAnswered_nil

theorem propagates_modify (u : σ → σ) : (modify u : Prog R σ ε Unit).Propagates P :=
  fun _ => iff_of_true ⟨(), rfl⟩ allAnswered_nil

/-- A call hands on its failure. -/
theorem propagates_invoke (c : C) : (invoke c : Prog R σ ε (R c)).Propagates P := by
  intro s
  refine wp_invoke.mpr ⟨fun _ e => ?_, fun v s' _ => ?_⟩
  · simp [allAnswered_cons]
  · simp [allAnswered_cons, allAnswered_nil]

/-- A failure in the first part ends the program. -/
theorem Propagates.bind {p : Prog R σ ε α} {f : α → Prog R σ ε β} (hp : p.Propagates P)
    (hf : ∀ a, (f a).Propagates P) : (p >>= f).Propagates P := by
  intro s
  refine wp_bind_of (hp s) ?_ ?_
  · intro e tr s' h
    have hno : ¬ AllAnswered tr := fun hok => by
      obtain ⟨a, ha⟩ := h.mpr hok
      cases ha
    exact iff_of_false (by simp) hno
  · intro a tr s' h
    refine wp_mono (hf a s') fun r tr' _ h' => ?_
    rw [h', allAnswered_append]
    exact (and_iff_right (h.mp ⟨a, rfl⟩)).symm

/-- Rethrowing in another form. -/
theorem Propagates.rethrow {p : Prog R σ ε α} (hp : p.Propagates P) (g : ε → ε) :
    (tryCatch p fun e => throw (g e)).Propagates P := by
  intro s
  refine wp_handle.mpr (wp_mono (hp s) ?_)
  rintro (e | a) tr s' h
  · refine wp_throw.mpr ?_
    rw [List.append_nil]
    simpa using h
  · exact h

end Propagates

/-- The run in which every call has the outcome that the script names, if that
outcome is possible. -/
def follow (P : Platform R σ) (script : σ → (c : C) → Except ε (R c)) :
    Prog R σ ε α → σ → Option (List (Event R σ ε) × Except ε α × σ)
  | done r, s => some ([], r, s)
  | step u k, s => (k s).follow P script (u s)
  | call c k, s => do
    let s₁ ← P.perform c s (script s c)
    let (tr, out) ← (k (script s c)).follow P script s₁
    return (⟨s, c, script s c⟩ :: tr, out)

/-- What the script computes is a run. -/
theorem follow_run {script : σ → (c : C) → Except ε (R c)} {p : Prog R σ ε α}
    {tr : List (Event R σ ε)} {r : Except ε α} {s s' : σ}
    (h : p.follow P script s = some (tr, r, s')) : p.Run P s tr r s' := by
  induction p generalizing s tr with
  | done r => simpa [follow, Run, eq_comm] using h
  | step u k ih => exact ih s h
  | call c k ih =>
    simp only [follow, Option.pure_def, Option.bind_eq_bind, Option.bind_eq_some_iff] at h
    obtain ⟨s₁, hp, ⟨rest, out⟩, hk, he⟩ := h
    simp only [Option.some.injEq, Prod.mk.injEq] at he
    obtain ⟨rfl, rfl⟩ := he
    exact ⟨script s c, s₁, rest, hp, rfl, ih _ hk⟩

/-- A run with a property, from the computation that finds it. -/
theorem exists_run_of_follow {script : σ → (c : C) → Except ε (R c)} {p : Prog R σ ε α} {s : σ}
    {q : List (Event R σ ε) × Except ε α × σ → Bool} (h : (p.follow P script s).any q = true) :
    ∃ tr r s', p.Run P s tr r s' ∧ q (tr, r, s') = true := by
  cases hf : p.follow P script s with
  | none =>
    rw [hf] at h
    cases h
  | some out =>
    rw [hf] at h
    exact ⟨out.1, out.2.1, out.2.2, follow_run hf, h⟩

end Prog

end Async
