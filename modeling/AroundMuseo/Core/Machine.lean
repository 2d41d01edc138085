import Mathlib.Data.List.Basic

/-!
# Machines

A machine takes inputs one at a time and answers each with outputs. An input that the state does
not allow cannot happen.
-/

namespace Machine

variable {σ ι ω : Type} {step : σ → ι → Option (σ × List ω)} {s₀ s s' : σ} {os₀ os os' : List ω}
  {inputs : List ι} {i : ι}

/-- The inputs of a run, the state that they lead to and the outputs so far. -/
inductive Run (step : σ → ι → Option (σ × List ω)) (s₀ : σ) (os₀ : List ω) :
    List ι → σ → List ω → Prop
  | nil : Run step s₀ os₀ [] s₀ os₀
  | snoc {inputs : List ι} {s s' : σ} {os os' : List ω} {i : ι}
      (hrun : Run step s₀ os₀ inputs s os) (hstep : step s i = some (s', os')) :
      Run step s₀ os₀ (inputs ++ [i]) s' (os ++ os')

/-- What holds at the start and is kept by every step holds after every run. -/
theorem Run.invariant (Inv : List ι → σ → List ω → Prop) (hinit : Inv [] s₀ os₀)
    (hstep : ∀ inputs s os i s' os', Inv inputs s os → step s i = some (s', os') →
      Inv (inputs ++ [i]) s' (os ++ os'))
    (hrun : Run step s₀ os₀ inputs s os) : Inv inputs s os := by
  induction hrun with
  | nil => exact hinit
  | snoc _ h ih => exact hstep _ _ _ _ _ _ ih h

/-- The run on some inputs, computed. -/
def run (step : σ → ι → Option (σ × List ω)) (s : σ) (os : List ω) : List ι → Option (σ × List ω)
  | [] => some (s, os)
  | i :: inputs => do
    let (s', os') ← step s i
    run step s' (os ++ os') inputs

theorem Run.cons (h : step s₀ i = some (s, os)) (hrun : Run step s (os₀ ++ os) inputs s' os') :
    Run step s₀ os₀ (i :: inputs) s' os' := by
  induction hrun with
  | nil => exact .snoc .nil h
  | snoc _ hs ih => exact .snoc ih hs

theorem run_sound (h : run step s₀ os₀ inputs = some (s, os)) : Run step s₀ os₀ inputs s os := by
  induction inputs generalizing s₀ os₀ with
  | nil =>
    cases h
    exact .nil
  | cons i inputs ih =>
    simp only [run, Option.bind_eq_bind, Option.bind_eq_some_iff] at h
    obtain ⟨⟨s₁, os₁⟩, hstep, hrest⟩ := h
    exact .cons hstep (ih hrest)

end Machine
