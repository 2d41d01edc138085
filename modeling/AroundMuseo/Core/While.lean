import Mathlib.Data.List.Chain
import Mathlib.Tactic.Common

/-!
# Loops

`while (guard) body` over the values of the local variables, where a round may throw. The
rules for a loop ask for an invariant of its rounds, and for its termination a variant.
-/

namespace While

variable {σ ε : Type}

/-- `while (guard s) s = body s`, which is given up where a round has no fuel left. -/
def run (guard : σ → Bool) (body : σ → Except ε σ) : Nat → σ → Option (Except ε σ)
  | 0, s => if guard s then none else some (.ok s)
  | fuel + 1, s =>
    if guard s then
      match body s with
      | .ok s' => run guard body fuel s'
      | .error e => some (.error e)
    else some (.ok s)

/-- The states in which the guard is evaluated, one after the other. -/
def heads (guard : σ → Bool) (body : σ → Except ε σ) : Nat → σ → List σ
  | 0, s => [s]
  | fuel + 1, s =>
    if guard s then
      match body s with
      | .ok s' => s :: heads guard body fuel s'
      | .error _ => [s]
    else [s]

/-- How the loop may end. -/
def Post (P : σ → Prop) (E : ε → Prop) : Except ε σ → Prop
  | .ok s => P s
  | .error e => E e

section Rules

variable {guard : σ → Bool} {body : σ → Except ε σ} {fuel fuel' : Nat} {s s' : σ}
  {r r' : Except ε σ}

theorem run_of_guard_false (h : guard s = false) : run guard body fuel s = some (.ok s) := by
  cases fuel <;> simp [run, h]

/-- More fuel makes no difference. -/
theorem run_mono (h : run guard body fuel s = some r) (hle : fuel ≤ fuel') :
    run guard body fuel' s = some r := by
  induction fuel generalizing s fuel' with
  | zero =>
    rw [run] at h
    split at h
    case isTrue => cases h
    case isFalse hguard =>
      rw [run_of_guard_false (Bool.eq_false_iff.mpr hguard), ← h]
  | succ fuel ih =>
    obtain ⟨fuel', rfl⟩ :=
      Nat.exists_eq_add_of_le' (Nat.le_trans (Nat.succ_le_succ fuel.zero_le) hle)
    rw [run] at h ⊢
    by_cases hguard : guard s = true
    · rw [if_pos hguard] at h ⊢
      cases hbody : body s with
      | ok s' =>
        rw [hbody] at h
        exact ih h (Nat.le_of_succ_le_succ hle)
      | error e =>
        rw [hbody] at h
        exact h
    · rw [if_neg hguard] at h ⊢
      exact h

/-- A loop ends in one way at most. -/
theorem run_unique (h : run guard body fuel s = some r) (h' : run guard body fuel' s = some r') :
    r = r' := by
  have hr := run_mono h (Nat.le_max_left fuel fuel')
  have hr' := run_mono h' (Nat.le_max_right fuel fuel')
  rw [hr] at hr'
  exact Option.some.inj hr'

/-- A loop ends when each round keeps the invariant and decreases the variant, or throws. -/
theorem run_of_variant {Inv : σ → Prop} {E : ε → Prop} (variant : σ → Nat)
    (hround : ∀ s, Inv s → guard s = true →
      Post (fun s' => Inv s' ∧ variant s' < variant s) E (body s))
    (hs : Inv s) (hfuel : variant s < fuel) :
    ∃ r, run guard body fuel s = some r ∧ Post (fun s' => Inv s' ∧ guard s' = false) E r := by
  induction fuel generalizing s with
  | zero => exact absurd hfuel (Nat.not_lt_zero _)
  | succ fuel ih =>
    rw [run]
    by_cases hguard : guard s = true
    · rw [if_pos hguard]
      have hnext := hround s hs hguard
      cases hbody : body s with
      | ok s' =>
        rw [hbody] at hnext
        obtain ⟨hs', hless⟩ := hnext
        exact ih hs' (Nat.lt_of_lt_of_le hless (Nat.le_of_lt_succ hfuel))
      | error e =>
        rw [hbody] at hnext
        exact ⟨.error e, rfl, hnext⟩
    · rw [if_neg hguard]
      exact ⟨.ok s, rfl, hs, Bool.eq_false_iff.mpr hguard⟩

/-- A loop does not end when each round keeps an invariant under which the guard holds. -/
theorem run_eq_none (Inv : σ → Prop) (hguard : ∀ s, Inv s → guard s = true)
    (hround : ∀ s, Inv s → ∃ s', body s = .ok s' ∧ Inv s') (hs : Inv s) :
    run guard body fuel s = none := by
  induction fuel generalizing s with
  | zero => rw [run, if_pos (hguard s hs)]
  | succ fuel ih =>
    obtain ⟨s', hbody, hs'⟩ := hround s hs
    rw [run, if_pos (hguard s hs), hbody]
    exact ih hs'

theorem heads_eq_cons : ∃ rest, heads guard body fuel s = s :: rest := by
  cases fuel with
  | zero => exact ⟨[], rfl⟩
  | succ fuel =>
    rw [heads]
    split
    · cases body s with
      | ok s' => exact ⟨_, rfl⟩
      | error e => exact ⟨[], rfl⟩
    · exact ⟨[], rfl⟩

/-- Two successive states are related as a round relates them. -/
theorem isChain_heads {Rel : σ → σ → Prop}
    (hround : ∀ s s', guard s = true → body s = .ok s' → Rel s s') :
    (heads guard body fuel s).IsChain Rel := by
  induction fuel generalizing s with
  | zero => exact .singleton s
  | succ fuel ih =>
    rw [heads]
    split
    case isFalse => exact .singleton s
    case isTrue hguard =>
      cases hbody : body s with
      | error e => exact .singleton s
      | ok s' =>
        obtain ⟨rest, hrest⟩ : ∃ rest, heads guard body fuel s' = s' :: rest := heads_eq_cons
        have hchain : (heads guard body fuel s').IsChain Rel := ih
        simp only
        rw [hrest] at hchain ⊢
        exact .cons_cons (hround s s' hguard hbody) hchain

/-- What holds at the start and is kept by each round holds of all of them. -/
theorem forall_mem_heads {Inv : σ → Prop}
    (hround : ∀ s s', Inv s → guard s = true → body s = .ok s' → Inv s') (hs : Inv s) :
    ∀ s' ∈ heads guard body fuel s, Inv s' := by
  induction fuel generalizing s with
  | zero => exact List.forall_mem_singleton.mpr hs
  | succ fuel ih =>
    rw [heads]
    split
    case isFalse => exact List.forall_mem_singleton.mpr hs
    case isTrue hguard =>
      cases hbody : body s with
      | error e => exact List.forall_mem_singleton.mpr hs
      | ok s' => exact List.forall_mem_cons.mpr ⟨hs, ih (hround s s' hs hguard hbody)⟩

/-- The last one is that in which the loop ended. -/
theorem getLast?_heads (h : run guard body fuel s = some (.ok s')) :
    (heads guard body fuel s).getLast? = some s' := by
  induction fuel generalizing s with
  | zero =>
    rw [run] at h
    split at h
    case isTrue => cases h
    case isFalse =>
      cases h
      rfl
  | succ fuel ih =>
    rw [run] at h
    rw [heads]
    by_cases hguard : guard s = true
    · rw [if_pos hguard] at h ⊢
      cases hbody : body s with
      | error e =>
        rw [hbody] at h
        cases h
      | ok s₁ =>
        rw [hbody] at h
        simp only
        rw [List.getLast?_cons, ih h, Option.getD_some]
    · rw [if_neg hguard] at h ⊢
      cases h
      rfl

end Rules

end While
