import AroundMuseo.Core.RelyGuarantee

/-!
# One program beside a pool

A program that is looked at on its own while the operations of a pool overlap with it. It
runs synchronously up to a call that it awaits; before that call takes effect, and again
before the program goes on, the pool takes any number of steps. In contrast to a task of
the pool, the program can be cut where its parts begin.
-/

namespace Async

variable {C : Type} {R : C → Type} {σ ε ι α β : Type}

namespace Prog

/-- `p.Beside P body c tr r c'`: the program starts in the pool `c` and finishes with `r` in
the pool `c'`; its calls, and those of the pool meanwhile, are `tr`. -/
def Beside (P : Platform R σ) (body : ι → Prog R σ ε Unit) : Prog R σ ε α → Pool R σ ε ι →
    List (Event R σ ε) → Except ε α → Pool R σ ε ι → Prop
  | done r, c, tr, out, c' => tr = [] ∧ out = r ∧ c' = c
  | step u k, c, tr, out, c' => (k c.state).Beside P body ⟨u c.state, c.tasks⟩ tr out c'
  | call x k, c, tr, out, c' =>
    if P.awaited x = true then
      ∃ c₁ ms₁ r s c₂ ms₂ rest, Pool.Run P body c ms₁ c₁ ∧ P.perform x c₁.state r = some s ∧
        Pool.Run P body ⟨s, c₁.tasks⟩ ms₂ c₂ ∧
        tr = answers ms₁ ++ ⟨c₁.state, x, r⟩ :: (answers ms₂ ++ rest) ∧
        (k r).Beside P body c₂ rest out c'
    else
      ∃ v s rest, P.effect x c.state v = some s ∧ tr = ⟨c.state, x, .ok v⟩ :: rest ∧
        (k (.ok v)).Beside P body ⟨s, c.tasks⟩ rest out c'

variable {P : Platform R σ} {body : ι → Prog R σ ε Unit} {c c' : Pool R σ ε ι}
  {tr : List (Event R σ ε)}

theorem beside_andThen {p : Prog R σ ε α} {f : Except ε α → Prog R σ ε β} {out : Except ε β} :
    (p.andThen f).Beside P body c tr out c' ↔ ∃ tr₁ r c₁ tr₂, p.Beside P body c tr₁ r c₁ ∧
      (f r).Beside P body c₁ tr₂ out c' ∧ tr = tr₁ ++ tr₂ := by
  induction p generalizing c tr with
  | done r =>
    constructor
    · intro h
      exact ⟨[], r, c, tr, ⟨rfl, rfl, rfl⟩, h, rfl⟩
    · rintro ⟨tr₁, r', c₁, tr₂, ⟨rfl, rfl, rfl⟩, h, rfl⟩
      exact h
  | step u k ih => exact ih c.state
  | call x k ih =>
    rw [andThen, Beside]
    split
    case isTrue ha =>
      constructor
      · rintro ⟨c₁, ms₁, r, s, c₂, ms₂, rest, hbefore, hx, hafter, rfl, hk⟩
        obtain ⟨tr₁, r', c₃, tr₂, hp, hf, rfl⟩ := (ih r).mp hk
        refine ⟨answers ms₁ ++ ⟨c₁.state, x, r⟩ :: (answers ms₂ ++ tr₁), r', c₃, tr₂, ?_, hf, ?_⟩
        · rw [Beside, if_pos ha]
          exact ⟨c₁, ms₁, r, s, c₂, ms₂, tr₁, hbefore, hx, hafter, rfl, hp⟩
        · simp only [List.append_assoc, List.cons_append]
      · rintro ⟨tr₁, r', c₃, tr₂, hp, hf, rfl⟩
        rw [Beside, if_pos ha] at hp
        obtain ⟨c₁, ms₁, r, s, c₂, ms₂, rest, hbefore, hx, hafter, rfl, hk⟩ := hp
        refine ⟨c₁, ms₁, r, s, c₂, ms₂, rest ++ tr₂, hbefore, hx, hafter, ?_, ?_⟩
        · simp only [List.append_assoc, List.cons_append]
        · exact (ih r).mpr ⟨rest, r', c₃, tr₂, hk, hf, rfl⟩
    case isFalse ha =>
      constructor
      · rintro ⟨v, s, rest, hx, rfl, hk⟩
        obtain ⟨tr₁, r', c₃, tr₂, hp, hf, rfl⟩ := (ih (.ok v)).mp hk
        refine ⟨⟨c.state, x, .ok v⟩ :: tr₁, r', c₃, tr₂, ?_, hf, rfl⟩
        rw [Beside, if_neg ha]
        exact ⟨v, s, tr₁, hx, rfl, hp⟩
      · rintro ⟨tr₁, r', c₃, tr₂, hp, hf, rfl⟩
        rw [Beside, if_neg ha] at hp
        obtain ⟨v, s, rest, hx, rfl, hk⟩ := hp
        exact ⟨v, s, rest ++ tr₂, hx, rfl, (ih (.ok v)).mpr ⟨rest, r', c₃, tr₂, hk, hf, rfl⟩⟩

/-- The parts of a sequence run one after the other, and an exception ends it. -/
theorem beside_bind {p : Prog R σ ε α} {f : α → Prog R σ ε β} {out : Except ε β} :
    (p >>= f).Beside P body c tr out c' ↔
      (∃ tr₁ a c₁ tr₂, p.Beside P body c tr₁ (.ok a) c₁ ∧ (f a).Beside P body c₁ tr₂ out c' ∧
        tr = tr₁ ++ tr₂) ∨
      ∃ e, p.Beside P body c tr (.error e) c' ∧ out = .error e := by
  rw [bind_eq, Prog.bind, beside_andThen]
  constructor
  · rintro ⟨tr₁, e | a, c₁, tr₂, hp, hf, rfl⟩
    · obtain ⟨rfl, rfl, rfl⟩ := hf
      rw [List.append_nil]
      exact .inr ⟨e, hp, rfl⟩
    · exact .inl ⟨tr₁, a, c₁, tr₂, hp, hf, rfl⟩
  · rintro (⟨tr₁, a, c₁, tr₂, hp, hf, rfl⟩ | ⟨e, hp, rfl⟩)
    · exact ⟨tr₁, .ok a, c₁, tr₂, hp, hf, rfl⟩
    · exact ⟨tr, .error e, c', [], hp, ⟨rfl, rfl, rfl⟩, (List.append_nil tr).symm⟩

theorem beside_read_bind {g : σ → α} {f : α → Prog R σ ε β} {out : Except ε β} :
    (read g >>= f).Beside P body c tr out c' ↔ (f (g c.state)).Beside P body c tr out c' := Iff.rfl

theorem beside_modify {u : σ → σ} {out : Except ε Unit} :
    (modify u).Beside P body c tr out c' ↔ tr = [] ∧ out = .ok () ∧ c' = ⟨u c.state, c.tasks⟩ :=
  Iff.rfl

/-- An awaited call with what the pool does around it. -/
theorem beside_invoke {x : C} (ha : P.awaited x = true) {out : Except ε (R x)} :
    (invoke x).Beside P body c tr out c' ↔ ∃ c₁ ms₁ s ms₂, Pool.Run P body c ms₁ c₁ ∧
      P.perform x c₁.state out = some s ∧ Pool.Run P body ⟨s, c₁.tasks⟩ ms₂ c' ∧
      tr = answers ms₁ ++ ⟨c₁.state, x, out⟩ :: answers ms₂ := by
  rw [invoke, Beside, if_pos ha]
  constructor
  · rintro ⟨c₁, ms₁, r, s, c₂, ms₂, rest, hbefore, hx, hafter, rfl, rfl, rfl, rfl⟩
    rw [List.append_nil]
    exact ⟨c₁, ms₁, s, ms₂, hbefore, hx, hafter, rfl⟩
  · rintro ⟨c₁, ms₁, s, ms₂, hbefore, hx, hafter, rfl⟩
    refine ⟨c₁, ms₁, out, s, c', ms₂, [], hbefore, hx, hafter, ?_, rfl, rfl, rfl⟩
    rw [List.append_nil]

/-- A synchronous call, during which the pool does nothing. -/
theorem beside_invoke_sync {x : C} (ha : P.awaited x = false) {out : Except ε (R x)} :
    (invoke x).Beside P body c tr out c' ↔ ∃ v s, P.effect x c.state v = some s ∧ out = .ok v ∧
      tr = [⟨c.state, x, .ok v⟩] ∧ c' = ⟨s, c.tasks⟩ := by
  rw [invoke, Beside, if_neg (by simp [ha])]
  constructor
  · rintro ⟨v, s, rest, hx, rfl, rfl, rfl, rfl⟩
    exact ⟨v, s, hx, rfl, rfl, rfl⟩
  · rintro ⟨v, s, hx, rfl, rfl, rfl⟩
    exact ⟨v, s, [], hx, rfl, rfl, rfl, rfl⟩

/-- A run of the program alone is one beside a pool that does nothing. -/
theorem Run.beside {p : Prog R σ ε α} {s s' : σ} {out : Except ε α} (h : p.Run P s tr out s')
    (ts : List (ι × Task R σ ε)) : p.Beside P body ⟨s, ts⟩ tr out ⟨s', ts⟩ := by
  induction p generalizing s tr with
  | done r =>
    obtain ⟨rfl, rfl, rfl⟩ := h
    exact ⟨rfl, rfl, rfl⟩
  | step u k ih => exact ih s h
  | call x k ih =>
    obtain ⟨r, s₁, rest, hx, rfl, hk⟩ := h
    rw [Beside]
    split
    case isTrue =>
      exact ⟨⟨s, ts⟩, [], r, s₁, ⟨s₁, ts⟩, [], rest, .nil _, hx, .nil _, rfl, ih r hk⟩
    case isFalse ha =>
      cases r with
      | error e =>
        rw [Platform.perform, if_neg ha] at hx
        cases hx
      | ok v => exact ⟨v, s₁, rest, hx, rfl, ih (.ok v) hk⟩

end Prog

end Async
