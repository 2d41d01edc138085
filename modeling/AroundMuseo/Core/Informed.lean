import AroundMuseo.Core.Segments

/-!
# Segments of an operation that remembers

What a segment of an operation guarantees may depend on what its calls have been answered. The
operation keeps a memory of the answers, which each of them may change. Nothing is known of the
state in which a segment starts, and every call may throw.
-/

namespace Async

variable {C : Type} {R : C → Type} {σ ε κ α β : Type}

namespace Prog

/-- With the memory `m`, the segment that started at `s₀`, and is now at `s`, ends within
`guar m`, like every later one within that of its own memory; the last one ends in `Q`. -/
def Informed (P : Platform R σ) (learn : κ → (c : C) → Except ε (R c) → κ)
    (guar : κ → σ → σ → Prop) :
    Prog R σ ε α → (κ → Except ε α → σ → σ → Prop) → κ → σ → σ → Prop
  | done r, Q, m, s₀, s => Q m r s₀ s
  | step u k, Q, m, s₀, s => (k s).Informed P learn guar Q m s₀ (u s)
  | call c k, Q, m, s₀, s =>
    if P.awaited c = true then
      guar m s₀ s ∧ ∀ r s', (k r).Informed P learn guar Q (learn m c r) s' s'
    else ∀ v s', P.effect c s v = some s' → (k (.ok v)).Informed P learn guar Q m s₀ s'

variable {P : Platform R σ} {learn : κ → (c : C) → Except ε (R c) → κ} {guar : κ → σ → σ → Prop}
  {Q Q' : κ → Except ε α → σ → σ → Prop} {m : κ} {s₀ s : σ}

/-- A weaker end. -/
theorem informed_mono {p : Prog R σ ε α} (h : p.Informed P learn guar Q m s₀ s)
    (hQ : ∀ m r s₀ s, Q m r s₀ s → Q' m r s₀ s) : p.Informed P learn guar Q' m s₀ s := by
  induction p generalizing m s₀ s with
  | done r => exact hQ m r s₀ s h
  | step u k ih => exact ih s h
  | call c k ih =>
    rw [Informed] at h ⊢
    split
    case isTrue ha =>
      rw [if_pos ha] at h
      exact ⟨h.1, fun r s' => ih r (h.2 r s')⟩
    case isFalse ha =>
      rw [if_neg ha] at h
      exact fun v s' hv => ih (.ok v) (h v s' hv)

/-- The segment goes on in what follows. -/
theorem informed_andThen {p : Prog R σ ε α} {f : Except ε α → Prog R σ ε β}
    {Q : κ → Except ε β → σ → σ → Prop}
    (h : p.Informed P learn guar (fun m r s₀ s => (f r).Informed P learn guar Q m s₀ s) m s₀ s) :
    (p.andThen f).Informed P learn guar Q m s₀ s := by
  induction p generalizing m s₀ s with
  | done r => exact h
  | step u k ih => exact ih s h
  | call c k ih =>
    rw [Informed] at h
    rw [andThen, Informed]
    split
    case isTrue ha =>
      rw [if_pos ha] at h
      exact ⟨h.1, fun r s' => ih r (h.2 r s')⟩
    case isFalse ha =>
      rw [if_neg ha] at h
      exact fun v s' hv => ih (.ok v) (h v s' hv)

/-- An exception skips what follows. -/
theorem informed_bind {p : Prog R σ ε α} {f : α → Prog R σ ε β}
    {Q : κ → Except ε β → σ → σ → Prop}
    (h : p.Informed P learn guar (fun m r s₀ s => match r with
      | .ok a => (f a).Informed P learn guar Q m s₀ s
      | .error e => Q m (.error e) s₀ s) m s₀ s) : (p >>= f).Informed P learn guar Q m s₀ s := by
  refine informed_andThen (informed_mono h fun m r s₀ s h => ?_)
  cases r <;> exact h

/-- An exception goes on in the handler. -/
theorem informed_handle {p : Prog R σ ε α} {h : ε → Prog R σ ε α}
    (hp : p.Informed P learn guar (fun m r s₀ s => match r with
      | .ok a => Q m (.ok a) s₀ s
      | .error e => (h e).Informed P learn guar Q m s₀ s) m s₀ s) :
    (tryCatch p h).Informed P learn guar Q m s₀ s := by
  refine informed_andThen (informed_mono hp fun m r s₀ s h => ?_)
  cases r <;> exact h

/-- An awaited call ends the segment, and its answer is remembered. -/
theorem informed_invoke {c : C} {Q : κ → Except ε (R c) → σ → σ → Prop} (ha : P.awaited c = true)
    (hguar : guar m s₀ s) (h : ∀ r s', Q (learn m c r) r s' s') :
    (invoke c : Prog R σ ε (R c)).Informed P learn guar Q m s₀ s := by
  rw [invoke, Informed, if_pos ha]
  exact ⟨hguar, h⟩

/-- A synchronous call goes on in the same segment. -/
theorem informed_invoke_sync {c : C} {Q : κ → Except ε (R c) → σ → σ → Prop}
    (ha : P.awaited c = false) (h : ∀ v s', P.effect c s v = some s' → Q m (.ok v) s₀ s') :
    (invoke c : Prog R σ ε (R c)).Informed P learn guar Q m s₀ s := by
  rw [invoke, Informed, if_neg (by simp [ha])]
  exact h

/-- The calls of the program are nothing to remember, and all its segments keep the guarantee of
what is remembered already. -/
theorem Keeps.informed {τ : Type} {ok : C → Prop} {view : σ → τ} {p : Prog R σ ε α}
    (hp : p.Confined ok view) (hok : ∀ c r, ok c → learn m c r = m) (h : p.Keeps P (guar m))
    (hs : guar m s₀ s) :
    p.Informed P learn guar (fun m' _ s₀ s => m' = m ∧ guar m s₀ s) m s₀ s := by
  have hsegments := h s₀ s hs
  clear h hs
  induction p generalizing s₀ s with
  | done r => exact ⟨rfl, hsegments⟩
  | step u k ih => exact ih s (hp.2 s) hsegments
  | call c k ih =>
    rw [Segments] at hsegments
    rw [Informed]
    split
    case isTrue ha =>
      rw [if_pos ha] at hsegments
      refine ⟨hsegments.1, fun r s' => ?_⟩
      rw [hok c r hp.1]
      exact ih r (hp.2 r) (hsegments.2 r s')
    case isFalse ha =>
      rw [if_neg ha] at hsegments
      exact fun v s' hv => ih (.ok v) (hp.2 _) (hsegments v s' hv)

/-- Once no answer changes the memory any more, its guarantee is kept to the end. -/
theorem Informed.segments (hstable : ∀ c r, learn m c r = m) {p : Prog R σ ε α}
    (h : p.Informed P learn guar (fun m _ => guar m) m s₀ s) :
    p.Segments P (guar m) (fun _ => guar m) s₀ s := by
  induction p generalizing s₀ s with
  | done r => exact h
  | step u k ih => exact ih s h
  | call c k ih =>
    rw [Informed] at h
    rw [Segments]
    split
    case isTrue ha =>
      rw [if_pos ha] at h
      refine ⟨h.1, fun r s' => ?_⟩
      have hrest := h.2 r s'
      rw [hstable c r] at hrest
      exact ih r hrest
    case isFalse ha =>
      rw [if_neg ha] at h
      exact fun v s' hv => ih (.ok v) (h v s' hv)

end Prog

/-- What is left of an operation that remembers `m`. -/
def Task.Informed (P : Platform R σ) (learn : κ → (c : C) → Except ε (R c) → κ)
    (guar : κ → σ → σ → Prop) (m : κ) : Task R σ ε → Prop
  | waiting c k => P.awaited c = true ∧
    ∀ r s, (k r).Informed P learn guar (fun m _ => guar m) (learn m c r) s s
  | ready p => ∀ s, p.Informed P learn guar (fun m _ => guar m) m s s
  | finished => True

variable {P : Platform R σ} {learn : κ → (c : C) → Except ε (R c) → κ} {guar : κ → σ → σ → Prop}
  {m : κ}

/-- A segment ends within the guarantee, and leaves a task with the same memory. -/
theorem Prog.Informed.advance {s₀ s s' : σ} {p : Prog R σ ε Unit} {ms : List (Moment R σ ε)}
    {t : Task R σ ε} (hp : p.Informed P learn guar (fun m _ => guar m) m s₀ s)
    (h : p.Advance P s ms t s') : guar m s₀ s' ∧ t.Informed P learn guar m := by
  induction p generalizing s ms with
  | done r =>
    obtain ⟨-, rfl, rfl⟩ := h
    exact ⟨hp, trivial⟩
  | step u k ih => exact ih s hp h
  | call c k ih =>
    rw [Prog.Advance] at h
    rw [Prog.Informed] at hp
    split at h
    case isTrue ha =>
      rw [if_pos ha] at hp
      obtain ⟨-, rfl, rfl⟩ := h
      exact ⟨hp.1, ha, hp.2⟩
    case isFalse ha =>
      rw [if_neg ha] at hp
      obtain ⟨v, s₁, rest, hv, -, hk⟩ := h
      exact ih (.ok v) (hp v s₁ hv) hk

/-- A program that awaits nothing is over after one segment. -/
theorem Prog.Confined.finished_of_sync {τ : Type} {ok : C → Prop} {view : σ → τ}
    (hsync : ∀ c, ok c → P.awaited c = false) {p : Prog R σ ε Unit} (hp : p.Confined ok view)
    {s s' : σ} {ms : List (Moment R σ ε)} {t : Task R σ ε} (h : p.Advance P s ms t s') :
    t = .finished := by
  induction p generalizing s ms with
  | done r => exact h.2.1
  | step u k ih => exact ih s (hp.2 s) h
  | call c k ih =>
    rw [Prog.Advance, if_neg (by simp [hsync c hp.1])] at h
    obtain ⟨v, s₁, rest, -, -, hk⟩ := h
    exact ih (.ok v) (hp.2 _) hk

end Async
