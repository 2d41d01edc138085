import AroundMuseo.Core.Segments

/-!
# Flags that get cleared

An operation that sets a flag owes that it will clear it. While it waits, others may clear the
flag or set it again; what counts is that the operation does not finish before it has cleared
the flag itself. Then a flag that is set always has an operation under way that will clear it.
-/

namespace Async

variable {C : Type} {R : C → Type} {σ ε ι α β : Type}

/-- The flag is down, or it was up when the segment began in `s₀` and is not owed. -/
def Paid (flag : σ → Bool) (owed : Bool) (s₀ s : σ) : Prop :=
  flag s = true → flag s₀ = true ∧ owed = false

/-- Nothing is owed and nothing happens. -/
theorem paid_refl (flag : σ → Bool) (s : σ) : Paid flag false s s := fun hs => ⟨hs, rfl⟩

namespace Prog

/-- The segment began in `s₀`, when the flag was `owed` or not, and is now at `s`. Whenever the
program waits it says whether it owes the flag from then on, if it `may` owe it at all, and it
ends in `Q`. -/
def Settles (P : Platform R σ) (flag : σ → Bool) (may : Prop) :
    Prog R σ ε α → (Except ε α → Bool → σ → σ → Prop) → Bool → σ → σ → Prop
  | done r, Q, owed, s₀, s => Q r owed s₀ s
  | step u k, Q, owed, s₀, s => (k s).Settles P flag may Q owed s₀ (u s)
  | call c k, Q, owed, s₀, s =>
    if P.awaited c = true then ∃ owes, (owes = true ∧ may ∨ Paid flag owed s₀ s) ∧
      ∀ r s', (k r).Settles P flag may Q owes s' s'
    else ∀ v s', P.effect c s v = some s' → (k (.ok v)).Settles P flag may Q owed s₀ s'

variable {P : Platform R σ} {flag : σ → Bool} {may : Prop}
  {Q Q' : Except ε α → Bool → σ → σ → Prop} {owed : Bool} {s₀ s : σ}

/-- Less may be said of what is owed at the end. -/
theorem settles_mono {p : Prog R σ ε α} (h : p.Settles P flag may Q owed s₀ s)
    (hQ : ∀ r owed s₀ s, Q r owed s₀ s → Q' r owed s₀ s) : p.Settles P flag may Q' owed s₀ s := by
  induction p generalizing owed s₀ s with
  | done r => exact hQ r owed s₀ s h
  | step u k ih => exact ih s h
  | call c k ih =>
    rw [Settles] at h ⊢
    split
    case isTrue ha =>
      rw [if_pos ha] at h
      obtain ⟨owes, howes, hk⟩ := h
      exact ⟨owes, howes, fun r s' => ih r (hk r s')⟩
    case isFalse ha =>
      rw [if_neg ha] at h
      exact fun v s' hv => ih (.ok v) (h v s' hv)

/-- What the first program still owes goes on to the second. -/
theorem settles_andThen {p : Prog R σ ε α} {f : Except ε α → Prog R σ ε β}
    {Q : Except ε β → Bool → σ → σ → Prop}
    (h : p.Settles P flag may (fun r owed s₀ s => (f r).Settles P flag may Q owed s₀ s) owed s₀ s) :
    (p.andThen f).Settles P flag may Q owed s₀ s := by
  induction p generalizing owed s₀ s with
  | done r => exact h
  | step u k ih => exact ih s h
  | call c k ih =>
    rw [Settles] at h
    rw [andThen, Settles]
    split
    case isTrue ha =>
      rw [if_pos ha] at h
      obtain ⟨owes, howes, hk⟩ := h
      exact ⟨owes, howes, fun r s' => ih r (hk r s')⟩
    case isFalse ha =>
      rw [if_neg ha] at h
      exact fun v s' hv => ih (.ok v) (h v s' hv)

/-- A program that clears what it sets, wherever it stands in a segment. -/
def Solvent (P : Platform R σ) (flag : σ → Bool) (may : Prop) (p : Prog R σ ε α) : Prop :=
  ∀ owed s₀ s, Paid flag owed s₀ s → p.Settles P flag may (fun _ => Paid flag) owed s₀ s

section Solvent

/-- A program that is over owes nothing. -/
theorem solvent_done (r : Except ε α) : (done r : Prog R σ ε α).Solvent P flag may :=
  fun _ _ _ h => h

theorem Solvent.andThen {p : Prog R σ ε α} {f : Except ε α → Prog R σ ε β}
    (hp : p.Solvent P flag may)
    (hf : ∀ r, (f r).Solvent P flag may) : (p.andThen f).Solvent P flag may := by
  intro owed s₀ s h
  apply settles_andThen
  apply settles_mono (hp owed s₀ s h)
  intro r owed s₀ s h
  exact hf r owed s₀ s h

/-- The parts pay for themselves. -/
theorem Solvent.bind {p : Prog R σ ε α} {f : α → Prog R σ ε β} (hp : p.Solvent P flag may)
    (hf : ∀ a, (f a).Solvent P flag may) : (p >>= f).Solvent P flag may := by
  apply Solvent.andThen hp
  rintro (e | a)
  · exact solvent_done _
  · exact hf a

/-- The handler pays for itself. -/
theorem Solvent.handle {p : Prog R σ ε α} {h : ε → Prog R σ ε α} (hp : p.Solvent P flag may)
    (hh : ∀ e, (h e).Solvent P flag may) : (tryCatch p h).Solvent P flag may := by
  apply Solvent.andThen hp
  rintro (e | a)
  · exact hh e
  · exact solvent_done _

theorem Solvent.unawaited {p : Prog R σ ε α} (hp : p.Solvent P flag may) :
    p.unawaited.Solvent P flag may :=
  Solvent.andThen hp fun _ => solvent_done _

end Solvent

end Prog

section Runs

variable {P : Platform R σ} {flag : σ → Bool} {body : ι → Prog R σ ε Unit} {may : ι → Prop}

/-- What is left of an operation, which owes the flag or not. -/
def Task.Settles (P : Platform R σ) (flag : σ → Bool) (may : Prop) (owed : Bool) :
    Task R σ ε → Prop
  | waiting _ k => ∀ r s, (k r).Settles P flag may (fun _ => Paid flag) owed s s
  | ready p => ∀ s, p.Settles P flag may (fun _ => Paid flag) owed s s
  | finished => owed = false

/-- After a segment the flag is owed by what is left, or it was up before and not owed. -/
theorem Prog.Settles.advance {may : Prop} {p : Prog R σ ε Unit} {owed : Bool} {s₀ s s' : σ}
    {ms : List (Moment R σ ε)} {t : Task R σ ε}
    (hp : p.Settles P flag may (fun _ => Paid flag) owed s₀ s) (h : p.Advance P s ms t s') :
    ∃ owes, t.Settles P flag may owes ∧ (owes = true ∧ may ∨ Paid flag owed s₀ s') := by
  induction p generalizing s ms with
  | done r =>
    obtain ⟨-, rfl, rfl⟩ := h
    exact ⟨false, rfl, .inr hp⟩
  | step u k ih => exact ih s hp h
  | call c k ih =>
    rw [Prog.Advance] at h
    rw [Prog.Settles] at hp
    split at h
    case isTrue ha =>
      rw [if_pos ha] at hp
      obtain ⟨-, rfl, rfl⟩ := h
      obtain ⟨owes, howes, hk⟩ := hp
      exact ⟨owes, hk, howes⟩
    case isFalse ha =>
      rw [if_neg ha] at hp
      obtain ⟨v, s₁, rest, hv, -, hk⟩ := h
      exact ih (.ok v) (hp v s₁ hv) hk

/-- Every started operation owes the flag or not, and a flag that is up is owed by one that may
owe it. -/
structure Pool.Covered (P : Platform R σ) (flag : σ → Bool) (may : ι → Prop) (c : Pool R σ ε ι) :
    Prop where
  settles : ∀ x ∈ c.tasks, ∃ owed, x.2.Settles P flag (may x.1) owed
  owed : flag c.state = true → ∃ x ∈ c.tasks, may x.1 ∧ x.2.Settles P flag (may x.1) true

/-- An operation that pays what it owes may start. -/
theorem Pool.Covered.start {s s' : σ} {ts : List (ι × Task R σ ε)} {op : ι}
    {ms : List (Moment R σ ε)} {t : Task R σ ε} (h : Pool.Covered P flag may ⟨s, ts⟩)
    (hop : (body op).Solvent P flag (may op)) (hadv : (body op).Advance P s ms t s') :
    Pool.Covered P flag may ⟨s', ts ++ [(op, t)]⟩ := by
  obtain ⟨owes, ht, hpaid⟩ := (hop false s s (paid_refl flag s)).advance hadv
  refine ⟨List.forall_mem_append.mpr ⟨h.settles, List.forall_mem_singleton.mpr ⟨owes, ht⟩⟩, ?_⟩
  intro hs'
  rcases hpaid with ⟨rfl, hmay⟩ | hpaid
  · exact ⟨(op, t), by simp, hmay, ht⟩
  · obtain ⟨x, hx, howed⟩ := h.owed (hpaid hs').1
    exact ⟨x, List.mem_append_left _ hx, howed⟩

/-- An answer pays nothing and owes nothing. -/
theorem Pool.Covered.serve {s s' : σ} {ts us : List (ι × Task R σ ε)} {op : ι} {c : C}
    {k : Except ε (R c) → Prog R σ ε Unit} {r : Except ε (R c)} (hs : flag s' = flag s)
    (h : Pool.Covered P flag may ⟨s, ts ++ (op, .waiting c k) :: us⟩) :
    Pool.Covered P flag may ⟨s', ts ++ (op, .ready (k r)) :: us⟩ := by
  obtain ⟨hts, ⟨owed, hk⟩, hus⟩ := forall_tasks_iff.mp h.settles
  refine ⟨forall_tasks_iff.mpr ⟨hts, ⟨owed, fun s => hk r s⟩, hus⟩, ?_⟩
  intro hs'
  obtain ⟨x, hx, howed⟩ := h.owed (hs ▸ hs')
  simp only [List.mem_append, List.mem_cons] at hx
  rcases hx with hx | rfl | hx
  · exact ⟨x, by simp [hx], howed⟩
  · exact ⟨(op, .ready (k r)), by simp, howed.1, fun s => howed.2 r s⟩
  · exact ⟨x, by simp [hx], howed⟩

/-- A task that goes on pays what it owes, or goes on owing it. -/
theorem Pool.Covered.resume {s s' : σ} {ts us : List (ι × Task R σ ε)} {op : ι}
    {p : Prog R σ ε Unit} {ms : List (Moment R σ ε)} {t : Task R σ ε}
    (h : Pool.Covered P flag may ⟨s, ts ++ (op, .ready p) :: us⟩) (hadv : p.Advance P s ms t s') :
    Pool.Covered P flag may ⟨s', ts ++ (op, t) :: us⟩ := by
  obtain ⟨hts, ⟨owed, hp⟩, hus⟩ := forall_tasks_iff.mp h.settles
  obtain ⟨owes, ht, hpaid⟩ := (hp s).advance hadv
  refine ⟨forall_tasks_iff.mpr ⟨hts, ⟨owes, ht⟩, hus⟩, ?_⟩
  intro hs'
  rcases hpaid with ⟨rfl, hmay⟩ | hpaid
  · exact ⟨(op, t), by simp, hmay, ht⟩
  · obtain ⟨x, hx, howed⟩ := h.owed (hpaid hs').1
    simp only [List.mem_append, List.mem_cons] at hx
    rcases hx with hx | rfl | hx
    · exact ⟨x, by simp [hx], howed⟩
    · -- the debtor itself goes on, and owes the flag unless it has cleared it
      obtain ⟨owes', ht', hpaid'⟩ := Prog.Settles.advance (howed.2 s) hadv
      rcases hpaid' with ⟨rfl, hmay⟩ | hpaid'
      · exact ⟨(op, t), by simp, hmay, ht'⟩
      · cases (hpaid' hs').2
    · exact ⟨x, by simp [hx], howed⟩

end Runs

end Async
