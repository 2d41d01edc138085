import AroundMuseo.Core.Closed
import AroundMuseo.Core.Pool

/-!
# Invariants of the history

An invariant may relate the state to the calls that led to it. It need not hold in the middle of a
synchronous segment, only where others may run. What an operation knows while it waits are facts
that all the others keep: each segment changes the state within one relation on which all rely.
-/

namespace Async

variable {C : Type} {R : C → Type} {σ ε ι α β : Type}

/-- In the history the call was answered so, where the invariant held. -/
def Served (P : Platform R σ) (Inv : List (Moment R σ ε) → σ → Prop) (c : C) (r : Except ε (R c))
    (ms : List (Moment R σ ε)) : Prop :=
  ∃ before s s' after, ms = before ++ .answered ⟨s, c, r⟩ :: after ∧ Inv before s ∧
    P.perform c s r = some s'

/-- An answer stays given. -/
theorem Served.append {P : Platform R σ} {Inv : List (Moment R σ ε) → σ → Prop} {c : C}
    {r : Except ε (R c)} {ms : List (Moment R σ ε)} (h : Served P Inv c r ms)
    (ms' : List (Moment R σ ε)) : Served P Inv c r (ms ++ ms') := by
  obtain ⟨before, s, s', after, rfl, hinv, hr⟩ := h
  exact ⟨before, s, s', after ++ ms', by simp, hinv, hr⟩

namespace Prog

/-- After the moments `ms`, in a segment that began at `s₀` and has come to `s`, the program goes
on so that each of its segments ends with the invariant and is within `rely`; it ends in `Q`. -/
def Upholds (P : Platform R σ) (Inv : List (Moment R σ ε) → σ → Prop) (rely : σ → σ → Prop) :
    Prog R σ ε α → (Except ε α → List (Moment R σ ε) → σ → σ → Prop) →
      List (Moment R σ ε) → σ → σ → Prop
  | done r, Q, ms, s₀, s => Q r ms s₀ s
  | step u k, Q, ms, s₀, s => (k s).Upholds P Inv rely Q ms s₀ (u s)
  | call c k, Q, ms, s₀, s =>
    if P.awaited c = true then (Inv (ms ++ [.issued s c]) s ∧ rely s₀ s) ∧
      ∀ r ms' s', Served P Inv c r ms' → rely s s' → Inv ms' s' →
        (k r).Upholds P Inv rely Q ms' s' s'
    else ∀ a s', P.effect c s a = some s' →
      (k (.ok a)).Upholds P Inv rely Q (ms ++ [.answered ⟨s, c, .ok a⟩]) s₀ s'

variable {P : Platform R σ} {Inv : List (Moment R σ ε) → σ → Prop} {rely : σ → σ → Prop}
  {Q Q' : Except ε α → List (Moment R σ ε) → σ → σ → Prop} {ms : List (Moment R σ ε)} {s₀ s : σ}

/-- Less may be said of the history at the end. -/
theorem upholds_mono {p : Prog R σ ε α} (h : p.Upholds P Inv rely Q ms s₀ s)
    (hQ : ∀ r ms s₀ s, Q r ms s₀ s → Q' r ms s₀ s) : p.Upholds P Inv rely Q' ms s₀ s := by
  induction p generalizing ms s₀ s with
  | done r => exact hQ r ms s₀ s h
  | step u k ih => exact ih s h
  | call c k ih =>
    rw [Upholds] at h ⊢
    split
    case isTrue ha =>
      rw [if_pos ha] at h
      exact ⟨h.1, fun r ms' s' hr hs' hinv => ih r (h.2 r ms' s' hr hs' hinv)⟩
    case isFalse ha =>
      rw [if_neg ha] at h
      exact fun a s' hv => ih (.ok a) (h a s' hv)

/-- The second program goes on where the first ends. -/
theorem upholds_andThen {p : Prog R σ ε α} {f : Except ε α → Prog R σ ε β}
    {Q : Except ε β → List (Moment R σ ε) → σ → σ → Prop}
    (h : p.Upholds P Inv rely (fun r ms s₀ s => (f r).Upholds P Inv rely Q ms s₀ s) ms s₀ s) :
    (p.andThen f).Upholds P Inv rely Q ms s₀ s := by
  induction p generalizing ms s₀ s with
  | done r => exact h
  | step u k ih => exact ih s h
  | call c k ih =>
    rw [Upholds] at h
    rw [andThen, Upholds]
    split
    case isTrue ha =>
      rw [if_pos ha] at h
      exact ⟨h.1, fun r ms' s' hr hs' hinv => ih r (h.2 r ms' s' hr hs' hinv)⟩
    case isFalse ha =>
      rw [if_neg ha] at h
      exact fun a s' hv => ih (.ok a) (h a s' hv)

/-- The continuation starts with the history so far. -/
theorem upholds_bind {p : Prog R σ ε α} {f : α → Prog R σ ε β}
    {Q : Except ε β → List (Moment R σ ε) → σ → σ → Prop}
    (h : p.Upholds P Inv rely (fun r ms s₀ s => match r with
      | .ok a => (f a).Upholds P Inv rely Q ms s₀ s
      | .error e => Q (.error e) ms s₀ s) ms s₀ s) : (p >>= f).Upholds P Inv rely Q ms s₀ s := by
  apply upholds_andThen
  apply upholds_mono h
  intro r ms s₀ s h
  cases r <;> exact h

/-- So does the handler. -/
theorem upholds_handle {p : Prog R σ ε α} {h : ε → Prog R σ ε α}
    (hp : p.Upholds P Inv rely (fun r ms s₀ s => match r with
      | .ok a => Q (.ok a) ms s₀ s
      | .error e => (h e).Upholds P Inv rely Q ms s₀ s) ms s₀ s) :
    (tryCatch p h).Upholds P Inv rely Q ms s₀ s := by
  apply upholds_andThen
  apply upholds_mono hp
  intro r ms s₀ s h
  cases r <;> exact h

theorem upholds_modify_bind {u : σ → σ} {f : Unit → Prog R σ ε α} :
    (modify u >>= f).Upholds P Inv rely Q ms s₀ s ↔
      (f ()).Upholds P Inv rely Q ms s₀ (u s) := Iff.rfl

theorem upholds_read_bind {g : σ → β} {f : β → Prog R σ ε α} :
    (read g >>= f).Upholds P Inv rely Q ms s₀ s ↔
      (f (g s)).Upholds P Inv rely Q ms s₀ s := Iff.rfl

/-- An awaited call ends a segment. -/
theorem upholds_invoke {c : C} {Q : Except ε (R c) → List (Moment R σ ε) → σ → σ → Prop}
    (ha : P.awaited c = true) (hinv : Inv (ms ++ [.issued s c]) s) (hrely : rely s₀ s)
    (h : ∀ r ms' s', Served P Inv c r ms' → rely s s' → Inv ms' s' → Q r ms' s' s') :
    (invoke c).Upholds P Inv rely Q ms s₀ s := by
  rw [invoke, Upholds, if_pos ha]
  exact ⟨⟨hinv, hrely⟩, h⟩

/-- A synchronous call. -/
theorem upholds_invoke_sync {c : C} {Q : Except ε (R c) → List (Moment R σ ε) → σ → σ → Prop}
    (ha : P.awaited c = false)
    (h : ∀ a s', P.effect c s a = some s' → Q (.ok a) (ms ++ [.answered ⟨s, c, .ok a⟩]) s₀ s') :
    (invoke c).Upholds P Inv rely Q ms s₀ s := by
  rw [invoke, Upholds, if_neg (by simp [ha])]
  exact h

/-- Where the invariant holds, the program upholds it to its end. -/
def Steady (P : Platform R σ) (Inv : List (Moment R σ ε) → σ → Prop) (rely : σ → σ → Prop)
    (p : Prog R σ ε α) : Prop :=
  ∀ ms s₀ s, Inv ms s → rely s₀ s →
    p.Upholds P Inv rely (fun _ ms s₀ s => Inv ms s ∧ rely s₀ s) ms s₀ s

/-- Keeping an invariant of the history follows the structure. -/
theorem closed_steady (P : Platform R σ) (Inv : List (Moment R σ ε) → σ → Prop)
    (rely : σ → σ → Prop) : Closed fun {α} (p : Prog R σ ε α) => p.Steady P Inv rely where
  done _ _ _ _ hinv hrely := ⟨hinv, hrely⟩
  read _ _ _ _ hinv hrely := ⟨hinv, hrely⟩
  andThen hp hf ms s₀ s hinv hrely := by
    apply upholds_andThen
    apply upholds_mono (hp ms s₀ s hinv hrely)
    intro r ms s₀ s h
    exact hf r ms s₀ s h.1 h.2

/-- What follows may depend on what the results are like. -/
theorem steady_bind_of {p : Prog R σ ε α} {f : α → Prog R σ ε β} {post : α → Prop}
    (hp : ∀ ms s₀ s, Inv ms s → rely s₀ s → p.Upholds P Inv rely (fun r ms s₀ s =>
      (Inv ms s ∧ rely s₀ s) ∧ ∀ a, r = .ok a → post a) ms s₀ s)
    (hf : ∀ a, post a → (f a).Steady P Inv rely) : (p >>= f).Steady P Inv rely := by
  intro ms s₀ s hinv hrely
  apply upholds_bind
  apply upholds_mono (hp ms s₀ s hinv hrely)
  intro r ms s₀ s h
  cases r with
  | ok a => exact hf a (h.2 a rfl) ms s₀ s h.1.1 h.1.2
  | error e => exact h.1

/-- An update that keeps the invariant by itself. -/
theorem steady_modify {u : σ → σ} (hinv : ∀ ms s, Inv ms s → Inv ms (u s))
    (hrely : ∀ s₀ s, rely s₀ s → rely s₀ (u s)) :
    (modify u : Prog R σ ε Unit).Steady P Inv rely :=
  fun ms s₀ s h hs => ⟨hinv ms s h, hrely s₀ s hs⟩

/-- A call that keeps the invariant. -/
theorem steady_invoke {c : C} (hrefl : ∀ s, rely s s)
    (hissued : ∀ ms s, Inv ms s → Inv (ms ++ [.issued s c]) s)
    (heffect : P.awaited c = false → ∀ ms s₀ s a s', P.effect c s a = some s' → Inv ms s →
      rely s₀ s → Inv (ms ++ [.answered ⟨s, c, .ok a⟩]) s' ∧ rely s₀ s') :
    (invoke c : Prog R σ ε (R c)).Steady P Inv rely := by
  intro ms s₀ s hinv hrely
  by_cases ha : P.awaited c = true
  · apply upholds_invoke ha (hissued ms s hinv) hrely
    exact fun r ms' s' _ _ hinv' => ⟨hinv', hrefl s'⟩
  · rw [Bool.not_eq_true] at ha
    apply upholds_invoke_sync ha
    exact fun a s' hv => heffect ha ms s₀ s a s' hv hinv hrely

end Prog

section Runs

variable {P : Platform R σ} {Inv : List (Moment R σ ε) → σ → Prop} {rely : σ → σ → Prop}

/-- What is left of an operation after some moments upholds the invariant, if the others do. -/
def Task.Upholds (P : Platform R σ) (Inv : List (Moment R σ ε) → σ → Prop) (rely : σ → σ → Prop) :
    Task R σ ε → List (Moment R σ ε) → σ → Prop
  | waiting c k, ms, s => (P.awaited c = true ∧ ∃ s₀, .issued s₀ c ∈ ms) ∧
      ∀ r ms' s', Served P Inv c r ms' → rely s s' → Inv ms' s' →
        (k r).Upholds P Inv rely (fun _ ms s₀ s => Inv ms s ∧ rely s₀ s) ms' s' s'
  | ready p, ms, s => ∀ ms' s', ms <+: ms' → rely s s' → Inv ms' s' →
      p.Upholds P Inv rely (fun _ ms s₀ s => Inv ms s ∧ rely s₀ s) ms' s' s'
  | finished, _, _ => True

/-- The segment of a program that upholds the invariant. -/
theorem Prog.Upholds.advance {p : Prog R σ ε Unit} {ms ms' : List (Moment R σ ε)} {s₀ s s' : σ}
    {t : Task R σ ε}
    (hp : p.Upholds P Inv rely (fun _ ms s₀ s => Inv ms s ∧ rely s₀ s) ms s₀ s)
    (h : p.Advance P s ms' t s') :
    t.Upholds P Inv rely (ms ++ ms') s' ∧ Inv (ms ++ ms') s' ∧ rely s₀ s' := by
  induction p generalizing ms s ms' with
  | done r =>
    obtain ⟨rfl, rfl, rfl⟩ := h
    rw [List.append_nil]
    exact ⟨trivial, hp⟩
  | step u k ih => exact ih s hp h
  | call c k ih =>
    rw [Prog.Advance] at h
    rw [Prog.Upholds] at hp
    split at h
    case isTrue ha =>
      rw [if_pos ha] at hp
      obtain ⟨rfl, rfl, rfl⟩ := h
      exact ⟨⟨⟨ha, _, List.mem_append_right _ (List.mem_singleton_self _)⟩, hp.2⟩, hp.1⟩
    case isFalse ha =>
      rw [if_neg ha] at hp
      obtain ⟨a, s₁, rest, hv, rfl, hk⟩ := h
      have hrest := ih (.ok a) (hp a s₁ hv) hk
      rw [List.append_assoc] at hrest
      exact hrest

/-- The others go on. -/
theorem Task.Upholds.of_rely (htrans : ∀ s₁ s₂ s₃, rely s₁ s₂ → rely s₂ s₃ → rely s₁ s₃)
    {t : Task R σ ε} {ms : List (Moment R σ ε)} {s s' : σ} (h : t.Upholds P Inv rely ms s)
    (hs : rely s s') (ms' : List (Moment R σ ε)) : t.Upholds P Inv rely (ms ++ ms') s' := by
  cases t with
  | waiting c k =>
    obtain ⟨⟨ha, s₀, hissued⟩, hk⟩ := h
    refine ⟨⟨ha, s₀, List.mem_append_left _ hissued⟩, ?_⟩
    exact fun r ms₁ s₁ hr hs₁ => hk r ms₁ s₁ hr (htrans _ _ _ hs hs₁)
  | ready p =>
    intro ms₁ s₁ hprefix hs₁
    exact h ms₁ s₁ ((List.prefix_append ms ms').trans hprefix) (htrans _ _ _ hs hs₁)
  | finished => trivial

variable {body : ι → Prog R σ ε Unit}

/-- The tasks uphold the invariant, which holds. -/
structure Pool.Upholds (P : Platform R σ) (Inv : List (Moment R σ ε) → σ → Prop)
    (rely : σ → σ → Prop) (c : Pool R σ ε ι) (ms : List (Moment R σ ε)) : Prop where
  tasks : ∀ x ∈ c.tasks, x.2.Upholds P Inv rely ms c.state
  inv : Inv ms c.state

/-- Before anything has started only the invariant is at stake. -/
theorem Pool.upholds_start {s₀ : σ} (hinit : Inv [] s₀) :
    Pool.Upholds P Inv rely (⟨s₀, []⟩ : Pool R σ ε ι) [] :=
  ⟨List.forall_mem_nil _, hinit⟩

/-- If every operation and every answer upholds the invariant, then every run does, and the state
changes as all rely on. -/
theorem Pool.Run.upholds (hrefl : ∀ s, rely s s)
    (htrans : ∀ s₁ s₂ s₃, rely s₁ s₂ → rely s₂ s₃ → rely s₁ s₃)
    (hbody : ∀ op, (body op).Steady P Inv rely)
    (hserve : ∀ (c : C) (ms : List (Moment R σ ε)) (s₀ s s' : σ) (r : Except ε (R c)),
      P.awaited c = true → .issued s₀ c ∈ ms → P.perform c s r = some s' → Inv ms s →
        Inv (ms ++ [.answered ⟨s, c, r⟩]) s' ∧ rely s s')
    {c₀ c : Pool R σ ε ι} {ms₀ ms : List (Moment R σ ε)} (hrun : Pool.Run P body c₀ ms c)
    (hstart : c₀.Upholds P Inv rely ms₀) :
    c.Upholds P Inv rely (ms₀ ++ ms) ∧ rely c₀.state c.state := by
  refine hrun.invariant (fun c ms => c.Upholds P Inv rely (ms₀ ++ ms) ∧ rely c₀.state c.state)
    ⟨by rwa [List.append_nil], hrefl _⟩ ?_
  intro c₁ c₂ ms ms' ⟨⟨htasks, hinv⟩, hfrom⟩ hstep
  rw [← List.append_assoc]
  have hkept {ms : List (Moment R σ ε)} {s s' : σ} (ts : List (ι × Task R σ ε))
      (hts : ∀ x ∈ ts, x.2.Upholds P Inv rely ms s) (hs : rely s s') (ms' : List (Moment R σ ε)) :
      ∀ x ∈ ts, x.2.Upholds P Inv rely (ms ++ ms') s' :=
    fun x hx => (hts x hx).of_rely htrans hs ms'
  cases hstep with
  | start op h =>
    obtain ⟨ht, hinv', hrely⟩ := (hbody op _ _ _ hinv (hrefl _)).advance h
    refine ⟨⟨?_, hinv'⟩, htrans _ _ _ hfrom hrely⟩
    exact List.forall_mem_append.mpr ⟨hkept _ htasks hrely _, List.forall_mem_singleton.mpr ht⟩
  | @serve s s' ts us op call k r h =>
    obtain ⟨hts, hwaiting, hus⟩ := forall_tasks_iff.mp htasks
    obtain ⟨⟨ha, s₀, hissued⟩, hk⟩ := hwaiting
    obtain ⟨hinv', hrely⟩ := hserve call _ s₀ s s' r ha hissued h hinv
    have hready :
        (Task.ready (k r)).Upholds P Inv rely (ms₀ ++ ms ++ [.answered ⟨s, call, r⟩]) s' := by
      rintro _ s₁ ⟨after, rfl⟩ hs₁
      apply hk r _ s₁ _ (htrans _ _ _ hrely hs₁)
      exact Served.append ⟨ms₀ ++ ms, s, s', [], rfl, hinv, h⟩ after
    refine ⟨⟨?_, hinv'⟩, htrans _ _ _ hfrom hrely⟩
    exact forall_tasks_iff.mpr ⟨hkept _ hts hrely _, hready, hkept _ hus hrely _⟩
  | @resume s s' ts us op p _ t h =>
    obtain ⟨hts, hready, hus⟩ := forall_tasks_iff.mp htasks
    obtain ⟨ht, hinv', hrely⟩ := (hready _ s List.prefix_rfl (hrefl s) hinv).advance h
    refine ⟨⟨?_, hinv'⟩, htrans _ _ _ hfrom hrely⟩
    exact forall_tasks_iff.mpr ⟨hkept _ hts hrely _, ht, hkept _ hus hrely _⟩

end Runs

end Async
