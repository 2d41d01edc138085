import AroundMuseo.Core.Pool

/-!
# Named callers

Operations that have names, and of which each sees its own part of the state. Their calls
tell who makes them, so that the history of a pool tells the callers apart.
-/

namespace Async

variable {C : Type} {R : C → Type} {σ τ ε ι α β : Type}

/-- The part of a state that each name sees. -/
structure Parts (ι σ τ : Type) where
  get : ι → τ → σ
  set : ι → σ → τ → τ
  get_set : ∀ i s t, get i (set i s t) = s

/-- Everybody sees the whole state. -/
def Parts.whole (ι σ : Type) : Parts ι σ σ where
  get _ s := s
  set _ s _ := s
  get_set _ _ _ := rfl

/-- A call of a named caller is answered like the call. -/
abbrev NamedReply (ι : Type) (R : C → Type) (c : ι × C) : Type := R c.2

/-- The platform for named callers. -/
def Platform.named (P : Platform R σ) (parts : Parts ι σ τ) : Platform (NamedReply ι R) τ where
  awaited c := P.awaited c.2
  effect c t v := (P.effect c.2 (parts.get c.1 t) v).map fun s => parts.set c.1 s t

section Effect

variable {P : Platform R σ} {parts : Parts ι σ τ} {i : ι} {c : C}

theorem Platform.named_effect_eq_some {t t' : τ} {v : R c} :
    (P.named parts).effect (i, c) t v = some t' ↔
      ∃ s, P.effect c (parts.get i t) v = some s ∧ parts.set i s t = t' :=
  Option.map_eq_some_iff

/-- On the whole state a name changes nothing. -/
theorem Platform.named_whole_effect (P : Platform R σ) (i : ι) (c : C) (s : σ) (v : R c) :
    (P.named (Parts.whole ι σ)).effect (i, c) s v = P.effect c s v :=
  Option.map_id'

theorem Platform.named_whole_perform (P : Platform R σ) (i : ι) (c : C) (s : σ)
    (r : Except ε (R c)) :
    (P.named (Parts.whole ι σ)).perform (i, c) s r = P.perform c s r := by
  cases r with
  | ok v => exact P.named_whole_effect i c s v
  | error e => rfl

end Effect

namespace Prog

/-- The program as the caller `i` runs it. -/
def named (parts : Parts ι σ τ) (i : ι) : Prog R σ ε α → Prog (NamedReply ι R) τ ε α
  | done r => done r
  | step u k =>
    step (fun t => parts.set i (u (parts.get i t)) t) fun t => (k (parts.get i t)).named parts i
  | call c k => call (i, c) fun r => (k r).named parts i

variable {parts : Parts ι σ τ} {i : ι}

/-- What is confined stays so, and its calls have the name. -/
theorem Confined.named {ρ ρ' : Type} {ok : C → Prop} {view : σ → ρ} {view' : τ → ρ'}
    {p : Prog R σ ε α} (hp : p.Confined ok view)
    (hview : ∀ s t, view s = view (parts.get i t) → view' (parts.set i s t) = view' t) :
    (p.named parts i).Confined (fun c => c.1 = i ∧ ok c.2) view' := by
  induction p with
  | done r => trivial
  | step u k ih => exact ⟨fun t => hview _ _ (hp.1 _), fun t => ih _ (hp.2 _)⟩
  | call c k ih => exact ⟨⟨rfl, hp.1⟩, fun r => ih r (hp.2 r)⟩

end Prog

section OneCall

/-- What is left of an operation whose only call is `c`. -/
def Task.MakesOne (c : C) : Task R σ ε → Prop
  | waiting c' k => c' = c ∧ ∀ r, ∃ out, k r = .done out
  | ready p => ∃ out, p = .done out
  | finished => True

/-- The operation waits for an answer. -/
def Task.isWaiting : Task R σ ε → Bool
  | waiting _ _ => true
  | ready _ | finished => false

/-- The operations that do not wait for an answer. -/
def Pool.answered (c : Pool R σ ε ι) : List ι :=
  (c.tasks.filter fun x => !x.2.isWaiting).map Prod.fst

/-- If every operation makes one call and awaits it, then the calls that were answered are those
of the operations that do not wait any more, each once. -/
theorem Pool.Run.calls_perm {P : Platform R σ} {body : ι → Prog R σ ε Unit} {call : ι → C}
    {s₀ : σ} {c : Pool R σ ε ι} {ms : List (Moment R σ ε)}
    (hawaited : ∀ op, P.awaited (call op) = true)
    (hbody : ∀ op, ∃ k, body op = .call (call op) k ∧ ∀ r, ∃ out, k r = .done out)
    (hrun : Pool.Run P body ⟨s₀, []⟩ ms c) :
    ((answers ms).map Event.call).Perm (c.answered.map call) := by
  suffices (∀ x ∈ c.tasks, x.2.MakesOne (call x.1)) ∧
      ((answers ms).map Event.call).Perm (c.answered.map call) from this.2
  refine hrun.invariant (fun c ms => (∀ x ∈ c.tasks, x.2.MakesOne (call x.1)) ∧
    ((answers ms).map Event.call).Perm (c.answered.map call)) ⟨List.forall_mem_nil _, .nil⟩ ?_
  rintro c₁ c₂ ms ms' ⟨htasks, hperm⟩ hstep
  cases hstep with
  | start op h =>
    obtain ⟨k, hcall, hk⟩ := hbody op
    rw [hcall, Prog.Advance, if_pos (hawaited op)] at h
    obtain ⟨rfl, rfl, rfl⟩ := h
    refine ⟨List.forall_mem_append.mpr ⟨htasks, List.forall_mem_singleton.mpr ⟨rfl, hk⟩⟩, ?_⟩
    simpa [answered, Task.isWaiting, answers] using hperm
  | @serve s s' ts us op c k r h =>
    obtain ⟨hts, ⟨hcall, hk⟩, hus⟩ := forall_tasks_iff.mp htasks
    refine ⟨forall_tasks_iff.mpr ⟨hts, hk r, hus⟩, ?_⟩
    rw [answers_append, List.map_append]
    refine (hperm.append_right _).trans ?_
    have hlast := List.perm_append_singleton c ((answered ⟨s, us⟩).map call)
    simpa [answered, Task.isWaiting, answers, ← hcall] using
      hlast.append_left ((answered ⟨s, ts⟩).map call)
  | resume h =>
    obtain ⟨hts, ⟨out, rfl⟩, hus⟩ := forall_tasks_iff.mp htasks
    obtain ⟨rfl, rfl, rfl⟩ := h
    refine ⟨forall_tasks_iff.mpr ⟨hts, trivial, hus⟩, ?_⟩
    simpa [answered, Task.isWaiting] using hperm

end OneCall

end Async
