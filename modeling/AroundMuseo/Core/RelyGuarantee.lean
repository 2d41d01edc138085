import AroundMuseo.Core.Pool
import Mathlib.Data.Multiset.AddSub

/-!
# Rely and guarantee

How to reason about one operation of a pool at a time. The steps of the others change
the state within a relation that the operation relies on; in turn each of its own
synchronous segments, and each effect of its calls, keeps a guarantee, and its last
segment another one. Invariants follow by looking at the guarantees alone. The rules are
about runs in which every call is answered.
-/

namespace Async

variable {C : Type} {R : C → Type} {σ ε ι α β : Type}

namespace Prog

/-- Started at `s₀` and now at `s` the program keeps `guar` with every finished segment,
and ends in `Q` of its last segment, whatever the others do within `rely`. -/
def Guarded (P : Platform R σ) (rely guar : σ → σ → Prop) :
    Prog R σ ε α → (Except ε α → σ → σ → Prop) → σ → σ → Prop
  | done r, Q, s₀, s => Q r s₀ s
  | step u k, Q, s₀, s => (k s).Guarded P rely guar Q s₀ (u s)
  | call c k, Q, s₀, s =>
    if P.awaited c = true then
      guar s₀ s ∧ ∀ s₁, rely s s₁ → ∀ v s₂, P.effect c s₁ v = some s₂ →
        guar s₁ s₂ ∧ ∀ s₃, rely s₂ s₃ → (k (.ok v)).Guarded P rely guar Q s₃ s₃
    else ∀ v s', P.effect c s v = some s' → (k (.ok v)).Guarded P rely guar Q s₀ s'

variable {P : Platform R σ} {rely guar : σ → σ → Prop} {Q Q' : Except ε α → σ → σ → Prop}
  {s₀ s : σ}

/-- The postcondition may be weakened. -/
theorem guarded_mono {p : Prog R σ ε α} (h : p.Guarded P rely guar Q s₀ s)
    (hQ : ∀ r s₀ s, Q r s₀ s → Q' r s₀ s) : p.Guarded P rely guar Q' s₀ s := by
  induction p generalizing s₀ s with
  | done r => exact hQ r s₀ s h
  | step u k ih => exact ih s h
  | call c k ih =>
    rw [Guarded] at h ⊢
    split
    case isTrue ha =>
      rw [if_pos ha] at h
      refine ⟨h.1, fun s₁ hs₁ v s₂ hv => ?_⟩
      obtain ⟨hg, hk⟩ := h.2 s₁ hs₁ v s₂ hv
      exact ⟨hg, fun s₃ hs₃ => ih (.ok v) (hk s₃ hs₃)⟩
    case isFalse ha =>
      rw [if_neg ha] at h
      exact fun v s' hv => ih (.ok v) (h v s' hv)

/-- The second program goes on where the first ends. -/
theorem guarded_andThen {p : Prog R σ ε α} {f : Except ε α → Prog R σ ε β}
    {Q : Except ε β → σ → σ → Prop}
    (h : p.Guarded P rely guar (fun r s₀ s => (f r).Guarded P rely guar Q s₀ s) s₀ s) :
    (p.andThen f).Guarded P rely guar Q s₀ s := by
  induction p generalizing s₀ s with
  | done r => exact h
  | step u k ih => exact ih s h
  | call c k ih =>
    rw [Guarded] at h
    rw [andThen, Guarded]
    split
    case isTrue ha =>
      rw [if_pos ha] at h
      refine ⟨h.1, fun s₁ hs₁ v s₂ hv => ?_⟩
      obtain ⟨hg, hk⟩ := h.2 s₁ hs₁ v s₂ hv
      exact ⟨hg, fun s₃ hs₃ => ih (.ok v) (hk s₃ hs₃)⟩
    case isFalse ha =>
      rw [if_neg ha] at h
      exact fun v s' hv => ih (.ok v) (h v s' hv)

/-- An exception skips the continuation. -/
theorem guarded_bind {p : Prog R σ ε α} {f : α → Prog R σ ε β} {Q : Except ε β → σ → σ → Prop}
    (h : p.Guarded P rely guar (fun r s₀ s => match r with
      | .ok a => (f a).Guarded P rely guar Q s₀ s
      | .error e => Q (.error e) s₀ s) s₀ s) : (p >>= f).Guarded P rely guar Q s₀ s := by
  refine guarded_andThen (guarded_mono h fun r s₀ s h => ?_)
  cases r <;> exact h

/-- An exception goes on in the handler. -/
theorem guarded_handle {p : Prog R σ ε α} {h : ε → Prog R σ ε α}
    (hp : p.Guarded P rely guar (fun r s₀ s => match r with
      | .ok a => Q (.ok a) s₀ s
      | .error e => (h e).Guarded P rely guar Q s₀ s) s₀ s) :
    (tryCatch p h).Guarded P rely guar Q s₀ s := by
  refine guarded_andThen (guarded_mono hp fun r s₀ s h => ?_)
  cases r <;> exact h

/-- The finaliser runs in any case, and its own exception wins. -/
theorem guarded_ensure {p : Prog R σ ε α} {q : Prog R σ ε Unit}
    (h : p.Guarded P rely guar (fun r s₀ s => q.Guarded P rely guar (fun r' s₀ s => match r' with
      | .ok _ => Q r s₀ s
      | .error e => Q (.error e) s₀ s) s₀ s) s₀ s) :
    (p.ensure q).Guarded P rely guar Q s₀ s := by
  refine guarded_andThen (guarded_mono h fun r s₀ s h => ?_)
  refine guarded_bind (guarded_mono h fun r' s₀ s h => ?_)
  cases r' <;> exact h

theorem guarded_modify_bind {u : σ → σ} {f : Unit → Prog R σ ε β}
    {Q : Except ε β → σ → σ → Prop} : (modify u >>= f).Guarded P rely guar Q s₀ s ↔
      (f ()).Guarded P rely guar Q s₀ (u s) := Iff.rfl

theorem guarded_read_bind {g : σ → α} {f : α → Prog R σ ε β} {Q : Except ε β → σ → σ → Prop} :
    (read g >>= f).Guarded P rely guar Q s₀ s ↔ (f (g s)).Guarded P rely guar Q s₀ s := Iff.rfl

/-- An awaited call: the segment before it ends, the call takes effect in a state of its
own, and the next segment starts in another one. -/
theorem guarded_invoke {c : C} {Q : Except ε (R c) → σ → σ → Prop} (ha : P.awaited c = true)
    (hg : guar s₀ s)
    (h : ∀ s₁, rely s s₁ → ∀ v s₂, P.effect c s₁ v = some s₂ →
      guar s₁ s₂ ∧ ∀ s₃, rely s₂ s₃ → Q (.ok v) s₃ s₃) :
    (invoke c).Guarded P rely guar Q s₀ s := by
  rw [invoke, Guarded, if_pos ha]
  exact ⟨hg, h⟩

/-- A synchronous call. -/
theorem guarded_invoke_sync {c : C} {Q : Except ε (R c) → σ → σ → Prop}
    (ha : P.awaited c = false) (h : ∀ v s', P.effect c s v = some s' → Q (.ok v) s₀ s') :
    (invoke c).Guarded P rely guar Q s₀ s := by
  rw [invoke, Guarded, if_neg (by simp [ha])]
  exact h

/-- A program that keeps a view keeps the guarantee, if that speaks of the view only. -/
theorem Confined.guarded {τ : Type} {ok : C → Prop} {view : σ → τ} (hrefl : ∀ s, guar s s)
    (hrely : ∀ s₁ s₂ s₃, rely s₁ s₂ → rely s₂ s₃ → rely s₁ s₃)
    (hview : ∀ s₀ s s', guar s₀ s → view s' = view s → guar s₀ s')
    (hstep : ∀ s s', view s' = view s → rely s s')
    (hcall : ∀ c s v s', ok c → P.effect c s v = some s' → view s' = view s)
    {p : Prog R σ ε α} (hp : p.Confined ok view) {s₀ s : σ} (hs : guar s₀ s) :
    p.Guarded P rely guar (fun _ s₁ s' => guar s₁ s' ∧ rely s s') s₀ s := by
  induction p generalizing s₀ s with
  | done r => exact ⟨hs, hstep s s rfl⟩
  | step u k ih =>
    have hu : view (u s) = view s := hp.1 s
    exact guarded_mono (ih s (hp.2 s) (hview s₀ s (u s) hs hu)) fun r s₁ s' h =>
      ⟨h.1, hrely s (u s) s' (hstep s (u s) hu) h.2⟩
  | call c k ih =>
    rw [Guarded]
    split
    · refine ⟨hs, fun s₁ hs₁ v s₂ hv => ?_⟩
      have h₂ : view s₂ = view s₁ := hcall c s₁ v s₂ hp.1 hv
      refine ⟨hview s₁ s₁ s₂ (hrefl s₁) h₂, fun s₃ hs₃ => ?_⟩
      have hs₀ : rely s s₃ := hrely s s₁ s₃ hs₁ (hrely s₁ s₂ s₃ (hstep s₁ s₂ h₂) hs₃)
      exact guarded_mono (ih (.ok v) (hp.2 _) (hrefl s₃)) fun r s₄ s' h =>
        ⟨h.1, hrely s s₃ s' hs₀ h.2⟩
    · intro v s₁ hv
      have h₁ : view s₁ = view s := hcall c s v s₁ hp.1 hv
      exact guarded_mono (ih (.ok v) (hp.2 _) (hview s₀ s s₁ hs h₁)) fun r s₂ s' h =>
        ⟨h.1, hrely s s₁ s' (hstep s s₁ h₁) h.2⟩

end Prog

section Task

variable {P : Platform R σ} {rely guar last : σ → σ → Prop}

/-- What is left of an operation keeps the guarantees if the others rely on them. -/
def Task.Guarded (P : Platform R σ) (rely guar last : σ → σ → Prop) : Task R σ ε → σ → Prop
  | waiting c k, s => ∀ s₁, rely s s₁ → ∀ v s₂, P.effect c s₁ v = some s₂ →
      guar s₁ s₂ ∧ ∀ s₃, rely s₂ s₃ → (k (.ok v)).Guarded P rely guar (fun _ => last) s₃ s₃
  | ready p, s => ∀ s₃, rely s s₃ → p.Guarded P rely guar (fun _ => last) s₃ s₃
  | finished, _ => True

/-- What others may do leaves a task guarded. -/
theorem Task.Guarded.of_rely (htrans : ∀ s₁ s₂ s₃, rely s₁ s₂ → rely s₂ s₃ → rely s₁ s₃)
    {t : Task R σ ε} {s s' : σ} (h : t.Guarded P rely guar last s) (hs : rely s s') :
    t.Guarded P rely guar last s' := by
  cases t with
  | waiting c k => exact fun s₁ hs₁ => h s₁ (htrans _ _ _ hs hs₁)
  | ready p => exact fun s₁ hs₁ => h s₁ (htrans _ _ _ hs hs₁)
  | finished => trivial

/-- The segment of a guarded program. -/
theorem Prog.Guarded.advance {p : Prog R σ ε Unit} {s₀ s s' : σ} {ms : List (Moment R σ ε)}
    {t : Task R σ ε} (hp : p.Guarded P rely guar (fun _ => last) s₀ s) (h : p.Advance P s ms t s') :
    t.Guarded P rely guar last s' ∧ if t.isFinished then last s₀ s' else guar s₀ s' := by
  induction p generalizing s ms with
  | done r =>
    obtain ⟨-, rfl, rfl⟩ := h
    exact ⟨trivial, hp⟩
  | step u k ih => exact ih s hp h
  | call c k ih =>
    rw [Prog.Advance] at h
    rw [Prog.Guarded] at hp
    split at h
    case isTrue ha =>
      obtain ⟨-, rfl, rfl⟩ := h
      rw [if_pos ha] at hp
      exact ⟨hp.2, hp.1⟩
    case isFalse ha =>
      obtain ⟨v, s₁, rest, hv, -, hk⟩ := h
      rw [if_neg ha] at hp
      exact ih (.ok v) (hp v s₁ hv) hk

end Task

namespace Pool

/-- The operations of the tasks that have finished, as often as they did. -/
def finishedOps (ts : List (ι × Task R σ ε)) : Multiset ι :=
  (ts.filter fun x => x.2.isFinished).map Prod.fst

theorem finishedOps_nil : finishedOps ([] : List (ι × Task R σ ε)) = 0 := rfl

theorem finishedOps_append (ts us : List (ι × Task R σ ε)) :
    finishedOps (ts ++ us) = finishedOps ts + finishedOps us := by
  simp [finishedOps]

theorem finishedOps_cons (op : ι) (t : Task R σ ε) (ts : List (ι × Task R σ ε)) :
    finishedOps ((op, t) :: ts) =
      if t.isFinished then op ::ₘ finishedOps ts else finishedOps ts := by
  cases t <;> rfl

/-- A task that ends at once counts at once. -/
theorem finishedOps_snoc (op : ι) (t : Task R σ ε) (ts : List (ι × Task R σ ε)) :
    finishedOps (ts ++ [(op, t)]) =
      if t.isFinished then op ::ₘ finishedOps ts else finishedOps ts := by
  rw [finishedOps_append, finishedOps_cons]
  split
  · rw [Multiset.add_cons, finishedOps_nil, Multiset.add_zero]
  · rw [finishedOps_nil, Multiset.add_zero]

/-- A task that was not finished goes on to `t`. -/
theorem finishedOps_replace (op : ι) (ts us : List (ι × Task R σ ε)) (t₀ t : Task R σ ε)
    (h₀ : t₀.isFinished = false) : finishedOps (ts ++ (op, t) :: us) =
      if t.isFinished then op ::ₘ finishedOps (ts ++ (op, t₀) :: us)
      else finishedOps (ts ++ (op, t₀) :: us) := by
  simp only [finishedOps_append, finishedOps_cons, h₀, Bool.false_eq_true, if_false]
  split
  · rw [Multiset.add_cons]
  · rfl

/-- In the end every operation has finished as often as it was started. -/
theorem Quiescent.finishedOps {c : Pool R σ ε ι} (h : c.Quiescent) :
    finishedOps c.tasks = (c.tasks.map Prod.fst : List ι) := by
  rw [Pool.finishedOps, List.filter_eq_self.mpr h]

variable {P : Platform R σ} {body : ι → Prog R σ ε Unit} {rely : σ → σ → Prop}
  {guar last : ι → σ → σ → Prop}

/-- Every started operation is guarded from here on. -/
def Guarded (P : Platform R σ) (rely : σ → σ → Prop) (guar last : ι → σ → σ → Prop)
    (ts : List (ι × Task R σ ε)) (s : σ) : Prop :=
  ∀ x ∈ ts, x.2.Guarded P rely (guar x.1) (last x.1) s

/-- What others may do leaves all tasks guarded. -/
theorem Guarded.of_rely (htrans : ∀ s₁ s₂ s₃, rely s₁ s₂ → rely s₂ s₃ → rely s₁ s₃)
    {ts : List (ι × Task R σ ε)} {s s' : σ} (h : Guarded P rely guar last ts s) (hs : rely s s') :
    Guarded P rely guar last ts s' :=
  fun x hx => (h x hx).of_rely htrans hs

/-- One task is looked at apart from the others. -/
theorem guarded_replace {ts us : List (ι × Task R σ ε)} {op : ι} {t : Task R σ ε} {s : σ} :
    Guarded P rely guar last (ts ++ (op, t) :: us) s ↔
      Guarded P rely guar last ts s ∧ t.Guarded P rely (guar op) (last op) s ∧
        Guarded P rely guar last us s := by
  rw [Guarded, List.forall_mem_append, List.forall_mem_cons]
  rfl

variable (rely guar last) in
/-- If every operation keeps its guarantees, and these are within what the others rely on,
then what the guarantees keep holds after every run whose calls are all answered, and the
operations are guarded from there on. The invariant may speak of the operations that have
finished. -/
theorem Run.guarded (Inv : σ → Multiset ι → Prop) (hrefl : ∀ s, rely s s)
    (htrans : ∀ s₁ s₂ s₃, rely s₁ s₂ → rely s₂ s₃ → rely s₁ s₃)
    (hbody : ∀ op s ops, Inv s ops →
      (body op).Guarded P rely (guar op) (fun _ => last op) s s)
    (hguar : ∀ op s s' ops, Inv s ops → guar op s s' → rely s s' ∧ Inv s' ops)
    (hlast : ∀ op s s' ops, Inv s ops → last op s s' → rely s s' ∧ Inv s' (op ::ₘ ops))
    {c₀ c : Pool R σ ε ι} {ms : List (Moment R σ ε)} (hrun : Run P body c₀ ms c)
    (hstart : Guarded P rely guar last c₀.tasks c₀.state)
    (hinit : Inv c₀.state (finishedOps c₀.tasks)) (hok : AllAnswered (answers ms)) :
    Guarded P rely guar last c.tasks c.state ∧ Inv c.state (finishedOps c.tasks) := by
  have hsegment {op : ι} {s s' : σ} {ops : Multiset ι} {t : Task R σ ε} (hinv : Inv s ops)
      (h : if t.isFinished then last op s s' else guar op s s') :
      rely s s' ∧ Inv s' (if t.isFinished then op ::ₘ ops else ops) := by
    split at h
    case isTrue ht =>
      rw [if_pos ht]
      exact hlast op s s' ops hinv h
    case isFalse ht =>
      rw [if_neg ht]
      exact hguar op s s' ops hinv h
  refine Run.invariant (fun c ms => AllAnswered (answers ms) →
    Guarded P rely guar last c.tasks c.state ∧ Inv c.state (finishedOps c.tasks)) hrun ?_ ?_ hok
  · exact fun _ => ⟨hstart, hinit⟩
  · intro c₁ c₂ ms ms' ih hstep hok
    rw [answers_append, allAnswered_append] at hok
    obtain ⟨hguarded, hinv⟩ := ih hok.1
    cases hstep with
    | @start s s' ts _ t op h =>
      obtain ⟨ht, hseg⟩ := (hbody op s _ hinv).advance h
      obtain ⟨hrely, hinv'⟩ := hsegment hinv hseg
      refine ⟨guarded_replace.mpr ⟨hguarded.of_rely htrans hrely, ht, List.forall_mem_nil _⟩, ?_⟩
      rw [finishedOps_snoc]
      exact hinv'
    | @serve s s' ts us op call k r h =>
      obtain ⟨hts, hw, hus⟩ := guarded_replace.mp hguarded
      obtain ⟨v, rfl⟩ : ∃ v, r = .ok v := hok.2 _ (List.mem_singleton_self _)
      obtain ⟨hg, hk⟩ := hw s (hrefl s) v s' h
      obtain ⟨hrely, hinv'⟩ := hguar op s s' _ hinv hg
      refine ⟨guarded_replace.mpr ⟨hts.of_rely htrans hrely, hk, hus.of_rely htrans hrely⟩, ?_⟩
      rw [finishedOps_replace op ts us (.waiting call k) _ rfl]
      exact hinv'
    | @resume s s' ts us op p _ t h =>
      obtain ⟨hts, hp, hus⟩ := guarded_replace.mp hguarded
      obtain ⟨ht, hseg⟩ := (hp s (hrefl s)).advance h
      obtain ⟨hrely, hinv'⟩ := hsegment hinv hseg
      refine ⟨guarded_replace.mpr ⟨hts.of_rely htrans hrely, ht, hus.of_rely htrans hrely⟩, ?_⟩
      rw [finishedOps_replace op ts us (.ready p) t rfl]
      exact hinv'

variable (rely guar last) in
/-- The invariant of a run from a state in which nothing was started. -/
theorem Run.rely_guarantee (Inv : σ → Multiset ι → Prop) (hrefl : ∀ s, rely s s)
    (htrans : ∀ s₁ s₂ s₃, rely s₁ s₂ → rely s₂ s₃ → rely s₁ s₃)
    (hbody : ∀ op s ops, Inv s ops →
      (body op).Guarded P rely (guar op) (fun _ => last op) s s)
    (hguar : ∀ op s s' ops, Inv s ops → guar op s s' → rely s s' ∧ Inv s' ops)
    (hlast : ∀ op s s' ops, Inv s ops → last op s s' → rely s s' ∧ Inv s' (op ::ₘ ops))
    {c₀ c : Pool R σ ε ι} {ms : List (Moment R σ ε)} (hrun : Run P body c₀ ms c)
    (hstart : c₀.tasks = []) (hinit : Inv c₀.state 0) (hok : AllAnswered (answers ms)) :
    Inv c.state (finishedOps c.tasks) := by
  have hnone : Guarded P rely guar last c₀.tasks c₀.state := by
    rw [hstart]
    exact List.forall_mem_nil _
  have hinv : Inv c₀.state (finishedOps c₀.tasks) := by
    rw [hstart]
    exact hinit
  exact (hrun.guarded rely guar last Inv hrefl htrans hbody hguar hlast hnone hinv hok).2

end Pool

end Async
