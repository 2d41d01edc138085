import AroundMuseo.Core.Closed
import AroundMuseo.Core.Segments

/-!
# Operations on two parts of the state

If each operation of a pool uses one of two parts of the state and neither reads nor writes the
other, then the pool is two pools side by side: a run of it is a run of the operations on the one
part and a run of the operations on the other, and any two such runs make a run of it.
-/

namespace Async

variable {C : Type} {R : C → Type} {σ κ ε ι α : Type}

/-- The call does not see what the frame puts in the place of a part of the state, and leaves it
as it is. -/
def Platform.Framed (P : Platform R σ) (E : κ → σ → σ) (c : C) : Prop :=
  ∀ f s v, P.effect c (E f s) v = (P.effect c s v).map (E f)

/-- A call that does not see a part is answered alike whatever the part is. -/
theorem Platform.Framed.perform {P : Platform R σ} {E : κ → σ → σ} {c : C} (h : P.Framed E c)
    (f : κ) (s : σ) (r : Except ε (R c)) : P.perform c (E f s) r = (P.perform c s r).map (E f) := by
  cases r with
  | ok v => exact h f s v
  | error e =>
    show (if _ then some (E f s) else none) = Option.map (E f) (if _ then some s else none)
    split <;> rfl

namespace Prog

/-- The program neither reads nor writes what a frame puts in the place of a part of the state. -/
def Framed (P : Platform R σ) (E : κ → σ → σ) : Prog R σ ε α → Prop
  | done _ => True
  | step u k => (∀ f s, u (E f s) = E f (u s) ∧ k (E f s) = k s) ∧ ∀ s, (k s).Framed P E
  | call c k => P.Framed E c ∧ ∀ r, (k r).Framed P E

variable {P : Platform R σ} {E : κ → σ → σ}

end Prog

/-- What is left of a started operation is framed. -/
def Task.Framed (P : Platform R σ) (E : κ → σ → σ) : Task R σ ε → Prop
  | waiting c k => P.Framed E c ∧ ∀ r, (k r).Framed P E
  | ready p => p.Framed P E
  | finished => True

section Advance

variable {P : Platform R σ} {E : κ → σ → σ} {p : Prog R σ ε Unit} {s s' : σ}
  {ms : List (Moment R σ ε)} {t : Task R σ ε}

/-- What is left of a program does not see the part either. -/
theorem Prog.Framed.task (hp : p.Framed P E) (h : p.Advance P s ms t s') : t.Framed P E := by
  induction p generalizing s ms with
  | done r =>
    obtain ⟨-, rfl, -⟩ := h
    trivial
  | step u k ih => exact ih s (hp.2 s) h
  | call c k ih =>
    rw [Prog.Advance] at h
    split at h
    · obtain ⟨-, rfl, -⟩ := h
      exact hp
    · obtain ⟨v, s₁, rest, -, -, hk⟩ := h
      exact ih (.ok v) (hp.2 _) hk

/-- In a frame the program does what it does without. -/
theorem Prog.Framed.advance (hp : p.Framed P E) {f : κ} (h : p.Advance P (E f s) ms t s') :
    ∃ ms₀ s₀, s' = E f s₀ ∧ p.Advance P s ms₀ t s₀ := by
  induction p generalizing s ms with
  | done r =>
    obtain ⟨-, rfl, rfl⟩ := h
    exact ⟨[], s, rfl, rfl, rfl, rfl⟩
  | step u k ih =>
    rw [Prog.Advance, (hp.1 f s).1, (hp.1 f s).2] at h
    exact ih s (hp.2 s) h
  | call c k ih =>
    rw [Prog.Advance] at h
    split at h
    case isTrue ha =>
      obtain ⟨-, rfl, rfl⟩ := h
      refine ⟨[.issued s c], s, rfl, ?_⟩
      rw [Prog.Advance, if_pos ha]
      exact ⟨rfl, rfl, rfl⟩
    case isFalse ha =>
      obtain ⟨v, s₁, rest, hv, rfl, hk⟩ := h
      rw [hp.1 f s v] at hv
      obtain ⟨s₂, hs₂, rfl⟩ := Option.map_eq_some_iff.mp hv
      obtain ⟨ms₀, s₀, rfl, hadv⟩ := ih (.ok v) (hp.2 _) hk
      refine ⟨.answered ⟨s, c, .ok v⟩ :: ms₀, s₀, rfl, ?_⟩
      rw [Prog.Advance, if_neg ha]
      exact ⟨v, s₂, ms₀, hs₂, rfl, hadv⟩

/-- What the program does without a frame, it does in one. -/
theorem Prog.Framed.advance_frame (hp : p.Framed P E) (f : κ) (h : p.Advance P s ms t s') :
    ∃ ms', p.Advance P (E f s) ms' t (E f s') := by
  induction p generalizing s ms with
  | done r =>
    obtain ⟨-, rfl, rfl⟩ := h
    exact ⟨[], rfl, rfl, rfl⟩
  | step u k ih =>
    obtain ⟨ms', hadv⟩ := ih s (hp.2 s) h
    refine ⟨ms', ?_⟩
    rwa [Prog.Advance, (hp.1 f s).1, (hp.1 f s).2]
  | call c k ih =>
    rw [Prog.Advance] at h
    split at h
    case isTrue ha =>
      obtain ⟨-, rfl, rfl⟩ := h
      refine ⟨[.issued (E f s') c], ?_⟩
      rw [Prog.Advance, if_pos ha]
      exact ⟨rfl, rfl, rfl⟩
    case isFalse ha =>
      obtain ⟨v, s₁, rest, hv, -, hk⟩ := h
      obtain ⟨ms', hadv⟩ := ih (.ok v) (hp.2 _) hk
      refine ⟨.answered ⟨E f s, c, .ok v⟩ :: ms', ?_⟩
      rw [Prog.Advance, if_neg ha]
      refine ⟨v, E f s₁, ms', ?_, rfl, hadv⟩
      rw [hp.1 f s v, hv]
      rfl

end Advance

namespace Pool

/-- One step of the operation `op`: it runs a segment, or the call that it awaits is answered. -/
inductive StepBy (P : Platform R σ) (body : ι → Prog R σ ε Unit) (op : ι) :
    Pool R σ ε ι → List (Moment R σ ε) → Pool R σ ε ι → Prop
  | segment {c c' : Pool R σ ε ι} {ms : List (Moment R σ ε)} (h : Segment P body op c ms c') :
    StepBy P body op c ms c'
  | serve {s s' : σ} {ts us : List (ι × Task R σ ε)} {c : C} {k : Except ε (R c) → Prog R σ ε Unit}
      {r : Except ε (R c)} (h : P.perform c s r = some s') :
    StepBy P body op ⟨s, ts ++ (op, .waiting c k) :: us⟩ [.answered ⟨s, c, r⟩]
      ⟨s', ts ++ (op, .ready (k r)) :: us⟩

variable {P : Platform R σ} {body : ι → Prog R σ ε Unit} {op : ι} {c c' : Pool R σ ε ι}
  {ms : List (Moment R σ ε)}

theorem StepBy.step (h : StepBy P body op c ms c') : Step P body c ms c' := by
  cases h with
  | segment h => exact h.step
  | serve h => exact .serve h

/-- Every step is made by one of the operations. -/
theorem Step.exists_by (h : Step P body c ms c') : ∃ op, StepBy P body op c ms c' := by
  cases h with
  | start op h => exact ⟨op, .segment (.start h)⟩
  | serve h => exact ⟨_, .serve h⟩
  | resume h => exact ⟨_, .segment (.resume h)⟩

/-- The tasks of the operations of one kind. -/
def ofKind (kind : ι → Bool) (b : Bool) (ts : List (ι × Task R σ ε)) : List (ι × Task R σ ε) :=
  ts.filter fun x => kind x.1 = b

section OfKind

variable {kind : ι → Bool} {b : Bool} {ts us vs : List (ι × Task R σ ε)} {t : Task R σ ε}

@[simp] theorem ofKind_nil : ofKind kind b ([] : List (ι × Task R σ ε)) = [] := rfl

/-- The tasks of a kind, list by list. -/
theorem ofKind_append : ofKind kind b (ts ++ us) = ofKind kind b ts ++ ofKind kind b us :=
  List.filter_append ..

theorem ofKind_cons_of_eq (h : kind op = b) :
    ofKind kind b ((op, t) :: us) = (op, t) :: ofKind kind b us :=
  List.filter_cons_of_pos (decide_eq_true h)

theorem ofKind_cons_of_ne (h : kind op ≠ b) : ofKind kind b ((op, t) :: us) = ofKind kind b us :=
  List.filter_cons_of_neg (by simpa using h)

theorem kind_of_ofKind_eq (h : ofKind kind b ts = us) : ∀ x ∈ us, kind x.1 = b := by
  intro x hx
  rw [← h] at hx
  exact of_decide_eq_true (List.mem_filter.mp hx).2

/-- A task of one kind stands among others. -/
theorem exists_split_of_ofKind {x : ι × Task R σ ε} (h : ofKind kind b ts = us ++ x :: vs) :
    ∃ ts₁ ts₂, ts = ts₁ ++ x :: ts₂ ∧ ofKind kind b ts₁ = us ∧ ofKind kind b ts₂ = vs := by
  obtain ⟨l₁, l₂, rfl, rfl, hl₂⟩ := List.filter_eq_append_iff.mp h
  obtain ⟨m₁, m₂, rfl, hm₁, -, rfl⟩ := List.filter_eq_cons_iff.mp hl₂
  refine ⟨l₁ ++ m₁, m₂, by simp, ?_, rfl⟩
  rw [ofKind_append, show ofKind kind b m₁ = [] from List.filter_eq_nil_iff.mpr hm₁,
    List.append_nil]
  rfl

/-- The last task is the last one of its kind. -/
theorem ofKind_concat {x y : ι × Task R σ ε} (hx : kind x.1 = b)
    (h : ofKind kind b (ts ++ [x]) = us ++ [y]) : x = y ∧ ofKind kind b ts = us := by
  obtain ⟨op, t⟩ := x
  rw [ofKind_append, ofKind_cons_of_eq hx, ofKind_nil] at h
  obtain ⟨hts, hxy⟩ := List.append_inj' h rfl
  exact ⟨List.singleton_inj.mp hxy, hts⟩

/-- Operations of the other kind leave the tasks alone. -/
theorem StepBy.ofKind_eq (hop : kind op ≠ b) (h : StepBy P body op c ms c') :
    ofKind kind b c'.tasks = ofKind kind b c.tasks := by
  cases h with
  | segment h =>
    cases h with
    | start h => rw [ofKind_append, ofKind_cons_of_ne hop, ofKind_nil, List.append_nil]
    | resume h => rw [ofKind_append, ofKind_append, ofKind_cons_of_ne hop, ofKind_cons_of_ne hop]
  | serve h => rw [ofKind_append, ofKind_append, ofKind_cons_of_ne hop, ofKind_cons_of_ne hop]

end OfKind

section Framed

variable {E : κ → σ → σ} (kind : ι → Bool) (b : Bool)

/-- The tasks of a kind go on not seeing the part. -/
theorem StepBy.framed (hbody : kind op = b → (body op).Framed P E)
    (htasks : ∀ x ∈ c.tasks, kind x.1 = b → x.2.Framed P E) (h : StepBy P body op c ms c') :
    ∀ x ∈ c'.tasks, kind x.1 = b → x.2.Framed P E := by
  cases h with
  | segment h =>
    cases h with
    | start h =>
      refine List.forall_mem_append.mpr ⟨htasks, List.forall_mem_singleton.mpr ?_⟩
      exact fun hop => (hbody hop).task h
    | resume h =>
      obtain ⟨hts, hr, hus⟩ := forall_tasks_iff.mp htasks
      exact forall_tasks_iff.mpr ⟨hts, fun hop => Prog.Framed.task (hr hop) h, hus⟩
  | serve h =>
    obtain ⟨hts, hw, hus⟩ := forall_tasks_iff.mp htasks
    exact forall_tasks_iff.mpr ⟨hts, fun hop => (hw hop).2 _, hus⟩

/-- In a frame an operation does what it does without the frame and the other kind. -/
theorem StepBy.project (hop : kind op = b) (hbody : (body op).Framed P E) {f : κ} {s : σ}
    {ts : List (ι × Task R σ ε)} (htasks : ∀ x ∈ ts, kind x.1 = b → x.2.Framed P E)
    (h : StepBy P body op ⟨E f s, ts⟩ ms c') :
    ∃ ms₀ s₀, c'.state = E f s₀ ∧
      Step P body ⟨s, ofKind kind b ts⟩ ms₀ ⟨s₀, ofKind kind b c'.tasks⟩ := by
  cases h with
  | segment h =>
    cases h with
    | start h =>
      obtain ⟨ms₀, s₀, rfl, hadv⟩ := hbody.advance h
      refine ⟨ms₀, s₀, rfl, ?_⟩
      rw [ofKind_append, ofKind_cons_of_eq hop]
      exact .start op hadv
    | resume h =>
      have hr := (forall_tasks_iff.mp htasks).2.1 hop
      obtain ⟨ms₀, s₀, rfl, hadv⟩ := Prog.Framed.advance hr h
      refine ⟨ms₀, s₀, rfl, ?_⟩
      rw [ofKind_append, ofKind_append, ofKind_cons_of_eq hop, ofKind_cons_of_eq hop]
      exact .resume hadv
  | @serve _ s' ts us call k r h =>
    have hw := (forall_tasks_iff.mp htasks).2.1 hop
    rw [hw.1.perform] at h
    obtain ⟨s₀, hs₀, rfl⟩ := Option.map_eq_some_iff.mp h
    refine ⟨[.answered ⟨s, call, r⟩], s₀, rfl, ?_⟩
    rw [ofKind_append, ofKind_append, ofKind_cons_of_eq hop, ofKind_cons_of_eq hop]
    exact .serve hs₀

/-- A step of an operation, in a frame and among others: the operation starts as the last one, or
its task changes wherever it stands. -/
theorem StepBy.lift (hop : kind op = b) (hbody : (body op).Framed P E)
    (htasks : ∀ x ∈ c.tasks, x.2.Framed P E) (h : StepBy P body op c ms c') :
    (∃ t, c'.tasks = c.tasks ++ [(op, t)] ∧ ∀ f ts, ∃ ms',
      Step P body ⟨E f c.state, ts⟩ ms' ⟨E f c'.state, ts ++ [(op, t)]⟩) ∨
    ∀ ts, ofKind kind b ts = c'.tasks → ∃ ts₀, ofKind kind b ts₀ = c.tasks ∧
      ofKind kind (!b) ts₀ = ofKind kind (!b) ts ∧
      ∀ f, ∃ ms', Step P body ⟨E f c.state, ts₀⟩ ms' ⟨E f c'.state, ts⟩ := by
  have hop' : kind op ≠ !b := by simp [hop]
  cases h with
  | segment h =>
    cases h with
    | @start s s' _ _ t h =>
      refine .inl ⟨t, rfl, fun f _ => ?_⟩
      obtain ⟨ms', hadv⟩ := hbody.advance_frame f h
      exact ⟨ms', .start op hadv⟩
    | @resume s s' us vs p _ t h =>
      right
      intro ts hts
      obtain ⟨ts₁, ts₂, rfl, rfl, rfl⟩ := exists_split_of_ofKind hts
      have hr := (forall_tasks_iff.mp htasks).2.1
      refine ⟨ts₁ ++ (op, .ready p) :: ts₂, ?_, ?_, fun f => ?_⟩
      · rw [ofKind_append, ofKind_cons_of_eq hop]
      · rw [ofKind_append, ofKind_append, ofKind_cons_of_ne hop', ofKind_cons_of_ne hop']
      · obtain ⟨ms', hadv⟩ := Prog.Framed.advance_frame hr f h
        exact ⟨ms', .resume hadv⟩
  | @serve s s' us vs call k r h =>
    right
    intro ts hts
    obtain ⟨ts₁, ts₂, rfl, rfl, rfl⟩ := exists_split_of_ofKind hts
    have hw := (forall_tasks_iff.mp htasks).2.1
    refine ⟨ts₁ ++ (op, .waiting call k) :: ts₂, ?_, ?_, fun f => ?_⟩
    · rw [ofKind_append, ofKind_cons_of_eq hop]
    · rw [ofKind_append, ofKind_append, ofKind_cons_of_ne hop', ofKind_cons_of_ne hop']
    · refine ⟨[.answered ⟨E f s, call, r⟩], .serve ?_⟩
      rw [hw.1.perform, h]
      rfl

variable {kind b}

/-- In a run the tasks of a kind never see the part. -/
theorem Run.framed (hbody : ∀ op, kind op = b → (body op).Framed P E) {s : σ}
    (hrun : Run P body ⟨s, []⟩ ms c) : ∀ x ∈ c.tasks, kind x.1 = b → x.2.Framed P E := by
  induction hrun with
  | nil => exact List.forall_mem_nil _
  | snoc _ hstep ih =>
    obtain ⟨op, hstep⟩ := hstep.exists_by
    exact hstep.framed kind b (hbody op) ih

end Framed

theorem StepBy.mem_tasks (h : StepBy P body op c ms c') : op ∈ c'.tasks.map Prod.fst := by
  cases h with
  | segment h => cases h <;> simp
  | serve h => simp

/-- If all tasks are of one kind after a step, then they were before, and the operation is. -/
theorem StepBy.kinds {kind : ι → Bool} {b : Bool} (h : StepBy P body op c ms c')
    (htasks : ∀ x ∈ c'.tasks, kind x.1 = b) : kind op = b ∧ ∀ x ∈ c.tasks, kind x.1 = b := by
  constructor
  · obtain ⟨x, hx, rfl⟩ := List.mem_map.mp h.mem_tasks
    exact htasks x hx
  · intro x hx
    obtain ⟨y, hy, heq⟩ := List.mem_map.mp (h.step.mem_tasks (List.mem_map_of_mem hx))
    rw [← heq]
    exact htasks y hy

/-- A run that starts without tasks leads to the pool. -/
def Reached (P : Platform R σ) (body : ι → Prog R σ ε Unit) (s : σ) (c : Pool R σ ε ι) : Prop :=
  ∃ ms, Run P body ⟨s, []⟩ ms c

/-- One more step. -/
theorem Reached.step {s : σ} (h : Reached P body s c) (hstep : Step P body c ms c') :
    Reached P body s c' := by
  obtain ⟨ms₀, hrun⟩ := h
  exact ⟨_, hrun.snoc hstep⟩

section Separate

variable {graft : σ → σ → σ} {kind : ι → Bool}
  (hleft : ∀ op, kind op = true → (body op).Framed P fun b a => graft a b)
  (hright : ∀ op, kind op = false → (body op).Framed P graft)

include hleft hright

/-- A run of the pool is a run on the left part and a run on the right part. -/
theorem Run.split {a b : σ} (hrun : Run P body ⟨graft a b, []⟩ ms c) :
    ∃ a' b', c.state = graft a' b' ∧ Reached P body a ⟨a', ofKind kind true c.tasks⟩ ∧
      Reached P body b ⟨b', ofKind kind false c.tasks⟩ := by
  induction hrun with
  | nil => exact ⟨a, b, rfl, ⟨[], .nil _⟩, ⟨[], .nil _⟩⟩
  | @snoc c' c'' _ _ hrun hstep ih =>
    obtain ⟨a', b', hstate, hleft', hright'⟩ := ih
    have htasks₁ := hrun.framed hleft
    have htasks₂ := hrun.framed hright
    obtain ⟨op, hstep⟩ := hstep.exists_by
    obtain ⟨s, ts⟩ := c'
    cases hstate
    cases hop : kind op with
    | true =>
      obtain ⟨ms', s₀, hs₀, hstep₁⟩ := hstep.project kind true hop (hleft op hop) htasks₁
      refine ⟨s₀, b', hs₀, hleft'.step hstep₁, ?_⟩
      rw [hstep.ofKind_eq (by simp [hop])]
      exact hright'
    | false =>
      obtain ⟨ms', s₀, hs₀, hstep₂⟩ := hstep.project kind false hop (hright op hop) htasks₂
      refine ⟨a', s₀, hs₀, ?_, hright'.step hstep₂⟩
      rw [hstep.ofKind_eq (by simp [hop])]
      exact hleft'

omit hleft in
/-- By induction on the run on the right part: if the last task is of the left kind, then the run
is made by the induction on the left part. -/
theorem Run.merge_right {a b a' : σ} {us : List (ι × Task R σ ε)} (hnil : us = [] → a' = a)
    (hlast : ∀ b' ts x, kind x.1 = true → ofKind kind true (ts ++ [x]) = us →
      Reached P body b ⟨b', ofKind kind false (ts ++ [x])⟩ →
      Reached P body (graft a b) ⟨graft a' b', ts ++ [x]⟩)
    {ms : List (Moment R σ ε)} {c : Pool R σ ε ι} (hrun : Run P body ⟨b, []⟩ ms c)
    {ts : List (ι × Task R σ ε)} (hus : ofKind kind true ts = us)
    (hts : ofKind kind false ts = c.tasks) :
    Reached P body (graft a b) ⟨graft a' c.state, ts⟩ := by
  induction hrun generalizing ts with
  | nil =>
    rcases List.eq_nil_or_concat ts with rfl | ⟨ts, x, rfl⟩
    · rw [hnil hus.symm]
      exact ⟨[], .nil _⟩
    · rw [List.concat_eq_append] at hus hts ⊢
      cases hx : kind x.1 with
      | true => exact hlast b ts x hx hus ⟨[], hts ▸ .nil _⟩
      | false => simp [ofKind, hx] at hts
  | @snoc c' c'' ms' ms'' hrun hstep ih =>
    obtain ⟨op, hstep'⟩ := hstep.exists_by
    obtain ⟨hop, hkinds⟩ := hstep'.kinds (kind_of_ofKind_eq hts)
    have hframed (x : ι × Task R σ ε) (hx : x ∈ c'.tasks) : x.2.Framed P graft :=
      hrun.framed hright x hx (hkinds x hx)
    rcases hstep'.lift kind false hop (hright op hop) hframed with ⟨t, htasks, hstart⟩ | hmove
    · rcases List.eq_nil_or_concat ts with rfl | ⟨ts, x, rfl⟩
      · rw [htasks] at hts
        simp at hts
      · rw [List.concat_eq_append] at hus hts ⊢
        cases hx : kind x.1 with
        | true =>
          apply hlast c''.state ts x hx hus
          rw [hts]
          exact ⟨_, hrun.snoc hstep⟩
        | false =>
          rw [htasks] at hts
          obtain ⟨rfl, hbefore⟩ := ofKind_concat hx hts
          rw [ofKind_append, ofKind_cons_of_ne (by simp [hop]), ofKind_nil, List.append_nil] at hus
          obtain ⟨ms₀, hstart⟩ := hstart a' ts
          exact (ih hus hbefore).step hstart
    · obtain ⟨ts₀, hts₀, hus₀, hmove⟩ := hmove ts hts
      obtain ⟨ms₀, hmove⟩ := hmove a'
      exact (ih (hus₀.trans hus) hts₀).step hmove

/-- A run on the left part and a run on the right part make a run of the pool, in which the tasks
stand in any order that is theirs. -/
theorem Run.merge {a b b' : σ} {ms : List (Moment R σ ε)} {c : Pool R σ ε ι}
    (hrun : Run P body ⟨a, []⟩ ms c) {ts : List (ι × Task R σ ε)}
    (hts : ofKind kind true ts = c.tasks)
    (hother : Reached P body b ⟨b', ofKind kind false ts⟩) :
    Reached P body (graft a b) ⟨graft c.state b', ts⟩ := by
  induction hrun generalizing ts b' with
  | nil =>
    obtain ⟨ms', hrun'⟩ := hother
    refine hrun'.merge_right hright (fun _ => rfl) ?_ hts rfl
    intro b' ts x hx hus
    simp [ofKind, hx] at hus
  | @snoc c' c'' ms' ms'' hrun hstep ih =>
    obtain ⟨op, hstep'⟩ := hstep.exists_by
    obtain ⟨hop, hkinds⟩ := hstep'.kinds (kind_of_ofKind_eq hts)
    have hframed (x : ι × Task R σ ε) (hx : x ∈ c'.tasks) : x.2.Framed P fun b a => graft a b :=
      hrun.framed hleft x hx (hkinds x hx)
    rcases hstep'.lift kind true hop (hleft op hop) hframed with ⟨t, htasks, hstart⟩ | hmove
    · obtain ⟨ms₂, hother⟩ := hother
      refine Run.merge_right hright ?_ ?_ hother hts rfl
      · intro hnil
        simp [htasks] at hnil
      · intro b'' ts x hx hus hother
        rw [htasks] at hus
        obtain ⟨rfl, hbefore⟩ := ofKind_concat hx hus
        rw [ofKind_append, ofKind_cons_of_ne (by simp [hop]), ofKind_nil, List.append_nil] at hother
        obtain ⟨ms₀, hstart⟩ := hstart b'' ts
        exact (ih hbefore hother).step hstart
    · obtain ⟨ts₀, hts₀, hus₀, hmove⟩ := hmove ts hts
      obtain ⟨ms₀, hmove⟩ := hmove b'
      refine (ih hts₀ ?_).step hmove
      rw [show ofKind kind false ts₀ = ofKind kind false ts from hus₀]
      exact hother

end Separate

end Pool

end Async
