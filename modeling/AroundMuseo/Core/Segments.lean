import AroundMuseo.Core.Pool

/-!
# Segments under any interference

What each synchronous segment of an operation does, when nothing is known of the state that
it starts in and every call may throw; and runs of a pool all of whose steps meet a
condition.
-/

namespace Async

variable {C : Type} {R : C → Type} {σ ε ι α β : Type}

namespace Prog

/-- The segment that started at `s₀`, and is now at `s`, ends within `guar`, like every later
one; the last one ends in `Q`. -/
def Segments (P : Platform R σ) (guar : σ → σ → Prop) :
    Prog R σ ε α → (Except ε α → σ → σ → Prop) → σ → σ → Prop
  | done r, Q, s₀, s => Q r s₀ s
  | step u k, Q, s₀, s => (k s).Segments P guar Q s₀ (u s)
  | call c k, Q, s₀, s =>
    if P.awaited c = true then guar s₀ s ∧ ∀ r s', (k r).Segments P guar Q s' s'
    else ∀ v s', P.effect c s v = some s' → (k (.ok v)).Segments P guar Q s₀ s'

variable {P : Platform R σ} {guar : σ → σ → Prop} {Q Q' : Except ε α → σ → σ → Prop} {s₀ s : σ}

/-- Less may be said of the last segment. -/
theorem segments_mono {p : Prog R σ ε α} (h : p.Segments P guar Q s₀ s)
    (hQ : ∀ r s₀ s, Q r s₀ s → Q' r s₀ s) : p.Segments P guar Q' s₀ s := by
  induction p generalizing s₀ s with
  | done r => exact hQ r s₀ s h
  | step u k ih => exact ih s h
  | call c k ih =>
    rw [Segments] at h ⊢
    split
    case isTrue ha =>
      rw [if_pos ha] at h
      exact ⟨h.1, fun r s' => ih r (h.2 r s')⟩
    case isFalse ha =>
      rw [if_neg ha] at h
      exact fun v s' hv => ih (.ok v) (h v s' hv)

/-- The second program goes on in the segment in which the first ends. -/
theorem segments_andThen {p : Prog R σ ε α} {f : Except ε α → Prog R σ ε β}
    {Q : Except ε β → σ → σ → Prop}
    (h : p.Segments P guar (fun r s₀ s => (f r).Segments P guar Q s₀ s) s₀ s) :
    (p.andThen f).Segments P guar Q s₀ s := by
  induction p generalizing s₀ s with
  | done r => exact h
  | step u k ih => exact ih s h
  | call c k ih =>
    rw [Segments] at h
    rw [andThen, Segments]
    split
    case isTrue ha =>
      rw [if_pos ha] at h
      exact ⟨h.1, fun r s' => ih r (h.2 r s')⟩
    case isFalse ha =>
      rw [if_neg ha] at h
      exact fun v s' hv => ih (.ok v) (h v s' hv)

theorem segments_read_bind {g : σ → α} {f : α → Prog R σ ε β} {Q : Except ε β → σ → σ → Prop} :
    (read g >>= f).Segments P guar Q s₀ s ↔ (f (g s)).Segments P guar Q s₀ s := Iff.rfl

/-- A program all of whose segments keep the guarantee, wherever they start. -/
def Keeps (P : Platform R σ) (guar : σ → σ → Prop) (p : Prog R σ ε α) : Prop :=
  ∀ s₀ s, guar s₀ s → p.Segments P guar (fun _ => guar) s₀ s

section Keeps

/-- Programs that keep a guarantee do so one after the other. -/
theorem Keeps.andThen {p : Prog R σ ε α} {f : Except ε α → Prog R σ ε β} (hp : p.Keeps P guar)
    (hf : ∀ r, (f r).Keeps P guar) : (p.andThen f).Keeps P guar := by
  intro s₀ s hs
  exact segments_andThen (segments_mono (hp s₀ s hs) fun r s₀ s hs => hf r s₀ s hs)

theorem keeps_done (r : Except ε α) : (done r : Prog R σ ε α).Keeps P guar := fun _ _ hs => hs

/-- The continuation keeps it as well. -/
theorem Keeps.bind {p : Prog R σ ε α} {f : α → Prog R σ ε β} (hp : p.Keeps P guar)
    (hf : ∀ a, (f a).Keeps P guar) : (p >>= f).Keeps P guar := by
  apply Keeps.andThen hp
  rintro (e | a)
  · exact keeps_done _
  · exact hf a

/-- So does the handler. -/
theorem Keeps.handle {p : Prog R σ ε α} {h : ε → Prog R σ ε α} (hp : p.Keeps P guar)
    (hh : ∀ e, (h e).Keeps P guar) : (tryCatch p h).Keeps P guar := by
  apply Keeps.andThen hp
  rintro (e | a)
  · exact hh e
  · exact keeps_done _

theorem Keeps.unawaited {p : Prog R σ ε α} (hp : p.Keeps P guar) : p.unawaited.Keeps P guar :=
  Keeps.andThen hp fun _ => keeps_done _

theorem keeps_read (f : σ → α) : (read f : Prog R σ ε α).Keeps P guar := fun _ _ hs => hs

/-- An update that preserves the guarantee. -/
theorem keeps_modify {u : σ → σ} (h : ∀ s₀ s, guar s₀ s → guar s₀ (u s)) :
    (modify u : Prog R σ ε Unit).Keeps P guar :=
  fun s₀ s hs => h s₀ s hs

/-- A synchronous call goes on in the same segment. -/
theorem segments_invoke {c : C} {Q : Except ε (R c) → σ → σ → Prop} (ha : P.awaited c = false)
    (h : ∀ v s', P.effect c s v = some s' → Q (.ok v) s₀ s') :
    (invoke c : Prog R σ ε (R c)).Segments P guar Q s₀ s := by
  rw [invoke, Segments, if_neg (by simp [ha])]
  exact h

/-- The continuation starts in the same segment. -/
theorem segments_bind {p : Prog R σ ε α} {f : α → Prog R σ ε β} {Q : Except ε β → σ → σ → Prop}
    (h : p.Segments P guar (fun r s₀ s => match r with
      | .ok a => (f a).Segments P guar Q s₀ s
      | .error e => Q (.error e) s₀ s) s₀ s) : (p >>= f).Segments P guar Q s₀ s := by
  refine segments_andThen (segments_mono h fun r s₀ s h => ?_)
  cases r <;> exact h

/-- What is confined keeps the guarantee if its synchronous calls do. -/
theorem Confined.keeps {τ : Type} {ok : C → Prop} {view : σ → τ} (hrefl : ∀ s, guar s s)
    (hstep : ∀ s₀ s s', guar s₀ s → view s' = view s → guar s₀ s')
    (hcall : ∀ c, ok c → P.awaited c = false →
      ∀ s₀ s v s', guar s₀ s → P.effect c s v = some s' → guar s₀ s')
    {p : Prog R σ ε α} (hp : p.Confined ok view) : p.Keeps P guar := by
  induction p with
  | done r => exact keeps_done r
  | step u k ih => exact fun s₀ s hs => ih s (hp.2 s) s₀ (u s) (hstep s₀ s (u s) hs (hp.1 s))
  | call c k ih =>
    intro s₀ s hs
    rw [Segments]
    split
    case isTrue => exact ⟨hs, fun r s' => ih r (hp.2 r) s' s' (hrefl s')⟩
    case isFalse ha =>
      intro v s' hv
      exact ih (.ok v) (hp.2 _) s₀ s' (hcall c hp.1 (Bool.eq_false_iff.mpr ha) s₀ s v s' hs hv)

/-- What is confined to synchronous calls that keep the view ends in the segment it began in. -/
theorem Confined.segments_sync {τ : Type} {ok : C → Prop} {view : σ → τ}
    (hsync : ∀ c, ok c → P.awaited c = false)
    (hcall : ∀ c s v s', ok c → P.effect c s v = some s' → view s' = view s)
    {p : Prog R σ ε α} (hp : p.Confined ok view) (s₀ s : σ) :
    p.Segments P guar (fun _ s₁ s' => s₁ = s₀ ∧ view s' = view s) s₀ s := by
  induction p generalizing s with
  | done r => exact ⟨rfl, rfl⟩
  | step u k ih =>
    have hview := hp.1 s
    have hrest := ih s (hp.2 s) (u s)
    rw [hview] at hrest
    exact hrest
  | call c k ih =>
    rw [Segments, if_neg (by simp [hsync c hp.1])]
    intro v s' hv
    have hview := hcall c s v s' hp.1 hv
    have hrest := ih (.ok v) (hp.2 _) s'
    rw [hview] at hrest
    exact hrest

end Keeps

end Prog

section Runs

variable {P : Platform R σ} {body : ι → Prog R σ ε Unit}

/-- The segments that are left of a task keep the guarantee. -/
def Task.Keeps (P : Platform R σ) (guar : σ → σ → Prop) : Task R σ ε → Prop
  | waiting c k => P.awaited c = true ∧ ∀ r s, (k r).Segments P guar (fun _ => guar) s s
  | ready p => ∀ s, p.Segments P guar (fun _ => guar) s s
  | finished => True

/-- The segments that are left of a task end within the guarantee, and the last one in `Q`. -/
def Task.Ends (P : Platform R σ) (guar : σ → σ → Prop) (Q : Except ε Unit → σ → σ → Prop) :
    Task R σ ε → Prop
  | waiting c k => P.awaited c = true ∧ ∀ r s, (k r).Segments P guar Q s s
  | ready p => ∀ s, p.Segments P guar Q s s
  | finished => True

/-- A segment that is not the last one ends within the guarantee, and the last one in `Q`. -/
theorem Prog.Segments.advance_ends {guar : σ → σ → Prop} {Q : Except ε Unit → σ → σ → Prop}
    {s₀ s s' : σ} {p : Prog R σ ε Unit} {ms : List (Moment R σ ε)} {t : Task R σ ε}
    (hp : p.Segments P guar Q s₀ s) (h : p.Advance P s ms t s') :
    t.Ends P guar Q ∧ (if t.isFinished then ∃ r, Q r s₀ s' else guar s₀ s') := by
  induction p generalizing s ms with
  | done r =>
    obtain ⟨-, rfl, rfl⟩ := h
    exact ⟨trivial, r, hp⟩
  | step u k ih => exact ih s hp h
  | call c k ih =>
    rw [Prog.Advance] at h
    rw [Prog.Segments] at hp
    split at h
    case isTrue ha =>
      rw [if_pos ha] at hp
      obtain ⟨-, rfl, rfl⟩ := h
      exact ⟨⟨ha, hp.2⟩, hp.1⟩
    case isFalse ha =>
      rw [if_neg ha] at hp
      obtain ⟨v, s₁, rest, hv, -, hk⟩ := h
      exact ih (.ok v) (hp v s₁ hv) hk

/-- To keep a guarantee to the end is to keep it. -/
theorem Task.Ends.keeps {guar : σ → σ → Prop} {t : Task R σ ε}
    (h : t.Ends P guar fun _ => guar) : t.Keeps P guar := by
  cases t <;> exact h

/-- The next segment of a program ends within the guarantee, and leaves a task whose segments
do. -/
theorem Prog.Segments.advance {guar : σ → σ → Prop} {s₀ s s' : σ} {p : Prog R σ ε Unit}
    {ms : List (Moment R σ ε)} {t : Task R σ ε} (hp : p.Segments P guar (fun _ => guar) s₀ s)
    (h : p.Advance P s ms t s') : guar s₀ s' ∧ t.Keeps P guar := by
  obtain ⟨hrest, hend⟩ := hp.advance_ends h
  refine ⟨?_, hrest.keeps⟩
  split at hend
  case isTrue =>
    obtain ⟨_, hguar⟩ := hend
    exact hguar
  case isFalse => exact hend

/-- The operation `op` runs a segment: it starts, or goes on with `p`. -/
inductive Pool.Segment (P : Platform R σ) (body : ι → Prog R σ ε Unit) (op : ι) :
    Pool R σ ε ι → List (Moment R σ ε) → Pool R σ ε ι → Prop
  | start {s s' : σ} {ts : List (ι × Task R σ ε)} {ms : List (Moment R σ ε)} {t : Task R σ ε}
      (h : (body op).Advance P s ms t s') : Segment P body op ⟨s, ts⟩ ms ⟨s', ts ++ [(op, t)]⟩
  | resume {s s' : σ} {ts us : List (ι × Task R σ ε)} {p : Prog R σ ε Unit}
      {ms : List (Moment R σ ε)} {t : Task R σ ε} (h : p.Advance P s ms t s') :
      Segment P body op ⟨s, ts ++ (op, .ready p) :: us⟩ ms ⟨s', ts ++ (op, t) :: us⟩

/-- A segment is a step. -/
theorem Pool.Segment.step {op : ι} {c c' : Pool R σ ε ι} {ms : List (Moment R σ ε)}
    (h : Pool.Segment P body op c ms c') : Pool.Step P body c ms c' := by
  cases h with
  | start h => exact .start op h
  | resume h => exact .resume h

/-- Every task of a run keeps the guarantee of its operation. -/
theorem Pool.Run.tasks_keep {guar : ι → σ → σ → Prop} (hrefl : ∀ op s, guar op s s)
    (hbody : ∀ op, (body op).Keeps P (guar op)) {c c' : Pool R σ ε ι} {ms : List (Moment R σ ε)}
    (hrun : Pool.Run P body c ms c') (hstart : ∀ x ∈ c.tasks, x.2.Keeps P (guar x.1)) :
    ∀ x ∈ c'.tasks, x.2.Keeps P (guar x.1) := by
  refine Pool.Run.invariant (fun c _ => ∀ x ∈ c.tasks, x.2.Keeps P (guar x.1)) hrun hstart ?_
  intro c₁ c₂ ms ms' htasks hstep
  cases hstep with
  | start op h =>
    refine List.forall_mem_append.mpr ⟨htasks, List.forall_mem_singleton.mpr ?_⟩
    exact ((hbody op _ _ (hrefl op _)).advance h).2
  | serve h =>
    obtain ⟨hts, hw, hus⟩ := forall_tasks_iff.mp htasks
    exact forall_tasks_iff.mpr ⟨hts, hw.2 _, hus⟩
  | resume h =>
    obtain ⟨hts, hr, hus⟩ := forall_tasks_iff.mp htasks
    exact forall_tasks_iff.mpr ⟨hts, ((hr _).advance h).2, hus⟩

/-- A segment keeps the guarantee of its operation. -/
theorem Pool.Segment.keeps {guar : ι → σ → σ → Prop} (hrefl : ∀ op s, guar op s s)
    (hbody : ∀ op, (body op).Keeps P (guar op)) {op : ι} {c c' : Pool R σ ε ι}
    {ms : List (Moment R σ ε)} (h : Pool.Segment P body op c ms c')
    (htasks : ∀ x ∈ c.tasks, x.2.Keeps P (guar x.1)) : guar op c.state c'.state := by
  cases h with
  | start h => exact ((hbody op _ _ (hrefl op _)).advance h).1
  | @resume s s' ts us p ms t h =>
    have hr : (Task.ready p).Keeps P (guar op) := htasks (op, .ready p) (by simp)
    exact ((hr s).advance h).1

/-- What the segments of all operations keep, and every answer, a run keeps, whatever is under
way at its start. -/
theorem Pool.Run.preserves {I : σ → Prop}
    (hbody : ∀ op, (body op).Keeps P fun s s' => I s → I s')
    (hserve : ∀ (c : C) (s s' : σ) (r : Except ε (R c)), P.perform c s r = some s' → I s → I s')
    {c c' : Pool R σ ε ι} {ms : List (Moment R σ ε)} (hrun : Pool.Run P body c ms c')
    (hstart : ∀ x ∈ c.tasks, x.2.Keeps P fun s s' => I s → I s') (hinit : I c.state) :
    (∀ x ∈ c'.tasks, x.2.Keeps P fun s s' => I s → I s') ∧ I c'.state := by
  have hrefl : ∀ (_ : ι) (s : σ), I s → I s := fun _ _ hs => hs
  induction hrun with
  | nil => exact ⟨hstart, hinit⟩
  | @snoc c₁ c₂ ms₁ ms₂ hrun hstep ih =>
    obtain ⟨htasks, hs⟩ := ih
    refine ⟨Pool.Run.tasks_keep hrefl hbody (.snoc hrun hstep) hstart, ?_⟩
    cases hstep with
    | start op h => exact (Pool.Segment.keeps hrefl hbody (.start h) htasks) hs
    | serve h => exact hserve _ _ _ _ h hs
    | @resume s s' ts us op p _ t h => exact (Pool.Segment.keeps hrefl hbody (.resume h) htasks) hs

/-- A run all of whose steps meet a condition. -/
inductive Pool.RunMeeting (P : Platform R σ) (body : ι → Prog R σ ε Unit)
    (cond : Pool R σ ε ι → List (Moment R σ ε) → Pool R σ ε ι → Prop) :
    Pool R σ ε ι → List (Moment R σ ε) → Pool R σ ε ι → Prop
  | nil (c : Pool R σ ε ι) : RunMeeting P body cond c [] c
  | snoc {c c' c'' : Pool R σ ε ι} {ms ms' : List (Moment R σ ε)}
      (hrun : RunMeeting P body cond c ms c') (hstep : Pool.Step P body c' ms' c'')
      (hcond : cond c' ms' c'') : RunMeeting P body cond c (ms ++ ms') c''

variable {cond : Pool R σ ε ι → List (Moment R σ ε) → Pool R σ ε ι → Prop}
  {c c' : Pool R σ ε ι} {ms : List (Moment R σ ε)}

/-- A run that meets a condition is a run. -/
theorem Pool.RunMeeting.run (h : Pool.RunMeeting P body cond c ms c') :
    Pool.Run P body c ms c' := by
  induction h with
  | nil => exact .nil _
  | snoc _ hstep _ ih => exact .snoc ih hstep

/-- What is kept by every step that meets the condition holds after the run. -/
theorem Pool.RunMeeting.invariant (Inv : Pool R σ ε ι → List (Moment R σ ε) → Prop)
    (hrun : Pool.RunMeeting P body cond c ms c') (hinit : Inv c [])
    (hstep : ∀ c₁ c₂ ms ms', Inv c₁ ms → Pool.Step P body c₁ ms' c₂ → cond c₁ ms' c₂ →
      Inv c₂ (ms ++ ms')) : Inv c' ms := by
  induction hrun with
  | nil => exact hinit
  | snoc _ hs hcond ih => exact hstep _ _ _ _ ih hs hcond

/-- A step that meets the condition may be put in front. -/
theorem Pool.RunMeeting.cons {c'' : Pool R σ ε ι} {ms' : List (Moment R σ ε)}
    (hstep : Pool.Step P body c ms c') (hcond : cond c ms c')
    (hrun : Pool.RunMeeting P body cond c' ms' c'') :
    Pool.RunMeeting P body cond c (ms ++ ms') c'' := by
  induction hrun with
  | nil =>
    rw [List.append_nil]
    exact .snoc (.nil c) hstep hcond
  | snoc _ hs hc ih =>
    rw [← List.append_assoc]
    exact .snoc ih hs hc

/-- The run in which the moves happen in the given order, if each step is `ok`. -/
def Pool.followMeeting (P : Platform R σ) (body : ι → Prog R σ ε Unit)
    (script : σ → (c : C) → Except ε (R c))
    (ok : Pool R σ ε ι → List (Moment R σ ε) → Pool R σ ε ι → Bool) (c : Pool R σ ε ι) :
    List (Pool.Move ι) → Option (List (Moment R σ ε) × Pool R σ ε ι)
  | [] => some ([], c)
  | m :: rest => do
    let (ms, c') ← c.move P body script m
    if ok c ms c' then
      let (ms', c'') ← c'.followMeeting P body script ok rest
      return (ms ++ ms', c'')
    else none

section FollowMeeting

variable {script : σ → (c : C) → Except ε (R c)}
  {ok : Pool R σ ε ι → List (Moment R σ ε) → Pool R σ ε ι → Bool}

/-- Following moves that meet the condition makes such a run. -/
theorem Pool.followMeeting_sound (hok : ∀ c ms c', ok c ms c' = true → cond c ms c')
    {moves : List (Pool.Move ι)} (h : c.followMeeting P body script ok moves = some (ms, c')) :
    Pool.RunMeeting P body cond c ms c' := by
  induction moves generalizing c ms with
  | nil =>
    cases h
    exact .nil _
  | cons m rest ih =>
    simp only [followMeeting, Option.pure_def, Option.bind_eq_bind, Option.bind_eq_some_iff,
      Option.ite_none_right_eq_some] at h
    obtain ⟨⟨ms₁, c₁⟩, hm, hstep, ⟨ms₂, c₂⟩, hrest, heq⟩ := h
    cases heq
    exact .cons (Pool.move_sound hm) (hok _ _ _ hstep) (ih hrest)

/-- A run with a property, all of whose steps meet a condition. -/
theorem Pool.exists_runMeeting_of_followMeeting (hok : ∀ c ms c', ok c ms c' = true → cond c ms c')
    (moves : List (Pool.Move ι)) {q : List (Moment R σ ε) × Pool R σ ε ι → Bool}
    (h : (c.followMeeting P body script ok moves).any q = true) :
    ∃ ms c', Pool.RunMeeting P body cond c ms c' ∧ q (ms, c') = true := by
  cases hf : c.followMeeting P body script ok moves with
  | none =>
    rw [hf] at h
    cases h
  | some out =>
    rw [hf] at h
    exact ⟨out.1, out.2, Pool.followMeeting_sound hok hf, h⟩

end FollowMeeting

end Runs

end Async
