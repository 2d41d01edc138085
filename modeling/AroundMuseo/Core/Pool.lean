import AroundMuseo.Core.View

/-!
# Overlapping runs

Operations that are started before earlier ones have finished share the state. One of
them runs at a time, synchronously until it awaits a call; the call takes effect at some
later moment and its caller goes on at a moment after that. A run of the pool is any
such interleaving, and its history tells when each call was issued and answered.
-/

namespace Async

variable {C : Type} {R : C → Type} {σ ε ι : Type}

/-- An entry of a history: an awaited call was issued, or a call was answered. -/
inductive Moment (R : C → Type) (σ ε : Type) where
  | issued (s : σ) (c : C)
  | answered (ev : Event R σ ε)

/-- A started operation. -/
inductive Task (R : C → Type) (σ ε : Type) where
  | waiting (c : C) (k : Except ε (R c) → Prog R σ ε Unit)
  | ready (p : Prog R σ ε Unit)
  | finished

/-- A property of the tasks, when one of them is looked at. -/
theorem forall_tasks_iff {α : Type} {p : α → Prop} {ts us : List α} {x : α} :
    (∀ y ∈ ts ++ x :: us, p y) ↔ (∀ y ∈ ts, p y) ∧ p x ∧ ∀ y ∈ us, p y := by
  rw [List.forall_mem_append, List.forall_mem_cons]

/-- The operation has returned. -/
def Task.isFinished : Task R σ ε → Bool
  | finished => true
  | _ => false

/-- From `s` the program runs synchronously, with the moments `ms`, until it is the task
`t` in the state `s'`. -/
def Prog.Advance (P : Platform R σ) :
    Prog R σ ε Unit → σ → List (Moment R σ ε) → Task R σ ε → σ → Prop
  | done _, s, ms, t, s' => ms = [] ∧ t = .finished ∧ s' = s
  | step u k, s, ms, t, s' => (k s).Advance P (u s) ms t s'
  | call c k, s, ms, t, s' =>
    if P.awaited c = true then ms = [.issued s c] ∧ t = .waiting c k ∧ s' = s
    else ∃ v s₁ rest, P.effect c s v = some s₁ ∧ ms = .answered ⟨s, c, .ok v⟩ :: rest ∧
      (k (.ok v)).Advance P s₁ rest t s'

section Advance

variable {α : Type} {P : Platform R σ} {s s' : σ} {ms : List (Moment R σ ε)} {t : Task R σ ε}

theorem Prog.advance_read_bind {g : σ → α} {f : α → Prog R σ ε Unit} :
    (read g >>= f).Advance P s ms t s' ↔ (f (g s)).Advance P s ms t s' := Iff.rfl

/-- The segment ends with the call that is awaited. -/
theorem Prog.advance_invoke_bind {c : C} {f : R c → Prog R σ ε Unit} (ha : P.awaited c = true) :
    (invoke c >>= f).Advance P s ms t s' ↔ ms = [.issued s c] ∧
      t = .waiting c (fun r => (done r : Prog R σ ε (R c)) >>= f) ∧ s' = s := by
  show (call c _).Advance P s ms t s' ↔ _
  rw [Advance, if_pos ha]
  rfl

end Advance

/-- The state with the operations that were started. -/
structure Pool (R : C → Type) (σ ε ι : Type) where
  state : σ
  tasks : List (ι × Task R σ ε)

namespace Pool

variable {P : Platform R σ} {body : ι → Prog R σ ε Unit}

/-- One step of a pool of operations named by `ι`. -/
inductive Step (P : Platform R σ) (body : ι → Prog R σ ε Unit) :
    Pool R σ ε ι → List (Moment R σ ε) → Pool R σ ε ι → Prop
  | start {s s' : σ} {ts : List (ι × Task R σ ε)} {ms : List (Moment R σ ε)} {t : Task R σ ε}
      (op : ι) (h : (body op).Advance P s ms t s') : Step P body ⟨s, ts⟩ ms ⟨s', ts ++ [(op, t)]⟩
  | serve {s s' : σ} {ts us : List (ι × Task R σ ε)} {op : ι} {c : C}
      {k : Except ε (R c) → Prog R σ ε Unit} {r : Except ε (R c)} (h : P.perform c s r = some s') :
      Step P body ⟨s, ts ++ (op, .waiting c k) :: us⟩ [.answered ⟨s, c, r⟩]
        ⟨s', ts ++ (op, .ready (k r)) :: us⟩
  | resume {s s' : σ} {ts us : List (ι × Task R σ ε)} {op : ι} {p : Prog R σ ε Unit}
      {ms : List (Moment R σ ε)} {t : Task R σ ε} (h : p.Advance P s ms t s') :
      Step P body ⟨s, ts ++ (op, .ready p) :: us⟩ ms ⟨s', ts ++ (op, t) :: us⟩

/-- Any number of steps, with the history they make. -/
inductive Run (P : Platform R σ) (body : ι → Prog R σ ε Unit) :
    Pool R σ ε ι → List (Moment R σ ε) → Pool R σ ε ι → Prop
  | nil (c : Pool R σ ε ι) : Run P body c [] c
  | snoc {c c' c'' : Pool R σ ε ι} {ms ms' : List (Moment R σ ε)} (hrun : Run P body c ms c')
      (hstep : Step P body c' ms' c'') : Run P body c (ms ++ ms') c''

theorem Run.cons {c c' c'' : Pool R σ ε ι} {ms ms' : List (Moment R σ ε)}
    (hstep : Step P body c ms c') (hrun : Run P body c' ms' c'') :
    Run P body c (ms ++ ms') c'' := by
  induction hrun with
  | nil =>
    rw [List.append_nil]
    exact .snoc (.nil c) hstep
  | snoc _ hs ih =>
    rw [← List.append_assoc]
    exact .snoc ih hs

theorem Run.append {c c' c'' : Pool R σ ε ι} {ms ms' : List (Moment R σ ε)}
    (hrun : Run P body c ms c') (hrun' : Run P body c' ms' c'') : Run P body c (ms ++ ms') c'' := by
  induction hrun' with
  | nil =>
    rw [List.append_nil]
    exact hrun
  | snoc _ hs ih =>
    rw [← List.append_assoc]
    exact .snoc ih hs

/-- What holds at the start and is kept by every step holds after every run. The
invariant may speak of the history. -/
theorem Run.invariant (Inv : Pool R σ ε ι → List (Moment R σ ε) → Prop) {c c' : Pool R σ ε ι}
    {ms : List (Moment R σ ε)} (hrun : Run P body c ms c') (hinit : Inv c [])
    (hstep : ∀ c₁ c₂ ms ms', Inv c₁ ms → Step P body c₁ ms' c₂ →
      Inv c₂ (ms ++ ms')) : Inv c' ms := by
  induction hrun with
  | nil => exact hinit
  | snoc _ hs ih => exact hstep _ _ _ _ ih hs

/-- A started operation stays among the tasks. -/
theorem Step.mem_tasks {c c' : Pool R σ ε ι} {ms : List (Moment R σ ε)} (h : Step P body c ms c')
    {op : ι} (hop : op ∈ c.tasks.map Prod.fst) : op ∈ c'.tasks.map Prod.fst := by
  cases h with
  | start => simpa using .inl (by simpa using hop)
  | serve => simpa using hop
  | resume => simpa using hop

/-- Only the bodies of the operations that were started matter. -/
theorem Run.congr_body {c c' : Pool R σ ε ι} {ms : List (Moment R σ ε)}
    (hrun : Run P body c ms c') (body' : ι → Prog R σ ε Unit)
    (h : ∀ op ∈ c'.tasks.map Prod.fst, body op = body' op) : Run P body' c ms c' := by
  induction hrun with
  | nil => exact .nil c
  | snoc hrun hstep ih =>
    apply Run.snoc (ih fun op hop => h op (hstep.mem_tasks hop))
    cases hstep with
    | start op hadv =>
      apply Step.start
      rw [← h op (by simp)]
      exact hadv
    | serve hserve => exact .serve hserve
    | resume hadv => exact .resume hadv

/-- No operation is under way. -/
def Quiescent (c : Pool R σ ε ι) : Prop := ∀ x ∈ c.tasks, x.2.isFinished = true

instance (c : Pool R σ ε ι) : Decidable c.Quiescent :=
  inferInstanceAs (Decidable (∀ x ∈ c.tasks, x.2.isFinished = true))

end Pool

theorem finished_of_any [DecidableEq ι] {ts : List (ι × Task R σ ε)} {op : ι}
    (h : (ts.any fun x => decide (x.1 = op) && x.2.isFinished) = true) : (op, .finished) ∈ ts := by
  obtain ⟨⟨op', t⟩, hmem, hx⟩ := List.any_eq_true.mp h
  obtain ⟨hop, ht⟩ := Bool.and_eq_true_iff.mp hx
  cases of_decide_eq_true hop
  cases t with
  | finished => exact hmem
  | waiting | ready => cases ht

/-- The answers of a history. -/
def answers (ms : List (Moment R σ ε)) : List (Event R σ ε) :=
  ms.filterMap fun
    | .issued _ _ => none
    | .answered ev => some ev

@[simp] theorem answers_append (ms ms' : List (Moment R σ ε)) :
    answers (ms ++ ms') = answers ms ++ answers ms' :=
  List.filterMap_append

section Performed

variable {P : Platform R σ}

theorem Prog.Advance.performed {p : Prog R σ ε Unit} {s s' : σ} {ms : List (Moment R σ ε)}
    {t : Task R σ ε} (h : p.Advance P s ms t s') :
    ∀ ev ∈ answers ms, ∃ s₁, P.perform ev.call ev.state ev.reply = some s₁ := by
  induction p generalizing s ms with
  | done r =>
    obtain ⟨rfl, -, -⟩ := h
    exact List.forall_mem_nil _
  | step u k ih => exact ih s h
  | call c k ih =>
    rw [Advance] at h
    split at h
    · obtain ⟨rfl, -, -⟩ := h
      exact List.forall_mem_nil _
    · obtain ⟨v, s₁, rest, hv, rfl, hk⟩ := h
      exact List.forall_mem_cons.mpr ⟨⟨s₁, hv⟩, ih (.ok v) hk⟩

/-- Every answer is one that the platform can give in the state it was given in. -/
theorem Pool.Run.performed {body : ι → Prog R σ ε Unit} {c c' : Pool R σ ε ι}
    {ms : List (Moment R σ ε)} (hrun : Pool.Run P body c ms c') :
    ∀ ev ∈ answers ms, ∃ s₁, P.perform ev.call ev.state ev.reply = some s₁ := by
  induction hrun with
  | nil => exact List.forall_mem_nil _
  | snoc _ hstep ih =>
    rw [answers_append]
    refine List.forall_mem_append.mpr ⟨ih, ?_⟩
    cases hstep with
    | start op h => exact h.performed
    | serve h => exact List.forall_mem_singleton.mpr ⟨_, h⟩
    | resume h => exact h.performed

end Performed

section Confined

variable {τ : Type} {ok : C → Prop} {view : σ → τ} {P : Platform R σ}

/-- What is left of a started operation is confined. -/
def Task.Confined (ok : C → Prop) (view : σ → τ) : Task R σ ε → Prop
  | waiting c k => ok c ∧ ∀ r, (k r).Confined ok view
  | ready p => p.Confined ok view
  | finished => True

/-- The call that is issued or answered. -/
def Moment.call : Moment R σ ε → C
  | issued _ c => c
  | answered ev => ev.call

/-- The state at a moment. -/
def Moment.state : Moment R σ ε → σ
  | issued s _ => s
  | answered ev => ev.state

theorem Prog.Confined.advance {p : Prog R σ ε Unit} (hp : p.Confined ok view) {s s' : σ}
    {ms : List (Moment R σ ε)} {t : Task R σ ε} (h : p.Advance P s ms t s') :
    t.Confined ok view ∧ ∀ m ∈ ms, ok m.call := by
  induction p generalizing s ms with
  | done r =>
    obtain ⟨rfl, rfl, -⟩ := h
    exact ⟨trivial, List.forall_mem_nil _⟩
  | step u k ih => exact ih s (hp.2 s) h
  | call c k ih =>
    rw [Prog.Advance] at h
    split at h
    · obtain ⟨rfl, rfl, -⟩ := h
      exact ⟨hp, List.forall_mem_singleton.mpr hp.1⟩
    · obtain ⟨v, s₁, rest, -, rfl, hk⟩ := h
      obtain ⟨ht, hrest⟩ := ih (.ok v) (hp.2 _) hk
      exact ⟨ht, List.forall_mem_cons.mpr ⟨hp.1, hrest⟩⟩

/-- If every operation is confined, then so is what is left of the started ones, and every
call of the history is allowed. -/
theorem Pool.Run.confined {body : ι → Prog R σ ε Unit} (hbody : ∀ op, (body op).Confined ok view)
    {c c' : Pool R σ ε ι} {ms : List (Moment R σ ε)} (hrun : Pool.Run P body c ms c')
    (hinit : ∀ x ∈ c.tasks, x.2.Confined ok view) :
    (∀ x ∈ c'.tasks, x.2.Confined ok view) ∧ ∀ m ∈ ms, ok m.call := by
  refine Pool.Run.invariant
    (fun c ms => (∀ x ∈ c.tasks, x.2.Confined ok view) ∧ ∀ m ∈ ms, ok m.call) hrun
    ⟨hinit, List.forall_mem_nil _⟩ ?_
  intro c₁ c₂ ms ms' ⟨htasks, hms⟩ hstep
  cases hstep with
  | start op h =>
    obtain ⟨ht, hms'⟩ := (hbody op).advance h
    exact ⟨List.forall_mem_append.mpr ⟨htasks, List.forall_mem_singleton.mpr ht⟩,
      List.forall_mem_append.mpr ⟨hms, hms'⟩⟩
  | serve h =>
    obtain ⟨hts, hw, hus⟩ := forall_tasks_iff.mp htasks
    exact ⟨forall_tasks_iff.mpr ⟨hts, hw.2 _, hus⟩,
      List.forall_mem_append.mpr ⟨hms, List.forall_mem_singleton.mpr hw.1⟩⟩
  | resume h =>
    obtain ⟨hts, hr, hus⟩ := forall_tasks_iff.mp htasks
    obtain ⟨ht, hms'⟩ := Prog.Confined.advance hr h
    exact ⟨forall_tasks_iff.mpr ⟨hts, ht, hus⟩,
      List.forall_mem_append.mpr ⟨hms, hms'⟩⟩

/-- A segment that may make no call makes none. -/
theorem Prog.Confined.advance_silent {p : Prog R σ ε Unit} (hp : p.Confined (fun _ => False) view)
    {s s' : σ} {ms : List (Moment R σ ε)} {t : Task R σ ε} (h : p.Advance P s ms t s') :
    ms = [] ∧ t.Confined (fun _ => False) view ∧ view s' = view s := by
  induction p generalizing s ms with
  | done r =>
    obtain ⟨rfl, rfl, rfl⟩ := h
    exact ⟨rfl, trivial, rfl⟩
  | step u k ih =>
    obtain ⟨hms, ht, hview⟩ := ih s (hp.2 s) h
    exact ⟨hms, ht, hview.trans (hp.1 s)⟩
  | call c k ih => exact absurd hp.1 not_false

/-- Every allowed call changes the view as `act` says of its event. -/
def Platform.ShowsOn (P : Platform R σ) (ok : C → Prop) (view : σ → τ)
    (act : τ → Event R σ ε → τ) : Prop :=
  ∀ (c : C) (s s' : σ) (r : Except ε (R c)), ok c → P.perform c s r = some s' →
    view s' = act (view s) ⟨s, c, r⟩

variable {act : τ → Event R σ ε → τ}

theorem Prog.Confined.advance_view (hP : P.ShowsOn ok view act) {p : Prog R σ ε Unit}
    (hp : p.Confined ok view) {s s' : σ} {ms : List (Moment R σ ε)} {t : Task R σ ε}
    (h : p.Advance P s ms t s') : view s' = (answers ms).foldl act (view s) := by
  induction p generalizing s ms with
  | done r =>
    obtain ⟨rfl, -, rfl⟩ := h
    rfl
  | step u k ih =>
    have hk := ih s (hp.2 s) h
    rw [hp.1 s] at hk
    exact hk
  | call c k ih =>
    rw [Prog.Advance] at h
    split at h
    · obtain ⟨rfl, -, rfl⟩ := h
      rfl
    · obtain ⟨v, s₁, rest, hv, rfl, hk⟩ := h
      have hrest := ih (.ok v) (hp.2 _) hk
      rw [hP c s s₁ (.ok v) hp.1 hv] at hrest
      exact hrest

/-- What the allowed calls preserve of the view, a segment preserves. -/
theorem Prog.Confined.advance_preserves {I : τ → Prop} (hP : ∀ (c : C) (s s' : σ)
    (r : Except ε (R c)), ok c → P.perform c s r = some s' → I (view s) → I (view s'))
    {p : Prog R σ ε Unit} (hp : p.Confined ok view) {s s' : σ} {ms : List (Moment R σ ε)}
    {t : Task R σ ε} (h : p.Advance P s ms t s') (hs : I (view s)) : I (view s') := by
  induction p generalizing s ms with
  | done r =>
    obtain ⟨-, -, rfl⟩ := h
    exact hs
  | step u k ih =>
    apply ih s (hp.2 s) h
    rw [hp.1 s]
    exact hs
  | call c k ih =>
    rw [Prog.Advance] at h
    split at h
    · obtain ⟨-, -, rfl⟩ := h
      exact hs
    · obtain ⟨v, s₁, rest, hv, -, hk⟩ := h
      exact ih (.ok v) (hp.2 _) hk (hP c s s₁ (.ok v) hp.1 hv hs)

/-- The view after a run is what the answers of the run make of it. -/
theorem Pool.Run.view_eq (hP : P.ShowsOn ok view act) {body : ι → Prog R σ ε Unit}
    (hbody : ∀ op, (body op).Confined ok view) {c c' : Pool R σ ε ι} {ms : List (Moment R σ ε)}
    (hrun : Pool.Run P body c ms c') (hinit : ∀ x ∈ c.tasks, x.2.Confined ok view) :
    view c'.state = (answers ms).foldl act (view c.state) := by
  induction hrun with
  | nil => rfl
  | @snoc c₁ c₂ ms ms' hrun hstep ih =>
    rw [answers_append, List.foldl_append, ← ih]
    have htasks := (hrun.confined hbody hinit).1
    cases hstep with
    | start op h => exact (hbody op).advance_view hP h
    | @serve s s' ts us op call k r h =>
      have hw := htasks (op, .waiting call k) (by simp)
      exact hP call s s' r hw.1 h
    | @resume s s' ts us op p ms' t h =>
      have hr := htasks (op, .ready p) (by simp)
      exact Prog.Confined.advance_view hP hr h

theorem eq_of_singleton_eq_append_cons {α : Type} {x m : α} {pre post : List α}
    (h : [x] = pre ++ m :: post) : pre = [] ∧ x = m := by
  cases pre with
  | nil => exact ⟨rfl, (List.cons.inj h).1⟩
  | cons y pre => simp at h

/-- Within a segment, too, the view is what the answers so far have made of it. -/
theorem Prog.Confined.advance_view_at (hP : P.ShowsOn ok view act) {p : Prog R σ ε Unit}
    (hp : p.Confined ok view) {s s' : σ} {ms pre post : List (Moment R σ ε)} {m : Moment R σ ε}
    {t : Task R σ ε} (h : p.Advance P s ms t s') (hms : ms = pre ++ m :: post) :
    view m.state = (answers pre).foldl act (view s) := by
  induction p generalizing s ms pre with
  | done r =>
    obtain ⟨rfl, -, -⟩ := h
    simp at hms
  | step u k ih =>
    have hk := ih s (hp.2 s) h hms
    rw [hp.1 s] at hk
    exact hk
  | call c k ih =>
    rw [Prog.Advance] at h
    split at h
    · obtain ⟨rfl, -, -⟩ := h
      obtain ⟨rfl, hm⟩ := eq_of_singleton_eq_append_cons hms
      rw [← hm]
      rfl
    · obtain ⟨v, s₁, rest, hv, rfl, hk⟩ := h
      cases pre with
      | nil =>
        obtain ⟨rfl, -⟩ := List.cons.inj hms
        rfl
      | cons m' pre =>
        obtain ⟨rfl, hrest⟩ := List.cons.inj hms
        have hm := ih (.ok v) (hp.2 _) hk hrest
        rw [hP c s s₁ (.ok v) hp.1 hv] at hm
        exact hm

/-- The view at a moment of a run is what the answers so far have made of it. -/
theorem Pool.Run.view_at (hP : P.ShowsOn ok view act) {body : ι → Prog R σ ε Unit}
    (hbody : ∀ op, (body op).Confined ok view) {c c' : Pool R σ ε ι}
    {ms pre post : List (Moment R σ ε)} {m : Moment R σ ε} (hrun : Pool.Run P body c ms c')
    (hinit : ∀ x ∈ c.tasks, x.2.Confined ok view) (hms : ms = pre ++ m :: post) :
    view m.state = (answers pre).foldl act (view c.state) := by
  induction hrun generalizing post with
  | nil => simp at hms
  | @snoc c₁ c₂ ms ms' hrun hstep ih =>
    have hview := hrun.view_eq hP hbody hinit
    have htasks := (hrun.confined hbody hinit).1
    have hlast : ∀ pre', ms' = pre' ++ m :: post →
        view m.state = (answers pre').foldl act (view c₁.state) := by
      intro pre' hms'
      cases hstep with
      | start op h => exact (hbody op).advance_view_at hP h hms'
      | @serve s s' ts us op call k r h =>
        obtain ⟨rfl, hm⟩ := eq_of_singleton_eq_append_cons hms'
        rw [← hm]
        rfl
      | @resume s s' ts us op p ms' t h =>
        have hr := htasks (op, .ready p) (by simp)
        exact Prog.Confined.advance_view_at hP hr h hms'
    rcases List.append_eq_append_iff.mp hms with ⟨pre', hpre, hms'⟩ | ⟨rest, hrest, hpost⟩
    · rw [hlast pre' hms', hpre, answers_append, List.foldl_append, hview]
    · cases rest with
      | nil =>
        rw [List.append_nil] at hrest
        rw [hlast [] hpost.symm, ← hrest, hview]
        rfl
      | cons m' rest =>
        obtain ⟨rfl, -⟩ := List.cons.inj hpost
        exact ih hrest

end Confined

section Since

variable {τ : Type} {ok : C → Prop} {view : σ → τ} {P : Platform R σ}
  {act : τ → Event R σ ε → τ} {body : ι → Prog R σ ε Unit} {c c' : Pool R σ ε ι}
    {ms : List (Moment R σ ε)}
  {pre mid post : List (Event R σ ε)} {ev ev' : Event R σ ε} {I : τ → Prop}
  (hP : P.ShowsOn ok view act) (hbody : ∀ op, (body op).Confined ok view)
  (hrun : Pool.Run P body c ms c') (hinit : ∀ x ∈ c.tasks, x.2.Confined ok view)

include hP hbody hrun hinit

/-- The view at an answer is what the earlier answers have made of it. -/
theorem Pool.Run.view_at_answer (h : answers ms = pre ++ ev :: post) :
    view ev.state = pre.foldl act (view c.state) := by
  obtain ⟨ms₁, ms₂, rfl, rfl, hms₂⟩ := List.filterMap_eq_append_iff.mp h
  obtain ⟨ms₃, m, ms₄, rfl, hnone, hm, -⟩ := List.filterMap_eq_cons_iff.mp hms₂
  cases m with
  | issued s call => cases hm
  | answered ev' =>
    cases hm
    have hms₃ : answers ms₃ = [] := List.filterMap_eq_nil_iff.mpr hnone
    have hview := hrun.view_at hP hbody hinit (List.append_assoc ms₁ ms₃ _).symm
    rw [answers_append, hms₃, List.append_nil] at hview
    exact hview

/-- What holds of the view after an answer and is kept by the next ones. -/
theorem Pool.Run.foldl_since (h : answers ms = pre ++ ev :: (mid ++ post))
    (hev : I (act (view ev.state) ev))
    (hkeep : ∀ e ∈ mid, I (view e.state) → I (act (view e.state) e)) :
    I ((pre ++ ev :: mid).foldl act (view c.state)) := by
  have hview := hrun.view_at_answer hP hbody hinit h
  induction mid generalizing pre ev with
  | nil =>
    rw [List.foldl_append, ← hview]
    exact hev
  | cons e mid ih =>
    have hsplit : ∀ l, pre ++ ev :: e :: l = (pre ++ [ev]) ++ e :: l := by simp
    rw [List.cons_append, hsplit] at h
    rw [hsplit]
    have hnext := hrun.view_at_answer hP hbody hinit h
    have hstate : view e.state = act (view ev.state) ev := by
      rw [hnext, List.foldl_append, ← hview]
      rfl
    apply ih h _ (fun e' he' => hkeep e' (List.mem_cons_of_mem _ he')) hnext
    apply hkeep e List.mem_cons_self
    rw [hstate]
    exact hev

/-- What holds of the view after an answer and is kept by the later ones holds in the end. -/
theorem Pool.Run.view_since (h : answers ms = pre ++ ev :: post)
    (hev : I (act (view ev.state) ev))
    (hkeep : ∀ e ∈ post, I (view e.state) → I (act (view e.state) e)) : I (view c'.state) := by
  rw [hrun.view_eq hP hbody hinit, h]
  rw [← List.append_nil post] at h
  exact hrun.foldl_since hP hbody hinit h hev hkeep

/-- Until some other answer it holds as well. -/
theorem Pool.Run.view_until (h : answers ms = pre ++ ev :: (mid ++ ev' :: post))
    (hev : I (act (view ev.state) ev))
    (hkeep : ∀ e ∈ mid, I (view e.state) → I (act (view e.state) e)) : I (view ev'.state) := by
  have hmid := hrun.foldl_since hP hbody hinit h hev hkeep
  rw [← List.cons_append, ← List.append_assoc] at h
  rw [hrun.view_at_answer hP hbody hinit h]
  exact hmid

end Since

section Single

variable {P : Platform R σ} {body : ι → Prog R σ ε Unit} {op : ι}

variable (body op) in
/-- A run of one program, cut into the segments of a task. -/
theorem Prog.Run.exists_advance {p : Prog R σ ε Unit} {s s' : σ} {tr : List (Event R σ ε)}
    {r : Except ε Unit} (h : p.Run P s tr r s') : ∃ ms t s₁ ms', p.Advance P s ms t s₁ ∧
      Pool.Run P body ⟨s₁, [(op, t)]⟩ ms' ⟨s', [(op, .finished)]⟩ ∧
        answers ms ++ answers ms' = tr := by
  induction p generalizing s tr with
  | done out =>
    obtain ⟨rfl, -, rfl⟩ := h
    exact ⟨[], .finished, _, [], ⟨rfl, rfl, rfl⟩, .nil _, rfl⟩
  | step u k ih => exact ih s h
  | call c k ih =>
    obtain ⟨reply, s₁, rest, hc, rfl, hk⟩ := h
    obtain ⟨ms, t, s₂, ms', hadv, hrun, rfl⟩ := ih reply hk
    by_cases ha : P.awaited c = true
    · have hserve : Pool.Step P body ⟨s, [] ++ (op, .waiting c k) :: []⟩ [.answered ⟨s, c, reply⟩]
          ⟨s₁, [] ++ (op, .ready (k reply)) :: []⟩ := .serve hc
      have hresume : Pool.Step P body ⟨s₁, [] ++ (op, .ready (k reply)) :: []⟩ ms
          ⟨s₂, [] ++ (op, t) :: []⟩ := .resume hadv
      refine ⟨[.issued s c], .waiting c k, s, _, ?_, .cons hserve (.cons hresume hrun), ?_⟩
      · rw [Prog.Advance, if_pos ha]
        exact ⟨rfl, rfl, rfl⟩
      · simp [answers]
    · cases reply with
      | error e =>
        rw [Platform.perform, if_neg ha] at hc
        cases hc
      | ok v =>
        refine ⟨.answered ⟨s, c, .ok v⟩ :: ms, t, s₂, ms', ?_, hrun, rfl⟩
        rw [Prog.Advance, if_neg ha]
        exact ⟨v, s₁, ms, hc, rfl, hadv⟩

/-- A run of one program is a run of the pool. -/
theorem Prog.Run.pool {s s' : σ} {tr : List (Event R σ ε)} {r : Except ε Unit}
    (h : (body op).Run P s tr r s') : ∃ ms, Pool.Run P body ⟨s, []⟩ ms ⟨s', [(op, .finished)]⟩ ∧
      answers ms = tr := by
  obtain ⟨ms, t, s₁, ms', hadv, hrun, rfl⟩ := h.exists_advance body op
  exact ⟨ms ++ ms', .cons (.start op hadv) hrun, answers_append ms ms'⟩

end Single

section Restrict

/-- The platform that gives only answers which are `ok`. -/
def Platform.restrict (P : Platform R σ) (ok : Event R σ ε → Prop) [DecidablePred ok] :
    Platform R σ where
  awaited := P.awaited
  effect c s v := if ok ⟨s, c, .ok v⟩ then P.effect c s v else none

variable {P : Platform R σ} {ok : Event R σ ε → Prop} [DecidablePred ok]

theorem Platform.restrict_effect_eq_some {c : C} {s s' : σ} {v : R c} :
    (P.restrict ok).effect c s v = some s' ↔ ok ⟨s, c, .ok v⟩ ∧ P.effect c s v = some s' :=
  Option.ite_none_right_eq_some

theorem Prog.Advance.restrict {p : Prog R σ ε Unit} {s s' : σ} {ms : List (Moment R σ ε)}
    {t : Task R σ ε} (h : p.Advance P s ms t s') (hok : ∀ ev ∈ answers ms, ok ev) :
    p.Advance (P.restrict ok) s ms t s' := by
  induction p generalizing s ms with
  | done r => exact h
  | step u k ih => exact ih s h hok
  | call c k ih =>
    rw [Prog.Advance] at h ⊢
    split at h
    case isTrue ha =>
      rw [if_pos (show (P.restrict ok).awaited c = true from ha)]
      exact h
    case isFalse ha =>
      rw [if_neg (show ¬ (P.restrict ok).awaited c = true from ha)]
      obtain ⟨v, s₁, rest, hv, rfl, hk⟩ := h
      have hev : ok ⟨s, c, .ok v⟩ := hok _ (List.mem_cons_self)
      exact ⟨v, s₁, rest, (if_pos hev).trans hv, rfl,
        ih (.ok v) hk fun ev hmem => hok ev (List.mem_cons_of_mem _ hmem)⟩

/-- A run all of whose answers are `ok` is a run of the restricted platform. -/
theorem Pool.Run.restrict {body : ι → Prog R σ ε Unit} {c c' : Pool R σ ε ι}
    {ms : List (Moment R σ ε)} (hrun : Pool.Run P body c ms c') (hok : ∀ ev ∈ answers ms, ok ev) :
    Pool.Run (P.restrict ok) body c ms c' := by
  induction hrun with
  | nil => exact .nil c
  | snoc hrun hstep ih =>
    rw [answers_append, List.forall_mem_append] at hok
    apply Pool.Run.snoc (ih hok.1)
    cases hstep with
    | start op h => exact .start op (h.restrict hok.2)
    | @serve s s' ts us op call k r h =>
      apply Pool.Step.serve
      cases r with
      | error e => exact h
      | ok v => exact (if_pos (hok.2 _ (List.mem_singleton_self _))).trans h
    | resume h => exact .resume (h.restrict hok.2)

end Restrict

section Scenario

variable {P : Platform R σ} {script : σ → (c : C) → Except ε (R c)} {body : ι → Prog R σ ε Unit}

/-- The segment in which every synchronous call is answered as the script says. -/
def Prog.advance (P : Platform R σ) (script : σ → (c : C) → Except ε (R c)) :
    Prog R σ ε Unit → σ → Option (List (Moment R σ ε) × Task R σ ε × σ)
  | done _, s => some ([], .finished, s)
  | step u k, s => (k s).advance P script (u s)
  | call c k, s =>
    if P.awaited c = true then some ([.issued s c], .waiting c k, s)
    else
      match script s c with
      | .ok v => do
        let s₁ ← P.effect c s v
        let (rest, out) ← (k (.ok v)).advance P script s₁
        return (.answered ⟨s, c, .ok v⟩ :: rest, out)
      | .error _ => none

theorem Prog.advance_sound {p : Prog R σ ε Unit} {s s' : σ} {ms : List (Moment R σ ε)}
    {t : Task R σ ε} (h : p.advance P script s = some (ms, t, s')) : p.Advance P s ms t s' := by
  induction p generalizing s ms with
  | done r =>
    cases h
    exact ⟨rfl, rfl, rfl⟩
  | step u k ih => exact ih s h
  | call c k ih =>
    rw [advance] at h
    rw [Advance]
    split at h
    case isTrue ha =>
      rw [if_pos ha]
      cases h
      exact ⟨rfl, rfl, rfl⟩
    case isFalse ha =>
      rw [if_neg ha]
      cases hr : script s c with
      | error e =>
        rw [hr] at h
        cases h
      | ok v =>
        simp only [hr, Option.pure_def, Option.bind_eq_bind, Option.bind_eq_some_iff] at h
        obtain ⟨s₁, hs₁, ⟨rest, out⟩, hk, heq⟩ := h
        cases heq
        exact ⟨v, s₁, rest, hs₁, rfl, ih (.ok v) hk⟩

namespace Pool

/-- What is to happen next: an operation starts, or the task at a position goes on. -/
inductive Move (ι : Type) where
  | start (op : ι)
  | go (n : Nat)

/-- The step that the script makes of a move. -/
def move (P : Platform R σ) (body : ι → Prog R σ ε Unit) (script : σ → (c : C) → Except ε (R c))
    (c : Pool R σ ε ι) : Move ι → Option (List (Moment R σ ε) × Pool R σ ε ι)
  | .start op => do
    let (ms, t, s) ← (body op).advance P script c.state
    return (ms, ⟨s, c.tasks ++ [(op, t)]⟩)
  | .go n =>
    match c.tasks.drop n with
    | (op, .waiting call k) :: us => do
      let r := script c.state call
      let s ← P.perform call c.state r
      return ([.answered ⟨c.state, call, r⟩], ⟨s, c.tasks.take n ++ (op, .ready (k r)) :: us⟩)
    | (op, .ready p) :: us => do
      let (ms, t, s) ← p.advance P script c.state
      return (ms, ⟨s, c.tasks.take n ++ (op, t) :: us⟩)
    | _ => none

theorem move_sound {c c' : Pool R σ ε ι} {m : Move ι} {ms : List (Moment R σ ε)}
    (h : c.move P body script m = some (ms, c')) : Step P body c ms c' := by
  obtain ⟨s, ts⟩ := c
  cases m with
  | start op =>
    simp only [move, Option.pure_def, Option.bind_eq_bind, Option.bind_eq_some_iff] at h
    obtain ⟨⟨ms', t, s'⟩, hseg, heq⟩ := h
    cases heq
    exact .start op (Prog.advance_sound hseg)
  | go n =>
    rw [← List.take_append_drop n ts]
    simp only [move] at h
    split at h
    case h_1 op call k us hdrop =>
      simp only [Option.pure_def, Option.bind_eq_bind, Option.bind_eq_some_iff] at h
      obtain ⟨s', hs', heq⟩ := h
      cases heq
      rw [hdrop]
      exact .serve hs'
    case h_2 op p us hdrop =>
      simp only [Option.pure_def, Option.bind_eq_bind, Option.bind_eq_some_iff] at h
      obtain ⟨⟨ms', t, s'⟩, hseg, heq⟩ := h
      cases heq
      rw [hdrop]
      exact .resume (Prog.advance_sound hseg)
    case h_3 => cases h

/-- A step with a property, from the computation that finds it. -/
theorem exists_step_of_move {c : Pool R σ ε ι} (m : Move ι)
    {q : List (Moment R σ ε) × Pool R σ ε ι → Bool}
    (h : (c.move P body script m).any q = true) :
    ∃ ms c', Step P body c ms c' ∧ q (ms, c') = true := by
  cases hm : c.move P body script m with
  | none =>
    rw [hm] at h
    cases h
  | some out =>
    rw [hm] at h
    exact ⟨out.1, out.2, move_sound hm, h⟩

/-- The run in which the moves happen in the given order. -/
def follow (P : Platform R σ) (body : ι → Prog R σ ε Unit) (script : σ → (c : C) → Except ε (R c))
    (c : Pool R σ ε ι) : List (Move ι) → Option (List (Moment R σ ε) × Pool R σ ε ι)
  | [] => some ([], c)
  | m :: rest => do
    let (ms, c') ← c.move P body script m
    let (ms', c'') ← c'.follow P body script rest
    return (ms ++ ms', c'')

theorem follow_sound {c c' : Pool R σ ε ι} {moves : List (Move ι)} {ms : List (Moment R σ ε)}
    (h : c.follow P body script moves = some (ms, c')) : Run P body c ms c' := by
  induction moves generalizing c ms with
  | nil =>
    cases h
    exact .nil _
  | cons m rest ih =>
    simp only [follow, Option.pure_def, Option.bind_eq_bind, Option.bind_eq_some_iff] at h
    obtain ⟨⟨ms', c₁⟩, hm, ⟨ms'', c₂⟩, hrest, heq⟩ := h
    cases heq
    exact .cons (move_sound hm) (ih hrest)

/-- A run with a property, from the computation that finds it. -/
theorem exists_run_of_follow {c : Pool R σ ε ι} (moves : List (Move ι))
    {q : List (Moment R σ ε) × Pool R σ ε ι → Bool}
    (h : (c.follow P body script moves).any q = true) :
    ∃ ms c', Run P body c ms c' ∧ q (ms, c') = true := by
  cases hf : c.follow P body script moves with
  | none =>
    rw [hf] at h
    cases h
  | some out =>
    rw [hf] at h
    exact ⟨out.1, out.2, follow_sound hf, h⟩

end Pool

end Scenario

end Async
