import AroundMuseo.Core.Projection

/-!
# Phases of an exclusive operation

A monitor reads the events of a history and is in a phase after each of them. An operation
follows it if it makes only calls that its phase allows. As long as the state keeps a second
operation out while one is under way, all calls of a pool are allowed in their phases.
-/

namespace Async

variable {C : Type} {R : C → Type} {σ ε γ ι α β : Type}

/-- The phases, how events change them, and the calls that they allow. -/
structure Monitor (R : C → Type) (σ ε γ : Type) where
  first : γ
  next : γ → Event R σ ε → γ
  allowed : γ → C → Prop

namespace Monitor

/-- The phase after some events. -/
def phase (M : Monitor R σ ε γ) (tr : List (Event R σ ε)) : γ := tr.foldl M.next M.first

/-- Every call was allowed in its phase. -/
def Accepts (M : Monitor R σ ε γ) (tr : List (Event R σ ε)) : Prop :=
  ∀ pre ev post, tr = pre ++ ev :: post → M.allowed (M.phase pre) ev.call

variable {M : Monitor R σ ε γ} {tr : List (Event R σ ε)} {ev : Event R σ ε}

@[simp] theorem phase_nil : M.phase [] = M.first := rfl

/-- The phase after one more event. -/
theorem phase_snoc : M.phase (tr ++ [ev]) = M.next (M.phase tr) ev := by
  unfold phase
  rw [List.foldl_append]
  rfl

theorem accepts_nil : M.Accepts [] := by
  intro pre ev post h
  simp at h

/-- One more event is accepted in the phase before it. -/
theorem accepts_snoc : M.Accepts (tr ++ [ev]) ↔ M.Accepts tr ∧ M.allowed (M.phase tr) ev.call := by
  constructor
  · intro h
    refine ⟨fun pre ev' post htr => ?_, h tr ev [] rfl⟩
    apply h pre ev' (post ++ [ev])
    rw [htr, List.append_assoc, List.cons_append]
  · rintro ⟨h, hlast⟩ pre ev' post htr
    rcases List.eq_nil_or_concat post with rfl | ⟨post, last, rfl⟩
    · obtain ⟨rfl, hev⟩ := List.append_inj' htr rfl
      cases hev
      exact hlast
    · have hsplit : tr ++ [ev] = (pre ++ ev' :: post) ++ [last] := by
        rw [htr]
        simp
      obtain ⟨rfl, -⟩ := List.append_inj' hsplit rfl
      exact h pre ev' post rfl

/-- The monitor of one of the named callers. -/
def caller (M : Monitor (NamedReply ι R) σ ε γ) (i : ι) : Monitor R σ ε γ where
  first := M.first
  next g ev := M.next g ⟨ev.state, (i, ev.call), ev.reply⟩
  allowed g c := M.allowed g (i, c)

end Monitor

namespace Prog

/-- In phase `g`, at `s`, the program goes on with calls that are allowed, and ends in `Q`; the
others run only while the state is `closed`. -/
def Follows (P : Platform R σ) (M : Monitor R σ ε γ) (closed : σ → Prop) :
    Prog R σ ε α → (Except ε α → γ → σ → Prop) → γ → σ → Prop
  | done r, Q, g, s => Q r g s
  | step u k, Q, g, s => (k s).Follows P M closed Q g (u s)
  | call c k, Q, g, s => M.allowed g c ∧
    if P.awaited c = true then
      closed s ∧ ∀ r s₁ s₂, closed s₁ → closed s₂ →
        (k r).Follows P M closed Q (M.next g ⟨s₁, c, r⟩) s₂
    else ∀ v s', P.effect c s v = some s' →
      (k (.ok v)).Follows P M closed Q (M.next g ⟨s, c, .ok v⟩) s'

variable {P : Platform R σ} {M : Monitor R σ ε γ} {closed : σ → Prop}
  {Q Q' : Except ε α → γ → σ → Prop} {g : γ} {s : σ}

/-- Less may be said of the phase at the end. -/
theorem follows_mono {p : Prog R σ ε α} (h : p.Follows P M closed Q g s)
    (hQ : ∀ r g s, Q r g s → Q' r g s) : p.Follows P M closed Q' g s := by
  induction p generalizing g s with
  | done r => exact hQ r g s h
  | step u k ih => exact ih s h
  | call c k ih =>
    rw [Follows] at h ⊢
    refine ⟨h.1, ?_⟩
    by_cases ha : P.awaited c = true
    · rw [if_pos ha] at h ⊢
      exact ⟨h.2.1, fun r s₁ s₂ h₁ h₂ => ih r (h.2.2 r s₁ s₂ h₁ h₂)⟩
    · rw [if_neg ha] at h ⊢
      exact fun v s' hv => ih (.ok v) (h.2 v s' hv)

/-- The second program goes on in the phase where the first ends. -/
theorem follows_andThen {p : Prog R σ ε α} {f : Except ε α → Prog R σ ε β}
    {Q : Except ε β → γ → σ → Prop}
    (h : p.Follows P M closed (fun r g s => (f r).Follows P M closed Q g s) g s) :
    (p.andThen f).Follows P M closed Q g s := by
  induction p generalizing g s with
  | done r => exact h
  | step u k ih => exact ih s h
  | call c k ih =>
    rw [Follows] at h
    rw [andThen, Follows]
    refine ⟨h.1, ?_⟩
    by_cases ha : P.awaited c = true
    · rw [if_pos ha] at h ⊢
      exact ⟨h.2.1, fun r s₁ s₂ h₁ h₂ => ih r (h.2.2 r s₁ s₂ h₁ h₂)⟩
    · rw [if_neg ha] at h ⊢
      exact fun v s' hv => ih (.ok v) (h.2 v s' hv)

/-- The continuation starts in the phase that is reached. -/
theorem follows_bind {p : Prog R σ ε α} {f : α → Prog R σ ε β} {Q : Except ε β → γ → σ → Prop}
    (h : p.Follows P M closed (fun r g s => match r with
      | .ok a => (f a).Follows P M closed Q g s
      | .error e => Q (.error e) g s) g s) : (p >>= f).Follows P M closed Q g s := by
  refine follows_andThen (follows_mono h fun r g s h => ?_)
  cases r <;> exact h

/-- So does the handler. -/
theorem follows_handle {p : Prog R σ ε α} {h : ε → Prog R σ ε α}
    (hp : p.Follows P M closed (fun r g s => match r with
      | .ok a => Q (.ok a) g s
      | .error e => (h e).Follows P M closed Q g s) g s) :
    (tryCatch p h).Follows P M closed Q g s := by
  refine follows_andThen (follows_mono hp fun r g s h => ?_)
  cases r <;> exact h

theorem follows_unawaited {p : Prog R σ ε α} {Q : Except ε Unit → γ → σ → Prop}
    (h : p.Follows P M closed (fun _ g s => Q (.ok ()) g s) g s) :
    p.unawaited.Follows P M closed Q g s :=
  follows_andThen h

/-- An awaited call: the others run before it is answered and after. -/
theorem follows_invoke {c : C} {Q : Except ε (R c) → γ → σ → Prop} (ha : P.awaited c = true)
    (hallowed : M.allowed g c) (hs : closed s)
    (h : ∀ r s₁ s₂, closed s₁ → closed s₂ → Q r (M.next g ⟨s₁, c, r⟩) s₂) :
    (invoke c).Follows P M closed Q g s := by
  rw [invoke, Follows, if_pos ha]
  exact ⟨hallowed, hs, h⟩

/-- A synchronous call. -/
theorem follows_invoke_sync {c : C} {Q : Except ε (R c) → γ → σ → Prop} (ha : P.awaited c = false)
    (hallowed : M.allowed g c)
    (h : ∀ v s', P.effect c s v = some s' → Q (.ok v) (M.next g ⟨s, c, .ok v⟩) s') :
    (invoke c).Follows P M closed Q g s := by
  rw [invoke, Follows, if_neg (by simp [ha])]
  exact ⟨hallowed, h⟩

theorem follows_read_bind {f : σ → α} {k : α → Prog R σ ε β} {Q : Except ε β → γ → σ → Prop}
    (h : (k (f s)).Follows P M closed Q g s) : (read f >>= k).Follows P M closed Q g s := h

theorem follows_modify_bind {u : σ → σ} {k : Unit → Prog R σ ε β} {Q : Except ε β → γ → σ → Prop}
    (h : (k ()).Follows P M closed Q g (u s)) : (modify u >>= k).Follows P M closed Q g s := h

/-- A program whose calls are all allowed in the phase and do not change it. -/
theorem Confined.follows {τ : Type} {ok : C → Prop} {view : σ → τ}
    (hallowed : ∀ c, ok c → M.allowed g c) (hnext : ∀ c s r, ok c → M.next g ⟨s, c, r⟩ = g)
    (hview : ∀ s s', view s' = view s → closed s → closed s')
    (hcall : ∀ c s v s', P.effect c s v = some s' → closed s → closed s')
    {p : Prog R σ ε α} (hp : p.Confined ok view) (hs : closed s) :
    p.Follows P M closed (fun _ g' s' => g' = g ∧ closed s') g s := by
  induction p generalizing s with
  | done r => exact ⟨rfl, hs⟩
  | step u k ih => exact ih s (hp.2 s) (hview s (u s) (hp.1 s) hs)
  | call c k ih =>
    rw [Follows]
    refine ⟨hallowed c hp.1, ?_⟩
    by_cases ha : P.awaited c = true
    · rw [if_pos ha]
      refine ⟨hs, fun r s₁ s₂ _ h₂ => ?_⟩
      rw [hnext c s₁ r hp.1]
      exact ih r (hp.2 r) h₂
    · rw [if_neg ha]
      intro v s' hv
      rw [hnext c s (.ok v) hp.1]
      exact ih (.ok v) (hp.2 _) (hcall c s v s' hv hs)

/-- A program follows the monitor under its name. -/
theorem Follows.named {M : Monitor (NamedReply ι R) σ ε γ} {i : ι} {p : Prog R σ ε α}
    (h : p.Follows P (M.caller i) closed Q g s) :
    (p.named (Parts.whole ι σ) i).Follows (P.named (Parts.whole ι σ)) M closed Q g s := by
  induction p generalizing g s with
  | done r => exact h
  | step u k ih => exact ih s h
  | call c k ih =>
    rw [Follows] at h
    rw [Prog.named, Follows]
    refine ⟨h.1, ?_⟩
    by_cases ha : P.awaited c = true
    · rw [if_pos ha] at h
      rw [if_pos (show (P.named (Parts.whole ι σ)).awaited (i, c) = true from ha)]
      exact ⟨h.2.1, fun r s₁ s₂ h₁ h₂ => ih r (h.2.2 r s₁ s₂ h₁ h₂)⟩
    · rw [if_neg ha] at h
      rw [if_neg (show ¬ (P.named (Parts.whole ι σ)).awaited (i, c) = true from ha)]
      intro v s' hv
      rw [P.named_whole_effect] at hv
      exact ih (.ok v) (h.2 v s' hv)

/-- The phase that a program is in at its end, if the others may do anything meanwhile. -/
theorem Follows.admits {p : Prog R σ ε α} {s' : σ} {ms : List (Moment R σ ε)} {out : Except ε α}
    (hp : p.Follows P M (fun _ => True) Q g s) (h : p.Admits P s ms out s') :
    Q out ((answers ms).foldl M.next g) s' := by
  induction p generalizing g s ms with
  | done r =>
    obtain ⟨rfl, rfl, rfl⟩ := h
    exact hp
  | step u k ih => exact ih s hp h
  | call c k ih =>
    rw [Follows] at hp
    rw [Admits] at h
    split at h
    case isTrue ha =>
      rw [if_pos ha] at hp
      obtain ⟨s₁, r, s₂, s₃, rest, -, rfl, hk⟩ := h
      have hrest := ih r (hp.2.2 r s₁ s₃ trivial trivial) hk
      exact hrest
    case isFalse ha =>
      rw [if_neg ha] at hp
      obtain ⟨v, s₁, rest, hv, rfl, hk⟩ := h
      have hrest := ih (.ok v) (hp.2 v s₁ hv) hk
      exact hrest

/-- Only awaited calls throw. -/
theorem awaited_of_admits {p : Prog R σ ε α} {s' : σ} {ms : List (Moment R σ ε)} {out : Except ε α}
    (h : p.Admits P s ms out s') {ev : Event R σ ε} (hev : ev ∈ answers ms) {e : ε}
    (he : ev.reply = .error e) : P.awaited ev.call = true := by
  induction p generalizing s ms with
  | done r =>
    obtain ⟨rfl, -⟩ := h
    simp [answers] at hev
  | step u k ih => exact ih s h hev
  | call c k ih =>
    rw [Admits] at h
    split at h
    case isTrue ha =>
      obtain ⟨s₁, r, s₂, s₃, rest, -, rfl, hk⟩ := h
      rcases List.mem_cons.mp hev with rfl | hrest
      · exact ha
      · exact ih r hk hrest
    case isFalse =>
      obtain ⟨v, s₁, rest, -, rfl, hk⟩ := h
      rcases List.mem_cons.mp hev with rfl | hrest
      · cases he
      · exact ih (.ok v) hk hrest

end Prog

section Pool

variable {P : Platform R σ} {M : Monitor R σ ε γ} {closed : σ → Prop} {body : ι → Prog R σ ε Unit}

/-- What is left of a task follows the monitor from the phase on. -/
def Task.Follows (P : Platform R σ) (M : Monitor R σ ε γ) (closed : σ → Prop) (g : γ) :
    Task R σ ε → Prop
  | waiting c k => M.allowed g c ∧ ∀ r s₁ s₂, closed s₁ → closed s₂ →
      (k r).Follows P M closed (fun _ _ => closed) (M.next g ⟨s₁, c, r⟩) s₂
  | ready p => ∀ s, closed s → p.Follows P M closed (fun _ _ => closed) g s
  | finished => True

/-- A finished task follows whatever the phase. -/
theorem Task.follows_of_isFinished {t : Task R σ ε} (h : t.isFinished = true) (g : γ) :
    t.Follows P M closed g := by
  cases t with
  | finished => trivial
  | waiting | ready => cases h

/-- A segment makes allowed calls, and leaves the state closed. -/
theorem Prog.Follows.advance {p : Prog R σ ε Unit} {s s' : σ} {tr : List (Event R σ ε)}
    {ms : List (Moment R σ ε)} {t : Task R σ ε}
    (hp : p.Follows P M closed (fun _ _ => closed) (M.phase tr) s) (h : p.Advance P s ms t s')
    (hacc : M.Accepts tr) : M.Accepts (tr ++ answers ms) ∧
      t.Follows P M closed (M.phase (tr ++ answers ms)) ∧ closed s' := by
  induction p generalizing tr s ms with
  | done r =>
    obtain ⟨rfl, rfl, rfl⟩ := h
    have hnil : tr ++ answers ([] : List (Moment R σ ε)) = tr := List.append_nil tr
    rw [hnil]
    exact ⟨hacc, trivial, hp⟩
  | step u k ih => exact ih s hp h hacc
  | call c k ih =>
    rw [Prog.Follows] at hp
    rw [Prog.Advance] at h
    by_cases ha : P.awaited c = true
    · rw [if_pos ha] at hp h
      obtain ⟨rfl, rfl, rfl⟩ := h
      have hnil : tr ++ answers [(Moment.issued s' c : Moment R σ ε)] = tr := List.append_nil tr
      rw [hnil]
      exact ⟨hacc, ⟨hp.1, hp.2.2⟩, hp.2.1⟩
    · rw [if_neg ha] at hp h
      obtain ⟨v, s₁, rest, hv, rfl, hk⟩ := h
      have hnext := hp.2 v s₁ hv
      rw [← Monitor.phase_snoc] at hnext
      have hrest := ih (.ok v) hnext hk (Monitor.accepts_snoc.mpr ⟨hacc, hp.1⟩)
      rwa [List.append_assoc] at hrest

/-- How many tasks are under way. -/
def Pool.underWay (ts : List (ι × Task R σ ε)) : Nat := ts.countP fun x => !x.2.isFinished

/-- The tasks under way when one of them moves. -/
theorem Pool.underWay_replace (ts us : List (ι × Task R σ ε)) (op : ι) (t : Task R σ ε) :
    underWay (ts ++ (op, t) :: us) =
      underWay ts + underWay us + if t.isFinished then 0 else 1 := by
  unfold underWay
  rw [List.countP_append, List.countP_cons]
  cases t.isFinished <;> simp [Nat.add_assoc]

/-- With nothing under way all tasks follow. -/
theorem Pool.follows_of_underWay {ts : List (ι × Task R σ ε)} (h : underWay ts = 0) (g : γ) :
    ∀ x ∈ ts, x.2.Follows P M closed g := by
  intro x hx
  apply Task.follows_of_isFinished
  simpa using List.countP_eq_zero.mp h x hx

/-- Either nothing has happened and nothing is under way, or the state is closed and the one
task under way follows the monitor. -/
structure Pool.Exclusive (P : Platform R σ) (M : Monitor R σ ε γ) (closed : σ → Prop)
    (c : Pool R σ ε ι) (ms : List (Moment R σ ε)) : Prop where
  accepts : M.Accepts (answers ms)
  idle : ¬ closed c.state → answers ms = [] ∧ underWay c.tasks = 0
  one : underWay c.tasks ≤ 1
  follows : ∀ x ∈ c.tasks, x.2.Follows P M closed (M.phase (answers ms))

/-- A task that is under way is the only one, in a closed state. -/
theorem Pool.Exclusive.of_unfinished {s : σ} {ts us : List (ι × Task R σ ε)} {op : ι}
    {t : Task R σ ε}
    {ms : List (Moment R σ ε)} (h : Pool.Exclusive P M closed ⟨s, ts ++ (op, t) :: us⟩ ms)
    (ht : t.isFinished = false) : closed s ∧ underWay ts = 0 ∧ underWay us = 0 := by
  have hcount := underWay_replace ts us op t
  have hone : underWay (ts ++ (op, t) :: us) ≤ 1 := h.one
  simp only [ht, Bool.false_eq_true, if_false] at hcount
  refine ⟨?_, by omega, by omega⟩
  by_contra hs
  have hidle : underWay (ts ++ (op, t) :: us) = 0 := (h.idle hs).2
  omega

variable {s s' : σ} {ts us : List (ι × Task R σ ε)} {op : ι} {t : Task R σ ε}
  {ms ms' : List (Moment R σ ε)}

/-- An operation that starts does nothing, or is the first one. -/
theorem Pool.Exclusive.start (hinv : Pool.Exclusive P M closed ⟨s, ts⟩ ms)
    (h : (body op).Advance P s ms' t s')
    (hstart : ms' = [] ∧ t = .finished ∧ (closed s' ↔ closed s) ∨
      ¬ closed s ∧ (body op).Follows P M closed (fun _ _ => closed) M.first s) :
    Pool.Exclusive P M closed ⟨s', ts ++ [(op, t)]⟩ (ms ++ ms') := by
  rcases hstart with ⟨rfl, rfl, hclosed⟩ | ⟨hopen, hbody⟩
  · have hcount : underWay (ts ++ [(op, Task.finished)]) = underWay ts :=
      underWay_replace ts [] op _
    rw [List.append_nil]
    refine ⟨hinv.accepts, fun hs => ?_, hcount ▸ hinv.one, ?_⟩
    · rw [hcount]
      exact hinv.idle fun hs' => hs (hclosed.mpr hs')
    · exact List.forall_mem_append.mpr ⟨hinv.follows, List.forall_mem_singleton.mpr trivial⟩
  · obtain ⟨hnone, hidle⟩ := hinv.idle hopen
    have hphase : M.first = M.phase (answers ms) := by
      rw [hnone]
      rfl
    rw [hphase] at hbody
    obtain ⟨haccepts, ht, hs'⟩ := hbody.advance h hinv.accepts
    refine ⟨?_, fun hs => absurd hs' hs, ?_, ?_⟩
    · rw [answers_append]
      exact haccepts
    · have hcount := underWay_replace ts [] op t
      rw [hidle] at hcount
      rw [hcount]
      split <;> simp [underWay]
    · rw [answers_append]
      exact List.forall_mem_append.mpr
        ⟨follows_of_underWay hidle _, List.forall_mem_singleton.mpr ht⟩

/-- The one task under way is replaced by what follows the monitor. -/
theorem Pool.Exclusive.replace {t' : Task R σ ε}
    (hinv : Pool.Exclusive P M closed ⟨s, ts ++ (op, t) :: us⟩ ms)
    (ht : t.isFinished = false) (hs' : closed s') (haccepts : M.Accepts (answers (ms ++ ms')))
    (ht' : t'.Follows P M closed (M.phase (answers (ms ++ ms')))) :
    Pool.Exclusive P M closed ⟨s', ts ++ (op, t') :: us⟩ (ms ++ ms') := by
  obtain ⟨-, hts, hus⟩ := hinv.of_unfinished ht
  refine ⟨haccepts, fun hno => absurd hs' hno, ?_, ?_⟩
  · rw [underWay_replace, hts, hus]
    split <;> simp
  · exact forall_tasks_iff.mpr ⟨follows_of_underWay hts _, ht', follows_of_underWay hus _⟩

/-- If an operation that starts in a closed state does nothing, and one that starts in any other
state does nothing or follows the monitor, then so does the pool. -/
theorem Pool.Run.exclusive (hperform : ∀ c s r s', P.perform (ε := ε) c s r = some s' →
      (closed s' ↔ closed s))
    (hstart : ∀ op s ms t s', (body op).Advance P s ms t s' →
      ms = [] ∧ t = .finished ∧ (closed s' ↔ closed s) ∨
        ¬ closed s ∧ (body op).Follows P M closed (fun _ _ => closed) M.first s)
    {s₀ : σ} {c : Pool R σ ε ι} {ms : List (Moment R σ ε)} (hrun : Pool.Run P body ⟨s₀, []⟩ ms c) :
    Pool.Exclusive P M closed c ms := by
  refine hrun.invariant (Pool.Exclusive P M closed)
    ⟨Monitor.accepts_nil, fun _ => ⟨rfl, rfl⟩, Nat.zero_le 1, List.forall_mem_nil _⟩ ?_
  intro c₁ c₂ ms ms' hinv hstep
  cases hstep with
  | start op h => exact hinv.start h (hstart _ _ _ _ _ h)
  | @serve s s' ts us op call k r h =>
    obtain ⟨hs, -, -⟩ := hinv.of_unfinished rfl
    have hwaiting := hinv.follows (op, .waiting call k) (by simp)
    have hanswer : answers (ms ++ [.answered ⟨s, call, r⟩]) = answers ms ++ [⟨s, call, r⟩] :=
      answers_append _ _
    refine hinv.replace rfl ((hperform call s r s' h).mpr hs) ?_ ?_
    · rw [hanswer]
      exact Monitor.accepts_snoc.mpr ⟨hinv.accepts, hwaiting.1⟩
    · rw [hanswer, Monitor.phase_snoc]
      exact fun s₂ hs₂ => hwaiting.2 r s s₂ hs hs₂
  | @resume s s' ts us op p ms' t h =>
    obtain ⟨hs, -, -⟩ := hinv.of_unfinished rfl
    have hready := hinv.follows (op, .ready p) (by simp)
    obtain ⟨haccepts, ht, hs'⟩ := Prog.Follows.advance (hready s hs) h hinv.accepts
    rw [← answers_append] at haccepts ht
    exact hinv.replace rfl hs' haccepts ht

end Pool

end Async
