import AroundMuseo.Core.Named
import Mathlib.Data.List.Forall2

/-!
# The moments of one operation

The moments of an operation, taken out of the history of a pool, look like a run of the
operation by itself in which the state changes arbitrarily while a call is awaited. This
reduces what an operation does in a pool to its own program.
-/

namespace Async

variable {C : Type} {R : C → Type} {σ τ ε ι α β : Type}

namespace Prog

/-- From `s` the program makes the moments `ms` and finishes with `out` in `s'`, while others
change the state whenever it waits. -/
def Admits (P : Platform R σ) :
    Prog R σ ε α → σ → List (Moment R σ ε) → Except ε α → σ → Prop
  | done r, s, ms, out, s' => ms = [] ∧ out = r ∧ s' = s
  | step u k, s, ms, out, s' => (k s).Admits P (u s) ms out s'
  | call c k, s, ms, out, s' =>
    if P.awaited c = true then ∃ s₁ r s₂ s₃ rest, P.perform c s₁ r = some s₂ ∧
      ms = .issued s c :: .answered ⟨s₁, c, r⟩ :: rest ∧ (k r).Admits P s₃ rest out s'
    else ∃ v s₁ rest, P.effect c s v = some s₁ ∧ ms = .answered ⟨s, c, .ok v⟩ :: rest ∧
      (k (.ok v)).Admits P s₁ rest out s'

variable {P : Platform R σ} {s s' : σ} {ms : List (Moment R σ ε)}

theorem Admits.andThen {p : Prog R σ ε α} {f : Except ε α → Prog R σ ε β} {out : Except ε β}
    (h : (p.andThen f).Admits P s ms out s') : ∃ ms₁ r s₁ ms₂, p.Admits P s ms₁ r s₁ ∧
      (f r).Admits P s₁ ms₂ out s' ∧ ms = ms₁ ++ ms₂ := by
  induction p generalizing s ms with
  | done r => exact ⟨[], r, s, ms, ⟨rfl, rfl, rfl⟩, h, rfl⟩
  | step u k ih => exact ih s h
  | call c k ih =>
    rw [Prog.andThen, Admits] at h
    split at h
    case isTrue ha =>
      obtain ⟨s₁, r, s₂, s₃, rest, hc, rfl, hk⟩ := h
      obtain ⟨ms₁, r', s₄, ms₂, hp, hf, rfl⟩ := ih r hk
      refine ⟨.issued s c :: .answered ⟨s₁, c, r⟩ :: ms₁, r', s₄, ms₂, ?_, hf, rfl⟩
      rw [Admits, if_pos ha]
      exact ⟨s₁, r, s₂, s₃, ms₁, hc, rfl, hp⟩
    case isFalse ha =>
      obtain ⟨v, s₁, rest, hc, rfl, hk⟩ := h
      obtain ⟨ms₁, r', s₄, ms₂, hp, hf, rfl⟩ := ih (.ok v) hk
      refine ⟨.answered ⟨s, c, .ok v⟩ :: ms₁, r', s₄, ms₂, ?_, hf, rfl⟩
      rw [Admits, if_neg ha]
      exact ⟨v, s₁, ms₁, hc, rfl, hp⟩

/-- The parts of a sequence, one after the other. -/
theorem Admits.bind {p : Prog R σ ε α} {f : α → Prog R σ ε β} {out : Except ε β}
    (h : (p >>= f).Admits P s ms out s') :
    (∃ ms₁ a s₁ ms₂, p.Admits P s ms₁ (.ok a) s₁ ∧ (f a).Admits P s₁ ms₂ out s' ∧
      ms = ms₁ ++ ms₂) ∨ ∃ e, p.Admits P s ms (.error e) s' ∧ out = .error e := by
  obtain ⟨ms₁, e | a, s₁, ms₂, hp, hf, rfl⟩ := Admits.andThen h
  · obtain ⟨rfl, rfl, rfl⟩ := hf
    rw [List.append_nil]
    exact .inr ⟨e, hp, rfl⟩
  · exact .inl ⟨ms₁, a, s₁, ms₂, hp, hf, rfl⟩

theorem Admits.handle {p : Prog R σ ε α} {h : ε → Prog R σ ε α} {out : Except ε α}
    (hrun : (tryCatch p h).Admits P s ms out s') :
    (∃ a, p.Admits P s ms (.ok a) s' ∧ out = .ok a) ∨
      ∃ ms₁ e s₁ ms₂, p.Admits P s ms₁ (.error e) s₁ ∧ (h e).Admits P s₁ ms₂ out s' ∧
        ms = ms₁ ++ ms₂ := by
  obtain ⟨ms₁, e | a, s₁, ms₂, hp, hf, rfl⟩ := Admits.andThen hrun
  · exact .inr ⟨ms₁, e, s₁, ms₂, hp, hf, rfl⟩
  · obtain ⟨rfl, rfl, rfl⟩ := hf
    rw [List.append_nil]
    exact .inl ⟨a, hp, rfl⟩

theorem Admits.ensure {p : Prog R σ ε α} {q : Prog R σ ε Unit} {out : Except ε α}
    (h : (p.ensure q).Admits P s ms out s') : ∃ ms₁ r s₁ ms₂ r' , p.Admits P s ms₁ r s₁ ∧
      q.Admits P s₁ ms₂ r' s' ∧ ms = ms₁ ++ ms₂ := by
  obtain ⟨ms₁, r, s₁, ms₂, hp, hq, rfl⟩ := Admits.andThen h
  rcases Admits.bind hq with ⟨ms₃, u, s₂, ms₄, hq, hdone, rfl⟩ | ⟨e, hq, -⟩
  · obtain ⟨rfl, -, rfl⟩ := hdone
    rw [List.append_nil]
    exact ⟨ms₁, r, s₁, ms₃, .ok u, hp, hq, rfl⟩
  · exact ⟨ms₁, r, s₁, ms₂, .error e, hp, hq, rfl⟩

/-- An awaited call. -/
theorem admits_invoke {c : C} (ha : P.awaited c = true) {out : Except ε (R c)}
    (h : (invoke c).Admits P s ms out s') :
    ∃ s₁ s₂, P.perform c s₁ out = some s₂ ∧ ms = [.issued s c, .answered ⟨s₁, c, out⟩] := by
  rw [invoke, Admits, if_pos ha] at h
  obtain ⟨s₁, r, s₂, s₃, rest, hc, rfl, rfl, rfl, rfl⟩ := h
  exact ⟨s₁, s₂, hc, rfl⟩

/-- A synchronous call. -/
theorem admits_invoke_sync {c : C} (ha : P.awaited c = false) {out : Except ε (R c)}
    (h : (invoke c).Admits P s ms out s') :
    ∃ v, out = .ok v ∧ P.effect c s v = some s' ∧ ms = [.answered ⟨s, c, .ok v⟩] := by
  rw [invoke, Admits, if_neg (by simp [ha])] at h
  obtain ⟨v, s₁, rest, hc, rfl, rfl, rfl, rfl⟩ := h
  exact ⟨v, rfl, hc, rfl⟩

end Prog

/-- From a task the moments `ms` lead to the end of the operation. -/
def Task.Admits (P : Platform R σ) : Task R σ ε → List (Moment R σ ε) → Prop
  | waiting c k, ms => ∃ s₁ r s₂ s₃ rest out s', P.perform c s₁ r = some s₂ ∧
      ms = .answered ⟨s₁, c, r⟩ :: rest ∧ (k r).Admits P s₃ rest out s'
  | ready p, ms => ∃ s out s', p.Admits P s ms out s'
  | finished, ms => ms = []

/-- A segment, and then what is left of the operation. -/
theorem Prog.Advance.admits {P : Platform R σ} {p : Prog R σ ε Unit} {s s' : σ}
    {ms ms' : List (Moment R σ ε)} {t : Task R σ ε} (h : p.Advance P s ms t s')
    (ht : t.Admits P ms') : ∃ out s'', p.Admits P s (ms ++ ms') out s'' := by
  induction p generalizing s ms with
  | done r =>
    obtain ⟨rfl, rfl, rfl⟩ := h
    have hms : ms' = [] := ht
    exact ⟨r, s', by rw [hms]; exact ⟨rfl, rfl, rfl⟩⟩
  | step u k ih => exact ih s h
  | call c k ih =>
    rw [Advance] at h
    split at h
    case isTrue ha =>
      obtain ⟨rfl, rfl, rfl⟩ := h
      obtain ⟨s₁, r, s₂, s₃, rest, out, s'', hc, rfl, hk⟩ := ht
      refine ⟨out, s'', ?_⟩
      rw [Admits, if_pos ha]
      exact ⟨s₁, r, s₂, s₃, rest, hc, rfl, hk⟩
    case isFalse ha =>
      obtain ⟨v, s₁, rest, hc, rfl, hk⟩ := h
      obtain ⟨out, s'', hrest⟩ := ih (.ok v) hk
      refine ⟨out, s'', ?_⟩
      rw [Admits, if_neg ha]
      exact ⟨v, s₁, rest ++ ms', hc, rfl, hrest⟩

section Own

variable {P : Platform R σ} {parts : Parts ι σ τ}

/-- The calls of a named operation have its name. -/
theorem Prog.confined_named (p : Prog R σ ε α) (i : ι) :
    (p.named parts i).Confined (fun c => c.1 = i) fun _ => () := by
  induction p with
  | done r => trivial
  | step u k ih => exact ⟨fun _ => rfl, fun t => ih _⟩
  | call c k ih => exact ⟨rfl, fun r => ih r⟩

variable [DecidableEq ι]

/-- The moments of the operation `i`. -/
def own (i : ι) (ms : List (Moment (NamedReply ι R) τ ε)) : List (Moment (NamedReply ι R) τ ε) :=
  ms.filter fun m => m.call.1 = i

theorem own_append (i : ι) (ms ms' : List (Moment (NamedReply ι R) τ ε)) :
    own i (ms ++ ms') = own i ms ++ own i ms' :=
  List.filter_append ..

theorem own_eq_self {i : ι} {ms : List (Moment (NamedReply ι R) τ ε)}
    (h : ∀ m ∈ ms, m.call.1 = i) : own i ms = ms :=
  List.filter_eq_self.mpr fun m hm => decide_eq_true (h m hm)

theorem own_eq_nil {i : ι} {ms : List (Moment (NamedReply ι R) τ ε)}
    (h : ∀ m ∈ ms, m.call.1 ≠ i) : own i ms = [] :=
  List.filter_eq_nil_iff.mpr fun m hm => by simp [h m hm]

/-- What is known of an operation of a pool: its moments so far, followed by any that lead to
its end, are a run of it by itself. -/
structure OwnRun (P : Platform R σ) (parts : Parts ι σ τ) (body : ι → Prog R σ ε Unit)
    (ms : List (Moment (NamedReply ι R) τ ε)) (i : ι) (t : Task (NamedReply ι R) τ ε) : Prop where
  named : t.Confined (fun c => c.1 = i) fun _ => ()
  admits : ∀ ms', t.Admits (P.named parts) ms' →
    ∃ s out s', ((body i).named parts i).Admits (P.named parts) s (own i ms ++ ms') out s'

/-- The moments of others do not matter. -/
theorem OwnRun.append {body : ι → Prog R σ ε Unit} {ms ms' : List (Moment (NamedReply ι R) τ ε)}
    {i : ι} {t : Task (NamedReply ι R) τ ε} (h : OwnRun P parts body ms i t)
    (hms : ∀ m ∈ ms', m.call.1 ≠ i) : OwnRun P parts body (ms ++ ms') i t := by
  refine ⟨h.named, fun ms'' ht => ?_⟩
  rw [own_append, own_eq_nil hms, List.append_nil]
  exact h.admits ms'' ht

/-- The operation `i` goes on, and the others do not. -/
theorem OwnRun.replace {body : ι → Prog R σ ε Unit} {ms ms' : List (Moment (NamedReply ι R) τ ε)}
    {i : ι} {ts us : List (ι × Task (NamedReply ι R) τ ε)} {t t' : Task (NamedReply ι R) τ ε}
    (hnodup : ((ts ++ (i, t) :: us).map Prod.fst).Nodup)
    (hown : ∀ x ∈ ts ++ (i, t) :: us, OwnRun P parts body ms x.1 x.2)
    (hms : ∀ m ∈ ms', m.call.1 = i) (ht : t'.Confined (fun c => c.1 = i) fun _ => ())
    (hadmits : ∀ ms'', t'.Admits (P.named parts) ms'' → t.Admits (P.named parts) (ms' ++ ms'')) :
    ∀ x ∈ ts ++ (i, t') :: us, OwnRun P parts body (ms ++ ms') x.1 x.2 := by
  rw [List.map_append, List.map_cons, List.nodup_append, List.nodup_cons] at hnodup
  obtain ⟨-, ⟨hus, -⟩, hts⟩ := hnodup
  obtain ⟨hown₁, hi, hown₂⟩ := forall_tasks_iff.mp hown
  refine forall_tasks_iff.mpr ⟨fun x hx => ?_, ?_, fun x hx => ?_⟩
  · apply (hown₁ x hx).append
    intro m hm heq
    exact hts x.1 (List.mem_map_of_mem hx) i List.mem_cons_self (heq.symm.trans (hms m hm))
  · refine ⟨ht, fun ms'' ht'' => ?_⟩
    rw [own_append, own_eq_self hms, List.append_assoc]
    exact hi.admits _ (hadmits ms'' ht'')
  · apply (hown₂ x hx).append
    intro m hm heq
    have hmem : x.1 ∈ us.map Prod.fst := List.mem_map_of_mem hx
    rw [← heq, hms m hm] at hmem
    exact hus hmem

/-- In a pool whose operations all have names of their own, the moments of each of them are a
run of it by itself. -/
theorem Pool.Run.ownRun {body : ι → Prog R σ ε Unit} {s₀ : τ} {c : Pool (NamedReply ι R) τ ε ι}
    {ms : List (Moment (NamedReply ι R) τ ε)}
    (hrun : Pool.Run (P.named parts) (fun i => (body i).named parts i) ⟨s₀, []⟩ ms c)
    (hnodup : (c.tasks.map Prod.fst).Nodup) : ∀ x ∈ c.tasks, OwnRun P parts body ms x.1 x.2 := by
  suffices hall : (c.tasks.map Prod.fst).Nodup → (∀ x ∈ c.tasks, OwnRun P parts body ms x.1 x.2) ∧
      ∀ m ∈ ms, m.call.1 ∈ c.tasks.map Prod.fst from (hall hnodup).1
  refine hrun.invariant (fun c ms => (c.tasks.map Prod.fst).Nodup →
    (∀ x ∈ c.tasks, OwnRun P parts body ms x.1 x.2) ∧ ∀ m ∈ ms, m.call.1 ∈ c.tasks.map Prod.fst)
    (fun _ => ⟨List.forall_mem_nil _, List.forall_mem_nil _⟩) ?_
  intro c₁ c₂ ms ms' ih hstep hnodup
  cases hstep with
  | @start s s' ts _ t op h =>
    rw [List.map_append, List.map_singleton, List.nodup_append] at hnodup
    obtain ⟨hts, -, hnew⟩ := hnodup
    obtain ⟨hown, hnames⟩ := ih hts
    have hne : ∀ i ∈ ts.map Prod.fst, i ≠ op :=
      fun i hi => hnew i hi op (List.mem_singleton_self op)
    obtain ⟨hnamed, hmoments⟩ := (Prog.confined_named (body op) op).advance h
    refine ⟨?_, ?_⟩
    · refine List.forall_mem_append.mpr ⟨fun x hx => ?_, List.forall_mem_singleton.mpr ?_⟩
      · apply (hown x hx).append
        intro m hm heq
        exact hne x.1 (List.mem_map_of_mem hx) (heq ▸ hmoments m hm)
      · refine ⟨hnamed, fun ms'' ht => ?_⟩
        rw [own_append, own_eq_nil fun m hm => hne _ (hnames m hm), own_eq_self hmoments,
          List.nil_append]
        obtain ⟨out, s'', hadmits⟩ := h.admits ht
        exact ⟨s, out, s'', hadmits⟩
    · refine List.forall_mem_append.mpr ⟨fun m hm => ?_, fun m hm => ?_⟩
      · rw [List.map_append]
        exact List.mem_append_left _ (hnames m hm)
      · rw [List.map_append, hmoments m hm]
        exact List.mem_append_right _ (List.mem_singleton_self op)
  | @serve s s' ts us op call k r h =>
    have hnodup₁ : ((ts ++ (op, .waiting call k) :: us).map Prod.fst).Nodup := by
      simpa using hnodup
    obtain ⟨hown, hnames⟩ := ih hnodup₁
    obtain ⟨hcall, hrest⟩ := (hown (op, .waiting call k) (by simp)).named
    have hmoments : ∀ m ∈ [Moment.answered ⟨s, call, r⟩], m.call.1 = op :=
      List.forall_mem_singleton.mpr hcall
    have hnamed : (Task.ready (k r)).Confined (fun c => c.1 = op) fun _ => () := hrest r
    refine ⟨?_, ?_⟩
    · apply OwnRun.replace hnodup₁ hown hmoments hnamed
      rintro ms'' ⟨s₁, out, s₂, hk⟩
      exact ⟨s, r, s', s₁, ms'', out, s₂, h, rfl, hk⟩
    · refine List.forall_mem_append.mpr ⟨fun m hm => by simpa using hnames m hm, fun m hm => ?_⟩
      rw [hmoments m hm]
      simp
  | @resume s s' ts us op p _ t h =>
    have hnodup₁ : ((ts ++ (op, .ready p) :: us).map Prod.fst).Nodup := by
      simpa using hnodup
    obtain ⟨hown, hnames⟩ := ih hnodup₁
    have hp : p.Confined (fun c => c.1 = op) fun _ => () := (hown (op, .ready p) (by simp)).named
    obtain ⟨hnamed, hmoments⟩ := hp.advance h
    refine ⟨?_, ?_⟩
    · apply OwnRun.replace hnodup₁ hown hmoments hnamed
      intro ms'' ht
      obtain ⟨out, s'', hadmits⟩ := h.admits ht
      exact ⟨s, out, s'', hadmits⟩
    · refine List.forall_mem_append.mpr ⟨fun m hm => by simpa using hnames m hm, fun m hm => ?_⟩
      rw [hmoments m hm]
      simp

/-- What a finished operation has done. -/
theorem Pool.Run.admits_of_finished {body : ι → Prog R σ ε Unit} {s₀ : τ}
    {c : Pool (NamedReply ι R) τ ε ι} {ms : List (Moment (NamedReply ι R) τ ε)} {i : ι}
    (hrun : Pool.Run (P.named parts) (fun i => (body i).named parts i) ⟨s₀, []⟩ ms c)
    (hnodup : (c.tasks.map Prod.fst).Nodup) (hi : (i, .finished) ∈ c.tasks) :
    ∃ s out s', ((body i).named parts i).Admits (P.named parts) s (own i ms) out s' := by
  obtain ⟨s, out, s', h⟩ := (hrun.ownRun hnodup _ hi).admits [] rfl
  rw [List.append_nil] at h
  exact ⟨s, out, s', h⟩

end Own

section Unnamed

variable {P : Platform R σ} {parts : Parts ι σ τ} {i : ι}

/-- An answer as the caller sees it. -/
def Event.seen (parts : Parts ι σ τ) (ev : Event (NamedReply ι R) τ ε) : Event R σ ε :=
  ⟨parts.get ev.call.1 ev.state, ev.call.2, ev.reply⟩

/-- A moment as the caller sees it. -/
def Moment.seen (parts : Parts ι σ τ) : Moment (NamedReply ι R) τ ε → Moment R σ ε
  | issued t c => issued (parts.get c.1 t) c.2
  | answered ev => answered (ev.seen parts)

theorem answers_map_seen (ms : List (Moment (NamedReply ι R) τ ε)) :
    answers (ms.map (Moment.seen parts)) = (answers ms).map (Event.seen parts) := by
  induction ms with
  | nil => rfl
  | cons m ms ih =>
    cases m with
    | issued t c => exact ih
    | answered ev => exact congrArg (ev.seen parts :: ·) ih

/-- A run of a named program is a run of the program on its part of the state. -/
theorem Prog.Admits.seen {p : Prog R σ ε α} {t t' : τ} {ms : List (Moment (NamedReply ι R) τ ε)}
    {out : Except ε α} (h : (p.named parts i).Admits (P.named parts) t ms out t') :
    p.Admits P (parts.get i t) (ms.map (Moment.seen parts)) out (parts.get i t') := by
  induction p generalizing t ms with
  | done r =>
    obtain ⟨rfl, rfl, rfl⟩ := h
    exact ⟨rfl, rfl, rfl⟩
  | step u k ih =>
    have hk := ih (parts.get i t) h
    rw [parts.get_set] at hk
    exact hk
  | call c k ih =>
    rw [Prog.named, Admits] at h
    rw [Admits]
    by_cases ha : P.awaited c = true
    · rw [if_pos (show (P.named parts).awaited (i, c) = true from ha)] at h
      rw [if_pos ha]
      obtain ⟨t₁, r, t₂, t₃, rest, hc, rfl, hk⟩ := h
      have hperform : ∃ s₂, P.perform c (parts.get i t₁) r = some s₂ := by
        cases r with
        | ok v =>
          obtain ⟨s₂, hs₂, -⟩ := Platform.named_effect_eq_some.mp hc
          exact ⟨s₂, hs₂⟩
        | error e => exact ⟨_, if_pos ha⟩
      obtain ⟨s₂, hs₂⟩ := hperform
      exact ⟨parts.get i t₁, r, s₂, parts.get i t₃, rest.map (Moment.seen parts), hs₂, rfl, ih r hk⟩
    · rw [if_neg (show ¬ (P.named parts).awaited (i, c) = true from ha)] at h
      rw [if_neg ha]
      obtain ⟨v, t₁, rest, hc, rfl, hk⟩ := h
      obtain ⟨s₁, hs₁, rfl⟩ := Platform.named_effect_eq_some.mp hc
      have hrest := ih (.ok v) hk
      rw [parts.get_set] at hrest
      exact ⟨v, s₁, rest.map (Moment.seen parts), hs₁, rfl, hrest⟩

/-- If the calls show what they do to a view, so do those of named callers. -/
theorem Platform.ShowsOn.named {υ : Type} {ok : C → Prop} {view : σ → υ} {view' : τ → υ}
    {act : υ → Event R σ ε → υ} (hP : P.ShowsOn ok view act)
    (hget : ∀ i t, view (parts.get i t) = view' t)
    (hset : ∀ i s t, view' (parts.set i s t) = view s) :
    (P.named parts).ShowsOn (fun c => ok c.2) view' fun v ev => act v (ev.seen parts) := by
  intro c t t' r hc h
  have hperform : ∃ s, P.perform c.2 (parts.get c.1 t) r = some s ∧ view' t' = view s := by
    cases r with
    | ok v =>
      obtain ⟨s, hs, rfl⟩ := Platform.named_effect_eq_some.mp h
      exact ⟨s, hs, hset c.1 s t⟩
    | error e =>
      obtain ⟨ha, ht⟩ := Option.ite_none_right_eq_some.mp h
      cases ht
      exact ⟨_, if_pos ha, (hget c.1 t).symm⟩
  obtain ⟨s, hs, hview⟩ := hperform
  rw [hview, hP c.2 _ s r hc hs, hget]
  rfl

variable [DecidableEq ι] {ms : List (Moment (NamedReply ι R) τ ε)}

/-- A call that the operation sees itself issue was issued. -/
theorem exists_issued_of_seen {s : σ} {c : C}
    (h : .issued s c ∈ (own i ms).map (Moment.seen parts)) :
    ∃ t, .issued t (i, c) ∈ ms ∧ parts.get i t = s := by
  obtain ⟨m, hm, hseen⟩ := List.mem_map.mp h
  obtain ⟨hmem, hi⟩ := List.mem_filter.mp hm
  cases m with
  | issued t c' =>
    obtain ⟨j, c'⟩ := c'
    cases of_decide_eq_true hi
    cases hseen
    exact ⟨t, hmem, rfl⟩
  | answered ev => cases hseen

/-- The first entry of a sublist, and the rest after it. -/
theorem exists_split_of_cons_sublist {a : α} {l l' : List α} (h : (a :: l).Sublist l') :
    ∃ pre post, l' = pre ++ a :: post ∧ l.Sublist post := by
  obtain ⟨l₁, l₂, rfl, ha, hl⟩ := List.cons_sublist_iff.mp h
  obtain ⟨pre, mid, rfl⟩ := List.append_of_mem ha
  exact ⟨pre, mid ++ l₂, by simp, hl.trans (List.sublist_append_right _ _)⟩

/-- The events after one, if all pairs are related. -/
theorem related_of_pairwise {r : α → α → Prop} {l pre post : List α} {a : α}
    (h : l.Pairwise r) (hl : l = pre ++ a :: post) : ∀ b ∈ post, r a b := by
  rw [hl, List.pairwise_append, List.pairwise_cons] at h
  exact h.2.1.1

/-- The answers that the operation sees are given to it, in the same order. -/
theorem exists_answers_of_seen {tr : List (Event R σ ε)}
    (h : tr.Sublist (answers ((own i ms).map (Moment.seen parts)))) :
    ∃ tr' : List (Event (NamedReply ι R) τ ε), tr'.Sublist (answers ms) ∧
      List.Forall₂ (fun ev' ev => ∃ t, ev' = ⟨t, (i, ev.call), ev.reply⟩) tr' tr := by
  rw [answers_map_seen] at h
  obtain ⟨tr', htr', rfl⟩ := List.sublist_map_iff.mp h
  refine ⟨tr', htr'.trans (List.filter_sublist.filterMap _), ?_⟩
  rw [List.forall₂_map_right_iff, List.forall₂_same]
  intro ev hev
  obtain ⟨m, hm, heq⟩ := List.mem_filterMap.mp (htr'.subset hev)
  have hi : m.call.1 = i := of_decide_eq_true (List.mem_filter.mp hm).2
  cases m with
  | issued t c => cases heq
  | answered ev' =>
    cases heq
    obtain ⟨t, ⟨j, c⟩, r⟩ := ev
    cases hi
    exact ⟨t, rfl⟩

theorem allAnswered_seen (h : AllAnswered (answers ms)) :
    AllAnswered (answers ((own i ms).map (Moment.seen parts))) := by
  rw [answers_map_seen]
  intro ev hev
  obtain ⟨ev', hev', rfl⟩ := List.mem_map.mp hev
  exact h ev' ((List.filter_sublist.filterMap _).subset hev')

end Unnamed

end Async
