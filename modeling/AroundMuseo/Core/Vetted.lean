import AroundMuseo.Core.Closed
import AroundMuseo.Core.Projection
import Mathlib.Data.Set.Basic

/-!
# Calls that are allowed by what is known

Whether an operation may make a call can depend on the state in which it makes it and on what
the operation has learned from the answers to its own calls before. The more it knows, the more
it may do. If every operation by itself makes allowed calls only, then so does any interleaving
of them.
-/

namespace Async

variable {C : Type} {R : C → Type} {σ τ ε ι κ α β : Type}

namespace Prog

/-- Knowing `K`, at `s`, the program makes calls that are `ok` only, and ends in `Q`. The others
change the state whenever it waits. -/
def Vetted (P : Platform R σ) (learn : Event R σ ε → Set κ) (ok : Set κ → σ → C → Prop) :
    Prog R σ ε α → (Except ε α → Set κ → σ → Prop) → Set κ → σ → Prop
  | done r, Q, K, s => Q r K s
  | step u k, Q, K, s => (k s).Vetted P learn ok Q K (u s)
  | call c k, Q, K, s => ok K s c ∧
    if P.awaited c = true then ∀ r s₁ s₂, P.perform c s₁ r = some s₂ →
      ∀ s₃, (k r).Vetted P learn ok Q (K ∪ learn ⟨s₁, c, r⟩) s₃
    else ∀ v s', P.effect c s v = some s' →
      (k (.ok v)).Vetted P learn ok Q (K ∪ learn ⟨s, c, .ok v⟩) s'

variable {P : Platform R σ} {learn : Event R σ ε → Set κ} {ok : Set κ → σ → C → Prop}
  {Q Q' : Except ε α → Set κ → σ → Prop} {K : Set κ} {s : σ}

/-- Less may be said of what is known at the end. -/
theorem vetted_mono {p : Prog R σ ε α} (h : p.Vetted P learn ok Q K s)
    (hQ : ∀ r K s, Q r K s → Q' r K s) : p.Vetted P learn ok Q' K s := by
  induction p generalizing K s with
  | done r => exact hQ r K s h
  | step u k ih => exact ih s h
  | call c k ih =>
    rw [Vetted] at h ⊢
    refine ⟨h.1, ?_⟩
    split
    case isTrue ha =>
      rw [if_pos ha] at h
      exact fun r s₁ s₂ hr s₃ => ih r (h.2 r s₁ s₂ hr s₃)
    case isFalse ha =>
      rw [if_neg ha] at h
      exact fun v s' hv => ih (.ok v) (h.2 v s' hv)

/-- What the first program has learned the second one knows. -/
theorem vetted_andThen {p : Prog R σ ε α} {f : Except ε α → Prog R σ ε β}
    {Q : Except ε β → Set κ → σ → Prop}
    (h : p.Vetted P learn ok (fun r K s => (f r).Vetted P learn ok Q K s) K s) :
    (p.andThen f).Vetted P learn ok Q K s := by
  induction p generalizing K s with
  | done r => exact h
  | step u k ih => exact ih s h
  | call c k ih =>
    rw [Vetted] at h
    rw [andThen, Vetted]
    refine ⟨h.1, ?_⟩
    split
    case isTrue ha =>
      rw [if_pos ha] at h
      exact fun r s₁ s₂ hr s₃ => ih r (h.2 r s₁ s₂ hr s₃)
    case isFalse ha =>
      rw [if_neg ha] at h
      exact fun v s' hv => ih (.ok v) (h.2 v s' hv)

/-- The continuation knows what was learned. -/
theorem vetted_bind {p : Prog R σ ε α} {f : α → Prog R σ ε β} {Q : Except ε β → Set κ → σ → Prop}
    (h : p.Vetted P learn ok (fun r K s => match r with
      | .ok a => (f a).Vetted P learn ok Q K s
      | .error e => Q (.error e) K s) K s) : (p >>= f).Vetted P learn ok Q K s := by
  apply vetted_andThen
  apply vetted_mono h
  intro r K s h
  cases r <;> exact h

/-- So does the handler. -/
theorem vetted_handle {p : Prog R σ ε α} {h : ε → Prog R σ ε α}
    (hp : p.Vetted P learn ok (fun r K s => match r with
      | .ok a => Q (.ok a) K s
      | .error e => (h e).Vetted P learn ok Q K s) K s) :
    (tryCatch p h).Vetted P learn ok Q K s := by
  apply vetted_andThen
  apply vetted_mono hp
  intro r K s h
  cases r <;> exact h

theorem vetted_read_bind {g : σ → α} {f : α → Prog R σ ε β} {Q : Except ε β → Set κ → σ → Prop} :
    (read g >>= f).Vetted P learn ok Q K s ↔ (f (g s)).Vetted P learn ok Q K s := Iff.rfl

theorem vetted_modify_bind {u : σ → σ} {f : Unit → Prog R σ ε α} :
    (modify u >>= f).Vetted P learn ok Q K s ↔ (f ()).Vetted P learn ok Q K (u s) := Iff.rfl

/-- A call, after which the state may be any. -/
theorem vetted_invoke {c : C} {Q : Except ε (R c) → Set κ → σ → Prop} (hok : ok K s c)
    (h : ∀ r s₁ s₂, P.perform c s₁ r = some s₂ → ∀ s₃, Q r (K ∪ learn ⟨s₁, c, r⟩) s₃) :
    (invoke c).Vetted P learn ok Q K s := by
  rw [invoke, Vetted]
  refine ⟨hok, ?_⟩
  split
  · exact h
  · exact fun v s' hv => h (.ok v) s s' hv s'

/-- A synchronous call. -/
theorem vetted_invoke_sync {c : C} {Q : Except ε (R c) → Set κ → σ → Prop}
    (ha : P.awaited c = false) (hok : ok K s c)
    (h : ∀ v s', P.effect c s v = some s' → Q (.ok v) (K ∪ learn ⟨s, c, .ok v⟩) s') :
    (invoke c).Vetted P learn ok Q K s := by
  rw [invoke, Vetted, if_neg (by simp [ha])]
  exact ⟨hok, h⟩

/-- The program makes allowed calls only, whatever is known and in whatever state it runs. -/
def Safe (P : Platform R σ) (learn : Event R σ ε → Set κ) (ok : Set κ → σ → C → Prop)
    (p : Prog R σ ε α) : Prop :=
  ∀ K s, p.Vetted P learn ok (fun _ _ _ => True) K s

/-- Being safe follows the structure. -/
theorem closed_safe (P : Platform R σ) (learn : Event R σ ε → Set κ) (ok : Set κ → σ → C → Prop) :
    Closed fun {α} (p : Prog R σ ε α) => p.Safe P learn ok where
  done _ _ _ := trivial
  read _ _ _ := trivial
  andThen hp hf K s := vetted_andThen (vetted_mono (hp K s) fun r K s _ => hf r K s)

theorem safe_modify (u : σ → σ) : (modify u : Prog R σ ε Unit).Safe P learn ok :=
  fun _ _ => trivial

/-- A call that is always allowed. -/
theorem safe_invoke {c : C} (hok : ∀ K s, ok K s c) :
    (invoke c : Prog R σ ε (R c)).Safe P learn ok := by
  intro K s
  exact vetted_invoke (hok K s) fun r s₁ s₂ _ s₃ => trivial

end Prog

/-- What is to be learned from some moments. -/
def learned (learn : Event R σ ε → Set κ) (ms : List (Moment R σ ε)) : Set κ :=
  { k | ∃ ev ∈ answers ms, k ∈ learn ev }

section Learned

variable {learn : Event R σ ε → Set κ} {ms ms' : List (Moment R σ ε)}

@[simp] theorem learned_nil : learned learn ([] : List (Moment R σ ε)) = ∅ := by
  ext k
  simp [learned, answers]

@[simp] theorem learned_answered_cons {ev : Event R σ ε} :
    learned learn (.answered ev :: ms) = learn ev ∪ learned learn ms := by
  ext k
  simp [learned, answers]

@[simp] theorem learned_append :
    learned learn (ms ++ ms') = learned learn ms ∪ learned learn ms' := by
  ext k
  simp [learned, or_and_right, exists_or]

end Learned

/-- The moment is that at which a call is made. -/
def Moment.Requests (P : Platform R σ) : Moment R σ ε → Prop
  | .issued _ _ => True
  | .answered ev => P.awaited ev.call = false

section Runs

variable {P : Platform R σ} {learn : Event R σ ε → Set κ} {ok : Set κ → σ → C → Prop}

/-- What is left of an operation that knows `K`. -/
def Task.Vetted (P : Platform R σ) (learn : Event R σ ε → Set κ) (ok : Set κ → σ → C → Prop)
    (K : Set κ) : Task R σ ε → Prop
  | waiting c k => P.awaited c = true ∧ ∀ r s₁ s₂, P.perform c s₁ r = some s₂ →
      ∀ s₃, (k r).Vetted P learn ok (fun _ _ _ => True) (K ∪ learn ⟨s₁, c, r⟩) s₃
  | ready p => ∀ s, p.Vetted P learn ok (fun _ _ _ => True) K s
  | finished => True

/-- The calls of a segment are allowed by what was known and by the answers in it so far. -/
theorem Prog.Vetted.advance {p : Prog R σ ε Unit} {K : Set κ} {s s' : σ}
    {ms : List (Moment R σ ε)} {t : Task R σ ε}
    (hp : p.Vetted P learn ok (fun _ _ _ => True) K s) (h : p.Advance P s ms t s') :
    t.Vetted P learn ok (K ∪ learned learn ms) ∧
      ∀ pre m post, ms = pre ++ m :: post → ok (K ∪ learned learn pre) m.state m.call := by
  induction p generalizing K s ms with
  | done r =>
    obtain ⟨rfl, rfl, -⟩ := h
    exact ⟨trivial, fun pre m post hms => by simp at hms⟩
  | step u k ih => exact ih s hp h
  | call c k ih =>
    rw [Prog.Advance] at h
    obtain ⟨hok, hk⟩ := hp
    split at h
    case isTrue ha =>
      rw [if_pos ha] at hk
      obtain ⟨rfl, rfl, -⟩ := h
      refine ⟨⟨ha, ?_⟩, ?_⟩
      · have hnone : learned learn [Moment.issued s c] = ∅ := by
          ext k
          simp [learned, answers]
        rw [hnone, Set.union_empty]
        exact hk
      · intro pre m post hms
        obtain ⟨rfl, rfl⟩ := eq_of_singleton_eq_append_cons hms
        rw [learned_nil, Set.union_empty]
        exact hok
    case isFalse ha =>
      rw [if_neg ha] at hk
      obtain ⟨v, s₁, rest, hv, rfl, hrest⟩ := h
      obtain ⟨ht, hmoments⟩ := ih (.ok v) (hk v s₁ hv) hrest
      rw [learned_answered_cons, ← Set.union_assoc]
      refine ⟨ht, ?_⟩
      intro pre m post hms
      cases pre with
      | nil =>
        obtain ⟨rfl, -⟩ := List.cons.inj hms
        rw [learned_nil, Set.union_empty]
        exact hok
      | cons m' pre =>
        obtain ⟨rfl, hrest⟩ := List.cons.inj hms
        rw [learned_answered_cons, ← Set.union_assoc]
        exact hmoments pre m post hrest

/-- The calls of a program that others interrupt, from its start to its end. -/
theorem Prog.Vetted.admits {p : Prog R σ ε α} {Q : Except ε α → Set κ → σ → Prop} {K : Set κ}
    {s s' : σ} {ms : List (Moment R σ ε)} {out : Except ε α} (hp : p.Vetted P learn ok Q K s)
    (h : p.Admits P s ms out s') : Q out (K ∪ learned learn ms) s' ∧
      ∀ pre m post, ms = pre ++ m :: post → m.Requests P →
        ok (K ∪ learned learn pre) m.state m.call := by
  induction p generalizing K s ms with
  | done r =>
    obtain ⟨rfl, rfl, rfl⟩ := h
    rw [learned_nil, Set.union_empty]
    exact ⟨hp, fun pre m post hms => by simp at hms⟩
  | step u k ih => exact ih s hp h
  | call c k ih =>
    rw [Prog.Admits] at h
    obtain ⟨hok, hk⟩ := hp
    split at h
    case isTrue ha =>
      rw [if_pos ha] at hk
      obtain ⟨s₁, r, s₂, s₃, rest, hr, rfl, hrest⟩ := h
      obtain ⟨hout, hmoments⟩ := ih r (hk r s₁ s₂ hr s₃) hrest
      have hissued (ms : List (Moment R σ ε)) :
          learned learn (.issued s c :: ms) = learned learn ms :=
        rfl
      rw [hissued, learned_answered_cons, ← Set.union_assoc]
      refine ⟨hout, ?_⟩
      intro pre m post hms hrequests
      cases pre with
      | nil =>
        obtain ⟨rfl, -⟩ := List.cons.inj hms
        rw [learned_nil, Set.union_empty]
        exact hok
      | cons m₁ pre =>
        obtain ⟨rfl, hanswered⟩ := List.cons.inj hms
        cases pre with
        | nil =>
          obtain ⟨rfl, -⟩ := List.cons.inj hanswered
          exact absurd hrequests (by simp [Moment.Requests, ha])
        | cons m₂ pre =>
          obtain ⟨rfl, hrest'⟩ := List.cons.inj hanswered
          rw [hissued, learned_answered_cons, ← Set.union_assoc]
          exact hmoments pre m post hrest' hrequests
    case isFalse ha =>
      rw [if_neg ha] at hk
      obtain ⟨v, s₁, rest, hv, rfl, hrest⟩ := h
      obtain ⟨hout, hmoments⟩ := ih (.ok v) (hk v s₁ hv) hrest
      rw [learned_answered_cons, ← Set.union_assoc]
      refine ⟨hout, ?_⟩
      intro pre m post hms hrequests
      cases pre with
      | nil =>
        obtain ⟨rfl, -⟩ := List.cons.inj hms
        rw [learned_nil, Set.union_empty]
        exact hok
      | cons m₁ pre =>
        obtain ⟨rfl, hrest'⟩ := List.cons.inj hms
        rw [learned_answered_cons, ← Set.union_assoc]
        exact hmoments pre m post hrest' hrequests

variable {owner : C → ι} {body : ι → Prog R σ ε Unit}

/-- What an operation has learned from the answers to its own calls. -/
def learnedBy (learn : Event R σ ε → Set κ) (owner : C → ι) (i : ι) (ms : List (Moment R σ ε)) :
    Set κ :=
  { k | ∃ ev ∈ answers ms, owner ev.call = i ∧ k ∈ learn ev }

/-- What an owner has learned adds up. -/
theorem learnedBy_append (i : ι) (ms ms' : List (Moment R σ ε)) :
    learnedBy learn owner i (ms ++ ms') =
      learnedBy learn owner i ms ∪ learnedBy learn owner i ms' := by
  ext k
  simp [learnedBy, or_and_right, exists_or]

/-- What the moments of an operation teach, they teach that operation. -/
theorem learned_subset_learnedBy {i : ι} {ms : List (Moment R σ ε)}
    (h : ∀ m ∈ ms, owner m.call = i) : learned learn ms ⊆ learnedBy learn owner i ms := by
  rintro k ⟨ev, hev, hk⟩
  obtain ⟨m, hm, heq⟩ := List.mem_filterMap.mp hev
  refine ⟨ev, hev, ?_, hk⟩
  cases m with
  | issued s c => cases heq
  | answered ev' =>
    cases heq
    exact h _ hm

/-- Every call so far was allowed by what its owner had learned before. -/
def AllVetted (learn : Event R σ ε → Set κ) (ok : Set κ → σ → C → Prop) (P : Platform R σ)
    (owner : C → ι) (ms : List (Moment R σ ε)) : Prop :=
  ∀ pre m post, ms = pre ++ m :: post → m.Requests P →
    ok (learnedBy learn owner (owner m.call) pre) m.state m.call

/-- More history is vetted with what came before it. -/
theorem AllVetted.append {ms ms' : List (Moment R σ ε)} (h : AllVetted learn ok P owner ms)
    (h' : ∀ pre m post, ms' = pre ++ m :: post → m.Requests P →
      ok (learnedBy learn owner (owner m.call) (ms ++ pre)) m.state m.call) :
    AllVetted learn ok P owner (ms ++ ms') := by
  intro pre m post hms
  rcases List.append_eq_append_iff.mp hms with ⟨pre', rfl, hms'⟩ | ⟨rest, hrest, hpost⟩
  · exact h' pre' m post hms'
  · cases rest with
    | nil =>
      rw [List.append_nil] at hrest
      subst hrest
      simpa using h' [] m post hpost.symm
    | cons m' rest =>
      obtain ⟨rfl, -⟩ := List.cons.inj hpost
      exact h pre m rest hrest

/-- What holds of a task that knows no more than its operation has learned. -/
structure TaskVetted (P : Platform R σ) (learn : Event R σ ε → Set κ) (ok : Set κ → σ → C → Prop)
    (owner : C → ι) (ms : List (Moment R σ ε)) (i : ι) (t : Task R σ ε) : Prop where
  named : t.Confined (fun c => owner c = i) fun _ => ()
  vetted : ∃ K ⊆ learnedBy learn owner i ms, t.Vetted P learn ok K

/-- A task stays vetted when more is learned. -/
theorem TaskVetted.append {ms : List (Moment R σ ε)} {i : ι} {t : Task R σ ε}
    (h : TaskVetted P learn ok owner ms i t) (ms' : List (Moment R σ ε)) :
    TaskVetted P learn ok owner (ms ++ ms') i t := by
  obtain ⟨K, hK, ht⟩ := h.vetted
  refine ⟨h.named, K, ?_, ht⟩
  rw [learnedBy_append]
  exact hK.trans Set.subset_union_left

variable (hmono : ∀ K K' s c, K ⊆ K' → ok K s c → ok K' s c)

include hmono

/-- A segment of an operation that knows no more than it has learned. -/
theorem Prog.Vetted.segment {i : ι} {K : Set κ} {p : Prog R σ ε Unit} {s s' : σ}
    {ms ms' : List (Moment R σ ε)} {t : Task R σ ε}
    (hnamed : p.Confined (fun c => owner c = i) fun _ => ())
    (hK : K ⊆ learnedBy learn owner i ms) (hp : p.Vetted P learn ok (fun _ _ _ => True) K s)
    (h : p.Advance P s ms' t s') : TaskVetted P learn ok owner (ms ++ ms') i t ∧
      ∀ pre m post, ms' = pre ++ m :: post → m.Requests P →
        ok (learnedBy learn owner (owner m.call) (ms ++ pre)) m.state m.call := by
  obtain ⟨ht, hmoments⟩ := hp.advance h
  obtain ⟨htnamed, hown⟩ := hnamed.advance h
  constructor
  · refine ⟨htnamed, _, ?_, ht⟩
    rw [learnedBy_append]
    exact Set.union_subset_union hK (learned_subset_learnedBy hown)
  · intro pre m post hms' _
    rw [hms', List.forall_mem_append, List.forall_mem_cons] at hown
    apply hmono _ _ _ _ ?_ (hmoments pre m post hms')
    rw [hown.2.1, learnedBy_append]
    exact Set.union_subset_union hK (learned_subset_learnedBy hown.1)

/-- If the calls of each operation are its own and are allowed by what it learns, then every call
of an interleaving is. -/
theorem Pool.Run.vetted (hnamed : ∀ i, (body i).Confined (fun c => owner c = i) fun _ => ())
    (hbody : ∀ i, (body i).Safe P learn ok) {s₀ : σ} {c : Pool R σ ε ι}
    {ms : List (Moment R σ ε)} (hrun : Pool.Run P body ⟨s₀, []⟩ ms c) :
    AllVetted learn ok P owner ms := by
  suffices hall : (∀ x ∈ c.tasks, TaskVetted P learn ok owner ms x.1 x.2) ∧
      AllVetted learn ok P owner ms from hall.2
  refine hrun.invariant (fun c ms => (∀ x ∈ c.tasks, TaskVetted P learn ok owner ms x.1 x.2) ∧
    AllVetted learn ok P owner ms) ⟨List.forall_mem_nil _, fun pre m post hms => by simp at hms⟩ ?_
  intro c₁ c₂ ms ms' ⟨htasks, hms⟩ hstep
  have hkept : ∀ ts : List (ι × Task R σ ε), (∀ x ∈ ts, TaskVetted P learn ok owner ms x.1 x.2) →
      ∀ x ∈ ts, TaskVetted P learn ok owner (ms ++ ms') x.1 x.2 :=
    fun ts hts x hx => (hts x hx).append ms'
  cases hstep with
  | start op h =>
    obtain ⟨ht, hmoments⟩ := Prog.Vetted.segment hmono (hnamed op) (Set.empty_subset _)
      (hbody op ∅ _) h
    refine ⟨List.forall_mem_append.mpr ⟨hkept _ htasks, List.forall_mem_singleton.mpr ht⟩, ?_⟩
    exact hms.append hmoments
  | @serve s s' ts us op call k r h =>
    obtain ⟨hts, htask, hus⟩ := forall_tasks_iff.mp htasks
    obtain ⟨K, hK, hwaiting⟩ := htask.vetted
    have hready :
        TaskVetted P learn ok owner (ms ++ [.answered ⟨s, call, r⟩]) op (.ready (k r)) := by
      refine ⟨htask.named.2 r, K ∪ learn ⟨s, call, r⟩, ?_, fun s₃ => hwaiting.2 r s s' h s₃⟩
      rw [learnedBy_append]
      apply Set.union_subset_union hK
      intro k hk
      exact ⟨⟨s, call, r⟩, by simp [answers], htask.named.1, hk⟩
    refine ⟨forall_tasks_iff.mpr ⟨hkept _ hts, hready, hkept _ hus⟩, ?_⟩
    · apply hms.append
      intro pre m post hsplit hrequests
      obtain ⟨rfl, rfl⟩ := eq_of_singleton_eq_append_cons hsplit
      simp [Moment.Requests, hwaiting.1] at hrequests
  | @resume s s' ts us op p _ t h =>
    obtain ⟨hts, htask, hus⟩ := forall_tasks_iff.mp htasks
    obtain ⟨K, hK, hready⟩ := htask.vetted
    obtain ⟨ht, hmoments⟩ := Prog.Vetted.segment hmono htask.named hK (hready s) h
    exact ⟨forall_tasks_iff.mpr ⟨hkept _ hts, ht, hkept _ hus⟩, hms.append hmoments⟩

end Runs

section Named

variable {P : Platform R σ} {parts : Parts ι σ τ} {learn : Event R σ ε → Set κ}
  {ok : ι → Set κ → σ → C → Prop}

/-- A named program makes the same calls. -/
theorem Prog.Vetted.named {i : ι} {p : Prog R σ ε α} {Q : Except ε α → Set κ → σ → Prop}
    {K : Set κ} {t : τ} (hp : p.Vetted P learn (ok i) Q K (parts.get i t)) :
    (p.named parts i).Vetted (P.named parts) (fun ev => learn (ev.seen parts))
      (fun K t c => ok c.1 K (parts.get c.1 t) c.2) (fun r K t => Q r K (parts.get i t)) K t := by
  induction p generalizing K t with
  | done r => exact hp
  | step u k ih =>
    apply ih
    rw [parts.get_set]
    exact hp
  | call c k ih =>
    obtain ⟨hok, hk⟩ := hp
    refine ⟨hok, ?_⟩
    by_cases ha : P.awaited c = true
    · rw [if_pos ha] at hk
      rw [if_pos (show (P.named parts).awaited (i, c) = true from ha)]
      intro r t₁ t₂ hr t₃
      have hperform : ∃ s₂, P.perform c (parts.get i t₁) r = some s₂ := by
        cases r with
        | ok v =>
          obtain ⟨s₂, hs₂, -⟩ := Platform.named_effect_eq_some.mp hr
          exact ⟨s₂, hs₂⟩
        | error e => exact ⟨_, if_pos ha⟩
      obtain ⟨s₂, hs₂⟩ := hperform
      exact ih r (hk r _ s₂ hs₂ _)
    · rw [if_neg ha] at hk
      rw [if_neg (show ¬ (P.named parts).awaited (i, c) = true from ha)]
      intro v t' hv
      obtain ⟨s₁, hs₁, rfl⟩ := Platform.named_effect_eq_some.mp hv
      apply ih
      rw [parts.get_set]
      exact hk v s₁ hs₁

/-- A safe program is safe under a name. -/
theorem Prog.safe_named (ok : ι → Set κ → σ → C → Prop) (i : ι) {p : Prog R σ ε α}
    (hp : p.Safe P learn (ok i)) :
    (p.named parts i).Safe (P.named parts) (fun ev => learn (ev.seen parts))
      fun K t c => ok c.1 K (parts.get c.1 t) c.2 :=
  fun K t => Prog.Vetted.named (hp K (parts.get i t))

end Named

end Async
