import AroundMuseo.Core.Closed
import AroundMuseo.Core.Projection

/-!
# Updates that the calls announce

Something that the calls themselves never change: only synchronous steps update it, and each of
those is followed by a call of the same segment that tells of it. Then the history of the calls
is a journal from which the value at any moment can be read.
-/

namespace Async

variable {C : Type} {R : C → Type} {σ τ ρ ε ι α β : Type}

/-- A journal in which some of the moments overwrite the value: the last of them counts. -/
theorem foldl_overwrite (write : α → Option β) (v : β) (ms : List α) :
    ms.foldl (fun v m => (write m).getD v) v = (ms.filterMap write).getLast?.getD v := by
  induction ms generalizing v with
  | nil => rfl
  | cons m ms ih =>
    rw [List.foldl_cons, ih]
    cases hm : write m with
    | none => simp [hm]
    | some b => simp [hm, List.getLast?_cons]

namespace Prog

/-- The journal says that the view is `v`, and the program, at `s`, goes on so that each call
tells of the updates before it; it ends in `Q`. -/
def Records (P : Platform R σ) (view : σ → ρ) (act : ρ → Moment R σ ε → ρ) :
    Prog R σ ε α → (Except ε α → ρ → σ → Prop) → ρ → σ → Prop
  | done r, Q, v, s => Q r v s
  | step u k, Q, v, s => (k s).Records P view act Q v (u s)
  | call c k, Q, v, s =>
    if P.awaited c = true then view s = act v (.issued s c) ∧
      ∀ r s', (k r).Records P view act Q (view s') s'
    else ∀ a s', P.effect c s a = some s' → view s = act v (.answered ⟨s, c, .ok a⟩) ∧
      (k (.ok a)).Records P view act Q (view s) s'

variable {P : Platform R σ} {view : σ → ρ} {act : ρ → Moment R σ ε → ρ}
  {Q Q' : Except ε α → ρ → σ → Prop} {v : ρ} {s : σ}

theorem records_mono {p : Prog R σ ε α} (h : p.Records P view act Q v s)
    (hQ : ∀ r v s, Q r v s → Q' r v s) : p.Records P view act Q' v s := by
  induction p generalizing v s with
  | done r => exact hQ r v s h
  | step u k ih => exact ih s h
  | call c k ih =>
    rw [Records] at h ⊢
    split
    case isTrue ha =>
      rw [if_pos ha] at h
      exact ⟨h.1, fun r s' => ih r (h.2 r s')⟩
    case isFalse ha =>
      rw [if_neg ha] at h
      intro a s' hv
      obtain ⟨hview, hk⟩ := h a s' hv
      exact ⟨hview, ih (.ok a) hk⟩

theorem records_andThen {p : Prog R σ ε α} {f : Except ε α → Prog R σ ε β}
    {Q : Except ε β → ρ → σ → Prop}
    (h : p.Records P view act (fun r v s => (f r).Records P view act Q v s) v s) :
    (p.andThen f).Records P view act Q v s := by
  induction p generalizing v s with
  | done r => exact h
  | step u k ih => exact ih s h
  | call c k ih =>
    rw [Records] at h
    rw [andThen, Records]
    split
    case isTrue ha =>
      rw [if_pos ha] at h
      exact ⟨h.1, fun r s' => ih r (h.2 r s')⟩
    case isFalse ha =>
      rw [if_neg ha] at h
      intro a s' hv
      obtain ⟨hview, hk⟩ := h a s' hv
      exact ⟨hview, ih (.ok a) hk⟩

/-- All updates of the view have been announced when the program ends. -/
def Journaled (P : Platform R σ) (view : σ → ρ) (act : ρ → Moment R σ ε → ρ)
    (p : Prog R σ ε α) : Prop :=
  ∀ s, p.Records P view act (fun _ v s => view s = v) (view s) s

theorem closed_journaled (P : Platform R σ) (view : σ → ρ) (act : ρ → Moment R σ ε → ρ) :
    Closed fun {α} (p : Prog R σ ε α) => p.Journaled P view act where
  done _ _ := rfl
  read _ _ := rfl
  andThen hp hf s := by
    apply records_andThen
    apply records_mono (hp s)
    intro r v s hview
    rw [← hview]
    exact hf r s

theorem journaled_modify {u : σ → σ} (hu : ∀ s, view (u s) = view s) :
    (modify u : Prog R σ ε Unit).Journaled P view act := hu

/-- An update is still to be announced. -/
theorem records_modify_bind {u : σ → σ} {f : Unit → Prog R σ ε α} :
    (modify u >>= f).Records P view act Q v s ↔ (f ()).Records P view act Q v (u s) := Iff.rfl

theorem records_read_bind {g : σ → β} {f : β → Prog R σ ε α} :
    (read g >>= f).Records P view act Q v s ↔ (f (g s)).Records P view act Q v s := Iff.rfl

/-- An awaited call, which tells of the updates before it. -/
theorem records_invoke {c : C} {Q : Except ε (R c) → ρ → σ → Prop} (ha : P.awaited c = true)
    (hview : view s = act v (.issued s c)) (hQ : ∀ r s', Q r (view s') s') :
    (invoke c).Records P view act Q v s := by
  rw [invoke, Records, if_pos ha]
  exact ⟨hview, hQ⟩

/-- A synchronous call, which tells of the updates before it. -/
theorem records_invoke_sync {c : C} {Q : Except ε (R c) → ρ → σ → Prop} (ha : P.awaited c = false)
    (hview : ∀ a, view s = act v (.answered ⟨s, c, .ok a⟩))
    (hQ : ∀ a s', P.effect c s a = some s' → Q (.ok a) (view s) s') :
    (invoke c).Records P view act Q v s := by
  rw [invoke, Records, if_neg (by simp [ha])]
  exact fun a s' hv => ⟨hview a, hQ a s' hv⟩

/-- A call that announces nothing. -/
theorem journaled_invoke {c : C} (hissued : ∀ v s, act v (.issued s c) = v)
    (hanswered : ∀ v s r, act v (.answered ⟨s, c, r⟩) = v)
    (heffect : ∀ s a s', P.effect c s a = some s' → view s' = view s) :
    (invoke c : Prog R σ ε (R c)).Journaled P view act := by
  intro s
  rw [invoke, Records]
  split
  · exact ⟨(hissued _ _).symm, fun r s' => rfl⟩
  · intro a s' ha
    exact ⟨(hanswered _ _ _).symm, heffect s a s' ha⟩

end Prog

section Runs

variable {P : Platform R σ} {view : σ → ρ} {act : ρ → Moment R σ ε → ρ} {body : ι → Prog R σ ε Unit}

/-- What is left of an operation announces its updates. -/
def Task.Journaled (P : Platform R σ) (view : σ → ρ) (act : ρ → Moment R σ ε → ρ) :
    Task R σ ε → Prop
  | waiting c k => P.awaited c = true ∧
      ∀ r s, (k r).Records P view act (fun _ v s => view s = v) (view s) s
  | ready p => p.Journaled P view act
  | finished => True

/-- The journal is right after some moments, and was right at each call. -/
structure JournalRight (view : σ → ρ) (act : ρ → Moment R σ ε → ρ) (P : Platform R σ) (v : ρ)
    (ms : List (Moment R σ ε)) (v' : ρ) : Prop where
  last : v' = ms.foldl act v
  each : ∀ pre m post, ms = pre ++ m :: post →
    (∀ ev, m = .answered ev → P.awaited ev.call = false) →
    view m.state = (pre ++ [m]).foldl act v

theorem JournalRight.append {v v' v'' : ρ} {ms ms' : List (Moment R σ ε)}
    (h : JournalRight view act P v ms v') (h' : JournalRight view act P v' ms' v'') :
    JournalRight view act P v (ms ++ ms') v'' := by
  refine ⟨?_, ?_⟩
  · rw [h'.last, h.last, List.foldl_append]
  · intro pre m post hms hm
    rcases List.append_eq_append_iff.mp hms with ⟨pre', rfl, hms'⟩ | ⟨rest, hrest, hpost⟩
    · rw [h'.each pre' m post hms' hm, h.last, ← List.foldl_append, List.append_assoc]
    · cases rest with
      | nil =>
        rw [List.append_nil] at hrest
        subst hrest
        have hfirst := h'.each [] m post hpost.symm hm
        rw [hfirst, h.last, ← List.foldl_append]
        rfl
      | cons m' rest =>
        obtain ⟨rfl, -⟩ := List.cons.inj hpost
        exact h.each pre m rest hrest hm

/-- The journal of a segment. -/
theorem Prog.Records.advance {p : Prog R σ ε Unit} {v : ρ} {s s' : σ} {ms : List (Moment R σ ε)}
    {t : Task R σ ε} (hp : p.Records P view act (fun _ v s => view s = v) v s)
    (h : p.Advance P s ms t s') :
    t.Journaled P view act ∧ JournalRight view act P v ms (view s') := by
  induction p generalizing v s ms with
  | done r =>
    obtain ⟨rfl, rfl, rfl⟩ := h
    exact ⟨trivial, hp, fun pre m post hms => by simp at hms⟩
  | step u k ih => exact ih s hp h
  | call c k ih =>
    rw [Prog.Advance] at h
    rw [Prog.Records] at hp
    split at h
    case isTrue ha =>
      rw [if_pos ha] at hp
      obtain ⟨rfl, rfl, rfl⟩ := h
      refine ⟨⟨ha, hp.2⟩, hp.1, ?_⟩
      intro pre m post hms _
      obtain ⟨rfl, rfl⟩ := eq_of_singleton_eq_append_cons hms
      exact hp.1
    case isFalse ha =>
      rw [if_neg ha] at hp
      obtain ⟨a, s₁, rest, hv, rfl, hk⟩ := h
      obtain ⟨hview, hrest⟩ := hp a s₁ hv
      obtain ⟨ht, hjournal⟩ := ih (.ok a) hrest hk
      have hfirst : JournalRight view act P v [.answered ⟨s, c, .ok a⟩] (view s) := by
        refine ⟨hview, ?_⟩
        intro pre m post hms _
        obtain ⟨rfl, rfl⟩ := eq_of_singleton_eq_append_cons hms
        exact hview
      exact ⟨ht, hfirst.append hjournal⟩

/-- In every run of operations that announce their updates the journal is right. -/
theorem Pool.Run.journal (hbody : ∀ op, (body op).Journaled P view act)
    (hserve : ∀ (c : C) (s s' : σ) (r : Except ε (R c)), P.awaited c = true →
      P.perform c s r = some s' → view s' = view s)
    (hact : ∀ v s (c : C) (r : Except ε (R c)), P.awaited c = true →
      act v (.answered ⟨s, c, r⟩) = v)
    {s₀ : σ} {c : Pool R σ ε ι} {ms : List (Moment R σ ε)} (hrun : Pool.Run P body ⟨s₀, []⟩ ms c) :
    JournalRight view act P (view s₀) ms (view c.state) := by
  suffices hall : (∀ x ∈ c.tasks, x.2.Journaled P view act) ∧
      JournalRight view act P (view s₀) ms (view c.state) from hall.2
  refine hrun.invariant (fun c ms => (∀ x ∈ c.tasks, x.2.Journaled P view act) ∧
    JournalRight view act P (view s₀) ms (view c.state))
    ⟨List.forall_mem_nil _, rfl, fun pre m post hms => by simp at hms⟩ ?_
  intro c₁ c₂ ms ms' ⟨htasks, hjournal⟩ hstep
  cases hstep with
  | start op h =>
    obtain ⟨ht, hsegment⟩ := (hbody op _).advance h
    refine ⟨List.forall_mem_append.mpr ⟨htasks, List.forall_mem_singleton.mpr ht⟩, ?_⟩
    exact hjournal.append hsegment
  | @serve s s' ts us op call k r h =>
    obtain ⟨hts, hwaiting, hus⟩ := forall_tasks_iff.mp htasks
    refine ⟨forall_tasks_iff.mpr ⟨hts, hwaiting.2 r, hus⟩, hjournal.append ⟨?_, ?_⟩⟩
    · rw [hserve call s s' r hwaiting.1 h]
      exact (hact _ s call r hwaiting.1).symm
    · intro pre m post hms hm
      obtain ⟨rfl, rfl⟩ := eq_of_singleton_eq_append_cons hms
      have hsync : P.awaited call = false := hm _ rfl
      rw [hwaiting.1] at hsync
      cases hsync
  | @resume s s' ts us op p _ t h =>
    obtain ⟨hts, hready, hus⟩ := forall_tasks_iff.mp htasks
    obtain ⟨ht, hsegment⟩ := Prog.Records.advance (hready s) h
    exact ⟨forall_tasks_iff.mpr ⟨hts, ht, hus⟩, hjournal.append hsegment⟩

end Runs

section Named

variable {P : Platform R σ} {parts : Parts ι σ τ} {view : σ → ρ} {view' : τ → ρ}
  {act : ι → ρ → Moment R σ ε → ρ} (hget : ∀ i t, view (parts.get i t) = view' t)

include hget

/-- A named program announces the same updates, under its name. -/
theorem Prog.Records.named {i : ι} {p : Prog R σ ε α} {Q : Except ε α → ρ → σ → Prop}
    {v : ρ} {t : τ}
    (hp : p.Records P view (act i) Q v (parts.get i t)) :
    (p.named parts i).Records (P.named parts) view' (fun v m => act m.call.1 v (m.seen parts))
      (fun r v t => Q r v (parts.get i t)) v t := by
  induction p generalizing v t with
  | done r => exact hp
  | step u k ih =>
    apply ih
    rw [parts.get_set]
    exact hp
  | call c k ih =>
    rw [Prog.Records] at hp
    rw [Prog.named, Prog.Records]
    by_cases ha : P.awaited c = true
    · rw [if_pos ha] at hp
      rw [if_pos (show (P.named parts).awaited (i, c) = true from ha), ← hget i t]
      refine ⟨hp.1, fun r t' => ?_⟩
      rw [← hget i t']
      exact ih r (hp.2 r _)
    · rw [if_neg ha] at hp
      rw [if_neg (show ¬ (P.named parts).awaited (i, c) = true from ha)]
      intro a t' heffect
      obtain ⟨s₁, hs₁, rfl⟩ := Platform.named_effect_eq_some.mp heffect
      obtain ⟨hview, hk⟩ := hp a s₁ hs₁
      rw [← hget i t]
      refine ⟨hview, ?_⟩
      apply ih
      rw [parts.get_set]
      exact hk

theorem Prog.Journaled.named {i : ι} {p : Prog R σ ε α} (hp : p.Journaled P view (act i)) :
    (p.named parts i).Journaled (P.named parts) view' fun v m => act m.call.1 v (m.seen parts) := by
  intro t
  have hnamed := Prog.Records.named hget (hp (parts.get i t))
  rw [hget] at hnamed
  apply Prog.records_mono hnamed
  intro r v t' hview
  rw [← hget i t']
  exact hview

end Named

end Async
