import AroundMuseo.Core.Projection

/-!
# How a program ends

A program that catches everything never ends with an exception, and one that forwards what its
calls throw ends with an exception exactly if one of them has thrown. Both hold however the
state changes while the program waits.
-/

namespace Async

variable {C : Type} {R : C → Type} {σ ε α β : Type}

theorem answers_issued_cons {s : σ} {c : C} {ms : List (Moment R σ ε)} :
    answers (.issued s c :: ms) = answers ms := rfl

theorem answers_answered_cons {ev : Event R σ ε} {ms : List (Moment R σ ε)} :
    answers (.answered ev :: ms) = ev :: answers ms := rfl

namespace Prog

variable {P : Platform R σ} {s s' : σ} {ms : List (Moment R σ ε)}

/-- No end of the program is an exception, whatever the awaited calls throw. -/
def Catches (P : Platform R σ) : Prog R σ ε α → Prop
  | done r => ∃ a, r = .ok a
  | step _ k => ∀ s, (k s).Catches P
  | call c k => (P.awaited c = true → ∀ e, (k (.error e)).Catches P) ∧ ∀ v, (k (.ok v)).Catches P

section Catches

/-- After a program that throws nothing only its value goes on. -/
theorem Catches.andThen {p : Prog R σ ε α} {f : Except ε α → Prog R σ ε β} (hp : p.Catches P)
    (hf : ∀ a, (f (.ok a)).Catches P) : (p.andThen f).Catches P := by
  induction p with
  | done r =>
    obtain ⟨a, rfl⟩ := hp
    exact hf a
  | step u k ih => exact fun s => ih s (hp s)
  | call c k ih => exact ⟨fun ha e => ih _ (hp.1 ha e), fun v => ih _ (hp.2 v)⟩

theorem catches_pure (a : α) : (pure a : Prog R σ ε α).Catches P := ⟨a, rfl⟩

/-- A program of parts that throw nothing throws nothing. -/
theorem Catches.bind {p : Prog R σ ε α} {f : α → Prog R σ ε β} (hp : p.Catches P)
    (hf : ∀ a, (f a).Catches P) : (p >>= f).Catches P :=
  Catches.andThen hp hf

/-- A finaliser that throws nothing keeps it so. -/
theorem Catches.ensure {p : Prog R σ ε α} {q : Prog R σ ε Unit} (hp : p.Catches P)
    (hq : q.Catches P) : (p.ensure q).Catches P :=
  Catches.andThen hp fun a => Catches.bind hq fun _ => catches_pure a

/-- A run of such a program ends with a value. -/
theorem Catches.admits {p : Prog R σ ε α} (hp : p.Catches P) {out : Except ε α}
    (h : p.Admits P s ms out s') : ∃ a, out = .ok a := by
  induction p generalizing s ms with
  | done r =>
    obtain ⟨-, rfl, -⟩ := h
    exact hp
  | step u k ih => exact ih s (hp s) h
  | call c k ih =>
    rw [Admits] at h
    split at h
    case isTrue ha =>
      obtain ⟨s₁, r, s₂, s₃, rest, -, -, hk⟩ := h
      cases r with
      | error e => exact ih _ (hp.1 ha e) hk
      | ok v => exact ih _ (hp.2 v) hk
    case isFalse =>
      obtain ⟨v, s₁, rest, -, -, hk⟩ := h
      exact ih _ (hp.2 v) hk

end Catches

/-- The program ends with an exception as soon as a call throws, and never by itself. -/
def Forwards (P : Platform R σ) : Prog R σ ε α → Prop
  | done r => ∃ a, r = .ok a
  | step _ k => ∀ s, (k s).Forwards P
  | call c k => (P.awaited c = true → ∀ e, ∃ e', k (.error e) = done (.error e')) ∧
      ∀ v, (k (.ok v)).Forwards P

section Forwards

theorem forwards_pure (a : α) : (pure a : Prog R σ ε α).Forwards P := ⟨a, rfl⟩

/-- A program whose parts hand on every exception hands it on. -/
theorem Forwards.bind {p : Prog R σ ε α} {f : α → Prog R σ ε β} (hp : p.Forwards P)
    (hf : ∀ a, (f a).Forwards P) : (p >>= f).Forwards P := by
  induction p with
  | done r =>
    obtain ⟨a, rfl⟩ := hp
    exact hf a
  | step u k ih => exact fun s => ih s (hp s)
  | call c k ih =>
    refine ⟨fun ha e => ?_, fun v => ih _ (hp.2 v)⟩
    obtain ⟨e', he'⟩ := hp.1 ha e
    refine ⟨e', ?_⟩
    dsimp only
    rw [he']
    rfl

/-- Rethrowing in another form. -/
theorem Forwards.rethrow {p : Prog R σ ε α} (hp : p.Forwards P) (g : ε → ε) :
    (tryCatch p fun e => throw (g e)).Forwards P := by
  induction p with
  | done r =>
    obtain ⟨a, rfl⟩ := hp
    exact forwards_pure a
  | step u k ih => exact fun s => ih s (hp s)
  | call c k ih =>
    refine ⟨fun ha e => ?_, fun v => ih _ (hp.2 v)⟩
    obtain ⟨e', he'⟩ := hp.1 ha e
    refine ⟨g e', ?_⟩
    dsimp only
    rw [he']
    rfl

/-- The outcome is an exception exactly if one of the calls has thrown. -/
theorem Forwards.admits {p : Prog R σ ε α} (hp : p.Forwards P) {out : Except ε α}
    (h : p.Admits P s ms out s') : (∃ a, out = .ok a) ↔ AllAnswered (answers ms) := by
  induction p generalizing s ms with
  | done r =>
    obtain ⟨rfl, rfl, -⟩ := h
    exact iff_of_true hp allAnswered_nil
  | step u k ih => exact ih s (hp s) h
  | call c k ih =>
    rw [Admits] at h
    split at h
    case isTrue ha =>
      obtain ⟨s₁, r, s₂, s₃, rest, -, rfl, hk⟩ := h
      rw [answers_issued_cons, answers_answered_cons, allAnswered_cons]
      cases r with
      | error e =>
        obtain ⟨e', he'⟩ := hp.1 ha e
        rw [he'] at hk
        obtain ⟨-, rfl, -⟩ := hk
        simp
      | ok v =>
        rw [ih _ (hp.2 v) hk]
        simp
    case isFalse =>
      obtain ⟨v, s₁, rest, -, rfl, hk⟩ := h
      rw [answers_answered_cons, allAnswered_cons, ih _ (hp.2 v) hk]
      simp

end Forwards

end Prog

end Async
