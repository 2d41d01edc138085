import AroundMuseo.Core.Run

/-!
# Views of a run

A view maps the state to what one is interested in. A program is confined if its
synchronous steps leave the view alone and its calls are among those allowed. If every
call changes the view as `act` says, then the view after a run is determined by the
calls of the run: the run refines the abstract machine that only sees its events.
-/

namespace Async

variable {C : Type} {R : C → Type} {σ τ ε α β : Type}

namespace Prog

/-- No synchronous step of the program changes the view, and every call is allowed. -/
def Confined (ok : C → Prop) (view : σ → τ) : Prog R σ ε α → Prop
  | done _ => True
  | step u k => (∀ s, view (u s) = view s) ∧ ∀ s, (k s).Confined ok view
  | call c k => ok c ∧ ∀ r, (k r).Confined ok view

section Confined

variable {ok : C → Prop} {view : σ → τ}

/-- Programs that are confined are so one after the other. -/
theorem Confined.andThen {p : Prog R σ ε α} {f : Except ε α → Prog R σ ε β}
    (hp : p.Confined ok view)
    (hf : ∀ r, (f r).Confined ok view) : (p.andThen f).Confined ok view := by
  induction p with
  | done r => exact hf r
  | step u k ih => exact ⟨hp.1, fun s => ih s (hp.2 s)⟩
  | call c k ih => exact ⟨hp.1, fun r => ih r (hp.2 r)⟩

/-- The continuation is confined as well. -/
theorem Confined.bind {p : Prog R σ ε α} {f : α → Prog R σ ε β}
    (hp : p.Confined ok view) (hf : ∀ a, (f a).Confined ok view) : (p >>= f).Confined ok view := by
  refine Confined.andThen hp ?_
  rintro (e | a)
  · trivial
  · exact hf a

/-- So is the handler. -/
theorem Confined.handle {p : Prog R σ ε α} {h : ε → Prog R σ ε α}
    (hp : p.Confined ok view)
    (hh : ∀ e, (h e).Confined ok view) : (tryCatch p h).Confined ok view := by
  refine Confined.andThen hp ?_
  rintro (e | a)
  · exact hh e
  · trivial

/-- So is the finaliser. -/
theorem Confined.ensure {p : Prog R σ ε α} {q : Prog R σ ε Unit}
    (hp : p.Confined ok view) (hq : q.Confined ok view) : (p.ensure q).Confined ok view :=
  Confined.andThen hp fun _ => Confined.bind hq fun _ => trivial

theorem Confined.unawaited {p : Prog R σ ε α} (hp : p.Confined ok view) :
    p.unawaited.Confined ok view :=
  Confined.andThen hp fun _ => trivial

theorem confined_invoke {c : C} (h : ok c) : (invoke c : Prog R σ ε (R c)).Confined ok view :=
  ⟨h, fun _ => trivial⟩

theorem confined_read (f : σ → α) : (read f : Prog R σ ε α).Confined ok view :=
  ⟨fun _ => rfl, fun _ => trivial⟩

/-- An update that the view does not show. -/
theorem confined_modify {u : σ → σ} (h : ∀ s, view (u s) = view s) :
    (modify u : Prog R σ ε Unit).Confined ok view :=
  ⟨h, fun _ => trivial⟩

/-- A view of a view is kept as well. -/
theorem Confined.comp {υ : Type} {p : Prog R σ ε α} (hp : p.Confined ok view) (g : τ → υ) :
    p.Confined ok (fun s => g (view s)) := by
  induction p with
  | done r => trivial
  | step u k ih => exact ⟨fun s => congrArg g (hp.1 s), fun s => ih s (hp.2 s)⟩
  | call c k ih => exact ⟨hp.1, fun r => ih r (hp.2 r)⟩

/-- More calls may be allowed. -/
theorem Confined.mono {ok' : C → Prop} {p : Prog R σ ε α} (hp : p.Confined ok view)
    (h : ∀ c, ok c → ok' c) : p.Confined ok' view := by
  induction p with
  | done r => trivial
  | step u k ih => exact ⟨hp.1, fun s => ih s (hp.2 s)⟩
  | call c k ih => exact ⟨h c hp.1, fun r => ih r (hp.2 r)⟩

/-- What the allowed calls preserve of the view, the program preserves. -/
theorem Confined.wp_preserves {P : Platform R σ} {I : τ → Prop}
    (hP : ∀ (c : C) (s s' : σ) (r : Except ε (R c)), ok c → P.perform c s r = some s' →
      I (view s) → I (view s')) {p : Prog R σ ε α} (hp : p.Confined ok view) (s : σ)
    (hs : I (view s)) : p.wp P (fun _ tr s' => (∀ ev ∈ tr, ok ev.call) ∧ I (view s')) s := by
  induction p generalizing s with
  | done r => exact ⟨List.forall_mem_nil _, hs⟩
  | step u k ih =>
    have hu : I (view (u s)) := (hp.1 s).symm ▸ hs
    exact ih s (hp.2 s) (u s) hu
  | call c k ih =>
    intro r s₁ hc
    have hs₁ : I (view s₁) := hP c s s₁ r hp.1 hc hs
    exact wp_mono (ih r (hp.2 r) s₁ hs₁) fun out tr s' h =>
      ⟨List.forall_mem_cons.mpr ⟨hp.1, h.1⟩, h.2⟩

/-- If the allowed calls keep the view, so does the program. -/
theorem Confined.wp_keeps {P : Platform R σ}
    (hP : ∀ (c : C) (s s' : σ) (r : Except ε (R c)), ok c → P.perform c s r = some s' →
      view s' = view s) {p : Prog R σ ε α} (hp : p.Confined ok view) (s : σ) :
    p.wp P (fun _ tr s' => (∀ ev ∈ tr, ok ev.call) ∧ view s' = view s) s :=
  hp.wp_preserves (I := (· = view s))
    (fun c s₁ s₂ r hc hr h => (hP c s₁ s₂ r hc hr).trans h) s rfl

end Confined

end Prog

/-- Every call changes the view as `act` says of its event. -/
def Platform.Shows (P : Platform R σ) (view : σ → τ) (act : τ → Event R σ ε → τ) : Prop :=
  ∀ (c : C) (s s' : σ) (r : Except ε (R c)), P.perform c s r = some s' →
    view s' = act (view s) ⟨s, c, r⟩

/-- The view after a run is what the events of the run make of it. -/
theorem Prog.Run.view_eq {P : Platform R σ} {view : σ → τ} {act : τ → Event R σ ε → τ}
    (hP : P.Shows view act) {ok : C → Prop} {p : Prog R σ ε α} (hp : p.Confined ok view) {s s' : σ}
    {tr : List (Event R σ ε)} {r : Except ε α} (hr : p.Run P s tr r s') :
    view s' = tr.foldl act (view s) := by
  induction p generalizing s tr with
  | done out =>
    obtain ⟨rfl, -, rfl⟩ := hr
    rfl
  | step u k ih =>
    rw [← hp.1 s]
    exact ih s (hp.2 s) hr
  | call c k ih =>
    obtain ⟨reply, s₁, rest, hc, rfl, hk⟩ := hr
    rw [ih reply (hp.2 reply) hk, hP c s s₁ reply hc, List.foldl_cons]

end Async
