import AroundMuseo.Core.Debts

/-!
# Properties that follow the structure of a program

Many properties of a program hold because its calls and its updates have them: putting programs
one after the other, handling exceptions and finalising keep them. What is proved once of a
program for every such property need not be proved again for each of them.
-/

namespace Async

variable {C : Type} {R : C → Type} {σ ε α β : Type}

namespace Prog

/-- A property that is passed on from the parts of a program to the whole. -/
structure Sequential (K : {α : Type} → Prog R σ ε α → Prop) : Prop where
  done : ∀ {α : Type} (r : Except ε α), K (done r)
  andThen : ∀ {α β : Type} {p : Prog R σ ε α} {f : Except ε α → Prog R σ ε β}, K p →
    (∀ r, K (f r)) → K (p.andThen f)

/-- Such a property that does not depend on what is read. -/
structure Closed (K : {α : Type} → Prog R σ ε α → Prop) : Prop extends Sequential @K where
  read : ∀ {α : Type} (f : σ → α), K (read f)

namespace Sequential

variable {K : {α : Type} → Prog R σ ε α → Prop} (hK : Sequential @K) {p : Prog R σ ε α}

include hK

theorem bind {f : α → Prog R σ ε β} (hp : K p) (hf : ∀ a, K (f a)) : K (p >>= f) := by
  apply hK.andThen hp
  rintro (e | a)
  · exact hK.done _
  · exact hf a

theorem handle {h : ε → Prog R σ ε α} (hp : K p) (hh : ∀ e, K (h e)) : K (tryCatch p h) := by
  apply hK.andThen hp
  rintro (e | a)
  · exact hh e
  · exact hK.done _

theorem ensure {q : Prog R σ ε Unit} (hp : K p) (hq : K q) : K (p.ensure q) := by
  apply hK.andThen hp
  intro r
  exact hK.bind hq fun _ => hK.done r

theorem unawaited (hp : K p) : K p.unawaited := hK.andThen hp fun _ => hK.done _

end Sequential

/-- Being confined to some calls follows the structure. -/
theorem closed_confined (ok : C → Prop) {τ : Type} (view : σ → τ) :
    Closed fun {α} (p : Prog R σ ε α) => p.Confined ok view where
  done _ := trivial
  read := confined_read
  andThen := Confined.andThen

end Prog

end Async
