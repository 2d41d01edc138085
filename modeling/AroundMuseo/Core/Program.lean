import Mathlib.Tactic.TypeStar

/-!
# Programs over an asynchronous platform

An asynchronous function is a tree of steps. It has finished, with a value or an
exception, or it updates the local state in one synchronous step, or it makes a
call and goes on with the reply or with the exception the call threw. The tree
says nothing about what the calls do: a platform gives them their meaning, for a
single run in `Run` and for overlapping runs in `Pool`.
-/

namespace Async

variable {C : Type} {R : C → Type} {σ ε α β γ : Type}

/-- A program whose calls `c : C` are answered by values of `R c`, with local
state `σ`, exceptions `ε` and results `α`. -/
inductive Prog (R : C → Type) (σ ε α : Type) : Type
  | done (r : Except ε α)
  | step (u : σ → σ) (k : σ → Prog R σ ε α)
  | call (c : C) (k : Except ε (R c) → Prog R σ ε α)

namespace Prog

/-- Continue with `f` once the program has finished, normally or not. -/
def andThen : Prog R σ ε α → (Except ε α → Prog R σ ε β) → Prog R σ ε β
  | done r, f => f r
  | step u k, f => step u fun s => (k s).andThen f
  | call c k, f => call c fun r => (k r).andThen f

/-- Sequential composition: an exception skips the continuation. -/
def bind (p : Prog R σ ε α) (f : α → Prog R σ ε β) : Prog R σ ε β :=
  p.andThen fun
    | .ok a => f a
    | .error e => done (.error e)

/-- `try p catch (e) { h(e) }`. -/
def handle (p : Prog R σ ε α) (h : ε → Prog R σ ε α) : Prog R σ ε α :=
  p.andThen fun
    | .ok a => done (.ok a)
    | .error e => h e

/-- `try p finally { q }`: `q` runs on every outcome, which is then passed on. -/
def ensure (p : Prog R σ ε α) (q : Prog R σ ε Unit) : Prog R σ ε α :=
  p.andThen fun r => q.bind fun _ => done r

/-- A call of an asynchronous function that is not awaited: its outcome is dropped. -/
def unawaited (p : Prog R σ ε α) : Prog R σ ε Unit :=
  p.andThen fun _ => done (.ok ())

instance : Monad (Prog R σ ε) where
  pure a := done (.ok a)
  bind := bind

instance : MonadExcept ε (Prog R σ ε) where
  throw e := done (.error e)
  tryCatch := handle

/-- Make the call `c`. -/
def invoke (c : C) : Prog R σ ε (R c) := call c done

/-- Read the local state. -/
def read (f : σ → α) : Prog R σ ε α := step id fun s => done (.ok (f s))

/-- Update the local state in one synchronous step. -/
def modify (u : σ → σ) : Prog R σ ε Unit := step u fun _ => done (.ok ())

theorem bind_eq (p : Prog R σ ε α) (f : α → Prog R σ ε β) : p >>= f = p.bind f := rfl

theorem tryCatch_eq (p : Prog R σ ε α) (h : ε → Prog R σ ε α) : tryCatch p h = p.handle h := rfl

end Prog

end Async
