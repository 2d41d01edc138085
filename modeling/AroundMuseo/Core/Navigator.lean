import Mathlib.Tactic.Common

/-!
# A navigator of routes

The navigator is a stack of routes. Every pushed route is a new object, so a
route carries an identity besides its content, and the identities handed out so
far are bounded by a counter. Two routes with the same content are thus told
apart, which is what owning a dialog means.
-/

/-- A stack of routes, topmost first, with the identities that are still unused. -/
structure Navigator (κ : Type) where
  routes : List (Nat × κ)
  next : Nat
  fresh : ∀ r ∈ routes, r.1 < next

namespace Navigator

variable {κ : Type}

/-- Nothing has been pushed yet. -/
def empty : Navigator κ := ⟨[], 0, List.forall_mem_nil _⟩

/-- The route on top. -/
def top (n : Navigator κ) : Option (Nat × κ) := n.routes.head?

/-- Push a new route. -/
def push (x : κ) (n : Navigator κ) : Navigator κ where
  routes := (n.next, x) :: n.routes
  next := n.next + 1
  fresh := by
    intro r hr
    rcases List.mem_cons.mp hr with rfl | hr
    · exact Nat.lt_succ_self _
    · exact Nat.lt_succ_of_lt (n.fresh r hr)

/-- Pop the top route, whatever it is. -/
def pop (n : Navigator κ) : Navigator κ where
  routes := n.routes.tail
  next := n.next
  fresh := fun r hr => n.fresh r (List.mem_of_mem_tail hr)

/-- Replace the top route. -/
def off (x : κ) (n : Navigator κ) : Navigator κ := n.pop.push x

/-- Remove every route and push a new one. -/
def offAll (x : κ) (n : Navigator κ) : Navigator κ where
  routes := [(n.next, x)]
  next := n.next + 1
  fresh := by simp

@[simp] theorem top_push (x : κ) (n : Navigator κ) : (n.push x).top = some (n.next, x) := rfl

@[simp] theorem pop_push_routes (x : κ) (n : Navigator κ) : (n.push x).pop.routes = n.routes := rfl

/-- The route `k` was pushed at some time and is not on the stack any more. -/
def Gone (k : Nat) (n : Navigator κ) : Prop := k < n.next ∧ ∀ r ∈ n.routes, r.1 ≠ k

section Gone

variable {k : Nat} {n : Navigator κ}

/-- A route that was just popped is gone. -/
theorem gone_push_pop (x : κ) (n : Navigator κ) : (n.push x).pop.Gone n.next :=
  ⟨Nat.lt_succ_self _, fun r hr => Nat.ne_of_lt (n.fresh r hr)⟩

/-- A route that is gone does not come back with a new one. -/
theorem Gone.push (h : n.Gone k) (x : κ) : (n.push x).Gone k := by
  refine ⟨Nat.lt_succ_of_lt h.1, fun r hr => ?_⟩
  rcases List.mem_cons.mp hr with rfl | hr
  · exact Nat.ne_of_gt h.1
  · exact h.2 r hr

theorem Gone.pop (h : n.Gone k) : n.pop.Gone k :=
  ⟨h.1, fun r hr => h.2 r (List.mem_of_mem_tail hr)⟩

/-- Nor by replacing the current route. -/
theorem Gone.off (h : n.Gone k) (x : κ) : (n.off x).Gone k := h.pop.push x

/-- Nor by replacing all of them. -/
theorem Gone.offAll (h : n.Gone k) (x : κ) : (n.offAll x).Gone k := by
  refine ⟨Nat.lt_succ_of_lt h.1, fun r hr => ?_⟩
  rw [List.mem_singleton.mp hr]
  exact Nat.ne_of_gt h.1

end Gone

end Navigator
