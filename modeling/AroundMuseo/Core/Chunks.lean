import Mathlib.Data.List.Basic
import Mathlib.Tactic.Common

/-!
# Cutting a list into rows

The rows of a list that is cut from the front: all of one length but the last one, which
may be shorter and is not empty.
-/

namespace Cutting

variable {α : Type} {n i : Nat} {xs ys : List α} {xss : List (List α)}

/-- The rows `xss` are `xs`, cut after every `n` members. -/
structure Chunks (n : Nat) (xss : List (List α)) (xs : List α) : Prop where
  flatten : xss.flatten = xs
  full : ∀ ys ∈ xss.dropLast, ys.length = n
  last : ∀ ys ∈ xss.getLast?, 1 ≤ ys.length ∧ ys.length ≤ n

theorem Chunks.nil : Chunks n ([] : List (List α)) [] :=
  ⟨rfl, List.forall_mem_nil _, fun _ h => by cases h⟩

/-- A row is added to full ones. -/
theorem Chunks.concat (h : Chunks n xss xs) (hfull : ∀ zs ∈ xss, zs.length = n)
    (hpos : 1 ≤ ys.length) (hle : ys.length ≤ n) : Chunks n (xss ++ [ys]) (xs ++ ys) := by
  refine ⟨?_, ?_, ?_⟩
  · rw [List.flatten_append, h.flatten, List.flatten_singleton]
  · rw [List.dropLast_concat]
    exact hfull
  · intro zs hzs
    rw [List.getLast?_concat, Option.mem_some_iff] at hzs
    rw [← hzs]
    exact ⟨hpos, hle⟩

/-- No row is empty. -/
theorem Chunks.length_pos (h : Chunks n xss xs) (hn : 0 < n) : ∀ ys ∈ xss, 0 < ys.length := by
  intro ys hys
  rcases List.eq_nil_or_concat' xss with rfl | ⟨init, zs, rfl⟩
  · cases hys
  · rcases List.mem_append.mp hys with hinit | hlast
    · have hlength := h.full ys (by rw [List.dropLast_concat]; exact hinit)
      rw [hlength]
      exact hn
    · rw [List.mem_singleton.mp hlast]
      exact (h.last zs (by rw [List.getLast?_concat]; rfl)).1

/-- There are no rows of nothing. -/
theorem Chunks.eq_nil (h : Chunks n xss ([] : List α)) : xss = [] := by
  rcases List.eq_nil_or_concat' xss with rfl | ⟨init, zs, rfl⟩
  · rfl
  · have hlast := (h.last zs (by rw [List.getLast?_concat]; rfl)).1
    have hnil : zs = [] := by
      have hflatten := h.flatten
      rw [List.flatten_append, List.flatten_singleton, List.append_eq_nil_iff] at hflatten
      exact hflatten.2
    rw [hnil] at hlast
    exact absurd hlast (by simp)

/-- The first `i` members are cut, and where others are left all rows are full. -/
structure Cut (n : Nat) (xs : List α) (i : Nat) (xss : List (List α)) : Prop where
  chunks : Chunks n xss (xs.take i)
  full : i < xs.length → ∀ ys ∈ xss, ys.length = n

theorem Cut.zero : Cut n xs 0 [] :=
  ⟨Chunks.nil, fun _ => List.forall_mem_nil _⟩

/-- The next row is cut. -/
theorem Cut.step (h : Cut n xs i xss) (hn : 0 < n) (hi : i < xs.length) :
    Cut n xs (i + n) (xss ++ [(xs.take (i + n)).drop i]) := by
  have hlength : ((xs.take (i + n)).drop i).length = min n (xs.length - i) := by
    rw [List.length_drop, List.length_take]
    omega
  have htake : xs.take (i + n) = xs.take i ++ (xs.take (i + n)).drop i := by
    have happend := List.take_append_drop i (xs.take (i + n))
    rw [List.take_take, Nat.min_eq_left (Nat.le_add_right i n)] at happend
    exact happend.symm
  refine ⟨?_, fun hlt => ?_⟩
  · have hpos : 1 ≤ ((xs.take (i + n)).drop i).length := by
      rw [hlength]
      omega
    have hle : ((xs.take (i + n)).drop i).length ≤ n := by
      rw [hlength]
      exact Nat.min_le_left ..
    have hrows := h.chunks.concat (h.full hi) hpos hle
    rwa [← htake] at hrows
  · intro ys hys
    rcases List.mem_append.mp hys with hys | hys
    · exact h.full hi ys hys
    · rw [List.mem_singleton.mp hys, hlength]
      omega

/-- Everything is cut. -/
theorem Cut.done (h : Cut n xs i xss) (hi : xs.length ≤ i) : Chunks n xss xs := by
  have hchunks := h.chunks
  rwa [List.take_of_length_le hi] at hchunks

end Cutting
