import Mathlib.Computability.RegularExpressions

/-!
# Regular expressions over classes of characters

The operators of a regular expression that are written with classes and counts, and the
characters that can occur in a match.
-/

namespace RegularExpression

variable {α : Type}

/-- One character of a class. -/
def oneOf : List α → RegularExpression α
  | [] => 0
  | c :: cs => char c + oneOf cs

/-- One or more in a row. -/
def many1 (P : RegularExpression α) : RegularExpression α := P * P.star

/-- One or none. -/
def optional (P : RegularExpression α) : RegularExpression α := 1 + P

/-- The characters that the expression mentions. -/
def alphabet : RegularExpression α → List α
  | zero | epsilon => []
  | char a => [a]
  | plus P Q | comp P Q => P.alphabet ++ Q.alphabet
  | star P => P.alphabet

/-- A match consists of characters that the expression mentions. -/
theorem mem_alphabet {P : RegularExpression α} {x : List α} (h : x ∈ P.matches') {c : α}
    (hc : c ∈ x) : c ∈ P.alphabet := by
  induction P generalizing x with
  | zero => exact absurd h (Language.notMem_zero x)
  | epsilon =>
    have hx : x = [] := h
    rw [hx] at hc
    cases hc
  | char a =>
    have hx : x = [a] := h
    rwa [hx] at hc
  | plus P Q ihP ihQ =>
    unfold alphabet
    rw [List.mem_append]
    rcases h with h | h
    · exact .inl (ihP h hc)
    · exact .inr (ihQ h hc)
  | comp P Q ihP ihQ =>
    obtain ⟨y, hy, z, hz, rfl⟩ := Language.mem_mul.mp h
    unfold alphabet
    rw [List.mem_append]
    rcases List.mem_append.mp hc with hc | hc
    · exact .inl (ihP hy hc)
    · exact .inr (ihQ hz hc)
  | star P ih =>
    obtain ⟨xs, rfl, hxs⟩ := Language.mem_kstar.mp h
    obtain ⟨y, hy, hcy⟩ := List.mem_flatten.mp hc
    exact ih (hxs y hy) hcy

variable [DecidableEq α]

theorem mem_alphabet_of_rmatch {P : RegularExpression α} {x : List α}
    (h : P.rmatch x = true) {c : α}
    (hc : c ∈ x) : c ∈ P.alphabet :=
  mem_alphabet ((rmatch_iff_matches' P x).mp h) hc

end RegularExpression
