import Mathlib.Data.List.Count
import Mathlib.Data.List.Dedup
import Mathlib.Data.List.Induction
import Mathlib.Tactic.Common

/-!
# A set kept as a list

Elements are appended unless they occur, and removing takes out the first occurrence.
After any sequence of updates the last update of an element decides whether it occurs,
unless the list had more occurrences at the start than were taken out. A set that is
kept next to the list by other means agrees with it when their last updates do.
-/

namespace ListSet

variable {α : Type}

/-- An update of one element. -/
inductive Update (α : Type) where
  | add (x : α)
  | remove (x : α)
  deriving DecidableEq, Repr

def Update.target : Update α → α
  | add x => x
  | remove x => x

@[simp] theorem Update.target_add (x : α) : (add x).target = x := rfl

@[simp] theorem Update.target_remove (x : α) : (remove x).target = x := rfl

variable [DecidableEq α]

/-- Add at the end, or remove the first occurrence. -/
def update (xs : List α) : Update α → List α
  | .add x => if x ∈ xs then xs else xs ++ [x]
  | .remove x => xs.erase x

/-- The updates, one after the other. -/
def run (xs : List α) (us : List (Update α)) : List α := us.foldl update xs

/-- The last update of an element. -/
def last? (x : α) (us : List (Update α)) : Option (Update α) :=
  (us.filter fun u => u.target = x).getLast?

/-- How often an element was to be removed. -/
def removals (x : α) (us : List (Update α)) : Nat := us.count (.remove x)

@[simp] theorem run_nil (xs : List α) : run xs [] = xs := rfl

/-- The last update comes last. -/
theorem run_snoc (xs : List α) (us : List (Update α)) (u : Update α) :
    run xs (us ++ [u]) = update (run xs us) u := by
  rw [run, List.foldl_append]
  rfl

@[simp] theorem last?_nil (x : α) : last? x [] = none := rfl

/-- The last update of an element. -/
theorem last?_snoc (x : α) (us : List (Update α)) (u : Update α) :
    last? x (us ++ [u]) = if u.target = x then some u else last? x us := by
  rw [last?, List.filter_append]
  by_cases h : u.target = x
  · rw [if_pos h, List.filter_cons_of_pos (by simpa using h)]
    exact List.getLast?_concat
  · rw [if_neg h, List.filter_cons_of_neg (by simpa using h), List.filter_nil, List.append_nil]
    rfl

/-- The last update of an element is one of its updates. -/
theorem last?_eq {x : α} {us : List (Update α)} {u : Update α} (h : last? x us = some u) :
    u ∈ us ∧ u.target = x := by
  have hmem := List.mem_of_getLast? h
  rw [List.mem_filter] at hmem
  exact ⟨hmem.1, by simpa using hmem.2⟩

/-- An element is never updated. -/
theorem last?_eq_none {x : α} {us : List (Update α)} :
    last? x us = none ↔ ∀ u ∈ us, u.target ≠ x := by
  rw [last?, List.getLast?_eq_none_iff, List.filter_eq_nil_iff]
  simp

/-- Removals are counted from the end. -/
theorem removals_snoc (x : α) (us : List (Update α)) (u : Update α) :
    removals x (us ++ [u]) = removals x us + if u = .remove x then 1 else 0 := by
  rw [removals, List.count_append, List.count_singleton]
  simp [removals]

/-- How often an element occurs after an update. -/
theorem count_update (x : α) (xs : List α) (u : Update α) : (update xs u).count x =
    if u = .add x then max 1 (xs.count x)
    else if u = .remove x then xs.count x - 1 else xs.count x := by
  cases u with
  | add y =>
    by_cases hy : y = x
    · subst hy
      rw [if_pos rfl, update]
      split
      case isTrue hmem =>
        have hpos := List.count_pos_iff.mpr hmem
        omega
      case isFalse hmem =>
        rw [List.count_append, List.count_eq_zero_of_not_mem hmem, List.count_singleton_self]
        rfl
    · have hne : ¬ Update.add y = .add x := fun h => hy (Update.add.inj h)
      rw [if_neg hne, if_neg nofun, update]
      split
      · rfl
      · rw [List.count_append, List.count_singleton, if_neg (by simpa using hy), Nat.add_zero]
  | remove y =>
    rw [if_neg nofun, update]
    by_cases hy : y = x
    · subst hy
      rw [if_pos rfl, List.count_erase_self]
    · have hne : ¬ Update.remove y = .remove x := fun h => hy (Update.remove.inj h)
      rw [if_neg hne, List.count_erase_of_ne (Ne.symm hy)]

/-- What the occurrences of an element are after any updates: as long as fewer were to be
removed than there were, the difference or one more added later, and at most one from then on. -/
theorem count_run (x : α) (xs : List α) (us : List (Update α)) : (run xs us).count x =
    if removals x us < xs.count x then xs.count x - removals x us
    else if last? x us = some (.add x) then 1 else 0 := by
  induction us using List.reverseRecOn with
  | nil =>
    have hnone : removals x ([] : List (Update α)) = 0 := rfl
    rw [run_nil, hnone, last?_nil]
    by_cases hx : 0 < xs.count x
    · rw [if_pos hx, Nat.sub_zero]
    · rw [if_neg hx, if_neg nofun]
      omega
  | append_singleton us u ih =>
    have hremovals := removals_snoc x us u
    have hlast := last?_snoc x us u
    rw [run_snoc, count_update, ih]
    by_cases hadd : u = .add x
    · subst hadd
      rw [if_neg (by simp), Nat.add_zero] at hremovals
      rw [Update.target_add, if_pos rfl] at hlast
      rw [if_pos rfl, hremovals, hlast, if_pos rfl]
      split
      · omega
      · split <;> rfl
    by_cases hremove : u = .remove x
    · subst hremove
      rw [if_pos rfl] at hremovals
      rw [Update.target_remove, if_pos rfl] at hlast
      have hne : ¬ some (Update.remove x) = some (.add x) := nofun
      rw [if_neg hadd, if_pos rfl, hremovals, hlast, if_neg hne]
      by_cases hless : removals x us < xs.count x
      · rw [if_pos hless]
        split <;> omega
      · have hless' : ¬ removals x us + 1 < xs.count x := by omega
        rw [if_neg hless, if_neg hless']
        split <;> rfl
    · have htarget : u.target ≠ x := by
        cases u <;> simp_all [Update.target]
      rw [if_neg hremove, Nat.add_zero] at hremovals
      rw [if_neg htarget] at hlast
      rw [if_neg hadd, if_neg hremove, hremovals, hlast]

/-- When an element occurs after any updates. -/
theorem mem_run_iff {x : α} {xs : List α} {us : List (Update α)} : x ∈ run xs us ↔
    last? x us = some (.add x) ∨ removals x us < xs.count x := by
  rw [← List.count_pos_iff, count_run]
  split
  case isTrue h =>
    exact iff_of_true (by omega) (.inr h)
  case isFalse h =>
    rw [or_iff_left h]
    split <;> simp_all

/-- An update creates no duplicate. -/
theorem nodup_update {xs : List α} (h : xs.Nodup) (u : Update α) : (update xs u).Nodup := by
  cases u with
  | add x =>
    rw [update]
    split
    · exact h
    case isFalse hx => exact List.nodup_append_comm.mp (List.nodup_cons.mpr ⟨hx, h⟩)
  | remove x => exact h.erase x

/-- No sequence of updates creates a duplicate. -/
theorem nodup_run {xs : List α} (h : xs.Nodup) (us : List (Update α)) : (run xs us).Nodup := by
  induction us using List.reverseRecOn with
  | nil => exact h
  | append_singleton us u ih =>
    rw [run_snoc]
    exact nodup_update ih u

/-- In a list without duplicates the last update of an element decides. -/
theorem Nodup.mem_run_iff {x : α} {xs : List α} (h : xs.Nodup) {us : List (Update α)} :
    x ∈ run xs us ↔ last? x us = some (.add x) ∨ last? x us = none ∧ x ∈ xs := by
  rw [ListSet.mem_run_iff]
  refine or_congr_right' fun hadd => ?_
  have hcount : xs.count x ≤ 1 := List.nodup_iff_count_le_one.mp h x
  constructor
  · intro hremovals
    refine ⟨last?_eq_none.mpr fun u hu htarget => ?_, List.count_pos_iff.mp (by omega)⟩
    cases hlast : last? x us with
    | none => exact last?_eq_none.mp hlast u hu htarget
    | some v =>
      obtain ⟨hv, hvx⟩ := last?_eq hlast
      have hremove : v = .remove x := by
        cases v <;> simp_all [Update.target]
      have hpos : 0 < removals x us := List.count_pos_iff.mpr (hremove ▸ hv)
      omega
  · intro ⟨hlast, hx⟩
    have hnone : removals x us = 0 := by
      refine List.count_eq_zero.mpr fun hmem => ?_
      exact last?_eq_none.mp hlast _ hmem rfl
    have hpos := List.count_pos_iff.mpr hx
    omega

/-- The elements that are never removed stay in their order, and no others come among them. -/
theorem filter_run {xs : List α} {p : α → Prop} [DecidablePred p] {us : List (Update α)}
    (h : ∀ x ∈ xs, p x → .remove x ∉ us) (hxs : ∀ x, p x → x ∈ xs) :
    (run xs us).filter p = xs.filter p := by
  induction us using List.reverseRecOn with
  | nil => rfl
  | append_singleton us u ih =>
    have ih := ih fun x hx hp hmem => h x hx hp (List.mem_append_left _ hmem)
    rw [run_snoc, ← ih]
    cases u with
    | add y =>
      rw [update]
      split
      · rfl
      case isFalse hy =>
        have hpy : ¬ p y := by
          intro hp
          have hmem : y ∈ (run xs us).filter p := by
            rw [ih]
            exact List.mem_filter.mpr ⟨hxs y hp, by simpa using hp⟩
          exact hy (List.mem_filter.mp hmem).1
        rw [List.filter_append, List.filter_cons_of_neg (by simpa using hpy), List.filter_nil,
          List.append_nil]
    | remove y =>
      have hpy : ¬ p y :=
        fun hp => h y (hxs y hp) hp (List.mem_append_right _ (List.mem_singleton_self _))
      rw [update]
      rw [← List.erase_filter]
      refine List.erase_of_not_mem fun hmem => hpy ?_
      simpa using (List.mem_filter.mp hmem).2

end ListSet
