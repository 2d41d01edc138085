import AroundMuseo.Core.Chunks
import AroundMuseo.Core.DartRange
import AroundMuseo.Core.While

/-!
# Wrapping widgets into rows

`MAppHelperFunctions.wrapWidgets`: a loop with a stride cuts the widgets, and clamps the end
of the last row.
-/

namespace AroundMuseo

open Cutting

variable {Widget : Type}

/-- `Row(children: children)`, among widgets of any type. -/
structure Row (Widget : Type) where
  children : List Widget
  deriving DecidableEq, Repr

namespace MAppHelperFunctions

/-- The variables of the loop of `wrapWidgets`. -/
structure Wrapping (Widget : Type) where
  i : Int
  wrappedList : List (Row Widget)

/-- The body of the loop, with its `i += rowSize`. -/
def wrapRow (widgets : List Widget) (rowSize : Int) (s : Wrapping Widget) :
    Except Dart.RangeError (Wrapping Widget) := do
  let rowChildren ← Dart.sublist widgets s.i <| some <|
    if s.i + rowSize > widgets.length then widgets.length else s.i + rowSize
  return ⟨s.i + rowSize, s.wrappedList ++ [⟨rowChildren⟩]⟩

/-- The condition of the loop. -/
def hasMore (widgets : List Widget) (s : Wrapping Widget) : Bool := s.i < widgets.length

/-- There is no answer where the loop does not end within the fuel. -/
def wrapWidgets (fuel : Nat) (widgets : List Widget) (rowSize : Int) :
    Option (Except Dart.RangeError (List (Row Widget))) :=
  (While.run (hasMore widgets) (wrapRow widgets rowSize) fuel ⟨0, []⟩).map
    fun result => result.map (·.wrappedList)

section Rows

variable {widgets : List Widget} {i n : Nat} {wrappedList : List (Row Widget)}

/-- A row is cut from what is left. -/
theorem wrapRow_eq_ok (hi : i < widgets.length) :
    wrapRow widgets n ⟨i, wrappedList⟩ =
      .ok ⟨(i + n : Nat), wrappedList ++ [⟨(widgets.take (i + n)).drop i⟩]⟩ := by
  have hstop : (if (i : Int) + n > widgets.length then (widgets.length : Int) else i + n) =
      (min widgets.length (i + n) : Nat) := by
    split <;> omega
  have htake : widgets.take (min widgets.length (i + n)) = widgets.take (i + n) := by
    rw [Nat.min_comm, ← List.take_take, List.take_length]
  simp only [wrapRow]
  rw [hstop, Dart.sublist_eq_ok i _ (by omega) (by omega), htake]
  simp [bind, Except.bind, pure, Except.pure]

theorem i_of_wrapRow {rowSize : Int} {s s' : Wrapping Widget}
    (h : wrapRow widgets rowSize s = .ok s') : s'.i = s.i + rowSize := by
  simp only [wrapRow] at h
  split at h <;>
  · generalize hrow : Dart.sublist widgets s.i _ = row at h
    cases row with
    | error e => cases h
    | ok row =>
      cases h
      rfl

/-- The rows so far are those of the first `i` widgets. -/
def Wrapped (n : Nat) (widgets : List Widget) (s : Wrapping Widget) : Prop :=
  ∃ i : Nat, s.i = i ∧ Cut n widgets i (s.wrappedList.map Row.children)

theorem wrapped_wrapRow (hn : 0 < n) {s : Wrapping Widget} (h : Wrapped n widgets s)
    (hguard : hasMore widgets s = true) :
    While.Post (fun s' => Wrapped n widgets s' ∧
        (widgets.length - s'.i).toNat < (widgets.length - s.i).toNat)
      (fun _ => False) (wrapRow widgets n s) := by
  obtain ⟨j, wrappedList⟩ := s
  obtain ⟨i, hi, hcut⟩ := h
  have hi' : j = (i : Int) := hi
  subst hi'
  have hlt : i < widgets.length := Int.ofNat_lt.mp (of_decide_eq_true hguard)
  rw [wrapRow_eq_ok hlt]
  refine ⟨⟨i + n, rfl, ?_⟩, ?_⟩
  · rw [List.map_append]
    exact hcut.step hn hlt
  · dsimp only
    omega

/-- Rows of at least one widget can always be made. -/
theorem exists_wrapWidgets (hn : 0 < n) (widgets : List Widget) :
    ∃ fuel rows, wrapWidgets fuel widgets n = some (.ok rows) ∧
      Chunks n (rows.map Row.children) widgets := by
  have hinit : Wrapped n widgets ⟨0, []⟩ := ⟨0, rfl, Cut.zero⟩
  have hfuel : ((widgets.length : Int) - 0).toNat < widgets.length + 1 := by omega
  obtain ⟨r, hrun, hpost⟩ := While.run_of_variant
    (fun s : Wrapping Widget => ((widgets.length : Int) - s.i).toNat)
    (fun _ hs hguard => wrapped_wrapRow hn hs hguard) hinit hfuel
  cases r with
  | error e => cases hpost
  | ok s =>
    obtain ⟨⟨i, hi, hcut⟩, hguard⟩ := hpost
    have hend : widgets.length ≤ i := by
      have hnot := of_decide_eq_false hguard
      omega
    refine ⟨widgets.length + 1, s.wrappedList, ?_, hcut.done hend⟩
    rw [wrapWidgets, hrun]
    rfl

theorem wrapWidgets_unique {rowSize : Int} {fuel fuel' : Nat}
    {r r' : Except Dart.RangeError (List (Row Widget))}
    (h : wrapWidgets fuel widgets rowSize = some r)
    (h' : wrapWidgets fuel' widgets rowSize = some r') : r = r' := by
  obtain ⟨s, hs, rfl⟩ := Option.map_eq_some_iff.mp h
  obtain ⟨s', hs', rfl⟩ := Option.map_eq_some_iff.mp h'
  rw [While.run_unique hs hs']

/-- Rows of no widgets are added for ever. -/
theorem wrapWidgets_zero (hne : widgets ≠ []) (fuel : Nat) : wrapWidgets fuel widgets 0 = none := by
  have hlength : 0 < widgets.length := List.length_pos_of_ne_nil hne
  have hrun : While.run (hasMore widgets) (wrapRow widgets 0) fuel ⟨0, []⟩ = none := by
    refine While.run_eq_none (fun s => s.i = 0) (fun s hs => ?_) (fun s hs => ?_) rfl
    · rw [hasMore, hs]
      exact decide_eq_true (by omega)
    · obtain ⟨i, wrappedList⟩ := s
      subst hs
      exact ⟨_, wrapRow_eq_ok (n := 0) (i := 0) hlength, rfl⟩
  rw [wrapWidgets, hrun]
  rfl

/-- The end of the first row is before its start. -/
theorem wrapWidgets_neg {rowSize : Int} (hneg : rowSize < 0) (hne : widgets ≠ []) :
    wrapWidgets 1 widgets rowSize = some (.error ⟨rowSize, 0, widgets.length, "end"⟩) := by
  have hlength : 0 < widgets.length := List.length_pos_of_ne_nil hne
  have hstop : ¬ (0 : Int) + rowSize > widgets.length := by omega
  have hrange : Dart.sublist widgets 0 (some rowSize) =
      .error ⟨rowSize, 0, widgets.length, "end"⟩ :=
    Dart.sublist_eq_error 0 (Nat.zero_le _) (.inl hneg)
  have hthrows : wrapRow widgets rowSize ⟨0, []⟩ =
      .error ⟨rowSize, 0, widgets.length, "end"⟩ := by
    simp only [wrapRow]
    rw [if_neg hstop, Int.zero_add, hrange]
    rfl
  have hmore : hasMore widgets ⟨0, []⟩ = true := decide_eq_true (Int.ofNat_lt.mpr hlength)
  rw [wrapWidgets, While.run, if_pos hmore, hthrows]
  rfl

/-- Wrapping ends well for every row size that is positive, and for no other one. -/
theorem wrapWidgets_returns_iff {rowSize : Int} :
    (∃ fuel rows, wrapWidgets fuel widgets rowSize = some (.ok rows)) ↔
      widgets = [] ∨ 1 ≤ rowSize := by
  constructor
  · rintro ⟨fuel, rows, hrows⟩
    by_contra hno
    rw [not_or, Int.not_le] at hno
    obtain ⟨hne, hless⟩ := hno
    have hle : rowSize ≤ 0 := Int.lt_add_one_iff.mp hless
    rcases Int.lt_or_eq_of_le hle with hneg | rfl
    · cases wrapWidgets_unique hrows (wrapWidgets_neg hneg hne)
    · rw [wrapWidgets_zero hne] at hrows
      cases hrows
  · rintro (rfl | hpos)
    · exact ⟨0, [], rfl⟩
    · obtain ⟨n, rfl⟩ := Int.eq_ofNat_of_zero_le (Int.le_trans Int.one_nonneg hpos)
      obtain ⟨fuel, rows, hrows, -⟩ := exists_wrapWidgets (n := n) (by omega) widgets
      exact ⟨fuel, rows, hrows⟩

/-- No index passes the row size or twice the number of widgets, so none overflows. -/
theorem index_le {rowSize : Int} (h : 0 ≤ rowSize) (fuel : Nat) :
    ∀ s ∈ While.heads (hasMore widgets) (wrapRow widgets rowSize) fuel ⟨0, []⟩,
      s.i ≤ max rowSize (2 * widgets.length) := by
  have hheads : ∀ s ∈ While.heads (hasMore widgets) (wrapRow widgets rowSize) fuel ⟨0, []⟩,
      (s.i = 0 ∨ rowSize ≤ s.i) ∧ s.i ≤ max rowSize (2 * widgets.length) := by
    refine While.forall_mem_heads (fun s s' hs hguard hbody => ?_) ⟨.inl rfl, by dsimp only; omega⟩
    have hless : s.i < widgets.length := of_decide_eq_true hguard
    have hnext := i_of_wrapRow hbody
    omega
  intro s hs
  exact (hheads s hs).2

end Rows

/-- The widgets are distributed over the rows in order, and all rows but the last one are
full. -/
structure RowsPartition (rowSize : Int) (widgets : List Widget) (rows : List (Row Widget)) :
    Prop where
  children : rows.flatMap Row.children = widgets
  full : ∀ row ∈ rows.dropLast, (row.children.length : Int) = rowSize
  last : ∀ row ∈ rows.getLast?,
    1 ≤ (row.children.length : Int) ∧ (row.children.length : Int) ≤ rowSize
  none_of_nil : widgets = [] → rows = []

theorem rowsPartition_of_chunks {n : Nat} {widgets : List Widget} {rows : List (Row Widget)}
    (h : Chunks n (rows.map Row.children) widgets) : RowsPartition n widgets rows := by
  refine ⟨?_, fun row hrow => ?_, fun row hrow => ?_, ?_⟩
  · rw [List.flatMap_def]
    exact h.flatten
  · have hmem : row.children ∈ (rows.map Row.children).dropLast := by
      rw [← List.map_dropLast]
      exact List.mem_map_of_mem hrow
    exact congrArg Nat.cast (h.full _ hmem)
  · have hlast := h.last row.children (by rw [List.getLast?_map, hrow]; rfl)
    omega
  · rintro rfl
    exact List.map_eq_nil_iff.mp h.eq_nil

/-- Wrapping ends, throws nothing and partitions the widgets. -/
theorem wrapWidgets_partition (widgets : List Widget) {rowSize : Int} (h : 1 ≤ rowSize) :
    ∃ fuel rows, wrapWidgets fuel widgets rowSize = some (.ok rows) ∧
      RowsPartition rowSize widgets rows := by
  obtain ⟨n, rfl⟩ := Int.eq_ofNat_of_zero_le (Int.le_trans Int.one_nonneg h)
  obtain ⟨fuel, rows, hrows, hchunks⟩ := exists_wrapWidgets (n := n) (by omega) widgets
  exact ⟨fuel, rows, hrows, rowsPartition_of_chunks hchunks⟩

/-- Five widgets in rows of two. -/
theorem wrapWidgets_five : (1 : Int) ≤ 2 ∧ ∃ fuel rows,
    wrapWidgets fuel ["a", "b", "c", "d", "e"] 2 = some (.ok rows) ∧
      RowsPartition 2 ["a", "b", "c", "d", "e"] rows :=
  ⟨by decide, wrapWidgets_partition _ (by decide)⟩

end MAppHelperFunctions

end AroundMuseo
