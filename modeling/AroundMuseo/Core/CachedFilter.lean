import Mathlib.Data.Finset.Basic
import Mathlib.Tactic.Common

/-!
# A cached filter

A list is kept that shows the members of a source whose keys are selected. Neither the source
nor the selection tells it of a change, so that it may be stale at some keys until the filter
is applied again.
-/

namespace CachedFilter

variable {α ι : Type} [DecidableEq ι] (key : α → ι)

/-- At every key outside of `stale` the cache shows what the filter does. -/
def AgreesOutside (stale : List ι) (cache source : List α) (selected : Finset ι) : Prop :=
  cache.filter (key · ∉ stale) = source.filter fun a => key a ∈ selected ∧ key a ∉ stale

variable {key} {stale stale' : List ι} {cache source source' : List α}
    {selected selected' : Finset ι}

/-- One condition after the other. -/
theorem filter_selected (l : List α) (selected : Finset ι) (stale : List ι) :
    (l.filter fun a => key a ∈ selected ∧ key a ∉ stale) =
      (l.filter (key · ∈ selected)).filter (key · ∉ stale) := by
  rw [List.filter_filter]
  apply List.filter_congr
  intro a _
  rw [Bool.decide_and, Bool.and_comm]

/-- Where nothing is stale, the cache is the filter. -/
theorem agreesOutside_nil :
    AgreesOutside key [] cache source selected ↔ cache = source.filter (key · ∈ selected) := by
  simp [AgreesOutside]

/-- The filter is applied again. -/
theorem agreesOutside_filter (stale : List ι) (source : List α) (selected : Finset ι) :
    AgreesOutside key stale (source.filter (key · ∈ selected)) source selected :=
  (filter_selected source selected stale).symm

namespace AgreesOutside

/-- More keys may become stale, and at these the selection may change. -/
theorem select (h : AgreesOutside key stale cache source selected) (hstale : stale ⊆ stale')
    (hselected : ∀ i, i ∉ stale' → (i ∈ selected' ↔ i ∈ selected)) :
    AgreesOutside key stale' cache source selected' := by
  have houter : ∀ i, i ∉ stale' ↔ i ∉ stale' ∧ i ∉ stale := fun i =>
    ⟨fun hi => ⟨hi, fun hmem => hi (hstale hmem)⟩, And.left⟩
  unfold AgreesOutside at h ⊢
  calc cache.filter (key · ∉ stale')
      = (cache.filter (key · ∉ stale)).filter (key · ∉ stale') := by
        rw [List.filter_filter]
        refine List.filter_congr fun a _ => ?_
        rw [← Bool.decide_and, decide_eq_decide]
        exact houter (key a)
    _ = (source.filter fun a => key a ∈ selected ∧ key a ∉ stale).filter (key · ∉ stale') := by
        rw [h]
    _ = source.filter fun a => key a ∈ selected' ∧ key a ∉ stale' := by
        rw [List.filter_filter]
        refine List.filter_congr fun a _ => ?_
        rw [← Bool.decide_and, decide_eq_decide]
        have hselected := hselected (key a)
        have houter := houter (key a)
        tauto

/-- A key that neither list has need not be called stale. -/
theorem absent (h : AgreesOutside key stale cache source selected)
    (hcache : ∀ a ∈ cache, key a ∈ stale → key a ∈ stale')
    (hsource : ∀ a ∈ source, key a ∈ stale → key a ∈ stale') (hstale : stale' ⊆ stale) :
    AgreesOutside key stale' cache source selected := by
  unfold AgreesOutside at h ⊢
  have hleft : cache.filter (key · ∉ stale') = cache.filter (key · ∉ stale) := by
    refine List.filter_congr fun a ha => ?_
    rw [decide_eq_decide, not_iff_not]
    exact ⟨fun hmem => hstale hmem, hcache a ha⟩
  have hright : (source.filter fun a => key a ∈ selected ∧ key a ∉ stale') =
      source.filter fun a => key a ∈ selected ∧ key a ∉ stale := by
    refine List.filter_congr fun a ha => ?_
    rw [decide_eq_decide, and_congr_right_iff]
    intro _
    rw [not_iff_not]
    exact ⟨fun hmem => hstale hmem, hsource a ha⟩
  rw [hleft, h, hright]

/-- The source may change in what is not selected. -/
theorem replace (h : AgreesOutside key stale cache source selected)
    (hsource : source'.filter (key · ∈ selected) = source.filter (key · ∈ selected)) :
    AgreesOutside key stale cache source' selected := by
  unfold AgreesOutside at h ⊢
  rw [h, filter_selected, filter_selected, hsource]

end AgreesOutside

end CachedFilter
