import Mathlib.Algebra.Order.BigOperators.Group.List
import Mathlib.Algebra.Order.Group.Defs

/-!
# Sums of maxima

Two amounts for every element of a list, of which the larger counts. Whether the larger is taken of
each pair or of the two sums makes no difference exactly when it is the same one of the two
everywhere.
-/

namespace Cestos.Core

variable {ι M : Type} [AddCommGroup M] [LinearOrder M] [IsOrderedAddMonoid M] (l : List ι)
  (f g : ι → M)

theorem max_sum_le_sum_max :
    max (l.map f).sum (l.map g).sum ≤ (l.map fun i => max (f i) (g i)).sum :=
  max_le (List.sum_le_sum fun _ _ => le_max_left _ _) (List.sum_le_sum fun _ _ => le_max_right _ _)

theorem sum_max_eq_max_sum_iff :
    (l.map fun i => max (f i) (g i)).sum = max (l.map f).sum (l.map g).sum ↔
      (∀ i ∈ l, g i ≤ f i) ∨ ∀ i ∈ l, f i ≤ g i := by
  constructor
  · intro heq
    by_contra hnone
    obtain ⟨⟨i, hi, hfi⟩, j, hj, hgj⟩ : (∃ i ∈ l, f i < g i) ∧ ∃ j ∈ l, g j < f j := by
      simpa only [not_or, not_forall, not_le, exists_prop] using hnone
    have hleft : (l.map f).sum < (l.map fun i => max (f i) (g i)).sum :=
      List.sum_lt_sum _ _ (fun _ _ => le_max_left _ _) ⟨i, hi, hfi.trans_le (le_max_right _ _)⟩
    have hright : (l.map g).sum < (l.map fun i => max (f i) (g i)).sum :=
      List.sum_lt_sum _ _ (fun _ _ => le_max_right _ _) ⟨j, hj, hgj.trans_le (le_max_left _ _)⟩
    exact (max_lt hleft hright).ne' heq
  · rintro (hle | hle)
    · refine le_antisymm ?_ (max_sum_le_sum_max l f g)
      exact (List.sum_le_sum fun i hi => max_le le_rfl (hle i hi)).trans (le_max_left _ _)
    · refine le_antisymm ?_ (max_sum_le_sum_max l f g)
      exact (List.sum_le_sum fun i hi => max_le (hle i hi) le_rfl).trans (le_max_right _ _)

end Cestos.Core
