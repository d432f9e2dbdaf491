import Mathlib.Algebra.Order.Group.Abs
import Mathlib.Algebra.Order.Ring.Abs
import Mathlib.Order.Interval.Set.Basic
import Mathlib.Tactic.Linarith

/-! The distance of a number to an interval. -/

namespace IntervalGap

variable {K : Type*} [Field K] [LinearOrder K]

def gap (lower upper x : K) : K := max 0 (max (lower - x) (x - upper))

variable {lower upper x y : K}

theorem gap_nonneg : 0 ≤ gap lower upper x := le_max_left _ _

variable [IsStrictOrderedRing K]

theorem gap_le_abs_sub (hy : y ∈ Set.Icc lower upper) : gap lower upper x ≤ |x - y| := by
  refine max_le (abs_nonneg _) (max_le ?_ ?_)
  · have hle : lower - x ≤ -(x - y) := by linarith [hy.1]
    exact hle.trans (neg_le_abs _)
  · have hle : x - upper ≤ x - y := by linarith [hy.2]
    exact hle.trans (le_abs_self _)

/-- No number of the interval is nearer, and one is as near. -/
theorem isLeast_gap (h : lower ≤ upper) : IsLeast {r | ∃ y ∈ Set.Icc lower upper, r = |x - y|} (gap lower upper x) := by
  constructor
  · obtain hbelow | habove := lt_or_ge x lower
    · refine ⟨lower, ⟨le_refl _, h⟩, ?_⟩
      have hupper : x - upper ≤ lower - x := by linarith
      rw [gap, max_eq_left hupper, max_eq_right (by linarith), abs_sub_comm, abs_of_pos (by linarith)]
    · obtain hinside | habove' := le_or_gt x upper
      · refine ⟨x, ⟨habove, hinside⟩, ?_⟩
        rw [gap, max_eq_left (max_le (by linarith) (by linarith)), sub_self, abs_zero]
      · refine ⟨upper, ⟨h, le_refl _⟩, ?_⟩
        rw [gap, max_eq_right (by linarith : lower - x ≤ x - upper), max_eq_right (by linarith),
          abs_of_pos (by linarith)]
  · intro r hr
    obtain ⟨y, hy, rfl⟩ := hr
    exact gap_le_abs_sub hy

theorem gap_sq_le (hy : y ∈ Set.Icc lower upper) : gap lower upper x ^ 2 ≤ (x - y) ^ 2 := by
  rw [← sq_abs (x - y)]
  exact pow_le_pow_left₀ gap_nonneg ((isLeast_gap (hy.1.trans hy.2)).2 ⟨y, hy, rfl⟩) 2

end IntervalGap
