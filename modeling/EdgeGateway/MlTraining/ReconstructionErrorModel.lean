import EdgeGateway.Library.IntervalGap
import Mathlib.Algebra.BigOperators.Group.Finset.Basic
import Mathlib.Algebra.Order.BigOperators.Group.Finset
import Mathlib.Algebra.Order.Field.Rat

open IntervalGap (gap gap_sq_le)

namespace gateway.train_edge_autoencoder

/-- `torch.clamp`. -/
def clamp (x lower upper : ℚ) : ℚ := min (max x lower) upper

/-- `torch.mean(_, dim=1)`, for one sample. -/
def mean {d : ℕ} (values : Fin d → ℚ) : ℚ := (∑ i, values i) / d

/-- Wraps the autoencoder so the exported graph returns MSE per sample. -/
structure ReconstructionErrorModel (d : ℕ) where
  autoencoder : (Fin d → ℚ) → Fin d → ℚ
  lower : Fin d → ℚ
  upper : Fin d → ℚ

namespace ReconstructionErrorModel

variable {d : ℕ} (model : ReconstructionErrorModel d)

/-- The error of one sample. -/
def error (x : Fin d → ℚ) : ℚ :=
  let reconstruction := fun i => clamp (model.autoencoder x i) (model.lower i) (model.upper i)
  mean fun i => (x i - reconstruction i) ^ 2

def forward (x : List (Fin d → ℚ)) : List ℚ := x.map model.error

/-- The summed squared distance of a sample to the bounds. -/
def excess (x : Fin d → ℚ) : ℚ := ∑ i, gap (model.lower i) (model.upper i) (x i) ^ 2

variable {model} {x : Fin d → ℚ}

theorem error_nonneg : 0 ≤ model.error x := by
  unfold error mean
  refine div_nonneg (Finset.sum_nonneg fun i _ => sq_nonneg _) ?_
  exact Nat.cast_nonneg d

/-- A clamped reconstruction is no nearer than the bounds, whatever it was. -/
theorem excess_le_error (hbounds : ∀ i, model.lower i ≤ model.upper i) : 1 / d * model.excess x ≤ model.error x := by
  have hsum : model.excess x ≤
      ∑ i, (x i - clamp (model.autoencoder x i) (model.lower i) (model.upper i)) ^ 2 := by
    refine Finset.sum_le_sum fun i _ => ?_
    have hlower : model.lower i ≤ clamp (model.autoencoder x i) (model.lower i) (model.upper i) :=
      le_min (le_max_right _ _) (hbounds i)
    exact gap_sq_le ⟨hlower, min_le_right _ _⟩
  unfold error mean
  rw [one_div, inv_mul_eq_div]
  exact div_le_div_of_nonneg_right hsum (Nat.cast_nonneg d)

end ReconstructionErrorModel

end gateway.train_edge_autoencoder
