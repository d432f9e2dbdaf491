import Mathlib.Algebra.BigOperators.Group.List.Basic
import Mathlib.Algebra.Order.BigOperators.Group.List
import Mathlib.Algebra.Order.Field.Basic
import Mathlib.Tactic.FieldSimp
import Mathlib.Tactic.Linarith
import Mathlib.Tactic.Positivity
import Mathlib.Tactic.Ring

/-! The line of least squares through a list of points over an ordered field. -/

namespace LeastSquares

variable {K : Type*} [Field K]

def mean (l : List K) : K := l.sum / l.length

/-- The sum of the squared residuals of the line `a * x + b`. -/
def residual (a b : K) (points : List (K × K)) : K := (points.map fun p => (p.2 - (a * p.1 + b)) ^ 2).sum

def meanX (points : List (K × K)) : K := mean (points.map Prod.fst)

def meanY (points : List (K × K)) : K := mean (points.map Prod.snd)

def sumXX (points : List (K × K)) : K := (points.map fun p => (p.1 - meanX points) ^ 2).sum

/-- The products of the centred first coordinates with the second ones as they are. -/
def sumXY (points : List (K × K)) : K := (points.map fun p => (p.1 - meanX points) * p.2).sum

def sumYY (points : List (K × K)) : K := (points.map fun p => (p.2 - meanY points) ^ 2).sum

def slope (points : List (K × K)) : K := sumXY points / sumXX points

def intercept (points : List (K × K)) : K := meanY points - slope points * meanX points

/-- The share of the total variance that the line explains. -/
def rSquared (points : List (K × K)) : K := 1 - residual (slope points) (intercept points) points / sumYY points

theorem residual_mean (points : List (K × K)) : residual 0 (meanY points) points = sumYY points := by
  simp only [residual, sumYY, zero_mul, zero_add]

section Sums

variable {α : Type*}

/-- A sum of squares, multiplied out. -/
theorem sum_map_square (u v : α → K) (a e : K) (l : List α) :
    (l.map fun x => (v x - a * u x + e) ^ 2).sum =
      (l.map fun x => v x ^ 2).sum - 2 * a * (l.map fun x => u x * v x).sum + a ^ 2 * (l.map fun x => u x ^ 2).sum +
        2 * e * (l.map v).sum - 2 * a * e * (l.map u).sum + l.length * e ^ 2 := by
  induction l with
  | nil => simp
  | cons x rest ih =>
    simp only [List.map_cons, List.sum_cons, ih, List.length_cons]
    push_cast
    ring

/-- What is multiplied with centred factors may be moved. -/
theorem sum_map_mul_sub (u v : α → K) (c : K) (l : List α) :
    (l.map fun x => u x * (v x - c)).sum = (l.map fun x => u x * v x).sum - c * (l.map u).sum := by
  induction l with
  | nil => simp
  | cons x rest ih =>
    simp only [List.map_cons, List.sum_cons, ih]
    ring

theorem sum_map_sub (f : α → K) (c : K) (l : List α) : (l.map fun x => f x - c).sum = (l.map f).sum - l.length * c := by
  induction l with
  | nil => simp
  | cons x rest ih =>
    simp only [List.map_cons, List.sum_cons, ih, List.length_cons]
    push_cast
    ring

variable [CharZero K]

theorem length_mul_mean {l : List K} (h : l ≠ []) : l.length * mean l = l.sum := by
  have hlength : ((l.length : ℕ) : K) ≠ 0 := Nat.cast_ne_zero.mpr fun hzero => h (List.eq_nil_of_length_eq_zero hzero)
  rw [mean, mul_div_cancel₀ _ hlength]

/-- What is centred adds up to nothing. -/
theorem sum_map_sub_mean (f : α → K) {l : List α} (h : l ≠ []) : (l.map fun x => f x - mean (l.map f)).sum = 0 := by
  have hmap : l.map f ≠ [] := fun hnil => h (List.map_eq_nil_iff.mp hnil)
  have hmean := length_mul_mean hmap
  rw [List.length_map] at hmean
  rw [sum_map_sub, hmean, sub_self]

end Sums

section Residual

variable [CharZero K] {points : List (K × K)}

/-- The residual of any line in terms of the centred sums. -/
theorem residual_eq (h : points ≠ []) (a b : K) :
    residual a b points = sumYY points - 2 * a * sumXY points + a ^ 2 * sumXX points +
      points.length * (meanY points - a * meanX points - b) ^ 2 := by
  have hcentred : ∀ p : K × K, p.2 - (a * p.1 + b) =
      (p.2 - meanY points) - a * (p.1 - meanX points) + (meanY points - a * meanX points - b) := fun p => by ring
  have hx : (points.map fun p => p.1 - meanX points).sum = 0 := sum_map_sub_mean Prod.fst h
  have hy : (points.map fun p => p.2 - meanY points).sum = 0 := sum_map_sub_mean Prod.snd h
  have hxy : (points.map fun p => (p.1 - meanX points) * (p.2 - meanY points)).sum = sumXY points := by
    rw [sum_map_mul_sub, hx, mul_zero, sub_zero, sumXY]
  simp only [residual, hcentred]
  rw [sum_map_square (fun p : K × K => p.1 - meanX points) (fun p => p.2 - meanY points), hxy, hx, hy, sumXX, sumYY]
  ring

/-- The same with the line of least squares in the middle. -/
theorem residual_eq_add_squares (h : points ≠ []) (hx : sumXX points ≠ 0) (a b : K) :
    residual a b points = residual (slope points) (intercept points) points + sumXX points * (a - slope points) ^ 2 +
      points.length * (meanY points - a * meanX points - b) ^ 2 := by
  have hslope : slope points * sumXX points = sumXY points := div_mul_cancel₀ _ hx
  rw [residual_eq h, residual_eq h, intercept, ← hslope]
  ring

end Residual

section Order

variable [LinearOrder K] [IsStrictOrderedRing K] {α : Type*} {points : List (K × K)}

theorem sum_map_sq_nonneg (f : α → K) (l : List α) : 0 ≤ (l.map fun x => f x ^ 2).sum := by
  refine List.sum_nonneg fun y hy => ?_
  obtain ⟨x, _, rfl⟩ := List.mem_map.mp hy
  exact sq_nonneg (f x)

theorem eq_zero_of_sum_map_sq {f : α → K} {l : List α} (h : (l.map fun x => f x ^ 2).sum = 0) : ∀ x ∈ l, f x = 0 := by
  induction l with
  | nil => exact fun x hx => absurd hx List.not_mem_nil
  | cons x rest ih =>
    rw [List.map_cons, List.sum_cons] at h
    have hhead := sq_nonneg (f x)
    have htail := sum_map_sq_nonneg f rest
    refine List.forall_mem_cons.mpr ⟨?_, ih (by linarith)⟩
    exact pow_eq_zero_iff two_ne_zero |>.mp (by linarith)

/-- A spread that is zero is one of equal values. -/
theorem sum_sq_sub_pos {f : α → K} {l : List α} (c : K) {x y : α} (hx : x ∈ l) (hy : y ∈ l) (hne : f x ≠ f y) :
    0 < (l.map fun z => (f z - c) ^ 2).sum := by
  refine lt_of_le_of_ne (sum_map_sq_nonneg (fun z => f z - c) l) fun hzero => hne ?_
  have hall := eq_zero_of_sum_map_sq hzero.symm
  exact (sub_eq_zero.mp (hall x hx)).trans (sub_eq_zero.mp (hall y hy)).symm

theorem residual_nonneg (a b : K) (points : List (K × K)) : 0 ≤ residual a b points := sum_map_sq_nonneg _ points

/-- No line has a smaller sum of squared residuals. -/
theorem residual_le (hx : 0 < sumXX points) (a b : K) :
    residual (slope points) (intercept points) points ≤ residual a b points := by
  have hne : points ≠ [] := by
    rintro rfl
    exact absurd hx (lt_irrefl _)
  have hslope : 0 ≤ sumXX points * (a - slope points) ^ 2 := by positivity
  have hintercept : (0 : K) ≤ points.length * (meanY points - a * meanX points - b) ^ 2 := by positivity
  rw [residual_eq_add_squares hne hx.ne' a b]
  linarith

/-- The horizontal line through the mean explains nothing, and no line more than all. -/
theorem rSquared_mem_Icc (hx : 0 < sumXX points) (hy : 0 < sumYY points) : 0 ≤ rSquared points ∧ rSquared points ≤ 1 := by
  have hle := residual_le hx 0 (meanY points)
  rw [residual_mean] at hle
  have hnonneg := residual_nonneg (slope points) (intercept points) points
  constructor
  · exact sub_nonneg.mpr ((div_le_one hy).mpr hle)
  · exact sub_le_self 1 (div_nonneg hnonneg hy.le)

end Order

section Invariance

variable {points points' : List (K × K)}

theorem meanX_perm (h : points.Perm points') : meanX points = meanX points' := by
  rw [meanX, meanX, mean, mean, (h.map Prod.fst).sum_eq, (h.map Prod.fst).length_eq]

theorem meanY_perm (h : points.Perm points') : meanY points = meanY points' := by
  rw [meanY, meanY, mean, mean, (h.map Prod.snd).sum_eq, (h.map Prod.snd).length_eq]

theorem sumXX_perm (h : points.Perm points') : sumXX points = sumXX points' := by
  rw [sumXX, sumXX, meanX_perm h, (h.map _).sum_eq]

theorem slope_perm (h : points.Perm points') : slope points = slope points' := by
  rw [slope, slope, sumXY, sumXY, sumXX_perm h, meanX_perm h, (h.map _).sum_eq]

theorem sumYY_perm (h : points.Perm points') : sumYY points = sumYY points' := by
  rw [sumYY, sumYY, meanY_perm h, (h.map _).sum_eq]

theorem rSquared_perm (h : points.Perm points') : rSquared points = rSquared points' := by
  rw [rSquared, rSquared, intercept, intercept, residual, residual, slope_perm h, meanX_perm h, meanY_perm h, sumYY_perm h,
    (h.map _).sum_eq]

/-- Every point moved along the first axis. -/
def shift (c : K) (points : List (K × K)) : List (K × K) := points.map fun p => (p.1 + c, p.2)

variable [CharZero K] {c : K}

theorem meanX_shift (h : points ≠ []) : meanX (shift c points) = meanX points + c := by
  have hlength : ((points.length : ℕ) : K) ≠ 0 :=
    Nat.cast_ne_zero.mpr fun hzero => h (List.eq_nil_of_length_eq_zero hzero)
  have hsum : ((shift c points).map Prod.fst).sum = (points.map Prod.fst).sum + points.length * c := by
    have hsub := sum_map_sub Prod.fst (-c) points
    simp only [sub_neg_eq_add, mul_neg] at hsub
    rw [shift, List.map_map]
    exact hsub
  rw [meanX, meanX, mean, mean, hsum, List.length_map, List.length_map, shift, List.length_map]
  field_simp

omit [CharZero K] in
theorem meanY_shift : meanY (shift c points) = meanY points := by
  rw [meanY, meanY, shift, List.map_map]
  rfl

theorem sumXX_shift (h : points ≠ []) : sumXX (shift c points) = sumXX points := by
  rw [sumXX, sumXX, meanX_shift h, shift, List.map_map]
  refine congrArg List.sum (List.map_congr_left fun p _ => ?_)
  simp only [Function.comp_apply, add_sub_add_right_eq_sub]

theorem slope_shift (h : points ≠ []) : slope (shift c points) = slope points := by
  rw [slope, slope, sumXX_shift h, sumXY, sumXY, meanX_shift h, shift, List.map_map]
  refine congrArg (· / sumXX points) (congrArg List.sum (List.map_congr_left fun p _ => ?_))
  simp only [Function.comp_apply, add_sub_add_right_eq_sub]

omit [CharZero K] in
theorem sumYY_shift : sumYY (shift c points) = sumYY points := by
  rw [sumYY, sumYY, meanY_shift, shift, List.map_map]
  rfl

theorem rSquared_shift (h : points ≠ []) : rSquared (shift c points) = rSquared points := by
  have hresidual : residual (slope (shift c points)) (intercept (shift c points)) (shift c points) =
      residual (slope points) (intercept points) points := by
    rw [intercept, slope_shift h, meanX_shift h, meanY_shift, residual, residual, shift, List.map_map]
    refine congrArg List.sum (List.map_congr_left fun p _ => ?_)
    simp only [Function.comp_apply, intercept]
    ring
  rw [rSquared, rSquared, hresidual, sumYY_shift]

end Invariance

end LeastSquares
