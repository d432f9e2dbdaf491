import EdgeGateway.Library.LeastSquares

/-! The statistics of a sample, and what of them is enough to merge samples. -/

namespace SampleStatistics

open LeastSquares (mean)

variable {K : Type*} [Field K] [LinearOrder K]

/-- `COUNT`, `AVG`, `MIN`, `MAX` and the sample variance, with null where there are too few numbers. -/
structure Statistics (K : Type*) where
  count : ℕ
  avg : Option K
  min : Option K
  max : Option K
  var_samp : Option K

/-- The statistics of the numbers. -/
def statistics (l : List K) : Statistics K where
  count := l.length
  avg := if l = [] then none else some (mean l)
  min := l.min?
  max := l.max?
  var_samp := if l.length < 2 then none else some ((l.map fun x => (x - mean l) ^ 2).sum / (l.length - 1 : ℕ))

/-- What can be added up over samples. -/
structure Moments (K : Type*) where
  count : ℕ
  sum : K
  squares : K
  min : Option K
  max : Option K

namespace Moments

/-- The moments of a single number. -/
def of (x : K) : Moments K := { count := 1, sum := x, squares := x ^ 2, min := some x, max := some x }

/-- A number that may be missing. -/
def ofOption : Option K → Moments K
  | none => { count := 0, sum := 0, squares := 0, min := none, max := none }
  | some x => of x

instance : Zero (Moments K) where
  zero := { count := 0, sum := 0, squares := 0, min := none, max := none }

instance : Add (Moments K) where
  add a b :=
    { count := a.count + b.count
      sum := a.sum + b.sum
      squares := a.squares + b.squares
      min := Option.merge Min.min a.min b.min
      max := Option.merge Max.max a.max b.max }

omit [LinearOrder K] in
theorem zero_eq : (0 : Moments K) = { count := 0, sum := 0, squares := 0, min := none, max := none } := rfl

theorem add_eq (a b : Moments K) : a + b =
    { count := a.count + b.count
      sum := a.sum + b.sum
      squares := a.squares + b.squares
      min := Option.merge Min.min a.min b.min
      max := Option.merge Max.max a.max b.max } := rfl

instance : AddCommMonoid (Moments K) where
  add_assoc a b c := by
    simp only [add_eq, add_assoc, (Option.associative_merge (Min.min : K → K → K)).assoc,
      (Option.associative_merge (Max.max : K → K → K)).assoc]
  zero_add a := by simp [zero_eq, add_eq]
  add_zero a := by simp [zero_eq, add_eq]
  add_comm a b := by
    rw [add_eq, add_eq, Nat.add_comm, add_comm a.sum, add_comm a.squares,
      (Option.commutative_merge (Min.min : K → K → K)).comm, (Option.commutative_merge (Max.max : K → K → K)).comm]
  nsmul := nsmulRec

/-- What the moments add up to over the numbers. -/
theorem sum_of (l : List K) : (l.map of).sum =
    { count := l.length, sum := l.sum, squares := (l.map fun x => x ^ 2).sum, min := l.min?, max := l.max? } := by
  induction l with
  | nil => rfl
  | cons x rest ih =>
    have hmerge : ∀ (op : K → K → K) (o : Option K), Option.merge op (some x) o = some (o.elim x (op x)) := by
      intro op o
      cases o <;> rfl
    rw [List.map_cons, List.sum_cons, ih, add_eq, of, List.min?_cons, List.max?_cons, ← hmerge, ← hmerge, List.length_cons,
      Nat.add_comm rest.length]
    rfl

/-- The statistics of a sample with the moments. -/
def statistics (m : Moments K) : Statistics K where
  count := m.count
  avg := if m.count = 0 then none else some (m.sum / m.count)
  min := m.min
  max := m.max
  var_samp := if m.count < 2 then none else some ((m.squares - m.sum ^ 2 / m.count) / (m.count - 1 : ℕ))

end Moments

/-- The moments that a sample must have for its statistics. -/
def Statistics.moments (s : Statistics K) : Moments K where
  count := s.count
  sum := s.avg.getD 0 * s.count
  squares := s.var_samp.getD 0 * (s.count - 1 : ℕ) + (s.avg.getD 0 * s.count) ^ 2 / s.count
  min := s.min
  max := s.max

variable [CharZero K]

omit [LinearOrder K] in
/-- The squares around the mean, multiplied out. -/
theorem sum_square_sub_mean (l : List K) :
    (l.map fun x => (x - mean l) ^ 2).sum = (l.map fun x => x ^ 2).sum - l.sum ^ 2 / l.length := by
  obtain rfl | hne := eq_or_ne l []
  · simp
  have hlength : ((l.length : ℕ) : K) ≠ 0 := Nat.cast_ne_zero.mpr fun hzero => hne (List.eq_nil_of_length_eq_zero hzero)
  have hsquare := LeastSquares.sum_map_square (fun _ => 0) (fun x => x) 0 (-mean l) l
  simp only [zero_mul, mul_zero, sub_zero, List.map_id'] at hsquare
  simp only [sub_eq_add_neg]
  rw [hsquare, mean]
  field_simp
  ring

/-- The statistics of numbers are those of their moments. -/
theorem statistics_sum_of (l : List K) : (l.map Moments.of).sum.statistics = statistics l := by
  rw [Moments.sum_of, Moments.statistics, statistics, ← sum_square_sub_mean]
  simp only [List.length_eq_zero_iff, mean]

/-- The statistics of numbers tell their moments. -/
theorem moments_statistics (l : List K) : (statistics l).moments = (l.map Moments.of).sum := by
  have hsum : (statistics l).avg.getD 0 * l.length = l.sum := by
    obtain rfl | hne := eq_or_ne l []
    · simp [statistics]
    · rw [statistics, if_neg hne, Option.getD_some, mul_comm]
      exact LeastSquares.length_mul_mean hne
  have hsquares : (statistics l).var_samp.getD 0 * (l.length - 1 : ℕ) + l.sum ^ 2 / l.length =
      (l.map fun x => x ^ 2).sum := by
    by_cases hshort : l.length < 2
    · cases l with
      | nil => simp [statistics]
      | cons x rest =>
        cases rest with
        | nil => simp [statistics]
        | cons y rest =>
          simp only [List.length_cons] at hshort
          omega
    · have hcount : ((l.length - 1 : ℕ) : K) ≠ 0 := Nat.cast_ne_zero.mpr (by omega)
      rw [statistics, if_neg hshort, Option.getD_some, div_mul_cancel₀ _ hcount, sum_square_sub_mean, sub_add_cancel]
  rw [Moments.sum_of, Statistics.moments]
  change Moments.mk l.length ((statistics l).avg.getD 0 * l.length)
    ((statistics l).var_samp.getD 0 * (l.length - 1 : ℕ) + ((statistics l).avg.getD 0 * l.length) ^ 2 / l.length)
    l.min? l.max? = _
  rw [hsum, hsquares]

end SampleStatistics
