import Mathlib.Algebra.Order.Field.Basic
import Mathlib.Algebra.Order.Floor.Semifield
import Mathlib.Data.List.Sort
import Mathlib.Data.Rat.Cast.Order
import Mathlib.Data.Rat.Floor
import Mathlib.Order.Interval.Set.Basic
import Mathlib.Tactic.FieldSimp
import Mathlib.Tactic.Linarith
import Mathlib.Tactic.Ring

/-! Elements of a sorted list by their rank, and quantiles by linear interpolation between them, as numpy
computes them. -/

namespace OrderStatistics

variable {α : Type*} [LinearOrder α]

theorem le_of_pairwise {sorted : List α} (hsorted : sorted.Pairwise (· ≤ ·)) {i j : ℕ} (hij : i ≤ j)
    (hj : j < sorted.length) : sorted[i] ≤ sorted[j] := by
  obtain rfl | hlt := hij.eq_or_lt
  · exact le_refl _
  · exact List.pairwise_iff_getElem.mp hsorted i j (by omega) hj hlt

/-- All elements up to one that is too small are too small. -/
theorem succ_le_countP_lt {sorted : List α} (hsorted : sorted.Pairwise (· ≤ ·)) {i : ℕ} (hlength : i < sorted.length)
    {lo : α} (hlo : sorted[i] < lo) : i + 1 ≤ sorted.countP (· < lo) := by
  have hall : ∀ x ∈ sorted.take (i + 1), decide (x < lo) = true := by
    intro x hx
    obtain ⟨j, hj, rfl⟩ := List.mem_iff_getElem.mp hx
    rw [List.length_take] at hj
    rw [List.getElem_take]
    have hle : sorted[j] ≤ sorted[i] := le_of_pairwise hsorted (by omega) hlength
    exact decide_eq_true (hle.trans_lt hlo)
  have hcount : (sorted.take (i + 1)).countP (· < lo) = i + 1 := by
    rw [List.countP_eq_length.mpr hall, List.length_take]
    omega
  rw [← hcount]
  exact (List.take_sublist (i + 1) sorted).countP_le

/-- All elements from one that is too large are too large. -/
theorem sub_le_countP_gt {sorted : List α} (hsorted : sorted.Pairwise (· ≤ ·)) {i : ℕ} (hlength : i < sorted.length)
    {hi : α} (hlarge : hi < sorted[i]) : sorted.length - i ≤ sorted.countP (hi < ·) := by
  have hall : ∀ x ∈ sorted.drop i, decide (hi < x) = true := by
    intro x hx
    obtain ⟨j, hj, rfl⟩ := List.mem_iff_getElem.mp hx
    rw [List.length_drop] at hj
    rw [List.getElem_drop]
    have hle : sorted[i] ≤ sorted[i + j] := le_of_pairwise hsorted (by omega) (by omega)
    exact decide_eq_true (hlarge.trans_le hle)
  have hcount : (sorted.drop i).countP (hi < ·) = sorted.length - i := by
    rw [List.countP_eq_length.mpr hall, List.length_drop]
  rw [← hcount]
  exact (List.drop_sublist i sorted).countP_le

/-- Fewer than half of the elements cannot move the middle ones out of the range of
the others. -/
theorem middle_mem_Icc {numbers : List α} {lo hi : α}
    (hminority : 2 * numbers.countP (fun x => x ∉ Set.Icc lo hi) < numbers.length) {i : ℕ}
    (hlower : (numbers.length - 1) / 2 ≤ i) (hupper : i ≤ numbers.length / 2)
    (hlength : i < (numbers.insertionSort (· ≤ ·)).length) :
    (numbers.insertionSort (· ≤ ·))[i] ∈ Set.Icc lo hi := by
  have hsorted := List.pairwise_insertionSort (· ≤ ·) numbers
  have hperm := List.perm_insertionSort (· ≤ ·) numbers
  rw [← hperm.countP_eq, ← hperm.length_eq] at hminority
  rw [← hperm.length_eq] at hlower hupper
  generalize numbers.insertionSort (· ≤ ·) = sorted at *
  constructor
  · by_contra hnot
    have hcount := succ_le_countP_lt hsorted hlength (not_le.mp hnot)
    have hout : sorted.countP (· < lo) ≤ sorted.countP fun x => x ∉ Set.Icc lo hi := by
      refine List.countP_mono_left fun x _ hx => ?_
      have hlt : x < lo := of_decide_eq_true hx
      exact decide_eq_true fun hmem => hlt.not_ge hmem.1
    omega
  · by_contra hnot
    have hcount := sub_le_countP_gt hsorted hlength (not_le.mp hnot)
    have hout : sorted.countP (hi < ·) ≤ sorted.countP fun x => x ∉ Set.Icc lo hi := by
      refine List.countP_mono_left fun x _ hx => ?_
      have hlt : hi < x := of_decide_eq_true hx
      exact decide_eq_true fun hmem => hlt.not_ge hmem.2
    omega

section Quantile

variable {K : Type*} [Field K] [LinearOrder K]

/-- `np.linspace`. -/
def linspace (start stop : ℚ) (num : ℕ) : List ℚ :=
  (List.range num).map fun i : ℕ => i * ((stop - start) / (num - 1)) + start

/-- From the nearer end. -/
def lerp (a b t : K) : K := if t < 1 / 2 then a + (b - a) * t else b - (b - a) * (1 - t)

/-- Where a quantile is in the sorted list. -/
def virtual_index (n : ℕ) (q : ℚ) : ℚ := (n - 1) * q

/-- `np.quantile` of one probability. -/
def quantile (l : List K) (q : ℚ) : Option K := do
  let sorted := l.insertionSort (· ≤ ·)
  let previous := ⌊virtual_index l.length q⌋₊
  let gamma := virtual_index l.length q - previous
  let a ← sorted[min previous (l.length - 1)]?
  let b ← sorted[min (previous + 1) (l.length - 1)]?
  return lerp a b gamma

section Lerp

variable {a b t : K} [IsStrictOrderedRing K]

omit [IsStrictOrderedRing K] in
theorem lerp_eq (a b t : K) : lerp a b t = a + (b - a) * t := by
  unfold lerp
  split
  · rfl
  · ring

theorem le_lerp (hab : a ≤ b) (ht : 0 ≤ t) : a ≤ lerp a b t := by
  rw [lerp_eq]
  have hstep : 0 ≤ (b - a) * t := mul_nonneg (sub_nonneg.mpr hab) ht
  linarith

theorem lerp_lt (hab : a < b) (ht : t < 1) : lerp a b t < b := by
  rw [lerp_eq]
  have hstep : (b - a) * t < (b - a) * 1 := mul_lt_mul_of_pos_left ht (sub_pos.mpr hab)
  linarith

end Lerp

variable [IsStrictOrderedRing K]

/-- An element is above the interpolated value when it is above the lower neighbour. -/
theorem lerp_lt_iff {sorted : List K} (hsorted : sorted.Pairwise (· ≤ ·)) {i : ℕ} {a b t e : K}
    (ha : sorted[i]? = some a) (hb : sorted[min (i + 1) (sorted.length - 1)]? = some b) (ht : 0 ≤ t) (ht' : t < 1)
    (he : e ∈ sorted) : lerp a b t < e ↔ a < e := by
  obtain ⟨hi, rfl⟩ := List.getElem?_eq_some_iff.mp ha
  obtain ⟨hnext, rfl⟩ := List.getElem?_eq_some_iff.mp hb
  have hab : sorted[i] ≤ sorted[min (i + 1) (sorted.length - 1)] := le_of_pairwise hsorted (by omega) hnext
  refine ⟨(le_lerp hab ht).trans_lt, fun hlt => ?_⟩
  obtain ⟨k, hk, rfl⟩ := List.mem_iff_getElem.mp he
  -- The element comes after the lower neighbour, and so not before the upper one.
  have hik : i < k := by
    by_contra hnot
    exact absurd (le_of_pairwise hsorted (not_lt.mp hnot) hi) (not_le.mpr hlt)
  have hupper : sorted[min (i + 1) (sorted.length - 1)] ≤ sorted[k] := le_of_pairwise hsorted (by omega) hk
  obtain hless | heq := lt_or_eq_of_le hab
  · exact (lerp_lt hless ht').trans_le hupper
  · rw [lerp_eq, ← heq, sub_self, zero_mul, add_zero]
    exact hlt

/-- A quantile separates the list where the element of its rank does. -/
theorem quantile_eq_some {l : List K} (hl : l ≠ []) {q : ℚ} (hq : 0 ≤ q) (hq' : q ≤ 1) :
    ∃ value a, quantile l q = some value ∧ (l.insertionSort (· ≤ ·))[⌊virtual_index l.length q⌋₊]? = some a ∧
      ∀ e ∈ l, value < e ↔ a < e := by
  have hpos : 0 < l.length := List.length_pos_iff.mpr hl
  have hone : (1 : ℚ) ≤ l.length := by exact_mod_cast hpos
  have hindex : 0 ≤ virtual_index l.length q := mul_nonneg (by linarith) hq
  have hrank : ⌊virtual_index l.length q⌋₊ ≤ l.length - 1 := by
    refine Nat.floor_le_of_le ?_
    rw [virtual_index, Nat.cast_sub hpos, Nat.cast_one]
    exact mul_le_of_le_one_right (by linarith) hq'
  have hlower := Nat.floor_le hindex
  have hupper := Nat.lt_floor_add_one (virtual_index l.length q)
  have hlength := List.length_insertionSort (r := fun x y : K => x ≤ y) l
  generalize hprevious : ⌊virtual_index l.length q⌋₊ = previous at hrank hlower hupper
  obtain ⟨a, ha⟩ : ∃ a, (l.insertionSort (· ≤ ·))[previous]? = some a := ⟨_, List.getElem?_eq_getElem (by omega)⟩
  obtain ⟨b, hb⟩ : ∃ b, (l.insertionSort (· ≤ ·))[min (previous + 1) (l.length - 1)]? = some b :=
    ⟨_, List.getElem?_eq_getElem (by omega)⟩
  refine ⟨lerp a b ((virtual_index l.length q - previous : ℚ) : K), a, ?_, ha, fun e he => ?_⟩
  · unfold quantile
    simp only [hprevious]
    rw [min_eq_left hrank, ha, hb]
    rfl
  · rw [← hlength] at hb
    refine lerp_lt_iff (List.pairwise_insertionSort (· ≤ ·) l) ha hb ?_ ?_ ((List.mem_insertionSort _).mpr he)
    · exact_mod_cast sub_nonneg.mpr hlower
    · have hlt : virtual_index l.length q - previous < 1 := by linarith
      exact_mod_cast hlt

end Quantile

end OrderStatistics
