import EdgeGateway.Library.PyFloat

/-! `round(x, ndigits)` on exact numbers. -/

namespace PyRound

/-- Round to a number of decimal digits, ties going to the even last digit. -/
def round (x : ℚ) (ndigits : ℕ) : ℚ := PyFloat.roundHalfEven (x * 10 ^ ndigits) / 10 ^ ndigits

/-- What rounds to more than an even number is beyond the tie. -/
theorem lt_roundHalfEven_iff {n : ℤ} (heven : n % 2 = 0) (x : ℚ) :
    n < PyFloat.roundHalfEven x ↔ (n : ℚ) + 1 / 2 < x := by
  have hfloor : (⌊x⌋ : ℚ) ≤ x := Int.floor_le x
  have hlt : x < ⌊x⌋ + 1 := Int.lt_floor_add_one x
  obtain hless | hmore := lt_or_ge n ⌊x⌋
  · -- The floor is above already, and nothing is rounded below it.
    have hcast : (n : ℚ) + 1 ≤ ⌊x⌋ := by exact_mod_cast hless
    have hbeyond : (n : ℚ) + 1 / 2 < x := by linarith
    refine iff_of_true ?_ hbeyond
    simp only [PyFloat.roundHalfEven]
    split_ifs <;> omega
  · obtain hbelow | rfl := lt_or_eq_of_le hmore
    · have hcast : (⌊x⌋ : ℚ) + 1 ≤ n := by exact_mod_cast hbelow
      refine iff_of_false ?_ (by linarith)
      simp only [PyFloat.roundHalfEven]
      split_ifs <;> omega
    · simp only [PyFloat.roundHalfEven]
      split_ifs with hdown hup
      · exact iff_of_false (lt_irrefl _) (by linarith)
      · exact iff_of_true (by omega) (by linarith)
      · exact iff_of_false (lt_irrefl _) (by linarith)

/-- The same of a number of decimal digits. -/
theorem lt_round_iff {n : ℤ} (heven : n % 2 = 0) (x : ℚ) (ndigits : ℕ) :
    (n : ℚ) / 10 ^ ndigits < round x ndigits ↔ (n : ℚ) + 1 / 2 < x * 10 ^ ndigits := by
  have hpos : (0 : ℚ) < 10 ^ ndigits := by positivity
  rw [round, div_lt_div_iff_of_pos_right hpos, Int.cast_lt]
  exact lt_roundHalfEven_iff heven _

theorem le_roundHalfEven {n : ℤ} {x : ℚ} (h : (n : ℚ) ≤ x) : n ≤ PyFloat.roundHalfEven x := by
  have hfloor : n ≤ ⌊x⌋ := Int.le_floor.mpr h
  simp only [PyFloat.roundHalfEven]
  split_ifs <;> omega

theorem roundHalfEven_le {n : ℤ} {x : ℚ} (h : x ≤ n) : PyFloat.roundHalfEven x ≤ n := by
  have hfloor : ⌊x⌋ ≤ n := Int.floor_le_iff.mpr (h.trans_lt (lt_add_one _))
  obtain hless | heq := lt_or_eq_of_le hfloor
  · simp only [PyFloat.roundHalfEven]
    split_ifs <;> omega
  · -- Nothing is left over the floor, and so it is what is rounded to.
    have hle : (⌊x⌋ : ℚ) ≤ x := Int.floor_le x
    rw [heq] at hle
    have hx : x = n := le_antisymm h hle
    simp only [PyFloat.roundHalfEven]
    rw [if_pos]
    · exact hfloor
    · rw [heq, hx, sub_self]
      norm_num

/-- Rounding keeps the bounds that have no more than that many decimal digits. -/
theorem le_round {n : ℤ} {x : ℚ} {ndigits : ℕ} (h : (n : ℚ) / 10 ^ ndigits ≤ x) : (n : ℚ) / 10 ^ ndigits ≤ round x ndigits := by
  have hpos : (0 : ℚ) < 10 ^ ndigits := by positivity
  rw [round, div_le_div_iff_of_pos_right hpos, Int.cast_le]
  exact le_roundHalfEven ((div_le_iff₀ hpos).mp h)

theorem round_le {n : ℤ} {x : ℚ} {ndigits : ℕ} (h : x ≤ (n : ℚ) / 10 ^ ndigits) : round x ndigits ≤ (n : ℚ) / 10 ^ ndigits := by
  have hpos : (0 : ℚ) < 10 ^ ndigits := by positivity
  rw [round, div_le_div_iff_of_pos_right hpos, Int.cast_le]
  exact roundHalfEven_le ((le_div_iff₀ hpos).mp h)

theorem roundHalfEven_mono {x y : ℚ} (h : x ≤ y) : PyFloat.roundHalfEven x ≤ PyFloat.roundHalfEven y := by
  obtain hless | heq := lt_or_eq_of_le (Int.floor_le_floor h)
  · -- There is an integer between the two.
    have hx : x ≤ (⌊y⌋ : ℤ) := by
      have hlt : x < ⌊x⌋ + 1 := Int.lt_floor_add_one x
      have hcast : (⌊x⌋ : ℚ) + 1 ≤ ⌊y⌋ := by exact_mod_cast hless
      linarith
    exact (roundHalfEven_le hx).trans (le_roundHalfEven (Int.floor_le y))
  · simp only [PyFloat.roundHalfEven, heq]
    split_ifs <;> first | omega | linarith

theorem roundHalfEven_add_even {n : ℤ} (heven : n % 2 = 0) (x : ℚ) :
    PyFloat.roundHalfEven (x + n) = PyFloat.roundHalfEven x + n := by
  have hparity : (⌊x⌋ + n) % 2 = ⌊x⌋ % 2 := by omega
  have hfract : x + n - ((⌊x⌋ + n : ℤ) : ℚ) = x - ⌊x⌋ := by
    push_cast
    ring
  simp only [PyFloat.roundHalfEven, Int.floor_add_intCast, hparity]
  rw [hfract]
  split_ifs <;> omega

theorem round_mono {x y : ℚ} (h : x ≤ y) (ndigits : ℕ) : round x ndigits ≤ round y ndigits := by
  have hpos : (0 : ℚ) < 10 ^ ndigits := by positivity
  rw [round, round, div_le_div_iff_of_pos_right hpos, Int.cast_le]
  exact roundHalfEven_mono ((mul_le_mul_iff_left₀ hpos).mpr h)

/-- A shift by an even number of the last digit's units is kept. -/
theorem round_add_even {n : ℤ} (heven : n % 2 = 0) (x : ℚ) (ndigits : ℕ) :
    round (x + n / 10 ^ ndigits) ndigits = round x ndigits + n / 10 ^ ndigits := by
  have hne : (10 : ℚ) ^ ndigits ≠ 0 := by positivity
  rw [round, round, add_mul, div_mul_cancel₀ _ hne, roundHalfEven_add_even heven, Int.cast_add, add_div]

/-- What is between 0 and 1 is so when it is rounded. -/
theorem round_mem_Icc {x : ℚ} (h : x ∈ Set.Icc 0 1) (ndigits : ℕ) : round x ndigits ∈ Set.Icc 0 1 := by
  have hpos : (10 : ℚ) ^ ndigits ≠ 0 := by positivity
  have hzero := @le_round 0 x ndigits (by simpa using h.1)
  have hone := @round_le (10 ^ ndigits) x ndigits (by push_cast; rw [div_self hpos]; exact h.2)
  push_cast at hzero hone
  rw [zero_div] at hzero
  rw [div_self hpos] at hone
  exact ⟨hzero, hone⟩

end PyRound
