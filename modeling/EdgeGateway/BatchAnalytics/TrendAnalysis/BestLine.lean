import EdgeGateway.BatchAnalytics.TrendAnalysis

open LeastSquares (mean)

namespace gateway.trend_analysis

/-- What is returned of the line of least squares through some points. -/
def line_of (points : List (ℚ × ℚ)) : Regression where
  slope := LeastSquares.slope points
  intercept := LeastSquares.intercept points
  r_squared := if LeastSquares.sumYY points ≠ 0 then LeastSquares.rSquared points else 0
  trend_direction := trend_direction (LeastSquares.slope points) (LeastSquares.meanY points)

/-- The results that do not depend on where the time begins. -/
structure SameTrend (a b : Regression) : Prop where
  slope : a.slope = b.slope
  r_squared : a.r_squared = b.r_squared
  trend_direction : a.trend_direction = b.trend_direction

section Line

variable {points : List (ℚ × ℚ)}

theorem broadcast_map (f g : ℚ × ℚ → ℚ) (points : List (ℚ × ℚ)) :
    broadcast (points.map f) (points.map g) = .ok (points.map fun p => (f p, g p)) := by
  have hlength : (points.map f).length = (points.map g).length := by rw [List.length_map, List.length_map]
  unfold broadcast
  rw [if_pos hlength, List.zip_map']

theorem sum_xx_eq : sum_xx (points.map Prod.fst) = LeastSquares.sumXX points := by
  rw [sum_xx, x_centered, List.map_map, List.map_map, LeastSquares.sumXX]
  exact congrArg List.sum (List.map_congr_left fun p _ => (sq _).symm)

/-- With as many values as timestamps the arithmetic is that of the points. -/
theorem fit_eq : fit (points.map Prod.fst) (points.map Prod.snd) (LeastSquares.sumXY points) = .ok (line_of points) := by
  have hresiduals : broadcast (points.map Prod.snd)
      ((points.map Prod.fst).map fun v => LeastSquares.slope points * v + LeastSquares.intercept points) =
      .ok (points.map fun p => (p.2, LeastSquares.slope points * p.1 + LeastSquares.intercept points)) := by
    rw [List.map_map]
    exact broadcast_map Prod.snd _ points
  have hres : ((points.map fun p => (p.2, LeastSquares.slope points * p.1 + LeastSquares.intercept points)).map
      fun p => (p.1 - p.2) ^ 2).sum =
      LeastSquares.residual (LeastSquares.slope points) (LeastSquares.intercept points) points := by
    rw [List.map_map]
    rfl
  have htot : ((points.map Prod.snd).map fun v => (v - mean (points.map Prod.snd)) ^ 2).sum = LeastSquares.sumYY points := by
    rw [List.map_map]
    rfl
  unfold fit
  rw [sum_xx_eq]
  change (broadcast (points.map Prod.snd)
      ((points.map Prod.fst).map fun v => LeastSquares.slope points * v + LeastSquares.intercept points) >>= _) = _
  rw [hresiduals]
  change Except.ok _ = _
  rw [hres, htot]
  rfl

theorem two_le_length (hx : 0 < LeastSquares.sumXX points) : 2 ≤ points.length := by
  obtain _ | ⟨p, _ | ⟨q, rest⟩⟩ := points
  · exact absurd hx (lt_irrefl _)
  · simp [LeastSquares.sumXX, LeastSquares.meanX, mean] at hx
  · exact Nat.le_add_left 2 rest.length

theorem regression_eq (finish : Regression → Regression) (hx : 0 < LeastSquares.sumXX points) :
    regression finish (points.map Prod.fst) (points.map Prod.snd) = .ok (finish (line_of points)) := by
  have hlength := two_le_length hx
  have hproducts : broadcast (x_centered (points.map Prod.fst)) (points.map Prod.snd) =
      .ok (points.map fun p => (p.1 - LeastSquares.meanX points, p.2)) := by
    rw [x_centered, List.map_map]
    exact broadcast_map _ Prod.snd points
  have hxy : ((points.map fun p => (p.1 - LeastSquares.meanX points, p.2)).map fun p => p.1 * p.2).sum =
      LeastSquares.sumXY points := by
    rw [List.map_map]
    rfl
  unfold regression
  rw [if_neg (by rw [List.length_map]; omega), hproducts]
  change (if sum_xx (points.map Prod.fst) = 0 then _ else _) = _
  rw [sum_xx_eq, if_neg hx.ne']
  rw [hxy, fit_eq]
  rfl

theorem sameTrend_perm {points' : List (ℚ × ℚ)} (h : points.Perm points') :
    SameTrend (line_of points) (line_of points') where
  slope := LeastSquares.slope_perm h
  r_squared := by
    rw [line_of, line_of, LeastSquares.sumYY_perm h, LeastSquares.rSquared_perm h]
  trend_direction := by
    rw [line_of, line_of, LeastSquares.slope_perm h, LeastSquares.meanY_perm h]

theorem sameTrend_shift (h : points ≠ []) (c : ℚ) : SameTrend (line_of (LeastSquares.shift c points)) (line_of points) where
  slope := LeastSquares.slope_shift h
  r_squared := by
    rw [line_of, line_of, LeastSquares.sumYY_shift, LeastSquares.rSquared_shift h]
  trend_direction := by
    rw [line_of, line_of, LeastSquares.slope_shift h, LeastSquares.meanY_shift]

/-- Points at two times have a spread. -/
theorem sumXX_pos {s t : ℚ} (hs : s ∈ points.map Prod.fst) (ht : t ∈ points.map Prod.fst) (hne : s ≠ t) :
    0 < LeastSquares.sumXX points := by
  obtain ⟨p, hp, rfl⟩ := List.mem_map.mp hs
  obtain ⟨q, hq, rfl⟩ := List.mem_map.mp ht
  exact LeastSquares.sum_sq_sub_pos (f := Prod.fst) (LeastSquares.meanX points) hp hq hne

theorem sumYY_pos {v w : ℚ} (hv : v ∈ points.map Prod.snd) (hw : w ∈ points.map Prod.snd) (hne : v ≠ w) :
    0 < LeastSquares.sumYY points := by
  obtain ⟨p, hp, rfl⟩ := List.mem_map.mp hv
  obtain ⟨q, hq, rfl⟩ := List.mem_map.mp hw
  exact LeastSquares.sum_sq_sub_pos (f := Prod.snd) (LeastSquares.meanY points) hp hq hne

/-- The same points in another order. -/
theorem exists_line_of_perm (hx : 0 < LeastSquares.sumXX points) {timestamps values : List ℚ}
    (hlength : timestamps.length = values.length) (hperm : (timestamps.zip values).Perm points) :
    ∃ line, regression id timestamps values = .ok line ∧ SameTrend line (line_of points) := by
  rw [← LeastSquares.sumXX_perm hperm] at hx
  have heq := regression_eq id hx
  rw [List.map_fst_zip hlength.le, List.map_snd_zip hlength.ge] at heq
  exact ⟨_, heq, sameTrend_perm hperm⟩

/-- The same points some time later. -/
theorem exists_line_of_shift (hx : 0 < LeastSquares.sumXX points) (c : ℚ) :
    ∃ line, regression id ((points.map Prod.fst).map fun t => t + c) (points.map Prod.snd) = .ok line ∧
      SameTrend line (line_of points) := by
  have hpoints : points ≠ [] := by
    rintro rfl
    exact absurd hx (lt_irrefl _)
  rw [← LeastSquares.sumXX_shift hpoints] at hx
  have heq : regression id ((LeastSquares.shift c points).map Prod.fst) ((LeastSquares.shift c points).map Prod.snd) =
      .ok (line_of (LeastSquares.shift c points)) := regression_eq id hx
  rw [LeastSquares.shift, List.map_map, List.map_map] at heq
  rw [List.map_map]
  exact ⟨_, heq, sameTrend_shift hpoints c⟩

end Line

/-- Lists of one length with two distinct timestamps give the line of least squares. Its
`r_squared` needs no clamp, and the trend depends neither on the order of the points nor on
where the time begins. -/
theorem regression_least_squares {timestamps values : List ℚ} (hlength : timestamps.length = values.length)
    (hdistinct : ∃ s ∈ timestamps, ∃ t ∈ timestamps, s ≠ t) :
    ∃ line, regression id timestamps values = .ok line ∧ compute_linear_regression timestamps values = .ok line.rounded ∧
      (∀ a b, LeastSquares.residual line.slope line.intercept (timestamps.zip values) ≤
        LeastSquares.residual a b (timestamps.zip values)) ∧
      ((∃ v ∈ values, ∃ w ∈ values, v ≠ w) →
        0 ≤ line.r_squared ∧ line.r_squared ≤ 1 ∧ max 0 (min 1 line.r_squared) = line.r_squared) ∧
      (∀ timestamps' values' : List ℚ, timestamps'.length = values'.length →
        (timestamps'.zip values').Perm (timestamps.zip values) →
        ∃ line', regression id timestamps' values' = .ok line' ∧ SameTrend line' line) ∧
      ∀ c, ∃ line', regression id (timestamps.map fun t => t + c) values = .ok line' ∧ SameTrend line' line := by
  obtain ⟨s, hs, t, ht, hne⟩ := hdistinct
  obtain ⟨points, hpoints⟩ : ∃ points, points = timestamps.zip values := ⟨_, rfl⟩
  have htimestamps : timestamps = points.map Prod.fst := by rw [hpoints, List.map_fst_zip hlength.le]
  have hvalues : values = points.map Prod.snd := by rw [hpoints, List.map_snd_zip hlength.ge]
  rw [← hpoints]
  subst htimestamps hvalues
  have hx := sumXX_pos hs ht hne
  refine ⟨line_of points, regression_eq id hx, regression_eq _ hx, LeastSquares.residual_le hx, ?_, ?_, ?_⟩
  · rintro ⟨v, hv, w, hw, hvw⟩
    have hy := sumYY_pos hv hw hvw
    have hr : (line_of points).r_squared = LeastSquares.rSquared points := if_pos hy.ne'
    obtain ⟨hnonneg, hle⟩ := LeastSquares.rSquared_mem_Icc hx hy
    rw [hr]
    exact ⟨hnonneg, hle, by rw [min_eq_right hle, max_eq_right hnonneg]⟩
  · exact fun timestamps' values' hlength' hperm => exists_line_of_perm hx hlength' hperm
  · exact exists_line_of_shift hx

theorem regression_least_squares_rising :
    ∃ line, regression id [0, 3600, 7200] [1, 2, 4] = .ok line ∧ 0 ≤ line.r_squared ∧ line.r_squared ≤ 1 ∧
      ∀ a b, LeastSquares.residual line.slope line.intercept [(0, 1), (3600, 2), (7200, 4)] ≤
        LeastSquares.residual a b [(0, 1), (3600, 2), (7200, 4)] := by
  obtain ⟨line, hline, _, hbest, hclamp, _⟩ := @regression_least_squares [0, 3600, 7200] [1, 2, 4] rfl
    ⟨0, by decide, 3600, by decide, by decide⟩
  obtain ⟨hnonneg, hle, _⟩ := hclamp ⟨1, by decide, 2, by decide, by decide⟩
  exact ⟨line, hline, hnonneg, hle, hbest⟩

end gateway.trend_analysis
