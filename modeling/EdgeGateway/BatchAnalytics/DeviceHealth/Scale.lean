import Mathlib.Order.Interval.Set.Basic
import Mathlib.Tactic.FieldSimp
import Mathlib.Tactic.Linarith
import Mathlib.Tactic.NormNum
import EdgeGateway.BatchAnalytics.DeviceHealth

namespace gateway.device_health

/-- Scores from 0 to 100, rates from 0 to 1, and every device in one of the three classes. -/
structure OnScale (report : Report) : Prop where
  health_score : ∀ row ∈ report.rows, row.health_score ∈ Set.Icc 0 100
  anomaly_rate : ∀ row ∈ report.rows, row.anomaly_rate ∈ Set.Icc 0 1
  counts : report.summary.healthy_count + report.summary.degraded_count + report.summary.critical_count =
    report.summary.total_devices

section Round

theorem round_of_nonneg {x : ℚ} (hx : 0 ≤ x) (scale : ℕ) : round x scale = ⌊x * 10 ^ scale + 1 / 2⌋ / 10 ^ scale := if_pos hx

theorem round_nonneg {x : ℚ} (hx : 0 ≤ x) (scale : ℕ) : 0 ≤ round x scale := by
  have hfloor : 0 ≤ ⌊x * 10 ^ scale + 1 / 2⌋ := Int.floor_nonneg.mpr (by positivity)
  rw [round_of_nonneg hx]
  exact div_nonneg (Int.cast_nonneg hfloor) (by positivity)

theorem round_le_iff {x : ℚ} (hx : 0 ≤ x) (scale : ℕ) (n : ℤ) :
    round x scale ≤ n / 10 ^ scale ↔ x * 10 ^ scale + 1 / 2 < n + 1 := by
  have hpos : (0 : ℚ) < 10 ^ scale := by positivity
  rw [round_of_nonneg hx, div_le_div_iff_of_pos_right hpos, Int.cast_le, ← Int.lt_add_one_iff, Int.floor_lt, Int.cast_add,
    Int.cast_one]

end Round

theorem anomaly_rate_mem_Icc (anomaly_count total_readings : ℕ) : anomaly_rate anomaly_count total_readings ∈ Set.Icc 0 1 :=
  ⟨le_min (by positivity) zero_le_one, min_le_right _ _⟩

theorem round_rate_mem_Icc {rate : ℚ} (h : rate ∈ Set.Icc 0 1) : round rate 4 ∈ Set.Icc 0 1 := by
  refine ⟨round_nonneg h.1 4, ?_⟩
  have hle := (round_le_iff h.1 4 10000).mpr (by norm_num; linarith [h.2])
  norm_num at hle
  exact hle

/-- The rounded score is at most 100 as long as what is taken off is more than -0.05. -/
theorem round_health_score_mem_iff (rate hours : ℚ) :
    round (health_score rate hours) 1 ∈ Set.Icc 0 100 ↔ -0.05 < rate * 50 + hours := by
  have hnonneg : 0 ≤ health_score rate hours := le_max_left _ _
  have hunder : health_score rate hours < 100.05 ↔ -0.05 < rate * 50 + hours := by
    rw [health_score, max_lt_iff]
    constructor
    · rintro ⟨_, h⟩
      linarith
    · intro h
      exact ⟨by norm_num, by linarith⟩
  have hhundred : (100 : ℚ) = (1000 : ℤ) / 10 ^ 1 := by norm_num
  rw [Set.mem_Icc, and_iff_right (round_nonneg hnonneg 1), hhundred, round_le_iff hnonneg, ← hunder]
  constructor
  · intro h
    norm_num at h
    linarith
  · intro h
    norm_num
    linarith

/-- The cap of the penalty makes no difference below, and so the score is on its scale exactly
if the last reading is not too far ahead of the clock. -/
theorem score_mem_iff {rate : ℚ} (hrate : 0 ≤ rate) (now last_seen : ℤ) :
    round (health_score rate (hours_since_last now last_seen)) 1 ∈ Set.Icc 0 100 ↔
      ((unix_timestamp last_seen - unix_timestamp now : ℤ) : ℚ) < 180 + 180000 * rate := by
  rw [round_health_score_mem_iff, hours_since_last]
  have hahead : ((unix_timestamp last_seen - unix_timestamp now : ℤ) : ℚ) =
      -((unix_timestamp now - unix_timestamp last_seen : ℤ) : ℚ) := by
    push_cast
    ring
  rw [hahead]
  generalize ((unix_timestamp now - unix_timestamp last_seen : ℤ) : ℚ) = seconds
  obtain hle | hge := le_total (seconds / 3600) 50
  · rw [min_eq_left hle]
    constructor
    · intro h
      linarith
    · intro h
      linarith
  · rw [min_eq_right hge]
    exact iff_of_true (by linarith) (by linarith)

section Aggregate

theorem aggregate_spec {rows : List TelemetryRow} {stats : DeviceStats} (h : aggregate rows = some stats) :
    stats.total_readings = rows.length ∧ (∃ row ∈ rows, row.timestamp = stats.last_seen) ∧
      ∀ row ∈ rows, row.timestamp ≤ stats.last_seen := by
  obtain ⟨last_seen, hlast, h⟩ := Option.bind_eq_some_iff.mp h
  obtain ⟨first, _, h⟩ := Option.bind_eq_some_iff.mp h
  cases h
  obtain ⟨hmem, hmax⟩ := List.max?_eq_some_iff.mp hlast
  exact ⟨rfl, List.mem_map.mp hmem, fun row hrow => hmax _ (List.mem_map_of_mem hrow)⟩

theorem exists_aggregate {rows : List TelemetryRow} (h : rows ≠ []) : ∃ stats, aggregate rows = some stats := by
  cases rows with
  | nil => exact absurd rfl h
  | cons row rest => exact ⟨_, rfl⟩

theorem unix_timestamp_mono {a b : ℤ} (h : a ≤ b) : unix_timestamp a ≤ unix_timestamp b :=
  Int.ediv_le_ediv (by norm_num) h

end Aggregate

section Run

variable (cast : String → Option ℤ) (isoformat : ℤ → String) (now : ℤ) (spark_manager : SparkManager) (params : Params)

/-- The share of anomalies among the readings of a device, at most 1. -/
def device_rate (device_id : String) : ℚ :=
  anomaly_rate ((anomaly_df cast spark_manager params).countP (·.device_id = some device_id))
    ((telemetry_df cast spark_manager params).countP (·.device_id = device_id))

/-- No reading is three minutes ahead of the clock, or as much more as the anomalies of its
device make up for. -/
def NotFarAhead : Prop :=
  ∀ row ∈ telemetry_df cast spark_manager params,
    ((unix_timestamp row.timestamp - unix_timestamp now : ℤ) : ℚ) < 180 + 180000 * device_rate cast spark_manager params row.device_id

variable {cast isoformat now spark_manager params}

theorem mem_result_rows_iff {row : DeviceHealth} : row ∈ result_rows cast isoformat now spark_manager params ↔
    ∃ device_id stats,
      aggregate ((telemetry_df cast spark_manager params).filter (·.device_id = device_id)) = some stats ∧
      row = joined cast isoformat now spark_manager params device_id stats := by
  unfold result_rows
  rw [List.mem_insertionSort, List.mem_filterMap]
  constructor
  · rintro ⟨device_id, _, hrow⟩
    obtain ⟨stats, hstats, rfl⟩ := Option.map_eq_some_iff.mp hrow
    exact ⟨device_id, stats, hstats, rfl⟩
  · rintro ⟨device_id, stats, hstats, rfl⟩
    obtain ⟨reading, hreading, _⟩ := (aggregate_spec hstats).2.1
    obtain ⟨hmem, hdevice⟩ := List.mem_filter.mp hreading
    refine ⟨device_id, List.mem_dedup.mpr (List.mem_map.mpr ⟨reading, hmem, of_decide_eq_true hdevice⟩), ?_⟩
    rw [hstats, Option.map_some]

/-- The score of a device is on its scale exactly if none of its readings is too far ahead. -/
theorem joined_score_mem_iff {device_id : String} {stats : DeviceStats}
    (h : aggregate ((telemetry_df cast spark_manager params).filter (·.device_id = device_id)) = some stats) :
    (joined cast isoformat now spark_manager params device_id stats).health_score ∈ Set.Icc 0 100 ↔
      ∀ row ∈ telemetry_df cast spark_manager params, row.device_id = device_id →
        ((unix_timestamp row.timestamp - unix_timestamp now : ℤ) : ℚ) <
          180 + 180000 * device_rate cast spark_manager params device_id := by
  obtain ⟨htotal, ⟨last, hlast, hseen⟩, hmax⟩ := aggregate_spec h
  have hrate : device_rate cast spark_manager params device_id =
      anomaly_rate ((anomaly_df cast spark_manager params).countP (·.device_id = some device_id)) stats.total_readings := by
    rw [device_rate, htotal, ← List.countP_eq_length_filter]
  have hnonneg := (anomaly_rate_mem_Icc
    ((anomaly_df cast spark_manager params).countP (·.device_id = some device_id)) stats.total_readings).1
  have hscore := score_mem_iff hnonneg now stats.last_seen
  rw [← hrate] at hscore
  refine Iff.trans ?_ (hscore.trans ?_)
  · rw [joined, hrate]
  · constructor
    · intro hahead row hrow hdevice
      have hle := unix_timestamp_mono (hmax row (List.mem_filter.mpr ⟨hrow, decide_eq_true hdevice⟩))
      have hcast : ((unix_timestamp row.timestamp - unix_timestamp now : ℤ) : ℚ) ≤
          ((unix_timestamp stats.last_seen - unix_timestamp now : ℤ) : ℚ) := by
        exact_mod_cast Int.sub_le_sub_right hle _
      exact hcast.trans_lt hahead
    · intro hall
      obtain ⟨hmem, hdevice⟩ := List.mem_filter.mp hlast
      rw [← hseen]
      exact hall last hmem (of_decide_eq_true hdevice)

theorem joined_rate_mem (device_id : String) (stats : DeviceStats) :
    (joined cast isoformat now spark_manager params device_id stats).anomaly_rate ∈ Set.Icc 0 1 :=
  round_rate_mem_Icc (anomaly_rate_mem_Icc _ _)

/-- Every score is in one of the three classes. -/
theorem countP_classes (rows : List DeviceHealth) :
    rows.countP (·.health_score ≥ 80) + rows.countP (fun r => 50 ≤ r.health_score && r.health_score < 80) +
      rows.countP (·.health_score < 50) = rows.length := by
  induction rows with
  | nil => rfl
  | cons row rest ih =>
    rw [List.countP_cons, List.countP_cons, List.countP_cons, List.length_cons, ← ih]
    obtain hlow | hhigh := lt_or_ge row.health_score 50
    · have hunder : row.health_score < 80 := hlow.trans (by norm_num)
      simp only [hlow, not_le.mpr hlow, not_le.mpr hunder, ge_iff_le, decide_false, decide_true, Bool.false_and,
        Bool.false_eq_true, if_false, if_true]
      omega
    · obtain hunder | hover := lt_or_ge row.health_score 80
      · simp only [not_lt.mpr hhigh, hhigh, not_le.mpr hunder, hunder, ge_iff_le, decide_false, decide_true, Bool.true_and,
          Bool.false_eq_true, if_false, if_true]
        omega
      · simp only [not_lt.mpr hhigh, hhigh, not_lt.mpr hover, hover, ge_iff_le, decide_false, decide_true, Bool.and_false,
          Bool.false_eq_true, if_false, if_true]
        omega

end Run

/-- The job keeps its scores on the scale exactly if no reading is too far ahead of the clock. -/
theorem run_onScale_iff (cast : String → Option ℤ) (isoformat : ℤ → String) (now : ℤ) (spark_manager : SparkManager)
    (params : Params) :
    OnScale (run cast isoformat now spark_manager params) ↔ NotFarAhead cast now spark_manager params := by
  constructor
  · intro h row hrow
    have hmem : row ∈ (telemetry_df cast spark_manager params).filter (·.device_id = row.device_id) :=
      List.mem_filter.mpr ⟨hrow, decide_eq_true rfl⟩
    obtain ⟨stats, hstats⟩ := exists_aggregate (List.ne_nil_of_mem hmem)
    have hscore := h.health_score _ (mem_result_rows_iff.mpr ⟨_, stats, hstats, rfl⟩)
    exact (joined_score_mem_iff hstats).mp hscore row hrow rfl
  · intro h
    refine ⟨fun row hrow => ?_, fun row hrow => ?_, countP_classes _⟩
    · obtain ⟨device_id, stats, hstats, rfl⟩ := mem_result_rows_iff.mp hrow
      refine (joined_score_mem_iff hstats).mpr fun reading hreading hdevice => ?_
      exact hdevice ▸ h reading hreading
    · obtain ⟨device_id, stats, _, rfl⟩ := mem_result_rows_iff.mp hrow
      exact joined_rate_mem device_id stats

/-- One reading of one device, at a number of seconds. -/
def sample_manager (seconds : ℤ) : SparkManager where
  telemetry _ := [{ device_id := "sensor-1", device_type := "temperature_sensor", timestamp := 1000000 * seconds }]
  anomalies _ := []

/-- A reading five minutes ahead of the clock. -/
theorem run_over_100 :
    ¬ ∀ (cast : String → Option ℤ) (isoformat : ℤ → String) (now : ℤ) (spark_manager : SparkManager) (params : Params),
      OnScale (run cast isoformat now spark_manager params) := by
  intro h
  have hscore := (h (fun _ => none) (fun _ => "") 1000000000 (sample_manager 1300) {}).health_score
  have hover : ∃ row ∈ (run (fun _ => none) (fun _ => "") 1000000000 (sample_manager 1300) {}).rows,
      100 < row.health_score := by
    refine ⟨_, List.mem_cons_self, ?_⟩
    decide +kernel
  obtain ⟨row, hrow, hover⟩ := hover
  exact absurd (hscore row hrow).2 (not_le.mpr hover)

end gateway.device_health
