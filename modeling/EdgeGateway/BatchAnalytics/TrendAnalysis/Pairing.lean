import EdgeGateway.BatchAnalytics.DeviceHealth
import EdgeGateway.BatchAnalytics.TrendAnalysis

open LeastSquares (mean)
open gateway.device_health (given unix_timestamp)

namespace gateway.trend_analysis

/-- A row of the telemetry table, with its time in microseconds since the epoch. -/
structure TelemetryRow where
  device_type : Option String
  metric : Option String := none
  timestamp : Option ℤ
  value : Option ℚ
  deriving DecidableEq

structure Table where
  rows : List TelemetryRow
  has_metric : Bool

structure Params where
  start_time : Option String := none
  end_time : Option String := none
  device_type : Option String := none
  metric : Option String := none
  window_size : ℤ := 24
  table_name : String := "telemetry_readings"

/-- The values of the grouping columns; without a metric column the second is missing. -/
abbrev Key := Option String × Option String

/-- The tables, and what Spark makes of the job. -/
structure SparkManager where
  read_from_postgres : String → Table
  /-- A text cast to a timestamp. -/
  cast : String → Option ℤ
  /-- A range frame of so many seconds is taken over a timestamp column. -/
  accepts_window : ℤ → Bool
  /-- The order in which the groups are collected. -/
  collect : { collect : List Key → List Key // ∀ keys, (collect keys).Perm keys }

/-- The aggregates of a group. `F.collect_list` skips nulls. -/
structure Group where
  key : Key
  timestamps : List ℚ
  values : List ℚ
  avg_value : Option ℚ
  data_points : ℕ
  min_value : Option ℚ
  max_value : Option ℚ

structure TrendRow where
  device_type : Option String
  metric : Option String
  trend_direction : TrendDirection
  slope : ℚ
  r_squared : ℚ
  avg_value : ℚ
  min_value : ℚ
  max_value : ℚ
  data_points : ℕ

structure Summary where
  total_trends : ℕ
  upward_count : ℕ
  downward_count : ℕ
  stable_count : ℕ

structure Report where
  summary : Summary
  rows : List TrendRow
  rows_processed : ℕ

/-- `F.unix_timestamp`, as a double. -/
def TelemetryRow.ts_epoch (row : TelemetryRow) : Option ℚ := row.timestamp.map fun t => (unix_timestamp t : ℚ)

def aggregate (key : Key) (rows : List TelemetryRow) : Group :=
  let values := rows.filterMap (·.value)
  { key
    timestamps := rows.filterMap (·.ts_epoch)
    values
    avg_value := if values = [] then none else some (mean values)
    data_points := rows.length
    min_value := values.min?
    max_value := values.max? }

/-- `round(float(x), 4) if x else 0.0`. -/
def rounded (x : Option ℚ) : ℚ := (x.filter (· ≠ 0)).elim 0 fun x => PyRound.round x 4

def trend_row (has_metric : Bool) (group : Group) : Except PyExc TrendRow := do
  let regression ← compute_linear_regression group.timestamps group.values
  return {
    device_type := group.key.1
    metric := if has_metric then group.key.2 else some "value"
    trend_direction := regression.trend_direction
    slope := regression.slope
    r_squared := regression.r_squared
    avg_value := rounded group.avg_value
    min_value := rounded group.min_value
    max_value := rounded group.max_value
    data_points := group.data_points }

/-- The loop over the groups. -/
def trend_rows (has_metric : Bool) : List Group → Except PyExc (List TrendRow)
  | [] => .ok []
  | group :: rest => do
    let row ← trend_row has_metric group
    let rows ← trend_rows has_metric rest
    return row :: rows

section Run

variable (spark_manager : SparkManager) (params : Params)

def table : Table := spark_manager.read_from_postgres params.table_name

/-- A comparison with null leaves a row out. -/
def passes (row : TelemetryRow) : Bool :=
  gateway.device_health.in_range spark_manager.cast { start_time := params.start_time, end_time := params.end_time }
      row.timestamp &&
    (given params.device_type).all (row.device_type = some ·) && (given params.metric).all (row.metric = some ·)

/-- The telemetry readings that pass the filters, in the order in which Spark aggregates them. -/
def telemetry_df : List TelemetryRow := (table spark_manager params).rows.filter (passes spark_manager params)

def group_key (row : TelemetryRow) : Key :=
  (row.device_type, if (table spark_manager params).has_metric then row.metric else none)

def group_rows (key : Key) : List TelemetryRow :=
  (telemetry_df spark_manager params).filter (group_key spark_manager params · = key)

def grouped : List Group :=
  (spark_manager.collect.1 ((telemetry_df spark_manager params).map (group_key spark_manager params)).dedup).map fun key =>
    aggregate key (group_rows spark_manager params key)

/-- Detect trends in sensor data. -/
def run : Except PyExc Report := do
  let has_metric := (table spark_manager params).has_metric
  -- A filter on a column that the table lacks is refused.
  if (given params.metric).isSome && !has_metric then throw .LibraryError
  -- So may be the window of the moving average, which nothing reads.
  if !spark_manager.accepts_window (params.window_size * 3600) then throw .LibraryError
  let rows ← trend_rows has_metric (grouped spark_manager params)
  -- Sort by absolute slope.
  let rows := rows.insertionSort fun a b => |b.slope| ≤ |a.slope|
  return {
    summary :=
      { total_trends := rows.length
        upward_count := rows.countP (·.trend_direction = .upward)
        downward_count := rows.countP (·.trend_direction = .downward)
        stable_count := rows.countP (·.trend_direction = .stable) }
    rows
    rows_processed := (telemetry_df spark_manager params).length }

/-- The time and the value of a row that has both. -/
def point (row : TelemetryRow) : Option (ℚ × ℚ) := do
  let t ← row.ts_epoch
  let value ← row.value
  return (t, value)

/-- The lists of a group are the times and the values of the same rows. -/
structure Paired (group : Group) (rows : List TelemetryRow) : Prop where
  timestamps : group.timestamps = (rows.filterMap point).map Prod.fst
  values : group.values = (rows.filterMap point).map Prod.snd

/-- The job does not fail, and each regression is of the points of its group. -/
def TrendsPaired : Prop :=
  (∀ group ∈ grouped spark_manager params, Paired group (group_rows spark_manager params group.key)) ∧
    ∃ report, run spark_manager params = .ok report

/-- Spark takes the plan: the filter on the metric and the window. -/
def PlanAccepted : Prop :=
  ((given params.metric).isSome = true → (table spark_manager params).has_metric = true) ∧
    spark_manager.accepts_window (params.window_size * 3600) = true

end Run

section Lists

variable {α β : Type*}

/-- Leaving out some elements makes no difference exactly when they were skipped anyway. -/
theorem filterMap_eq_filter_iff (f : α → Option β) (p : α → Bool) (l : List α) :
    l.filterMap f = (l.filter p).filterMap f ↔ ∀ a ∈ l, (f a).isSome = true → p a = true := by
  induction l with
  | nil => simp
  | cons a rest ih =>
    cases hp : p a with
    | true =>
      rw [List.filter_cons_of_pos hp, List.forall_mem_cons]
      cases hf : f a with
      | none =>
        rw [List.filterMap_cons_none hf, List.filterMap_cons_none hf, ih]
        simp
      | some b =>
        rw [List.filterMap_cons_some hf, List.filterMap_cons_some hf, List.cons_inj_right, ih]
        simp [hp]
    | false =>
      rw [List.filter_cons_of_neg (by simp [hp]), List.forall_mem_cons]
      cases hf : f a with
      | none =>
        rw [List.filterMap_cons_none hf, ih]
        simp
      | some b =>
        rw [List.filterMap_cons_some hf]
        -- The list that keeps the element is the longer one.
        have hle := ((List.filter_sublist (p := p) (l := rest)).filterMap f).length_le
        constructor
        · intro heq
          have hlength := congrArg List.length heq
          rw [List.length_cons] at hlength
          omega
        · intro h
          exact absurd (h.1 rfl) (by simp [hp])

end Lists

/-- Both fields are there. -/
def TelemetryRow.complete (row : TelemetryRow) : Bool := row.timestamp.isSome && row.value.isSome

theorem ts_epoch_isSome (row : TelemetryRow) : row.ts_epoch.isSome = row.timestamp.isSome := Option.isSome_map

theorem point_fst (rows : List TelemetryRow) :
    (rows.filterMap point).map Prod.fst = (rows.filter (·.complete)).filterMap (·.ts_epoch) := by
  rw [List.map_filterMap, List.filterMap_filter]
  refine List.filterMap_congr fun row _ => ?_
  rw [TelemetryRow.complete, ← ts_epoch_isSome, point]
  cases row.ts_epoch <;> cases row.value <;> rfl

theorem point_snd (rows : List TelemetryRow) :
    (rows.filterMap point).map Prod.snd = (rows.filter (·.complete)).filterMap (·.value) := by
  rw [List.map_filterMap, List.filterMap_filter]
  refine List.filterMap_congr fun row _ => ?_
  rw [TelemetryRow.complete, ← ts_epoch_isSome, point]
  cases row.ts_epoch <;> cases row.value <;> rfl

/-- The two aggregates skip the same rows. -/
theorem paired_iff (key : Key) (rows : List TelemetryRow) :
    Paired (aggregate key rows) rows ↔ ∀ row ∈ rows, row.timestamp.isSome = row.value.isSome := by
  have hboth : Paired (aggregate key rows) rows ↔
      (∀ row ∈ rows, row.ts_epoch.isSome = true → row.complete = true) ∧
        ∀ row ∈ rows, row.value.isSome = true → row.complete = true := by
    rw [← filterMap_eq_filter_iff, ← filterMap_eq_filter_iff, ← point_fst, ← point_snd]
    exact ⟨fun h => ⟨h.timestamps, h.values⟩, fun h => ⟨h.1, h.2⟩⟩
  rw [hboth, ← forall₂_and]
  refine forall₂_congr fun row _ => ?_
  rw [ts_epoch_isSome, TelemetryRow.complete]
  cases row.timestamp.isSome <;> cases row.value.isSome <;> simp

section Regression

theorem broadcast_of_length {a b : List ℚ} (h : a.length = b.length) : broadcast a b = .ok (a.zip b) := if_pos h

theorem exists_fit {x y : List ℚ} (hlength : x.length = y.length) (sum_xy : ℚ) :
    ∃ result, fit x y sum_xy = .ok result := by
  unfold fit
  extract_lets slope intercept y_pred
  rw [broadcast_of_length (by rw [List.length_map, hlength])]
  exact ⟨_, rfl⟩

/-- Lists of one length are never refused. -/
theorem exists_regression (finish : Regression → Regression) {timestamps values : List ℚ}
    (hlength : timestamps.length = values.length) : ∃ result, regression finish timestamps values = .ok result := by
  unfold regression
  split
  · exact ⟨_, rfl⟩
  have hproducts := broadcast_of_length (a := x_centered timestamps) (b := values)
    (by rw [x_centered, List.length_map, hlength])
  rw [hproducts]
  change ∃ result, (if sum_xx timestamps = 0 then _ else _) = Except.ok result
  split
  · exact ⟨_, rfl⟩
  obtain ⟨result, hresult⟩ := exists_fit hlength ((((x_centered timestamps).zip values).map fun p => p.1 * p.2).sum)
  rw [hresult]
  exact ⟨finish result, rfl⟩

theorem exists_trend_row (has_metric : Bool) {group : Group} (hlength : group.timestamps.length = group.values.length) :
    ∃ row, trend_row has_metric group = .ok row := by
  obtain ⟨result, hresult⟩ := exists_regression Regression.rounded hlength
  unfold trend_row compute_linear_regression
  rw [hresult]
  exact ⟨_, rfl⟩

theorem exists_trend_rows (has_metric : Bool) {groups : List Group}
    (hlength : ∀ group ∈ groups, group.timestamps.length = group.values.length) :
    ∃ rows, trend_rows has_metric groups = .ok rows := by
  induction groups with
  | nil => exact ⟨[], rfl⟩
  | cons group rest ih =>
    obtain ⟨row, hrow⟩ := exists_trend_row has_metric (hlength group List.mem_cons_self)
    obtain ⟨rows, hrows⟩ := ih fun other hother => hlength other (List.mem_cons_of_mem group hother)
    unfold trend_rows
    rw [hrow, hrows]
    exact ⟨row :: rows, rfl⟩

end Regression

theorem Paired.length_eq {group : Group} {rows : List TelemetryRow} (h : Paired group rows) :
    group.timestamps.length = group.values.length := by
  rw [h.timestamps, h.values, List.length_map, List.length_map]

section Run

variable {spark_manager : SparkManager} {params : Params}

theorem mem_group_rows {key : Key} {row : TelemetryRow} :
    row ∈ group_rows spark_manager params key ↔
      row ∈ telemetry_df spark_manager params ∧ group_key spark_manager params row = key := by
  rw [group_rows, List.mem_filter, decide_eq_true_iff]

/-- A group for each key of a row. -/
theorem mem_grouped {group : Group} :
    group ∈ grouped spark_manager params ↔
      ∃ row ∈ telemetry_df spark_manager params,
        group = aggregate (group_key spark_manager params row)
          (group_rows spark_manager params (group_key spark_manager params row)) := by
  rw [grouped, List.mem_map]
  constructor
  · rintro ⟨key, hkey, rfl⟩
    rw [(spark_manager.collect.2 _).mem_iff, List.mem_dedup, List.mem_map] at hkey
    obtain ⟨row, hrow, rfl⟩ := hkey
    exact ⟨row, hrow, rfl⟩
  · rintro ⟨row, hrow, rfl⟩
    refine ⟨group_key spark_manager params row, ?_, rfl⟩
    rw [(spark_manager.collect.2 _).mem_iff, List.mem_dedup]
    exact List.mem_map_of_mem hrow

/-- Every row is in the group of its key. -/
theorem grouped_paired_iff :
    (∀ group ∈ grouped spark_manager params, Paired group (group_rows spark_manager params group.key)) ↔
      ∀ row ∈ telemetry_df spark_manager params, row.timestamp.isSome = row.value.isSome := by
  constructor
  · intro h row hrow
    have hgroup := h _ (mem_grouped.mpr ⟨row, hrow, rfl⟩)
    exact (paired_iff _ _).mp hgroup row (mem_group_rows.mpr ⟨hrow, rfl⟩)
  · intro h group hgroup
    obtain ⟨row, _, rfl⟩ := mem_grouped.mp hgroup
    exact (paired_iff _ _).mpr fun other hother => h other (mem_group_rows.mp hother).1

theorem run_of_refused (h : ¬PlanAccepted spark_manager params) : run spark_manager params = .error .LibraryError := by
  simp only [run]
  by_cases hmetric : ((given params.metric).isSome && !(table spark_manager params).has_metric) = true
  · rw [if_pos hmetric]
    rfl
  rw [if_neg hmetric]
  by_cases hwindow : (!spark_manager.accepts_window (params.window_size * 3600)) = true
  · rw [if_pos hwindow]
    rfl
  refine absurd ⟨fun hgiven => ?_, ?_⟩ h
  · simpa [hgiven] using hmetric
  · simpa using hwindow

theorem exists_run (hplan : PlanAccepted spark_manager params)
    (hlength : ∀ group ∈ grouped spark_manager params, group.timestamps.length = group.values.length) :
    ∃ report, run spark_manager params = .ok report := by
  obtain ⟨rows, hrows⟩ := exists_trend_rows (table spark_manager params).has_metric hlength
  have hmetric : ¬((given params.metric).isSome && !(table spark_manager params).has_metric) = true := by
    simpa using hplan.1
  simp only [run]
  rw [if_neg hmetric, if_neg (by simp [hplan.2]), hrows]
  exact ⟨_, rfl⟩

end Run

/-- The lists of each group are the times and the values of its complete rows, and the job does not
fail, exactly when Spark takes the plan and no row that passes the filters has only one of the two
fields. Each `collect_list` skips the nulls of its own column. -/
theorem trends_paired_iff (spark_manager : SparkManager) (params : Params) :
    TrendsPaired spark_manager params ↔
      PlanAccepted spark_manager params ∧
        ∀ row ∈ telemetry_df spark_manager params, row.timestamp.isSome = row.value.isSome := by
  rw [TrendsPaired, grouped_paired_iff]
  constructor
  · rintro ⟨hrows, report, hreport⟩
    refine ⟨?_, hrows⟩
    by_contra hplan
    rw [run_of_refused hplan] at hreport
    cases hreport
  · rintro ⟨hplan, hrows⟩
    refine ⟨hrows, exists_run hplan fun group hgroup => ?_⟩
    exact (grouped_paired_iff.mpr hrows group hgroup).length_eq

/-- A reading without a value, one without a time, and one with both. -/
def lone_nulls : SparkManager where
  read_from_postgres _ :=
    { rows :=
        [{ device_type := some "temperature", timestamp := some 0, value := none },
          { device_type := some "temperature", timestamp := none, value := some 5 },
          { device_type := some "temperature", timestamp := some 10000000, value := some 7 }]
      has_metric := false }
  cast _ := none
  accepts_window _ := true
  collect := ⟨id, List.Perm.refl⟩

/-- The value of the second reading goes with the time of the first, and the job reports a trend. -/
theorem lone_nulls_not_paired :
    (grouped lone_nulls {}).map (fun group => (group.timestamps, group.values)) = [([0, 10], [5, 7])] ∧
      (∃ report, run lone_nulls {} = .ok report) ∧ ¬TrendsPaired lone_nulls {} := by
  refine ⟨by decide +kernel, exists_run ⟨by decide, rfl⟩ (by decide +kernel), fun h => ?_⟩
  have hrow : ⟨some "temperature", none, some 0, none⟩ ∈ telemetry_df lone_nulls {} := by decide +kernel
  exact absurd (grouped_paired_iff.mp h.1 _ hrow) (by decide)

end gateway.trend_analysis
