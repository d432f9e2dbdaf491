import EdgeGateway.Library.GroupBy
import EdgeGateway.Library.SampleStatistics
import Mathlib

open SampleStatistics (Statistics statistics Moments)

/-! The job over tables of readings. The statistics are computed without rounding. -/

namespace gateway.sensor_aggregation

/-- A row of the table that the job reads, with its time in microseconds since the epoch after the cast. -/
structure Reading where
  device_id : Option String
  device_type : Option String
  timestamp : Option ℤ
  value : Option ℚ

structure DataFrame where
  columns : List String
  rows : List Reading

structure Params where
  start_time : Option String := none
  end_time : Option String := none
  device_type : Option String := none
  granularity : String := "hour"
  table_name : String := "telemetry_readings"

inductive TimeUnit where
  | day
  | hour
  deriving DecidableEq

/-- What the job uses of Spark: its reading of a text as a timestamp, `date_trunc` in the zone of the session, and the
square root. -/
structure Spark (F : Type) where
  cast : String → Option ℤ
  date_trunc : TimeUnit → ℤ → ℤ
  sqrt : ℚ → F

/-- A parameter that is set and not empty. -/
def given (param : Option String) : Option String := param.filter (· ≠ "")

section Run

variable {F : Type} (spark : Spark F) (params : Params)

/-- The filters. A row is left out when a comparison is null. -/
def where_clause (row : Reading) : Bool :=
  (given params.start_time).all (fun text => (spark.cast text).any fun start => row.timestamp.any (start ≤ ·)) &&
    (given params.end_time).all (fun text => (spark.cast text).any fun stop => row.timestamp.any (· ≤ stop)) &&
    (given params.device_type).all (row.device_type = some ·)

/-- The time bucket. -/
def granularity : TimeUnit := if params.granularity = "day" then .day else .hour

abbrev Key := Option ℤ × Option String

def key (unit : TimeUnit) (row : Reading) : Key := (row.timestamp.map (spark.date_trunc unit), row.device_type)

/-- The aggregates of a group, which leave out null values. -/
def agg (rows : List Reading) : Statistics ℚ := statistics (rows.filterMap (·.value))

/-- Nulls come first. -/
def order (k : Key) : WithBot ℤ ×ₗ WithBot String := toLex (k.1, k.2)

/-- The groups by time bucket and device type with their aggregates, in their order. -/
def agg_df (unit : TimeUnit) (rows : List Reading) : List (Key × Statistics ℚ) :=
  (GroupBy.aggregate (key spark unit) agg rows).insertionSort fun a b => order a.1 ≤ order b.1

/-- A row of the result. -/
structure AggregatedRow (F : Type) where
  period : Option String
  device_type : Option String
  avg_value : Option ℚ
  min_value : Option ℚ
  max_value : Option ℚ
  count : ℕ
  stddev_value : Option F

/-- A row as it is collected, with its period as a text. -/
def asDict (isoformat : ℤ → String) (row : Key × Statistics ℚ) : AggregatedRow F where
  period := row.1.1.map isoformat
  device_type := row.1.2
  avg_value := row.2.avg
  min_value := row.2.min
  max_value := row.2.max
  count := row.2.count
  stddev_value := row.2.var_samp.map spark.sqrt

structure Summary where
  total_rows : ℕ
  aggregated_rows : ℕ
  unique_devices : ℕ
  unique_types : ℕ
  granularity : String

structure Report (F : Type) where
  summary : Summary
  rows : List (AggregatedRow F)
  rows_processed : ℕ

/-- The exceptions of Spark's analysis of a query. -/
inductive AnalysisException where
  /-- A column is not in the table. -/
  | unresolved_column

/-- Aggregate sensor readings by time bucket and device type. -/
def run (isoformat : ℤ → String) (read_from_postgres : String → DataFrame) : Except AnalysisException (Report F) :=
  let df := read_from_postgres params.table_name
  if "timestamp" ∈ df.columns ∧ "device_type" ∈ df.columns ∧ "value" ∈ df.columns then
    let rows := df.rows.filter (where_clause spark params)
    let result_rows := (agg_df spark (granularity params) rows).map (asDict spark isoformat)
    .ok {
      summary :=
        { total_rows := rows.length
          aggregated_rows := result_rows.length
          unique_devices := if "device_id" ∈ df.columns then (rows.map (·.device_id)).dedup.length else 0
          unique_types := (rows.map (·.device_type)).dedup.length
          granularity := params.granularity }
      rows := result_rows
      rows_processed := rows.length }
  else .error .unresolved_column

end Run

section RollUp

variable {F : Type} {spark : Spark F}

/-- The moments of a reading, which has none without a value. -/
def moments (row : Reading) : Moments ℚ := (row.value.map Moments.of).getD 0

theorem total_moments (rows : List Reading) :
    GroupBy.total moments rows = ((rows.filterMap (·.value)).map Moments.of).sum := by
  induction rows with
  | nil => rfl
  | cons row rest ih =>
    rw [GroupBy.total, List.map_cons, List.sum_cons]
    change moments row + GroupBy.total moments rest = _
    rw [ih]
    cases hvalue : row.value with
    | none => simp [moments, hvalue]
    | some x => simp [moments, hvalue]

theorem agg_eq (rows : List Reading) : agg rows = (GroupBy.total moments rows).statistics := by
  rw [agg, total_moments, SampleStatistics.statistics_sum_of]

theorem moments_agg (rows : List Reading) : (agg rows).moments = GroupBy.total moments rows := by
  rw [agg, total_moments, SampleStatistics.moments_statistics]

theorem agg_perm (l l' : List Reading) (h : l.Perm l') : agg l = agg l' := by
  rw [agg_eq, agg_eq, GroupBy.total_perm moments h]

/-- The day of an hourly row. -/
def day_key (spark : Spark F) (k : Key) : Key := (k.1.map (spark.date_trunc .day), k.2)

/-- The aggregates of the readings of some hourly rows, told from these alone. -/
def merged (hours : List (Key × Statistics ℚ)) : Statistics ℚ :=
  (GroupBy.total (fun row : Key × Statistics ℚ => row.2.moments) hours).statistics

theorem merged_perm (l l' : List (Key × Statistics ℚ)) (h : l.Perm l') : merged l = merged l' := by
  rw [merged, merged, GroupBy.total_perm _ h]

/-- The daily rows that hourly ones make up. -/
def roll_up (spark : Spark F) (hours : List (Key × Statistics ℚ)) : List (Key × Statistics ℚ) :=
  (GroupBy.aggregate (fun row => day_key spark row.1) merged hours).insertionSort fun a b => order a.1 ≤ order b.1

theorem order_injective : Function.Injective order := by
  intro k k' h
  exact h

theorem key_day (htrunc : ∀ t, spark.date_trunc .day (spark.date_trunc .hour t) = spark.date_trunc .day t) (row : Reading) :
    key spark .day row = day_key spark (key spark .hour row) := by
  cases htimestamp : row.timestamp with
  | none => simp [key, day_key, htimestamp]
  | some t => simp [key, day_key, htimestamp, htrunc]

/-- The daily rows are those that the hourly rows make up, in whatever order the readings come. -/
theorem agg_df_day (htrunc : ∀ t, spark.date_trunc .day (spark.date_trunc .hour t) = spark.date_trunc .day t)
    {rows rows' : List Reading} (h : rows.Perm rows') :
    agg_df spark .day rows' = roll_up spark (agg_df spark .hour rows) := by
  have hagg : agg = fun l => (GroupBy.total moments l).statistics := funext agg_eq
  have hkey : key spark .day = fun row => day_key spark (key spark .hour row) := funext (key_day htrunc)
  have hrows : (GroupBy.aggregate (key spark .day) agg rows').Perm (GroupBy.aggregate (key spark .day) agg rows) :=
    GroupBy.aggregate_perm agg_perm h.symm
  have hcoarser := GroupBy.aggregate_aggregate moments (key spark .hour) rows Moments.statistics Statistics.moments
    (day_key spark) fun k => by rw [← agg_eq, moments_agg]
  rw [← hkey, ← hagg] at hcoarser
  have hsorted : (GroupBy.aggregate (fun row => day_key spark row.1) merged (agg_df spark .hour rows)).Perm
      (GroupBy.aggregate (fun row => day_key spark row.1) merged (GroupBy.aggregate (key spark .hour) agg rows)) :=
    GroupBy.aggregate_perm merged_perm (List.perm_insertionSort _ _)
  refine GroupBy.insertionSort_eq_of_perm order_injective (hrows.trans (hcoarser.trans hsorted.symm)) ?_
  rw [GroupBy.aggregate_fst]
  exact GroupBy.keys_nodup _ _

/-- One for a reading with a value. -/
def counted (row : Reading) : ℕ := if row.value.isSome then 1 else 0

theorem total_counted (rows : List Reading) : GroupBy.total counted rows = rows.countP (·.value.isSome) := by
  induction rows with
  | nil => rfl
  | cons row rest ih =>
    rw [GroupBy.total, List.map_cons, List.sum_cons, List.countP_cons, Nat.add_comm]
    exact congrArg (· + counted row) ih

theorem count_agg (rows : List Reading) : (agg rows).count = GroupBy.total counted rows := by
  rw [total_counted, agg, statistics, List.countP_eq_length_filter]
  induction rows with
  | nil => rfl
  | cons row rest ih =>
    cases hvalue : row.value with
    | none => simpa [hvalue] using ih
    | some x => simpa [hvalue] using ih

/-- Every reading with a value is counted in one row. -/
theorem sum_count (spark : Spark F) (unit : TimeUnit) (rows : List Reading) :
    ((agg_df spark unit rows).map fun row => row.2.count).sum = rows.countP (·.value.isSome) := by
  have hsorted := List.perm_insertionSort (fun a b => order a.1 ≤ order b.1) (GroupBy.aggregate (key spark unit) agg rows)
  have hcounts : ((GroupBy.aggregate (key spark unit) agg rows).map fun row => row.2.count) =
      (GroupBy.keys (key spark unit) rows).map fun k => GroupBy.total counted (GroupBy.group (key spark unit) rows k) := by
    rw [GroupBy.aggregate, List.map_map]
    exact List.map_congr_left fun k _ => count_agg _
  rw [agg_df, (hsorted.map _).sum_eq, hcounts, ← total_counted]
  exact GroupBy.sum_groups counted (GroupBy.keys_nodup _ _) fun row hrow => GroupBy.mem_keys_iff.mpr ⟨row, hrow, rfl⟩

end RollUp

section Reports

variable {F : Type} {spark : Spark F} {params : Params} {isoformat : ℤ → String} {read_from_postgres : String → DataFrame}
  {report : Report F}

theorem rows_of_run (h : run spark params isoformat read_from_postgres = .ok report) :
    report.rows = (agg_df spark (granularity params)
      ((read_from_postgres params.table_name).rows.filter (where_clause spark params))).map (asDict spark isoformat) ∧
    report.rows_processed = ((read_from_postgres params.table_name).rows.filter (where_clause spark params)).length := by
  simp only [run] at h
  split at h
  · cases h
    exact ⟨rfl, rfl⟩
  · cases h

theorem sum_count_asDict (rows : List (Key × Statistics ℚ)) :
    ((rows.map (asDict spark isoformat)).map (·.count)).sum = (rows.map fun row => row.2.count).sum := by
  rw [List.map_map]
  rfl

end Reports

/-- Spark in UTC, with a square root that is right for 0 and 1. -/
def utc : Spark ℚ where
  cast _ := none
  date_trunc
    | .day, t => t / 86400000000 * 86400000000
    | .hour, t => t / 3600000000 * 3600000000
  sqrt x := x

/-- Three readings of one hour, and one without a value of the next. -/
def readings : DataFrame where
  columns := ["device_id", "device_type", "timestamp", "value"]
  rows :=
    [{ device_id := some "a", device_type := some "temperature", timestamp := some 1704103200000000, value := some 20 },
      { device_id := some "b", device_type := some "temperature", timestamp := some 1704103260000000, value := some 21 },
      { device_id := some "a", device_type := some "temperature", timestamp := some 1704103320000000, value := some 22 },
      { device_id := some "b", device_type := some "temperature", timestamp := some 1704106800000000, value := none }]

def isoformat (t : ℤ) : String :=
  if t = 1704067200000000 then "2024-01-01T00:00:00"
  else if t = 1704103200000000 then "2024-01-01T10:00:00"
  else "2024-01-01T11:00:00"

end gateway.sensor_aggregation
