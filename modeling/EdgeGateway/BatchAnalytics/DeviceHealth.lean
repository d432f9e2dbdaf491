import Mathlib.Algebra.Order.Floor.Ring
import Mathlib.Data.List.Dedup
import Mathlib.Data.List.Sort
import EdgeGateway.Library.PyRound

namespace gateway.device_health

/-- A row of the telemetry table, with its time in microseconds since the epoch. -/
structure TelemetryRow where
  device_id : String
  device_type : String
  timestamp : ℤ

/-- A row of the anomaly table, whose columns may be null. -/
structure AnomalyRow where
  device_id : Option String
  timestamp : Option ℤ

/-- The tables that the job reads, by their names. -/
structure SparkManager where
  telemetry : String → List TelemetryRow
  anomalies : String → List AnomalyRow

structure Params where
  start_time : Option String := none
  end_time : Option String := none
  device_type : Option String := none
  telemetry_table : String := "telemetry_readings"
  anomaly_table : String := "anomaly_events"

/-- A parameter that is set and not empty. -/
def given (param : Option String) : Option String := param.filter (· ≠ "")

/-- The filters on the time. `cast` is Spark's reading of a text as a timestamp; a row is left
out when a comparison is null. -/
def in_range (cast : String → Option ℤ) (params : Params) (timestamp : Option ℤ) : Bool :=
  (given params.start_time).all (fun text => (cast text).any fun start => timestamp.any (start ≤ ·)) &&
    (given params.end_time).all fun text => (cast text).any fun stop => timestamp.any (· ≤ stop)

/-- The aggregates of a device. -/
structure DeviceStats where
  total_readings : ℕ
  last_seen : ℤ
  device_type : String

/-- `COUNT(*)`, `MAX(timestamp)` and `FIRST(device_type)` of the rows of a device. -/
def aggregate (rows : List TelemetryRow) : Option DeviceStats := do
  let last_seen ← (rows.map (·.timestamp)).max?
  let first ← rows.head?
  return { total_readings := rows.length, last_seen, device_type := first.device_type }

/-- `F.round`, which rounds half up, away from zero. -/
def round (x : ℚ) (scale : ℕ) : ℚ :=
  if 0 ≤ x then ⌊x * 10 ^ scale + 1 / 2⌋ / 10 ^ scale else -⌊-x * 10 ^ scale + 1 / 2⌋ / 10 ^ scale

/-- `F.unix_timestamp`, in whole seconds. -/
def unix_timestamp (microseconds : ℤ) : ℤ := microseconds / 1000000

/-- A row of the result. -/
structure DeviceHealth where
  device_id : String
  device_type : String
  health_score : ℚ
  anomaly_rate : ℚ
  last_seen : String
  total_readings : ℕ
  anomaly_count : ℕ

def anomaly_rate (anomaly_count total_readings : ℕ) : ℚ := min ((anomaly_count : ℚ) / total_readings) 1

/-- The freshness penalty: hours since the last reading, capped at 50. -/
def hours_since_last (now last_seen : ℤ) : ℚ := min (((unix_timestamp now - unix_timestamp last_seen : ℤ) : ℚ) / 3600) 50

/-- 100 - (anomaly_rate * 50) - freshness_penalty. -/
def health_score (rate hours : ℚ) : ℚ := max 0 (100 - rate * 50 - hours)

section Run

variable (cast : String → Option ℤ) (isoformat : ℤ → String) (now : ℤ) (spark_manager : SparkManager) (params : Params)

/-- The telemetry readings that pass the filters. -/
def telemetry_df : List TelemetryRow :=
  (spark_manager.telemetry params.telemetry_table).filter fun row =>
    in_range cast params (some row.timestamp) && (given params.device_type).all (row.device_type = ·)

/-- The anomaly events that pass the filters. -/
def anomaly_df : List AnomalyRow :=
  (spark_manager.anomalies params.anomaly_table).filter fun row => in_range cast params row.timestamp

/-- The row of a device, joined with its anomaly count. -/
def joined (device_id : String) (stats : DeviceStats) : DeviceHealth :=
  let anomaly_count := (anomaly_df cast spark_manager params).countP (·.device_id = some device_id)
  let rate := anomaly_rate anomaly_count stats.total_readings
  let hours := hours_since_last now stats.last_seen
  { device_id
    device_type := stats.device_type
    health_score := round (health_score rate hours) 1
    anomaly_rate := round rate 4
    last_seen := isoformat stats.last_seen
    total_readings := stats.total_readings
    anomaly_count }

/-- The rows of the result, those of one score in any order. -/
def result_rows : List DeviceHealth :=
  let telemetry := telemetry_df cast spark_manager params
  let devices := (telemetry.map (·.device_id)).dedup.filterMap fun device_id =>
    (aggregate (telemetry.filter (·.device_id = device_id))).map (joined cast isoformat now spark_manager params device_id)
  devices.insertionSort fun a b => a.health_score ≤ b.health_score

structure Summary where
  total_devices : ℕ
  avg_health_score : ℚ
  healthy_count : ℕ
  degraded_count : ℕ
  critical_count : ℕ

structure Report where
  summary : Summary
  rows : List DeviceHealth
  rows_processed : ℕ

/-- Compute health scores for all devices. -/
def run : Report :=
  let result_rows := result_rows cast isoformat now spark_manager params
  let total_devices := result_rows.length
  let avg_health := if total_devices > 0 then (result_rows.map (·.health_score)).sum / total_devices else 0
  { summary :=
      { total_devices
        avg_health_score := PyRound.round avg_health 1
        healthy_count := result_rows.countP (·.health_score ≥ 80)
        degraded_count := result_rows.countP fun r => 50 ≤ r.health_score && r.health_score < 80
        critical_count := result_rows.countP (·.health_score < 50) }
    rows := result_rows
    rows_processed := (telemetry_df cast spark_manager params).length }

end Run

end gateway.device_health
