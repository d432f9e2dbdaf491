import Mathlib.Data.String.Basic
import Mathlib.Logic.Embedding.Basic
import EdgeGateway.CloudApi.TelemetryService
import EdgeGateway.Library.Dict
import EdgeGateway.Library.PyRound
import EdgeGateway.Library.Raising
import EdgeGateway.Library.Sql

open SqlGroups
open gateway.telemetry_service

namespace gateway.cloud_api.analytics_service

/-- A row of `alerts`, with what its columns hold. -/
structure AlertRow (A T S : Type) where
  device_id : A
  device_type : T
  severity : S
  timestamp : ℤ

section AnomalySummary

variable {T S : Type} [DecidableEq T] [DecidableEq S]

structure AnomalySummary (T S : Type) where
  total_anomalies : ℕ := 0
  by_device_type : Dict T ℕ := .empty
  by_severity : Dict S ℕ := .empty

/-- The results of the three queries, or the exceptions that they raise. -/
structure SummaryQueries (T S : Type) where
  total_q : Except PyExc ℕ
  type_q : Except PyExc (List (T × ℕ))
  sev_q : Except PyExc (List (S × ℕ))

/-- The queries one after the other, each of which sets a part of the result. -/
def summarize (queries : SummaryQueries T S) : Raising (AnomalySummary T S) PyExc Unit := do
  let total ← (queries.total_q : Except PyExc ℕ)
  modify fun result => { result with total_anomalies := total }
  let types ← (queries.type_q : Except PyExc (List (T × ℕ)))
  modify fun result => { result with by_device_type := .ofList types }
  let severities ← (queries.sev_q : Except PyExc (List (S × ℕ)))
  modify fun result => { result with by_severity := .ofList severities }

/-- Return aggregated anomaly counts; a failure is logged, and what was set stays. -/
def anomaly_summary (queries : SummaryQueries T S) : AnomalySummary T S := ((summarize queries).call {}).2

end AnomalySummary

section DeviceHealthScores

variable {A : Type} (text : A ↪ String)

structure DeviceHealthEntry where
  device_id : String
  device_type : String := ""
  anomaly_count : ℕ := 0
  total_readings : ℕ := 0
  health_score : ℚ := 1

def score (anomalies total : ℕ) : ℚ :=
  if total > 0 then max 0 (1 - (anomalies : ℚ) / total)
  else if anomalies = 0 then 1
  else 0

/-- The entry of a device. -/
def health_entry (reading_counts : Dict String (String × ℕ)) (anomaly_counts : Dict String ℕ) (device_id : String) :
    DeviceHealthEntry :=
  let info := reading_counts.get? device_id
  let total := (info.map Prod.snd).getD 0
  let anomalies := anomaly_counts.getD device_id 0
  { device_id
    device_type := (info.map Prod.fst).getD "unknown"
    anomaly_count := anomalies
    total_readings := total
    health_score := PyRound.round (score anomalies total) 4 }

/-- Compute a health score for each device, from the results of the two queries; `text` is
`str` on the device ids of the alerts. -/
def device_health_scores (readings_q : Except PyExc (List ((Uuid × String) × ℕ)))
    (anomaly_q : Except PyExc (List (A × ℕ))) : List DeviceHealthEntry :=
  let devices : Except PyExc (List DeviceHealthEntry) := do
    let readings ← readings_q
    let reading_counts := Dict.ofList (readings.map fun row => (row.1.1.str, row.1.2, row.2))
    let anomalies ← anomaly_q
    let anomaly_counts := Dict.ofList (anomalies.map fun row => (text row.1, row.2))
    let all_device_ids := (reading_counts.keys ++ anomaly_counts.keys).dedup
    return (all_device_ids.insertionSort (· ≤ ·)).map (health_entry reading_counts anomaly_counts)
  match devices with
  | .ok devices => devices
  -- No entry is appended before both queries have succeeded.
  | .error _ => []

end DeviceHealthScores

end gateway.cloud_api.analytics_service
