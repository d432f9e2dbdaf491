import EdgeGateway.Library.Raising
import EdgeGateway.Shared.Telemetry

open gateway.telemetry

namespace gateway.alert

inductive AlertSeverity where
  | info
  | warning
  | critical
  deriving DecidableEq

def AlertSeverity.value : AlertSeverity → String
  | .info => "info"
  | .warning => "warning"
  | .critical => "critical"

/-- An alert generated by the ML inference pipeline, with a score in [0, 1]. -/
structure Alert (U T : Type) where
  alert_id : U
  device_id : U
  alert_type : String
  severity : AlertSeverity
  timestamp : T
  anomaly_score : PyFloat
  model_version : String
  details : List (String × JsonValue)
  score_ge : PyFloat.le (.finite 0) anomaly_score = true
  score_le : PyFloat.le anomaly_score (.finite 1) = true

variable {U T : Type}

/-- The construction of an alert, with the defaults of the other fields. -/
def Alert.new (alert_id device_id : U) (severity : AlertSeverity) (timestamp : T) (anomaly_score : PyFloat)
    (model_version : JsonValue) (details : List (String × JsonValue)) : Except PyExc (Alert U T) :=
  match model_version with
  | .str model_version =>
    if h : PyFloat.le (.finite 0) anomaly_score = true ∧ PyFloat.le anomaly_score (.finite 1) = true then
      .ok
        { alert_id, device_id, alert_type := "anomaly_detected", severity, timestamp, anomaly_score, model_version,
          details, score_ge := h.1, score_le := h.2 }
    else .error .LibraryError
  | _ => .error .LibraryError

/-- Serialize to a flat dict for Redis XADD. -/
def Alert.to_stream_dict (printer : Printer U T) (alert : Alert U T) : Except PyExc StreamDict := do
  let details ← printer.model_dump_json "details" alert.details
  return (((((((Dict.empty.set "alert_id" (printer.str_uuid alert.alert_id)).set "device_id"
    (printer.str_uuid alert.device_id)).set "alert_type" alert.alert_type).set "severity" alert.severity.value).set
    "timestamp" (printer.isoformat alert.timestamp)).set "anomaly_score" (printer.str_float alert.anomaly_score)).set
    "model_version" alert.model_version).set "details" details

section Validation

variable {alert_id device_id : U} {severity : AlertSeverity} {timestamp : T} {anomaly_score : PyFloat}
  {model_version : JsonValue} {details : List (String × JsonValue)}

/-- What a constructed alert was checked for. -/
theorem Alert.new_ok {alert : Alert U T}
    (h : Alert.new alert_id device_id severity timestamp anomaly_score model_version details = .ok alert) :
    (∃ version, model_version = .str version) ∧ PyFloat.le (.finite 0) anomaly_score = true ∧
      PyFloat.le anomaly_score (.finite 1) = true ∧ alert.details = details := by
  unfold Alert.new at h
  split at h
  · split at h
    · rename_i version hscore
      cases h
      exact ⟨⟨version, rfl⟩, hscore.1, hscore.2, rfl⟩
    · cases h
  · cases h

/-- What a constructed alert is about. -/
theorem Alert.new_fields {alert : Alert U T}
    (h : Alert.new alert_id device_id severity timestamp anomaly_score model_version details = .ok alert) :
    alert.device_id = device_id ∧ alert.severity = severity ∧ alert.anomaly_score = anomaly_score := by
  unfold Alert.new at h
  split at h
  · split at h
    · cases h
      exact ⟨rfl, rfl, rfl⟩
    · cases h
  · cases h

theorem Alert.new_of_valid {version : String} (hge : PyFloat.le (.finite 0) anomaly_score = true)
    (hle : PyFloat.le anomaly_score (.finite 1) = true) :
    ∃ alert : Alert U T, alert.details = details ∧
      Alert.new alert_id device_id severity timestamp anomaly_score (.str version) details = .ok alert := by
  simp only [Alert.new, hge, hle, and_self, dite_true]
  exact ⟨_, rfl, rfl⟩

/-- An alert serializes if its details do. -/
theorem Alert.to_stream_dict_ok_iff {printer : Printer U T} {alert : Alert U T} :
    (∃ data, alert.to_stream_dict printer = .ok data) ↔
      ∃ text, printer.model_dump_json "details" alert.details = .ok text := by
  unfold Alert.to_stream_dict
  simp only [Except.bind_ok_iff]
  constructor
  · rintro ⟨_, text, htext, _⟩
    exact ⟨text, htext⟩
  · rintro ⟨text, htext⟩
    exact ⟨_, text, htext, rfl⟩

end Validation

end gateway.alert
