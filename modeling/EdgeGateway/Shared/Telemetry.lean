import EdgeGateway.Library.Dict
import EdgeGateway.Library.JsonValue
import EdgeGateway.Library.Raising

namespace gateway.telemetry

/-- The texts of a stream entry. -/
abbrev StreamDict := Dict String String

/-- A single telemetry reading from an IoT device, with UUIDs `U` and datetimes `T`. -/
structure TelemetryReading (U T : Type) where
  device_id : U
  device_type : String
  timestamp : T
  payload : List (String × JsonValue)
  metadata : List (String × JsonValue)

/-- What the standard library and Pydantic make of the texts. -/
structure Codec (U T : Type) where
  fromisoformat : String → Except PyExc T
  loads : String → Except PyExc JsonValue
  /-- The validation of a `UUID` field. -/
  uuid : String → Except PyExc U

variable {U T : Type}

/-- `data[key]`. -/
def field (data : StreamDict) (key : String) : Except PyExc String :=
  match data.get? key with
  | some text => .ok text
  | none => .error .KeyError

/-- The validation of a `dict` field. -/
def dict_field : JsonValue → Except PyExc (List (String × JsonValue))
  | .dict items => .ok items
  | _ => .error .LibraryError

/-- Deserialize from a Redis Stream entry. -/
def from_stream_dict (codec : Codec U T) (data : StreamDict) : Except PyExc (TelemetryReading U T) := do
  let device_id ← field data "device_id"
  let device_type ← field data "device_type"
  let timestamp ← codec.fromisoformat (← field data "timestamp")
  let payload ← (← codec.loads (← field data "payload")).getItem "payload"
  let metadata ← (← codec.loads (← field data "metadata")).getItem "metadata"
  return {
    device_id := ← codec.uuid device_id
    device_type
    timestamp
    payload := ← dict_field payload
    metadata := ← dict_field metadata }

/-- Every text of the entry is read, whatever order they are read in. -/
theorem from_stream_dict_ok_iff {codec : Codec U T} {data : StreamDict} {reading : TelemetryReading U T} :
    from_stream_dict codec data = .ok reading ↔
      (field data "device_id" >>= codec.uuid) = .ok reading.device_id ∧
      field data "device_type" = .ok reading.device_type ∧
      (field data "timestamp" >>= codec.fromisoformat) = .ok reading.timestamp ∧
      (field data "payload" >>= codec.loads >>= fun v => v.getItem "payload" >>= dict_field) = .ok reading.payload ∧
      (field data "metadata" >>= codec.loads >>= fun v => v.getItem "metadata" >>= dict_field) = .ok reading.metadata := by
  simp only [from_stream_dict, Except.bind_ok_iff]
  constructor
  · rintro ⟨id, hid, device_type, htype, time, htime, timestamp, hparsed, payload_text, hpayload_text, payload_json,
      hpayload_json, payload, hpayload, metadata_text, hmetadata_text, metadata_json, hmetadata_json, metadata, hmetadata,
      device_id, hdevice_id, payload_dict, hpayload_dict, metadata_dict, hmetadata_dict, hreading⟩
    cases hreading
    exact ⟨⟨id, hid, hdevice_id⟩, htype, ⟨time, htime, hparsed⟩,
      ⟨payload_json, ⟨payload_text, hpayload_text, hpayload_json⟩, payload, hpayload, hpayload_dict⟩,
      ⟨metadata_json, ⟨metadata_text, hmetadata_text, hmetadata_json⟩, metadata, hmetadata, hmetadata_dict⟩⟩
  · rintro ⟨⟨id, hid, hdevice_id⟩, htype, ⟨time, htime, hparsed⟩,
      ⟨payload_json, ⟨payload_text, hpayload_text, hpayload_json⟩, payload, hpayload, hpayload_dict⟩,
      ⟨metadata_json, ⟨metadata_text, hmetadata_text, hmetadata_json⟩, metadata, hmetadata, hmetadata_dict⟩⟩
    exact ⟨id, hid, _, htype, time, htime, _, hparsed, payload_text, hpayload_text, payload_json, hpayload_json, payload,
      hpayload, metadata_text, hmetadata_text, metadata_json, hmetadata_json, metadata, hmetadata, _, hdevice_id, _,
      hpayload_dict, _, hmetadata_dict, rfl⟩

/-- What `str`, `isoformat` and Pydantic print. -/
structure Printer (U T : Type) where
  str_uuid : U → String
  isoformat : T → String
  str_float : PyFloat → String
  /-- `model_dump_json(include={field})`. -/
  model_dump_json : String → List (String × JsonValue) → Except PyExc String

/-- A stream entry of a well-formed reading. -/
def sample_data : StreamDict :=
  ((((Dict.empty.set "device_id" "0f8fad5b-d9cb-469f-a165-70867728950e").set "device_type" "sensor").set
    "timestamp" "2025-01-01T00:00:00").set "payload" "\x7b\"payload\":\x7b\"level\":1\x7d\x7d").set
    "metadata" "\x7b\"metadata\":\x7b\x7d\x7d"

/-- What the libraries make of the texts of `sample_data`, UUIDs and datetimes being
written as texts. -/
def sample_codec : Codec String String where
  fromisoformat text := if text = "2025-01-01T00:00:00" then .ok text else .error .ValueError
  loads text :=
    if text = "\x7b\"payload\":\x7b\"level\":1\x7d\x7d" then .ok (.dict [("payload", .dict [("level", .int 1)])])
    else if text = "\x7b\"metadata\":\x7b\x7d\x7d" then .ok (.dict [("metadata", .dict [])])
    else .error .ValueError
  uuid text := if text = "0f8fad5b-d9cb-469f-a165-70867728950e" then .ok text else .error .LibraryError

end gateway.telemetry
