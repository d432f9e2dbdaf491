import EdgeGateway.Shared.Telemetry.StreamEncoding

open JsonText

namespace gateway.data_ingestion

open telemetry

/-- An entry of raw_telemetry, with the reading that it encodes. -/
structure Entry (w : Writer) where
  reading : IncomingReading
  data : StreamDict
  encodes : reading.to_stream_dict w = .ok data

/-- What Redis makes of an XADD: the entry can be there without an answer. -/
inductive StreamAdd where
  | added (stream_id : String)
  | unanswered
  | failed
  deriving DecidableEq

/-- The entry that a message led to, and what its handler returned. -/
structure Handled (w : Writer) (α : Type) where
  entry : Option (Entry w)
  result : α

/-- Publish a reading to the raw_telemetry stream. -/
def process (w : Writer) (stream_add : StreamAdd) (reading : IncomingReading) : Handled w (Except PyExc String) :=
  match h : reading.to_stream_dict w with
  | .error e => { entry := none, result := .error e }
  | .ok data =>
    match stream_add with
    | .added stream_id => { entry := some ⟨reading, data, h⟩, result := .ok stream_id }
    | .unanswered => { entry := some ⟨reading, data, h⟩, result := .error .LibraryError }
    | .failed => { entry := none, result := .error .LibraryError }

/-- A reading has one entry. -/
theorem entry_eq_iff {w : Writer} {reading : IncomingReading} {data : StreamDict} (hdata : reading.to_stream_dict w = .ok data)
    {entry : Entry w} : ⟨reading, data, hdata⟩ = entry ↔ entry.reading = reading := by
  obtain ⟨reading', data', hencodes⟩ := entry
  simp only [Entry.mk.injEq]
  constructor
  · rintro ⟨rfl, _⟩
    rfl
  · rintro rfl
    rw [hdata] at hencodes
    cases hencodes
    exact ⟨rfl, rfl⟩

theorem process_entry_iff {w : Writer} {stream_add : StreamAdd} {reading : IncomingReading} {entry : Entry w} :
    (process w stream_add reading).entry = some entry ↔ entry.reading = reading ∧ stream_add ≠ .failed := by
  unfold process
  split
  · rename_i e herror
    simp only [reduceCtorEq, false_iff]
    rintro ⟨rfl, _⟩
    have hencodes := entry.encodes
    rw [herror] at hencodes
    cases hencodes
  · rename_i data hdata
    cases stream_add with
    | added stream_id => simp [entry_eq_iff]
    | unanswered => simp [entry_eq_iff]
    | failed => simp

/-- A request to `POST /telemetry`. -/
structure HttpRequest where
  content_type : Option String
  body : List UInt8

/-- The libraries that the entry paths decode and validate with. -/
structure Libraries extends Pydantic where
  /-- `json.loads` -/
  loads : String → Except PyExc Decoded
  /-- `cbor2.loads` -/
  cbor_loads : List UInt8 → Except PyExc Decoded
  /-- What FastAPI takes as the body of a request. -/
  request_body : HttpRequest → Except PyExc Decoded

/-- `raw.decode("utf-8")`. -/
def decode_utf8 (raw : List UInt8) : Except PyExc String :=
  match decodeUtf8 raw with
  | some text => .ok text
  | none => .error .ValueError

/-- A decoded value as keyword arguments, which only a dict can be. -/
def as_dict (v : Decoded) : Except PyExc PyDict :=
  match v.dict? with
  | some d => .ok d
  | none => .error .TypeError

theorem as_dict_ok_iff {v : Decoded} {d : PyDict} : as_dict v = .ok d ↔ v = d.value := by
  rw [← Decoded.dict?_eq_some_iff, as_dict]
  cases v.dict? <;> simp

section Ingest

/-- An answer to `POST /telemetry`: 202, 422 or 500. -/
inductive HttpResponse where
  | accepted (stream_id device_id : String)
  | unprocessable
  | failed (e : PyExc)

/-- The reading that FastAPI passes to the route. -/
def http_reading (lib : Libraries) (utcnow : PyDatetime) (request : HttpRequest) : Except PyExc IncomingReading := do
  let data ← as_dict (← lib.request_body request)
  IncomingReading.validate lib.toPydantic utcnow data

/-- Receive a telemetry reading via HTTP POST and publish to Redis Stream. -/
def ingest_telemetry (lib : Libraries) (utcnow : PyDatetime) (stream_add : StreamAdd) (request : HttpRequest) :
    Handled lib.writer HttpResponse :=
  match http_reading lib utcnow request with
  | .error _ => { entry := none, result := .unprocessable }
  | .ok reading =>
    let handled := process lib.writer stream_add reading
    match handled.result with
    | .ok stream_id => { entry := handled.entry, result := .accepted stream_id reading.device_id.str }
    | .error e => { entry := handled.entry, result := .failed e }

end Ingest

section MQTTSubscriber

/-- The second part of a topic of three or more, when it is not empty. -/
def topic_device_id (topic : String) : Option String :=
  match topic.splitOn "/" with
  | _ :: device_id :: _ :: _ => if device_id = "" then none else some device_id
  | _ => none

def known_keys : List String := ["device_id", "device_type", "timestamp", "metadata"]

/-- The items of a message that has no nested payload. -/
def sensor_data (data : PyDict) : PyDict :=
  data.filter fun key =>
    match key.str? with
    | some text => !known_keys.contains text
    | none => true

/-- The defaults that the subscriber fills in. -/
def with_defaults (utcnow : PyDatetime) (topic : String) (data : PyDict) : PyDict :=
  let data :=
    match topic_device_id topic with
    | some device_id => data.setdefault "device_id" (.str device_id)
    | none => data
  let data := data.setdefault "device_type" (.str "unknown")
  let data := data.setdefault "timestamp" (.str utcnow.isoformat)
  data.setdefault "payload" (sensor_data data).value

/-- What the subscriber fills in for a field that is not given. -/
def default_field (utcnow : PyDatetime) (topic : String) (data : PyDict) (key : String) : Option Decoded :=
  if key = "device_id" then (topic_device_id topic).map Decoded.str
  else if key = "device_type" then some (.str "unknown")
  else if key = "timestamp" then some (.str utcnow.isoformat)
  else if key = "payload" then some (sensor_data data).value
  else none

theorem sensor_data_setdefault {key : String} (hkey : key ∈ known_keys) (data : PyDict) (value : Decoded) :
    sensor_data (data.setdefault key value) = sensor_data data := by
  cases hget : data.get? key with
  | some found => rw [PyDict.setdefault_eq_self hget]
  | none =>
    apply Subtype.ext
    simp [sensor_data, PyDict.filter, PyDict.setdefault_items hget, hkey]

/-- A message has no sensor data when every key of it is a known one. -/
theorem sensor_data_eq_empty_iff {data : PyDict} :
    sensor_data data = PyDict.empty ↔ ∀ item ∈ data.1, ∃ text ∈ known_keys, item.1.str? = some text := by
  rw [Subtype.ext_iff, sensor_data, PyDict.filter, PyDict.empty, List.filter_eq_nil_iff]
  apply forall₂_congr
  intro item _
  cases hkey : item.1.str? with
  | none => simp
  | some text => simp

theorem get?_with_defaults (utcnow : PyDatetime) (topic : String) (data : PyDict) (key : String) :
    (with_defaults utcnow topic data).get? key = (data.get? key).or (default_field utcnow topic data key) := by
  have hid : "device_id" ∈ known_keys := by decide
  have htype : "device_type" ∈ known_keys := by decide
  have htime : "timestamp" ∈ known_keys := by decide
  unfold with_defaults default_field
  cases htopic : topic_device_id topic with
  | none =>
    simp only [PyDict.get?_setdefault, sensor_data_setdefault htype, sensor_data_setdefault htime, String.reduceEq, if_false]
    split_ifs <;> simp_all
  | some device_id =>
    simp only [PyDict.get?_setdefault, sensor_data_setdefault hid, sensor_data_setdefault htype,
      sensor_data_setdefault htime, String.reduceEq, if_false]
    split_ifs <;> simp_all

theorem keywords_with_defaults (utcnow : PyDatetime) (topic : String) (data : PyDict) :
    (with_defaults utcnow topic data).keywords = data.keywords := by
  unfold with_defaults
  cases topic_device_id topic <;> simp

def mqtt_reading (lib : Libraries) (utcnow : PyDatetime) (topic : String) (payload : List UInt8) :
    Except PyExc IncomingReading := do
  let text ← decode_utf8 payload
  let data ← as_dict (← lib.loads text)
  IncomingReading.init lib.toPydantic utcnow (with_defaults utcnow topic data)

/-- Parse an MQTT message and push it through the ingestion pipeline. Whatever is
raised is logged. -/
def _handle_message (lib : Libraries) (utcnow : PyDatetime) (stream_add : StreamAdd) (topic : String)
    (payload : List UInt8) : Handled lib.writer Unit :=
  match mqtt_reading lib utcnow topic payload with
  | .error _ => { entry := none, result := () }
  | .ok reading => { entry := (process lib.writer stream_add reading).entry, result := () }

end MQTTSubscriber

section TelemetryResource

/-- An answer of the CoAP resource: CREATED, or BAD_REQUEST with "Empty payload" or the
text of an exception. -/
inductive CoapResponse where
  | created
  | empty_payload
  | bad_request (e : PyExc)

def CONTENT_FORMAT_CBOR : ℕ := 60

/-- The decoder of a content format. -/
def coap_decode (lib : Libraries) (content_format : Option ℕ) (payload : List UInt8) : Except PyExc Decoded := do
  if content_format = some CONTENT_FORMAT_CBOR then lib.cbor_loads payload
  else lib.loads (← decode_utf8 payload)

def coap_reading (lib : Libraries) (utcnow : PyDatetime) (content_format : Option ℕ) (payload : List UInt8) :
    Except PyExc IncomingReading := do
  let data ← as_dict (← coap_decode lib content_format payload)
  IncomingReading.init lib.toPydantic utcnow data

/-- Handle POST requests containing telemetry data. -/
def render_post (lib : Libraries) (utcnow : PyDatetime) (stream_add : StreamAdd) (content_format : Option ℕ)
    (payload : List UInt8) : Handled lib.writer CoapResponse :=
  if payload = [] then { entry := none, result := .empty_payload }
  else
    match coap_reading lib utcnow content_format payload with
    | .error e => { entry := none, result := .bad_request e }
    | .ok reading =>
      let handled := process lib.writer stream_add reading
      match handled.result with
      | .ok _ => { entry := handled.entry, result := .created }
      | .error e => { entry := handled.entry, result := .bad_request e }

end TelemetryResource

end gateway.data_ingestion
