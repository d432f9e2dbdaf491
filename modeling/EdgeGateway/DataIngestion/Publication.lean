import EdgeGateway.DataIngestion.IngestionService
import EdgeGateway.DataIngestion.TelemetryValidator

open JsonText

namespace gateway.data_ingestion

open telemetry

/-- A message of one of the protocols. -/
inductive Message where
  | http (request : HttpRequest)
  | mqtt (topic : String) (payload : List UInt8)
  | coap (content_format : Option ℕ) (payload : List UInt8)

namespace Message

variable (lib : Libraries)

/-- What the decoder of the protocol makes of the message. -/
def decode : Message → Except PyExc Decoded
  | .http request => lib.request_body request
  | .mqtt _ payload => do lib.loads (← decode_utf8 payload)
  | .coap content_format payload => if payload = [] then .error .ValueError else coap_decode lib content_format payload

/-- The dict can be passed on as the protocol does it. -/
def passes (data : PyDict) : Message → Bool
  | .http _ => true
  | .mqtt _ _ | .coap _ _ => data.keywords

/-- The value of a field, given or filled in. -/
def field (utcnow : PyDatetime) (data : PyDict) (message : Message) (key : String) : Option Decoded :=
  match message with
  | .mqtt topic _ => (data.get? key).or (default_field utcnow topic data key)
  | .http _ | .coap _ _ => data.get? key

/-- The reading that the path of the message builds, if it builds one. -/
def reading (utcnow : PyDatetime) : Message → Except PyExc IncomingReading
  | .http request => http_reading lib utcnow request
  | .mqtt topic payload => mqtt_reading lib utcnow topic payload
  | .coap content_format payload =>
    if payload = [] then .error .ValueError else coap_reading lib utcnow content_format payload

variable {lib} {utcnow : PyDatetime} {reading : IncomingReading}

theorem decode_bind_iff {x : Except PyExc Decoded} {f : PyDict → Except PyExc IncomingReading} :
    (x >>= fun v => as_dict v >>= f) = .ok reading ↔ ∃ data : PyDict, x = .ok data.value ∧ f data = .ok reading := by
  constructor
  · intro h
    obtain ⟨v, hx, h⟩ := Except.bind_ok_iff.mp h
    obtain ⟨data, hdict, h⟩ := Except.bind_ok_iff.mp h
    obtain rfl := as_dict_ok_iff.mp hdict
    exact ⟨data, hx, h⟩
  · rintro ⟨data, hx, h⟩
    exact Except.bind_ok_iff.mpr ⟨data.value, hx, Except.bind_ok_iff.mpr ⟨data, as_dict_ok_iff.mpr rfl, h⟩⟩

/-- A reading has the fields of the dict that its message decodes to. -/
theorem reading_ok_iff (message : Message) : message.reading lib utcnow = .ok reading ↔ ∃ data : PyDict,
    message.decode lib = .ok data.value ∧ message.passes data = true ∧
      IncomingReading.HasFields lib.toPydantic utcnow (message.field utcnow data) reading := by
  cases message with
  | http request =>
    simp only [Message.reading, http_reading, decode_bind_iff, IncomingReading.validate_ok_iff, decode, passes, true_and]
    rfl
  | mqtt topic payload =>
    have hfield : ∀ data : PyDict, (with_defaults utcnow topic data).get? = (Message.mqtt topic payload).field utcnow data := by
      intro data
      funext key
      exact get?_with_defaults utcnow topic data key
    have hreading : mqtt_reading lib utcnow topic payload = (decode_utf8 payload >>= lib.loads) >>= fun v =>
        as_dict v >>= fun data => IncomingReading.init lib.toPydantic utcnow (with_defaults utcnow topic data) := by
      unfold mqtt_reading
      cases decode_utf8 payload <;> rfl
    simp only [Message.reading, hreading, decode_bind_iff, IncomingReading.init_ok_iff, keywords_with_defaults, hfield, decode,
      passes]
  | coap content_format payload =>
    by_cases hempty : payload = []
    · simp [Message.reading, decode, hempty]
    · simp only [Message.reading, if_neg hempty, coap_reading, decode_bind_iff, IncomingReading.init_ok_iff, decode, passes]
      rfl

end Message

/-- A message, the clock when it comes in, and its publication: the clock then, and
what becomes of the XADD. -/
structure Arrival where
  message : Message
  utcnow : PyDatetime
  published : ℤ
  stream_add : StreamAdd

namespace Arrival

variable (lib : Libraries)

/-- The entry that the arrival leads to. -/
def entry (arrival : Arrival) : Option (Entry lib.writer) :=
  match arrival.message with
  | .http request => (ingest_telemetry lib arrival.utcnow arrival.stream_add request).entry
  | .mqtt topic payload => (_handle_message lib arrival.utcnow arrival.stream_add topic payload).entry
  | .coap content_format payload => (render_post lib arrival.utcnow arrival.stream_add content_format payload).entry

variable {lib} {arrival : Arrival}

/-- Whatever the protocol, the entry is that of the reading. -/
theorem entry_eq_some_iff {entry : Entry lib.writer} : arrival.entry lib = some entry ↔
    arrival.message.reading lib arrival.utcnow = .ok entry.reading ∧ arrival.stream_add ≠ .failed := by
  obtain ⟨message, utcnow, published, stream_add⟩ := arrival
  cases message with
  | http request =>
    simp only [Arrival.entry, ingest_telemetry, Message.reading]
    cases http_reading lib utcnow request with
    | error e => simp
    | ok reading =>
      simp only [Except.ok.injEq, eq_comm (a := reading), ← process_entry_iff]
      cases (process lib.writer stream_add reading).result <;> rfl
  | mqtt topic payload =>
    simp only [Arrival.entry, _handle_message, Message.reading]
    cases mqtt_reading lib utcnow topic payload with
    | error e => simp
    | ok reading => simp only [Except.ok.injEq, eq_comm (a := reading), ← process_entry_iff]
  | coap content_format payload =>
    by_cases hempty : payload = []
    · simp [Arrival.entry, render_post, Message.reading, hempty]
    · simp only [Arrival.entry, render_post, if_neg hempty, Message.reading]
      cases coap_reading lib utcnow content_format payload with
      | error e => simp
      | ok reading =>
        simp only [Except.ok.injEq, eq_comm (a := reading), ← process_entry_iff]
        cases (process lib.writer stream_add reading).result <;> rfl

variable (lib arrival) in
/-- The message is decoded to `data`, every field of it is valid and can be written as
JSON, and Redis takes the entry. -/
structure Accepted (data : PyDict) : Prop where
  decoded : arrival.message.decode lib = .ok data.value
  passes : arrival.message.passes data = true
  device_id : ∃ u, required lib.uuid (arrival.message.field arrival.utcnow data "device_id") = .ok u
  device_type : ∃ s, required lib.str (arrival.message.field arrival.utcnow data "device_type") = .ok s
  timestamp : ∃ t, defaulted lib.datetime arrival.utcnow (arrival.message.field arrival.utcnow data "timestamp") = .ok t
  payload : ∃ d, required dict_value (arrival.message.field arrival.utcnow data "payload") = .ok d ∧
    Writer.takes lib.writer.max_depth (.dict d.1) = true
  metadata : ∃ d, defaulted dict_value .empty (arrival.message.field arrival.utcnow data "metadata") = .ok d ∧
    Writer.takes lib.writer.max_depth (.dict d.1) = true
  stream_add : arrival.stream_add ≠ .failed

variable (lib arrival) in
/-- The time that the message gives, or the clock, is close to that of the publication,
and the payload is not empty. -/
structure Sound (data : PyDict) : Prop where
  timestamp : ∀ t, defaulted lib.datetime arrival.utcnow (arrival.message.field arrival.utcnow data "timestamp") = .ok t →
    t.instant ≤ arrival.published + five_minutes ∧ arrival.published - twenty_four_hours ≤ t.instant
  payload : arrival.message.field arrival.utcnow data "payload" ≠ some PyDict.empty.value

variable (lib arrival) in
/-- The fields of the reading are those of `data`, with what is filled in. -/
abbrev Builds (data : PyDict) (reading : IncomingReading) : Prop :=
  IncomingReading.HasFields lib.toPydantic arrival.utcnow (arrival.message.field arrival.utcnow data) reading

/-- An entry is that of a message which is accepted. -/
theorem accepted_of_entry {entry : Entry lib.writer} (h : arrival.entry lib = some entry) : ∃ data,
    Accepted lib arrival data ∧ Builds lib arrival data entry.reading := by
  obtain ⟨hreading, hstream_add⟩ := entry_eq_some_iff.mp h
  obtain ⟨data, hdecoded, hpasses, hfields⟩ := (arrival.message.reading_ok_iff).mp hreading
  obtain ⟨hpayload, hmetadata⟩ := exists_to_stream_dict_iff.mp ⟨entry.data, entry.encodes⟩
  exact ⟨data, ⟨hdecoded, hpasses, ⟨_, hfields.device_id⟩, ⟨_, hfields.device_type⟩, ⟨_, hfields.timestamp⟩,
    ⟨_, hfields.payload, hpayload⟩, ⟨_, hfields.metadata, hmetadata⟩, hstream_add⟩, hfields⟩

/-- A message that is accepted leads to an entry. -/
theorem Accepted.entry {data : PyDict} (h : Accepted lib arrival data) : ∃ entry : Entry lib.writer,
    arrival.entry lib = some entry ∧ Builds lib arrival data entry.reading := by
  obtain ⟨device_id, hdevice_id⟩ := h.device_id
  obtain ⟨device_type, hdevice_type⟩ := h.device_type
  obtain ⟨timestamp, htimestamp⟩ := h.timestamp
  obtain ⟨payload, hpayload, hpayload_takes⟩ := h.payload
  obtain ⟨metadata, hmetadata, hmetadata_takes⟩ := h.metadata
  let reading : IncomingReading := { device_id, device_type, timestamp, payload, metadata }
  have hfields : Builds lib arrival data reading := ⟨hdevice_id, hdevice_type, htimestamp, hpayload, hmetadata⟩
  have hreading := (arrival.message.reading_ok_iff).mpr ⟨data, h.decoded, h.passes, hfields⟩
  obtain ⟨stream_data, hstream_data⟩ : ∃ stream_data, reading.to_stream_dict lib.writer = .ok stream_data :=
    exists_to_stream_dict_iff.mpr ⟨hpayload_takes, hmetadata_takes⟩
  exact ⟨⟨reading, stream_data, hstream_data⟩, entry_eq_some_iff.mpr ⟨hreading, h.stream_add⟩, hfields⟩

/-- The payload of the reading is empty when that of the message is. -/
theorem payload_eq_nil_iff {data : PyDict} {reading : IncomingReading} (h : Builds lib arrival data reading) :
    reading.payload.1 = [] ↔ arrival.message.field arrival.utcnow data "payload" = some PyDict.empty.value := by
  have hpayload := h.payload
  cases hfield : arrival.message.field arrival.utcnow data "payload" with
  | none =>
    rw [hfield] at hpayload
    cases hpayload
  | some v =>
    rw [hfield] at hpayload
    obtain rfl := dict_value_ok_iff.mp hpayload
    constructor
    · intro hnil
      have heq : reading.payload = PyDict.empty := Subtype.ext hnil
      rw [heq]
    · intro heq
      have hdict : reading.payload.value.dict? = PyDict.empty.value.dict? := by rw [Option.some.inj heq]
      rw [PyDict.dict?_value, PyDict.dict?_value, Option.some.injEq] at hdict
      rw [hdict]
      rfl

/-- A reading keeps the rules when its message is sound. -/
theorem rules_iff {data : PyDict} {reading : IncomingReading} (h : Builds lib arrival data reading) :
    Rules arrival.published reading ↔ Sound lib arrival data := by
  have hempty := payload_eq_nil_iff h
  constructor
  · intro hrules
    refine ⟨?_, fun heq => hrules.payload (hempty.mpr heq)⟩
    intro t ht
    obtain rfl : reading.timestamp = t := by
      have htimestamp := h.timestamp
      rw [ht] at htimestamp
      exact (Except.ok.inj htimestamp).symm
    exact ⟨hrules.not_future, hrules.not_old⟩
  · intro hsound
    obtain ⟨hnot_future, hnot_old⟩ := hsound.timestamp _ h.timestamp
    exact ⟨hnot_future, hnot_old, fun hnil => hsound.payload (hempty.mp hnil), device_id_rule reading⟩

/-- The entry of a message keeps the rules exactly when the message, if it is accepted,
is sound. -/
theorem valid_entry_iff (lib : Libraries) (arrival : Arrival) :
    (∀ entry, arrival.entry lib = some entry → Rules arrival.published entry.reading) ↔
      ∀ data, Accepted lib arrival data → Sound lib arrival data := by
  constructor
  · intro hall data haccepted
    obtain ⟨entry, hentry, hfields⟩ := haccepted.entry
    exact (rules_iff hfields).mp (hall entry hentry)
  · intro hall entry hentry
    obtain ⟨data, haccepted, hfields⟩ := accepted_of_entry hentry
    exact (rules_iff hfields).mpr (hall data haccepted)

section EmptyPayload

/-- A message of a sensor that has nothing to tell. -/
def sample_data : PyDict :=
  ((PyDict.empty.setdefault "device_id" (.str "00000000-0000-0000-0000-000000000007")).setdefault
    "device_type" (.str "sensor")).setdefault "payload" PyDict.empty.value

def sample_cbor : List UInt8 :=
  [0xa3, 0x69] ++ "device_id".toUTF8.toList ++ [0x78, 36] ++ "00000000-0000-0000-0000-000000000007".toUTF8.toList ++
    [0x6b] ++ "device_type".toUTF8.toList ++ [0x66] ++ "sensor".toUTF8.toList ++ [0x67] ++ "payload".toUTF8.toList ++ [0xa0]

/-- Libraries that decode this message, and validate texts. -/
def sample_libraries : Libraries where
  uuid v :=
    match v.1.str?.bind Uuid.parse with
    | some u => .ok u
    | none => .error .LibraryError
  str v :=
    match v.1.str? with
    | some text => .ok text
    | none => .error .LibraryError
  datetime v :=
    match v.1.str?.bind PyDatetime.fromisoformat with
    | some t => .ok t
    | none => .error .LibraryError
  writer := sample_writer
  loads _ := .error .ValueError
  cbor_loads raw := if raw = sample_cbor then .ok sample_data.value else .error .ValueError
  request_body _ := .error .ValueError

theorem sample_fields_valid :
    PyDatetime.Valid { year := 2025, month := 1, day := 1, time := ⟨12, 0, 0, 0⟩, utcoffset := none } := by
  decide

def sample_time : PyDatetime :=
  ⟨{ year := 2025, month := 1, day := 1, time := ⟨12, 0, 0, 0⟩, utcoffset := none }, sample_fields_valid⟩

def sample_arrival : Arrival where
  message := .coap (some CONTENT_FORMAT_CBOR) sample_cbor
  utcnow := sample_time
  published := sample_time.wall
  stream_add := .added "1735732800000-0"

theorem sample_accepted : Accepted sample_libraries sample_arrival sample_data := by
  have hid : sample_data.get? "device_id" = some (.str "00000000-0000-0000-0000-000000000007") := by simp [sample_data]
  have htype : sample_data.get? "device_type" = some (.str "sensor") := by simp [sample_data]
  have htime : sample_data.get? "timestamp" = none := by simp [sample_data]
  have hpayload : sample_data.get? "payload" = some PyDict.empty.value := by simp [sample_data]
  have hmetadata : sample_data.get? "metadata" = none := by simp [sample_data]
  have hcbor : sample_cbor ≠ [] := by simp [sample_cbor]
  refine ⟨?_, ?_, ⟨7, ?_⟩, ⟨"sensor", ?_⟩, ⟨sample_time, ?_⟩, ⟨.empty, ?_, rfl⟩, ⟨.empty, ?_, rfl⟩, by simp [sample_arrival]⟩
  · simp [sample_arrival, Message.decode, hcbor, coap_decode, sample_libraries]
  · simp [sample_arrival, Message.passes, sample_data]
    rfl
  · have hparse : Uuid.parse "00000000-0000-0000-0000-000000000007" = some 7 := Uuid.parse_str 7
    simp only [sample_arrival, Message.field, hid, required, sample_libraries]
    simp [Decoded.str, hparse]
  · simp [sample_arrival, Message.field, htype, required, sample_libraries, Decoded.str]
  · simp [sample_arrival, Message.field, htime, defaulted]
  · simp only [sample_arrival, Message.field, hpayload, required]
    rfl
  · simp [sample_arrival, Message.field, hmetadata, defaulted]

/-- A reading without a payload is published. -/
theorem empty_payload_published :
    ¬ ∀ arrival entry, Arrival.entry sample_libraries arrival = some entry → Rules arrival.published entry.reading := by
  intro hall
  obtain ⟨entry, hentry, hfields⟩ := sample_accepted.entry
  have hsound := (rules_iff hfields).mp (hall sample_arrival entry hentry)
  apply hsound.payload
  simp [sample_arrival, Message.field, sample_data]

end EmptyPayload

end Arrival

end gateway.data_ingestion
