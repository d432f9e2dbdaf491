import EdgeGateway.Library.JsonText.ReadBack
import EdgeGateway.Library.PyDatetime
import EdgeGateway.Library.Uuid
import EdgeGateway.Shared.Telemetry
import EdgeGateway.Library.Raising

open JsonText

namespace gateway.telemetry

/-- A reading as an ingestion path builds it, its dicts holding whatever JSON or CBOR
can decode to. -/
structure IncomingReading where
  device_id : Uuid
  device_type : String
  timestamp : PyDatetime
  payload : PyDict
  metadata : PyDict

/-- `model_dump_json(include={field})`. -/
def model_dump_json (w : Writer) (field : String) (d : PyDict) : Except PyExc String :=
  match w.write (w.max_depth + 1) (.dict [(.str field, .dict d.1)]) with
  | some text => .ok (String.ofList text)
  | none => .error .LibraryError

/-- Serialize to flat dict for Redis XADD. -/
def IncomingReading.to_stream_dict (w : Writer) (reading : IncomingReading) : Except PyExc StreamDict := do
  let payload ← model_dump_json w "payload" reading.payload
  let metadata ← model_dump_json w "metadata" reading.metadata
  return ((((Dict.empty.set "device_id" reading.device_id.str).set "device_type" reading.device_type).set
    "timestamp" reading.timestamp.isoformat).set "payload" payload).set "metadata" metadata

/-- What `from_stream_dict` reads the texts with. -/
def python_codec : Codec Uuid PyDatetime where
  fromisoformat text :=
    match PyDatetime.fromisoformat text with
    | some t => .ok t
    | none => .error .ValueError
  loads text :=
    match loads text with
    | some value => .ok value
    | none => .error .ValueError
  uuid text :=
    match Uuid.parse text with
    | some u => .ok u
    | none => .error .LibraryError

/-- The readings agree in every field. -/
structure SameReading (reading : IncomingReading) (rebuilt : TelemetryReading Uuid PyDatetime) : Prop where
  device_id : rebuilt.device_id = reading.device_id
  device_type : rebuilt.device_type = reading.device_type
  timestamp : rebuilt.timestamp = reading.timestamp
  payload : PyValue.ofJsonDict rebuilt.payload = reading.payload.1
  metadata : PyValue.ofJsonDict rebuilt.metadata = reading.metadata.1

/-- `to_stream_dict` raises, or its dict is read back as the same reading. -/
def RoundTrips (w : Writer) (reading : IncomingReading) : Prop :=
  ∀ data, reading.to_stream_dict w = .ok data →
    ∃ rebuilt, from_stream_dict python_codec data = .ok rebuilt ∧ SameReading reading rebuilt

/-- JSON can tell the dict: its keys are texts, its values are of JSON types, its
floats finite, and its integers not too long to be read. -/
def Representable (d : PyDict) : Prop :=
  ∃ json, PyValue.ofJsonDict json = d.1 ∧ exactDict json = true

/-- A dict that `from_stream_dict` reads from the text of a field. -/
def read_field (text field : String) : Except PyExc (List (String × JsonValue)) := do
  dict_field (← (← python_codec.loads text).getItem field)

section Fields

variable {w : Writer} {field : String} {d : PyDict} {text : String}

theorem model_dump_json_ok (h : model_dump_json w field d = .ok text) :
    w.write (w.max_depth + 1) (.dict [(.str field, .dict d.1)]) = some text.toList := by
  unfold model_dump_json at h
  split at h
  · rename_i written hwritten
    cases h
    rw [hwritten, String.toList_ofList]
  · cases h

/-- The dict of a field is printed when the writer has a text for it. -/
theorem exists_model_dump_json_iff :
    (∃ text, model_dump_json w field d = .ok text) ↔ Writer.takes w.max_depth (.dict d.1) = true := by
  have hisSome := w.isSome_write (w.max_depth + 1) (.dict [(.str field, .dict d.1)])
  have htakes : Writer.takes (w.max_depth + 1) (.dict [(.str field, .dict d.1)]) = Writer.takes w.max_depth (.dict d.1) := by
    rw [Writer.takes, Writer.takesDict, Writer.takesDict, Bool.and_true]
    exact Bool.true_and _
  rw [htakes] at hisSome
  rw [← hisSome, model_dump_json]
  cases w.write (w.max_depth + 1) (.dict [(.str field, .dict d.1)]) <;> simp

/-- `json.loads` of the text of a field that holds JSON values. -/
theorem loads_model_dump_json {json : List (String × JsonValue)} (hjson : PyValue.ofJsonDict json = d.1)
    (hfloats : (PyValue.dict d.1).AllFloats w.ReadsBack) (h : model_dump_json w field d = .ok text) :
    loads text = (reread (.dict json)).map fun value => .dict [(field, value)] := by
  have hwrite := model_dump_json_ok h
  rw [← hjson] at hfloats hwrite
  have hfield : (PyValue.ofJson (.dict [(field, .dict json)])).AllFloats w.ReadsBack := ⟨⟨trivial, hfloats⟩, trivial⟩
  have hloads := loads_write hfield hwrite
  rw [String.ofList_toList] at hloads
  rw [hloads, reread, rereadDict]
  cases reread (.dict json) with
  | none => rfl
  | some value => rfl

theorem dict_field_iff {value : JsonValue} {json : List (String × JsonValue)} :
    dict_field value = .ok json ↔ value = .dict json := by
  cases value <;> simp [dict_field]

/-- What `from_stream_dict` reads from a field is what was printed exactly when
nothing in it is lost. -/
theorem read_field_iff {json : List (String × JsonValue)} (hjson : PyValue.ofJsonDict json = d.1)
    (hfloats : (PyValue.dict d.1).AllFloats w.ReadsBack) (h : model_dump_json w field d = .ok text) :
    read_field text field = .ok json ↔ exactDict json = true := by
  have hkeys := d.2
  rw [← hjson] at hkeys
  have hexact := reread_eq_iff (.dict json) hkeys
  rw [exact] at hexact
  have hcodec : python_codec.loads text = match loads text with
      | some value => .ok value
      | none => .error .ValueError := rfl
  rw [← hexact, read_field, hcodec, loads_model_dump_json hjson hfloats h]
  cases reread (.dict json) with
  | none =>
    constructor
    · rintro ⟨⟩
    · rintro ⟨⟩
  | some value =>
    have hget : (JsonValue.dict [(field, value)]).getItem field = .ok value := by simp [JsonValue.getItem]
    simp only [Option.map_some, bind, Except.bind, hget, dict_field_iff, Option.some.injEq]

end Fields

section Entry

variable {w : Writer} {reading : IncomingReading}

theorem to_stream_dict_ok {data : StreamDict} (h : reading.to_stream_dict w = .ok data) : ∃ payload metadata,
    model_dump_json w "payload" reading.payload = .ok payload ∧
    model_dump_json w "metadata" reading.metadata = .ok metadata ∧
    data = ((((Dict.empty.set "device_id" reading.device_id.str).set "device_type" reading.device_type).set
      "timestamp" reading.timestamp.isoformat).set "payload" payload).set "metadata" metadata := by
  unfold IncomingReading.to_stream_dict at h
  cases hpayload : model_dump_json w "payload" reading.payload with
  | error e =>
    rw [hpayload] at h
    cases h
  | ok payload =>
    cases hmetadata : model_dump_json w "metadata" reading.metadata with
    | error e =>
      rw [hpayload, hmetadata] at h
      cases h
    | ok metadata =>
      rw [hpayload, hmetadata] at h
      cases h
      exact ⟨payload, metadata, rfl, rfl, rfl⟩

/-- A reading has a stream dict when the writer has a text for both of its dicts. -/
theorem exists_to_stream_dict_iff : (∃ data, reading.to_stream_dict w = .ok data) ↔
    Writer.takes w.max_depth (.dict reading.payload.1) = true ∧ Writer.takes w.max_depth (.dict reading.metadata.1) = true := by
  constructor
  · rintro ⟨data, hdata⟩
    obtain ⟨payload, metadata, hpayload, hmetadata, _⟩ := to_stream_dict_ok hdata
    exact ⟨exists_model_dump_json_iff.mp ⟨payload, hpayload⟩, exists_model_dump_json_iff.mp ⟨metadata, hmetadata⟩⟩
  · rintro ⟨hpayload, hmetadata⟩
    obtain ⟨payload, hpayload⟩ : ∃ text, model_dump_json w "payload" reading.payload = .ok text :=
      exists_model_dump_json_iff.mpr hpayload
    obtain ⟨metadata, hmetadata⟩ : ∃ text, model_dump_json w "metadata" reading.metadata = .ok text :=
      exists_model_dump_json_iff.mpr hmetadata
    rw [IncomingReading.to_stream_dict, hpayload, hmetadata]
    exact ⟨_, rfl⟩

/-- What `from_stream_dict` makes of a dict that `to_stream_dict` returned. -/
theorem from_stream_dict_iff {data : StreamDict} (h : reading.to_stream_dict w = .ok data) : ∃ payload metadata,
    model_dump_json w "payload" reading.payload = .ok payload ∧
    model_dump_json w "metadata" reading.metadata = .ok metadata ∧
    ∀ rebuilt, from_stream_dict python_codec data = .ok rebuilt ↔
      read_field payload "payload" = .ok rebuilt.payload ∧ read_field metadata "metadata" = .ok rebuilt.metadata ∧
        rebuilt.device_id = reading.device_id ∧ rebuilt.device_type = reading.device_type ∧
        rebuilt.timestamp = reading.timestamp := by
  obtain ⟨payload, metadata, hpayload, hmetadata, rfl⟩ := to_stream_dict_ok h
  refine ⟨payload, metadata, hpayload, hmetadata, fun rebuilt => ?_⟩
  let data := ((((Dict.empty.set "device_id" reading.device_id.str).set "device_type" reading.device_type).set
    "timestamp" reading.timestamp.isoformat).set "payload" payload).set "metadata" metadata
  have hdevice_id : (field data "device_id" >>= python_codec.uuid) = .ok reading.device_id := by
    simp [field, data, Dict.get?_set, bind, Except.bind, python_codec, Uuid.parse_str]
  have hdevice_type : field data "device_type" = .ok reading.device_type := by
    simp [field, data, Dict.get?_set]
  have htimestamp : (field data "timestamp" >>= python_codec.fromisoformat) = .ok reading.timestamp := by
    simp [field, data, Dict.get?_set, bind, Except.bind, python_codec, PyDatetime.fromisoformat_isoformat]
  have hread_payload : (field data "payload" >>= python_codec.loads >>= fun v => v.getItem "payload" >>= dict_field) =
      read_field payload "payload" := by
    simp only [field, data, Dict.get?_set, String.reduceEq, if_true, if_false]
    rfl
  have hread_metadata : (field data "metadata" >>= python_codec.loads >>= fun v => v.getItem "metadata" >>= dict_field) =
      read_field metadata "metadata" := by
    simp only [field, data, Dict.get?_set, if_true]
    rfl
  rw [from_stream_dict_ok_iff, hdevice_id, hdevice_type, htimestamp, hread_payload, hread_metadata]
  simp only [Except.ok.injEq]
  constructor
  · rintro ⟨hid, htype, htime, hpayload, hmetadata⟩
    exact ⟨hpayload, hmetadata, hid.symm, htype.symm, htime.symm⟩
  · rintro ⟨hpayload, hmetadata, hid, htype, htime⟩
    exact ⟨hid.symm, htype.symm, htime.symm, hpayload, hmetadata⟩

end Entry

section Readings

variable {w : Writer} {reading : IncomingReading}
  (hpayload_floats : (PyValue.dict reading.payload.1).AllFloats w.ReadsBack)
  (hmetadata_floats : (PyValue.dict reading.metadata.1).AllFloats w.ReadsBack)
include hpayload_floats hmetadata_floats

/-- A reading that is read back is one that JSON can tell. -/
theorem RoundTrips.representable (h : RoundTrips w reading) {data : StreamDict} (hdata : reading.to_stream_dict w = .ok data) :
    Representable reading.payload ∧ Representable reading.metadata := by
  obtain ⟨rebuilt, hrebuilt, hsame⟩ := h data hdata
  obtain ⟨_, _, hp, hm, hiff⟩ := from_stream_dict_iff hdata
  obtain ⟨hpread, hmread, _⟩ := (hiff rebuilt).mp hrebuilt
  exact ⟨⟨_, hsame.payload, (read_field_iff hsame.payload hpayload_floats hp).mp hpread⟩,
    ⟨_, hsame.metadata, (read_field_iff hsame.metadata hmetadata_floats hm).mp hmread⟩⟩

/-- The stream encoding of a reading loses nothing exactly when the writer has no text
for one of its dicts, or JSON can tell both of them. -/
theorem round_trips_iff :
    RoundTrips w reading ↔ Writer.takes w.max_depth (.dict reading.payload.1) = false ∨
      Writer.takes w.max_depth (.dict reading.metadata.1) = false ∨
      (Representable reading.payload ∧ Representable reading.metadata) := by
  constructor
  · intro hall
    by_cases hpayload : Writer.takes w.max_depth (.dict reading.payload.1) = true
    · by_cases hmetadata : Writer.takes w.max_depth (.dict reading.metadata.1) = true
      · obtain ⟨data, hdata⟩ := exists_to_stream_dict_iff.mpr ⟨hpayload, hmetadata⟩
        exact .inr (.inr (hall.representable hpayload_floats hmetadata_floats hdata))
      · exact .inr (.inl (Bool.eq_false_iff.mpr hmetadata))
    · exact .inl (Bool.eq_false_iff.mpr hpayload)
  · intro hcases data hdata
    obtain ⟨payload_text, metadata_text, hp, hm, hiff⟩ := from_stream_dict_iff hdata
    have hpayload := exists_model_dump_json_iff.mp ⟨payload_text, hp⟩
    have hmetadata := exists_model_dump_json_iff.mp ⟨metadata_text, hm⟩
    obtain hfalse | hfalse | ⟨⟨payload_json, hpjson, hpexact⟩, ⟨metadata_json, hmjson, hmexact⟩⟩ := hcases
    · rw [hfalse] at hpayload
      cases hpayload
    · rw [hfalse] at hmetadata
      cases hmetadata
    · have hpread := (read_field_iff hpjson hpayload_floats hp).mpr hpexact
      have hmread := (read_field_iff hmjson hmetadata_floats hm).mpr hmexact
      let rebuilt : TelemetryReading Uuid PyDatetime :=
        { device_id := reading.device_id, device_type := reading.device_type, timestamp := reading.timestamp,
          payload := payload_json, metadata := metadata_json }
      exact ⟨rebuilt, (hiff rebuilt).mpr ⟨hpread, hmread, rfl, rfl, rfl⟩, rfl, rfl, rfl, hpjson, hmjson⟩

end Readings

/-- A reading of one float. -/
def sample_reading (level : PyFloat) : IncomingReading where
  device_id := 7
  device_type := "sensor"
  timestamp := ⟨{ year := 2025, month := 1, day := 1, time := ⟨12, 0, 0, 0⟩, utcoffset := none }, by decide⟩
  payload := ⟨[(.str "level", .float level)], by simp [PyValue.DistinctKeys, PyValue.DistinctKeysDict]⟩
  metadata := PyDict.empty

/-- The writer, for the floats that are whole numbers or half above one. -/
def sample_writer : Writer where
  max_depth := 255
  float_text x :=
    { Number.ofInt ⌊x⌋ with
      fraction := ['.', if x = ⌊x⌋ then '0' else '5']
      fraction_ok := by
        refine .inr ⟨[if x = ⌊x⌋ then '0' else '5'], by simp, ?_, rfl⟩
        intro c hc
        obtain rfl := List.mem_singleton.mp hc
        split
        · rfl
        · rfl }
  float_key _ := "nan"

theorem round_trips_half : RoundTrips sample_writer (sample_reading (.finite (43 / 2))) := by
  have hfloats : (PyValue.dict (sample_reading (.finite (43 / 2))).payload.1).AllFloats sample_writer.ReadsBack := by
    have hreads : sample_writer.ReadsBack (43 / 2) := by
      constructor
      · simp [sample_writer]
      · decide +kernel
    exact ⟨⟨trivial, hreads⟩, trivial⟩
  have hpayload : Representable (sample_reading (.finite (43 / 2))).payload :=
    ⟨[("level", .float (.finite (43 / 2)))], rfl, rfl⟩
  exact (round_trips_iff hfloats trivial).mpr (.inr (.inr ⟨hpayload, ⟨[], rfl, rfl⟩⟩))

/-- A NaN is printed as null and read back as None. -/
theorem nan_becomes_none : ¬ ∀ reading, RoundTrips sample_writer reading := by
  intro hall
  have hfloats : (PyValue.dict (sample_reading .nan).payload.1).AllFloats sample_writer.ReadsBack :=
    ⟨⟨trivial, trivial⟩, trivial⟩
  obtain ⟨data, hdata⟩ : ∃ data, (sample_reading .nan).to_stream_dict sample_writer = .ok data :=
    exists_to_stream_dict_iff.mpr ⟨rfl, rfl⟩
  obtain ⟨⟨json, hjson, hexact⟩, _⟩ := (hall (sample_reading .nan)).representable hfloats trivial hdata
  obtain rfl : json = [("level", .float .nan)] := PyValue.ofJsonDict_inj hjson
  cases hexact

/-- What Pydantic makes of the value of a field, and how it prints. -/
structure Pydantic where
  uuid : Decoded → Except PyExc Uuid
  str : Decoded → Except PyExc String
  datetime : Decoded → Except PyExc PyDatetime
  writer : Writer

/-- The validation of a `dict` field. -/
def dict_value (v : Decoded) : Except PyExc PyDict :=
  match v.dict? with
  | some d => .ok d
  | none => .error .LibraryError

theorem dict_value_ok_iff {v : Decoded} {d : PyDict} : dict_value v = .ok d ↔ v = d.value := by
  rw [← Decoded.dict?_eq_some_iff, dict_value]
  cases v.dict? <;> simp

section Fields

variable {α : Type}

/-- A field that must be given. -/
def required (validate : Decoded → Except PyExc α) : Option Decoded → Except PyExc α
  | some v => validate v
  | none => .error .LibraryError

/-- A field with a default. -/
def defaulted (validate : Decoded → Except PyExc α) (default : α) : Option Decoded → Except PyExc α
  | some v => validate v
  | none => .ok default

end Fields

namespace IncomingReading

/-- The validation of `data` as a `TelemetryReading`. -/
def validate (py : Pydantic) (utcnow : PyDatetime) (data : PyDict) : Except PyExc IncomingReading := do
  let device_id ← required py.uuid (data.get? "device_id")
  let device_type ← required py.str (data.get? "device_type")
  let timestamp ← defaulted py.datetime utcnow (data.get? "timestamp")
  let payload ← required dict_value (data.get? "payload")
  let metadata ← defaulted dict_value .empty (data.get? "metadata")
  return { device_id, device_type, timestamp, payload, metadata }

/-- `TelemetryReading(**data)`. -/
def init (py : Pydantic) (utcnow : PyDatetime) (data : PyDict) : Except PyExc IncomingReading :=
  if data.keywords then validate py utcnow data else .error .TypeError

/-- The reading has the fields that `field` looks up. -/
structure HasFields (py : Pydantic) (utcnow : PyDatetime) (field : String → Option Decoded) (reading : IncomingReading) :
    Prop where
  device_id : required py.uuid (field "device_id") = .ok reading.device_id
  device_type : required py.str (field "device_type") = .ok reading.device_type
  timestamp : defaulted py.datetime utcnow (field "timestamp") = .ok reading.timestamp
  payload : required dict_value (field "payload") = .ok reading.payload
  metadata : defaulted dict_value .empty (field "metadata") = .ok reading.metadata

variable {py : Pydantic} {utcnow : PyDatetime} {data : PyDict} {reading : IncomingReading}

theorem validate_ok_iff : validate py utcnow data = .ok reading ↔ HasFields py utcnow data.get? reading := by
  constructor
  · intro h
    obtain ⟨device_id, hdevice_id, h⟩ := Except.bind_ok_iff.mp h
    obtain ⟨device_type, hdevice_type, h⟩ := Except.bind_ok_iff.mp h
    obtain ⟨timestamp, htimestamp, h⟩ := Except.bind_ok_iff.mp h
    obtain ⟨payload, hpayload, h⟩ := Except.bind_ok_iff.mp h
    obtain ⟨metadata, hmetadata, h⟩ := Except.bind_ok_iff.mp h
    cases h
    exact ⟨hdevice_id, hdevice_type, htimestamp, hpayload, hmetadata⟩
  · rintro ⟨hdevice_id, hdevice_type, htimestamp, hpayload, hmetadata⟩
    simp only [validate, hdevice_id, hdevice_type, htimestamp, hpayload, hmetadata]
    rfl

theorem init_ok_iff : init py utcnow data = .ok reading ↔ data.keywords = true ∧ HasFields py utcnow data.get? reading := by
  rw [← validate_ok_iff, init]
  split
  · rename_i hkeywords
    simp [hkeywords]
  · rename_i hkeywords
    simp [hkeywords]

end IncomingReading

end gateway.telemetry
