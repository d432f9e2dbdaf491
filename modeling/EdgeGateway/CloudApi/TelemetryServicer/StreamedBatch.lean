import EdgeGateway.CloudApi.TelemetryServicer
import EdgeGateway.Shared.Telemetry.StreamEncoding

open gateway.telemetry

namespace gateway.telemetry_servicer

/-- A raw reading with all its fields. -/
structure RawReading where
  device_id : String
  device_type : String
  timestamp : String
  payload : JsonValue
  metadata : JsonValue

def RawReading.fields (raw : RawReading) : Fields where
  device_id := some raw.device_id
  device_type := some raw.device_type
  timestamp := some raw.timestamp
  payload := some raw.payload
  metadata := some raw.metadata

variable {U T : Type}

/-- A raw reading together with the reading that it is for. -/
structure WellFormed (codec : Codec U T) extends RawReading where
  reading : TelemetryReading U T
  reads : sent_reading codec (.object toRawReading.fields) = .ok reading

/-- A well-formed raw reading that is streamed, as an object or as a dict. -/
structure Streamed (codec : Codec U T) where
  raw : WellFormed codec
  as_dict : Bool
  utcnow : String

variable {codec : Codec U T}

namespace Streamed

def arrival (m : Streamed codec) : Arrival where
  raw := if m.as_dict then .dict m.raw.fields else .object m.raw.fields
  utcnow := m.utcnow

def message (m : Streamed codec) : Message := .reading m.arrival

/-- The raw reading as the batch has it. -/
def sent (m : Streamed codec) : Raw := .object m.raw.fields

end Streamed

/-- What a dict is taken for: a reading of the device, and of nothing else. -/
def defaulted (reading : TelemetryReading U T) (now : T) : TelemetryReading U T where
  device_id := reading.device_id
  device_type := "unknown"
  timestamp := now
  payload := []
  metadata := []

theorem streamed_reading_object (raw : WellFormed codec) (utcnow : String) :
    streamed_reading codec { raw := .object raw.fields, utcnow } = .ok raw.reading := raw.reads

/-- The id of the device is the one field that is read alike. -/
theorem uuid_device_id (raw : WellFormed codec) : codec.uuid raw.device_id = .ok raw.reading.device_id := by
  have hreads := raw.reads
  simp only [sent_reading, Except.bind_ok_iff] at hreads
  obtain ⟨text, htext, device_id, huuid, _, _, _, _, _, _, _, _, _, _, _, _, _, _, _, _, _, _, hreading⟩ := hreads
  cases htext
  rw [← Except.ok.inj hreading]
  exact huuid

theorem streamed_reading_dict (raw : WellFormed codec) (utcnow : String) :
    streamed_reading codec { raw := .dict raw.fields, utcnow } = (codec.fromisoformat utcnow).map (defaulted raw.reading) := by
  refine Eq.trans (b := do
    let device_id ← codec.uuid raw.device_id
    let timestamp ← codec.fromisoformat utcnow
    return { device_id, device_type := "unknown", timestamp, payload := [], metadata := [] }) rfl ?_
  rw [uuid_device_id]
  cases codec.fromisoformat utcnow with
  | ok now => rfl
  | error e => rfl

section Store

variable {postgres : Postgres U T} {readings : List (TelemetryReading U T)}

/-- What a row says, apart from its id. -/
def TelemetryRow.reading (row : TelemetryRow U T) : TelemetryReading U T where
  device_id := row.device_id
  device_type := row.device_type
  timestamp := row.timestamp
  payload := row.payload
  metadata := row.metadata_

/-- The readings that are stored. -/
def Database.stored (db : Database U T) : List (TelemetryReading U T) := db.rows.map TelemetryRow.reading

theorem map_reading_rows_from (n : ℕ) (readings : List (TelemetryReading U T)) :
    (rows_from postgres n readings).map TelemetryRow.reading = readings := by
  induction readings generalizing n with
  | nil => rfl
  | cons reading rest ih =>
    rw [rows_from, List.map_cons, ih]
    rfl

theorem length_rows_from (n : ℕ) (readings : List (TelemetryReading U T)) :
    (rows_from postgres n readings).length = readings.length := by
  rw [← List.length_map, map_reading_rows_from]

/-- Readings that the table takes are stored, and counted. -/
theorem store_of_admitted (db : Database U T) (h : ∀ reading ∈ readings, postgres.admits reading = true) :
    ∃ db', (store_batch postgres readings).call db = (.ok readings.length, db') ∧
      db'.stored = db.stored ++ readings := by
  by_cases hempty : readings = []
  · subst hempty
    exact ⟨db, rfl, (List.append_nil _).symm⟩
  let rows := rows_from postgres db.ids readings
  refine ⟨{ rows := db.rows ++ rows, ids := db.ids + rows.length }, ?_, ?_⟩
  · have hcount : rows.length = readings.length := length_rows_from db.ids readings
    rw [store_batch, if_neg hempty, ← hcount]
    simp only [List.all_eq_true.mpr h, if_true]
    rfl
  · rw [Database.stored, List.map_append, map_reading_rows_from]
    rfl

/-- One row that the table does not take keeps all of them out. -/
theorem store_of_refused (db : Database U T) (h : ∃ reading ∈ readings, postgres.admits reading = false) :
    ∃ db', (store_batch postgres readings).call db = (.error .LibraryError, db') ∧ db'.stored = db.stored := by
  obtain ⟨reading, hmem, hrefused⟩ := h
  have hempty : readings ≠ [] := List.ne_nil_of_mem hmem
  have hnot : ¬ readings.all postgres.admits = true := by
    intro hall
    rw [List.all_eq_true.mp hall reading hmem] at hrefused
    cases hrefused
  refine ⟨{ db with ids := db.ids + (rows_from postgres db.ids readings).length }, ?_, rfl⟩
  rw [store_batch, if_neg hempty]
  simp only [hnot]
  rfl

end Store

/-- The calls report the same count, or none, and store the same readings. -/
def Same (x y : Raising (Database U T) PyExc ℕ) (db : Database U T) : Prop :=
  (x.call db).1.toOption = (y.call db).1.toOption ∧ (x.call db).2.stored = (y.call db).2.stored

section Runs

variable (postgres : Postgres U T)

/-- What is stored of a message, if anything. -/
def Streamed.stored? (m : Streamed codec) : Option (TelemetryReading U T) :=
  match streamed_reading codec m.arrival with
  | .ok reading => if postgres.admits reading then some reading else none
  | .error _ => none

/-- What is stored of a stream, which ends with the first message of which nothing is. -/
def taken : List (Streamed codec) → List (TelemetryReading U T)
  | [] => []
  | m :: rest =>
    match m.stored? postgres with
    | some reading => reading :: taken rest
    | none => []

variable {postgres} {m : Streamed codec}

theorem mapM_sent_reading (messages : List (Streamed codec)) :
    (messages.map Streamed.sent).mapM (sent_reading codec) = .ok (messages.map fun m => m.raw.reading) := by
  induction messages with
  | nil => rfl
  | cons m rest ih =>
    have hsent : sent_reading codec m.sent = .ok m.raw.reading := m.raw.reads
    rw [List.map_cons, List.mapM_cons, hsent, ih]
    rfl

theorem sendTelemetry_eq (messages : List (Streamed codec)) :
    SendTelemetry codec postgres (messages.map Streamed.sent) = store_batch postgres (messages.map fun m => m.raw.reading) := by
  rw [SendTelemetry, mapM_sent_reading]
  rfl

/-- A message of one reading is stored as it is read. -/
theorem stream_cons (total : ℕ) (rest : List Message) :
    stream codec postgres total (m.message :: rest) = (do
      let reading ← (streamed_reading codec m.arrival : Except PyExc (TelemetryReading U T))
      let accepted ← store_batch postgres [reading]
      stream codec postgres (total + accepted) rest) := by
  have hreadings : m.message.readings.mapM (streamed_reading codec) = (streamed_reading codec m.arrival).map ([·]) := by
    change [m.arrival].mapM (streamed_reading codec) = _
    rw [List.mapM_cons]
    cases streamed_reading codec m.arrival <;> rfl
  rw [stream, hreadings]
  cases streamed_reading codec m.arrival <;> rfl

theorem stream_cons_of_some {reading : TelemetryReading U T} (h : m.stored? postgres = some reading) (total : ℕ)
    (rest : List Message) (db : Database U T) :
    ∃ db', (stream codec postgres total (m.message :: rest)).call db = (stream codec postgres (total + 1) rest).call db' ∧
      db'.stored = db.stored ++ [reading] := by
  rw [Streamed.stored?] at h
  cases hread : streamed_reading codec m.arrival with
  | error e =>
    rw [hread] at h
    cases h
  | ok read =>
    rw [hread] at h
    obtain ⟨hadmits, hsome⟩ := Option.ite_none_right_eq_some.mp h
    cases hsome
    obtain ⟨db', hcall, hstored⟩ := store_of_admitted db (List.forall_mem_singleton.mpr hadmits)
    refine ⟨db', ?_, hstored⟩
    rw [stream_cons, hread, Raising.call_bind_ok (Raising.call_lift _ db), Raising.call_bind_ok hcall]
    rfl

theorem stream_cons_of_none (h : m.stored? postgres = none) (total : ℕ) (rest : List Message) (db : Database U T) :
    ∃ e db', (stream codec postgres total (m.message :: rest)).call db = (.error e, db') ∧ db'.stored = db.stored := by
  rw [Streamed.stored?] at h
  cases hread : streamed_reading codec m.arrival with
  | error e =>
    refine ⟨e, db, ?_, rfl⟩
    rw [stream_cons, hread, Raising.call_bind_error (Raising.call_lift _ db)]
  | ok reading =>
    rw [hread] at h
    have hrefused : postgres.admits reading = false := by
      simpa using h
    obtain ⟨db', hcall, hstored⟩ := store_of_refused db ⟨reading, List.mem_singleton_self reading, hrefused⟩
    refine ⟨.LibraryError, db', ?_, hstored⟩
    rw [stream_cons, hread, Raising.call_bind_ok (Raising.call_lift _ db), Raising.call_bind_error hcall]

variable (postgres) in
/-- A stream stores what is taken of it, and returns if that is all. -/
theorem call_stream (messages : List (Streamed codec)) (total : ℕ) (db : Database U T) :
    ((stream codec postgres total (messages.map Streamed.message)).call db).1.toOption =
        (if (taken postgres messages).length = messages.length then some (total + messages.length) else none) ∧
      ((stream codec postgres total (messages.map Streamed.message)).call db).2.stored =
        db.stored ++ taken postgres messages := by
  induction messages generalizing total db with
  | nil => exact ⟨rfl, (List.append_nil _).symm⟩
  | cons m rest ih =>
    rw [List.map_cons, taken]
    cases hm : m.stored? postgres with
    | some reading =>
      obtain ⟨db', hcall, hstored⟩ := stream_cons_of_some hm total (rest.map Streamed.message) db
      obtain ⟨hcount, hrest⟩ := ih (total + 1) db'
      rw [hcall, hcount, hrest, hstored]
      simp only [List.length_cons, Nat.add_right_cancel_iff, List.append_assoc, List.singleton_append]
      refine ⟨?_, trivial⟩
      congr 2
      omega
    | none =>
      obtain ⟨e, db', hcall, hstored⟩ := stream_cons_of_none hm total (rest.map Streamed.message) db
      rw [hcall, hstored]
      refine ⟨?_, (List.append_nil _).symm⟩
      rw [if_neg]
      · rfl
      · simp

end Runs

/-- The reading is the one that a dict is taken for. -/
structure Streamed.Default (m : Streamed codec) : Prop where
  device_type : m.raw.reading.device_type = "unknown"
  timestamp : codec.fromisoformat m.utcnow = .ok m.raw.reading.timestamp
  payload : m.raw.reading.payload = []
  metadata : m.raw.reading.metadata = []

/-- The table takes no row of what the message is read as. -/
def Streamed.Refused (postgres : Postgres U T) (m : Streamed codec) : Prop :=
  if m.as_dict then ∀ now, codec.fromisoformat m.utcnow = .ok now → postgres.admits (defaulted m.raw.reading now) = false
  else postgres.admits m.raw.reading = false

section Agreement

variable {postgres : Postgres U T} {m : Streamed codec}

theorem stored?_of_object (h : m.as_dict = false) :
    m.stored? postgres = if postgres.admits m.raw.reading then some m.raw.reading else none := by
  have hread : streamed_reading codec m.arrival = .ok m.raw.reading := by
    rw [Streamed.arrival, h]
    exact streamed_reading_object m.raw m.utcnow
  rw [Streamed.stored?, hread]

theorem stored?_of_dict (h : m.as_dict = true) :
    m.stored? postgres =
      match codec.fromisoformat m.utcnow with
      | .ok now => if postgres.admits (defaulted m.raw.reading now) then some (defaulted m.raw.reading now) else none
      | .error _ => none := by
  have hread : streamed_reading codec m.arrival = (codec.fromisoformat m.utcnow).map (defaulted m.raw.reading) := by
    rw [Streamed.arrival, h]
    exact streamed_reading_dict m.raw m.utcnow
  rw [Streamed.stored?, hread]
  cases codec.fromisoformat m.utcnow with
  | ok now => rfl
  | error e => rfl

theorem stored?_eq_none_iff : m.stored? postgres = none ↔ m.Refused postgres := by
  rw [Streamed.Refused]
  cases hdict : m.as_dict with
  | false =>
    rw [stored?_of_object hdict]
    simp
  | true =>
    rw [stored?_of_dict hdict]
    cases codec.fromisoformat m.utcnow with
    | ok now => simp
    | error e => simp

theorem defaulted_eq_iff {reading : TelemetryReading U T} {now : T} :
    defaulted reading now = reading ↔
      reading.device_type = "unknown" ∧ now = reading.timestamp ∧ reading.payload = [] ∧ reading.metadata = [] := by
  obtain ⟨device_id, device_type, timestamp, payload, metadata⟩ := reading
  simp [defaulted, eq_comm]

/-- A reading that the table takes is stored, of a dict if it is the default one. -/
theorem stored?_eq_reading_iff (h : postgres.admits m.raw.reading = true) :
    m.stored? postgres = some m.raw.reading ↔ (m.as_dict = true → m.Default) := by
  cases hdict : m.as_dict with
  | false =>
    rw [stored?_of_object hdict, if_pos h]
    exact iff_of_true rfl nofun
  | true =>
    rw [stored?_of_dict hdict]
    cases hnow : codec.fromisoformat m.utcnow with
    | error e =>
      refine iff_of_false nofun fun hdefault => ?_
      cases hnow.symm.trans (hdefault rfl).timestamp
    | ok now =>
      rw [Option.ite_none_right_eq_some, Option.some_inj]
      constructor
      · rintro ⟨_, hsame⟩ _
        obtain ⟨hdevice_type, rfl, hpayload, hmetadata⟩ := defaulted_eq_iff.mp hsame
        exact ⟨hdevice_type, hnow, hpayload, hmetadata⟩
      · intro hdefault
        obtain ⟨hdevice_type, htimestamp, hpayload, hmetadata⟩ := hdefault rfl
        cases hnow.symm.trans htimestamp
        have hsame := defaulted_eq_iff.mpr ⟨hdevice_type, rfl, hpayload, hmetadata⟩
        rw [hsame]
        exact ⟨h, rfl⟩

theorem taken_eq_map_iff (messages : List (Streamed codec)) :
    taken postgres messages = messages.map (fun m => m.raw.reading) ↔
      ∀ m ∈ messages, m.stored? postgres = some m.raw.reading := by
  induction messages with
  | nil => exact iff_of_true rfl nofun
  | cons m rest ih =>
    rw [taken, List.forall_mem_cons, List.map_cons]
    cases hm : m.stored? postgres with
    | none => simp
    | some reading => simp [ih]

theorem taken_eq_nil_iff (messages : List (Streamed codec)) :
    taken postgres messages = [] ↔ ∀ first ∈ messages.head?, first.Refused postgres := by
  cases messages with
  | nil => exact iff_of_true rfl nofun
  | cons m rest =>
    have hfirst : (∀ first ∈ (m :: rest).head?, first.Refused postgres) ↔ m.stored? postgres = none := by
      rw [stored?_eq_none_iff]
      simp
    rw [hfirst, taken]
    cases m.stored? postgres with
    | none => simp
    | some reading => simp

variable {messages : List (Streamed codec)} {db : Database U T}

/-- The table takes the batch: the stream does the same if it takes the same readings. -/
theorem same_iff_of_admitted (h : ∀ m ∈ messages, postgres.admits m.raw.reading = true) :
    Same (StreamTelemetry codec postgres (messages.map Streamed.message))
        (SendTelemetry codec postgres (messages.map Streamed.sent)) db ↔
      taken postgres messages = messages.map fun m => m.raw.reading := by
  obtain ⟨hcount, hstored⟩ := call_stream postgres messages 0 db
  obtain ⟨db', hcall, hbatch⟩ := store_of_admitted db (List.forall_mem_map.mpr h)
  rw [Same, StreamTelemetry, sendTelemetry_eq, hcall, hcount, hstored, hbatch, List.append_cancel_left_eq]
  refine and_iff_right_of_imp fun hsame => ?_
  rw [hsame, List.length_map, if_pos rfl, Nat.zero_add]
  rfl

/-- The table does not take the batch: the stream does the same if it stores nothing either. -/
theorem same_iff_of_refused (h : ∃ m ∈ messages, postgres.admits m.raw.reading = false) :
    Same (StreamTelemetry codec postgres (messages.map Streamed.message))
        (SendTelemetry codec postgres (messages.map Streamed.sent)) db ↔
      taken postgres messages = [] := by
  obtain ⟨m, hmem, hrefused⟩ := h
  obtain ⟨hcount, hstored⟩ := call_stream postgres messages 0 db
  have hbatchmem : m.raw.reading ∈ messages.map fun m => m.raw.reading := List.mem_map.mpr ⟨m, hmem, rfl⟩
  obtain ⟨db', hcall, hbatch⟩ := store_of_refused db ⟨m.raw.reading, hbatchmem, hrefused⟩
  rw [Same, StreamTelemetry, sendTelemetry_eq, hcall, hcount, hstored, hbatch, List.append_right_eq_self]
  refine and_iff_right_of_imp fun hsame => ?_
  have hlength : ¬ ([] : List (TelemetryReading U T)).length = messages.length := by
    have hpos := List.length_pos_of_mem hmem
    rw [List.length_nil]
    omega
  rw [hsame, if_neg hlength]
  rfl

end Agreement

/-- A stream of raw readings does the same as their batch exactly if the table takes them all
and those given as dicts are the default ones, or if neither stores anything. -/
theorem stream_same_as_batch_iff (codec : Codec U T) (postgres : Postgres U T) (messages : List (Streamed codec))
    (db : Database U T) :
    Same (StreamTelemetry codec postgres (messages.map Streamed.message))
        (SendTelemetry codec postgres (messages.map Streamed.sent)) db ↔
      (∀ m ∈ messages, postgres.admits m.raw.reading = true ∧ (m.as_dict = true → m.Default)) ∨
        ((∃ m ∈ messages, postgres.admits m.raw.reading = false) ∧ ∀ first ∈ messages.head?, first.Refused postgres) := by
  by_cases hall : ∀ m ∈ messages, postgres.admits m.raw.reading = true
  · have hnone : ¬ ∃ m ∈ messages, postgres.admits m.raw.reading = false := by
      rintro ⟨m, hmem, hrefused⟩
      rw [hall m hmem] at hrefused
      cases hrefused
    have hsecond : ¬ ((∃ m ∈ messages, postgres.admits m.raw.reading = false) ∧
        ∀ first ∈ messages.head?, first.Refused postgres) := fun h => hnone h.1
    rw [same_iff_of_admitted hall, taken_eq_map_iff, or_iff_left hsecond]
    constructor
    · intro hstored m hmem
      exact ⟨hall m hmem, (stored?_eq_reading_iff (hall m hmem)).mp (hstored m hmem)⟩
    · intro hdefault m hmem
      exact (stored?_eq_reading_iff (hall m hmem)).mpr (hdefault m hmem).2
  · have hsome : ∃ m ∈ messages, postgres.admits m.raw.reading = false := by
      simpa using hall
    have hfirst : ¬ ∀ m ∈ messages, postgres.admits m.raw.reading = true ∧ (m.as_dict = true → m.Default) :=
      fun h => hall fun m hmem => (h m hmem).1
    rw [same_iff_of_refused hsome, taken_eq_nil_iff, or_iff_right hfirst, and_iff_right hsome]

/-- A reading of a thermometer, taken at noon. -/
def noon_reading : WellFormed python_codec where
  device_id := "00000000-0000-0000-0000-000000000001"
  device_type := "temperature_sensor"
  timestamp := "2026-03-01T12:00:00"
  payload := .dict [("temperature_c", .int 21)]
  metadata := .dict []
  reading := {
    device_id := 1
    device_type := "temperature_sensor"
    timestamp := ⟨{
      year := 2026, month := 3, day := 1
      time := { hour := 12, minute := 0, second := 0, microsecond := 0 }
      utcoffset := none }, by decide⟩
    payload := [("temperature_c", .int 21)]
    metadata := [] }
  reads := rfl

/-- The reading as a dict, sent some seconds after it was taken. -/
def noon_message : Streamed python_codec where
  raw := noon_reading
  as_dict := true
  utcnow := "2026-03-01T12:00:05.000001"

/-- A table that takes every reading. -/
def sample_postgres : Postgres Uuid PyDatetime where
  uuid4 n := Fin.ofNat (2 ^ 128) n
  admits _ := true

/-- Streamed as a dict, the reading loses its type, its time and its payload. -/
theorem dict_loses_fields :
    ((StreamTelemetry python_codec sample_postgres [noon_message.message]).call { rows := [] }).2.stored.map
        (fun reading => (reading.device_type, reading.timestamp.isoformat, reading.payload.length)) =
      [("unknown", "2026-03-01T12:00:05.000001", 0)] ∧
    ((SendTelemetry python_codec sample_postgres [noon_message.sent]).call { rows := [] }).2.stored.map
        (fun reading => (reading.device_type, reading.timestamp.isoformat, reading.payload.length)) =
      [("temperature_sensor", "2026-03-01T12:00:00", 1)] ∧
    ¬ Same (StreamTelemetry python_codec sample_postgres [noon_message.message])
      (SendTelemetry python_codec sample_postgres [noon_message.sent]) { rows := [] } := by
  have hstream : ((StreamTelemetry python_codec sample_postgres [noon_message.message]).call { rows := [] }).2.stored.map
        (fun reading => (reading.device_type, reading.timestamp.isoformat, reading.payload.length)) =
      [("unknown", "2026-03-01T12:00:05.000001", 0)] := by
    decide +kernel
  have hsend : ((SendTelemetry python_codec sample_postgres [noon_message.sent]).call { rows := [] }).2.stored.map
        (fun reading => (reading.device_type, reading.timestamp.isoformat, reading.payload.length)) =
      [("temperature_sensor", "2026-03-01T12:00:00", 1)] := by
    decide +kernel
  refine ⟨hstream, hsend, ?_⟩
  rintro ⟨_, hstored⟩
  rw [hstored, hsend] at hstream
  exact absurd hstream (by decide)

end gateway.telemetry_servicer
