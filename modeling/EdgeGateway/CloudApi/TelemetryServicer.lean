import EdgeGateway.Shared.Telemetry

open gateway.telemetry

namespace gateway.telemetry_servicer

/-- A row of `telemetry_readings`. -/
structure TelemetryRow (U T : Type) where
  id : U
  device_id : U
  device_type : String
  timestamp : T
  payload : List (String × JsonValue)
  metadata_ : List (String × JsonValue)

/-- The committed rows, and how many ids `uuid4` has given out. -/
structure Database (U T : Type) where
  rows : List (TelemetryRow U T)
  ids : ℕ := 0

/-- The fields of a raw reading, of which it has some. -/
structure Fields where
  device_id : Option String := none
  device_type : Option String := none
  timestamp : Option String := none
  payload : Option JsonValue := none
  metadata : Option JsonValue := none

/-- A raw reading with its fields as attributes, or as the items of a dict, which has none
of the attributes that are read. -/
inductive Raw where
  | object (fields : Fields)
  | dict (fields : Fields)

namespace Raw

variable {α : Type}

/-- `raw.name`. -/
def attr (name : Fields → Option α) : Raw → Except PyExc α
  | .object fields =>
    match name fields with
    | some value => .ok value
    | none => .error .AttributeError
  | .dict _ => .error .AttributeError

/-- `getattr(raw, name, default)`. -/
def getattr (name : Fields → Option α) (default : α) : Raw → α
  | .object fields => (name fields).getD default
  | .dict _ => default

/-- `hasattr(raw, name)`. -/
def hasattr (name : Fields → Option α) : Raw → Bool
  | .object fields => (name fields).isSome
  | .dict _ => false

/-- `raw.get(name, default)`. -/
def get (name : Fields → Option α) (default : α) : Raw → Except PyExc α
  | .object _ => .error .AttributeError
  | .dict fields => .ok ((name fields).getD default)

end Raw

/-- A raw reading as it comes, with the text of `datetime.utcnow()` then. -/
structure Arrival where
  raw : Raw
  utcnow : String

/-- A message of the stream, with or without the attribute `readings`. -/
inductive Message where
  | reading (arrival : Arrival)
  | batch (readings : List Arrival)

/-- `getattr(request, "readings", [request])`. -/
def Message.readings : Message → List Arrival
  | .reading arrival => [arrival]
  | .batch readings => readings

section Source

variable {U T : Type} (codec : Codec U T)

/-- `json.loads(value) if isinstance(value, str) else value`. -/
def loaded : JsonValue → Except PyExc JsonValue
  | .str text => codec.loads text
  | value => .ok value

/-- The reading of `SendTelemetry`. -/
def sent_reading (raw : Raw) : Except PyExc (TelemetryReading U T) := do
  let device_id ← codec.uuid (← raw.attr Fields.device_id)
  let device_type ← raw.attr Fields.device_type
  let timestamp ← codec.fromisoformat (← raw.attr Fields.timestamp)
  let payload ← loaded codec (← raw.attr Fields.payload)
  let metadata ← loaded codec (← raw.attr Fields.metadata)
  return { device_id, device_type, timestamp, payload := ← dict_field payload, metadata := ← dict_field metadata }

/-- The reading of `StreamTelemetry`. -/
def streamed_reading (arrival : Arrival) : Except PyExc (TelemetryReading U T) := do
  let raw := arrival.raw
  let device_id ←
    if raw.hasattr Fields.device_id then codec.uuid (← raw.attr Fields.device_id)
    else codec.uuid (← raw.get Fields.device_id "")
  let device_type := raw.getattr Fields.device_type "unknown"
  let timestamp ← codec.fromisoformat (raw.getattr Fields.timestamp arrival.utcnow)
  let payload ← loaded codec (raw.getattr Fields.payload (.dict []))
  let metadata ← loaded codec (raw.getattr Fields.metadata (.dict []))
  return { device_id, device_type, timestamp, payload := ← dict_field payload, metadata := ← dict_field metadata }

/-- `TelemetryRow(id=uuid4(), ...)`. -/
def row (id : U) (reading : TelemetryReading U T) : TelemetryRow U T where
  id
  device_id := reading.device_id
  device_type := reading.device_type
  timestamp := reading.timestamp
  payload := reading.payload
  metadata_ := reading.metadata

/-- What `uuid4` gives, no id twice, and which readings the columns of the table can take. -/
structure Postgres (U T : Type) where
  uuid4 : ℕ → U
  admits : TelemetryReading U T → Bool

variable (postgres : Postgres U T)

/-- The rows of some readings, with ids from the `n`-th on. -/
def rows_from : ℕ → List (TelemetryReading U T) → List (TelemetryRow U T)
  | _, [] => []
  | n, reading :: rest => row (postgres.uuid4 n) reading :: rows_from (n + 1) rest

/-- Bulk-insert telemetry readings and return the number accepted. A row that the table does
not take makes the commit fail as a whole. -/
def store_batch (readings : List (TelemetryReading U T)) : Raising (Database U T) PyExc ℕ := do
  if readings = [] then return 0
  let rows := rows_from postgres (← get).ids readings
  modify fun db => { db with ids := db.ids + rows.length }
  if readings.all postgres.admits then
    modify fun db => { db with rows := db.rows ++ rows }
    return rows.length
  else throw .LibraryError

/-- Receive a batch from an edge gateway; `readings` are those of the request. -/
def SendTelemetry (readings : List Raw) : Raising (Database U T) PyExc ℕ := do
  let readings ← (readings.mapM (sent_reading codec) : Except PyExc (List (TelemetryReading U T)))
  store_batch postgres readings

/-- The loop over the messages, with the number accepted so far. -/
def stream (total_accepted : ℕ) : List Message → Raising (Database U T) PyExc ℕ
  | [] => return total_accepted
  | message :: messages => do
    let readings ← (message.readings.mapM (streamed_reading codec) : Except PyExc (List (TelemetryReading U T)))
    if readings = [] then stream total_accepted messages
    else do
      let accepted ← store_batch postgres readings
      stream (total_accepted + accepted) messages

/-- Receive a client-side stream of individual telemetry readings. -/
def StreamTelemetry (messages : List Message) : Raising (Database U T) PyExc ℕ := stream codec postgres 0 messages

end Source

end gateway.telemetry_servicer
