import EdgeGateway.Shared.Telemetry

open gateway.telemetry

namespace gateway.batch_writer

/-- An ORM instance. `source`, which is no column, tells the stream entry that the
record was made from. -/
structure TelemetryRecord (U T : Type) where
  id : U
  device_id : U
  device_type : String
  timestamp : T
  payload : List (String × JsonValue)
  metadata_ : List (String × JsonValue)
  source : ℕ

/-- A row of `telemetry_readings`, with `source` as in the record. -/
structure TelemetryRow (U T : Type) where
  id : U
  device_id : U
  device_type : String
  timestamp : T
  payload : List (String × JsonValue)
  metadata : List (String × JsonValue)
  source : ℕ

variable {U T : Type}

/-- The values of a buffered record, `metadata_` mapped back to the column `metadata`. -/
def TelemetryRecord.row (record : TelemetryRecord U T) : TelemetryRow U T where
  id := record.id
  device_id := record.device_id
  device_type := record.device_type
  timestamp := record.timestamp
  payload := record.payload
  metadata := record.metadata_
  source := record.source

structure BatchWriter (U T : Type) where
  buffer : List (TelemetryRecord U T) := []

namespace BatchWriter

def size (writer : BatchWriter U T) : ℕ := writer.buffer.length

def accumulate (writer : BatchWriter U T) (record : TelemetryRecord U T) : BatchWriter U T :=
  { buffer := writer.buffer ++ [record] }

/-- What `flush` inserts. -/
def values (writer : BatchWriter U T) : List (TelemetryRow U T) := writer.buffer.map TelemetryRecord.row

/-- `self._buffer.clear()`. -/
def clear (_ : BatchWriter U T) : BatchWriter U T := { buffer := [] }

/-- The buffer has a record made from the stream entry. -/
def Buffered (writer : BatchWriter U T) (source : ℕ) : Prop := ∃ record ∈ writer.buffer, record.source = source

theorem Buffered.size_pos {writer : BatchWriter U T} {source : ℕ} (h : writer.Buffered source) :
    0 < writer.size := by
  obtain ⟨record, hmem, _⟩ := h
  exact List.length_pos_of_mem hmem

theorem buffered_accumulate {writer : BatchWriter U T} {record : TelemetryRecord U T} {source : ℕ} :
    (writer.accumulate record).Buffered source ↔ writer.Buffered source ∨ record.source = source := by
  simp [Buffered, accumulate, or_and_right, exists_or]

theorem not_buffered_of_size_eq_zero {writer : BatchWriter U T} {source : ℕ} (h : writer.size = 0) :
    ¬ writer.Buffered source := by
  intro hbuffered
  have hpos := hbuffered.size_pos
  omega

end BatchWriter

variable [DecidableEq U]

/-- Whether PostgreSQL takes an INSERT of the values: `admits` says which rows the
column types and constraints let through, and the ids are primary keys. -/
def accepts (admits : TelemetryRow U T → Bool) (rows values : List (TelemetryRow U T)) : Bool :=
  values.all admits && decide ((values.map TelemetryRow.id).Nodup) &&
    values.all fun value => value.id ∉ rows.map TelemetryRow.id

end gateway.batch_writer
