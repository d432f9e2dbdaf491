import Mathlib.Data.Rat.Defs
import EdgeGateway.DataPersistence.BatchWriter
import EdgeGateway.Library.ConsumerGroup
import EdgeGateway.Library.Daemon

open gateway.telemetry gateway.batch_writer

namespace gateway.stream_to_postgres

structure Settings where
  /-- 0 stands for every count that the Redis client refuses. -/
  batch_size : ℕ
  flush_interval_seconds : ℚ

abbrev StreamEntry := ℕ × StreamDict

/-- Redis, with the stream `raw_telemetry` and the group `data_persistence`, and the
committed rows of `telemetry_readings`. -/
structure World (U T : Type) where
  group : ConsumerGroup StreamDict
  rows : List (TelemetryRow U T)

/-- What the worker finds on its host when it runs: `time.monotonic()`, whether
`shutdown_event` is set, and what `uuid4()` gives for the record of an entry. -/
structure Moment (U : Type) where
  monotonic : ℚ
  shutdown : Bool
  uuid4 : ℕ → U

structure Worker (U T : Type) where
  batch_writer : BatchWriter U T := {}
  /-- Stream entry IDs awaiting acknowledgement. -/
  pending_ids : List ℕ := []
  last_flush_time : ℚ

/-- The calls the worker awaits. `stopping` tells the final flush from the one in the
loop, and `rest` are the entries of the batch after a malformed one. -/
inductive Pc (U T : Type) where
  | read
  | ack_malformed (entry_id : ℕ) (rest : List StreamEntry)
  | execute (values : List (TelemetryRow U T)) (stopping : Bool)
  | commit (values : List (TelemetryRow U T)) (stopping : Bool)
  | ack (ids : List ℕ) (stopping : Bool)
  | sleep

inductive Reply where
  | entries (entries : List StreamEntry)
  | done

section Worker

variable {U T : Type} (codec : Codec U T) (settings : Settings) (moment : Moment U)

/-- `_telemetry_to_record`. -/
def telemetry_to_record (source : ℕ) (id : U) (reading : TelemetryReading U T) : TelemetryRecord U T where
  id
  device_id := reading.device_id
  device_type := reading.device_type
  timestamp := reading.timestamp
  payload := reading.payload
  metadata_ := reading.metadata
  source

/-- The final flush, or the end where nothing is buffered. -/
def stop (worker : Worker U T) : Worker U T × Option (Pc U T) :=
  if worker.batch_writer.size > 0 then (worker, some (.execute worker.batch_writer.values true)) else (worker, none)

/-- The top of the loop. -/
def loop (worker : Worker U T) : Worker U T × Option (Pc U T) :=
  if moment.shutdown then stop worker else (worker, some .read)

/-- The end of a flush that went through. -/
def flushed (stopping : Bool) (worker : Worker U T) : Worker U T × Option (Pc U T) :=
  if stopping then (worker, none) else loop moment { worker with last_flush_time := moment.monotonic }

/-- After the flush: acknowledge all successfully written messages. -/
def acknowledge (stopping : Bool) (worker : Worker U T) : Worker U T × Option (Pc U T) :=
  if worker.pending_ids = [] then flushed moment stopping worker
  else (worker, some (.ack worker.pending_ids stopping))

/-- `batch_writer.flush`, up to its first await. -/
def flush (stopping : Bool) (worker : Worker U T) : Worker U T × Option (Pc U T) :=
  if worker.batch_writer.size = 0 then acknowledge moment stopping worker
  else (worker, some (.execute worker.batch_writer.values stopping))

def should_flush (worker : Worker U T) : Bool :=
  worker.batch_writer.size ≥ settings.batch_size ||
    (worker.batch_writer.size > 0 && moment.monotonic - worker.last_flush_time ≥ settings.flush_interval_seconds)

/-- Process each message, up to the first one to acknowledge as malformed. -/
def process (worker : Worker U T) : List StreamEntry → Worker U T × Option (Pc U T)
  | [] => if should_flush settings moment worker then flush moment false worker else loop moment worker
  | (entry_id, data) :: rest =>
    match from_stream_dict codec data with
    | .ok reading =>
      process
        { worker with
          batch_writer := worker.batch_writer.accumulate (telemetry_to_record entry_id (moment.uuid4 entry_id) reading)
          pending_ids := worker.pending_ids ++ [entry_id] } rest
    | .error _ => (worker, some (.ack_malformed entry_id rest))

/-- What a failing flush leads to: on with the loop, or the end of the final flush. -/
def flush_error (stopping : Bool) (worker : Worker U T) : Worker U T × Option (Pc U T) :=
  if stopping then (worker, none) else loop moment worker

/-- What `CancelledError` in a flush leads to: out of the loop, or out of the worker. -/
def flush_cancelled (stopping : Bool) (worker : Worker U T) : Worker U T × Option (Pc U T) :=
  if stopping then (worker, none) else stop worker

def resume (worker : Worker U T) : Pc U T → Outcome Reply → Worker U T × Option (Pc U T)
  | .read, .reply (.entries entries) => process codec settings moment worker entries
  | .read, .reply .done => process codec settings moment worker []
  | .read, .raised => (worker, some .sleep)
  | .read, .cancelled => stop worker
  | .ack_malformed _ rest, .reply _ => process codec settings moment worker rest
  | .ack_malformed _ _, .raised => (worker, some .sleep)
  | .ack_malformed _ _, .cancelled => stop worker
  | .execute values stopping, .reply _ => (worker, some (.commit values stopping))
  | .execute _ stopping, .raised => flush_error moment stopping worker
  | .execute _ stopping, .cancelled => flush_cancelled stopping worker
  | .commit _ stopping, .reply _ =>
    acknowledge moment stopping { worker with batch_writer := worker.batch_writer.clear }
  | .commit _ stopping, .raised => flush_error moment stopping worker
  | .commit _ stopping, .cancelled => flush_cancelled stopping worker
  | .ack _ stopping, .reply _ => flushed moment stopping { worker with pending_ids := [] }
  | .ack _ stopping, .raised => flush_error moment stopping worker
  | .ack _ stopping, .cancelled => flush_cancelled stopping worker
  | .sleep, .cancelled => (worker, none)
  | .sleep, _ => loop moment worker

end Worker

/-- Everything except `asyncio.sleep` can raise. -/
def raises {U T : Type} : Pc U T → Bool
  | .sleep => false
  | _ => true

inductive Event where
  | xadd (data : StreamDict)
  | xtrim (count : ℕ)

variable {U T : Type} [DecidableEq U] (codec : Codec U T) (settings : Settings) (admits : TelemetryRow U T → Bool)

/-- Redis and PostgreSQL. An INSERT that PostgreSQL does not take can only raise. -/
def execute (world : World U T) : Pc U T → Option (World U T × Reply)
  | .read =>
    if settings.batch_size = 0 then none
    else some ({ world with group := world.group.xreadgroup settings.batch_size },
      .entries (world.group.fresh settings.batch_size))
  | .ack_malformed entry_id _ => some ({ world with group := world.group.xack [entry_id] }, .done)
  | .execute values _ => if accepts admits world.rows values then some (world, .done) else none
  | .commit values _ => some ({ world with rows := world.rows ++ values }, .done)
  | .ack ids _ => some ({ world with group := world.group.xack ids }, .done)
  | .sleep => some (world, .done)

def occur (world : World U T) : Event → Option (World U T)
  | .xadd data => some { world with group := world.group.xadd data }
  | .xtrim count => some { world with group := world.group.xtrim count }

/-- The worker, started again with the same consumer name whenever it is gone. -/
def daemon : Daemon (World U T) (Worker U T) (Pc U T) Unit Reply (Moment U) Event where
  start moment := loop moment { last_flush_time := moment.monotonic }
  exec world pc _ := execute settings admits world pc
  resume := resume codec settings
  raises := raises
  event := occur

abbrev State (U T : Type) := Daemon.State (World U T) (Worker U T) (Pc U T) Reply
abbrev Action (U : Type) := Daemon.Action Unit (Moment U) Event
abbrev Process (U T : Type) := Daemon.Process (Worker U T) (Pc U T) Reply

/-- Runs start with an empty stream and an empty table. -/
def initial (world : World U T) : Prop := world.group = .empty ∧ world.rows = []

def system : TransitionSystem (State U T) (Action U) := (daemon codec settings admits).system initial

/-- Nothing in the stream or in the table, and no worker. -/
def idle : State U T := { server := { group := .empty, rows := [] }, process := none }

theorem idle_initial : (system codec settings admits).initial idle := ⟨⟨rfl, rfl⟩, rfl⟩

/-- Every record is flushed at once. -/
def one_by_one : Settings where
  batch_size := 1
  flush_interval_seconds := 5

/-- A moment at which `uuid4()` gives a new id for every entry. -/
def sample_moment (shutdown : Bool) : Moment String where
  monotonic := 0
  shutdown
  uuid4 entry_id := toString entry_id

end gateway.stream_to_postgres
