import EdgeGateway.DataPersistence.StreamToPostgres.AckAfterCommit

open gateway.telemetry gateway.batch_writer

namespace gateway.stream_to_postgres

variable {U T : Type} {codec : Codec U T} {settings : Settings} {moment : Moment U} {stopping : Bool}
  {worker : Worker U T}

/-- What is left of the batch that the worker has read. -/
def hand : Pc U T → Option Reply → List StreamEntry
  | .read, some (.entries entries) => entries
  | .ack_malformed _ rest, _ => rest
  | _, _ => []

/-- The worker ends, or goes on to a read, a flush or an acknowledgement of what it has. -/
structure Turns (worker : Worker U T) (next : Worker U T × Option (Pc U T)) : Prop where
  batch_writer : next.1.batch_writer = worker.batch_writer
  pending_ids : next.1.pending_ids = worker.pending_ids
  call : ∀ pc, next.2 = some pc → pc = .read ∨ (∃ stopping, pc = .execute worker.batch_writer.values stopping) ∨
    ∃ stopping, pc = .ack worker.pending_ids stopping

theorem Turns.hand {next : Worker U T × Option (Pc U T)} (h : Turns worker next) {pc : Pc U T}
    (hpc : next.2 = some pc) : hand pc none = [] := by
  obtain rfl | ⟨stopping, rfl⟩ | ⟨stopping, rfl⟩ := h.call pc hpc <;> rfl

theorem ends_turns : Turns worker (worker, none) := ⟨rfl, rfl, nofun⟩

theorem stop_turns : Turns worker (stop worker) := by
  unfold stop
  split
  · refine ⟨rfl, rfl, ?_⟩
    rintro pc ⟨⟩
    exact .inr (.inl ⟨true, rfl⟩)
  · exact ends_turns

theorem loop_turns : Turns worker (loop moment worker) := by
  unfold loop
  split
  · exact stop_turns
  · refine ⟨rfl, rfl, ?_⟩
    rintro pc ⟨⟩
    exact .inl rfl

theorem flushed_turns : Turns worker (flushed moment stopping worker) := by
  unfold flushed
  split
  · exact ends_turns
  · have hloop : Turns _ (loop moment { worker with last_flush_time := moment.monotonic }) := loop_turns
    exact ⟨hloop.batch_writer, hloop.pending_ids, hloop.call⟩

theorem acknowledge_turns : Turns worker (acknowledge moment stopping worker) := by
  unfold acknowledge
  split
  · exact flushed_turns
  · refine ⟨rfl, rfl, ?_⟩
    rintro pc ⟨⟩
    exact .inr (.inr ⟨stopping, rfl⟩)

theorem flush_turns : Turns worker (flush moment stopping worker) := by
  unfold flush
  split
  · exact acknowledge_turns
  · refine ⟨rfl, rfl, ?_⟩
    rintro pc ⟨⟩
    exact .inr (.inl ⟨stopping, rfl⟩)

theorem flush_error_turns : Turns worker (flush_error moment stopping worker) := by
  unfold flush_error
  split
  · exact ends_turns
  · exact loop_turns

theorem flush_cancelled_turns : Turns worker (flush_cancelled stopping worker) := by
  unfold flush_cancelled
  split
  · exact ends_turns
  · exact stop_turns

/-- The record of a well-formed entry. -/
def record_of (codec : Codec U T) (moment : Moment U) (entry : StreamEntry) : Option (TelemetryRecord U T) :=
  match from_stream_dict codec entry.2 with
  | .ok reading => some (telemetry_to_record entry.1 (moment.uuid4 entry.1) reading)
  | .error _ => none

theorem source_of_record_of {entry : StreamEntry} {record : TelemetryRecord U T}
    (h : record_of codec moment entry = some record) : record.source = entry.1 := by
  unfold record_of at h
  split at h
  · cases h
    rfl
  · cases h

theorem sources_of_records {entries : List StreamEntry} {records : List (TelemetryRecord U T)}
    (h : entries.map (record_of codec moment) = records.map some) :
    records.map TelemetryRecord.source = entries.map Prod.fst := by
  induction entries generalizing records with
  | nil =>
    rw [List.map_eq_nil_iff.mp h.symm]
    rfl
  | cons entry rest ih =>
    cases records with
    | nil => cases h
    | cons record records =>
      obtain ⟨hrecord, hrest⟩ := List.cons.inj h
      rw [List.map_cons, List.map_cons, source_of_record_of hrecord, ih hrest]

/-- The worker after it has taken the records up. -/
def Worker.take_up (worker : Worker U T) (records : List (TelemetryRecord U T)) : Worker U T :=
  { worker with
    batch_writer := { buffer := worker.batch_writer.buffer ++ records }
    pending_ids := worker.pending_ids ++ records.map TelemetryRecord.source }

theorem Worker.take_up_nil (worker : Worker U T) : worker.take_up [] = worker := by
  simp [take_up]

theorem Worker.take_up_take_up (worker : Worker U T) (records more : List (TelemetryRecord U T)) :
    (worker.take_up records).take_up more = worker.take_up (records ++ more) := by
  simp [take_up]

/-- The worker takes up the entries one by one, all of them or those before the first malformed one. -/
inductive Processed (codec : Codec U T) (moment : Moment U) (worker : Worker U T) (entries : List StreamEntry) :
    Worker U T × Option (Pc U T) → Prop where
  | all {records : List (TelemetryRecord U T)} {next : Worker U T × Option (Pc U T)}
      (hrecords : entries.map (record_of codec moment) = records.map some) (hturns : Turns (worker.take_up records) next) :
      Processed codec moment worker entries next
  | malformed {records : List (TelemetryRecord U T)} {parsed : List StreamEntry} {entry_id : ℕ} {data : StreamDict}
      {rest : List StreamEntry} (hentries : entries = parsed ++ (entry_id, data) :: rest)
      (hrecords : parsed.map (record_of codec moment) = records.map some)
      (hmalformed : record_of codec moment (entry_id, data) = none) :
      Processed codec moment worker entries (worker.take_up records, some (.ack_malformed entry_id rest))

theorem process_spec (worker : Worker U T) (entries : List StreamEntry) :
    Processed codec moment worker entries (process codec settings moment worker entries) := by
  induction entries generalizing worker with
  | nil =>
    have hturns : Turns (worker.take_up []) (process codec settings moment worker []) := by
      rw [Worker.take_up_nil]
      simp only [process]
      split
      · exact flush_turns
      · exact loop_turns
    exact .all rfl hturns
  | cons entry rest ih =>
    obtain ⟨entry_id, data⟩ := entry
    simp only [process]
    split
    · rename_i reading hreading
      let record := telemetry_to_record entry_id (moment.uuid4 entry_id) reading
      have hrecord : record_of codec moment (entry_id, data) = some record := by
        simp only [record_of, hreading]
        rfl
      have hrest := ih (worker.take_up [record])
      change Processed _ _ _ _ (process codec settings moment (worker.take_up [record]) rest)
      generalize process codec settings moment (worker.take_up [record]) rest = next at hrest
      cases hrest with
      | @all records _ hrecords hturns =>
        rw [Worker.take_up_take_up] at hturns
        refine .all ?_ hturns
        simp [hrecord, hrecords]
      | @malformed records parsed malformed_id malformed_data malformed_rest hentries hrecords hmalformed =>
        rw [Worker.take_up_take_up]
        have hparsed : ((entry_id, data) :: parsed).map (record_of codec moment) = ([record] ++ records).map some := by
          simp [hrecord, hrecords]
        exact .malformed (by rw [hentries]; rfl) hparsed hmalformed
    · rename_i error herror
      have hnone : record_of codec moment (entry_id, data) = none := by simp only [record_of, herror]
      have hprocessed : Processed codec moment worker ((entry_id, data) :: rest)
          (worker.take_up [], some (.ack_malformed entry_id rest)) := .malformed (List.nil_append _).symm rfl hnone
      rw [Worker.take_up_nil] at hprocessed
      exact hprocessed

/-- Where the outcome of a call takes the worker. -/
inductive Resumed (codec : Codec U T) (moment : Moment U) (worker : Worker U T) :
    Pc U T → Outcome Reply → Worker U T × Option (Pc U T) → Prop where
  | batch {pc : Pc U T} {r : Reply} {next : Worker U T × Option (Pc U T)}
      (hpc : pc = .read ∨ ∃ entry_id rest, pc = .ack_malformed entry_id rest)
      (h : Processed codec moment worker (hand pc (some r)) next) : Resumed codec moment worker pc (.reply r) next
  | executed {values : List (TelemetryRow U T)} {stopping : Bool} {r : Reply} :
      Resumed codec moment worker (.execute values stopping) (.reply r) (worker, some (.commit values stopping))
  | committed {values : List (TelemetryRow U T)} {stopping : Bool} {r : Reply} {next : Worker U T × Option (Pc U T)}
      (h : Turns { worker with batch_writer := worker.batch_writer.clear } next) :
      Resumed codec moment worker (.commit values stopping) (.reply r) next
  | acknowledged {ids : List ℕ} {stopping : Bool} {r : Reply} {next : Worker U T × Option (Pc U T)}
      (h : Turns { worker with pending_ids := [] } next) :
      Resumed codec moment worker (.ack ids stopping) (.reply r) next
  | paused {pc : Pc U T} (hpc : pc = .read ∨ ∃ entry_id rest, pc = .ack_malformed entry_id rest) :
      Resumed codec moment worker pc .raised (worker, some .sleep)
  | turned {pc : Pc U T} {o : Outcome Reply} {next : Worker U T × Option (Pc U T)} (h : Turns worker next) :
      Resumed codec moment worker pc o next

theorem resume_spec (codec : Codec U T) (settings : Settings) (moment : Moment U) (worker : Worker U T) (pc : Pc U T)
    (o : Outcome Reply) :
    Resumed codec moment worker pc o (resume codec settings moment worker pc o) := by
  cases o with
  | reply r =>
    cases pc with
    | read =>
      cases r with
      | entries entries => exact .batch (.inl rfl) (process_spec worker entries)
      | done => exact .batch (.inl rfl) (process_spec worker [])
    | ack_malformed entry_id rest => exact .batch (.inr ⟨entry_id, rest, rfl⟩) (process_spec worker rest)
    | execute values stopping => exact .executed
    | commit values stopping => exact .committed acknowledge_turns
    | ack ids stopping => exact .acknowledged flushed_turns
    | sleep => exact .turned loop_turns
  | raised =>
    cases pc with
    | read => exact .paused (.inl rfl)
    | ack_malformed entry_id rest => exact .paused (.inr ⟨entry_id, rest, rfl⟩)
    | sleep => exact .turned loop_turns
    | _ => exact .turned flush_error_turns
  | cancelled =>
    cases pc with
    | read | ack_malformed => exact .turned stop_turns
    | sleep => exact .turned ends_turns
    | _ => exact .turned flush_cancelled_turns

end gateway.stream_to_postgres
