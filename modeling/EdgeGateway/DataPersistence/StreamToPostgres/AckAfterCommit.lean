import EdgeGateway.DataPersistence.StreamToPostgres

open gateway.telemetry gateway.batch_writer

namespace gateway.stream_to_postgres

variable {U T : Type} (codec : Codec U T)

/-- The entry does not parse into a reading. -/
def Malformed (world : World U T) (id : ℕ) : Prop :=
  ∃ data error, world.group.log[id]? = some data ∧ from_stream_dict codec data = .error error

/-- The record is one made from its entry. -/
def Genuine (world : World U T) (record : TelemetryRecord U T) : Prop :=
  ∃ data reading, world.group.log[record.source]? = some data ∧ from_stream_dict codec data = .ok reading ∧
    record = telemetry_to_record record.source record.id reading

/-- A row with what the entry says is committed. -/
def HasRow (world : World U T) (id : ℕ) : Prop :=
  ∃ record, record.source = id ∧ Genuine codec world record ∧ record.row ∈ world.rows

/-- The entries are as the stream has them. -/
def Logged (world : World U T) (entries : List StreamEntry) : Prop :=
  ∀ id data, (id, data) ∈ entries → world.group.log[id]? = some data

/-- What is buffered comes from the stream, and what awaits acknowledgement is
buffered or committed. -/
structure Backed (world : World U T) (worker : Worker U T) : Prop where
  buffered : ∀ record ∈ worker.batch_writer.buffer, Genuine codec world record
  pending : ∀ id ∈ worker.pending_ids, worker.batch_writer.Buffered id ∨ HasRow codec world id

/-- What the worker knows at its awaits. -/
def AtCall (world : World U T) (worker : Worker U T) : Pc U T → Option Reply → Prop
  | .read, some (.entries entries) => Logged world entries
  | .ack_malformed entry_id rest, _ => Malformed codec world entry_id ∧ Logged world rest
  | .execute values _, _ => values = worker.batch_writer.values
  | .commit values _, reply =>
    values = worker.batch_writer.values ∧ (reply.isSome = true → ∀ row ∈ values, row ∈ world.rows)
  | .ack ids _, _ => ids = worker.pending_ids ∧ worker.batch_writer.buffer = []
  | _, _ => True

structure Consistent (world : World U T) (worker : Worker U T) (pc : Pc U T) (reply : Option Reply) : Prop where
  backed : Backed codec world worker
  call : AtCall codec world worker pc reply

/-- The worker goes on to an await that it is ready for. -/
def Ready (world : World U T) (next : Worker U T × Option (Pc U T)) : Prop :=
  ∀ pc, next.2 = some pc → Consistent codec world next.1 pc none

variable {codec} {world : World U T} {worker : Worker U T} {settings : Settings} {moment : Moment U} {stopping : Bool}

/-- The stream and the table only grow. -/
structure World.Le (world world' : World U T) : Prop where
  log : ∀ (id : ℕ) (data : StreamDict), world.group.log[id]? = some data → world'.group.log[id]? = some data
  rows : ∀ row ∈ world.rows, row ∈ world'.rows

section Growth

variable {world' : World U T} (hle : world.Le world')
include hle

theorem Malformed.mono {id : ℕ} (h : Malformed codec world id) : Malformed codec world' id := by
  obtain ⟨data, error, hlog, herror⟩ := h
  exact ⟨data, error, hle.log id data hlog, herror⟩

theorem Genuine.mono {record : TelemetryRecord U T} (h : Genuine codec world record) : Genuine codec world' record := by
  obtain ⟨data, reading, hlog, hreading⟩ := h
  exact ⟨data, reading, hle.log _ data hlog, hreading⟩

theorem HasRow.mono {id : ℕ} (h : HasRow codec world id) : HasRow codec world' id := by
  obtain ⟨record, hsource, hgenuine, hrow⟩ := h
  exact ⟨record, hsource, hgenuine.mono hle, hle.rows _ hrow⟩

theorem Logged.mono {entries : List StreamEntry} (h : Logged world entries) : Logged world' entries :=
  fun id data hmem => hle.log id data (h id data hmem)

theorem Backed.mono (h : Backed codec world worker) : Backed codec world' worker where
  buffered record hmem := (h.buffered record hmem).mono hle
  pending id hid := (h.pending id hid).imp_right (HasRow.mono hle)

theorem Consistent.mono {pc : Pc U T} {reply : Option Reply} (h : Consistent codec world worker pc reply) :
    Consistent codec world' worker pc reply := by
  refine ⟨h.backed.mono hle, ?_⟩
  have hcall := h.call
  cases pc with
  | read =>
    cases reply with
    | none => trivial
    | some reply =>
      cases reply with
      | entries entries => exact Logged.mono hle hcall
      | done => trivial
  | ack_malformed entry_id rest => exact ⟨hcall.1.mono hle, hcall.2.mono hle⟩
  | execute values stopping => exact hcall
  | commit values stopping => exact ⟨hcall.1, fun hsome row hrow => hle.rows row (hcall.2 hsome row hrow)⟩
  | ack ids stopping => exact hcall
  | sleep => trivial

end Growth

theorem stop_ready (h : Backed codec world worker) : Ready codec world (stop worker) := by
  intro pc hpc
  simp only [stop] at hpc ⊢
  split at hpc
  · rename_i hsize
    cases hpc
    rw [if_pos hsize]
    exact ⟨h, rfl⟩
  · cases hpc

theorem loop_ready (h : Backed codec world worker) : Ready codec world (loop moment worker) := by
  unfold loop
  split
  · exact stop_ready h
  · rintro pc ⟨⟩
    exact ⟨h, trivial⟩

theorem flushed_ready (h : Backed codec world worker) : Ready codec world (flushed moment stopping worker) := by
  unfold flushed
  split
  · rintro pc ⟨⟩
  · exact loop_ready ⟨h.buffered, h.pending⟩

theorem acknowledge_ready (h : Backed codec world worker) (hempty : worker.batch_writer.buffer = []) :
    Ready codec world (acknowledge moment stopping worker) := by
  unfold acknowledge
  split
  · exact flushed_ready h
  · rintro pc ⟨⟩
    exact ⟨h, rfl, hempty⟩

theorem flush_ready (h : Backed codec world worker) : Ready codec world (flush moment stopping worker) := by
  unfold flush
  split
  · rename_i hsize
    exact acknowledge_ready h (List.length_eq_zero_iff.mp hsize)
  · rintro pc ⟨⟩
    exact ⟨h, rfl⟩

theorem flush_error_ready (h : Backed codec world worker) : Ready codec world (flush_error moment stopping worker) := by
  unfold flush_error
  split
  · rintro pc ⟨⟩
  · exact loop_ready h

theorem flush_cancelled_ready (h : Backed codec world worker) : Ready codec world (flush_cancelled stopping worker) := by
  unfold flush_cancelled
  split
  · rintro pc ⟨⟩
  · exact stop_ready h

theorem process_ready {entries : List StreamEntry} (h : Backed codec world worker) (hlogged : Logged world entries) :
    Ready codec world (process codec settings moment worker entries) := by
  induction entries generalizing worker with
  | nil =>
    simp only [process]
    split
    · exact flush_ready h
    · exact loop_ready h
  | cons entry rest ih =>
    obtain ⟨entry_id, data⟩ := entry
    have hdata := hlogged entry_id data List.mem_cons_self
    have hrest : Logged world rest := fun id data hmem => hlogged id data (List.mem_cons_of_mem _ hmem)
    simp only [process]
    split
    · rename_i reading hreading
      refine ih ⟨?_, ?_⟩ hrest
      · intro record hmem
        obtain hold | hnew := List.mem_append.mp hmem
        · exact h.buffered record hold
        · obtain rfl := List.mem_singleton.mp hnew
          exact ⟨data, reading, hdata, hreading, rfl⟩
      · intro id hid
        rw [BatchWriter.buffered_accumulate]
        obtain hold | hnew := List.mem_append.mp hid
        · exact (h.pending id hold).imp_left .inl
        · exact .inl (.inr (List.mem_singleton.mp hnew).symm)
    · rename_i error herror
      rintro pc ⟨⟩
      exact ⟨h, ⟨data, error, hdata, herror⟩, hrest⟩

/-- Once the rows are committed, whatever was buffered has one. -/
theorem Backed.clear (h : Backed codec world worker)
    (hcommitted : ∀ row ∈ worker.batch_writer.values, row ∈ world.rows) :
    Backed codec world { worker with batch_writer := worker.batch_writer.clear } := by
  refine ⟨fun record hmem => (List.not_mem_nil hmem).elim, fun id hid => .inr ?_⟩
  obtain ⟨record, hmem, hsource⟩ | hrow := h.pending id hid
  · exact ⟨record, hsource, h.buffered record hmem, hcommitted _ (List.mem_map_of_mem hmem)⟩
  · exact hrow

theorem resume_ready {pc : Pc U T} {reply : Option Reply} {o : Outcome Reply} (h : Consistent codec world worker pc reply)
    (hreply : ∀ r, o = .reply r → reply = some r) : Ready codec world (resume codec settings moment worker pc o) := by
  have hcall := h.call
  cases o with
  | reply r =>
    obtain rfl := hreply r rfl
    cases pc with
    | read =>
      cases r with
      | entries entries => exact process_ready h.backed hcall
      | done => exact process_ready h.backed fun id data hmem => (List.not_mem_nil hmem).elim
    | ack_malformed entry_id rest => exact process_ready h.backed hcall.2
    | execute values stopping =>
      rintro pc ⟨⟩
      exact ⟨h.backed, hcall, fun hsome => by cases hsome⟩
    | commit values stopping =>
      obtain ⟨rfl, hcommitted⟩ := hcall
      exact acknowledge_ready (h.backed.clear (hcommitted rfl)) rfl
    | ack ids stopping => exact flushed_ready ⟨h.backed.buffered, fun id hid => (List.not_mem_nil hid).elim⟩
    | sleep => exact loop_ready h.backed
  | raised =>
    cases pc with
    | read =>
      rintro pc ⟨⟩
      exact ⟨h.backed, trivial⟩
    | ack_malformed entry_id rest =>
      rintro pc ⟨⟩
      exact ⟨h.backed, trivial⟩
    | sleep => exact loop_ready h.backed
    | _ => exact flush_error_ready h.backed
  | cancelled =>
    cases pc with
    | read => exact stop_ready h.backed
    | ack_malformed entry_id rest => exact stop_ready h.backed
    | sleep => rintro pc ⟨⟩
    | _ => exact flush_cancelled_ready h.backed

theorem execute_le [DecidableEq U] {admits : TelemetryRow U T → Bool} {pc : Pc U T} {world' : World U T} {reply : Reply}
    (h : execute settings admits world pc = some (world', reply)) : world.Le world' := by
  cases pc with
  | read =>
    simp only [execute] at h
    split at h
    · cases h
    · cases h
      exact ⟨fun _ _ h => h, fun _ h => h⟩
  | execute values stopping =>
    simp only [execute] at h
    split at h
    · cases h
      exact ⟨fun _ _ h => h, fun _ h => h⟩
    · cases h
  | commit values stopping =>
    cases h
    exact ⟨fun _ _ h => h, fun _ h => List.mem_append_left _ h⟩
  | _ =>
    cases h
    exact ⟨fun _ _ h => h, fun _ h => h⟩

theorem execute_consistent [DecidableEq U] {admits : TelemetryRow U T → Bool} {pc : Pc U T} {world' : World U T}
    {reply : Reply} (h : Consistent codec world worker pc none)
    (hexec : execute settings admits world pc = some (world', reply)) :
    Consistent codec world' worker pc (some reply) := by
  have hle := execute_le hexec
  have hcall := (h.mono hle).call
  refine ⟨h.backed.mono hle, ?_⟩
  cases pc with
  | read =>
    simp only [execute] at hexec
    split at hexec
    · cases hexec
    · cases hexec
      exact fun id data hmem => (world.group.mem_fresh hmem).2.2
  | commit values stopping =>
    cases hexec
    exact ⟨hcall.1, fun _ row hrow => List.mem_append_right _ hrow⟩
  | _ => exact hcall

theorem occur_le {e : Event} {world' : World U T} (h : occur world e = some world') : world.Le world' := by
  cases e with
  | xadd data =>
    cases h
    refine ⟨fun id data' hlog => ?_, fun _ h => h⟩
    have hlt : id < world.group.log.length := (List.getElem?_eq_some_iff.mp hlog).1
    simp only [ConsumerGroup.xadd]
    rw [List.getElem?_append_left hlt, hlog]
  | xtrim count =>
    cases h
    exact ⟨fun _ _ h => h, fun _ h => h⟩

section Runs

variable [DecidableEq U] {admits : TelemetryRow U T → Bool} {s : State U T}

/-- In every run the worker is consistent with Redis and PostgreSQL. -/
theorem reachable_consistent {ok : State U T → Action U → Prop}
    (h : (system codec settings admits).ReachableWhere ok s) :
    ∀ p, s.process = some p → Consistent codec s.server p.vars p.pc p.reply := by
  refine (Daemon.invariant (G := fun _ => True) (I := Consistent codec) (fun _ _ => trivial)
    ?_ ?_ ?_ ?_ h).2
  · intro world moment worker pc _ hstart
    have hempty : Backed codec world ({ last_flush_time := moment.monotonic } : Worker U T) :=
      ⟨fun _ hmem => (List.not_mem_nil hmem).elim, fun _ hid => (List.not_mem_nil hid).elim⟩
    have hready : Ready codec world (loop moment { last_flush_time := moment.monotonic }) := loop_ready hempty
    change loop moment _ = _ at hstart
    rw [hstart] at hready
    exact hready pc rfl
  · exact fun world worker pc _ world' reply _ hI hexec => ⟨trivial, execute_consistent hI hexec⟩
  · intro world moment worker pc reply o worker' pc' _ hI hreply hresume
    have hready : Ready codec world (resume codec settings moment worker pc o) := resume_ready hI hreply
    change resume codec settings moment worker pc o = _ at hresume
    rw [hresume] at hready
    exact hready pc' rfl
  · exact fun world e world' _ hevent => ⟨trivial, fun _ _ _ hI => hI.mono (occur_le hevent)⟩

/-- The entry ids passed to the `stream_ack` that the worker awaits. -/
def stream_ack_ids : Pc U T → List ℕ
  | .ack_malformed entry_id _ => [entry_id]
  | .ack ids _ => ids
  | _ => []

/-- In every run, an entry that the worker acknowledges does not parse or has a row
that is committed by then. -/
theorem acknowledged_after_commit {p : Process U T} {id : ℕ} (h : (system codec settings admits).Reachable s)
    (hprocess : s.process = some p) (hid : id ∈ stream_ack_ids p.pc) :
    Malformed codec s.server id ∨ HasRow codec s.server id := by
  obtain ⟨worker, pc, reply⟩ := p
  obtain ⟨hbacked, hcall⟩ := reachable_consistent h _ hprocess
  cases pc with
  | ack_malformed entry_id rest =>
    obtain rfl := List.mem_singleton.mp hid
    exact .inl hcall.1
  | ack ids stopping =>
    obtain ⟨hids, hempty⟩ := hcall
    obtain ⟨record, hmem, _⟩ | hrow := hbacked.pending id (hids ▸ hid)
    · rw [hempty] at hmem
      exact (List.not_mem_nil hmem).elim
    · exact .inr hrow
  | _ => exact (List.not_mem_nil hid).elim

end Runs

/-- A batch of one entry is flushed and then acknowledged. -/
theorem acknowledged_after_commit_one_entry :
    ∃ (s : State String String) (p : Process String String), s.process = some p ∧ stream_ack_ids p.pc = [0] ∧
      (Malformed sample_codec s.server 0 ∨ HasRow sample_codec s.server 0) := by
  obtain ⟨s, hreach, htest⟩ := TransitionSystem.exists_of_replay (fun _ _ => True)
    (fun _ _ => true) (fun _ _ _ => trivial) (s := idle) (idle_initial sample_codec one_by_one fun _ => true)
    [.event (.xadd sample_data), .start (sample_moment false), .exec (), .finish (sample_moment false) .replied, .exec (),
      .finish (sample_moment false) .replied, .exec (), .finish (sample_moment false) .replied]
    (fun s => s.process.any fun p => stream_ack_ids p.pc = [0])
    (by decide)
  obtain ⟨p, hprocess, hids⟩ := (Option.any_eq_true _ _).mp htest
  have hids : stream_ack_ids p.pc = [0] := of_decide_eq_true hids
  exact ⟨s, p, hprocess, hids, acknowledged_after_commit hreach hprocess (hids ▸ List.mem_singleton_self 0)⟩

end gateway.stream_to_postgres
