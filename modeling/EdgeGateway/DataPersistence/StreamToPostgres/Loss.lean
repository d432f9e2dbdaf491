import EdgeGateway.DataPersistence.StreamToPostgres.Turns
import EdgeGateway.Library.ConsumerGroup

open gateway.telemetry gateway.batch_writer

namespace gateway.stream_to_postgres

variable {U T : Type} {codec : Codec U T} {settings : Settings} {moment : Moment U} {stopping : Bool}
  {world : World U T} {worker : Worker U T}

/-- The entry is in the buffer, or in the batch the worker is processing. -/
def Held (p : Process U T) (id : ℕ) : Prop :=
  p.vars.batch_writer.Buffered id ∨ ∃ data, (id, data) ∈ hand p.pc p.reply

/-- The worker goes on to an await and keeps the entry. -/
def Keeps (next : Worker U T × Option (Pc U T)) (id : ℕ) : Prop :=
  ∃ pc, next.2 = some pc ∧ Held { vars := next.1, pc } id

/-- The worker goes on with the buffer it has and with no entry at hand. -/
structure SameBuffer (worker : Worker U T) (next : Worker U T × Option (Pc U T)) : Prop where
  batch_writer : next.1.batch_writer = worker.batch_writer
  hand : ∀ pc, next.2 = some pc → hand pc none = []

theorem Turns.sameBuffer {next : Worker U T × Option (Pc U T)} (h : Turns worker next) : SameBuffer worker next :=
  ⟨h.batch_writer, fun _ => h.hand⟩

theorem stop_keeps {id : ℕ} (h : worker.batch_writer.Buffered id) : Keeps (stop worker) id := by
  rw [stop, if_pos h.size_pos]
  exact ⟨_, rfl, .inl h⟩

theorem loop_keeps {id : ℕ} (h : worker.batch_writer.Buffered id) : Keeps (loop moment worker) id := by
  unfold loop
  split
  · exact stop_keeps h
  · exact ⟨_, rfl, .inl h⟩

theorem flush_keeps {id : ℕ} (h : worker.batch_writer.Buffered id) : Keeps (flush moment stopping worker) id := by
  have hpos := h.size_pos
  rw [flush, if_neg (by omega)]
  exact ⟨_, rfl, .inl h⟩

/-- Processing a batch buffers its well-formed entries, or leaves them at hand. -/
theorem process_keeps {entries : List StreamEntry} {id : ℕ}
    (h : worker.batch_writer.Buffered id ∨
      ∃ data reading, (id, data) ∈ entries ∧ from_stream_dict codec data = .ok reading) :
    Keeps (process codec settings moment worker entries) id := by
  induction entries generalizing worker with
  | nil =>
    have hbuffered : worker.batch_writer.Buffered id := by
      obtain hbuffered | ⟨_, _, hmem, _⟩ := h
      · exact hbuffered
      · cases hmem
    simp only [process]
    split
    · exact flush_keeps hbuffered
    · exact loop_keeps hbuffered
  | cons entry rest ih =>
    obtain ⟨entry_id, data⟩ := entry
    simp only [process]
    split
    · refine ih ?_
      rw [BatchWriter.buffered_accumulate]
      obtain hbuffered | ⟨data', reading', hmem, hreading'⟩ := h
      · exact .inl (.inl hbuffered)
      · obtain heq | hrest := List.mem_cons.mp hmem
        · cases heq
          exact .inl (.inr rfl)
        · exact .inr ⟨data', reading', hrest, hreading'⟩
    · rename_i error herror
      refine ⟨_, rfl, ?_⟩
      obtain hbuffered | ⟨data', reading', hmem, hreading'⟩ := h
      · exact .inl hbuffered
      · obtain heq | hrest := List.mem_cons.mp hmem
        · cases heq
          rw [herror] at hreading'
          cases hreading'
        · exact .inr ⟨data', hrest⟩

/-- The entries at hand come after the buffered ones, in the order of their ids. -/
structure InOrder (world : World U T) (worker : Worker U T) (pc : Pc U T) (reply : Option Reply) : Prop where
  buffered_lt : ∀ record ∈ worker.batch_writer.buffer, record.source < world.group.next
  hand_lt : ∀ entry ∈ hand pc reply, entry.1 < world.group.next
  sorted : (hand pc reply).Pairwise fun a b => a.1 < b.1
  apart : ∀ record ∈ worker.batch_writer.buffer, ∀ entry ∈ hand pc reply, record.source < entry.1

theorem InOrder.mono {world' : World U T} {pc : Pc U T} {reply : Option Reply} (h : InOrder world worker pc reply)
    (hle : world.group.next ≤ world'.group.next) : InOrder world' worker pc reply where
  buffered_lt record hmem := Nat.lt_of_lt_of_le (h.buffered_lt record hmem) hle
  hand_lt entry hmem := Nat.lt_of_lt_of_le (h.hand_lt entry hmem) hle
  sorted := h.sorted
  apart := h.apart

/-- What is at hand is not buffered. -/
theorem InOrder.not_buffered {pc : Pc U T} {reply : Option Reply} (h : InOrder world worker pc reply) {id : ℕ}
    {data : StreamDict} (hmem : (id, data) ∈ hand pc reply) : ¬ worker.batch_writer.Buffered id := by
  rintro ⟨record, hrecord, rfl⟩
  exact Nat.lt_irrefl _ (h.apart record hrecord _ hmem)

theorem SameBuffer.inOrder {next : Worker U T × Option (Pc U T)} (hsame : SameBuffer worker next)
    (h : ∀ record ∈ worker.batch_writer.buffer, record.source < world.group.next) {pc : Pc U T}
    (hpc : next.2 = some pc) : InOrder world next.1 pc none := by
  have hhand := hsame.hand pc hpc
  refine ⟨?_, ?_, ?_, ?_⟩
  · rw [hsame.batch_writer]
    exact h
  · simp [hhand]
  · simp [hhand]
  · simp [hhand]

theorem Processed.inOrder {entries : List StreamEntry} {next : Worker U T × Option (Pc U T)}
    (h : Processed codec moment worker entries next)
    (hbuffered : ∀ record ∈ worker.batch_writer.buffer, record.source < world.group.next)
    (hentries : ∀ entry ∈ entries, entry.1 < world.group.next) (hsorted : entries.Pairwise fun a b => a.1 < b.1)
    (hapart : ∀ record ∈ worker.batch_writer.buffer, ∀ entry ∈ entries, record.source < entry.1) {pc : Pc U T}
    (hpc : next.2 = some pc) : InOrder world next.1 pc none := by
  -- what is taken up has the ids of entries
  have htaken : ∀ {parsed : List StreamEntry} {records : List (TelemetryRecord U T)},
      parsed.map (record_of codec moment) = records.map some → ∀ record ∈ (worker.take_up records).batch_writer.buffer,
        record ∈ worker.batch_writer.buffer ∨ ∃ entry ∈ parsed, entry.1 = record.source := by
    intro parsed records hrecords record hmem
    obtain hold | hnew := List.mem_append.mp hmem
    · exact .inl hold
    · have hsource : record.source ∈ parsed.map Prod.fst := by
        rw [← sources_of_records hrecords]
        exact List.mem_map_of_mem hnew
      exact .inr (List.mem_map.mp hsource)
  cases h with
  | all hrecords hturns =>
    refine hturns.sameBuffer.inOrder ?_ hpc
    intro record hmem
    obtain hold | ⟨entry, hentry, hsource⟩ := htaken hrecords record hmem
    · exact hbuffered record hold
    · rw [← hsource]
      exact hentries entry hentry
  | malformed hsplit hrecords _ =>
    cases hpc
    subst hsplit
    obtain ⟨_, hrest, hbefore⟩ := List.pairwise_append.mp hsorted
    refine ⟨?_, ?_, (List.pairwise_cons.mp hrest).2, ?_⟩
    · intro record hmem
      obtain hold | ⟨entry, hentry, hsource⟩ := htaken hrecords record hmem
      · exact hbuffered record hold
      · rw [← hsource]
        exact hentries entry (List.mem_append_left _ hentry)
    · intro entry hentry
      exact hentries entry (List.mem_append_right _ (List.mem_cons_of_mem _ hentry))
    · intro record hmem entry hentry
      obtain hold | ⟨taken, htaken, hsource⟩ := htaken hrecords record hmem
      · exact hapart record hold entry (List.mem_append_right _ (List.mem_cons_of_mem _ hentry))
      · rw [← hsource]
        exact hbefore taken htaken entry (List.mem_cons_of_mem _ hentry)

theorem resume_inOrder {pc pc' : Pc U T} {reply : Option Reply} {o : Outcome Reply} (h : InOrder world worker pc reply)
    (hreply : ∀ r, o = .reply r → reply = some r)
    (hnext : (resume codec settings moment worker pc o).2 = some pc') :
    InOrder world (resume codec settings moment worker pc o).1 pc' none := by
  have hbuffered := h.buffered_lt
  have hspec := resume_spec codec settings moment worker pc o
  generalize resume codec settings moment worker pc o = next at hspec hnext
  cases hspec with
  | batch _ hprocessed =>
    obtain rfl := hreply _ rfl
    exact hprocessed.inOrder hbuffered h.hand_lt h.sorted h.apart hnext
  | executed =>
    cases hnext
    exact ⟨hbuffered, by simp [hand], .nil, by simp [hand]⟩
  | committed hturns => exact hturns.sameBuffer.inOrder (fun _ hmem => (List.not_mem_nil hmem).elim) hnext
  | acknowledged hturns => exact hturns.sameBuffer.inOrder hbuffered hnext
  | paused _ =>
    cases hnext
    exact ⟨hbuffered, by simp [hand], .nil, by simp [hand]⟩
  | turned hturns => exact hturns.sameBuffer.inOrder hbuffered hnext

section Execution

variable [DecidableEq U] {admits : TelemetryRow U T → Bool}

/-- What the execution of a call does to the group and to what is at hand. -/
theorem execute_group {pc : Pc U T} {world' : World U T} {reply : Reply}
    (h : execute settings admits world pc = some (world', reply)) :
    (pc = .read ∧ world'.group = world.group.xreadgroup settings.batch_size ∧
        reply = .entries (world.group.fresh settings.batch_size)) ∨
      (pc ≠ .read ∧ reply = .done ∧ (world'.group = world.group ∨
        ∃ ids, world'.group = world.group.xack ids)) := by
  cases pc with
  | read =>
    simp only [execute] at h
    split at h
    · cases h
    · cases h
      exact .inl ⟨rfl, rfl, rfl⟩
  | execute values stopping =>
    simp only [execute] at h
    split at h
    · cases h
      exact .inr ⟨by simp, rfl, .inl rfl⟩
    · cases h
  | commit values stopping =>
    cases h
    exact .inr ⟨by simp, rfl, .inl rfl⟩
  | sleep =>
    cases h
    exact .inr ⟨by simp, rfl, .inl rfl⟩
  | _ =>
    cases h
    exact .inr ⟨by simp, rfl, .inr ⟨_, rfl⟩⟩

omit [DecidableEq U] in
theorem hand_done {pc : Pc U T} : hand pc (some .done) = hand pc none := by
  cases pc <;> rfl

theorem next_le_execute {pc : Pc U T} {world' : World U T} {reply : Reply}
    (h : execute settings admits world pc = some (world', reply)) : world.group.next ≤ world'.group.next := by
  obtain ⟨_, hgroup, _⟩ | ⟨_, _, hgroup | ⟨ids, hgroup⟩⟩ := execute_group h
  · rw [hgroup]
    exact world.group.next_le_xreadgroup _
  · exact Nat.le_of_eq (by rw [hgroup])
  · exact Nat.le_of_eq (by rw [hgroup]; rfl)

theorem execute_inOrder {pc : Pc U T} {world' : World U T} {reply : Reply} (h : InOrder world worker pc none)
    (hexec : execute settings admits world pc = some (world', reply)) : InOrder world' worker pc (some reply) := by
  have hle := next_le_execute hexec
  obtain ⟨rfl, hgroup, rfl⟩ | ⟨_, rfl, _⟩ := execute_group hexec
  · refine ⟨(h.mono hle).buffered_lt, ?_, world.group.fresh_sorted _, ?_⟩
    · rintro ⟨id, data⟩ hmem
      rw [hgroup]
      exact (world.group.mem_fresh hmem).2.1
    · rintro record hrecord ⟨id, data⟩ hmem
      exact Nat.lt_of_lt_of_le (h.buffered_lt record hrecord) (world.group.next_le_of_mem_fresh hmem)
  · have hmono := h.mono hle
    exact ⟨hmono.buffered_lt, by rw [hand_done]; exact hmono.hand_lt, by rw [hand_done]; exact hmono.sorted,
      by rw [hand_done]; exact hmono.apart⟩

omit [DecidableEq U] in
theorem occur_group {e : Event} {world' : World U T} (h : occur world e = some world') :
    world'.group.next = world.group.next ∧ world'.group.pending = world.group.pending := by
  cases e <;> cases h <;> exact ⟨rfl, rfl⟩

variable {s s' : State U T} {a : Action U}

/-- In every run the entries at hand come after the buffered ones. -/
theorem reachable_inOrder {ok : State U T → Action U → Prop} (h : (system codec settings admits).ReachableWhere ok s) :
    ∀ p, s.process = some p → InOrder s.server p.vars p.pc p.reply := by
  refine (Daemon.invariant (G := fun _ => True) (I := InOrder) (fun _ _ => trivial) ?_ ?_ ?_ ?_ h).2
  · intro world moment worker pc _ hstart
    change loop moment _ = _ at hstart
    have hsame : SameBuffer ({ last_flush_time := moment.monotonic } : Worker U T) (worker, some pc) := by
      rw [← hstart]
      exact loop_turns.sameBuffer
    exact hsame.inOrder (fun _ hmem => (List.not_mem_nil hmem).elim) rfl
  · exact fun world worker pc _ world' reply _ hI hexec => ⟨trivial, execute_inOrder hI hexec⟩
  · intro world moment worker pc reply o worker' pc' _ hI hreply hresume
    have hnext : ∀ pc', (resume codec settings moment worker pc o).2 = some pc' →
        InOrder world (resume codec settings moment worker pc o).1 pc' none := fun _ => resume_inOrder hI hreply
    change resume codec settings moment worker pc o = _ at hresume
    rw [hresume] at hnext
    exact hnext pc' rfl
  · exact fun world e world' _ hevent => ⟨trivial, fun _ _ _ hI => hI.mono (Nat.le_of_eq (occur_group hevent).1.symm)⟩

/-- What a reply hands out. -/
def Reply.handed_out : Reply → List StreamEntry
  | .entries batch => batch
  | .done => []

/-- The worker reads `raw_telemetry` for the group `data_persistence`. -/
def reader (codec : Codec U T) (settings : Settings) (admits : TelemetryRow U T → Bool) :
    StreamReader (daemon codec settings admits) StreamDict where
  group := World.group
  entries := Reply.handed_out
  exec_group world pc _ world' reply hexec := by
    obtain ⟨_, hgroup, rfl⟩ | ⟨_, rfl, hgroup | ⟨ids, hgroup⟩⟩ := execute_group hexec
    · exact .inl ⟨_, hgroup, rfl⟩
    · exact .inr ⟨rfl, by rw [hgroup], by rw [hgroup]; exact fun _ h => h⟩
    · refine .inr ⟨rfl, by rw [hgroup]; rfl, fun id hid => ?_⟩
      rw [hgroup, ConsumerGroup.mem_pending_xack] at hid
      exact hid.1
  event_group _ _ _ hevent := occur_group hevent

variable (codec) in
/-- The entry was delivered and is well-formed, but neither acknowledged nor committed. -/
def Unsettled (world : World U T) (id : ℕ) : Prop :=
  id ∈ world.group.pending ∧
    (∃ data reading, world.group.log[id]? = some data ∧ from_stream_dict codec data = .ok reading) ∧
    ¬ HasRow codec world id

/-- Every such entry is in the worker's buffer or in the batch it is processing, or
can be read again. -/
def NothingLost (codec : Codec U T) (settings : Settings) (admits : TelemetryRow U T → Bool) (s : State U T) : Prop :=
  ∀ id, Unsettled codec s.server id →
    (∃ p, s.process = some p ∧ Held p id) ∨ (reader codec settings admits).Obtainable initial s id

/-- An exception at the call takes the worker out of its loop and its buffer with it. -/
def leaves : Daemon.Ending → Pc U T → Bool
  | .replied, _ => false
  | _, .execute _ stopping | _, .commit _ stopping | _, .ack _ stopping => stopping
  | .cancelled, .sleep => true
  | _, _ => false

/-- The action takes the entry out of the worker's memory: a crash, an exception while
the entry is at hand, or one that leaves the worker while the entry is buffered. -/
def Abandons (p : Process U T) : Action U → ℕ → Prop
  | .crash, id => Held p id
  | .finish _ how, id =>
    how ≠ .replied ∧ (∃ data, (id, data) ∈ hand p.pc p.reply) ∨
      leaves how p.pc = true ∧ p.vars.batch_writer.Buffered id
  | _, _ => False

/-- No entry is abandoned before it is acknowledged or committed. -/
def KeepsUnsettled (codec : Codec U T) (s : State U T) (a : Action U) : Prop :=
  ∀ p, s.process = some p → ∀ id, Unsettled codec s.server id → ¬ Abandons p a id

omit [DecidableEq U] in
theorem abandons_finish {p : Process U T} {how : Daemon.Ending} {id : ℕ} :
    Abandons p (.finish moment how) id ↔
      how ≠ .replied ∧ (∃ data, (id, data) ∈ hand p.pc p.reply) ∨
        leaves how p.pc = true ∧ p.vars.batch_writer.Buffered id :=
  Iff.rfl

theorem NothingLost.held (hgood : NothingLost codec settings admits s)
    (hreach : (system codec settings admits).Reachable s) {id : ℕ} (h : Unsettled codec s.server id) :
    ∃ p, s.process = some p ∧ Held p id :=
  (hgood id h).resolve_right ((reader codec settings admits).not_obtainable hreach (s.server.group.pending_lt id h.1))

omit [DecidableEq U] in
/-- A worker whose call was answered keeps what it holds until it is settled. -/
theorem resume_keeps {p : Process U T} {reply : Reply} (hconsistent : Consistent codec world p.vars p.pc p.reply)
    (hreply : p.reply = some reply) {id : ℕ} (hheld : Held p id) (h : Unsettled codec world id) :
    Keeps (resume codec settings moment p.vars p.pc (.reply reply)) id := by
  obtain ⟨worker, pc, _⟩ := p
  obtain rfl : _ = some reply := hreply
  obtain ⟨hbacked, hcall⟩ := hconsistent
  obtain ⟨_, ⟨data, reading, hlog, hreading⟩, hrow⟩ := h
  have hfound : ∀ {entries : List StreamEntry}, Logged world entries →
      (worker.batch_writer.Buffered id ∨ ∃ data, (id, data) ∈ entries) →
      worker.batch_writer.Buffered id ∨ ∃ data reading, (id, data) ∈ entries ∧ from_stream_dict codec data = .ok reading := by
    rintro entries hlogged (hbuffered | ⟨data', hmem⟩)
    · exact .inl hbuffered
    · have hsame := hlogged id data' hmem
      rw [hlog] at hsame
      cases hsame
      exact .inr ⟨data, reading, hmem, hreading⟩
  have hbuffered : hand pc (some reply) = [] → worker.batch_writer.Buffered id := by
    intro hempty
    obtain hbuffered | ⟨_, hmem⟩ := hheld
    · exact hbuffered
    · rw [hempty] at hmem
      cases hmem
  cases pc with
  | read =>
    cases reply with
    | entries entries => exact process_keeps (hfound hcall hheld)
    | done => exact process_keeps (.inl (hbuffered rfl))
  | ack_malformed entry_id rest => exact process_keeps (hfound hcall.2 hheld)
  | execute values stopping => exact ⟨_, rfl, .inl (hbuffered rfl)⟩
  | commit values stopping =>
    -- The rows are committed, so the entry is settled.
    obtain ⟨hvalues, hcommitted⟩ := hcall
    obtain ⟨record, hmem, hsource⟩ := hbuffered rfl
    have hvalue : record.row ∈ values := hvalues ▸ List.mem_map_of_mem hmem
    exact absurd ⟨record, hsource, hbacked.buffered record hmem, hcommitted rfl _ hvalue⟩ hrow
  | ack ids stopping =>
    obtain ⟨record, hmem, _⟩ := hbuffered rfl
    rw [hcall.2] at hmem
    cases hmem
  | sleep => exact loop_keeps (hbuffered rfl)

omit [DecidableEq U] in
theorem SameBuffer.buffered_of_keeps {next : Worker U T × Option (Pc U T)} (hsame : SameBuffer worker next) {id : ℕ}
    (h : Keeps next id) : worker.batch_writer.Buffered id := by
  obtain ⟨pc, hpc, hbuffered | ⟨data, hmem⟩⟩ := h
  · rw [← hsame.batch_writer]
    exact hbuffered
  · rw [hsame.hand pc hpc] at hmem
    cases hmem

omit [DecidableEq U] in
theorem flush_error_keeps_iff {id : ℕ} (h : worker.batch_writer.Buffered id) :
    Keeps (flush_error moment stopping worker) id ↔ stopping = false := by
  cases stopping with
  | true =>
    refine ⟨?_, fun heq => by cases heq⟩
    rintro ⟨pc, ⟨⟩, _⟩
  | false => exact ⟨fun _ => rfl, fun _ => loop_keeps h⟩

omit [DecidableEq U] in
theorem flush_cancelled_keeps_iff {id : ℕ} (h : worker.batch_writer.Buffered id) :
    Keeps (flush_cancelled stopping worker) id ↔ stopping = false := by
  cases stopping with
  | true =>
    refine ⟨?_, fun heq => by cases heq⟩
    rintro ⟨pc, ⟨⟩, _⟩
  | false => exact ⟨fun _ => rfl, fun _ => stop_keeps h⟩

/-- After an exception the worker keeps exactly what it does not abandon. -/
theorem exception_keeps_iff {p : Process U T} {how : Daemon.Ending} {o : Outcome Reply}
    (hinOrder : InOrder world p.vars p.pc p.reply) (hhow : how ≠ .replied)
    (houtcome : (daemon codec settings admits).outcome p how = some o) {id : ℕ} (hheld : Held p id) :
    Keeps (resume codec settings moment p.vars p.pc o) id ↔ ¬ Abandons p (.finish moment how) id := by
  obtain ⟨worker, pc, reply⟩ := p
  have hapart : (∃ data, (id, data) ∈ hand pc reply) → ¬ worker.batch_writer.Buffered id :=
    fun ⟨_, hmem⟩ => hinOrder.not_buffered hmem
  have hbuffered : hand pc reply = [] → worker.batch_writer.Buffered id := by
    intro hempty
    obtain hbuffered | ⟨_, hmem⟩ := hheld
    · exact hbuffered
    · rw [hempty] at hmem
      cases hmem
  -- An exception while a batch is being processed drops what is at hand, and one in a
  -- flush drops the buffer exactly if it leaves the worker.
  have hbatch : leaves how pc = false → (Keeps (resume codec settings moment worker pc o) id ↔
      worker.batch_writer.Buffered id) → (Keeps (resume codec settings moment worker pc o) id ↔
        ¬ Abandons { vars := worker, pc, reply } (.finish moment how) id) := by
    intro hleaves hkeeps
    rw [hkeeps, abandons_finish, hleaves]
    constructor
    · rintro hbuffered (⟨_, hmem⟩ | ⟨⟨⟩, _⟩)
      exact hapart hmem hbuffered
    · intro hnot
      exact hheld.resolve_right fun hmem => hnot (.inl ⟨hhow, hmem⟩)
  have hflush : hand pc reply = [] → (Keeps (resume codec settings moment worker pc o) id ↔ leaves how pc = false) →
      (Keeps (resume codec settings moment worker pc o) id ↔
        ¬ Abandons { vars := worker, pc, reply } (.finish moment how) id) := by
    intro hempty hkeeps
    rw [hkeeps, abandons_finish, hempty]
    simp [hbuffered hempty]
  cases how with
  | replied => exact absurd rfl hhow
  | raised =>
    obtain ⟨hraises, rfl⟩ := Daemon.outcome_raised houtcome
    have hsleep : SameBuffer worker (worker, some .sleep) := ⟨rfl, by rintro pc ⟨⟩; rfl⟩
    cases pc with
    | read => exact hbatch rfl ⟨hsleep.buffered_of_keeps, fun h => ⟨_, rfl, .inl h⟩⟩
    | ack_malformed entry_id rest => exact hbatch rfl ⟨hsleep.buffered_of_keeps, fun h => ⟨_, rfl, .inl h⟩⟩
    | sleep => cases hraises
    | _ => exact hflush rfl (flush_error_keeps_iff (hbuffered rfl))
  | cancelled =>
    cases houtcome
    cases pc with
    | read => exact hbatch rfl ⟨stop_turns.sameBuffer.buffered_of_keeps, stop_keeps⟩
    | ack_malformed entry_id rest => exact hbatch rfl ⟨stop_turns.sameBuffer.buffered_of_keeps, stop_keeps⟩
    | sleep =>
      refine hflush rfl ⟨?_, fun heq => by cases heq⟩
      rintro ⟨pc, ⟨⟩, _⟩
    | _ => exact hflush rfl (flush_cancelled_keeps_iff (hbuffered rfl))

omit [DecidableEq U] in
/-- An entry that was pending before was as unsettled then. -/
theorem Unsettled.of_le {world' : World U T} (hle : world.Le world') {id : ℕ} (hpending : id ∈ world.group.pending)
    (h : Unsettled codec world' id) : Unsettled codec world id := by
  obtain ⟨_, ⟨data, reading, hlog, hreading⟩, hrow⟩ := h
  have hlt : id < world.group.log.length := Nat.lt_of_lt_of_le (world.group.pending_lt id hpending) world.group.next_le
  obtain ⟨data', hlog'⟩ : ∃ data', world.group.log[id]? = some data' := ⟨_, List.getElem?_eq_getElem hlt⟩
  have hsame := hle.log id data' hlog'
  rw [hlog] at hsame
  cases hsame
  exact ⟨hpending, ⟨data, reading, hlog', hreading⟩, fun hold => hrow (hold.mono hle)⟩

variable (admits) in
theorem held_advance_iff {p : Process U T} {o : Outcome Reply} {id : ℕ} :
    (∃ p', (daemon codec settings admits).advance moment p o = some p' ∧ Held p' id) ↔
      Keeps (resume codec settings moment p.vars p.pc o) id := by
  constructor
  · rintro ⟨p', hp', hheld⟩
    obtain ⟨pc, hpc, rfl⟩ := Option.map_eq_some_iff.mp hp'
    exact ⟨pc, hpc, hheld⟩
  · rintro ⟨pc, hpc, hheld⟩
    exact ⟨_, Option.map_eq_some_iff.mpr ⟨pc, hpc, rfl⟩, hheld⟩

/-- What a call that Redis or PostgreSQL executes leaves unsettled is still held, or
handed out by it. -/
theorem execute_held {worker : Worker U T} {pc : Pc U T} {world' : World U T} {reply : Reply}
    (hexec : execute settings admits world pc = some (world', reply)) {id : ℕ}
    (hheld : Unsettled codec world id → Held { vars := worker, pc } id) (h : Unsettled codec world' id) :
    Held { vars := worker, pc, reply := some reply } id := by
  have hle := execute_le hexec
  obtain ⟨rfl, hgroup, rfl⟩ | ⟨_, rfl, hgroup⟩ := execute_group hexec
  · have hpending := h.1
    rw [hgroup, ConsumerGroup.mem_pending_xreadgroup] at hpending
    obtain hold | ⟨data, hfresh⟩ := hpending
    · exact .inl ((hheld (h.of_le hle hold)).resolve_right fun ⟨_, hmem⟩ => List.not_mem_nil hmem)
    · exact .inr ⟨data, hfresh⟩
  · have hold : id ∈ world.group.pending := by
      obtain hgroup | ⟨ids, hgroup⟩ := hgroup
      · exact hgroup ▸ h.1
      · have hpending := h.1
        rw [hgroup, ConsumerGroup.mem_pending_xack] at hpending
        exact hpending.1
    refine (hheld (h.of_le hle hold)).imp_right ?_
    rw [hand_done]
    exact fun hmem => hmem

/-- A step loses nothing exactly if it abandons nothing that is unsettled. -/
theorem keepsUnsettled_iff (hreach : (system codec settings admits).Reachable s)
    (hgood : NothingLost codec settings admits s) (hstep : (system codec settings admits).step s a = some s') :
    KeepsUnsettled codec s a ↔ NothingLost codec settings admits s' := by
  have hreach' : (system codec settings admits).Reachable s' := hreach.step trivial hstep
  have hheld := fun id (h : Unsettled codec s.server id) => hgood.held hreach h
  change (daemon codec settings admits).step s a = some s' at hstep
  cases a with
  | start moment =>
    obtain ⟨hnone, rfl⟩ := Daemon.step_start hstep
    refine ⟨fun _ id h => ?_, fun _ p hp => ?_⟩
    · obtain ⟨p, hp, _⟩ := hheld id h
      rw [hnone] at hp
      cases hp
    · rw [hnone] at hp
      cases hp
  | exec choice =>
    obtain ⟨worker, pc, world, reply, hprocess, hexec, rfl⟩ := Daemon.step_exec hstep
    refine ⟨fun _ id h => .inl ⟨_, rfl, execute_held hexec (fun hunsettled => ?_) h⟩, fun _ p _ id _ habandons => habandons⟩
    obtain ⟨p, hp, hheld⟩ := hheld id hunsettled
    rw [hprocess] at hp
    cases hp
    exact hheld
  | finish moment how =>
    obtain ⟨p, o, hprocess, houtcome, rfl⟩ := Daemon.step_finish hstep
    have hheldp : ∀ id, Unsettled codec s.server id → Held p id := by
      intro id h
      obtain ⟨p', hp', hheld⟩ := hheld id h
      rw [hprocess] at hp'
      cases hp'
      exact hheld
    have hinOrder := reachable_inOrder hreach p hprocess
    have hiff : ∀ id, Unsettled codec s.server id →
        (Keeps (resume codec settings moment p.vars p.pc o) id ↔ ¬ Abandons p (.finish moment how) id) := by
      intro id h
      by_cases hhow : how = .replied
      · subst hhow
        obtain ⟨reply, hreply, rfl⟩ := Option.map_eq_some_iff.mp houtcome
        refine ⟨?_, fun _ => resume_keeps (reachable_consistent hreach p hprocess) hreply (hheldp id h) h⟩
        rintro _ (⟨hne, _⟩ | ⟨⟨⟩, _⟩)
        exact hne rfl
      · exact exception_keeps_iff hinOrder hhow houtcome (hheldp id h)
    constructor
    · intro hok id h
      obtain ⟨p', hp', hheld'⟩ := (held_advance_iff admits).mpr ((hiff id h).mpr (hok p hprocess id h))
      exact .inl ⟨p', hp', hheld'⟩
    · intro hgood' p' hp' id h
      rw [hprocess] at hp'
      cases hp'
      exact (hiff id h).mp ((held_advance_iff admits).mp (hgood'.held hreach' h))
  | crash =>
    obtain ⟨⟨p, hprocess⟩, rfl⟩ := Daemon.step_crash hstep
    constructor
    · intro hok id h
      obtain ⟨p', hp', hheld'⟩ := hheld id h
      exact absurd hheld' (hok p' hp' id h)
    · intro hgood' p' _ id h
      obtain ⟨_, hnone, _⟩ := hgood'.held hreach' h
      cases hnone
  | event e =>
    obtain ⟨world, hevent, rfl⟩ := Daemon.step_event hstep
    refine ⟨fun _ id h => ?_, fun _ p _ id _ habandons => habandons⟩
    have hpending : id ∈ s.server.group.pending := (occur_group hevent).2 ▸ h.1
    exact .inl (hheld id (h.of_le (occur_le hevent) hpending))

/-- A run loses no telemetry exactly if none of its steps abandons an entry that is
neither acknowledged nor committed. -/
theorem nothing_lost_iff {trace : List (TransitionSystem.Transition (State U T) (Action U))}
    (h : (system codec settings admits).Run trace s) :
    (∀ t ∈ trace, KeepsUnsettled codec t.source t.action) ↔
      ∀ t ∈ trace, NothingLost codec settings admits t.target := by
  refine h.all_ok_iff_all_good (fun s hs id hunsettled => ?_)
    fun s a s' hreach hgood hstep => keepsUnsettled_iff hreach hgood hstep
  obtain ⟨⟨hgroup, _⟩, _⟩ := hs
  have hpending := hunsettled.1
  rw [hgroup] at hpending
  cases hpending

end Execution

/-- A call is answered, or something happens to Redis. -/
def uneventful : Action U → Bool
  | .crash | .finish _ .raised | .finish _ .cancelled => false
  | _ => true

theorem keepsUnsettled_of_uneventful {s : State U T} {a : Action U} (h : uneventful a = true) :
    KeepsUnsettled codec s a := by
  intro p _ id _ habandons
  cases a with
  | crash => cases h
  | finish moment how =>
    cases how with
    | replied =>
      obtain ⟨hne, _⟩ | ⟨⟨⟩, _⟩ := habandons
      exact hne rfl
    | raised => cases h
    | cancelled => cases h
  | _ => exact habandons

/-- A batch of one entry is flushed and then acknowledged. -/
theorem nothing_lost_one_entry :
    ∃ (trace : List (TransitionSystem.Transition (State String String) (Action String))) (s : State String String),
      (system sample_codec one_by_one fun _ => true).Run trace s ∧ s.server.rows.length = 1 ∧
        s.server.group.pending = [] ∧
        ∀ t ∈ trace, NothingLost sample_codec one_by_one (fun _ => true) t.target := by
  obtain ⟨trace, s, hrun, hall, htest⟩ := TransitionSystem.exists_run_of_replay (fun _ a => uneventful a)
    (s := idle) (idle_initial sample_codec one_by_one fun _ => true)
    [.event (.xadd sample_data), .start (sample_moment false), .exec (), .finish (sample_moment false) .replied, .exec (),
      .finish (sample_moment false) .replied, .exec (), .finish (sample_moment false) .replied, .exec (),
      .finish (sample_moment false) .replied]
    (fun s => s.server.rows.length = 1 ∧ s.server.group.pending = []) (by decide)
  obtain ⟨hrows, hpending⟩ := of_decide_eq_true htest
  exact ⟨trace, s, hrun, hrows, hpending,
    (nothing_lost_iff hrun).mp fun t ht => keepsUnsettled_of_uneventful (hall t ht)⟩

/-- The worker crashes between its read and its flush, and starts again. -/
theorem crash_loses_batch :
    ¬ ∀ s : State String String, (system sample_codec one_by_one fun _ => true).Reachable s →
      NothingLost sample_codec one_by_one (fun _ => true) s := by
  intro hclaim
  obtain ⟨s, hreach, htest⟩ := TransitionSystem.exists_of_replay (fun _ _ => True)
    (fun _ _ => true) (fun _ _ _ => trivial) (s := idle) (idle_initial sample_codec one_by_one fun _ => true)
    [.event (.xadd sample_data), .start (sample_moment false), .exec (), .finish (sample_moment false) .replied, .crash,
      .start (sample_moment false)]
    (fun s => s.server.group.pending = [0] ∧ s.server.rows.length = 0 ∧
      (s.server.group.log[0]?.any fun data => (from_stream_dict sample_codec data).isOk) ∧
      s.process.any fun p => p.vars.batch_writer.size = 0 ∧ (hand p.pc p.reply).length = 0)
    (by decide)
  obtain ⟨hpending, hrows, hlogged, hprocess⟩ := of_decide_eq_true htest
  obtain ⟨data, hlog, hparses⟩ := (Option.any_eq_true _ _).mp hlogged
  obtain ⟨p, hp, hnothing⟩ := (Option.any_eq_true _ _).mp hprocess
  obtain ⟨hsize, hhand⟩ := of_decide_eq_true hnothing
  have hunsettled : Unsettled sample_codec s.server 0 := by
    refine ⟨hpending ▸ List.mem_singleton_self 0, ?_, ?_⟩
    · cases hreading : from_stream_dict sample_codec data with
      | ok reading => exact ⟨data, reading, hlog, hreading⟩
      | error error =>
        rw [hreading] at hparses
        cases hparses
    · rintro ⟨record, _, _, hrow⟩
      rw [List.length_eq_zero_iff.mp hrows] at hrow
      cases hrow
  obtain ⟨p', hp', hheld⟩ := (hclaim s hreach).held hreach hunsettled
  rw [hp] at hp'
  cases hp'
  obtain hbuffered | ⟨data', hmem⟩ := hheld
  · exact BatchWriter.not_buffered_of_size_eq_zero hsize hbuffered
  · rw [List.length_eq_zero_iff.mp hhand] at hmem
    cases hmem

end gateway.stream_to_postgres
