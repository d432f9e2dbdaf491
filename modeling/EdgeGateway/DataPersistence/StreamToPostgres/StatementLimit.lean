import EdgeGateway.DataPersistence.StreamToPostgres.Loss

open gateway.telemetry gateway.batch_writer

namespace gateway.stream_to_postgres

variable {U T : Type} {codec : Codec U T} {settings : Settings} {moment : Moment U} {worker : Worker U T}

/-- The bind parameters of an INSERT, six for each record. -/
def bind_parameters (values : List (TelemetryRow U T)) : ℕ := 6 * values.length

/-- What PostgreSQL's wire protocol and asyncpg take. -/
def protocol_limit : ℕ := 32767

def parses (codec : Codec U T) (entry : StreamEntry) : Bool := (from_stream_dict codec entry.2).isOk

/-- The entries that the worker buffers from a batch, up to a malformed one. -/
def well_formed (codec : Codec U T) (entries : List StreamEntry) : List StreamEntry := entries.takeWhile (parses codec)

/-- The records in the buffer once the worker has gone through what a call returns. -/
def filled (codec : Codec U T) (s : State U T) : Action U → ℕ
  | .finish _ .replied =>
    match s.process with
    | some p => p.vars.batch_writer.size + (well_formed codec (hand p.pc p.reply)).length
    | none => 0
  | _ => 0

/-- The step does not fill the buffer with more records than one INSERT can have. -/
def InLimit (codec : Codec U T) (s : State U T) (a : Action U) : Prop := 6 * filled codec s a ≤ protocol_limit

instance (s : State U T) (a : Action U) : Decidable (InLimit codec s a) := inferInstanceAs (Decidable (_ ≤ _))

theorem parses_iff {entry : StreamEntry} :
    parses codec entry = true ↔ ∃ record, record_of codec moment entry = some record := by
  unfold parses record_of
  split
  · rename_i reading hreading
    rw [hreading]
    exact ⟨fun _ => ⟨_, rfl⟩, fun _ => rfl⟩
  · rename_i error herror
    rw [herror]
    exact ⟨nofun, nofun⟩

/-- All entries that have a record are well-formed. -/
theorem length_records_le {entries : List StreamEntry} (rest : List StreamEntry) {records : List (TelemetryRecord U T)}
    (h : entries.map (record_of codec moment) = records.map some) :
    records.length ≤ (well_formed codec (entries ++ rest)).length := by
  induction entries generalizing records with
  | nil =>
    rw [List.map_eq_nil_iff.mp h.symm]
    exact Nat.zero_le _
  | cons entry entries ih =>
    cases records with
    | nil => exact Nat.zero_le _
    | cons record records =>
      obtain ⟨hrecord, hrest⟩ := List.cons.inj h
      have hok := parses_iff.mpr ⟨record, hrecord⟩
      have hlength := ih hrest
      simp only [well_formed] at hlength ⊢
      rw [List.cons_append, List.takeWhile_cons_of_pos hok, List.length_cons, List.length_cons]
      omega

theorem Worker.size_take_up (worker : Worker U T) (records : List (TelemetryRecord U T)) :
    (worker.take_up records).batch_writer.size = worker.batch_writer.size + records.length := by
  simp [take_up, BatchWriter.size]

theorem Turns.size {next : Worker U T × Option (Pc U T)} (h : Turns worker next) :
    next.1.batch_writer.size = worker.batch_writer.size := by
  rw [h.batch_writer]

/-- The buffer grows by well-formed entries at hand, if at all. -/
theorem resume_size (codec : Codec U T) (settings : Settings) (moment : Moment U) (worker : Worker U T) (pc : Pc U T)
    (o : Outcome Reply) :
    (resume codec settings moment worker pc o).1.batch_writer.size ≤ worker.batch_writer.size ∨
      ∃ r, o = .reply r ∧ (resume codec settings moment worker pc o).1.batch_writer.size ≤
        worker.batch_writer.size + (well_formed codec (hand pc (some r))).length := by
  have hresumed := resume_spec codec settings moment worker pc o
  generalize resume codec settings moment worker pc o = next at hresumed
  cases hresumed with
  | @batch _ r _ _ hprocessed =>
    refine .inr ⟨r, rfl, ?_⟩
    cases hprocessed with
    | all hrecords hturns =>
      have hlength := length_records_le [] hrecords
      rw [List.append_nil] at hlength
      rw [hturns.size, Worker.size_take_up]
      omega
    | @malformed records parsed entry_id data rest hentries hrecords _ =>
      have hlength := length_records_le ((entry_id, data) :: rest) hrecords
      rw [hentries, Worker.size_take_up]
      exact Nat.add_le_add_left hlength _
  | committed hturns => exact .inl (Nat.le_trans (Nat.le_of_eq hturns.size) (Nat.zero_le _))
  | acknowledged hturns | turned hturns => exact .inl (Nat.le_of_eq hturns.size)
  | executed | paused => exact .inl (Nat.le_refl _)

section Runs

variable [DecidableEq U] {admits : TelemetryRow U T → Bool} {s s' : State U T} {a : Action U}

/-- What the worker has buffered fits into one INSERT. -/
def Fits (s : State U T) : Prop := ∀ p, s.process = some p → 6 * p.vars.batch_writer.size ≤ protocol_limit

theorem Fits.step (h : Fits s) (hok : InLimit codec s a) (hstep : (system codec settings admits).step s a = some s') :
    Fits s' := by
  change (daemon codec settings admits).step s a = some s' at hstep
  cases a with
  | start moment =>
    obtain ⟨_, rfl⟩ := Daemon.step_start hstep
    intro p hp
    obtain ⟨pc, _, rfl⟩ := Option.map_eq_some_iff.mp hp
    have hturns : Turns ({ last_flush_time := moment.monotonic } : Worker U T) ((daemon codec settings admits).start moment) :=
      loop_turns
    change 6 * ((daemon codec settings admits).start moment).1.batch_writer.size ≤ _
    rw [hturns.size]
    exact Nat.zero_le _
  | exec choice =>
    obtain ⟨worker, pc, world, reply, hp, _, rfl⟩ := Daemon.step_exec hstep
    rintro p ⟨⟩
    exact h { vars := worker, pc } hp
  | finish moment how =>
    obtain ⟨p, o, hp, houtcome, rfl⟩ := Daemon.step_finish hstep
    intro p' hp'
    obtain ⟨pc, _, rfl⟩ := Option.map_eq_some_iff.mp hp'
    change 6 * (resume codec settings moment p.vars p.pc o).1.batch_writer.size ≤ _
    have hfits := h p hp
    obtain hle | ⟨r, rfl, hle⟩ := resume_size codec settings moment p.vars p.pc o
    · omega
    · have hreply := Daemon.outcome_reply houtcome
      have hreplied : how = .replied := by
        cases how with
        | replied => rfl
        | raised => exact absurd (Daemon.outcome_raised houtcome).2 nofun
        | cancelled => cases houtcome
      subst hreplied
      simp only [InLimit, filled, hp, hreply] at hok
      omega
  | crash =>
    obtain ⟨_, rfl⟩ := Daemon.step_crash hstep
    exact nofun
  | event e =>
    obtain ⟨world, _, rfl⟩ := Daemon.step_event hstep
    exact h

end Runs

section SmallBatches

/-- Where the worker is not in the middle of a batch, it has less than a batch buffered. -/
def between_batches : Pc U T → Bool
  | .read | .ack _ _ | .sleep => true
  | _ => false

/-- The worker has at most the rest of one batch and a whole other one in memory. -/
structure Small (batch_size : ℕ) (worker : Worker U T) (pc : Pc U T) (reply : Option Reply) : Prop where
  total : worker.batch_writer.size + (hand pc reply).length ≤ 2 * batch_size - 1
  between : between_batches pc = true → worker.batch_writer.size ≤ batch_size - 1

theorem Turns.small {batch_size : ℕ} {next : Worker U T × Option (Pc U T)} (h : Turns worker next)
    (hsize : worker.batch_writer.size ≤ batch_size - 1) {pc : Pc U T} (hpc : next.2 = some pc) :
    Small batch_size next.1 pc none := by
  refine ⟨?_, fun _ => ?_⟩
  · rw [h.size, h.hand hpc, List.length_nil]
    omega
  · rw [h.size]
    exact hsize

theorem stop_small {batch_size : ℕ} (hsize : worker.batch_writer.size ≤ 2 * batch_size - 1) {pc : Pc U T}
    (hpc : (stop worker).2 = some pc) : Small batch_size (stop worker).1 pc none := by
  unfold stop at hpc ⊢
  split at hpc
  · rename_i hpos
    cases hpc
    rw [if_pos hpos]
    exact ⟨hsize, nofun⟩
  · cases hpc

theorem flush_small {batch_size : ℕ} (hsize : worker.batch_writer.size ≤ 2 * batch_size - 1) {pc : Pc U T}
    (hpc : (flush moment stopping worker).2 = some pc) : Small batch_size (flush moment stopping worker).1 pc none := by
  unfold flush at hpc ⊢
  split at hpc
  · rename_i hzero
    rw [if_pos hzero]
    have hturns : Turns worker (acknowledge moment stopping worker) := acknowledge_turns
    exact hturns.small (by omega) hpc
  · rename_i hpos
    cases hpc
    rw [if_neg hpos]
    exact ⟨hsize, nofun⟩

/-- A batch that is gone through is flushed, or is not yet a whole one. -/
theorem process_small {entries : List StreamEntry}
    (hsize : worker.batch_writer.size + entries.length ≤ 2 * settings.batch_size - 1) {pc : Pc U T}
    (hpc : (process codec settings moment worker entries).2 = some pc) :
    Small settings.batch_size (process codec settings moment worker entries).1 pc none := by
  induction entries generalizing worker with
  | nil =>
    simp only [process] at hpc ⊢
    split at hpc
    · rename_i hflush
      rw [if_pos hflush]
      exact flush_small hsize hpc
    · rename_i hflush
      rw [if_neg hflush]
      have hless : worker.batch_writer.size < settings.batch_size := by
        simp only [should_flush, Bool.or_eq_true, decide_eq_true_eq, not_or] at hflush
        omega
      have hturns : Turns worker (loop moment worker) := loop_turns
      exact hturns.small (by omega) hpc
  | cons entry rest ih =>
    obtain ⟨entry_id, data⟩ := entry
    rw [List.length_cons] at hsize
    simp only [process] at hpc ⊢
    split at hpc
    · refine ih ?_ hpc
      simp only [BatchWriter.accumulate, BatchWriter.size, List.length_append, List.length_singleton] at hsize ⊢
      omega
    · cases hpc
      refine ⟨?_, by rintro ⟨⟩⟩
      simp only [hand]
      omega

/-- No flush fails, and no acknowledgement of a malformed entry. -/
def FlushesSucceed (s : State U T) : Action U → Prop
  | .finish _ .raised => ∀ p, s.process = some p → between_batches p.pc = true
  | _ => True

theorem resume_small {pc pc' : Pc U T} {reply : Option Reply} {o : Outcome Reply}
    (h : Small settings.batch_size worker pc reply) (hreply : ∀ r, o = .reply r → reply = some r)
    (hsucceeds : o = .raised → between_batches pc = true)
    (hnext : (resume codec settings moment worker pc o).2 = some pc') :
    Small settings.batch_size (resume codec settings moment worker pc o).1 pc' none := by
  have htotal : worker.batch_writer.size ≤ 2 * settings.batch_size - 1 := by
    have hsum := h.total
    omega
  cases o with
  | reply r =>
    obtain rfl := hreply r rfl
    cases pc with
    | read =>
      cases r with
      | entries entries => exact process_small h.total hnext
      | done =>
        change (process codec settings moment worker []).2 = some pc' at hnext
        exact process_small h.total hnext
    | ack_malformed entry_id rest => exact process_small h.total hnext
    | execute values stopping =>
      cases hnext
      exact ⟨htotal, nofun⟩
    | commit values stopping =>
      have hturns : Turns { worker with batch_writer := worker.batch_writer.clear }
          (resume codec settings moment worker (.commit values stopping) (.reply r)) := acknowledge_turns
      exact hturns.small (Nat.zero_le _) hnext
    | ack ids stopping =>
      have hturns : Turns { worker with pending_ids := [] }
          (resume codec settings moment worker (.ack ids stopping) (.reply r)) := flushed_turns
      exact hturns.small (h.between rfl) hnext
    | sleep =>
      have hturns : Turns worker (loop moment worker) := loop_turns
      exact hturns.small (h.between rfl) hnext
  | raised =>
    have hbetween := h.between (hsucceeds rfl)
    cases pc with
    | read =>
      cases hnext
      exact ⟨htotal, fun _ => hbetween⟩
    | ack ids stopping =>
      have hturns : Turns worker (flush_error moment stopping worker) := flush_error_turns
      exact hturns.small hbetween hnext
    | sleep =>
      have hturns : Turns worker (loop moment worker) := loop_turns
      exact hturns.small hbetween hnext
    | _ => cases hsucceeds rfl
  | cancelled =>
    cases pc with
    | read | ack_malformed => exact stop_small htotal hnext
    | sleep => cases hnext
    | execute values stopping | commit values stopping | ack ids stopping =>
      cases stopping with
      | true => cases hnext
      | false => exact stop_small htotal hnext

variable [DecidableEq U] {admits : TelemetryRow U T → Bool} {s s' : State U T} {a : Action U}

theorem execute_small {world world' : World U T} {pc : Pc U T} {reply : Reply}
    (h : Small settings.batch_size worker pc none) (hexec : execute settings admits world pc = some (world', reply)) :
    Small settings.batch_size worker pc (some reply) := by
  obtain ⟨rfl, _, rfl⟩ | ⟨_, rfl, _⟩ := execute_group hexec
  · refine ⟨?_, h.between⟩
    have hbetween := h.between rfl
    have hlength := world.group.length_fresh settings.batch_size
    have hpos : settings.batch_size ≠ 0 := by
      intro hzero
      simp [execute, hzero] at hexec
    simp only [hand]
    omega
  · refine ⟨?_, h.between⟩
    rw [hand_done]
    exact h.total

theorem step_small (h : ∀ p, s.process = some p → Small settings.batch_size p.vars p.pc p.reply)
    (hok : FlushesSucceed s a) (hstep : (system codec settings admits).step s a = some s') :
    ∀ p, s'.process = some p → Small settings.batch_size p.vars p.pc p.reply := by
  change (daemon codec settings admits).step s a = some s' at hstep
  cases a with
  | start moment =>
    obtain ⟨_, rfl⟩ := Daemon.step_start hstep
    intro p hp
    obtain ⟨pc, hpc, rfl⟩ := Option.map_eq_some_iff.mp hp
    have hturns : Turns ({ last_flush_time := moment.monotonic } : Worker U T) ((daemon codec settings admits).start moment) :=
      loop_turns
    exact hturns.small (Nat.zero_le _) hpc
  | exec choice =>
    obtain ⟨worker, pc, world, reply, hp, hexec, rfl⟩ := Daemon.step_exec hstep
    rintro p ⟨⟩
    exact execute_small (h _ hp) hexec
  | finish moment how =>
    obtain ⟨p, o, hp, houtcome, rfl⟩ := Daemon.step_finish hstep
    intro p' hp'
    obtain ⟨pc, hpc, rfl⟩ := Option.map_eq_some_iff.mp hp'
    refine resume_small (h p hp) ?_ ?_ hpc
    · rintro r rfl
      exact Daemon.outcome_reply houtcome
    · rintro rfl
      cases how with
      | raised => exact hok p hp
      | replied =>
        obtain ⟨r, _, heq⟩ := Option.map_eq_some_iff.mp houtcome
        cases heq
      | cancelled => cases houtcome
  | crash =>
    obtain ⟨_, rfl⟩ := Daemon.step_crash hstep
    exact nofun
  | event e =>
    obtain ⟨world, _, rfl⟩ := Daemon.step_event hstep
    exact h

/-- As long as no flush fails, an INSERT has less than two batches. -/
theorem insert_of_successful_flushes {p : Process U T} {values : List (TelemetryRow U T)} {stopping : Bool}
    (h : (system codec settings admits).ReachableWhere FlushesSucceed s) (hprocess : s.process = some p)
    (hpc : p.pc = .execute values stopping) : values.length ≤ 2 * settings.batch_size - 1 := by
  have hsmall : ∀ p, s.process = some p → Small settings.batch_size p.vars p.pc p.reply := by
    refine TransitionSystem.ReachableWhere.invariant
      (P := fun s => ∀ p, s.process = some p → Small settings.batch_size p.vars p.pc p.reply) ?_
      (fun _ _ _ hsmall hok hstep => step_small hsmall hok hstep) h
    rintro s ⟨_, hnone⟩ p hp
    rw [hnone] at hp
    cases hp
  have hcall := (reachable_consistent h p hprocess).call
  rw [hpc] at hcall
  obtain rfl : values = p.vars.batch_writer.values := hcall
  have htotal := (hsmall p hprocess).total
  rw [BatchWriter.values, List.length_map]
  exact Nat.le_trans (Nat.le_add_right _ _) htotal

end SmallBatches

/-- The worker is about to execute the INSERT of as many records. -/
def flushes (count : ℕ) (s : State String String) : Bool :=
  match s.process with
  | some { vars := worker, pc := .execute values false, reply := none } =>
    worker.batch_writer.size = count ∧ values.length = count
  | _ => false

theorem flushes_spec {count : ℕ} {s : State String String} (h : flushes count s = true) :
    ∃ worker values, s.process = some { vars := worker, pc := .execute values false } ∧
      worker.batch_writer.size = count ∧ values.length = count := by
  unfold flushes at h
  split at h
  · rename_i worker values hprocess
    exact ⟨worker, values, hprocess, of_decide_eq_true h⟩
  · cases h

/-- The worker is about to flush the given number of records, all that the stream has. -/
def PiledUp (s : State String String) (count : ℕ) : Prop :=
  (system sample_codec one_by_one fun _ => true).Reachable s ∧ s.server.group.next = s.server.group.log.length ∧
    ∃ worker values, s.process = some { vars := worker, pc := .execute values false } ∧
      worker.batch_writer.size = count ∧ values.length = count

/-- A worker that reads one well-formed entry flushes it with all that it has. -/
theorem process_one (worker : Worker String String) (entry_id : ℕ) :
    ∃ worker' values, process sample_codec one_by_one (sample_moment false) worker [(entry_id, sample_data)] =
        (worker', some (.execute values false)) ∧ worker'.batch_writer.size = worker.batch_writer.size + 1 ∧
          values.length = worker.batch_writer.size + 1 := by
  obtain ⟨reading, hreading⟩ : ∃ reading, from_stream_dict sample_codec sample_data = .ok reading := ⟨_, rfl⟩
  let record := telemetry_to_record entry_id (toString entry_id) reading
  let worker' : Worker String String :=
    { worker with
      batch_writer := worker.batch_writer.accumulate record
      pending_ids := worker.pending_ids ++ [entry_id] }
  have hsize : worker'.batch_writer.size = worker.batch_writer.size + 1 := by
    simp [worker', BatchWriter.accumulate, BatchWriter.size]
  have hflush : should_flush one_by_one (sample_moment false) worker' = true := by
    simp [should_flush, one_by_one, hsize]
  refine ⟨worker', worker'.batch_writer.values, ?_, hsize, ?_⟩
  · simp only [process, hreading]
    change (if should_flush one_by_one (sample_moment false) worker' = true then
      flush (sample_moment false) false worker' else _) = _
    rw [if_pos hflush, flush, if_neg (by omega)]
  · rw [BatchWriter.values, List.length_map]
    exact hsize

/-- One more failed flush and one more read leave one more record in the buffer. -/
theorem PiledUp.succ {s : State String String} {count : ℕ} (h : PiledUp s count) : ∃ s', PiledUp s' (count + 1) := by
  obtain ⟨hreach, hnext, worker, values, hprocess, hsize, _⟩ := h
  let world : World String String := { s.server with group := s.server.group.xadd sample_data }
  let read : World String String := { world with group := world.group.xreadgroup 1 }
  let entries : List StreamEntry := [(s.server.group.log.length, sample_data)]
  have hfresh : world.group.fresh 1 = entries := s.server.group.fresh_xadd hnext
  obtain ⟨worker', values', hprocessed, hsize', hlength⟩ := process_one worker s.server.group.log.length
  have hfailed : (system sample_codec one_by_one fun _ => true).Reachable
      { s with process := some { vars := worker, pc := .read } } := by
    refine hreach.step (a := .finish (sample_moment false) .raised) trivial ?_
    simp only [system, Daemon.system, Daemon.step, hprocess]
    rfl
  have hadded : (system sample_codec one_by_one fun _ => true).Reachable
      { server := world, process := some { vars := worker, pc := .read } } :=
    hfailed.step (a := .event (.xadd sample_data)) trivial rfl
  have hread : (system sample_codec one_by_one fun _ => true).Reachable
      { server := read, process := some { vars := worker, pc := .read, reply := some (.entries entries) } } := by
    rw [← hfresh]
    exact hadded.step (a := .exec ()) trivial rfl
  have htaken : (system sample_codec one_by_one fun _ => true).Reachable
      { server := read, process := some { vars := worker', pc := .execute values' false } } := by
    refine hread.step (a := .finish (sample_moment false) .replied) trivial ?_
    have hadvance : (daemon sample_codec one_by_one fun _ => true).advance (sample_moment false)
        { vars := worker, pc := .read, reply := some (.entries entries) } (.reply (.entries entries)) =
          some { vars := worker', pc := .execute values' false } := by
      change ((process sample_codec one_by_one (sample_moment false) worker entries).2.map fun pc =>
        ({ vars := (process sample_codec one_by_one (sample_moment false) worker entries).1, pc } : Process _ _)) = _
      rw [hprocessed]
      rfl
    change some ({ server := read, process := Daemon.advance _ _ _ _ } : State String String) = _
    rw [hadvance]
  refine ⟨_, htaken, ?_, worker', values', rfl, by omega, by omega⟩
  change world.group.first + (world.group.fresh 1).length = (s.server.group.log ++ [sample_data]).length
  have hfirst : world.group.first = s.server.group.log.length := by
    change max s.server.group.next s.server.group.trimmed = _
    rw [hnext]
    exact Nat.max_eq_left s.server.group.trimmed_le
  rw [hfresh, hfirst, List.length_append]
  rfl

/-- During an outage any number of records piles up, although a batch is a single one. -/
theorem exists_piledUp (count : ℕ) : ∃ s, PiledUp s (count + 1) := by
  induction count with
  | zero =>
    obtain ⟨s, hreach, htest⟩ := TransitionSystem.exists_of_replay (fun _ _ => True)
      (fun _ _ => true) (fun _ _ _ => trivial) (s := idle) (idle_initial sample_codec one_by_one fun _ => true)
      [.event (.xadd sample_data), .start (sample_moment false), .exec (), .finish (sample_moment false) .replied]
      (fun s => s.server.group.next = s.server.group.log.length && flushes 1 s) (by decide)
    obtain ⟨hnext, htest⟩ := (Bool.and_eq_true _ _).mp htest
    exact ⟨s, hreach, of_decide_eq_true hnext, flushes_spec htest⟩
  | succ count ih =>
    obtain ⟨s, hpiled⟩ := ih
    exact hpiled.succ

end gateway.stream_to_postgres
