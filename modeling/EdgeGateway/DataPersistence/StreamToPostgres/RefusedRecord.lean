import EdgeGateway.DataPersistence.StreamToPostgres.Loss

open gateway.telemetry gateway.batch_writer

namespace gateway.stream_to_postgres

variable {U T : Type}

/-- Whether the worker is in a flush, and in which one, that of the loop or the final one. -/
def flush_at : Pc U T → Option Bool
  | .execute _ stopping | .commit _ stopping => some stopping
  | _ => none

def flushing (s : State U T) : Option Bool := s.process.bind fun p => flush_at p.pc

section Attempt

variable [DecidableEq U] {codec : Codec U T} {settings : Settings} {admits : TelemetryRow U T → Bool}

variable (admits) in
/-- PostgreSQL is reachable, so that only an INSERT it does not take raises, and the
worker is left alone. -/
def answers (s : State U T) : Action U → Bool
  | .exec _ | .finish _ .replied | .event _ => true
  | .finish _ .raised =>
    match s.process with
    | some { pc := .execute values _, reply := none, .. } => !accepts admits s.server.rows values
    | _ => false
  | _ => false

variable (codec settings admits) in
/-- The flush attempt that the worker is at in `s` is over in `s'`. -/
def FlushEnds (stopping : Bool) (s s' : State U T) : Prop :=
  (system codec settings admits).StepsWhere (fun s a => flushing s = some stopping ∧ answers admits s a = true) s s' ∧
    flushing s' ≠ some stopping

variable (admits) in
/-- The table would take the record on its own. -/
def AcceptedAlone (rows : List (TelemetryRow U T)) (record : TelemetryRecord U T) : Prop :=
  accepts admits rows [record.row] = true

variable (codec settings admits) in
/-- The flush attempt comes to an end, and never without the record's row. -/
def CommittedByFlush (stopping : Bool) (s : State U T) (record : TelemetryRecord U T) : Prop :=
  (∃ s', FlushEnds codec settings admits stopping s s') ∧
    ∀ s', FlushEnds codec settings admits stopping s s' → record.row ∈ s'.server.rows

theorem acceptedAlone_iff {rows : List (TelemetryRow U T)} {record : TelemetryRecord U T} :
    AcceptedAlone admits rows record ↔ admits record.row = true ∧ record.id ∉ rows.map TelemetryRow.id := by
  simp [AcceptedAlone, accepts, TelemetryRecord.row]

/-- The table takes the whole buffer exactly if it takes each record, and no two have one id. -/
theorem accepts_values_iff {rows : List (TelemetryRow U T)} {writer : BatchWriter U T} :
    accepts admits rows writer.values = true ↔
      (∀ record ∈ writer.buffer, AcceptedAlone admits rows record) ∧ (writer.buffer.map TelemetryRecord.id).Nodup := by
  have hids : writer.values.map TelemetryRow.id = writer.buffer.map TelemetryRecord.id := by
    simp [BatchWriter.values, TelemetryRecord.row]
  have hvalues : ∀ P : TelemetryRow U T → Prop,
      (∀ value ∈ writer.values, P value) ↔ ∀ record ∈ writer.buffer, P record.row := by
    simp [BatchWriter.values]
  have hrow : ∀ record : TelemetryRecord U T, record.row.id = record.id := fun _ => rfl
  simp only [accepts, Bool.and_eq_true, List.all_eq_true, decide_eq_true_eq, hids, hvalues, hrow, acceptedAlone_iff]
  constructor
  · rintro ⟨⟨hadmits, hnodup⟩, hfresh⟩
    exact ⟨fun record hmem => ⟨hadmits record hmem, hfresh record hmem⟩, hnodup⟩
  · rintro ⟨halone, hnodup⟩
    exact ⟨⟨fun record hmem => (halone record hmem).1, hnodup⟩, fun record hmem => (halone record hmem).2⟩

variable {s s' : State U T} {worker : Worker U T} {values : List (TelemetryRow U T)} {stopping : Bool}

/-- How far a flush has come whose INSERT PostgreSQL takes. -/
inductive Progress (values : List (TelemetryRow U T)) (stopping : Bool) (rows : List (TelemetryRow U T))
    (s : State U T) : Prop where
  | executing (worker : Worker U T) (reply : Option Reply)
      (hprocess : s.process = some { vars := worker, pc := .execute values stopping, reply }) (hrows : s.server.rows = rows)
  | committing (worker : Worker U T)
      (hprocess : s.process = some { vars := worker, pc := .commit values stopping })
  | committed (hrows : ∀ row ∈ values, row ∈ s.server.rows)

theorem Progress.step {rows : List (TelemetryRow U T)} {a : Action U} (h : Progress values stopping rows s)
    (haccepts : accepts admits rows values = true) (hanswers : answers admits s a = true)
    (hstep : (system codec settings admits).step s a = some s') : Progress values stopping rows s' := by
  change (daemon codec settings admits).step s a = some s' at hstep
  cases a with
  | start moment => cases hanswers
  | exec choice =>
    obtain ⟨worker, pc, world, reply, hprocess, hexec, rfl⟩ := Daemon.step_exec hstep
    change execute settings admits s.server pc = some (world, reply) at hexec
    cases h with
    | executing worker' reply' hprocess' hrows =>
      rw [hprocess] at hprocess'
      cases hprocess'
      simp only [execute] at hexec
      split at hexec
      · cases hexec
        exact .executing worker (some .done) rfl hrows
      · cases hexec
    | committing worker' hprocess' =>
      rw [hprocess] at hprocess'
      cases hprocess'
      cases hexec
      exact .committed fun row hmem => List.mem_append_right _ hmem
    | committed hrows => exact .committed fun row hmem => (execute_le hexec).rows row (hrows row hmem)
  | finish moment how =>
    obtain ⟨p, o, hprocess, houtcome, rfl⟩ := Daemon.step_finish hstep
    cases h with
    | executing worker reply hprocess' hrows =>
      rw [hprocess] at hprocess'
      cases hprocess'
      cases how with
      | replied =>
        obtain ⟨r, _, rfl⟩ := Option.map_eq_some_iff.mp houtcome
        exact .committing worker rfl
      | raised =>
        -- Only a refused INSERT raises, and this one is not refused.
        cases reply with
        | none => simp [answers, hprocess, hrows, haccepts] at hanswers
        | some reply => simp [answers, hprocess] at hanswers
      | cancelled => cases hanswers
    | committing worker hprocess' =>
      rw [hprocess] at hprocess'
      cases hprocess'
      cases how with
      | replied => cases houtcome
      | raised => simp [answers, hprocess] at hanswers
      | cancelled => cases hanswers
    | committed hrows => exact .committed hrows
  | crash => cases hanswers
  | event e =>
    obtain ⟨world, hevent, rfl⟩ := Daemon.step_event hstep
    have hsame : world.rows = s.server.rows := by cases e <;> cases hevent <;> rfl
    cases h with
    | executing worker reply hprocess hrows => exact .executing worker reply hprocess (hsame.trans hrows)
    | committing worker hprocess => exact .committing worker hprocess
    | committed hrows => exact .committed fun row hmem => hsame ▸ hrows row hmem

/-- A flush whose INSERT PostgreSQL takes ends with all of the rows. -/
theorem FlushEnds.committed (h : FlushEnds codec settings admits stopping s s')
    (hprocess : s.process = some { vars := worker, pc := .execute values stopping })
    (haccepts : accepts admits s.server.rows values = true) : ∀ row ∈ values, row ∈ s'.server.rows := by
  obtain ⟨hsteps, hends⟩ := h
  have hprogress : Progress values stopping s.server.rows s' :=
    hsteps.invariant (fun _ _ _ hok hstep hprogress => hprogress.step haccepts hok.2 hstep)
      (.executing worker none hprocess rfl)
  cases hprogress with
  | executing worker reply hprocess _ => exact absurd (by rw [flushing, hprocess]; rfl) hends
  | committing worker hprocess => exact absurd (by rw [flushing, hprocess]; rfl) hends
  | committed hrows => exact hrows

/-- What a worker finds that is not asked to shut down. -/
def running (uuid4 : ℕ → U) : Moment U where
  monotonic := 0
  shutdown := false
  uuid4

theorem answers_of_refused (hprocess : s.process = some { vars := worker, pc := .execute values stopping })
    (hrefused : accepts admits s.server.rows values = false) (moment : Moment U) :
    answers admits s (.finish moment .raised) = true := by
  simp [answers, hprocess, hrefused]

/-- A flush whose INSERT PostgreSQL refuses ends, and leaves the table as it was. -/
theorem refused_ends (hprocess : s.process = some { vars := worker, pc := .execute values stopping })
    (hrefused : accepts admits s.server.rows values = false) (moment : Moment U) (hrunning : moment.shutdown = false) :
    ∃ s', FlushEnds codec settings admits stopping s s' ∧ s'.server = s.server := by
  let p : Process U T := { vars := worker, pc := .execute values stopping }
  let s' : State U T := { s with process := (daemon codec settings admits).advance moment p .raised }
  have hflushing : flushing s = some stopping := by
    rw [flushing, hprocess]
    rfl
  have hstep : (system codec settings admits).step s (.finish moment .raised) = some s' := by
    simp [system, Daemon.system, Daemon.step, hprocess, Daemon.outcome, daemon, raises, s', p]
  have hends : flushing s' ≠ some stopping := by
    cases stopping with
    | true => simp [s', p, flushing, Daemon.advance, daemon, resume, flush_error]
    | false => simp [s', p, flushing, Daemon.advance, daemon, resume, flush_error, loop, hrunning, flush_at]
  exact ⟨s', ⟨.step .refl ⟨hflushing, answers_of_refused hprocess hrefused moment⟩ hstep, hends⟩, rfl⟩

/-- A flush whose INSERT PostgreSQL takes comes to an end. -/
theorem accepted_ends (hprocess : s.process = some { vars := worker, pc := .execute values stopping })
    (haccepts : accepts admits s.server.rows values = true) (moment : Moment U) (hrunning : moment.shutdown = false) :
    ∃ s', FlushEnds codec settings admits stopping s s' := by
  let worker' : Worker U T := { worker with batch_writer := worker.batch_writer.clear }
  let world : World U T := { s.server with rows := s.server.rows ++ values }
  let inserted : State U T :=
    { s with process := some { vars := worker, pc := .execute values stopping, reply := some .done } }
  let open_transaction : State U T := { s with process := some { vars := worker, pc := .commit values stopping } }
  let committed : State U T :=
    { server := world, process := some { vars := worker, pc := .commit values stopping, reply := some .done } }
  let s' : State U T :=
    { server := world
      process := (acknowledge moment stopping worker').2.map fun pc =>
        { vars := (acknowledge moment stopping worker').1, pc } }
  have hinsert : (system codec settings admits).step s (.exec ()) = some inserted := by
    simp [system, Daemon.system, Daemon.step, hprocess, daemon, execute, haccepts, inserted]
  have hopen : (system codec settings admits).step inserted (.finish moment .replied) = some open_transaction := by
    rfl
  have hcommit : (system codec settings admits).step open_transaction (.exec ()) = some committed := by
    rfl
  have hfinish : (system codec settings admits).step committed (.finish moment .replied) = some s' := by
    rfl
  have hflushing : flushing s = some stopping := by
    rw [flushing, hprocess]
    rfl
  have hends : flushing s' ≠ some stopping := by
    simp only [s', flushing, acknowledge, flushed, loop, hrunning]
    split
    · split <;> simp [flush_at]
    · simp [flush_at]
  exact ⟨s', .step (.step (.step (.step .refl ⟨hflushing, rfl⟩ hinsert) ⟨rfl, rfl⟩ hopen) ⟨rfl, rfl⟩ hcommit) ⟨rfl, rfl⟩
    hfinish, hends⟩

/-- A refused INSERT commits no record that the table would take on its own. -/
theorem not_committed_of_refused (hprocess : s.process = some { vars := worker, pc := .execute values stopping })
    (hrefused : accepts admits s.server.rows values = false) {record : TelemetryRecord U T}
    (halone : AcceptedAlone admits s.server.rows record) :
    ¬ CommittedByFlush codec settings admits stopping s record := by
  rintro ⟨_, hcommitted⟩
  obtain ⟨s', hends, hserver⟩ := refused_ends hprocess hrefused (running fun _ => record.id) rfl
  have hrow := hcommitted s' hends
  rw [hserver] at hrow
  exact (acceptedAlone_iff.mp halone).2 (List.mem_map_of_mem (f := TelemetryRow.id) hrow)

/-- A flush attempt commits every buffered record that the table would take on its own
exactly if it would take none of them so, or all of them, no two having the same id. -/
theorem accepted_alone_committed_iff (hreach : (system codec settings admits).Reachable s)
    (hprocess : s.process = some { vars := worker, pc := .execute values stopping }) :
    (∀ record ∈ worker.batch_writer.buffer, AcceptedAlone admits s.server.rows record →
        CommittedByFlush codec settings admits stopping s record) ↔
      (∀ record ∈ worker.batch_writer.buffer, ¬ AcceptedAlone admits s.server.rows record) ∨
        ((∀ record ∈ worker.batch_writer.buffer, AcceptedAlone admits s.server.rows record) ∧
          (worker.batch_writer.buffer.map TelemetryRecord.id).Nodup) := by
  obtain rfl : values = worker.batch_writer.values := (reachable_consistent hreach _ hprocess).call
  rw [← accepts_values_iff]
  constructor
  · intro hall
    by_cases haccepts : accepts admits s.server.rows worker.batch_writer.values = true
    · exact .inr haccepts
    · refine .inl fun record hmem halone => ?_
      exact not_committed_of_refused hprocess (Bool.not_eq_true _ ▸ haccepts) halone (hall record hmem halone)
  · rintro (hnone | haccepts) record hmem halone
    · exact absurd halone (hnone record hmem)
    · exact ⟨accepted_ends hprocess haccepts (running fun _ => record.id) rfl,
        fun s' hends => hends.committed hprocess haccepts record.row (List.mem_map_of_mem hmem)⟩

end Attempt

/-- The records of two entries are flushed at once. -/
def two_by_two : Settings where
  batch_size := 2
  flush_interval_seconds := 5

/-- What the column `device_type` lets through. -/
def String50 (row : TelemetryRow String String) : Bool := row.device_type.length ≤ 50

/-- A stream entry of a reading whose device type is longer than that. -/
def long_type_data : StreamDict := sample_data.set "device_type" "a-device-type-of-more-than-fifty-characters-in-length"

/-- The worker is about to execute the INSERT of two records, which the table accepts. -/
def flushes_accepted (s : State String String) : Bool :=
  match s.process with
  | some { vars := worker, pc := .execute _ false, reply := none } =>
    worker.batch_writer.size = 2 ∧ accepts String50 s.server.rows worker.batch_writer.values
  | _ => false

/-- The worker is about to execute an INSERT that is refused, though not for every record. -/
def flushes_refused (s : State String String) : Bool :=
  match s.process with
  | some { vars := worker, pc := .execute values false, reply := none } =>
    !accepts String50 s.server.rows values &&
      worker.batch_writer.buffer.any fun record => accepts String50 s.server.rows [record.row]
  | _ => false

/-- Both records of a batch are within the limits of the table. -/
theorem accepted_alone_committed_two_entries :
    ∃ (s : State String String) (worker : Worker String String) (values : List (TelemetryRow String String)),
      s.process = some { vars := worker, pc := .execute values false } ∧ worker.batch_writer.size = 2 ∧
        ∀ record ∈ worker.batch_writer.buffer, AcceptedAlone String50 s.server.rows record →
          CommittedByFlush sample_codec two_by_two String50 false s record := by
  obtain ⟨s, hreach, htest⟩ := TransitionSystem.exists_of_replay (fun _ _ => True)
    (fun _ _ => true) (fun _ _ _ => trivial) (s := idle) (idle_initial sample_codec two_by_two String50)
    [.event (.xadd sample_data), .event (.xadd sample_data), .start (sample_moment false), .exec (),
      .finish (sample_moment false) .replied]
    flushes_accepted (by decide)
  unfold flushes_accepted at htest
  split at htest
  · rename_i worker values hprocess
    obtain ⟨hsize, haccepts⟩ := of_decide_eq_true htest
    exact ⟨s, worker, values, hprocess, hsize,
      (accepted_alone_committed_iff hreach hprocess).mpr (.inr (accepts_values_iff.mp haccepts))⟩
  · cases htest

/-- A record with a long device type keeps the other record of its batch out of the table. -/
theorem refused_record_blocks_batch :
    ¬ ∀ (s : State String String) (worker : Worker String String) (values : List (TelemetryRow String String)) (stopping : Bool),
      (system sample_codec two_by_two String50).Reachable s →
        s.process = some { vars := worker, pc := .execute values stopping } →
          ∀ record ∈ worker.batch_writer.buffer, AcceptedAlone String50 s.server.rows record →
            CommittedByFlush sample_codec two_by_two String50 stopping s record := by
  intro hclaim
  obtain ⟨s, hreach, htest⟩ := TransitionSystem.exists_of_replay (fun _ _ => True)
    (fun _ _ => true) (fun _ _ _ => trivial) (s := idle) (idle_initial sample_codec two_by_two String50)
    [.event (.xadd long_type_data), .event (.xadd sample_data), .start (sample_moment false), .exec (),
      .finish (sample_moment false) .replied]
    flushes_refused (by decide)
  unfold flushes_refused at htest
  split at htest
  · rename_i worker values hprocess
    simp only [Bool.and_eq_true, Bool.not_eq_true', List.any_eq_true] at htest
    obtain ⟨hrefused, record, hmem, halone⟩ := htest
    exact not_committed_of_refused hprocess hrefused halone (hclaim s worker values false hreach hprocess record hmem halone)
  · cases htest

end gateway.stream_to_postgres
