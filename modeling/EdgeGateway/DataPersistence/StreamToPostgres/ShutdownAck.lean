import EdgeGateway.DataPersistence.StreamToPostgres.UniqueRows

open gateway.telemetry gateway.batch_writer

namespace gateway.stream_to_postgres

variable {U T : Type} {codec : Codec U T} {settings : Settings} {moment : Moment U} {world : World U T}
  {worker : Worker U T} {first : ℕ}

/-- The entry has a row. -/
def Committed (world : World U T) (id : ℕ) : Prop := ∃ row ∈ world.rows, row.source = id

/-- Of the entries from `first` on, `pending_ids` has those that are buffered, and those
that are committed and not acknowledged. -/
structure Tracked (first : ℕ) (world : World U T) (worker : Worker U T) : Prop where
  rows : ∀ row ∈ world.rows, first ≤ row.source → row.source ∈ world.group.pending → row.source ∈ worker.pending_ids
  buffered : ∀ record ∈ worker.batch_writer.buffer, record.source ∈ worker.pending_ids
  since : ∀ id ∈ worker.pending_ids, first ≤ id
  settled : ∀ id ∈ worker.pending_ids, worker.batch_writer.Buffered id ∨ Committed world id

/-- The entries whose acknowledgement Redis has executed. -/
def acknowledged_ids : Pc U T → Option Reply → List ℕ
  | .ack ids _, some _ => ids
  | _, _ => []

structure TrackedAt (first : ℕ) (world : World U T) (worker : Worker U T) (pc : Pc U T) (reply : Option Reply) : Prop where
  tracked : Tracked first world worker
  reached : first ≤ world.group.next
  hand : ∀ entry ∈ hand pc reply, first ≤ entry.1
  acknowledged : ∀ id ∈ acknowledged_ids pc reply, id ∉ world.group.pending

theorem Turns.tracked {next : Worker U T × Option (Pc U T)} (h : Turns worker next) (htracked : Tracked first world worker) :
    Tracked first world next.1 := by
  refine ⟨?_, ?_, ?_, ?_⟩
  · rw [h.pending_ids]
    exact htracked.rows
  · rw [h.pending_ids, h.batch_writer]
    exact htracked.buffered
  · rw [h.pending_ids]
    exact htracked.since
  · rw [h.pending_ids, h.batch_writer]
    exact htracked.settled

theorem Turns.acknowledged_ids {next : Worker U T × Option (Pc U T)} (h : Turns worker next) {pc : Pc U T}
    (hpc : next.2 = some pc) : acknowledged_ids pc none = [] := by
  obtain rfl | ⟨stopping, rfl⟩ | ⟨stopping, rfl⟩ := h.call pc hpc <;> rfl

theorem Tracked.take_up {entries : List StreamEntry} {records : List (TelemetryRecord U T)} (h : Tracked first world worker)
    (hfirst : ∀ entry ∈ entries, first ≤ entry.1) (hrecords : entries.map (record_of codec moment) = records.map some) :
    Tracked first world (worker.take_up records) := by
  have hsources := sources_of_records hrecords
  refine ⟨fun row hmem hle hpending => List.mem_append_left _ (h.rows row hmem hle hpending), ?_, ?_, ?_⟩
  · intro record hmem
    obtain hold | hnew := List.mem_append.mp hmem
    · exact List.mem_append_left _ (h.buffered record hold)
    · exact List.mem_append_right _ (List.mem_map_of_mem hnew)
  · intro id hid
    obtain hold | hnew := List.mem_append.mp hid
    · exact h.since id hold
    · rw [hsources] at hnew
      obtain ⟨entry, hmem, rfl⟩ := List.mem_map.mp hnew
      exact hfirst entry hmem
  · intro id hid
    obtain hold | hnew := List.mem_append.mp hid
    · obtain ⟨record, hmem, hsource⟩ | hrow := h.settled id hold
      · exact .inl ⟨record, List.mem_append_left _ hmem, hsource⟩
      · exact .inr hrow
    · obtain ⟨record, hmem, hsource⟩ := List.mem_map.mp hnew
      exact .inl ⟨record, List.mem_append_right _ hmem, hsource⟩

/-- Whether the worker goes on or ends. -/
theorem resume_tracked (settings : Settings) (moment : Moment U) {pc : Pc U T} {reply : Option Reply}
    {o : Outcome Reply} (h : TrackedAt first world worker pc reply)
    (hconsistent : Consistent codec world worker pc reply) (hreply : ∀ r, o = .reply r → reply = some r) :
    Tracked first world (resume codec settings moment worker pc o).1 ∧
      ∀ pc', (resume codec settings moment worker pc o).2 = some pc' →
        TrackedAt first world (resume codec settings moment worker pc o).1 pc' none := by
  have hresumed := resume_spec codec settings moment worker pc o
  generalize resume codec settings moment worker pc o = next at hresumed
  have hturned : ∀ {worker' : Worker U T}, Tracked first world worker' → Turns worker' next →
      Tracked first world next.1 ∧ ∀ pc', next.2 = some pc' → TrackedAt first world next.1 pc' none := by
    intro worker' htracked hturns
    refine ⟨hturns.tracked htracked, fun pc' hpc' => ⟨hturns.tracked htracked, h.reached, ?_, ?_⟩⟩
    · rw [hturns.hand hpc']
      exact nofun
    · rw [hturns.acknowledged_ids hpc']
      exact nofun
  cases hresumed with
  | @batch _ r _ _ hprocessed =>
    obtain rfl := hreply r rfl
    cases hprocessed with
    | all hrecords hturns => exact hturned (h.tracked.take_up h.hand hrecords) hturns
    | @malformed records parsed entry_id data rest hentries hrecords _ =>
      have hhand := h.hand
      rw [hentries] at hhand
      have htracked := h.tracked.take_up (fun entry hmem => hhand entry (List.mem_append_left _ hmem)) hrecords
      refine ⟨htracked, ?_⟩
      rintro pc' ⟨⟩
      exact ⟨htracked, h.reached,
        fun entry hmem => hhand entry (List.mem_append_right _ (List.mem_cons_of_mem _ hmem)), nofun⟩
  | executed =>
    refine ⟨h.tracked, ?_⟩
    rintro pc' ⟨⟩
    exact ⟨h.tracked, h.reached, nofun, nofun⟩
  | @committed values stopping r _ hturns =>
    obtain rfl := hreply r rfl
    obtain ⟨hvalues, hcommitted⟩ := hconsistent.call
    have hcleared : Tracked first world { worker with batch_writer := worker.batch_writer.clear } := by
      refine ⟨h.tracked.rows, fun _ hmem => (List.not_mem_nil hmem).elim, h.tracked.since, fun id hid => .inr ?_⟩
      obtain ⟨record, hmem, hsource⟩ | hrow := h.tracked.settled id hid
      · exact ⟨record.row, hcommitted rfl _ (hvalues ▸ List.mem_map_of_mem hmem), hsource⟩
      · exact hrow
    exact hturned hcleared hturns
  | @acknowledged ids stopping r _ hturns =>
    obtain rfl := hreply r rfl
    obtain ⟨hids, hempty⟩ := hconsistent.call
    have hknown : Tracked first world { worker with pending_ids := [] } := by
      refine ⟨fun row hmem hle hpending => ?_, ?_, fun _ hid => (List.not_mem_nil hid).elim,
        fun _ hid => (List.not_mem_nil hid).elim⟩
      · have hid : row.source ∈ ids := hids ▸ h.tracked.rows row hmem hle hpending
        exact absurd hpending (h.acknowledged _ hid)
      · intro record hmem
        rw [hempty] at hmem
        cases hmem
    exact hturned hknown hturns
  | paused _ =>
    refine ⟨h.tracked, ?_⟩
    rintro pc' ⟨⟩
    exact ⟨h.tracked, h.reached, nofun, nofun⟩
  | turned hturns => exact hturned h.tracked hturns

/-- What is acknowledged or stays so, and what is read, has no row yet. -/
theorem Tracked.of_group {world' : World U T} (h : Tracked first world worker) (hrows : world'.rows = world.rows)
    (hpending : ∀ row ∈ world.rows, row.source ∈ world'.group.pending → row.source ∈ world.group.pending) :
    Tracked first world' worker where
  rows row hmem hle hpend := by
    rw [hrows] at hmem
    exact h.rows row hmem hle (hpending row hmem hpend)
  buffered := h.buffered
  since := h.since
  settled id hid := by
    rw [Committed, hrows]
    exact h.settled id hid

section Execution

variable [DecidableEq U] {admits : TelemetryRow U T → Bool}

theorem execute_tracked {pc : Pc U T} {world' : World U T} {reply : Reply} (h : TrackedAt first world worker pc none)
    (hrow : OneRow world) (hconsistent : Consistent codec world worker pc none)
    (hexec : execute settings admits world pc = some (world', reply)) : TrackedAt first world' worker pc (some reply) := by
  have hreached := Nat.le_trans h.reached (next_le_execute hexec)
  cases pc with
  | read =>
    simp only [execute] at hexec
    split at hexec
    · cases hexec
    · cases hexec
      refine ⟨h.tracked.of_group rfl fun row hmem hpending => ?_, hreached, ?_, List.forall_mem_nil _⟩
      · rw [ConsumerGroup.mem_pending_xreadgroup] at hpending
        obtain hold | ⟨data, hfresh⟩ := hpending
        · exact hold
        · have hdelivered := hrow.delivered row hmem
          have hnew := world.group.next_le_of_mem_fresh hfresh
          omega
      · rintro ⟨id, data⟩ hmem
        exact Nat.le_trans h.reached (world.group.next_le_of_mem_fresh hmem)
  | execute values stopping =>
    simp only [execute] at hexec
    split at hexec
    · cases hexec
      exact ⟨h.tracked, h.reached, List.forall_mem_nil _, List.forall_mem_nil _⟩
    · cases hexec
  | commit values stopping =>
    cases hexec
    refine ⟨⟨fun row hmem hle hpending => ?_, h.tracked.buffered, h.tracked.since, fun id hid => ?_⟩, h.reached,
      List.forall_mem_nil _, List.forall_mem_nil _⟩
    · obtain hold | hnew := List.mem_append.mp hmem
      · exact h.tracked.rows row hold hle hpending
      · rw [hconsistent.call.1] at hnew
        obtain ⟨record, hrecord, rfl⟩ := List.mem_map.mp hnew
        exact h.tracked.buffered record hrecord
    · obtain hbuffered | ⟨row, hmem, hsource⟩ := h.tracked.settled id hid
      · exact .inl hbuffered
      · exact .inr ⟨row, List.mem_append_left _ hmem, hsource⟩
  | ack_malformed entry_id rest =>
    cases hexec
    refine ⟨h.tracked.of_group rfl fun row _ hpending => ?_, h.reached, h.hand, List.forall_mem_nil _⟩
    exact ((world.group.mem_pending_xack).mp hpending).1
  | ack ids stopping =>
    cases hexec
    refine ⟨h.tracked.of_group rfl fun row _ hpending => ?_, h.reached, List.forall_mem_nil _, fun id hid hpending => ?_⟩
    · exact ((world.group.mem_pending_xack).mp hpending).1
    · exact ((world.group.mem_pending_xack).mp hpending).2 hid
  | sleep =>
    cases hexec
    exact ⟨h.tracked, h.reached, List.forall_mem_nil _, List.forall_mem_nil _⟩

omit [DecidableEq U] in
theorem occur_tracked {e : Event} {world' : World U T} {pc : Pc U T} {reply : Option Reply}
    (h : TrackedAt first world worker pc reply) (hevent : occur world e = some world') :
    TrackedAt first world' worker pc reply := by
  cases e with
  | xadd data | xtrim count =>
    cases hevent
    exact ⟨h.tracked.of_group rfl fun _ _ hpending => hpending, h.reached, h.hand, h.acknowledged⟩

variable {s₀ s s' : State U T} {a : Action U}

/-- The steps of one run of the worker, which starts in `s₀` and is not killed. -/
def InRun (s₀ s : State U T) : Action U → Prop
  | .start _ => s = s₀
  | .crash => False
  | _ => True

omit [DecidableEq U] in
/-- Entries that get to the group after the start have no row yet. -/
theorem start_tracked (hrow : OneRow world) (monotonic : ℚ) :
    Tracked world.group.next world ({ last_flush_time := monotonic } : Worker U T) := by
  refine ⟨fun row hmem hle _ => ?_, nofun, nofun, nofun⟩
  have hdelivered := hrow.delivered row hmem
  omega

theorem step_tracked (hreach : (system codec settings admits).Reachable s)
    (h : ∀ p, s.process = some p → TrackedAt s₀.server.group.next s.server p.vars p.pc p.reply) (hok : InRun s₀ s a)
    (hstep : (system codec settings admits).step s a = some s') :
    ∀ p, s'.process = some p → TrackedAt s₀.server.group.next s'.server p.vars p.pc p.reply := by
  obtain ⟨hrow, hprocess⟩ := reachable_oneRow hreach
  change (daemon codec settings admits).step s a = some s' at hstep
  cases a with
  | start moment =>
    obtain rfl := hok
    obtain ⟨_, rfl⟩ := Daemon.step_start hstep
    intro p hp
    obtain ⟨pc, hpc, rfl⟩ := Option.map_eq_some_iff.mp hp
    have hturns : Turns ({ last_flush_time := moment.monotonic } : Worker U T) ((daemon codec settings admits).start moment) :=
      loop_turns
    refine ⟨hturns.tracked (start_tracked hrow _), Nat.le_refl _, ?_, ?_⟩
    · rw [hturns.hand hpc]
      exact nofun
    · rw [hturns.acknowledged_ids hpc]
      exact nofun
  | exec choice =>
    obtain ⟨worker, pc, world, reply, hp, hexec, rfl⟩ := Daemon.step_exec hstep
    rintro p ⟨⟩
    exact execute_tracked (h _ hp) hrow (hprocess _ hp).2.1 hexec
  | finish moment how =>
    obtain ⟨p, o, hp, houtcome, rfl⟩ := Daemon.step_finish hstep
    intro p' hp'
    obtain ⟨pc, hpc, rfl⟩ := Option.map_eq_some_iff.mp hp'
    have hreply : ∀ r, o = .reply r → p.reply = some r := by
      rintro r rfl
      exact Daemon.outcome_reply houtcome
    exact (resume_tracked settings moment (h p hp) (hprocess p hp).2.1 hreply).2 pc hpc
  | crash => exact hok.elim
  | event e =>
    obtain ⟨world, hevent, rfl⟩ := Daemon.step_event hstep
    exact fun p hp => occur_tracked (h p hp) hevent

/-- The calls of the final flush. -/
def final : Pc U T → Bool
  | .execute _ stopping | .commit _ stopping | .ack _ stopping => stopping
  | _ => false

variable (codec settings admits) in
/-- The worker finds the shutdown event set and leaves the loop, with the variables `worker`. -/
def LeavesLoop (s : State U T) (worker : Worker U T) : Action U → Prop
  | .start moment => moment.shutdown = true ∧ worker = { last_flush_time := moment.monotonic }
  | .finish moment how =>
    moment.shutdown = true ∧ how ≠ .cancelled ∧
      ∃ p o, s.process = some p ∧ final p.pc = false ∧ (daemon codec settings admits).outcome p how = some o ∧
        resume codec settings moment p.vars p.pc o = stop worker
  | _ => False

/-- No call fails. -/
def succeeds : Action U → Bool
  | .exec _ | .finish _ .replied | .event _ => true
  | _ => false

variable (codec settings admits) in
/-- The run of the worker that starts in `s₀` ends through the shutdown event: in `left`
the worker leaves the loop, and all calls of the final flush succeed. -/
structure EndsByShutdown (s₀ left : State U T) (worker : Worker U T) (ended : State U T) : Prop where
  idle : s₀.process = none
  run : (system codec settings admits).StepsWhere (InRun s₀) s₀ left
  leaves : ∃ a s', InRun s₀ left a ∧ LeavesLoop codec settings admits left worker a ∧
    (system codec settings admits).step left a = some s' ∧
      (system codec settings admits).StepsWhere (fun _ a => succeeds a = true) s' ended
  returned : ended.process = none

/-- Every committed entry from `first` on is acknowledged. -/
def Acknowledged (first : ℕ) (world : World U T) : Prop :=
  ∀ id, first ≤ id → Committed world id → id ∉ world.group.pending

omit [DecidableEq U] in
theorem Tracked.acknowledged (h : Tracked first world worker) (hnone : ∀ id ∈ worker.pending_ids, id ∉ world.group.pending) :
    Acknowledged first world := by
  rintro id hle ⟨row, hmem, rfl⟩ hpending
  exact hnone row.source (h.rows row hmem hle hpending) hpending

omit [DecidableEq U] in
theorem stop_eq : stop worker = (worker, (stop worker).2) := by
  unfold stop
  split <;> rfl

/-- What the worker leaves the loop with. -/
theorem leaves_spec {left : State U T} (hreach : (system codec settings admits).Reachable left)
    (h : ∀ p, left.process = some p → TrackedAt s₀.server.group.next left.server p.vars p.pc p.reply)
    (hok : InRun s₀ left a) (hleave : LeavesLoop codec settings admits left worker a)
    (hstep : (system codec settings admits).step left a = some s') :
    s' = { left with process := (stop worker).2.map fun pc => { vars := worker, pc } } ∧
      Tracked s₀.server.group.next left.server worker ∧ s₀.server.group.next ≤ left.server.group.next := by
  obtain ⟨hrow, hprocess⟩ := reachable_oneRow hreach
  change (daemon codec settings admits).step left a = some s' at hstep
  cases a with
  | start moment =>
    obtain rfl := hok
    obtain ⟨hshutdown, rfl⟩ := hleave
    obtain ⟨_, rfl⟩ := Daemon.step_start hstep
    have hstart : (daemon codec settings admits).start moment = stop { last_flush_time := moment.monotonic } :=
      if_pos hshutdown
    exact ⟨by rw [hstart]; rfl, start_tracked hrow _, Nat.le_refl _⟩
  | finish moment how =>
    obtain ⟨_, _, p, o, hp, _, houtcome, hresume⟩ := hleave
    obtain ⟨p', o', hp', houtcome', rfl⟩ := Daemon.step_finish hstep
    rw [hp] at hp'
    cases hp'
    rw [houtcome] at houtcome'
    cases houtcome'
    have hreply : ∀ r, o = .reply r → p.reply = some r := by
      rintro r rfl
      exact Daemon.outcome_reply houtcome
    have htracked := (resume_tracked settings moment (h p hp) (hprocess p hp).2.1 hreply).1
    have hadvance : (daemon codec settings admits).advance moment p o =
        (stop worker).2.map fun pc => { vars := worker, pc } := by
      change ((resume codec settings moment p.vars p.pc o).2.map fun pc =>
        ({ vars := (resume codec settings moment p.vars p.pc o).1, pc } : Process U T)) = _
      rw [hresume, stop_eq]
    rw [hresume, stop_eq] at htracked
    exact ⟨by rw [hadvance], htracked, (h p hp).reached⟩
  | _ => exact hleave.elim

/-- The final flush, or the end with everything committed acknowledged. -/
structure Finishing (first : ℕ) (s : State U T) : Prop where
  running : ∀ p, s.process = some p → TrackedAt first s.server p.vars p.pc p.reply ∧ final p.pc = true
  ended : s.process = none → Acknowledged first s.server

omit [DecidableEq U] in
/-- Where a call of the final flush succeeds, the next one follows, or nothing awaits acknowledgement. -/
theorem final_resume (codec : Codec U T) (settings : Settings) (moment : Moment U) (worker : Worker U T) (r : Reply)
    {pc : Pc U T} (hfinal : final pc = true) :
    (∃ pc', (resume codec settings moment worker pc (.reply r)).2 = some pc' ∧ final pc' = true) ∨
      (resume codec settings moment worker pc (.reply r)).2 = none ∧
        (resume codec settings moment worker pc (.reply r)).1.pending_ids = [] := by
  cases pc with
  | execute values stopping =>
    obtain rfl : stopping = true := hfinal
    exact .inl ⟨_, rfl, rfl⟩
  | commit values stopping =>
    obtain rfl : stopping = true := hfinal
    simp only [resume, acknowledge]
    split
    · rename_i hnone
      exact .inr ⟨rfl, hnone⟩
    · exact .inl ⟨_, rfl, rfl⟩
  | ack ids stopping =>
    obtain rfl : stopping = true := hfinal
    exact .inr ⟨rfl, rfl⟩
  | _ => cases hfinal

theorem Finishing.step (hreach : (system codec settings admits).Reachable s) (h : Finishing first s)
    (hok : succeeds a = true) (hstep : (system codec settings admits).step s a = some s') : Finishing first s' := by
  obtain ⟨hrow, hprocess⟩ := reachable_oneRow hreach
  change (daemon codec settings admits).step s a = some s' at hstep
  cases a with
  | exec choice =>
    obtain ⟨worker, pc, world, reply, hp, hexec, rfl⟩ := Daemon.step_exec hstep
    obtain ⟨htracked, hfinal⟩ := h.running _ hp
    refine ⟨?_, nofun⟩
    rintro p ⟨⟩
    exact ⟨execute_tracked htracked hrow (hprocess _ hp).2.1 hexec, hfinal⟩
  | finish moment how =>
    cases how with
    | replied =>
      obtain ⟨p, o, hp, houtcome, rfl⟩ := Daemon.step_finish hstep
      obtain ⟨r, hreply, rfl⟩ := Option.map_eq_some_iff.mp houtcome
      obtain ⟨htracked, hfinal⟩ := h.running p hp
      have hreplied : ∀ r', Outcome.reply r = .reply r' → p.reply = some r' := by
        rintro r' ⟨⟩
        exact hreply
      obtain ⟨hended, hrunning⟩ := resume_tracked settings moment htracked (hprocess p hp).2.1 hreplied
      obtain ⟨pc', hpc', hfinal'⟩ | ⟨hnone, hpending⟩ := final_resume codec settings moment p.vars r hfinal
      · have hadvance : (daemon codec settings admits).advance moment p (.reply r) =
            some { vars := (resume codec settings moment p.vars p.pc (.reply r)).1, pc := pc' } := by
          change (resume codec settings moment p.vars p.pc (.reply r)).2.map _ = _
          rw [hpc']
          rfl
        rw [hadvance]
        refine ⟨?_, nofun⟩
        rintro p' ⟨⟩
        exact ⟨hrunning pc' hpc', hfinal'⟩
      · have hadvance : (daemon codec settings admits).advance moment p (.reply r) = none := by
          change (resume codec settings moment p.vars p.pc (.reply r)).2.map _ = _
          rw [hnone]
          rfl
        rw [hadvance]
        refine ⟨nofun, fun _ => hended.acknowledged ?_⟩
        rw [hpending]
        exact nofun
    | raised | cancelled => cases hok
  | event e =>
    obtain ⟨world, hevent, rfl⟩ := Daemon.step_event hstep
    refine ⟨fun p hp => ⟨occur_tracked (h.running p hp).1 hevent, (h.running p hp).2⟩, fun hnone id hle hcommitted => ?_⟩
    have hack := h.ended hnone id hle
    cases e <;> cases hevent <;> exact hack hcommitted
  | start moment | crash => cases hok

/-- Nothing happens to the rows and to the group's pending entries while no worker runs. -/
theorem gone_keeps {world : World U T}
    (h : (system codec settings admits).StepsWhere (fun _ a => succeeds a = true) s s')
    (hs : s.process = none ∧ s.server.rows = world.rows ∧ s.server.group.pending = world.group.pending) :
    s'.process = none ∧ s'.server.rows = world.rows ∧ s'.server.group.pending = world.group.pending := by
  refine h.invariant (P := fun s => s.process = none ∧ s.server.rows = world.rows ∧
    s.server.group.pending = world.group.pending) ?_ hs
  rintro s a s' hok hstep ⟨hnone, hrows, hpending⟩
  change (daemon codec settings admits).step s a = some s' at hstep
  cases a with
  | event e =>
    obtain ⟨world, hevent, rfl⟩ := Daemon.step_event hstep
    cases e <;> cases hevent <;> exact ⟨hnone, hrows, hpending⟩
  | exec choice =>
    obtain ⟨worker, pc, world, reply, hp, _⟩ := Daemon.step_exec hstep
    rw [hnone] at hp
    cases hp
  | finish moment how =>
    obtain ⟨p, o, hp, _⟩ := Daemon.step_finish hstep
    rw [hnone] at hp
    cases hp
  | start moment | crash => cases hok

/-- After a run that ends through the shutdown event every committed entry is acknowledged
exactly if something was buffered when the worker left the loop, or everything in
`pending_ids` was acknowledged by then. -/
theorem acknowledged_iff {left ended : State U T} (hreach : (system codec settings admits).Reachable s₀)
    (h : EndsByShutdown codec settings admits s₀ left worker ended) :
    Acknowledged s₀.server.group.next ended.server ↔
      0 < worker.batch_writer.size ∨ ∀ id ∈ worker.pending_ids, id ∉ left.server.group.pending := by
  obtain ⟨hidle, hrun, ⟨a, s', hok, hleave, hstep, hsteps⟩, hreturned⟩ := h
  have hleft : (system codec settings admits).Reachable left ∧
      ∀ p, left.process = some p → TrackedAt s₀.server.group.next left.server p.vars p.pc p.reply := by
    refine hrun.invariant (P := fun s => (system codec settings admits).Reachable s ∧
      ∀ p, s.process = some p → TrackedAt s₀.server.group.next s.server p.vars p.pc p.reply) ?_ ⟨hreach, ?_⟩
    · rintro s a s' hok hstep ⟨hreach, htracked⟩
      exact ⟨hreach.step trivial hstep, step_tracked hreach htracked hok hstep⟩
    · rw [hidle]
      rintro p ⟨⟩
  obtain ⟨hs', htracked, hreached⟩ := leaves_spec hleft.1 hleft.2 hok hleave hstep
  by_cases hsize : 0 < worker.batch_writer.size
  · refine iff_of_true ?_ (.inl hsize)
    have hprocess : s'.process = some { vars := worker, pc := .execute worker.batch_writer.values true } := by
      rw [hs', stop, if_pos hsize]
      rfl
    have hfinishing : Finishing s₀.server.group.next s' := by
      refine ⟨fun p hp => ?_, ?_⟩
      · rw [hprocess] at hp
        cases hp
        refine ⟨?_, rfl⟩
        rw [hs']
        exact ⟨htracked, hreached, List.forall_mem_nil _, List.forall_mem_nil _⟩
      · rw [hprocess]
        rintro ⟨⟩
    have hended : (system codec settings admits).Reachable ended ∧ Finishing s₀.server.group.next ended := by
      refine hsteps.invariant (P := fun s => (system codec settings admits).Reachable s ∧
        Finishing s₀.server.group.next s) ?_ ⟨hleft.1.step trivial hstep, hfinishing⟩
      rintro s a s' hok hstep ⟨hreach, hfinishing⟩
      exact ⟨hreach.step trivial hstep, hfinishing.step hreach hok hstep⟩
    exact hended.2.ended hreturned
  · -- The worker is gone, and with it the only one who knows of `pending_ids`.
    have hgone : s'.process = none ∧ s'.server.rows = left.server.rows ∧
        s'.server.group.pending = left.server.group.pending := by
      rw [hs', stop, if_neg hsize]
      exact ⟨rfl, rfl, rfl⟩
    obtain ⟨_, hrows, hpending⟩ := gone_keeps hsteps hgone
    have hsame : Acknowledged s₀.server.group.next ended.server ↔
        Acknowledged s₀.server.group.next left.server := by
      simp only [Acknowledged, Committed, hrows, hpending]
    rw [hsame]
    constructor
    · intro hall
      refine .inr fun id hid => hall id (htracked.since id hid) ?_
      obtain hbuffered | hcommitted := htracked.settled id hid
      · exact absurd hbuffered.size_pos hsize
      · exact hcommitted
    · rintro (hpos | hnone)
      · exact absurd hpos hsize
      · exact htracked.acknowledged hnone

end Execution

/-- One entry in the stream, and no worker yet. -/
def one_entry : State String String :=
  { server := { group := ConsumerGroup.empty.xadd sample_data, rows := [] }, process := none }

def sample_record : TelemetryRecord String String where
  id := "0"
  device_id := "0f8fad5b-d9cb-469f-a165-70867728950e"
  device_type := "sensor"
  timestamp := "2025-01-01T00:00:00"
  payload := [("level", .int 1)]
  metadata_ := []
  source := 0

/-- The worker has read the entry and is about to flush its record. -/
def about_to_flush : State String String :=
  { server := { group := (ConsumerGroup.empty.xadd sample_data).xreadgroup 1, rows := [] }
    process := some {
      vars := { batch_writer := { buffer := [sample_record] }, pending_ids := [0], last_flush_time := 0 }
      pc := .execute [sample_record.row] false } }

theorem one_entry_reachable : (system sample_codec one_by_one fun _ => true).Reachable one_entry :=
  .step (a := .event (.xadd sample_data)) (.initial (idle_initial sample_codec one_by_one fun _ => true)) trivial rfl

theorem about_to_flush_steps :
    (system sample_codec one_by_one fun _ => true).StepsWhere (InRun one_entry) one_entry about_to_flush :=
  .step (a := .finish (sample_moment false) .replied)
    (.step (a := .exec ()) (.step (a := .start (sample_moment false)) .refl rfl rfl) trivial rfl) trivial rfl

/-- The flush in the loop fails, and the shutdown event is found set after it. -/
theorem acknowledged_after_failed_flush :
    ∃ (worker : Worker String String) (ended : State String String),
      EndsByShutdown sample_codec one_by_one (fun _ => true) one_entry about_to_flush worker ended ∧
        ended.server.rows = [sample_record.row] ∧ Acknowledged one_entry.server.group.next ended.server := by
  let worker : Worker String String :=
    { batch_writer := { buffer := [sample_record] }, pending_ids := [0], last_flush_time := 0 }
  let stopped : State String String :=
    { about_to_flush with process := some { vars := worker, pc := .execute [sample_record.row] true } }
  obtain ⟨ended, hreplay, htest⟩ : ∃ ended, (system sample_codec one_by_one fun _ => true).replay (fun _ a => succeeds a)
      stopped [.exec (), .finish (sample_moment true) .replied, .exec (), .finish (sample_moment true) .replied, .exec (),
        .finish (sample_moment true) .replied] = some ended ∧
      ended.process = none ∧ ended.server.rows = [sample_record.row] := ⟨_, rfl, rfl, rfl⟩
  have hleaves : LeavesLoop sample_codec one_by_one (fun _ => true) about_to_flush worker
      (.finish (sample_moment true) .raised) := ⟨rfl, nofun, _, _, rfl, rfl, rfl, rfl⟩
  have hends : EndsByShutdown sample_codec one_by_one (fun _ => true) one_entry about_to_flush worker ended := by
    refine ⟨rfl, about_to_flush_steps, ⟨.finish (sample_moment true) .raised, stopped, trivial, hleaves, rfl, ?_⟩, htest.1⟩
    exact TransitionSystem.replay_steps (fun _ _ h => h) .refl hreplay
  exact ⟨worker, ended, hends, htest.2, (acknowledged_iff one_entry_reachable hends).mpr (.inl (by decide))⟩

/-- The flush in the loop succeeds and its acknowledgement fails. -/
theorem failed_ack_is_not_repeated :
    ¬ ∀ (s₀ left ended : State String String) (worker : Worker String String),
      (system sample_codec one_by_one fun _ => true).Reachable s₀ →
        EndsByShutdown sample_codec one_by_one (fun _ => true) s₀ left worker ended →
          Acknowledged s₀.server.group.next ended.server := by
  intro hclaim
  let world : World String String := { about_to_flush.server with rows := [sample_record.row] }
  let worker : Worker String String := { batch_writer := {}, pending_ids := [0], last_flush_time := 0 }
  let left : State String String := { server := world, process := some { vars := worker, pc := .ack [0] false } }
  let ended : State String String := { server := world, process := none }
  have hrun : (system sample_codec one_by_one fun _ => true).StepsWhere (InRun one_entry) one_entry left :=
    .step (a := .finish (sample_moment false) .replied)
      (.step (a := .exec ()) (.step (a := .finish (sample_moment false) .replied)
        (.step (a := .exec ()) about_to_flush_steps trivial rfl) trivial rfl) trivial rfl) trivial rfl
  have hleaves : LeavesLoop sample_codec one_by_one (fun _ => true) left worker
      (.finish (sample_moment true) .raised) := ⟨rfl, nofun, _, _, rfl, rfl, rfl, rfl⟩
  have hends : EndsByShutdown sample_codec one_by_one (fun _ => true) one_entry left worker ended :=
    ⟨rfl, hrun, ⟨.finish (sample_moment true) .raised, ended, trivial, hleaves, rfl, .refl⟩, rfl⟩
  have hacknowledged := hclaim one_entry left ended worker one_entry_reachable hends
  exact hacknowledged 0 (by decide) ⟨sample_record.row, List.mem_singleton_self _, rfl⟩ (by decide)

end gateway.stream_to_postgres
