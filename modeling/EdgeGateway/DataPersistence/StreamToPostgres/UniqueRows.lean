import EdgeGateway.DataPersistence.StreamToPostgres.Loss

open gateway.telemetry gateway.batch_writer

namespace gateway.stream_to_postgres

variable {U T : Type} {codec : Codec U T} {settings : Settings} {moment : Moment U} {world : World U T}
  {worker : Worker U T}

/-- The values of the open transaction. -/
def inserted : Pc U T → Option Reply → List (TelemetryRow U T)
  | .execute values _, some _ | .commit values _, none => values
  | _, _ => []

/-- Every entry has one record, and a row of a buffered entry has the id of its record. -/
structure OneRecord (world : World U T) (worker : Worker U T) (pc : Pc U T) (reply : Option Reply) : Prop where
  sorted : worker.batch_writer.buffer.Pairwise fun a b => a.source < b.source
  same_id : ∀ record ∈ worker.batch_writer.buffer, ∀ row ∈ world.rows, row.source = record.source → row.id = record.id
  apart : ∀ entry ∈ hand pc reply, ∀ row ∈ world.rows, row.source ≠ entry.1
  fresh : ∀ value ∈ inserted pc reply, ∀ row ∈ world.rows, row.id ≠ value.id

/-- No two rows of an entry, and none of an entry that was not delivered. -/
structure OneRow (world : World U T) : Prop where
  nodup : (world.rows.map TelemetryRow.source).Nodup
  delivered : ∀ row ∈ world.rows, row.source < world.group.next

theorem Turns.inserted {next : Worker U T × Option (Pc U T)} (h : Turns worker next) {pc : Pc U T}
    (hpc : next.2 = some pc) : inserted pc none = [] := by
  obtain rfl | ⟨stopping, rfl⟩ | ⟨stopping, rfl⟩ := h.call pc hpc <;> rfl

theorem Turns.oneRecord {next : Worker U T × Option (Pc U T)} (h : Turns worker next)
    (hsorted : worker.batch_writer.buffer.Pairwise fun a b => a.source < b.source)
    (hsame : ∀ record ∈ worker.batch_writer.buffer, ∀ row ∈ world.rows, row.source = record.source →
      row.id = record.id) {pc : Pc U T} (hpc : next.2 = some pc) : OneRecord world next.1 pc none := by
  refine ⟨?_, ?_, ?_, ?_⟩
  · rw [h.batch_writer]
    exact hsorted
  · rw [h.batch_writer]
    exact hsame
  · rw [h.hand hpc]
    exact nofun
  · rw [h.inserted hpc]
    exact nofun

/-- Records that are taken up come after the buffered ones, from entries without rows. -/
theorem OneRecord.take_up {entries : List StreamEntry} {records : List (TelemetryRecord U T)} {pc : Pc U T}
    {reply : Option Reply} (h : OneRecord world worker pc reply) (hinOrder : InOrder world worker pc reply)
    (hsub : entries.Sublist (hand pc reply)) (hrecords : entries.map (record_of codec moment) = records.map some) :
    (worker.take_up records).batch_writer.buffer.Pairwise (fun a b => a.source < b.source) ∧
      ∀ record ∈ (worker.take_up records).batch_writer.buffer, ∀ row ∈ world.rows, row.source = record.source →
        row.id = record.id := by
  have hsources := sources_of_records hrecords
  have hentry : ∀ record ∈ records, ∃ entry ∈ hand pc reply, record.source = entry.1 := by
    intro record hmem
    have hsource := List.mem_map_of_mem (f := TelemetryRecord.source) hmem
    rw [hsources] at hsource
    obtain ⟨entry, hentry, heq⟩ := List.mem_map.mp hsource
    exact ⟨entry, hsub.subset hentry, heq.symm⟩
  constructor
  · refine List.pairwise_append.mpr ⟨h.sorted, ?_, fun a ha b hb => ?_⟩
    · have hsorted := hinOrder.sorted.sublist hsub
      rw [← List.pairwise_map (f := Prod.fst) (R := (· < ·)), ← hsources, List.pairwise_map] at hsorted
      exact hsorted
    · obtain ⟨entry, hmem, heq⟩ := hentry b hb
      rw [heq]
      exact hinOrder.apart a ha entry hmem
  · intro record hmem row hrow heq
    obtain hold | hnew := List.mem_append.mp hmem
    · exact h.same_id record hold row hrow heq
    · obtain ⟨entry, hmem, hsource⟩ := hentry record hnew
      exact absurd (heq.trans hsource) (h.apart entry hmem row hrow)

theorem resume_oneRecord {pc pc' : Pc U T} {reply : Option Reply} {o : Outcome Reply}
    (h : OneRecord world worker pc reply) (hinOrder : InOrder world worker pc reply)
    (hreply : ∀ r, o = .reply r → reply = some r)
    (hnext : (resume codec settings moment worker pc o).2 = some pc') :
    OneRecord world (resume codec settings moment worker pc o).1 pc' none := by
  have hresumed := resume_spec codec settings moment worker pc o
  generalize resume codec settings moment worker pc o = next at hnext hresumed
  cases hresumed with
  | @batch _ r _ _ hprocessed =>
    obtain rfl := hreply r rfl
    cases hprocessed with
    | all hrecords hturns =>
      obtain ⟨hsorted, hsame⟩ := h.take_up hinOrder (List.Sublist.refl _) hrecords
      exact hturns.oneRecord hsorted hsame hnext
    | @malformed records parsed entry_id data rest hentries hrecords _ =>
      cases hnext
      have hsub : parsed.Sublist (hand pc (some r)) := by
        rw [hentries]
        exact List.sublist_append_left _ _
      obtain ⟨hsorted, hsame⟩ := h.take_up hinOrder hsub hrecords
      refine ⟨hsorted, hsame, fun entry hmem row hrow => ?_, nofun⟩
      refine h.apart entry ?_ row hrow
      rw [hentries]
      exact List.mem_append_right _ (List.mem_cons_of_mem _ hmem)
  | @executed values stopping r =>
    obtain rfl := hreply r rfl
    cases hnext
    exact ⟨h.sorted, h.same_id, nofun, h.fresh⟩
  | committed hturns => exact hturns.oneRecord .nil nofun hnext
  | acknowledged hturns => exact hturns.oneRecord h.sorted h.same_id hnext
  | paused _ =>
    cases hnext
    exact ⟨h.sorted, h.same_id, nofun, nofun⟩
  | turned hturns => exact hturns.oneRecord h.sorted h.same_id hnext

section Execution

variable [DecidableEq U] {admits : TelemetryRow U T → Bool}

omit [DecidableEq U] in
/-- The rows of the buffered records are of other entries than those that have rows. -/
theorem OneRecord.commit {values : List (TelemetryRow U T)} {stopping : Bool}
    (h : OneRecord world worker (.commit values stopping) none) (hvalues : values = worker.batch_writer.values)
    (hrow : OneRow world) (hbuffered : ∀ record ∈ worker.batch_writer.buffer, record.source < world.group.next) :
    OneRow { world with rows := world.rows ++ values } ∧
      ∀ record ∈ worker.batch_writer.buffer, ∀ row ∈ world.rows ++ values, row.source = record.source →
        row.id = record.id := by
  subst hvalues
  have hsources : worker.batch_writer.values.map TelemetryRow.source =
      worker.batch_writer.buffer.map TelemetryRecord.source := by
    simp [BatchWriter.values, TelemetryRecord.row]
  have hsorted : (worker.batch_writer.buffer.map TelemetryRecord.source).Pairwise (· < ·) :=
    List.pairwise_map.mpr h.sorted
  refine ⟨⟨?_, fun row hmem => ?_⟩, fun record hrecord row hmem heq => ?_⟩
  · rw [List.map_append, hsources]
    refine List.nodup_append.mpr ⟨hrow.nodup, hsorted.imp fun hlt => Nat.ne_of_lt hlt, ?_⟩
    intro source hold source' hnew heq
    obtain ⟨row, hmem, rfl⟩ := List.mem_map.mp hold
    obtain ⟨record, hrecord, rfl⟩ := List.mem_map.mp hnew
    exact h.fresh record.row (List.mem_map_of_mem hrecord) row hmem (h.same_id record hrecord row hmem heq)
  · obtain hold | hnew := List.mem_append.mp hmem
    · exact hrow.delivered row hold
    · obtain ⟨record, hrecord, rfl⟩ := List.mem_map.mp hnew
      exact hbuffered record hrecord
  · obtain hold | hnew := List.mem_append.mp hmem
    · exact h.same_id record hrecord row hold heq
    · obtain ⟨record', hrecord', rfl⟩ := List.mem_map.mp hnew
      have hinj := List.inj_on_of_nodup_map (hsorted.imp fun hlt => Nat.ne_of_lt hlt)
      rw [hinj hrecord' hrecord heq]
      rfl

theorem execute_oneRecord {pc : Pc U T} {world' : World U T} {reply : Reply} (h : OneRecord world worker pc none)
    (hrow : OneRow world) (hinOrder : InOrder world worker pc none) (hconsistent : Consistent codec world worker pc none)
    (hexec : execute settings admits world pc = some (world', reply)) :
    OneRow world' ∧ OneRecord world' worker pc (some reply) := by
  have hle := next_le_execute hexec
  cases pc with
  | read =>
    simp only [execute] at hexec
    split at hexec
    · cases hexec
    · cases hexec
      refine ⟨⟨hrow.nodup, fun row hmem => Nat.lt_of_lt_of_le (hrow.delivered row hmem) hle⟩, h.sorted, h.same_id, ?_,
        List.forall_mem_nil _⟩
      rintro ⟨id, data⟩ hmem row hmem' heq
      have hfresh := world.group.next_le_of_mem_fresh hmem
      have hdelivered := hrow.delivered row hmem'
      change row.source = id at heq
      omega
  | execute values stopping =>
    simp only [execute] at hexec
    split at hexec
    · rename_i haccepts
      cases hexec
      refine ⟨hrow, h.sorted, h.same_id, List.forall_mem_nil _, fun value hvalue row hmem heq => ?_⟩
      simp only [accepts, Bool.and_eq_true, List.all_eq_true, decide_eq_true_eq] at haccepts
      exact haccepts.2 value hvalue (heq ▸ List.mem_map_of_mem hmem)
    · cases hexec
  | commit values stopping =>
    cases hexec
    obtain ⟨hrow', hsame⟩ := h.commit hconsistent.call.1 hrow hinOrder.buffered_lt
    exact ⟨hrow', h.sorted, hsame, List.forall_mem_nil _, List.forall_mem_nil _⟩
  | ack_malformed entry_id rest =>
    cases hexec
    exact ⟨⟨hrow.nodup, hrow.delivered⟩, h.sorted, h.same_id, h.apart, List.forall_mem_nil _⟩
  | ack ids stopping =>
    cases hexec
    exact ⟨⟨hrow.nodup, hrow.delivered⟩, h.sorted, h.same_id, List.forall_mem_nil _, List.forall_mem_nil _⟩
  | sleep =>
    cases hexec
    exact ⟨hrow, h.sorted, h.same_id, List.forall_mem_nil _, List.forall_mem_nil _⟩

omit [DecidableEq U] in
theorem occur_oneRow {e : Event} {world' : World U T} (h : occur world e = some world') (hrow : OneRow world) :
    OneRow world' ∧ ∀ (worker : Worker U T) pc reply, OneRecord world worker pc reply → OneRecord world' worker pc reply := by
  cases e with
  | xadd data | xtrim count =>
    cases h
    exact ⟨⟨hrow.nodup, hrow.delivered⟩, fun _ _ _ hone => ⟨hone.sorted, hone.same_id, hone.apart, hone.fresh⟩⟩

variable {s : State U T}

/-- In every run, no stream entry has two rows. -/
theorem reachable_oneRow {ok : State U T → Action U → Prop} (h : (system codec settings admits).ReachableWhere ok s) :
    OneRow s.server ∧ ∀ p, s.process = some p → InOrder s.server p.vars p.pc p.reply ∧
      Consistent codec s.server p.vars p.pc p.reply ∧ OneRecord s.server p.vars p.pc p.reply := by
  refine Daemon.invariant (G := OneRow) (I := fun world worker pc reply => InOrder world worker pc reply ∧
    Consistent codec world worker pc reply ∧ OneRecord world worker pc reply) ?_ ?_ ?_ ?_ ?_ h
  · rintro world ⟨-, hrows⟩
    refine ⟨?_, ?_⟩
    · rw [hrows]
      exact .nil
    · rw [hrows]
      exact nofun
  · intro world moment worker pc _ hstart
    have hempty : Backed codec world ({ last_flush_time := moment.monotonic } : Worker U T) := ⟨nofun, nofun⟩
    have hready : Ready codec world (loop moment { last_flush_time := moment.monotonic }) := loop_ready hempty
    have hturns : Turns ({ last_flush_time := moment.monotonic } : Worker U T)
        (loop moment { last_flush_time := moment.monotonic }) := loop_turns
    change loop moment _ = _ at hstart
    rw [hstart] at hready hturns
    have hhand : SameBuffer ({ last_flush_time := moment.monotonic } : Worker U T) (worker, some pc) :=
      ⟨hturns.batch_writer, fun _ hpc => hturns.hand hpc⟩
    exact ⟨hhand.inOrder nofun rfl, hready pc rfl, hturns.oneRecord .nil nofun rfl⟩
  · rintro world worker pc _ world' reply hrow ⟨hinOrder, hconsistent, hone⟩ hexec
    obtain ⟨hrow', hone'⟩ := execute_oneRecord hone hrow hinOrder hconsistent hexec
    exact ⟨hrow', execute_inOrder hinOrder hexec, execute_consistent hconsistent hexec, hone'⟩
  · rintro world moment worker pc reply o worker' pc' - ⟨hinOrder, hconsistent, hone⟩ hreply hresume
    have hready : Ready codec world (resume codec settings moment worker pc o) := resume_ready hconsistent hreply
    have hinOrder' : ∀ pc', (resume codec settings moment worker pc o).2 = some pc' →
        InOrder world (resume codec settings moment worker pc o).1 pc' none := fun _ => resume_inOrder hinOrder hreply
    have hone' : ∀ pc', (resume codec settings moment worker pc o).2 = some pc' →
        OneRecord world (resume codec settings moment worker pc o).1 pc' none :=
      fun _ => resume_oneRecord hone hinOrder hreply
    change resume codec settings moment worker pc o = _ at hresume
    rw [hresume] at hready hinOrder' hone'
    exact ⟨hinOrder' pc' rfl, hready pc' rfl, hone' pc' rfl⟩
  · intro world e world' hrow hevent
    obtain ⟨hrow', hkeeps⟩ := occur_oneRow hevent hrow
    refine ⟨hrow', ?_⟩
    rintro worker pc reply ⟨hinOrder, hconsistent, hone⟩
    exact ⟨hinOrder.mono (Nat.le_of_eq (occur_group hevent).1.symm), hconsistent.mono (occur_le hevent),
      hkeeps worker pc reply hone⟩

/-- In every run, a stream entry contributes at most one row. -/
theorem at_most_one_row (h : (system codec settings admits).Reachable s) (id : ℕ) :
    (s.server.rows.map TelemetryRow.source).count id ≤ 1 :=
  List.nodup_iff_count_le_one.mp (reachable_oneRow h).1.nodup id

end Execution

/-- A commit that took effect is reported as a failure, the flush is tried again, and the worker restarts. -/
theorem at_most_one_row_ambiguous_commit :
    ∃ s : State String String, (system sample_codec one_by_one fun _ => true).Reachable s ∧ s.server.rows.length = 1 ∧
      (s.server.rows.map TelemetryRow.source).count 0 ≤ 1 := by
  obtain ⟨s, hreach, htest⟩ := TransitionSystem.exists_of_replay (fun _ _ => True)
    (fun _ _ => true) (fun _ _ _ => trivial) (s := idle) (idle_initial sample_codec one_by_one fun _ => true)
    [.event (.xadd sample_data), .start (sample_moment false), .exec (), .finish (sample_moment false) .replied, .exec (),
      .finish (sample_moment false) .replied, .exec (), .finish (sample_moment false) .raised, .exec (),
      .finish (sample_moment false) .replied, .finish (sample_moment false) .raised, .crash, .start (sample_moment false)]
    (fun s => s.server.rows.length = 1) (by decide)
  exact ⟨s, hreach, of_decide_eq_true htest, at_most_one_row hreach 0⟩

end gateway.stream_to_postgres
