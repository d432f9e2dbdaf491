import EdgeGateway.DataIngestion.Publication
import EdgeGateway.DataPersistence.StreamToPostgres.UniqueRows

open gateway.telemetry gateway.batch_writer gateway.data_ingestion

namespace gateway.stream_to_postgres

variable {U T : Type} {codec : Codec U T} {settings : Settings} {world : World U T} {worker : Worker U T}

/-- Every row is that of its entry, and an entry that is still there, and that the group has got past and
does not wait for any more, does not parse or has its row. -/
structure Settled (codec : Codec U T) (world : World U T) : Prop where
  genuine : ∀ row ∈ world.rows, ∃ record, Genuine codec world record ∧ record.row = row
  acknowledged : ∀ id, world.group.trimmed ≤ id → id < world.group.next → id ∉ world.group.pending →
    Malformed codec world id ∨ HasRow codec world id

/-- What the stream and the table gain keeps what is settled. -/
theorem Settled.mono {world' : World U T} (h : Settled codec world) (hle : world.Le world')
    (hrows : ∀ row ∈ world'.rows, row ∈ world.rows ∨ ∃ record, Genuine codec world' record ∧ record.row = row)
    (hids : ∀ id, world'.group.trimmed ≤ id → id < world'.group.next → id ∉ world'.group.pending →
      (world.group.trimmed ≤ id ∧ id < world.group.next ∧ id ∉ world.group.pending) ∨
        Malformed codec world' id ∨ HasRow codec world' id) :
    Settled codec world' where
  genuine row hrow := by
    obtain hold | hnew := hrows row hrow
    · obtain ⟨record, hgenuine, heq⟩ := h.genuine row hold
      exact ⟨record, hgenuine.mono hle, heq⟩
    · exact hnew
  acknowledged id htrimmed hnext hpending := by
    obtain ⟨htrimmed, hnext, hpending⟩ | hsettled := hids id htrimmed hnext hpending
    · obtain hmalformed | hrow := h.acknowledged id htrimmed hnext hpending
      · exact .inl (hmalformed.mono hle)
      · exact .inr (hrow.mono hle)
    · exact hsettled

/-- An acknowledgement of entries that are settled. -/
theorem Settled.xack {world' : World U T} {ids : List ℕ} (h : Settled codec world) (hle : world.Le world')
    (hrows : world'.rows = world.rows) (hgroup : world'.group = world.group.xack ids)
    (hids : ∀ id ∈ ids, Malformed codec world id ∨ HasRow codec world id) : Settled codec world' := by
  refine h.mono hle (fun row hrow => .inl (hrows ▸ hrow)) fun id htrimmed hnext hpending => ?_
  rw [hgroup] at htrimmed hnext hpending
  by_cases hid : id ∈ ids
  · obtain hmalformed | hrow := hids id hid
    · exact .inr (.inl (hmalformed.mono hle))
    · exact .inr (.inr (hrow.mono hle))
  · exact .inl ⟨htrimmed, hnext, fun hmem => hpending (world.group.mem_pending_xack.mpr ⟨hmem, hid⟩)⟩

/-- XREADGROUP passes by what was trimmed, and waits for all that it delivers. -/
theorem not_pending_xreadgroup {δ : Type*} {g : ConsumerGroup δ} {count id : ℕ} (htrimmed : g.trimmed ≤ id)
    (hnext : id < (g.xreadgroup count).next) (hpending : id ∉ (g.xreadgroup count).pending) :
    id < g.next ∧ id ∉ g.pending := by
  rw [ConsumerGroup.mem_pending_xreadgroup, not_or] at hpending
  refine ⟨?_, hpending.1⟩
  by_contra hlater
  have hfirst : g.first ≤ id := Nat.max_le.mpr ⟨Nat.le_of_not_lt hlater, htrimmed⟩
  have hids : (g.fresh count).map Prod.fst = List.range' g.first (g.fresh count).length := g.fresh_ids count
  have hmem : id ∈ (g.fresh count).map Prod.fst := by
    rw [hids, List.mem_range'_1]
    exact ⟨hfirst, hnext⟩
  obtain ⟨⟨id', data⟩, hentry, rfl⟩ := List.mem_map.mp hmem
  exact hpending.2 ⟨data, hentry⟩

theorem execute_settled [DecidableEq U] {admits : TelemetryRow U T → Bool} {pc : Pc U T} {world' : World U T}
    {reply : Reply} (h : Settled codec world) (hconsistent : Consistent codec world worker pc none)
    (hexec : execute settings admits world pc = some (world', reply)) : Settled codec world' := by
  have hle := execute_le hexec
  cases pc with
  | read =>
    simp only [execute] at hexec
    split at hexec
    · cases hexec
    · cases hexec
      refine h.mono hle (fun _ => .inl) fun id htrimmed hnext hpending => .inl ⟨htrimmed, ?_⟩
      exact not_pending_xreadgroup htrimmed hnext hpending
  | execute values stopping =>
    simp only [execute] at hexec
    split at hexec
    · cases hexec
      exact h
    · cases hexec
  | commit values stopping =>
    cases hexec
    refine h.mono hle (fun row hrow => ?_) fun id htrimmed hnext hpending => .inl ⟨htrimmed, hnext, hpending⟩
    obtain hold | hnew := List.mem_append.mp hrow
    · exact .inl hold
    · rw [hconsistent.call.1] at hnew
      obtain ⟨record, hrecord, rfl⟩ := List.mem_map.mp hnew
      exact .inr ⟨record, (hconsistent.backed.buffered record hrecord).mono hle, rfl⟩
  | ack_malformed entry_id rest =>
    cases hexec
    refine h.xack hle rfl rfl fun id hid => .inl ?_
    rw [List.mem_singleton.mp hid]
    exact hconsistent.call.1
  | ack ids stopping =>
    cases hexec
    obtain ⟨rfl, hempty⟩ := hconsistent.call
    refine h.xack hle rfl rfl fun id hid => .inr ?_
    obtain ⟨record, hrecord, -⟩ | hrow := hconsistent.backed.pending id hid
    · rw [hempty] at hrecord
      cases hrecord
    · exact hrow
  | sleep =>
    cases hexec
    exact h

theorem occur_settled {e : Event} {world' : World U T} (h : Settled codec world) (hevent : occur world e = some world') :
    Settled codec world' := by
  have hle := occur_le hevent
  cases e with
  | xadd data =>
    cases hevent
    exact h.mono hle (fun _ => .inl) fun id htrimmed hnext hpending => .inl ⟨htrimmed, hnext, hpending⟩
  | xtrim count =>
    cases hevent
    refine h.mono hle (fun _ => .inl) fun id htrimmed hnext hpending => .inl ⟨?_, hnext, hpending⟩
    have hgrows : world.group.trimmed ≤ (world.group.xtrim count).trimmed :=
      Nat.le_min.mpr ⟨Nat.le_add_right _ _, world.group.trimmed_le⟩
    exact Nat.le_trans hgrows htrimmed

/-- In every run, the rows and the acknowledgements are settled. -/
theorem reachable_settled [DecidableEq U] {admits : TelemetryRow U T → Bool} {s : State U T}
    {ok : State U T → Action U → Prop} (h : (system codec settings admits).ReachableWhere ok s) :
    Settled codec s.server := by
  refine (Daemon.invariant (G := Settled codec) (I := Consistent codec) ?_ ?_ ?_ ?_ ?_ h).1
  · rintro world ⟨hgroup, hrows⟩
    refine ⟨?_, ?_⟩
    · rw [hrows]
      exact List.forall_mem_nil _
    · intro id _ hnext
      rw [hgroup] at hnext
      exact absurd hnext (Nat.not_lt_zero id)
  · intro world moment worker pc _ hstart
    have hempty : Backed codec world ({ last_flush_time := moment.monotonic } : Worker U T) :=
      ⟨List.forall_mem_nil _, List.forall_mem_nil _⟩
    have hready : Ready codec world (loop moment { last_flush_time := moment.monotonic }) := loop_ready hempty
    change loop moment _ = _ at hstart
    rw [hstart] at hready
    exact hready pc rfl
  · intro world worker pc _ world' reply hsettled hconsistent hexec
    exact ⟨execute_settled hsettled hconsistent hexec, execute_consistent hconsistent hexec⟩
  · intro world moment worker pc reply o worker' pc' _ hconsistent hreply hresume
    have hready : Ready codec world (resume codec settings moment worker pc o) := resume_ready hconsistent hreply
    change resume codec settings moment worker pc o = _ at hresume
    rw [hresume] at hready
    exact hready pc' rfl
  · intro world e world' hsettled hevent
    exact ⟨occur_settled hsettled hevent, fun _ _ _ hconsistent => hconsistent.mono (occur_le hevent)⟩

end gateway.stream_to_postgres

namespace gateway.pipeline

open stream_to_postgres

/-- The messages that the ingestion service has published, and the persistence service with Redis and
PostgreSQL. -/
structure State where
  published : List Arrival
  persistence : stream_to_postgres.State Uuid PyDatetime

inductive Action where
  /-- A message comes in by one of the protocols. -/
  | arrive (arrival : Arrival)
  /-- Anything else happens to the persistence service, to Redis or to PostgreSQL. -/
  | persist (a : stream_to_postgres.Action Uuid)

section System

variable (lib : Libraries) (settings : Settings) (admits : TelemetryRow Uuid PyDatetime → Bool)

/-- Only the ingestion service adds to `raw_telemetry`. -/
def step (s : State) : Action → Option State
  | .arrive arrival =>
    match arrival.entry lib with
    | none => some s
    | some entry =>
      ((daemon python_codec settings admits).step s.persistence (.event (.xadd entry.data))).map fun persistence =>
        { published := s.published ++ [arrival], persistence }
  | .persist (.event (.xadd _)) => none
  | .persist a => ((daemon python_codec settings admits).step s.persistence a).map fun persistence => { s with persistence }

def system : TransitionSystem State Action where
  initial s := s.published = [] ∧ (stream_to_postgres.system python_codec settings admits).initial s.persistence
  step := step lib settings admits

end System

/-- JSON can tell the dict, and its floats are read back from their texts. -/
def Legible (w : JsonText.Writer) (d : PyDict) : Prop :=
  Representable d ∧ (PyValue.dict d.1).AllFloats w.ReadsBack

/-- What the message publishes, if anything, is legible. -/
def ArrivesLegible (lib : Libraries) (arrival : Arrival) : Prop :=
  ∀ entry, arrival.entry lib = some entry → Legible lib.writer entry.reading.payload ∧ Legible lib.writer entry.reading.metadata

/-- The runs in which every message is legible. -/
def AllLegible (lib : Libraries) (_ : State) : Action → Prop
  | .arrive arrival => ArrivesLegible lib arrival
  | .persist _ => True

/-- The reading that a row holds. -/
def stored_reading (row : TelemetryRow Uuid PyDatetime) : TelemetryReading Uuid PyDatetime where
  device_id := row.device_id
  device_type := row.device_type
  timestamp := row.timestamp
  payload := row.payload
  metadata := row.metadata

/-- The table holds messages that were accepted, as they were sent and none of them twice. A message whose
entry is acknowledged, and still in the stream, is in the table. -/
structure Delivers (lib : Libraries) (s : State) : Prop where
  accepted : ∀ row ∈ s.persistence.server.rows, ∃ arrival data reading, s.published[row.source]? = some arrival ∧
    arrival.Accepted lib data ∧ arrival.Builds lib data reading ∧ SameReading reading (stored_reading row)
  once : (s.persistence.server.rows.map TelemetryRow.source).Nodup
  acknowledged : ∀ id, s.persistence.server.group.trimmed ≤ id → id < s.persistence.server.group.next →
    id ∉ s.persistence.server.group.pending → ∃ row ∈ s.persistence.server.rows, row.source = id

variable {lib : Libraries} {settings : Settings} {admits : TelemetryRow Uuid PyDatetime → Bool}

/-- No call and no event but an XADD changes the log. -/
theorem log_step {s s' : stream_to_postgres.State Uuid PyDatetime} {a : stream_to_postgres.Action Uuid}
    (ha : ∀ data, a ≠ .event (.xadd data)) (h : (daemon python_codec settings admits).step s a = some s') :
    s'.server.group.log = s.server.group.log := by
  cases a with
  | start moment =>
    obtain ⟨-, rfl⟩ := Daemon.step_start h
    rfl
  | exec choice =>
    obtain ⟨vars, pc, server, reply, -, hexec, rfl⟩ := Daemon.step_exec h
    obtain ⟨-, hgroup, -⟩ | ⟨-, -, hgroup | ⟨ids, hgroup⟩⟩ := execute_group hexec
    · rw [hgroup]
      rfl
    · rw [hgroup]
    · rw [hgroup]
      rfl
  | finish moment how =>
    obtain ⟨p, o, -, -, rfl⟩ := Daemon.step_finish h
    rfl
  | crash =>
    obtain ⟨-, rfl⟩ := Daemon.step_crash h
    rfl
  | event e =>
    obtain ⟨server, hevent, rfl⟩ := Daemon.step_event h
    cases e with
    | xadd data => exact absurd rfl (ha data)
    | xtrim count =>
      cases hevent
      rfl

theorem reachable_step {s s' : stream_to_postgres.State Uuid PyDatetime} {a : stream_to_postgres.Action Uuid}
    (h : (stream_to_postgres.system python_codec settings admits).Reachable s)
    (hstep : (daemon python_codec settings admits).step s a = some s') :
    (stream_to_postgres.system python_codec settings admits).Reachable s' := by
  have hnext : (stream_to_postgres.system python_codec settings admits).step s a = some s' := hstep
  exact h.step trivial hnext

/-- The persistence service runs, and the stream has the entries of the published messages. -/
structure Tracks (lib : Libraries) (settings : Settings) (admits : TelemetryRow Uuid PyDatetime → Bool) (s : State) :
    Prop where
  reachable : (stream_to_postgres.system python_codec settings admits).Reachable s.persistence
  log : s.persistence.server.group.log.map some = s.published.map fun arrival => (arrival.entry lib).map Entry.data
  legible : ∀ arrival ∈ s.published, ArrivesLegible lib arrival

theorem Tracks.arrive {s s' : State} {arrival : Arrival} (h : Tracks lib settings admits s)
    (hlegible : ArrivesLegible lib arrival) (hstep : step lib settings admits s (.arrive arrival) = some s') :
    Tracks lib settings admits s' := by
  simp only [step] at hstep
  split at hstep
  · cases hstep
    exact h
  · rename_i entry hentry
    obtain ⟨persistence, hpersist, rfl⟩ := Option.map_eq_some_iff.mp hstep
    refine ⟨reachable_step h.reachable hpersist, ?_, fun other hother => ?_⟩
    · obtain ⟨server, hevent, rfl⟩ := Daemon.step_event hpersist
      cases hevent
      change (s.persistence.server.group.log ++ [entry.data]).map some = _
      rw [List.map_append, List.map_append, h.log, List.map_singleton, List.map_singleton, hentry]
      rfl
    · obtain hold | hnew := List.mem_append.mp hother
      · exact h.legible other hold
      · rw [List.mem_singleton.mp hnew]
        exact hlegible

theorem Tracks.persist {s s' : State} {a : stream_to_postgres.Action Uuid} (h : Tracks lib settings admits s)
    (hstep : step lib settings admits s (.persist a) = some s') : Tracks lib settings admits s' := by
  have hother : ∀ data, a ≠ .event (.xadd data) := by
    rintro data rfl
    cases hstep
  have hstep' : ((daemon python_codec settings admits).step s.persistence a).map
      (fun persistence => ({ s with persistence } : State)) = some s' := by
    rw [← hstep]
    cases a with
    | event e =>
      cases e with
      | xadd data => exact absurd rfl (hother data)
      | xtrim count => rfl
    | _ => rfl
  obtain ⟨persistence, hpersist, rfl⟩ := Option.map_eq_some_iff.mp hstep'
  refine ⟨reachable_step h.reachable hpersist, ?_, h.legible⟩
  rw [log_step hother hpersist]
  exact h.log

theorem tracks_reachable {s : State} (h : (system lib settings admits).ReachableWhere (AllLegible lib) s) :
    Tracks lib settings admits s := by
  refine TransitionSystem.ReachableWhere.invariant (P := Tracks lib settings admits) ?_ ?_ h
  · rintro s ⟨hpublished, hinitial⟩
    refine ⟨.initial hinitial, ?_, ?_⟩
    · rw [hpublished, hinitial.1.1]
      rfl
    · rw [hpublished]
      exact List.forall_mem_nil _
  · intro s a s' htracks hok hstep
    cases a with
    | arrive arrival => exact htracks.arrive hok hstep
    | persist a => exact htracks.persist hstep

/-- An entry of the stream is read back as the reading of its message. -/
theorem Tracks.read_back {s : State} (h : Tracks lib settings admits s) {id : ℕ} {data : StreamDict}
    (hlog : s.persistence.server.group.log[id]? = some data) : ∃ arrival fields reading rebuilt,
      s.published[id]? = some arrival ∧ arrival.Accepted lib fields ∧ arrival.Builds lib fields reading ∧
        from_stream_dict python_codec data = .ok rebuilt ∧ SameReading reading rebuilt := by
  have hat : (s.persistence.server.group.log.map some)[id]? = some (some data) := by
    rw [List.getElem?_map, hlog]
    rfl
  rw [h.log, List.getElem?_map] at hat
  obtain ⟨arrival, harrival, hdata⟩ := Option.map_eq_some_iff.mp hat
  obtain ⟨entry, hentry, rfl⟩ := Option.map_eq_some_iff.mp hdata
  obtain ⟨fields, haccepted, hbuilds⟩ := Arrival.accepted_of_entry hentry
  obtain ⟨⟨hpayload, hpayload_floats⟩, hmetadata, hmetadata_floats⟩ :=
    h.legible arrival (List.mem_of_getElem? harrival) entry hentry
  have hround := (round_trips_iff hpayload_floats hmetadata_floats).mpr (.inr (.inr ⟨hpayload, hmetadata⟩))
  obtain ⟨rebuilt, hrebuilt, hsame⟩ := hround entry.data entry.encodes
  exact ⟨arrival, fields, entry.reading, rebuilt, harrival, haccepted, hbuilds, hrebuilt, hsame⟩

section Level

open Arrival

def level_payload : PyDict := (sample_reading (.finite (43 / 2))).payload

/-- A message of a sensor that tells its level. -/
def level_data : PyDict :=
  ((PyDict.empty.setdefault "device_id" (.str "00000000-0000-0000-0000-000000000007")).setdefault
    "device_type" (.str "sensor")).setdefault "payload" level_payload.value

def level_libraries : Libraries := { sample_libraries with request_body := fun _ => .ok level_data.value }

def level_arrival : Arrival where
  message := .http { content_type := some "application/json", body := [] }
  utcnow := sample_time
  published := sample_time.wall
  stream_add := .added "1735732800000-0"

theorem level_reading : level_arrival.message.reading level_libraries level_arrival.utcnow =
    .ok (sample_reading (.finite (43 / 2))) := by
  refine (Message.reading_ok_iff _).mpr ⟨level_data, rfl, rfl, ?_⟩
  have hid : level_data.get? "device_id" = some (.str "00000000-0000-0000-0000-000000000007") := by simp [level_data]
  have htype : level_data.get? "device_type" = some (.str "sensor") := by simp [level_data]
  have htime : level_data.get? "timestamp" = none := by simp [level_data]
  have hpayload : level_data.get? "payload" = some level_payload.value := by simp [level_data]
  have hmetadata : level_data.get? "metadata" = none := by simp [level_data]
  have hparse : Uuid.parse "00000000-0000-0000-0000-000000000007" = some 7 := Uuid.parse_str 7
  refine ⟨?_, ?_, ?_, ?_, ?_⟩
  · simp only [level_arrival, Message.field, hid, required, level_libraries, sample_libraries]
    simp [Decoded.str, hparse, sample_reading]
  · simp [level_arrival, Message.field, htype, required, level_libraries, sample_libraries, Decoded.str, sample_reading]
  · simp [level_arrival, Message.field, htime, defaulted]
    rfl
  · simp only [level_arrival, Message.field, hpayload, required]
    rfl
  · simp [level_arrival, Message.field, hmetadata, defaulted]
    rfl

theorem level_legible : ArrivesLegible level_libraries level_arrival := by
  intro entry hentry
  have hreading := (Arrival.entry_eq_some_iff.mp hentry).1
  rw [level_reading] at hreading
  rw [← Except.ok.inj hreading]
  have hreads : sample_writer.ReadsBack (43 / 2) := by
    constructor
    · simp [sample_writer]
    · decide +kernel
  refine ⟨⟨⟨[("level", .float (.finite (43 / 2)))], rfl, rfl⟩, ⟨trivial, hreads⟩, trivial⟩, ⟨[], rfl, rfl⟩, trivial⟩

def no_messages : State where
  published := []
  persistence := idle

def moment : Moment Uuid where
  monotonic := 0
  shutdown := false
  uuid4 entry_id := Fin.ofNat _ entry_id

/-- The worker reads the entry, writes its row and commits it. -/
def store_level : List Action :=
  [.persist (.start moment), .persist (.exec ()), .persist (.finish moment .replied), .persist (.exec ()),
    .persist (.finish moment .replied), .persist (.exec ()), .persist (.finish moment .replied), .persist (.exec ())]

def persists (_ : State) : Action → Bool
  | .arrive _ => false
  | .persist _ => true

end Level

end gateway.pipeline
