import EdgeGateway.Library.ConsumerGroup
import EdgeGateway.MlInference.AnomalyDetector

open gateway.telemetry gateway.alert gateway.feature_extractor gateway.inference_engine

namespace gateway.anomaly_detector

section Batch

variable {U T F A : Type} {libraries : Libraries U T F A} {settings : Settings} {moment : Moment U T F A}

/-- An alert with this score is valid and serializes. -/
structure Alertable (libraries : Libraries U T F A) (engine : InferenceEngine A) (reading : TelemetryReading U T)
    (score : PyFloat) : Prop where
  model_version : ∃ version, engine.model_version = .str version
  score_ge : PyFloat.le (.finite 0) score = true
  score_le : PyFloat.le score (.finite 1) = true
  details : ∃ text, libraries.printer.model_dump_json "details" [("reading", .dict reading.payload)] = .ok text

theorem alert_data_ok_iff {source : ℕ} {reading : TelemetryReading U T} {score : PyFloat} :
    (∃ data, alert_data libraries moment source reading score = .ok data) ↔
      Alertable libraries moment.engine reading score := by
  constructor
  · rintro ⟨data, h⟩
    obtain ⟨alert, hnew, hdata⟩ := Except.bind_ok_iff.mp h
    obtain ⟨hversion, hge, hle, hdetails⟩ := Alert.new_ok hnew
    obtain ⟨text, htext⟩ := Alert.to_stream_dict_ok_iff.mp ⟨data, hdata⟩
    rw [hdetails] at htext
    exact ⟨hversion, hge, hle, text, htext⟩
  · rintro ⟨⟨version, hversion⟩, hge, hle, hdetails⟩
    have hvalid : ∀ severity, ∃ alert : Alert U T, alert.details = [("reading", .dict reading.payload)] ∧
        Alert.new (moment.uuid4 source) reading.device_id severity moment.utcnow score (.str version)
          [("reading", .dict reading.payload)] = .ok alert :=
      fun _ => Alert.new_of_valid hge hle
    obtain ⟨alert, hsame, hnew⟩ := hvalid (if CRITICAL_SCORE.lt score then .critical else .warning)
    rw [← hsame] at hdetails
    obtain ⟨data, hdata⟩ := Alert.to_stream_dict_ok_iff.mpr hdetails
    refine ⟨data, Except.bind_ok_iff.mpr ⟨alert, ?_, hdata⟩⟩
    rw [hversion]
    exact hnew

/-- The engine scores the batch, and an alert can be made for every score above the
threshold. -/
def ScoresBatch (libraries : Libraries U T F A) (settings : Settings) (moment : Moment U T F A)
    (parsed : List (Parsed U T F)) : Prop :=
  parsed = [] ∨ ∃ scores, score_rows libraries moment (parsed.map Parsed.row) = .ok scores ∧
    ∀ item score, (item, score) ∈ parsed.zip scores → score.le settings.anomaly_threshold = false →
      Alertable libraries moment.engine item.reading score

/-- Every score above the threshold has its alert queued. -/
def Covered (settings : Settings) (scores : List (ℕ × PyFloat)) (commands : List Command) : Prop :=
  ∀ id score, (id, score) ∈ scores → score.le settings.anomaly_threshold = false →
    ∃ data, .xadd id data ∈ commands

theorem queue_alerts_covered {scored : List (Parsed U T F × PyFloat)} {commands : List Command}
    (h : queue_alerts libraries settings moment scored = .ok commands) :
    Covered settings (scored.map fun (parsed, score) => (parsed.source, score)) commands := by
  induction scored generalizing commands with
  | nil =>
    intro id score hmem
    cases hmem
  | cons head rest ih =>
    obtain ⟨item, score⟩ := head
    simp only [queue_alerts] at h
    intro id score' hmem habove
    split at h
    · rename_i hbelow
      obtain heq | hmem := List.mem_cons.mp hmem
      · cases heq
        rw [hbelow] at habove
        cases habove
      · exact ih h id score' hmem habove
    · obtain ⟨data, hdata, h⟩ := Except.bind_ok_iff.mp h
      obtain ⟨commands', hrest, h⟩ := Except.bind_ok_iff.mp h
      cases h
      obtain heq | hmem := List.mem_cons.mp hmem
      · cases heq
        exact ⟨data, List.mem_cons_self⟩
      · obtain ⟨data', hqueued⟩ := ih hrest id score' hmem habove
        exact ⟨data', List.mem_cons_of_mem _ hqueued⟩

theorem queue_alerts_ok_iff {scored : List (Parsed U T F × PyFloat)} :
    (∃ commands, queue_alerts libraries settings moment scored = .ok commands) ↔
      ∀ item score, (item, score) ∈ scored → score.le settings.anomaly_threshold = false →
        Alertable libraries moment.engine item.reading score := by
  induction scored with
  | nil =>
    refine ⟨fun _ item score hmem => ?_, fun _ => ⟨[], rfl⟩⟩
    cases hmem
  | cons head rest ih =>
    obtain ⟨item, score⟩ := head
    simp only [queue_alerts, List.mem_cons]
    by_cases hbelow : score.le settings.anomaly_threshold = true
    · rw [if_pos hbelow, ih]
      constructor
      · rintro hrest item' score' (heq | hmem) habove
        · cases heq
          rw [hbelow] at habove
          cases habove
        · exact hrest item' score' hmem habove
      · exact fun h item' score' hmem => h item' score' (.inr hmem)
    · rw [if_neg hbelow]
      have habove : score.le settings.anomaly_threshold = false := by simpa using hbelow
      constructor
      · rintro ⟨commands, h⟩
        obtain ⟨data, hdata, h⟩ := Except.bind_ok_iff.mp h
        obtain ⟨commands', hrest, _⟩ := Except.bind_ok_iff.mp h
        rintro item' score' (heq | hmem) habove'
        · cases heq
          exact alert_data_ok_iff.mp ⟨data, hdata⟩
        · exact ih.mp ⟨commands', hrest⟩ item' score' hmem habove'
      · intro h
        have hdata : ∃ data, alert_data libraries moment item.source item.reading score = .ok data :=
          alert_data_ok_iff.mpr (h item score (.inl rfl) habove)
        obtain ⟨data, hdata⟩ := hdata
        obtain ⟨commands, hrest⟩ := ih.mpr fun item' score' hmem => h item' score' (.inr hmem)
        exact ⟨_, Except.bind_ok_iff.mpr ⟨data, hdata, Except.bind_ok_iff.mpr ⟨commands, hrest, rfl⟩⟩⟩

/-- A batch leads to a pipeline exactly if it can be scored. -/
theorem process_batch_ok_iff {entries : List StreamEntry} {parsed : List (Parsed U T F)} :
    (∃ result, process_batch libraries settings moment entries parsed = .ok result) ↔
      ScoresBatch libraries settings moment parsed := by
  unfold process_batch ScoresBatch
  by_cases hempty : parsed = []
  · subst hempty
    exact ⟨fun _ => .inl rfl, fun _ => ⟨_, rfl⟩⟩
  · rw [if_neg hempty]
    constructor
    · rintro ⟨result, h⟩
      obtain ⟨scores, hscores, h⟩ := Except.bind_ok_iff.mp h
      obtain ⟨commands, hcommands, _⟩ := Except.bind_ok_iff.mp h
      exact .inr ⟨scores, hscores, queue_alerts_ok_iff.mp ⟨commands, hcommands⟩⟩
    · rintro (hnil | ⟨scores, hscores, halertable⟩)
      · exact absurd hnil hempty
      · obtain ⟨commands, hcommands⟩ := queue_alerts_ok_iff.mpr halertable
        exact ⟨_, Except.bind_ok_iff.mpr ⟨scores, hscores, Except.bind_ok_iff.mpr ⟨commands, hcommands, rfl⟩⟩⟩

/-- The pipeline of a batch has its alerts and the XACK of all its entries. -/
theorem process_batch_ok {entries : List StreamEntry} {parsed : List (Parsed U T F)}
    {scores : List (ℕ × PyFloat)} {commands : List Command}
    (h : process_batch libraries settings moment entries parsed = .ok (scores, commands)) :
    .xack (entries.map Prod.fst) ∈ commands ∧ Covered settings scores commands := by
  obtain ⟨values, _, h⟩ := Except.bind_ok_iff.mp h
  obtain ⟨alerts, halerts, h⟩ := Except.bind_ok_iff.mp h
  cases h
  refine ⟨by simp, fun id score hmem habove => ?_⟩
  obtain ⟨data, hqueued⟩ := queue_alerts_covered halerts id score hmem habove
  exact ⟨data, List.mem_append_left _ hqueued⟩

end Batch

section Pipeline

variable {scores : List (ℕ × PyFloat)} {world world' world'' : World} {commands : List (Command × Bool)}

/-- What the commands of a pipeline leave alone: the stream stays, no entry becomes
pending and no alert goes away. -/
structure Grows (world world' : World) : Prop where
  log : world'.group.log = world.group.log
  next : world'.group.next = world.group.next
  pending : ∀ id ∈ world'.group.pending, id ∈ world.group.pending
  alerts : ∀ alert ∈ world.alerts, alert ∈ world'.alerts

theorem Grows.refl : Grows world world := ⟨rfl, rfl, fun _ h => h, fun _ h => h⟩

theorem Grows.trans (h : Grows world world') (h' : Grows world' world'') : Grows world world'' where
  log := h'.log.trans h.log
  next := h'.next.trans h.next
  pending id hid := h.pending id (h'.pending id hid)
  alerts alert halert := h'.alerts alert (h.alerts alert halert)

theorem run_command_false (command : Command) : run_command scores world (command, false) = world := by
  cases command <;> rfl

theorem run_command_grows (command : Command × Bool) : Grows world (run_command scores world command) := by
  obtain ⟨command, ok⟩ := command
  cases ok with
  | false =>
    rw [run_command_false]
    exact .refl
  | true =>
    cases command with
    | xadd source data => exact ⟨rfl, rfl, fun _ h => h, fun _ h => List.mem_append_left _ h⟩
    | xack ids => exact ⟨rfl, rfl, fun id hid => (world.group.mem_pending_xack.mp hid).1, fun _ h => h⟩

theorem foldl_grows : Grows world (commands.foldl (run_command scores) world) := by
  induction commands generalizing world with
  | nil => exact .refl
  | cons command rest ih => exact (run_command_grows command).trans ih

theorem mem_alerts_foldl {source : ℕ} {data : StreamDict} (h : (.xadd source data, true) ∈ commands) :
    (source, data) ∈ (commands.foldl (run_command scores) world).alerts := by
  obtain ⟨before, after, rfl⟩ := List.append_of_mem h
  rw [List.foldl_append, List.foldl_cons]
  exact foldl_grows.alerts _ (List.mem_append_right _ (List.mem_singleton_self _))

theorem not_mem_pending_foldl {ids : List ℕ} (h : (.xack ids, true) ∈ commands) {id : ℕ} (hid : id ∈ ids) :
    id ∉ (commands.foldl (run_command scores) world).group.pending := by
  obtain ⟨before, after, rfl⟩ := List.append_of_mem h
  rw [List.foldl_append, List.foldl_cons]
  intro hpending
  have hacked := foldl_grows.pending id hpending
  exact ((ConsumerGroup.mem_pending_xack _).mp hacked).2 hid

/-- Scores are recorded for the entries that are acknowledged. -/
theorem mem_scored_foldl {entry : ℕ × PyFloat} (h : entry ∈ (commands.foldl (run_command scores) world).scored) :
    entry ∈ world.scored ∨ entry ∈ scores ∧ ∃ ids, (.xack ids, true) ∈ commands := by
  induction commands generalizing world with
  | nil => exact .inl h
  | cons command rest ih =>
    obtain hhead | ⟨hmem, ids, hrest⟩ := ih h
    · obtain ⟨command, ok⟩ := command
      cases ok with
      | false =>
        rw [run_command_false] at hhead
        exact .inl hhead
      | true =>
        cases command with
        | xadd source data => exact .inl hhead
        | xack ids =>
          refine (List.mem_append.mp hhead).imp_right fun hmem => ⟨hmem, ids, List.mem_cons_self⟩
    · exact .inr ⟨hmem, ids, List.mem_cons_of_mem _ hrest⟩

/-- Redis executed the whole pipeline if `execute` returns. -/
theorem mem_zip_of_results {commands : List Command} {accepted : List Bool}
    (h : (commands.length ≤ accepted.length && (commands.zip accepted).all Prod.snd) = true) {command : Command}
    (hmem : command ∈ commands) : (command, true) ∈ commands.zip accepted := by
  simp only [Bool.and_eq_true, decide_eq_true_eq, List.all_eq_true] at h
  obtain ⟨hlength, hall⟩ := h
  rw [← List.map_fst_zip hlength] at hmem
  obtain ⟨⟨command', ok⟩, hzip, rfl⟩ := List.mem_map.mp hmem
  have hok : ok = true := hall _ hzip
  exact hok ▸ hzip

end Pipeline

section Run

variable {U T F A : Type} {libraries : Libraries U T F A} {settings : Settings} {fresh : FeatureExtractor F}
  {s s' : State F} {a : Action U T F A}

/-- The batch in the detector's memory. -/
def hand : Pc → Option Reply → List StreamEntry
  | .read, some (.entries entries) => entries
  | .execute batch _ _, _ => batch
  | _, _ => []

/-- The entry is in the batch that is being processed. -/
def InBatch (p : Process F) (id : ℕ) : Prop := ∃ data, (id, data) ∈ hand p.pc p.reply

/-- The entry was delivered and is well-formed, but it is not acknowledged. -/
def Unsettled (codec : Codec U T) (world : World) (id : ℕ) : Prop :=
  id ∈ world.group.pending ∧
    ∃ data reading, world.group.log[id]? = some data ∧ from_stream_dict codec data = .ok reading

/-- What a reply hands out. -/
def handed_out : Reply → List StreamEntry
  | .entries batch => batch
  | _ => []

/-- The detector reads `raw_telemetry` for the group `ml_inference`. -/
def reader (libraries : Libraries U T F A) (settings : Settings) (fresh : FeatureExtractor F) :
    StreamReader (daemon libraries settings fresh) StreamDict where
  group := World.group
  entries := handed_out
  exec_group world pc accepted world' reply hexec := by
    change execute settings world accepted pc = _ at hexec
    cases pc with
    | read =>
      simp only [execute] at hexec
      split at hexec <;> cases hexec
      exact .inl ⟨_, rfl, rfl⟩
    | execute batch scores commands =>
      cases hexec
      have hgrows : Grows world ((commands.zip accepted).foldl (run_command scores) world) := foldl_grows
      exact .inr ⟨rfl, hgrows.next, hgrows.pending⟩
    | sleep =>
      cases hexec
      exact .inr ⟨rfl, rfl, fun _ h => h⟩
  event_group _ e _ hevent := by
    cases e <;> cases hevent <;> exact ⟨rfl, rfl⟩

/-- Every delivered, well-formed and unacknowledged entry is in the batch being
processed or can be read again, and every acknowledged entry with a score above the
threshold has an alert. -/
structure NothingEscapes (libraries : Libraries U T F A) (settings : Settings) (fresh : FeatureExtractor F)
    (s : State F) : Prop where
  unsettled : ∀ id, Unsettled libraries.codec s.server id →
    (∃ p, s.process = some p ∧ InBatch p id) ∨
      (reader libraries settings fresh).Obtainable (fun world => world = ⟨.empty, [], []⟩) s id
  alerted : ∀ id score, (id, score) ∈ s.server.scored → score.le settings.anomaly_threshold = false →
    ∃ data, (id, data) ∈ s.server.alerts

/-- The action takes the batch out of the detector's memory: a crash, an exception, a
batch that cannot be scored, or a pipeline that returns with an error. -/
def Drops (libraries : Libraries U T F A) (settings : Settings) (p : Process F) : Action U T F A → Prop
  | .crash => True
  | .finish moment .replied =>
    match p.pc, p.reply with
    | .read, some (.entries entries) =>
      ¬ ScoresBatch libraries settings moment (parse libraries (moment.meanwhile p.vars) entries).1
    | .execute _ _ _, reply => reply ≠ some (.results true)
    | _, _ => False
  | .finish _ _ => True
  | _ => False

/-- Redis takes the XACK of a pipeline and not all the rest of it. -/
def AcksUnalerted (p : Process F) : Action U T F A → Prop
  | .exec accepted =>
    match p.pc with
    | .execute _ _ commands =>
      (∃ ids, (.xack ids, true) ∈ commands.zip accepted) ∧ ∃ command ∈ commands, (command, true) ∉ commands.zip accepted
    | _ => False
  | _ => False

/-- No batch with a well-formed entry is dropped before it is acknowledged, and none
is acknowledged without its alerts. -/
structure KeepsScoring (libraries : Libraries U T F A) (settings : Settings) (s : State F) (a : Action U T F A) :
    Prop where
  keeps : ∀ p, s.process = some p → Drops libraries settings p a →
    ∀ id, Unsettled libraries.codec s.server id → ¬ InBatch p id
  alerts : ∀ p, s.process = some p → ¬ AcksUnalerted p a

/-- The pipeline under way acknowledges its batch and has the alerts of its scores, and
if it was executed without errors, then the batch is acknowledged. -/
def Queued (settings : Settings) (world : World) (_ : FeatureExtractor F) : Pc → Option Reply → Prop
  | .execute batch scores commands, reply =>
    .xack (batch.map Prod.fst) ∈ commands ∧ Covered settings scores commands ∧
      (reply = some (.results true) → ∀ entry ∈ batch, entry.1 ∉ world.group.pending)
  | _, _ => True

theorem execute_queued {world world' : World} {extractor : FeatureExtractor F} {pc : Pc} {accepted : List Bool}
    {reply : Reply} (h : Queued settings world extractor pc none)
    (hexec : execute settings world accepted pc = some (world', reply)) :
    Queued settings world' extractor pc (some reply) := by
  cases pc with
  | execute batch scores commands =>
    cases hexec
    obtain ⟨hxack, hcovered, _⟩ := h
    refine ⟨hxack, hcovered, fun hreply entry hentry => ?_⟩
    have hresults : (commands.length ≤ accepted.length && (commands.zip accepted).all Prod.snd) = true :=
      Reply.results.inj (Option.some.inj hreply)
    exact not_mem_pending_foldl (mem_zip_of_results hresults hxack) (List.mem_map_of_mem hentry)
  | _ => trivial

theorem resume_queued {world : World} {moment : Moment U T F A} {extractor extractor' : FeatureExtractor F} {pc pc' : Pc}
    {o : Outcome Reply} (h : resume libraries settings moment extractor pc o = (extractor', some pc')) :
    Queued settings world extractor' pc' none := by
  cases pc' with
  | execute batch scores commands =>
    unfold resume loop at h
    split at h
    · dsimp only at h
      split at h
      · rename_i hprocess
        cases h
        obtain ⟨hxack, hcovered⟩ := process_batch_ok hprocess
        exact ⟨hxack, hcovered, by simp⟩
      · cases h
    all_goals (try split at h) <;> cases h
  | _ => trivial

theorem reachable_queued {ok : State F → Action U T F A → Prop}
    (h : (system libraries settings fresh).ReachableWhere ok s) :
    ∀ p, s.process = some p → Queued settings s.server p.vars p.pc p.reply := by
  refine (Daemon.invariant (G := fun _ => True) (I := Queued settings) (fun _ _ => trivial) ?_ ?_ ?_ ?_ h).2
  · intro world moment extractor pc _ hstart
    change loop moment _ = _ at hstart
    unfold loop at hstart
    split at hstart <;> cases hstart
    trivial
  · exact fun world extractor pc accepted world' reply _ hI hexec => ⟨trivial, execute_queued hI hexec⟩
  · exact fun world moment extractor pc reply o extractor' pc' _ _ _ hresume => resume_queued hresume
  · intro world e world' _ hevent
    have hgroup := ((reader libraries settings fresh).event_group world e world' hevent).2
    refine ⟨trivial, fun extractor pc reply hI => ?_⟩
    cases pc with
    | execute batch scores commands =>
      obtain ⟨hxack, hcovered, hacked⟩ := hI
      refine ⟨hxack, hcovered, fun hreply entry hentry => ?_⟩
      change entry.1 ∉ ((reader libraries settings fresh).group world').pending
      rw [hgroup]
      exact hacked hreply entry hentry
    | _ => trivial

theorem Unsettled.of_group {codec : Codec U T} {world world' : World} {id : ℕ} (h : Unsettled codec world' id)
    (hlog : world'.group.log[id]? = world.group.log[id]?) (hpending : id ∈ world.group.pending) :
    Unsettled codec world id := by
  obtain ⟨_, data, reading, hdata, hreading⟩ := h
  exact ⟨hpending, data, reading, hlog ▸ hdata, hreading⟩

/-- What a call that Redis executes leaves unsettled is still in the batch, or handed
out by it. -/
theorem execute_inBatch {world world' : World} {extractor : FeatureExtractor F} {pc : Pc} {accepted : List Bool}
    {reply : Reply} {codec : Codec U T} (hexec : execute settings world accepted pc = some (world', reply)) {id : ℕ}
    (hheld : Unsettled codec world id → InBatch { vars := extractor, pc } id) (h : Unsettled codec world' id) :
    InBatch { vars := extractor, pc, reply := some reply } id := by
  cases pc with
  | read =>
    simp only [execute] at hexec
    split at hexec <;> cases hexec
    obtain hold | ⟨data, hmem⟩ := (ConsumerGroup.mem_pending_xreadgroup _).mp h.1
    · obtain ⟨_, hmem⟩ := hheld (h.of_group rfl hold)
      cases hmem
    · exact ⟨data, hmem⟩
  | execute batch scores commands =>
    cases hexec
    have hgrows : Grows world ((commands.zip accepted).foldl (run_command scores) world) := foldl_grows
    exact hheld (h.of_group (by rw [hgrows.log]) (hgrows.pending id h.1))
  | sleep =>
    cases hexec
    obtain ⟨_, hmem⟩ := hheld h
    cases hmem

/-- An answered call keeps the batch in memory unless the batch is dropped. -/
theorem resume_inBatch {p : Process F} {moment : Moment U T F A} {world : World} {reply : Reply} {codec : Codec U T}
    (hqueued : Queued settings world p.vars p.pc p.reply) (hreply : p.reply = some reply)
    (hkeeps : ¬ Drops libraries settings p (.finish moment .replied)) {id : ℕ} (hmem : InBatch p id)
    (h : Unsettled codec world id) :
    ∃ pc, (resume libraries settings moment (moment.meanwhile p.vars) p.pc (.reply reply)).2 = some pc ∧
      InBatch { vars := (resume libraries settings moment (moment.meanwhile p.vars) p.pc (.reply reply)).1, pc } id := by
  obtain ⟨extractor, pc, _⟩ := p
  obtain rfl : _ = some reply := hreply
  obtain ⟨data, hmem⟩ := hmem
  cases pc with
  | read =>
    cases reply with
    | entries entries =>
      cases entries with
      | nil => cases hmem
      | cons entry rest =>
        have hscored : ∃ result, process_batch libraries settings moment (entry :: rest)
            (parse libraries (moment.meanwhile extractor) (entry :: rest)).1 = .ok result :=
          process_batch_ok_iff.mpr (Classical.not_not.mp hkeeps)
        obtain ⟨⟨scores, commands⟩, hprocess⟩ := hscored
        refine ⟨.execute (entry :: rest) scores commands, ?_, data, hmem⟩
        simp only [resume, hprocess]
    | _ => cases hmem
  | execute batch scores commands =>
    obtain ⟨_, _, hacked⟩ := hqueued
    exact absurd h.1 (hacked (Classical.not_not.mp hkeeps) _ hmem)
  | sleep => cases hmem

/-- A step that drops no batch keeps every unsettled entry in the batch. -/
theorem step_unsettled (hqueued : ∀ p, s.process = some p → Queued settings s.server p.vars p.pc p.reply)
    (hheld : ∀ id, Unsettled libraries.codec s.server id → ∃ p, s.process = some p ∧ InBatch p id)
    (hok : KeepsScoring libraries settings s a) (hstep : (daemon libraries settings fresh).step s a = some s') {id : ℕ}
    (h : Unsettled libraries.codec s'.server id) : ∃ p, s'.process = some p ∧ InBatch p id := by
  cases a with
  | start moment =>
    obtain ⟨hnone, rfl⟩ := Daemon.step_start hstep
    obtain ⟨p, hp, _⟩ := hheld id h
    rw [hnone] at hp
    cases hp
  | exec accepted =>
    obtain ⟨extractor, pc, world, reply, hprocess, hexec, rfl⟩ := Daemon.step_exec hstep
    refine ⟨_, rfl, execute_inBatch hexec (fun hunsettled => ?_) h⟩
    obtain ⟨p, hp, hmem⟩ := hheld id hunsettled
    rw [hprocess] at hp
    cases hp
    exact hmem
  | finish moment how =>
    obtain ⟨p, o, hprocess, houtcome, rfl⟩ := Daemon.step_finish hstep
    obtain ⟨p', hp', hmem⟩ := hheld id h
    rw [hprocess] at hp'
    cases hp'
    have hkeeps : ¬ Drops libraries settings p (.finish moment how) := fun hdrops => hok.keeps p hprocess hdrops id h hmem
    cases how with
    | replied =>
      obtain ⟨reply, hreply, rfl⟩ := Option.map_eq_some_iff.mp houtcome
      obtain ⟨pc, hpc, hmem'⟩ := resume_inBatch (hqueued p hprocess) hreply hkeeps hmem h
      exact ⟨_, Option.map_eq_some_iff.mpr ⟨pc, hpc, rfl⟩, hmem'⟩
    | _ => exact absurd trivial hkeeps
  | crash =>
    obtain ⟨⟨p, hprocess⟩, rfl⟩ := Daemon.step_crash hstep
    obtain ⟨p', hp', hmem⟩ := hheld id h
    exact absurd hmem (hok.keeps p' hp' trivial id h)
  | event e =>
    obtain ⟨world, hevent, rfl⟩ := Daemon.step_event hstep
    refine hheld id ?_
    cases e with
    | xadd data =>
      cases hevent
      have hlt : id < s.server.group.log.length :=
        Nat.lt_of_lt_of_le (s.server.group.pending_lt id h.1) s.server.group.next_le
      exact h.of_group (List.getElem?_append_left hlt) h.1
    | xtrim count =>
      cases hevent
      exact h

/-- A step that acknowledges no batch without its alerts leaves no score above the
threshold without one. -/
theorem step_alerted (hqueued : ∀ p, s.process = some p → Queued settings s.server p.vars p.pc p.reply)
    (halerted : ∀ id score, (id, score) ∈ s.server.scored → score.le settings.anomaly_threshold = false →
      ∃ data, (id, data) ∈ s.server.alerts)
    (hok : KeepsScoring libraries settings s a) (hstep : (daemon libraries settings fresh).step s a = some s')
    {id : ℕ} {score : PyFloat} (hmem : (id, score) ∈ s'.server.scored)
    (habove : score.le settings.anomaly_threshold = false) : ∃ data, (id, data) ∈ s'.server.alerts := by
  cases a with
  | start moment =>
    obtain ⟨_, rfl⟩ := Daemon.step_start hstep
    exact halerted id score hmem habove
  | exec accepted =>
    obtain ⟨extractor, pc, world, reply, hprocess, hexec, rfl⟩ := Daemon.step_exec hstep
    cases pc with
    | read =>
      simp only [daemon, execute] at hexec
      split at hexec <;> cases hexec
      exact halerted id score hmem habove
    | execute batch scores commands =>
      cases hexec
      obtain hold | ⟨hnew, hacked⟩ := mem_scored_foldl hmem
      · obtain ⟨data, hdata⟩ := halerted id score hold habove
        exact ⟨data, foldl_grows.alerts _ hdata⟩
      · obtain ⟨_, hcovered, _⟩ := hqueued _ hprocess
        obtain ⟨data, hqueued⟩ := hcovered id score hnew habove
        have hexecuted : (.xadd id data, true) ∈ commands.zip accepted := by
          by_contra hrejected
          exact hok.alerts _ hprocess ⟨hacked, _, hqueued, hrejected⟩
        exact ⟨data, mem_alerts_foldl hexecuted⟩
    | sleep =>
      cases hexec
      exact halerted id score hmem habove
  | finish moment how =>
    obtain ⟨p, o, _, _, rfl⟩ := Daemon.step_finish hstep
    exact halerted id score hmem habove
  | crash =>
    obtain ⟨_, rfl⟩ := Daemon.step_crash hstep
    exact halerted id score hmem habove
  | event e =>
    obtain ⟨world, hevent, rfl⟩ := Daemon.step_event hstep
    cases e <;> cases hevent <;> exact halerted id score hmem habove

/-- In a run that drops no batch with an unacknowledged well-formed entry, and whose
pipelines are never acknowledged in part, no reading escapes scoring. -/
theorem nothing_escapes (h : (system libraries settings fresh).ReachableWhere (KeepsScoring libraries settings) s) :
    NothingEscapes libraries settings fresh s := by
  have hinvariant : (∀ id, Unsettled libraries.codec s.server id → ∃ p, s.process = some p ∧ InBatch p id) ∧
      ∀ id score, (id, score) ∈ s.server.scored → score.le settings.anomaly_threshold = false →
        ∃ data, (id, data) ∈ s.server.alerts := by
    refine h.invariant_of
      (P := fun s => (∀ id, Unsettled libraries.codec s.server id → ∃ p, s.process = some p ∧ InBatch p id) ∧
        ∀ id score, (id, score) ∈ s.server.scored → score.le settings.anomaly_threshold = false →
          ∃ data, (id, data) ∈ s.server.alerts)
      (fun _ hreach => reachable_queued hreach) ?_ ?_
    · rintro s ⟨hserver, _⟩
      refine ⟨fun id hunsettled => ?_, fun id score hmem _ => ?_⟩
      · have hpending := hunsettled.1
        rw [hserver] at hpending
        cases hpending
      · rw [hserver] at hmem
        cases hmem
    · rintro s a s' hqueued ⟨hheld, halerted⟩ hok hstep
      exact ⟨fun id => step_unsettled hqueued hheld hok hstep,
        fun id score => step_alerted hqueued halerted hok hstep⟩
  exact ⟨fun id hunsettled => .inl (hinvariant.1 id hunsettled), hinvariant.2⟩

/-- The answer lets the detector go on with its batch, or is the end of it. -/
def answered (libraries : Libraries U T F A) (settings : Settings) (moment : Moment U T F A) (p : Process F) : Bool :=
  match p.pc, p.reply with
  | .read, some (.entries entries) =>
    (process_batch libraries settings moment entries (parse libraries (moment.meanwhile p.vars) entries).1).isOk
  | .execute _ _ _, some (.results ok) => ok
  | .execute _ _ _, _ => false
  | _, _ => true

theorem not_drops_of_answered {moment : Moment U T F A} {p : Process F}
    (h : answered libraries settings moment p = true) : ¬ Drops libraries settings p (.finish moment .replied) := by
  obtain ⟨extractor, pc, reply⟩ := p
  intro hdrops
  cases pc with
  | read =>
    cases reply with
    | none => exact hdrops
    | some reply =>
      cases reply with
      | entries entries =>
        change (process_batch libraries settings moment entries
          (parse libraries (moment.meanwhile extractor) entries).1).isOk = true at h
        have hscores : ScoresBatch libraries settings moment (parse libraries (moment.meanwhile extractor) entries).1 := by
          cases hprocess : process_batch libraries settings moment entries
              (parse libraries (moment.meanwhile extractor) entries).1 with
          | ok result => exact process_batch_ok_iff.mp ⟨result, hprocess⟩
          | error e =>
            rw [hprocess] at h
            cases h
        exact hdrops hscores
      | _ => exact hdrops
  | execute batch scores commands =>
    cases reply with
    | none => cases h
    | some reply =>
      cases reply with
      | results ok => exact hdrops (congrArg (fun ok => some (Reply.results ok)) h)
      | _ => cases h
  | sleep => exact hdrops

/-- Every call is answered, every batch is scored and every pipeline goes through. -/
def uneventful (libraries : Libraries U T F A) (settings : Settings) (s : State F) : Action U T F A → Bool
  | .crash | .finish _ .raised | .finish _ .cancelled => false
  | .finish moment .replied => s.process.all (answered libraries settings moment)
  | .exec accepted =>
    s.process.all fun p =>
      match p.pc with
      | .execute _ _ commands => commands.length ≤ accepted.length && (commands.zip accepted).all Prod.snd
      | _ => true
  | _ => true

theorem keepsScoring_of_uneventful (h : uneventful libraries settings s a = true) :
    KeepsScoring libraries settings s a := by
  refine ⟨fun p hp hdrops id _ _ => ?_, fun p hp hacks => ?_⟩
  · cases a with
    | crash => cases h
    | finish moment how =>
      cases how with
      | replied =>
        rw [uneventful, hp] at h
        exact not_drops_of_answered h hdrops
      | _ => cases h
    | _ => exact hdrops
  · cases a with
    | exec accepted =>
      rw [uneventful, hp] at h
      obtain ⟨extractor, pc, reply⟩ := p
      cases pc with
      | execute batch scores commands =>
        obtain ⟨_, command, hmem, hrejected⟩ := hacks
        exact hrejected (mem_zip_of_results h hmem)
      | _ => exact hacks
    | _ => exact hacks

end Run

/-- The libraries on arrays that are given by their elements in order. A sum or a
quotient is exact, as it is for the errors of `sample_engine`. -/
def sample_libraries : Libraries String String ℚ (List PyFloat) where
  codec := sample_codec
  printer :=
    { str_uuid := id, isoformat := id, str_float := fun _ => "0.75"
      model_dump_json := fun _ _ => .ok "\x7b\"details\":\x7b\"reading\":\x7b\"level\":1\x7d\x7d\x7d" }
  arithmetic := .exact
  numpy :=
    { astype_float32 := .ok
      ravel := .ok
      add := fun errors threshold => .ok (errors.map fun error =>
        match error, threshold with
        | .finite a, .finite b => .finite (a + b)
        | _, _ => .nan)
      divide := fun errors sums => .ok (List.zipWith (fun error sum =>
        match error, sum with
        | .finite a, .finite b => .finite (a / b)
        | _, _ => .nan) errors sums) }
  asarray_float32 rows := .ok (rows.flatten.map .finite)
  tolist := id

/-- A model with the reconstruction error 3 for every row. -/
def sample_engine : InferenceEngine (List PyFloat) where
  session := some
    { id := 0
      model :=
        { inputs := ["features"]
          run := fun name features =>
            if name = "features" then .ok [List.replicate (features.length / 7) (.finite 3)] else .error .LibraryError } }
  input_name := "features"
  model_version := .str "1.0"

def sample_settings : Settings := { batch_size := 500, anomaly_threshold := .finite (1 / 2) }

def sample_moment : Moment String String ℚ (List PyFloat) where
  running := true
  engine := sample_engine
  meanwhile := id
  utcnow := "2025-01-01T00:00:01"
  uuid4 _ := "7d444840-9dc0-41d1-b245-5ffdce74fad2"

def sample_extractor : FeatureExtractor ℚ := { window_size := 10, stats := .empty, windows := .empty }

/-- Redis is empty, and the detector is not started. -/
def idle : State ℚ := { server := ⟨.empty, [], []⟩, process := none }

theorem idle_initial {U T A : Type} (libraries : Libraries U T ℚ A) (settings : Settings) (fresh : FeatureExtractor ℚ) :
    (system libraries settings fresh).initial idle :=
  ⟨rfl, rfl⟩

/-- A reading with the score 0.75 is scored, and has its alert. -/
theorem nothing_escapes_one_entry :
    ∃ s : State ℚ, s.server.alerts.length = 1 ∧ s.server.scored = [(0, .finite (3 / 4))] ∧
      NothingEscapes sample_libraries sample_settings sample_extractor s := by
  obtain ⟨s, hreach, htest⟩ := TransitionSystem.exists_of_replay
    (KeepsScoring sample_libraries sample_settings) (uneventful sample_libraries sample_settings)
    (fun _ _ => keepsScoring_of_uneventful) (s := idle)
    (idle_initial sample_libraries sample_settings sample_extractor)
    [.event (.xadd sample_data), .start sample_moment, .exec [], .finish sample_moment .replied, .exec [true, true],
      .finish sample_moment .replied]
    (fun s => s.server.alerts.length = 1 ∧ s.server.scored = [(0, .finite (3 / 4))]) (by decide +kernel)
  obtain ⟨halerts, hscored⟩ := of_decide_eq_true htest
  exact ⟨s, halerts, hscored, nothing_escapes hreach⟩

/-- The connection is lost before Redis gets the pipeline of a scored batch. -/
theorem lost_pipeline_escapes :
    ¬ ∀ s : State ℚ, (system sample_libraries sample_settings sample_extractor).Reachable s →
      NothingEscapes sample_libraries sample_settings sample_extractor s := by
  intro hclaim
  obtain ⟨s, hreach, htest⟩ := TransitionSystem.exists_of_replay (fun _ _ => True)
    (fun _ _ => true) (fun _ _ _ => trivial) (s := idle)
    (idle_initial sample_libraries sample_settings sample_extractor)
    [.event (.xadd sample_data), .start sample_moment, .exec [], .finish sample_moment .replied,
      .finish sample_moment .raised]
    (fun s => s.server.group.pending = [0] ∧
      (s.server.group.log[0]?.any fun data => (from_stream_dict sample_codec data).isOk) ∧
      s.process.all fun p => (hand p.pc p.reply).length = 0)
    (by decide +kernel)
  obtain ⟨hpending, hlogged, hprocess⟩ := of_decide_eq_true htest
  obtain ⟨data, hlog, hparses⟩ := (Option.any_eq_true _ _).mp hlogged
  have hunsettled : Unsettled sample_codec s.server 0 := by
    refine ⟨hpending ▸ List.mem_singleton_self 0, ?_⟩
    cases hreading : from_stream_dict sample_codec data with
    | ok reading => exact ⟨data, reading, hlog, hreading⟩
    | error error =>
      rw [hreading] at hparses
      cases hparses
  obtain ⟨p, hp, data', hmem⟩ | hobtainable := (hclaim s hreach).unsettled 0 hunsettled
  · rw [hp] at hprocess
    rw [List.length_eq_zero_iff.mp (of_decide_eq_true hprocess)] at hmem
    cases hmem
  · exact (reader sample_libraries sample_settings sample_extractor).not_obtainable hreach
      (s.server.group.pending_lt 0 hunsettled.1) hobtainable

end gateway.anomaly_detector
