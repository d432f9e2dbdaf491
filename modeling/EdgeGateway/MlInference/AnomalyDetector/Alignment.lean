import EdgeGateway.MlInference.AnomalyDetector.Escape
import EdgeGateway.MlInference.FeatureExtractor.Extraction

open gateway.telemetry gateway.alert gateway.feature_extractor gateway.inference_engine

namespace gateway.anomaly_detector

section Definitions

variable {U T F A : Type} (libraries : Libraries U T F A) (settings : Settings) (moment : Moment U T F A)

/-- `_process_batch` up to `pipe.execute()`, and the extractor that it leaves. -/
def process_entries (extractor : FeatureExtractor F) (entries : List StreamEntry) :
    Except PyExc (List (ℕ × PyFloat) × List Command) × FeatureExtractor F :=
  let (parsed, extractor) := parse libraries extractor entries
  (process_batch libraries settings moment entries parsed, extractor)

/-- The well-formed entries of a batch with their readings. -/
def well_formed (stats : FeatureStats F) (entries : List StreamEntry) : List (ℕ × TelemetryReading U T) :=
  entries.filterMap fun (entry_id, data) =>
    match from_stream_dict libraries.codec data with
    | .error _ => none
    | .ok reading => if extractable libraries.arithmetic stats reading then some (entry_id, reading) else none

/-- The engine has one score in [0, 1] for each row, in the order of the rows. -/
structure Scores (rows : List (List F)) (scores : List PyFloat) : Prop where
  score_rows : rows ≠ [] → score_rows libraries moment rows = .ok scores
  length : scores.length = rows.length
  score_ge : ∀ score ∈ scores, PyFloat.le (.finite 0) score = true
  score_le : ∀ score ∈ scores, PyFloat.le score (.finite 1) = true

/-- The entry of the alerts stream for a reading with a score. -/
def AlertFor (reading : TelemetryReading U T) (score : PyFloat) (data : StreamDict) : Prop :=
  ∃ alert : Alert U T, alert.to_stream_dict libraries.printer = .ok data ∧ alert.device_id = reading.device_id ∧
    alert.details = [("reading", .dict reading.payload)] ∧ alert.anomaly_score = score ∧
    (alert.severity = .critical ↔ CRITICAL_SCORE.lt score = true)

/-- One alert for each score above the threshold, in the order of the entries, and then
one XACK of the whole batch. -/
def RightCommands (entries : List StreamEntry) (scored : List ((ℕ × TelemetryReading U T) × PyFloat))
    (commands : List Command) : Prop :=
  ∃ alerts, commands = alerts ++ [.xack (entries.map Prod.fst)] ∧
    List.Forall₂ (fun item command => ∃ data, command = .xadd item.1.1 data ∧ AlertFor libraries item.1.2 item.2 data)
      (scored.filter fun item => settings.anomaly_threshold.lt item.2) alerts

/-- The threshold compares with the scores, and the alerts that are due can be made. -/
structure Publishable (scored : List ((ℕ × TelemetryReading U T) × PyFloat)) : Prop where
  threshold : scored ≠ [] → settings.anomaly_threshold ≠ .nan
  model_version : ∀ item ∈ scored, settings.anomaly_threshold.lt item.2 = true →
    ∃ version, moment.engine.model_version = .str version
  details : ∀ item ∈ scored, settings.anomaly_threshold.lt item.2 = true →
    ∃ text, libraries.printer.model_dump_json "details" [("reading", .dict item.1.2.payload)] = .ok text

end Definitions

/-- The detector's loop calls it on what it read. -/
theorem resume_read {U T F A : Type} (libraries : Libraries U T F A) (settings : Settings) (moment : Moment U T F A)
    (extractor : FeatureExtractor F) (entry : StreamEntry) (rest : List StreamEntry) :
    resume libraries settings moment extractor .read (.reply (.entries (entry :: rest))) =
      match process_entries libraries settings moment extractor (entry :: rest) with
      | (.ok (scores, commands), extractor) => (extractor, some (.execute (entry :: rest) scores commands))
      | (.error _, extractor) => (extractor, some .sleep) := by
  unfold resume process_entries
  dsimp only
  split
  · rename_i hbatch
    rw [hbatch]
  · rename_i hbatch
    rw [hbatch]

section Parse

variable {U T A : Type} (libraries : Libraries U T PyFloat A)

/-- An entry with its row. -/
def with_row {U T F : Type} (item : (ℕ × TelemetryReading U T) × List F) : Parsed U T F :=
  { source := item.1.1, reading := item.1.2, row := item.2 }

/-- An entry without its row. -/
def Parsed.entry {U T F : Type} (parsed : Parsed U T F) : ℕ × TelemetryReading U T := (parsed.source, parsed.reading)

theorem map_entry_with_row {U T F : Type} {sources : List (ℕ × TelemetryReading U T)} {rows : List (List F)}
    (h : rows.length = sources.length) : ((sources.zip rows).map with_row).map Parsed.entry = sources := by
  rw [List.map_map]
  exact List.map_fst_zip h.ge

theorem map_row_with_row {U T F : Type} {sources : List (ℕ × TelemetryReading U T)} {rows : List (List F)}
    (h : rows.length = sources.length) : ((sources.zip rows).map with_row).map Parsed.row = rows := by
  rw [List.map_map]
  exact List.map_snd_zip h.le

/-- The first loop keeps the rows in line with the entries that they come from. -/
theorem parse_well_formed (hfloats : libraries.arithmetic.Floats) (extractor : FeatureExtractor PyFloat)
    (entries : List StreamEntry) :
    ∃ rows, (extract_rows libraries.arithmetic libraries.printer.str_uuid
        ((well_formed libraries extractor.stats entries).map Prod.snd)).call extractor =
          (.ok rows, (parse libraries extractor entries).2) ∧
      rows.length = (well_formed libraries extractor.stats entries).length ∧
      (parse libraries extractor entries).1 =
        ((well_formed libraries extractor.stats entries).zip rows).map with_row := by
  induction entries generalizing extractor with
  | nil => exact ⟨[], rfl, rfl, rfl⟩
  | cons entry rest ih =>
    obtain ⟨entry_id, data⟩ := entry
    unfold parse well_formed
    rw [List.filterMap_cons]
    dsimp only
    cases hreading : from_stream_dict libraries.codec data with
    | error e => exact ih extractor
    | ok reading =>
      dsimp only
      cases hvalue : extracted_value libraries.arithmetic extractor.stats reading with
      | error e =>
        have hbad : extractable libraries.arithmetic extractor.stats reading = false := by
          rw [extractable, hvalue]
          rfl
        rw [extract_row_of_error _ hvalue, hbad]
        exact ih extractor
      | ok value =>
        have hgood : extractable libraries.arithmetic extractor.stats reading = true := by
          rw [extractable, hvalue]
          rfl
        obtain ⟨row, hrow⟩ := extract_row_of_ok hfloats libraries.printer.str_uuid hvalue
        obtain ⟨rows, hrows, hlength, hparse⟩ :=
          ih (extractor.appended (libraries.printer.str_uuid reading.device_id) value)
        rw [appended_stats] at hrows hlength hparse
        rw [hrow, hgood, if_pos rfl]
        refine ⟨row :: rows, ?_, congrArg Nat.succ hlength, congrArg₂ List.cons rfl hparse⟩
        unfold extract_rows at hrows ⊢
        rw [List.map_cons, List.mapM_cons, Raising.call_bind_ok hrow]
        exact (Raising.call_bind_ok hrows).trans rfl

end Parse

section Alerts

variable {U T F A : Type} {libraries : Libraries U T F A} {settings : Settings} {moment : Moment U T F A}

theorem alert_data_ok {source : ℕ} {reading : TelemetryReading U T} {score : PyFloat} {data : StreamDict}
    (h : alert_data libraries moment source reading score = .ok data) : AlertFor libraries reading score data := by
  obtain ⟨alert, hnew, hdata⟩ := Except.bind_ok_iff.mp h
  obtain ⟨-, -, -, hdetails⟩ := Alert.new_ok hnew
  obtain ⟨hdevice, hseverity, hscore⟩ := Alert.new_fields hnew
  refine ⟨alert, hdata, hdevice, hdetails, hscore, ?_⟩
  rw [hseverity]
  by_cases hcritical : CRITICAL_SCORE.lt score = true
  · rw [if_pos hcritical]
    exact iff_of_true rfl hcritical
  · rw [if_neg hcritical]
    exact iff_of_false nofun hcritical

/-- The second loop queues the alerts in line with the scores. -/
theorem queue_alerts_exact {scored : List (Parsed U T F × PyFloat)} {commands : List Command}
    (h : queue_alerts libraries settings moment scored = .ok commands) :
    List.Forall₂ (fun item command =>
        ∃ data, command = .xadd item.1.source data ∧ AlertFor libraries item.1.reading item.2 data)
      (scored.filter fun item => !item.2.le settings.anomaly_threshold) commands := by
  induction scored generalizing commands with
  | nil =>
    cases h
    exact .nil
  | cons head rest ih =>
    obtain ⟨item, score⟩ := head
    rw [List.filter_cons]
    simp only [queue_alerts] at h
    split at h
    · rename_i hbelow
      rw [hbelow]
      exact ih h
    · rename_i habove
      obtain ⟨data, hdata, h⟩ := Except.bind_ok_iff.mp h
      obtain ⟨commands, hrest, h⟩ := Except.bind_ok_iff.mp h
      cases h
      rw [if_pos (by simpa using habove)]
      exact .cons ⟨data, rfl, alert_data_ok hdata⟩ (ih hrest)

/-- What a batch that can be scored leads to. -/
theorem process_batch_exact {entries : List StreamEntry} {parsed : List (Parsed U T F)} {scores : List PyFloat}
    (hscores : Scores libraries moment (parsed.map Parsed.row) scores) {scored : List (ℕ × PyFloat)}
    {commands : List Command}
    (h : process_batch libraries settings moment entries parsed = .ok (scored, commands)) :
    scored = (parsed.zip scores).map (fun (item, score) => (item.source, score)) ∧
      ∃ alerts, commands = alerts ++ [.xack (entries.map Prod.fst)] ∧
        queue_alerts libraries settings moment (parsed.zip scores) = .ok alerts := by
  obtain ⟨values, hvalues, h⟩ := Except.bind_ok_iff.mp h
  obtain ⟨alerts, halerts, h⟩ := Except.bind_ok_iff.mp h
  have hsame : parsed.zip values = parsed.zip scores := by
    by_cases hempty : parsed = []
    · rw [hempty, List.zip_nil_left, List.zip_nil_left]
    · rw [if_neg hempty, hscores.score_rows (by simpa using hempty)] at hvalues
      cases hvalues
      rfl
  rw [hsame] at halerts h
  cases h
  exact ⟨rfl, alerts, rfl, halerts⟩

theorem scoresBatch_iff {parsed : List (Parsed U T F)} {scores : List PyFloat}
    (hscores : Scores libraries moment (parsed.map Parsed.row) scores) :
    ScoresBatch libraries settings moment parsed ↔
      ∀ item score, (item, score) ∈ parsed.zip scores → score.le settings.anomaly_threshold = false →
        Alertable libraries moment.engine item.reading score := by
  unfold ScoresBatch
  by_cases hempty : parsed = []
  · subst hempty
    exact iff_of_true (.inl rfl) nofun
  · rw [hscores.score_rows (by simpa using hempty)]
    constructor
    · intro h
      obtain hnil | ⟨values, hvalues, halertable⟩ := h
      · exact absurd hnil hempty
      · cases hvalues
        exact halertable
    · exact fun h => .inr ⟨scores, rfl, h⟩

end Alerts

section Threshold

variable {score threshold : PyFloat}

/-- A score that is a number is above any threshold that is one, or not. -/
theorem le_eq_not_lt (hscore : score ≠ .nan) (hthreshold : threshold ≠ .nan) :
    score.le threshold = !threshold.lt score := by
  cases score with
  | nan => exact absurd rfl hscore
  | inf negative =>
    cases threshold with
    | nan => exact absurd rfl hthreshold
    | _ => rfl
  | finite q =>
    cases threshold with
    | nan => exact absurd rfl hthreshold
    | _ => rfl

theorem le_nan (score : PyFloat) : score.le .nan = false := by
  cases score <;> rfl

theorem nan_lt (score : PyFloat) : PyFloat.nan.lt score = false := by
  cases score <;> rfl

theorem ne_nan_of_le {x : PyFloat} (h : PyFloat.le x score = true) : score ≠ .nan := by
  intro hnan
  rw [hnan, le_nan] at h
  cases h

end Threshold

section Alignment

variable {U T F A : Type} {libraries : Libraries U T F A} {settings : Settings} {moment : Moment U T F A}

/-- The scores of a batch, next to the entries. -/
theorem zip_scores {parsed : List (Parsed U T F)} {scores : List PyFloat} :
    (parsed.map Parsed.entry).zip scores = (parsed.zip scores).map (Prod.map Parsed.entry id) :=
  List.zip_map_left ..

/-- Below and above the threshold are all that there is. -/
theorem filter_above {items : List (Parsed U T F × PyFloat)} (hthreshold : settings.anomaly_threshold ≠ .nan)
    (hscores : ∀ item ∈ items, item.2 ≠ .nan) :
    items.filter (fun item => !item.2.le settings.anomaly_threshold) =
      items.filter fun item => settings.anomaly_threshold.lt item.2 := by
  refine List.filter_congr fun item hitem => ?_
  rw [le_eq_not_lt (hscores item hitem) hthreshold, Bool.not_not]

theorem rightCommands_of_queue {entries : List StreamEntry} {items : List (Parsed U T F × PyFloat)}
    {alerts : List Command} (hthreshold : settings.anomaly_threshold ≠ .nan) (hscores : ∀ item ∈ items, item.2 ≠ .nan)
    (h : queue_alerts libraries settings moment items = .ok alerts) :
    RightCommands libraries settings entries (items.map (Prod.map Parsed.entry id))
      (alerts ++ [.xack (entries.map Prod.fst)]) := by
  refine ⟨alerts, rfl, ?_⟩
  have hexact := queue_alerts_exact h
  rw [filter_above hthreshold hscores] at hexact
  rw [List.filter_map, List.forall₂_map_left_iff]
  exact hexact

/-- With a NaN for a threshold every score has an alert. -/
theorem length_queue_nan {items : List (Parsed U T F × PyFloat)} {alerts : List Command}
    (hthreshold : settings.anomaly_threshold = .nan) (h : queue_alerts libraries settings moment items = .ok alerts) :
    alerts.length = items.length := by
  rw [← (queue_alerts_exact h).length_eq, hthreshold]
  refine congrArg List.length (List.filter_eq_self.mpr fun item _ => ?_)
  rw [le_nan]
  rfl

theorem length_of_rightCommands_nan {entries : List StreamEntry} {scored : List ((ℕ × TelemetryReading U T) × PyFloat)}
    {alerts : List Command} (hthreshold : settings.anomaly_threshold = .nan)
    (h : RightCommands libraries settings entries scored (alerts ++ [.xack (entries.map Prod.fst)])) :
    alerts.length = 0 := by
  obtain ⟨alerts', heq, hright⟩ := h
  obtain ⟨rfl, -⟩ := List.append_inj' heq rfl
  have hnone : (scored.filter fun item => settings.anomaly_threshold.lt item.2) = [] := by
    refine List.filter_eq_nil_iff.mpr fun item _ => ?_
    rw [hthreshold, nan_lt]
    exact Bool.false_ne_true
  rw [← hright.length_eq, hnone]
  rfl

/-- What the alerts of a batch need, apart from the scores. -/
theorem publishable_iff {parsed : List (Parsed U T F)} {scores : List PyFloat}
    (hscores : Scores libraries moment (parsed.map Parsed.row) scores) :
    Publishable libraries settings moment ((parsed.map Parsed.entry).zip scores) ↔
      (parsed.zip scores ≠ [] → settings.anomaly_threshold ≠ .nan) ∧ ScoresBatch libraries settings moment parsed := by
  have hnumber : ∀ item ∈ parsed.zip scores, item.2 ≠ .nan := by
    intro item hitem
    exact ne_nan_of_le (hscores.score_ge item.2 (List.of_mem_zip hitem).2)
  rw [zip_scores, scoresBatch_iff hscores]
  constructor
  · intro hpublishable
    refine ⟨fun hne => hpublishable.threshold (by simpa using hne), fun item score hmem habove => ?_⟩
    have hitem : Prod.map Parsed.entry id (item, score) ∈ (parsed.zip scores).map (Prod.map Parsed.entry id) :=
      List.mem_map_of_mem hmem
    have hscore := (List.of_mem_zip hmem).2
    rw [le_eq_not_lt (hnumber _ hmem) (hpublishable.threshold (List.ne_nil_of_mem hitem))] at habove
    have hlt : settings.anomaly_threshold.lt score = true := by simpa using habove
    exact ⟨hpublishable.model_version _ hitem hlt, hscores.score_ge score hscore, hscores.score_le score hscore,
      hpublishable.details _ hitem hlt⟩
  · intro h
    obtain ⟨hthreshold, halertable⟩ := h
    have hdue : ∀ item ∈ (parsed.zip scores).map (Prod.map Parsed.entry id),
        settings.anomaly_threshold.lt item.2 = true → Alertable libraries moment.engine item.1.2 item.2 := by
      intro item hitem habove
      obtain ⟨⟨parsed', score⟩, hmem, rfl⟩ := List.mem_map.mp hitem
      refine halertable parsed' score hmem ?_
      rw [le_eq_not_lt (hnumber _ hmem) (hthreshold (List.ne_nil_of_mem hmem))]
      exact congrArg not habove
    exact ⟨fun hne => hthreshold (by simpa using hne), fun item hitem habove => (hdue item hitem habove).model_version,
      fun item hitem habove => (hdue item hitem habove).details⟩

end Alignment

/-- A scored batch has exactly the right alerts, exactly if its threshold compares and
its alerts can be made; and the windows are those of its well-formed entries. -/
theorem right_alerts_iff {U T A : Type} (libraries : Libraries U T PyFloat A) (settings : Settings)
    (moment : Moment U T PyFloat A) (hfloats : libraries.arithmetic.Floats) (extractor : FeatureExtractor PyFloat)
    (entries : List StreamEntry) :
    ∃ rows extractor', (extract_rows libraries.arithmetic libraries.printer.str_uuid
        ((well_formed libraries extractor.stats entries).map Prod.snd)).call extractor = (.ok rows, extractor') ∧
      (process_entries libraries settings moment extractor entries).2 = extractor' ∧
      ∀ scores, Scores libraries moment rows scores →
        ((∃ scored commands, (process_entries libraries settings moment extractor entries).1 = .ok (scored, commands) ∧
            RightCommands libraries settings entries ((well_formed libraries extractor.stats entries).zip scores) commands) ↔
          Publishable libraries settings moment ((well_formed libraries extractor.stats entries).zip scores)) := by
  obtain ⟨rows, hrows, hlength, hparse⟩ := parse_well_formed libraries hfloats extractor entries
  refine ⟨rows, _, hrows, rfl, fun scores hscores => ?_⟩
  have hentries := map_entry_with_row hlength
  rw [← hparse] at hentries
  have hsame := map_row_with_row hlength
  rw [← hparse] at hsame
  rw [← hsame] at hscores
  unfold process_entries
  dsimp only
  generalize (parse libraries extractor entries).1 = parsed at *
  rw [← hentries, publishable_iff hscores, zip_scores]
  constructor
  · intro hright
    obtain ⟨scored, commands, hbatch, hcommands⟩ := hright
    obtain ⟨-, alerts, rfl, hqueue⟩ := process_batch_exact hscores hbatch
    refine ⟨fun hne hnan => hne (List.length_eq_zero_iff.mp ?_), process_batch_ok_iff.mp ⟨_, hbatch⟩⟩
    rw [← length_queue_nan hnan hqueue, length_of_rightCommands_nan hnan hcommands]
  · intro h
    obtain ⟨hthreshold, hscorable⟩ := h
    obtain ⟨⟨scored, commands⟩, hbatch⟩ := process_batch_ok_iff.mpr hscorable
    obtain ⟨-, alerts, rfl, hqueue⟩ := process_batch_exact hscores hbatch
    refine ⟨scored, _, hbatch, ?_⟩
    by_cases hempty : parsed.zip scores = []
    · rw [hempty] at hqueue ⊢
      cases hqueue
      exact ⟨[], rfl, .nil⟩
    · refine rightCommands_of_queue (hthreshold hempty) (fun item hitem => ?_) hqueue
      exact ne_nan_of_le (hscores.score_ge item.2 (List.of_mem_zip hitem).2)

/-- The libraries of `sample_libraries`, with floats for the features. -/
def float_libraries : Libraries String String PyFloat (List PyFloat) where
  codec := sample_libraries.codec
  printer := sample_libraries.printer
  arithmetic := .binary64
  numpy := sample_libraries.numpy
  asarray_float32 rows := .ok rows.flatten
  tolist := sample_libraries.tolist

/-- A model whose sidecar has this version. -/
def float_moment (model_version : JsonValue) : Moment String String PyFloat (List PyFloat) where
  running := true
  engine := { sample_engine with model_version }
  meanwhile := id
  utcnow := sample_moment.utcnow
  uuid4 := sample_moment.uuid4

/-- An entry that is not well-formed, and one that is. -/
def sample_entries : List StreamEntry := [(0, Dict.empty), (1, sample_data)]

theorem sample_rows :
    ((extract_rows float_libraries.arithmetic float_libraries.printer.str_uuid
      ((well_formed float_libraries (FeatureExtractor.new 10 Dict.empty).stats sample_entries).map Prod.snd)).call
        (.new 10 Dict.empty)).1 = .ok [List.replicate 7 (.finite 0)] := by
  decide +kernel

theorem sample_scores (model_version : JsonValue) :
    Scores float_libraries (float_moment model_version) [List.replicate 7 (.finite 0)] [.finite (3 / 4)] where
  score_rows _ := by
    refine congrArg Except.ok (congrArg (fun q => [PyFloat.finite q]) ?_)
    norm_num
  length := rfl
  score_ge score hscore := by
    rw [List.mem_singleton.mp hscore]
    decide +kernel
  score_le score hscore := by
    rw [List.mem_singleton.mp hscore]
    decide +kernel

theorem right_alerts_sample :
    ∃ scored commands, (process_entries float_libraries sample_settings (float_moment (.str "1.0")) (.new 10 Dict.empty)
        sample_entries).1 = .ok (scored, commands) ∧
      RightCommands float_libraries sample_settings sample_entries
        ((well_formed float_libraries (FeatureExtractor.new 10 Dict.empty).stats sample_entries).zip [.finite (3 / 4)])
        commands := by
  obtain ⟨rows, extractor', hrows, -, hiff⟩ := right_alerts_iff float_libraries sample_settings
    (float_moment (.str "1.0")) binary64_floats (.new 10 Dict.empty) sample_entries
  cases sample_rows.symm.trans (congrArg Prod.fst hrows)
  refine (hiff _ (sample_scores _)).mpr ⟨fun _ => nofun, fun _ _ _ => ⟨"1.0", rfl⟩, fun _ _ _ => ⟨_, rfl⟩⟩

/-- A sidecar with the version 2, and a reading with the score 0.75: the alert is not
valid, and the batch is neither alerted nor acknowledged. -/
theorem numeric_version_no_alerts :
    ∃ rows extractor' scores, (extract_rows float_libraries.arithmetic float_libraries.printer.str_uuid
        ((well_formed float_libraries (FeatureExtractor.new 10 Dict.empty).stats sample_entries).map Prod.snd)).call
          (.new 10 Dict.empty) = (.ok rows, extractor') ∧
      Scores float_libraries (float_moment (.int 2)) rows scores ∧
      ¬ ∃ scored commands, (process_entries float_libraries sample_settings (float_moment (.int 2)) (.new 10 Dict.empty)
          sample_entries).1 = .ok (scored, commands) ∧
        RightCommands float_libraries sample_settings sample_entries
          ((well_formed float_libraries (FeatureExtractor.new 10 Dict.empty).stats sample_entries).zip scores) commands := by
  obtain ⟨rows, hrows, -⟩ := parse_well_formed float_libraries binary64_floats (.new 10 Dict.empty)
    sample_entries
  cases sample_rows.symm.trans (congrArg Prod.fst hrows)
  refine ⟨_, _, _, hrows, sample_scores _, ?_⟩
  intro hright
  obtain ⟨scored, commands, hbatch, -⟩ := hright
  have hraised : (process_entries float_libraries sample_settings (float_moment (.int 2)) (.new 10 Dict.empty)
      sample_entries).1.isOk = false := by
    decide +kernel
  rw [hbatch] at hraised
  cases hraised

end gateway.anomaly_detector
