import EdgeGateway.MlInference.AnomalyDetector.Alignment
import EdgeGateway.MlInference.Inference.Responses

open gateway.telemetry gateway.feature_extractor gateway.inference_engine
open gateway.anomaly_detector (Libraries Settings Moment StreamEntry Command Parsed)

namespace gateway.inference

section Definitions

variable {U T A : Type} (app : App U T PyFloat A)

/-- One request for each reading, each with the time that it takes. -/
def predict_each (requests : List (PyFloat × TelemetryReading U T)) :
    Raising (Process PyFloat) Failure (List PredictionResponse) :=
  requests.mapM fun (elapsed_ms, reading) => predict app elapsed_ms reading

/-- The entries that a pipeline has alerts for. -/
def alerted (commands : List Command) : List ℕ :=
  commands.filterMap fun command =>
    match command with
    | .xadd source _ => some source
    | .xack _ => none

/-- A model is loaded, and it has a score for each row that depends on that row alone. -/
structure RowScores (score_row : List PyFloat → PyFloat) : Prop where
  loaded : app.engine.session ≠ none
  scores : ∀ rows, rows ≠ [] → (∀ row ∈ rows, row.length = N_FEATURES) →
    scores_of app rows = .ok (rows.map score_row)

/-- The entries with a flag. -/
def flagged (ids : List ℕ) (flags : List Bool) : List ℕ := ((ids.zip flags).filter Prod.snd).map Prod.fst

/-- The detector's process has the same engine as the handlers. -/
def process_entries (moment : Moment U T PyFloat A) :=
  anomaly_detector.process_entries app.libraries app.settings { moment with engine := app.engine }

/-- All paths give each reading the same score and the same decision, and leave the same
windows; and the counters are the same after a batch. -/
def Agree (moment : Moment U T PyFloat A) (extractor extractor' : FeatureExtractor PyFloat) (stats : Stats)
    (requests : List (PyFloat × TelemetryReading U T)) (total_elapsed_ms : PyFloat) (entries : List StreamEntry) :
    Prop :=
  ∃ predictions stats', (predict_each app requests).call (extractor, stats) = (.ok predictions, (extractor', stats')) ∧
    (requests = [] → ((predict_batch app total_elapsed_ms (requests.map Prod.snd)).call (extractor, stats)).2 =
      (extractor', stats')) ∧
    (requests ≠ [] → ∃ batch stats'', (predict_batch app total_elapsed_ms (requests.map Prod.snd)).call
        (extractor, stats) = (.ok batch, (extractor', stats'')) ∧
      batch.predictions.map PredictionResponse.decision = predictions.map PredictionResponse.decision ∧
      stats''.counts = stats'.counts) ∧
    ∃ scored commands, process_entries app moment extractor entries = (.ok (scored, commands), extractor') ∧
      scored = (entries.map Prod.fst).zip (predictions.map PredictionResponse.anomaly_score) ∧
      alerted commands = flagged (entries.map Prod.fst) (predictions.map PredictionResponse.is_anomaly)

end Definitions

section Each

variable {U T A : Type} {app : App U T PyFloat A} {score_row : List PyFloat → PyFloat}

theorem extract_rows_cons {arith : Arithmetic PyFloat} {str : U → String} {extractor extractor' : FeatureExtractor PyFloat}
    {reading : TelemetryReading U T} {rest : List (TelemetryReading U T)} {rows : List (List PyFloat)}
    (h : (extract_rows arith str (reading :: rest)).call extractor = (.ok rows, extractor')) :
    ∃ row mid rows', rows = row :: rows' ∧ (extract_row arith str reading).call extractor = (.ok row, mid) ∧
      (extract_rows arith str rest).call mid = (.ok rows', extractor') := by
  unfold extract_rows at h ⊢
  rw [List.mapM_cons, Raising.call_bind] at h
  rcases hrow : (extract_row arith str reading).call extractor with ⟨e | row, mid⟩
  · rw [hrow] at h
    cases h
  · rw [hrow] at h
    dsimp only at h
    rw [Raising.call_bind] at h
    rcases hrest : (rest.mapM (extract_row arith str)).call mid with ⟨e | rows', mid'⟩
    · rw [hrest] at h
      cases h
    · rw [hrest] at h
      cases h
      exact ⟨row, mid, rows', rfl, rfl, hrest⟩

theorem call_predict_row (hscores : RowScores app score_row) {extractor mid : FeatureExtractor PyFloat} (stats : Stats)
    (elapsed_ms : PyFloat) {reading : TelemetryReading U T} {row : List PyFloat}
    (hrow : (extract_row app.libraries.arithmetic app.libraries.printer.str_uuid reading).call extractor = (.ok row, mid)) :
    (predict app elapsed_ms reading).call (extractor, stats) =
      (respond app elapsed_ms (reading, score_row row)).call (mid, stats) := by
  have hscore : scores_of app [row] = .ok [score_row row] :=
    hscores.scores [row] (List.cons_ne_nil _ _) (by simpa using length_of_extract_row hrow)
  rw [call_predict_of_row hscores.loaded stats elapsed_ms hrow, hscore]
  rfl

/-- One request after the other, for scores that are all in range. -/
theorem predict_each_of_in_range (hscores : RowScores app score_row) {requests : List (PyFloat × TelemetryReading U T)}
    {extractor extractor' : FeatureExtractor PyFloat} {rows : List (List PyFloat)} (stats : Stats)
    (hrows : (extract_rows app.libraries.arithmetic app.libraries.printer.str_uuid (requests.map Prod.snd)).call
      extractor = (.ok rows, extractor'))
    (hrange : ∀ row ∈ rows, in_range (score_row row) = true) :
    ∃ predictions stats', (predict_each app requests).call (extractor, stats) =
        (.ok predictions, (extractor', stats')) ∧
      predictions.map PredictionResponse.decision =
        ((requests.map Prod.snd).zip (rows.map score_row)).map (decision_of app) ∧
      stats'.counts = counts_after app stats (rows.map score_row) := by
  induction requests generalizing extractor rows stats with
  | nil =>
    cases hrows
    exact ⟨[], stats, rfl, rfl, rfl⟩
  | cons request rest ih =>
    obtain ⟨elapsed_ms, reading⟩ := request
    obtain ⟨row, mid, rows, rfl, hrow, hrest⟩ := extract_rows_cons hrows
    obtain ⟨hhead, htail⟩ := List.forall_mem_cons.mp hrange
    have hitem : in_range (reading, score_row row).2 = true := hhead
    obtain ⟨prediction, hrespond, hdecision⟩ := respond_of_in_range app mid stats elapsed_ms hitem
    have hcall := (call_predict_row hscores stats elapsed_ms hrow).trans hrespond
    obtain ⟨predictions, stats', hcalls, hdecisions, hcounts⟩ :=
      ih (stats.counted elapsed_ms (app.settings.anomaly_threshold.lt (score_row row))) hrest htail
    refine ⟨prediction :: predictions, stats', ?_, congrArg₂ List.cons hdecision hdecisions, ?_⟩
    · unfold predict_each at hcalls ⊢
      rw [List.mapM_cons, Raising.call_bind_ok hcall, Raising.call_bind_ok hcalls]
      rfl
    · rw [hcounts, counts_after_cons]
      rfl

/-- The scores and the flags that the decisions have. -/
theorem scores_and_flags {readings : List (TelemetryReading U T)} {scores : List PyFloat}
    {predictions : List PredictionResponse} (hlength : scores.length ≤ readings.length)
    (h : predictions.map PredictionResponse.decision = (readings.zip scores).map (decision_of app)) :
    predictions.map PredictionResponse.anomaly_score = scores ∧
      predictions.map PredictionResponse.is_anomaly =
        scores.map fun score => app.settings.anomaly_threshold.lt score := by
  have hsnd : (readings.zip scores).map Prod.snd = scores := List.map_snd_zip hlength
  constructor
  · have hscores := congrArg (List.map fun decision => decision.2.1) h
    rw [List.map_map, List.map_map] at hscores
    exact hscores.trans hsnd
  · have hflags := congrArg (List.map fun decision => decision.2.2) h
    rw [List.map_map, List.map_map] at hflags
    rw [← hsnd, List.map_map]
    exact hflags

/-- The same scores for a batch of them. -/
theorem predict_batch_of_in_range (harrays : app.Arrays) (hscores : RowScores app score_row)
    {readings : List (TelemetryReading U T)} (hne : readings ≠ []) {extractor extractor' : FeatureExtractor PyFloat}
    {rows : List (List PyFloat)} (stats : Stats) (total_elapsed_ms : PyFloat)
    (hrows : (extract_rows app.libraries.arithmetic app.libraries.printer.str_uuid readings).call extractor =
      (.ok rows, extractor'))
    (hlength : rows.length = readings.length) (hwide : ∀ row ∈ rows, row.length = N_FEATURES)
    (hrange : ∀ row ∈ rows, in_range (score_row row) = true) :
    ∃ batch stats', (predict_batch app total_elapsed_ms readings).call (extractor, stats) =
        (.ok batch, (extractor', stats')) ∧
      batch.predictions.map PredictionResponse.decision =
        (readings.zip (rows.map score_row)).map (decision_of app) ∧
      stats'.counts = counts_after app stats (rows.map score_row) := by
  have hrows_ne : rows ≠ [] := by
    intro hnil
    rw [hnil, List.length_nil] at hlength
    exact hne (List.length_eq_zero_iff.mp hlength.symm)
  obtain ⟨per_item_ms, hcall⟩ :=
    call_predict_batch_of_rows harrays hscores.loaded stats total_elapsed_ms hne hrows hrows_ne hwide
  rw [hscores.scores rows hrows_ne hwide] at hcall
  dsimp only at hcall
  have hitems : ∀ item ∈ readings.zip (rows.map score_row), in_range item.2 = true := by
    intro item hitem
    obtain ⟨row, hmem, hrow⟩ := List.mem_map.mp (List.of_mem_zip hitem).2
    rw [← hrow]
    exact hrange row hmem
  obtain ⟨predictions, stats', hresponses, hdecisions, hcounts⟩ :=
    respond_all app extractor' stats per_item_ms hitems
  rw [hresponses] at hcall
  rw [List.map_snd_zip (by rw [List.length_map, hlength])] at hcounts
  exact ⟨_, stats', hcall, hdecisions, hcounts⟩

/-- All requests are answered only if all scores are in range. -/
theorem in_range_of_predict_each (hscores : RowScores app score_row) {requests : List (PyFloat × TelemetryReading U T)}
    {extractor extractor' : FeatureExtractor PyFloat} {rows : List (List PyFloat)} {stats : Stats}
    {predictions : List PredictionResponse} {process : Process PyFloat}
    (hrows : (extract_rows app.libraries.arithmetic app.libraries.printer.str_uuid (requests.map Prod.snd)).call
      extractor = (.ok rows, extractor'))
    (h : (predict_each app requests).call (extractor, stats) = (.ok predictions, process)) :
    ∀ row ∈ rows, in_range (score_row row) = true := by
  induction requests generalizing extractor rows stats predictions with
  | nil =>
    cases hrows
    exact nofun
  | cons request rest ih =>
    obtain ⟨elapsed_ms, reading⟩ := request
    obtain ⟨row, mid, rows, rfl, hrow, hrest⟩ := extract_rows_cons hrows
    have hcall := call_predict_row hscores stats elapsed_ms hrow
    unfold predict_each at h
    rw [List.mapM_cons] at h
    by_cases hrange : in_range (score_row row) = true
    · have hitem : in_range (reading, score_row row).2 = true := hrange
      obtain ⟨prediction, hrespond, -⟩ := respond_of_in_range app mid stats elapsed_ms hitem
      rw [Raising.call_bind_ok (hcall.trans hrespond), Raising.call_bind] at h
      refine List.forall_mem_cons.mpr ⟨hrange, ?_⟩
      rcases hcalls : (rest.mapM fun (elapsed_ms, reading) => predict app elapsed_ms reading).call
          (mid, stats.counted elapsed_ms (app.settings.anomaly_threshold.lt (score_row row))) with
        ⟨e | predictions', process'⟩
      · rw [hcalls] at h
        cases h
      · rw [hcalls] at h
        cases h
        exact ih hrest hcalls
    · have hitem : in_range (reading, score_row row).2 = false := by simpa using hrange
      rw [Raising.call_bind_error (hcall.trans (respond_of_not_in_range app mid stats elapsed_ms hitem))] at h
      cases h

end Each

section Stream

variable {U T A : Type} {app : App U T PyFloat A} {moment : Moment U T PyFloat A}

theorem flagged_false (ids : List ℕ) {α : Type} (items : List α) : flagged ids (items.map fun _ => false) = [] := by
  unfold flagged
  rw [List.zip_map_right, List.filter_map]
  have hnone : (ids.zip items).filter (Prod.snd ∘ Prod.map id fun _ => false) = [] :=
    List.filter_eq_nil_iff.mpr fun _ _ => Bool.false_ne_true
  rw [hnone]
  rfl

theorem length_flagged_true (ids : List ℕ) {α : Type} (items : List α) :
    (flagged ids (items.map fun _ => true)).length = (ids.zip items).length := by
  unfold flagged
  rw [List.zip_map_right, List.filter_map, List.length_map, List.length_map]
  exact congrArg List.length (List.filter_eq_self.mpr fun _ _ => rfl)

/-- The alerts of a pipeline are for the entries that are not below the threshold. -/
theorem alerted_of_queue {libraries : Libraries U T PyFloat A} {settings : Settings} {parsed : List (Parsed U T PyFloat)}
    {scores : List PyFloat} {alerts : List Command} {ids : List ℕ}
    (h : anomaly_detector.queue_alerts libraries settings moment (parsed.zip scores) = .ok alerts) :
    alerted (alerts ++ [.xack ids]) =
      flagged (parsed.map Parsed.source) (scores.map fun score => !score.le settings.anomaly_threshold) := by
  have hexact := anomaly_detector.queue_alerts_exact h
  unfold flagged
  rw [List.zip_map, List.filter_map, List.map_map]
  change alerted (alerts ++ [.xack ids]) = ((parsed.zip scores).filter fun item =>
    !item.2.le settings.anomaly_threshold).map fun item => item.1.source
  unfold alerted
  rw [List.filterMap_append]
  refine (List.append_nil _).trans ?_
  clear h
  generalize (parsed.zip scores).filter (fun item => !item.2.le settings.anomaly_threshold) = items at hexact ⊢
  induction hexact with
  | nil => rfl
  | cons hhead _ ih =>
    obtain ⟨data, rfl, -⟩ := hhead
    exact congrArg₂ List.cons rfl ih

/-- The entries of well-formed readings are all well-formed. -/
theorem well_formed_of_readings {entries : List StreamEntry} {readings : List (TelemetryReading U T)}
    (stats : FeatureStats PyFloat)
    (hentries : entries.map (fun entry => from_stream_dict app.libraries.codec entry.2) = readings.map .ok)
    (hall : ∀ reading ∈ readings, extractable app.libraries.arithmetic stats reading = true) :
    anomaly_detector.well_formed app.libraries stats entries = (entries.map Prod.fst).zip readings := by
  induction entries generalizing readings with
  | nil => rfl
  | cons entry rest ih =>
    obtain ⟨entry_id, data⟩ := entry
    cases readings with
    | nil => cases hentries
    | cons reading readings =>
      obtain ⟨hhead, htail⟩ := List.cons.inj hentries
      obtain ⟨hgood, hgoods⟩ := List.forall_mem_cons.mp hall
      unfold anomaly_detector.well_formed
      rw [List.filterMap_cons]
      dsimp only at hhead ⊢
      rw [hhead]
      dsimp only
      rw [hgood, if_pos rfl]
      exact congrArg₂ List.cons rfl (ih htail hgoods)

/-- On scores in range, the detector comes to the decisions of the handlers exactly if it
can publish them. -/
theorem process_batch_agrees_iff {libraries : Libraries U T PyFloat A} (settings : Settings) {entries : List StreamEntry}
    {parsed : List (Parsed U T PyFloat)} {scores : List PyFloat}
    (hscores : anomaly_detector.Scores libraries moment (parsed.map Parsed.row) scores)
    (hids : parsed.map Parsed.source = entries.map Prod.fst) :
    (∃ scored commands, anomaly_detector.process_batch libraries settings moment entries parsed =
        .ok (scored, commands) ∧
      scored = (entries.map Prod.fst).zip scores ∧
      alerted commands = flagged (entries.map Prod.fst) (scores.map fun score => settings.anomaly_threshold.lt score)) ↔
      anomaly_detector.Publishable libraries settings moment ((parsed.map Parsed.entry).zip scores) := by
  have hflags : settings.anomaly_threshold ≠ .nan →
      (scores.map fun score => !score.le settings.anomaly_threshold) =
        scores.map fun score => settings.anomaly_threshold.lt score := by
    intro hthreshold
    refine List.map_congr_left fun score hscore => ?_
    have hnumber := anomaly_detector.ne_nan_of_le (hscores.score_ge score hscore)
    rw [anomaly_detector.le_eq_not_lt hnumber hthreshold, Bool.not_not]
  rw [anomaly_detector.publishable_iff hscores, ← hids]
  constructor
  · intro hagrees
    obtain ⟨scored, commands, hbatch, -, halerted⟩ := hagrees
    obtain ⟨-, alerts, rfl, hqueue⟩ := anomaly_detector.process_batch_exact hscores hbatch
    refine ⟨fun hne hnan => ?_, anomaly_detector.process_batch_ok_iff.mp ⟨_, hbatch⟩⟩
    rw [alerted_of_queue hqueue] at halerted
    simp only [hnan, anomaly_detector.le_nan, anomaly_detector.nan_lt, Bool.not_false] at halerted
    have hlength := length_flagged_true (parsed.map Parsed.source) scores
    rw [halerted, flagged_false, List.zip_map_left, List.length_map] at hlength
    exact hne (List.length_eq_zero_iff.mp hlength.symm)
  · intro h
    obtain ⟨hthreshold, hscorable⟩ := h
    obtain ⟨⟨scored, commands⟩, hbatch⟩ := anomaly_detector.process_batch_ok_iff.mpr hscorable
    obtain ⟨rfl, alerts, rfl, hqueue⟩ := anomaly_detector.process_batch_exact hscores hbatch
    refine ⟨_, _, hbatch, ?_, ?_⟩
    · rw [List.zip_map_left]
      rfl
    · rw [alerted_of_queue hqueue]
      by_cases hempty : parsed.zip scores = []
      · unfold flagged
        rw [List.zip_map, List.zip_map, hempty]
        rfl
      · rw [hflags (hthreshold hempty)]

/-- The detector's part of the agreement, on the entries of the readings. -/
theorem process_entries_agrees_iff (moment : Moment U T PyFloat A) (hfloats : app.libraries.arithmetic.Floats) {score_row : List PyFloat → PyFloat}
    (hscores : RowScores app score_row) {extractor extractor' : FeatureExtractor PyFloat} {entries : List StreamEntry}
    {readings : List (TelemetryReading U T)} {rows : List (List PyFloat)}
    (hall : ∀ reading ∈ readings, extractable app.libraries.arithmetic extractor.stats reading = true)
    (hentries : entries.map (fun entry => from_stream_dict app.libraries.codec entry.2) = readings.map .ok)
    (hrows : (extract_rows app.libraries.arithmetic app.libraries.printer.str_uuid readings).call extractor =
      (.ok rows, extractor'))
    (hwide : ∀ row ∈ rows, row.length = N_FEATURES) (hrange : ∀ row ∈ rows, in_range (score_row row) = true) :
    (∃ scored commands, process_entries app moment extractor entries = (.ok (scored, commands), extractor') ∧
      scored = (entries.map Prod.fst).zip (rows.map score_row) ∧
      alerted commands = flagged (entries.map Prod.fst)
        ((rows.map score_row).map fun score => app.settings.anomaly_threshold.lt score)) ↔
      anomaly_detector.Publishable app.libraries app.settings { moment with engine := app.engine }
        (((entries.map Prod.fst).zip readings).zip (rows.map score_row)) := by
  have hlengths : (entries.map Prod.fst).length = readings.length := by
    have hlength := congrArg List.length hentries
    rwa [List.length_map, List.length_map, ← List.length_map Prod.fst] at hlength
  obtain ⟨rows', hrows', hlength, hparse⟩ := anomaly_detector.parse_well_formed app.libraries hfloats extractor entries
  rw [well_formed_of_readings extractor.stats hentries hall] at hrows' hlength hparse
  rw [List.map_snd_zip hlengths.ge] at hrows'
  obtain ⟨hsame, hleft⟩ := Prod.mk.inj (hrows.symm.trans hrows')
  cases hsame
  have hentry := anomaly_detector.map_entry_with_row hlength
  have hrow := anomaly_detector.map_row_with_row hlength
  rw [← hparse] at hentry hrow
  have hids : (anomaly_detector.parse app.libraries extractor entries).1.map Parsed.source = entries.map Prod.fst := by
    have hfst := congrArg (List.map Prod.fst) hentry
    rwa [List.map_map, List.map_fst_zip hlengths.le] at hfst
  have hmodel : anomaly_detector.Scores app.libraries { moment with engine := app.engine }
      ((anomaly_detector.parse app.libraries extractor entries).1.map Parsed.row) (rows.map score_row) := by
    rw [hrow]
    refine ⟨fun hne => hscores.scores rows hne hwide, List.length_map _, fun score hscore => ?_, fun score hscore => ?_⟩
    all_goals
      obtain ⟨row, hmem, rfl⟩ := List.mem_map.mp hscore
      have hrange' := Bool.and_eq_true_iff.mp (hrange row hmem)
    · exact hrange'.1
    · exact hrange'.2
  have hbatch := process_batch_agrees_iff app.settings hmodel hids
  rw [hentry] at hbatch
  rw [← hbatch]
  unfold process_entries anomaly_detector.process_entries
  simp only [Prod.mk.injEq, hleft, and_true]

end Stream

/-- All scoring paths agree on well-formed readings exactly if the scores are in range, the
threshold compares with them, and the alerts that are due can be made. -/
theorem paths_agree_iff {U T A : Type} (app : App U T PyFloat A) (moment : Moment U T PyFloat A)
    (hfloats : app.libraries.arithmetic.Floats) (harrays : app.Arrays) (score_row : List PyFloat → PyFloat)
    (hscores : RowScores app score_row) (extractor : FeatureExtractor PyFloat) (stats : Stats)
    (requests : List (PyFloat × TelemetryReading U T)) (total_elapsed_ms : PyFloat) (entries : List StreamEntry)
    (hall : ∀ reading ∈ requests.map Prod.snd, extractable app.libraries.arithmetic extractor.stats reading = true)
    (hentries : entries.map (fun entry => from_stream_dict app.libraries.codec entry.2) =
      (requests.map Prod.snd).map .ok) :
    ∃ rows extractor', (extract_rows app.libraries.arithmetic app.libraries.printer.str_uuid
        (requests.map Prod.snd)).call extractor = (.ok rows, extractor') ∧
      (Agree app moment extractor extractor' stats requests total_elapsed_ms entries ↔
        (∀ row ∈ rows, in_range (score_row row) = true) ∧
          anomaly_detector.Publishable app.libraries app.settings { moment with engine := app.engine }
            (((entries.map Prod.fst).zip (requests.map Prod.snd)).zip (rows.map score_row))) := by
  obtain ⟨rows, hrows, hlength, hwide⟩ := extract_rows_of_extractable hfloats app.libraries.printer.str_uuid hall
  refine ⟨rows, _, hrows, ?_⟩
  by_cases hrange : ∀ row ∈ rows, in_range (score_row row) = true
  · obtain ⟨predictions, stats', heach, hdecisions, hcounts⟩ :=
      predict_each_of_in_range hscores stats hrows hrange
    have hstream := process_entries_agrees_iff moment hfloats hscores hall hentries hrows hwide hrange
    obtain ⟨hscored, hflags⟩ := scores_and_flags (by rw [List.length_map, hlength]) hdecisions
    rw [and_iff_right hrange, ← hstream, ← hflags, ← hscored]
    constructor
    · intro hagree
      obtain ⟨_, _, hcall, -, -, hdetector⟩ := hagree
      cases hcall.symm.trans heach
      exact hdetector
    · intro hdetector
      refine ⟨predictions, stats', heach, ?_, ?_, hdetector⟩
      · intro hnil
        subst hnil
        cases heach
        rw [List.map_nil, call_predict_batch_nil hscores.loaded]
        rfl
      · intro hne
        obtain ⟨batch, stats'', hbatch, hsame, hcount⟩ := predict_batch_of_in_range harrays hscores
          (by simpa using hne) stats total_elapsed_ms hrows hlength hwide hrange
        exact ⟨batch, stats'', hbatch, hsame.trans hdecisions.symm, hcount.trans hcounts.symm⟩
  · refine iff_of_false (fun hagree => hrange ?_) fun h => hrange h.1
    obtain ⟨predictions, stats', heach, -⟩ := hagree
    exact in_range_of_predict_each hscores hrows heach

/-- The handlers with the model and the libraries that the detector has. -/
def sample_app : App String String PyFloat (List PyFloat) where
  libraries := anomaly_detector.float_libraries
  concatenate arrays := .ok arrays.flatten
  settings := anomaly_detector.sample_settings
  engine := anomaly_detector.sample_engine

theorem sample_app_arrays : sample_app.Arrays where
  asarray row _ := ⟨_, rfl⟩
  concatenate rows arrays _ _ harrays := by
    have hsame : rows.mapM (fun row => sample_app.libraries.asarray_float32 [row]) = .ok rows := by
      have hrow : (fun row => sample_app.libraries.asarray_float32 [row]) = fun row => (pure (id row) : Except PyExc _) := by
        funext row
        exact congrArg Except.ok (List.append_nil row)
      rw [hrow, List.mapM_pure, List.map_id]
      rfl
    cases hsame.symm.trans harrays
    rfl

def sample_process : Process PyFloat :=
  (.new 10 Dict.empty, { inference_count := 0, total_latency_ms := .finite 0, anomaly_count := 0 })

/-- The model gives every row the score 0.75. -/
theorem sample_app_scores (settings : Settings) :
    RowScores { sample_app with settings } fun _ => .finite (3 / 4) where
  loaded := Option.some_ne_none _
  scores rows _ hwide := by
    have hlength : rows.flatten.length / 7 = rows.length := by
      have hsum : (rows.map List.length).sum = rows.length * 7 := by
        rw [List.map_congr_left hwide, List.map_const', List.sum_replicate]
        rfl
      rw [List.length_flatten, hsum, Nat.mul_div_cancel _ (by decide)]
    have hscore : PyFloat.finite (3 / (3 + 1)) = .finite (3 / 4) := by norm_num
    refine congrArg Except.ok ?_
    change List.zipWith _ (List.replicate (rows.flatten.length / 7) (PyFloat.finite 3))
      ((List.replicate (rows.flatten.length / 7) (PyFloat.finite 3)).map _) = _
    rw [hlength, List.map_replicate, List.zipWith_replicate', List.map_const', ← hscore]
    rfl

/-- The reading of `sample_data`. -/
def sample_request : PyFloat × TelemetryReading String String :=
  (.finite 2,
    { device_id := "0f8fad5b-d9cb-469f-a165-70867728950e", device_type := "sensor", timestamp := "2025-01-01T00:00:00",
      payload := [("level", .int 1)], metadata := [] })

theorem paths_agree_sample :
    ∃ extractor', Agree sample_app (anomaly_detector.float_moment (.str "1.0")) sample_process.1 extractor'
      sample_process.2 [sample_request] (.finite 1) [(1, sample_data)] := by
  obtain ⟨rows, extractor', -, hiff⟩ := paths_agree_iff sample_app (anomaly_detector.float_moment (.str "1.0"))
    binary64_floats sample_app_arrays _ (sample_app_scores anomaly_detector.sample_settings) sample_process.1
    sample_process.2 [sample_request] (.finite 1) [(1, sample_data)] (by decide +kernel) rfl
  refine ⟨extractor', hiff.mpr ⟨fun _ _ => by decide +kernel, fun _ => nofun, fun _ _ _ => ⟨"1.0", rfl⟩,
    fun _ _ _ => ⟨_, rfl⟩⟩⟩

/-- A NaN for a threshold: the handlers call a reading normal that the detector alerts. -/
theorem nan_threshold_disagrees :
    ¬ ∃ extractor', Agree { sample_app with settings := { anomaly_detector.sample_settings with anomaly_threshold := .nan } }
      (anomaly_detector.float_moment (.str "1.0")) sample_process.1 extractor' sample_process.2 [sample_request]
      (.finite 1) [(1, sample_data)] := by
  intro hagree
  obtain ⟨extractor', predictions, stats', hcall, -, -, scored, commands, hbatch, -, halerted⟩ := hagree
  have hnormal : ((predict_each { sample_app with
      settings := { anomaly_detector.sample_settings with anomaly_threshold := .nan } } [sample_request]).call
        sample_process).1.toOption.map (List.map PredictionResponse.is_anomaly) = some [false] := by
    decide +kernel
  have halert : (process_entries { sample_app with
      settings := { anomaly_detector.sample_settings with anomaly_threshold := .nan } }
        (anomaly_detector.float_moment (.str "1.0")) sample_process.1 [(1, sample_data)]).1.toOption.map
          (fun result => alerted result.2) = some [1] := by
    decide +kernel
  rw [hbatch] at halert
  have hflags : predictions.map PredictionResponse.is_anomaly = [false] := by
    have hcall' := congrArg (fun outcome => outcome.1.toOption.map (List.map PredictionResponse.is_anomaly)) hcall
    exact Option.some.inj (hcall'.symm.trans hnormal)
  have hone : alerted commands = [1] := Option.some.inj halert
  rw [hone, hflags] at halerted
  cases halerted

end gateway.inference
