import EdgeGateway.MlInference.Inference.Agreement

open gateway.telemetry gateway.feature_extractor gateway.inference_engine

namespace gateway.inference

/-- What a request can leave behind: the window of each device, and the counters. -/
def trace {F : Type} (process : Process F) : (String → List (F × F)) × Stats := (process.1.window, process.2)

section Definitions

variable {U T A : Type} (app : App U T PyFloat A) (extractor : FeatureExtractor PyFloat)

/-- The windows are the same with the values of the readings, up to the first one that
cannot be extracted. -/
def Absorbed (readings : List (TelemetryReading U T)) : Prop :=
  ∀ device_key, (fed_values app.libraries.arithmetic app.libraries.printer.str_uuid extractor.stats device_key
    readings).foldl (append extractor.window_size) (extractor.window device_key) = extractor.window device_key

/-- A row of the reading has a valid score, or has none and left the windows as they were. -/
def PredictTraceless (reading : TelemetryReading U T) : Prop :=
  app.engine.session ≠ none → ∀ row,
    ((extract_row app.libraries.arithmetic app.libraries.printer.str_uuid reading).call extractor).1 = .ok row →
      match scores_of app [row] >>= first with
      | .error _ => Absorbed app extractor [reading]
      | .ok score => in_range score = true

/-- The same of a batch, which in addition may have readings that cannot be extracted. -/
def BatchTraceless (readings : List (TelemetryReading U T)) : Prop :=
  app.engine.session ≠ none → readings ≠ [] →
    match ((extract_rows app.libraries.arithmetic app.libraries.printer.str_uuid readings).call extractor).1 with
    | .error _ => Absorbed app extractor readings
    | .ok rows =>
      match scores_of app rows with
      | .error _ => Absorbed app extractor readings
      | .ok scores => ∀ item ∈ readings.zip scores, in_range item.2 = true

end Definitions

section Traces

variable {U T A : Type} {app : App U T PyFloat A} {extractor : FeatureExtractor PyFloat} {stats : Stats}

theorem absorbed_iff {readings : List (TelemetryReading U T)} :
    Absorbed app extractor readings ↔
      (extractor.fed app.libraries.arithmetic app.libraries.printer.str_uuid readings).window = extractor.window := by
  unfold Absorbed
  rw [funext_iff]
  refine forall_congr' fun device_key => ?_
  rw [window_fed]

/-- A request that fails before anything is counted has left the windows. -/
theorem failsCleanly_of_error {α : Type} {x : Raising (Process PyFloat) Failure α} {e : Failure}
    {extractor' : FeatureExtractor PyFloat} (h : x.call (extractor, stats) = (.error e, (extractor', stats))) :
    x.FailsCleanly trace (extractor, stats) ↔ extractor'.window = extractor.window := by
  unfold Raising.FailsCleanly trace
  rw [h]
  constructor
  · exact fun hclean => congrArg Prod.fst (hclean e rfl)
  · exact fun hwindow _ _ => congrArg₂ Prod.mk hwindow rfl

/-- A request that fails after something was counted has left a trace. -/
theorem not_failsCleanly_of_counted {α : Type} {x : Raising (Process PyFloat) Failure α} {e : Failure}
    {extractor' : FeatureExtractor PyFloat} {stats' : Stats}
    (h : x.call (extractor, stats) = (.error e, (extractor', stats')))
    (hcounted : stats.inference_count < stats'.inference_count) : ¬ x.FailsCleanly trace (extractor, stats) := by
  unfold Raising.FailsCleanly trace
  rw [h]
  intro hclean
  have hstats : stats' = stats := congrArg Prod.snd (hclean e rfl)
  rw [hstats] at hcounted
  exact lt_irrefl _ hcounted

/-- One window that differs is a trace. -/
theorem not_failsCleanly_of_window {α : Type} {x : Raising (Process PyFloat) Failure α} {process : Process PyFloat}
    (device_key : String) (hraised : (x.call process).1.isOk = false)
    (hwindow : (x.call process).2.1.window device_key ≠ process.1.window device_key) :
    ¬ x.FailsCleanly trace process := by
  unfold Raising.FailsCleanly trace
  intro hclean
  cases houtcome : (x.call process).1 with
  | error e => exact hwindow (congrFun (congrArg Prod.fst (hclean e houtcome)) device_key)
  | ok a =>
    rw [houtcome] at hraised
    cases hraised

theorem predict_failsCleanly_iff (hfloats : app.libraries.arithmetic.Floats) (elapsed_ms : PyFloat)
    (reading : TelemetryReading U T) (extractor : FeatureExtractor PyFloat) (stats : Stats) :
    (predict app elapsed_ms reading).FailsCleanly trace (extractor, stats) ↔
      PredictTraceless app extractor reading := by
  unfold PredictTraceless
  by_cases hsession : app.engine.session = none
  · refine iff_of_true (.of_view_eq ?_) fun hloaded => absurd hsession hloaded
    rw [call_predict_unloaded hsession]
  · cases hvalue : extracted_value app.libraries.arithmetic extractor.stats reading with
    | error e =>
      have hrow := extract_row_of_error app.libraries.printer.str_uuid hvalue
      refine iff_of_true ?_ fun _ row h => ?_
      · exact (failsCleanly_of_error (call_predict_of_error hsession elapsed_ms hrow)).mpr rfl
      · rw [hrow] at h
        cases h
    | ok value =>
      obtain ⟨row, hrow⟩ := extract_row_of_ok hfloats app.libraries.printer.str_uuid hvalue
      have hfed : extractor.fed app.libraries.arithmetic app.libraries.printer.str_uuid [reading] =
          extractor.appended (app.libraries.printer.str_uuid reading.device_id) value := by
        unfold FeatureExtractor.fed
        rw [hvalue]
        rfl
      have hcall := call_predict_of_row hsession stats elapsed_ms hrow
      rw [hrow]
      simp only [ne_eq, hsession, not_false_eq_true, forall_const, Except.ok.injEq, forall_eq']
      cases hscore : scores_of app [row] >>= first with
      | error e =>
        rw [hscore] at hcall
        dsimp only
        rw [failsCleanly_of_error hcall, absorbed_iff, hfed]
      | ok score =>
        rw [hscore] at hcall
        dsimp only
        by_cases hrange : in_range score = true
        · have hitem : in_range (reading, score).2 = true := hrange
          obtain ⟨prediction, hrespond, -⟩ := respond_of_in_range app
            (extractor.appended (app.libraries.printer.str_uuid reading.device_id) value) stats elapsed_ms hitem
          refine iff_of_true (.of_ok (a := prediction) ?_) hrange
          rw [hcall]
          exact congrArg Prod.fst hrespond
        · have hitem : in_range (reading, score).2 = false := by simpa using hrange
          have hrespond := respond_of_not_in_range app
            (extractor.appended (app.libraries.printer.str_uuid reading.device_id) value) stats elapsed_ms hitem
          refine iff_of_false (not_failsCleanly_of_counted (hcall.trans hrespond) ?_) hrange
          exact Nat.lt_succ_self _

theorem predict_batch_failsCleanly_iff (hfloats : app.libraries.arithmetic.Floats) (harrays : app.Arrays)
    (total_elapsed_ms : PyFloat) (readings : List (TelemetryReading U T)) (extractor : FeatureExtractor PyFloat)
    (stats : Stats) :
    (predict_batch app total_elapsed_ms readings).FailsCleanly trace (extractor, stats) ↔
      BatchTraceless app extractor readings := by
  unfold BatchTraceless
  by_cases hsession : app.engine.session = none
  · refine iff_of_true (.of_view_eq ?_) fun hloaded => absurd hsession hloaded
    rw [call_predict_batch_unloaded hsession]
  by_cases hne : readings = []
  · subst hne
    refine iff_of_true (.of_view_eq ?_) fun _ hne => absurd rfl hne
    rw [call_predict_batch_nil hsession]
  simp only [ne_eq, hsession, not_false_eq_true, forall_const, hne]
  by_cases hall : ∀ reading ∈ readings, extractable app.libraries.arithmetic extractor.stats reading = true
  · obtain ⟨rows, hrows, hlength, hwide⟩ :=
      extract_rows_of_extractable hfloats app.libraries.printer.str_uuid hall
    have hrows_ne : rows ≠ [] := by
      intro hnil
      rw [hnil, List.length_nil] at hlength
      exact hne (List.length_eq_zero_iff.mp hlength.symm)
    obtain ⟨per_item_ms, hcall⟩ :=
      call_predict_batch_of_rows harrays hsession stats total_elapsed_ms hne hrows hrows_ne hwide
    rw [hrows]
    dsimp only
    cases hscores : scores_of app rows with
    | error e =>
      rw [hscores] at hcall
      dsimp only
      rw [failsCleanly_of_error hcall, absorbed_iff]
    | ok scores =>
      rw [hscores] at hcall
      dsimp only at hcall ⊢
      by_cases hrange : ∀ item ∈ readings.zip scores, in_range item.2 = true
      · obtain ⟨predictions, stats', hresponses, -⟩ := respond_all app
          (extractor.fed app.libraries.arithmetic app.libraries.printer.str_uuid readings) stats per_item_ms hrange
        rw [hresponses] at hcall
        exact iff_of_true (.of_ok (congrArg Prod.fst hcall)) hrange
      · have hsome : ∃ item ∈ readings.zip scores, in_range item.2 = false := by simpa using hrange
        obtain ⟨e, stats', hresponses, hcounted⟩ := respond_some app
          (extractor.fed app.libraries.arithmetic app.libraries.printer.str_uuid readings) stats per_item_ms hsome
        rw [hresponses] at hcall
        exact iff_of_false (not_failsCleanly_of_counted hcall hcounted) hrange
  · have hsome : ∃ reading ∈ readings, extractable app.libraries.arithmetic extractor.stats reading = false := by
      simpa using hall
    obtain ⟨e, hrows⟩ := extract_rows_of_not_extractable hfloats app.libraries.printer.str_uuid hsome
    rw [hrows]
    dsimp only
    rw [failsCleanly_of_error (call_predict_batch_of_error harrays hsession stats total_elapsed_ms hne hrows),
      absorbed_iff]

end Traces

/-- A temperature sensor's reading. -/
def sample_reading (celsius : JsonValue) : TelemetryReading String String where
  device_id := "0f8fad5b-d9cb-469f-a165-70867728950e"
  device_type := "temperature_sensor"
  timestamp := "2025-01-01T00:00:00"
  payload := [("temperature_celsius", celsius), ("humidity_percent", .int 50)]
  metadata := []

/-- A model that fails on every input. -/
def broken_app : App String String PyFloat (List PyFloat) :=
  { sample_app with
    engine :=
      { anomaly_detector.sample_engine with
        session := some { id := 0, model := { inputs := ["features"], run := fun _ _ => .error .LibraryError } } } }

end gateway.inference
