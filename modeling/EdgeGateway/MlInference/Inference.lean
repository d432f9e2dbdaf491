import EdgeGateway.Library.PyRound
import EdgeGateway.MlInference.AnomalyDetector
import EdgeGateway.MlInference.FeatureExtractor.Extraction

open gateway.telemetry gateway.feature_extractor gateway.inference_engine
open gateway.anomaly_detector (Libraries Settings)

namespace gateway.inference

/-- A request fails with an `HTTPException`, or with some other exception. -/
inductive Failure where
  | http (status_code : ℕ) (detail : String)
  | exception (e : PyExc)
  deriving DecidableEq

/-- In-memory stats counters. -/
structure Stats where
  inference_count : ℕ
  total_latency_ms : PyFloat
  anomaly_count : ℕ
  deriving DecidableEq

/-- Response for a single prediction request, with a score in [0, 1]. -/
structure PredictionResponse where
  device_id : String
  anomaly_score : PyFloat
  is_anomaly : Bool
  latency_ms : PyFloat
  in_range : PyFloat.le (.finite 0) anomaly_score = true ∧ PyFloat.le anomaly_score (.finite 1) = true

structure BatchPredictionResponse where
  predictions : List PredictionResponse
  total_latency_ms : PyFloat

/-- What the handlers find in the state of the application, and the libraries they use. -/
structure App (U T F A : Type) where
  libraries : Libraries U T F A
  concatenate : List A → Except PyExc A
  settings : Settings
  engine : InferenceEngine A

/-- What requests change: the shared extractor, and the counters. -/
abbrev Process (F : Type) := FeatureExtractor F × Stats

/-- `round(x, 3)`. -/
def round_3 : PyFloat → PyFloat
  | .finite q => PyFloat.ofRat PyFloat.binary64 (PyRound.round q 3)
  | x => x

/-- A prediction with a score out of range is not valid. -/
def PredictionResponse.new (device_id : String) (anomaly_score : PyFloat) (is_anomaly : Bool) (latency_ms : PyFloat) :
    Except PyExc PredictionResponse :=
  if h : PyFloat.le (.finite 0) anomaly_score = true ∧ PyFloat.le anomaly_score (.finite 1) = true then
    .ok { device_id, anomaly_score, is_anomaly, latency_ms, in_range := h }
  else .error .LibraryError

/-- The counters after one more prediction. -/
def Stats.counted (stats : Stats) (latency_ms : PyFloat) (is_anomaly : Bool) : Stats where
  inference_count := stats.inference_count + 1
  total_latency_ms := stats.total_latency_ms.add latency_ms
  anomaly_count := if is_anomaly then stats.anomaly_count + 1 else stats.anomaly_count

section Handlers

variable {U T F A α : Type} (app : App U T F A)

/-- A call that works on the extractor only. -/
def on_extractor (x : Raising (FeatureExtractor F) PyExc α) : Raising (Process F) Failure α :=
  fun (extractor, stats) =>
    let (outcome, extractor) := x.call extractor
    (outcome.mapError .exception, (extractor, stats))

/-- A call that changes nothing. -/
def attempt (outcome : Except PyExc α) : Raising (Process F) Failure α :=
  liftM (outcome.mapError Failure.exception)

def count (latency_ms : PyFloat) (is_anomaly : Bool) : Raising (Process F) Failure Unit :=
  modify fun (extractor, stats) => (extractor, stats.counted latency_ms is_anomaly)

/-- Extract features as an array of one row. -/
def extract (reading : TelemetryReading U T) : Raising (FeatureExtractor F) PyExc A := do
  let row ← extract_row app.libraries.arithmetic app.libraries.printer.str_uuid reading
  app.libraries.asarray_float32 [row]

/-- `scores[0]`. -/
def first : List PyFloat → Except PyExc PyFloat
  | [] => .error .IndexError
  | score :: _ => .ok score

/-- Run synchronous inference on a single telemetry reading. -/
def predict (elapsed_ms : PyFloat) (reading : TelemetryReading U T) :
    Raising (Process F) Failure PredictionResponse := do
  if app.engine.session.isNone then throw (.http 503 "No model loaded")
  let features ← on_extractor (extract app reading)
  let scores ← attempt (score app.libraries.numpy app.engine features)
  let anomaly_score ← attempt (first (app.libraries.tolist scores))
  let is_anomaly := app.settings.anomaly_threshold.lt anomaly_score
  count elapsed_ms is_anomaly
  attempt (PredictionResponse.new (app.libraries.printer.str_uuid reading.device_id) anomaly_score is_anomaly (round_3 elapsed_ms))

/-- One turn of the loop over the scores of a batch. -/
def respond (per_item_ms : PyFloat) (item : TelemetryReading U T × PyFloat) :
    Raising (Process F) Failure PredictionResponse := do
  let (reading, anomaly_score) := item
  let is_anomaly := app.settings.anomaly_threshold.lt anomaly_score
  count per_item_ms is_anomaly
  attempt (PredictionResponse.new (app.libraries.printer.str_uuid reading.device_id) anomaly_score is_anomaly (round_3 per_item_ms))

/-- `total_elapsed_ms / len(readings)`. -/
def per_item (total_elapsed_ms : PyFloat) (length : ℕ) : Except PyExc PyFloat :=
  match total_elapsed_ms.div (.finite length) with
  | some per_item_ms => .ok per_item_ms
  | none => .error .ZeroDivisionError

/-- Run batch inference on multiple telemetry readings. -/
def predict_batch (total_elapsed_ms : PyFloat) (readings : List (TelemetryReading U T)) :
    Raising (Process F) Failure BatchPredictionResponse := do
  if app.engine.session.isNone then throw (.http 503 "No model loaded")
  if readings.isEmpty then throw (.http 400 "Empty batch")
  let arrays ← on_extractor (readings.mapM (extract app))
  let features ← attempt (app.concatenate arrays)
  let scores ← attempt (score app.libraries.numpy app.engine features)
  let per_item_ms ← attempt (per_item total_elapsed_ms readings.length)
  let predictions ← (readings.zip (app.libraries.tolist scores)).mapM (respond app per_item_ms)
  return { predictions, total_latency_ms := round_3 total_elapsed_ms }

end Handlers

section Calls

variable {U T F A α : Type} {app : App U T F A} {extractor : FeatureExtractor F} {stats : Stats}

/-- What NumPy makes of rows: an array of each, which put together are the array of all. -/
structure App.Arrays (app : App U T F A) : Prop where
  asarray : ∀ row, row.length = N_FEATURES → ∃ array, app.libraries.asarray_float32 [row] = .ok array
  concatenate : ∀ rows arrays, rows ≠ [] → (∀ row ∈ rows, row.length = N_FEATURES) →
    rows.mapM (fun row => app.libraries.asarray_float32 [row]) = .ok arrays →
      app.concatenate arrays = app.libraries.asarray_float32 rows

/-- `self._engine.score(np.asarray(rows, dtype=np.float32)).tolist()`. -/
def scores_of (app : App U T F A) (rows : List (List F)) : Except PyExc (List PyFloat) := do
  let scores ← score app.libraries.numpy app.engine (← app.libraries.asarray_float32 rows)
  return app.libraries.tolist scores

theorem scores_of_eq (rows : List (List F)) :
    scores_of app rows =
      match app.libraries.asarray_float32 rows with
      | .error e => .error e
      | .ok features => (score app.libraries.numpy app.engine features).map app.libraries.tolist := by
  unfold scores_of
  cases app.libraries.asarray_float32 rows with
  | error e => rfl
  | ok features =>
    dsimp only
    cases hscore : score app.libraries.numpy app.engine features with
    | error e => exact congrArg (· >>= fun scores => pure (app.libraries.tolist scores)) hscore
    | ok scores => exact congrArg (· >>= fun scores => pure (app.libraries.tolist scores)) hscore

theorem call_attempt_bind {β : Type} (outcome : Except PyExc α) (rest : α → Raising (Process F) Failure β)
    (process : Process F) :
    (attempt outcome >>= rest).call process =
      match outcome with
      | .error e => (.error (.exception e), process)
      | .ok a => (rest a).call process := by
  cases outcome <;> rfl

theorem call_on_extractor (x : Raising (FeatureExtractor F) PyExc α) :
    (on_extractor x).call (extractor, stats) =
      ((x.call extractor).1.mapError .exception, ((x.call extractor).2, stats)) := rfl

theorem call_on_extractor_bind {β : Type} (x : Raising (FeatureExtractor F) PyExc α)
    (rest : α → Raising (Process F) Failure β) :
    (on_extractor x >>= rest).call (extractor, stats) =
      match x.call extractor with
      | (.error e, extractor') => (.error (.exception e), (extractor', stats))
      | (.ok a, extractor') => (rest a).call (extractor', stats) := by
  rw [Raising.call_bind, call_on_extractor]
  rcases x.call extractor with ⟨_ | _, _⟩ <;> rfl

theorem call_respond (per_item_ms score : PyFloat) (reading : TelemetryReading U T) :
    (respond app per_item_ms (reading, score)).call (extractor, stats) =
      ((PredictionResponse.new (app.libraries.printer.str_uuid reading.device_id) score
          (app.settings.anomaly_threshold.lt score) (round_3 per_item_ms)).mapError .exception,
        (extractor, stats.counted per_item_ms (app.settings.anomaly_threshold.lt score))) := rfl

/-- Without a model nothing is done. -/
theorem call_predict_unloaded (hsession : app.engine.session = none) (elapsed_ms : PyFloat)
    (reading : TelemetryReading U T) (process : Process F) :
    (predict app elapsed_ms reading).call process = (.error (.http 503 "No model loaded"), process) := by
  unfold predict
  rw [hsession]
  rfl

theorem call_predict_batch_unloaded (hsession : app.engine.session = none) (total_elapsed_ms : PyFloat)
    (readings : List (TelemetryReading U T)) (process : Process F) :
    (predict_batch app total_elapsed_ms readings).call process = (.error (.http 503 "No model loaded"), process) := by
  unfold predict_batch
  rw [hsession]
  rfl

theorem call_predict_batch_nil (hsession : app.engine.session ≠ none) (total_elapsed_ms : PyFloat)
    (process : Process F) :
    (predict_batch app total_elapsed_ms []).call process = (.error (.http 400 "Empty batch"), process) := by
  obtain ⟨session, hsome⟩ := Option.ne_none_iff_exists'.mp hsession
  unfold predict_batch
  rw [hsome]
  rfl

theorem call_predict_of_error (hsession : app.engine.session ≠ none) (elapsed_ms : PyFloat)
    {reading : TelemetryReading U T} {e : PyExc} {extractor' : FeatureExtractor F}
    (hrow : (extract_row app.libraries.arithmetic app.libraries.printer.str_uuid reading).call extractor =
      (.error e, extractor')) :
    (predict app elapsed_ms reading).call (extractor, stats) = (.error (.exception e), (extractor', stats)) := by
  obtain ⟨session, hsome⟩ := Option.ne_none_iff_exists'.mp hsession
  have hextract : (extract app reading).call extractor = (.error e, extractor') := Raising.call_bind_error hrow
  unfold predict
  rw [hsome]
  refine (call_on_extractor_bind _ _).trans ?_
  rw [hextract]

/-- A reading with a row: what the model makes of it, and what that leaves. -/
theorem call_predict_of_row (hsession : app.engine.session ≠ none) (stats : Stats) (elapsed_ms : PyFloat)
    {reading : TelemetryReading U T} {row : List F} {extractor' : FeatureExtractor F}
    (hrow : (extract_row app.libraries.arithmetic app.libraries.printer.str_uuid reading).call extractor =
      (.ok row, extractor')) :
    (predict app elapsed_ms reading).call (extractor, stats) =
      match scores_of app [row] >>= first with
      | .error e => (.error (.exception e), (extractor', stats))
      | .ok score => (respond app elapsed_ms (reading, score)).call (extractor', stats) := by
  obtain ⟨session, hsome⟩ := Option.ne_none_iff_exists'.mp hsession
  have hextract : (extract app reading).call extractor = (app.libraries.asarray_float32 [row], extractor') :=
    Raising.call_bind_ok hrow
  unfold predict
  rw [hsome]
  refine (call_on_extractor_bind _ _).trans ?_
  rw [hextract, scores_of_eq]
  cases app.libraries.asarray_float32 [row] with
  | error e => rfl
  | ok features =>
    refine (call_attempt_bind _ _ _).trans ?_
    dsimp only
    cases score app.libraries.numpy app.engine features with
    | error e => rfl
    | ok scores =>
      refine (call_attempt_bind _ _ _).trans ?_
      change _ = match first (app.libraries.tolist scores) with
        | .error e => (Except.error (Failure.exception e), (extractor', stats))
        | .ok score => (respond app elapsed_ms (reading, score)).call (extractor', stats)
      cases first (app.libraries.tolist scores) <;> rfl

/-- The arrays of a batch are those of its rows. -/
theorem call_extract_arrays (harrays : app.Arrays) (readings : List (TelemetryReading U T))
    (extractor : FeatureExtractor F) :
    ∃ outcome, (readings.mapM (extract app)).call extractor =
        (outcome, ((extract_rows app.libraries.arithmetic app.libraries.printer.str_uuid readings).call extractor).2) ∧
      match ((extract_rows app.libraries.arithmetic app.libraries.printer.str_uuid readings).call extractor).1 with
      | .error e => outcome = .error e
      | .ok rows => ∃ arrays, outcome = .ok arrays ∧
          rows.mapM (fun row => app.libraries.asarray_float32 [row]) = .ok arrays := by
  unfold extract_rows
  induction readings generalizing extractor with
  | nil => exact ⟨_, rfl, [], rfl, rfl⟩
  | cons reading rest ih =>
    rw [List.mapM_cons, List.mapM_cons]
    rcases hrow : (extract_row app.libraries.arithmetic app.libraries.printer.str_uuid reading).call extractor with
      ⟨e | row, extractor'⟩
    · have hextract : (extract app reading).call extractor = (.error e, extractor') := Raising.call_bind_error hrow
      rw [Raising.call_bind_error hrow, Raising.call_bind_error hextract]
      exact ⟨_, rfl, rfl⟩
    · obtain ⟨array, harray⟩ := harrays.asarray row (length_of_extract_row hrow)
      have hextract : (extract app reading).call extractor = (.ok array, extractor') := by
        refine (Raising.call_bind_ok hrow).trans ?_
        rw [Raising.call_lift, harray]
      rw [Raising.call_bind_ok hrow, Raising.call_bind_ok hextract, Raising.call_bind, Raising.call_bind]
      obtain ⟨outcome, hcall, houtcome⟩ := ih extractor'
      rw [hcall]
      rcases hrest : (rest.mapM (extract_row app.libraries.arithmetic app.libraries.printer.str_uuid)).call extractor' with
        ⟨e | rows, extractor''⟩ <;> rw [hrest] at houtcome
      · obtain rfl : outcome = .error e := houtcome
        exact ⟨_, rfl, rfl⟩
      · obtain ⟨arrays, rfl, harrays⟩ := houtcome
        refine ⟨_, rfl, array :: arrays, rfl, ?_⟩
        rw [List.mapM_cons, harray, harrays]
        rfl

theorem call_predict_batch_of_error (harrays : app.Arrays) (hsession : app.engine.session ≠ none) (stats : Stats)
    (total_elapsed_ms : PyFloat) {readings : List (TelemetryReading U T)} (hne : readings ≠ []) {e : PyExc}
    {extractor' : FeatureExtractor F}
    (hrows : (extract_rows app.libraries.arithmetic app.libraries.printer.str_uuid readings).call extractor =
      (.error e, extractor')) :
    (predict_batch app total_elapsed_ms readings).call (extractor, stats) =
      (.error (.exception e), (extractor', stats)) := by
  obtain ⟨session, hsome⟩ := Option.ne_none_iff_exists'.mp hsession
  obtain ⟨outcome, hcall, houtcome⟩ := call_extract_arrays harrays readings extractor
  rw [hrows] at hcall houtcome
  obtain rfl : outcome = .error e := houtcome
  obtain ⟨reading, rest, rfl⟩ := List.exists_cons_of_ne_nil hne
  unfold predict_batch
  rw [hsome]
  refine (call_on_extractor_bind _ _).trans ?_
  rw [hcall]

/-- A batch with rows: what the model makes of them, and what that leaves. -/
theorem call_predict_batch_of_rows (harrays : app.Arrays) (hsession : app.engine.session ≠ none) (stats : Stats)
    (total_elapsed_ms : PyFloat) {readings : List (TelemetryReading U T)} (hne : readings ≠ []) {rows : List (List F)}
    {extractor' : FeatureExtractor F}
    (hrows : (extract_rows app.libraries.arithmetic app.libraries.printer.str_uuid readings).call extractor =
      (.ok rows, extractor'))
    (hrows_ne : rows ≠ []) (hwide : ∀ row ∈ rows, row.length = N_FEATURES) :
    ∃ per_item_ms, (predict_batch app total_elapsed_ms readings).call (extractor, stats) =
      match scores_of app rows with
      | .error e => (.error (.exception e), (extractor', stats))
      | .ok scores =>
        match ((readings.zip scores).mapM (respond app per_item_ms)).call (extractor', stats) with
        | (.error e, process) => (.error e, process)
        | (.ok predictions, process) =>
          (.ok { predictions, total_latency_ms := round_3 total_elapsed_ms }, process) := by
  obtain ⟨session, hsome⟩ := Option.ne_none_iff_exists'.mp hsession
  obtain ⟨outcome, hcall, houtcome⟩ := call_extract_arrays harrays readings extractor
  rw [hrows] at hcall houtcome
  obtain ⟨arrays, rfl, harrays'⟩ := houtcome
  have hconcatenate := harrays.concatenate rows arrays hrows_ne hwide harrays'
  obtain ⟨reading, rest, rfl⟩ := List.exists_cons_of_ne_nil hne
  have hlength : (PyFloat.finite ((reading :: rest).length : ℕ)) ≠ .finite 0 := by
    simp only [List.length_cons, ne_eq, PyFloat.finite.injEq, Nat.cast_eq_zero]
    omega
  obtain ⟨per_item_ms, hdiv⟩ := div_eq_some (a := total_elapsed_ms) hlength
  have hper_item : per_item total_elapsed_ms (reading :: rest).length = .ok per_item_ms := by
    unfold per_item
    rw [hdiv]
  refine ⟨per_item_ms, ?_⟩
  unfold predict_batch
  rw [hsome]
  refine (call_on_extractor_bind _ _).trans ?_
  rw [hcall, scores_of_eq]
  dsimp only
  refine (call_attempt_bind _ _ _).trans ?_
  rw [hconcatenate]
  cases app.libraries.asarray_float32 rows with
  | error e => rfl
  | ok features =>
    refine (call_attempt_bind _ _ _).trans ?_
    dsimp only
    cases score app.libraries.numpy app.engine features with
    | error e => rfl
    | ok scores =>
      refine (call_attempt_bind _ _ _).trans ?_
      rw [hper_item]
      dsimp only [Except.map]
      rw [Raising.call_bind]
      rcases (((reading :: rest).zip (app.libraries.tolist scores)).mapM (respond app per_item_ms)).call
        (extractor', stats) with ⟨_ | _, _⟩ <;> rfl

end Calls

end gateway.inference
