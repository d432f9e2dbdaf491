import EdgeGateway.MlInference.Inference

open gateway.telemetry gateway.feature_extractor gateway.inference_engine

namespace gateway.inference

section Responses

variable {U T F A : Type} {app : App U T F A}

def in_range (score : PyFloat) : Bool := PyFloat.le (.finite 0) score && PyFloat.le score (.finite 1)

/-- What a prediction says about its reading. -/
def PredictionResponse.decision (prediction : PredictionResponse) : String × PyFloat × Bool :=
  (prediction.device_id, prediction.anomaly_score, prediction.is_anomaly)

/-- The counters other than the latency. -/
def Stats.counts (stats : Stats) : ℕ × ℕ := (stats.inference_count, stats.anomaly_count)

theorem new_of_in_range {score : PyFloat} (h : in_range score = true) (device_id : String) (is_anomaly : Bool)
    (latency_ms : PyFloat) :
    ∃ prediction, PredictionResponse.new device_id score is_anomaly latency_ms = .ok prediction ∧
      prediction.decision = (device_id, score, is_anomaly) :=
  ⟨_, dif_pos (Bool.and_eq_true_iff.mp h), rfl⟩

theorem new_of_not_in_range {score : PyFloat} (h : in_range score = false) (device_id : String) (is_anomaly : Bool)
    (latency_ms : PyFloat) : PredictionResponse.new device_id score is_anomaly latency_ms = .error .LibraryError := by
  refine dif_neg fun hrange => ?_
  rw [in_range, Bool.and_eq_true_iff.mpr hrange] at h
  cases h

/-- The decision that the handlers come to. -/
def decision_of (app : App U T F A) (item : TelemetryReading U T × PyFloat) : String × PyFloat × Bool :=
  (app.libraries.printer.str_uuid item.1.device_id, item.2, app.settings.anomaly_threshold.lt item.2)

theorem respond_of_in_range (app : App U T F A) (extractor : FeatureExtractor F) (stats : Stats) (latency_ms : PyFloat)
    {item : TelemetryReading U T × PyFloat}
    (h : in_range item.2 = true) :
    ∃ prediction, (respond app latency_ms item).call (extractor, stats) =
        (.ok prediction, (extractor, stats.counted latency_ms (app.settings.anomaly_threshold.lt item.2))) ∧
      prediction.decision = decision_of app item := by
  obtain ⟨reading, score⟩ := item
  obtain ⟨prediction, hnew, hdecision⟩ := new_of_in_range h (app.libraries.printer.str_uuid reading.device_id)
    (app.settings.anomaly_threshold.lt score) (round_3 latency_ms)
  refine ⟨prediction, ?_, hdecision⟩
  rw [call_respond, hnew]
  rfl

/-- A response that is not valid has been counted. -/
theorem respond_of_not_in_range (app : App U T F A) (extractor : FeatureExtractor F) (stats : Stats) (latency_ms : PyFloat)
    {item : TelemetryReading U T × PyFloat}
    (h : in_range item.2 = false) :
    (respond app latency_ms item).call (extractor, stats) =
      (.error (.exception .LibraryError),
        (extractor, stats.counted latency_ms (app.settings.anomaly_threshold.lt item.2))) := by
  obtain ⟨reading, score⟩ := item
  rw [call_respond, new_of_not_in_range h]
  rfl

/-- The counts after some scores. -/
def counts_after (app : App U T F A) (stats : Stats) (scores : List PyFloat) : ℕ × ℕ :=
  (stats.inference_count + scores.length,
    stats.anomaly_count + scores.countP fun score => app.settings.anomaly_threshold.lt score)

theorem counts_after_cons (stats : Stats) (latency_ms score : PyFloat) (scores : List PyFloat) :
    counts_after app (stats.counted latency_ms (app.settings.anomaly_threshold.lt score)) scores =
      counts_after app stats (score :: scores) := by
  unfold counts_after Stats.counted
  dsimp only
  rw [List.length_cons, List.countP_cons]
  refine congrArg₂ Prod.mk (by omega) ?_
  split <;> omega

theorem respond_all (app : App U T F A) (extractor : FeatureExtractor F) (stats : Stats) (latency_ms : PyFloat) {items : List (TelemetryReading U T × PyFloat)}
    (hall : ∀ item ∈ items, in_range item.2 = true) :
    ∃ predictions stats', (items.mapM (respond app latency_ms)).call (extractor, stats) =
        (.ok predictions, (extractor, stats')) ∧
      predictions.map PredictionResponse.decision = items.map (decision_of app) ∧
      stats'.counts = counts_after app stats (items.map Prod.snd) := by
  induction items generalizing stats with
  | nil => exact ⟨[], stats, rfl, rfl, rfl⟩
  | cons item rest ih =>
    obtain ⟨hitem, hrest⟩ := List.forall_mem_cons.mp hall
    obtain ⟨prediction, hcall, hdecision⟩ := respond_of_in_range app extractor stats latency_ms hitem
    obtain ⟨predictions, stats', hcalls, hdecisions, hcounts⟩ := ih (stats.counted latency_ms _) hrest
    refine ⟨prediction :: predictions, stats', ?_, congrArg₂ List.cons hdecision hdecisions, ?_⟩
    · rw [List.mapM_cons, Raising.call_bind_ok hcall, Raising.call_bind_ok hcalls]
      rfl
    · rw [hcounts, List.map_cons, counts_after_cons]

/-- A loop that ends at a score out of range has counted it, and all that came before. -/
theorem respond_some (app : App U T F A) (extractor : FeatureExtractor F) (stats : Stats) (latency_ms : PyFloat) {items : List (TelemetryReading U T × PyFloat)}
    (hsome : ∃ item ∈ items, in_range item.2 = false) :
    ∃ e stats', (items.mapM (respond app latency_ms)).call (extractor, stats) = (.error e, (extractor, stats')) ∧
      stats.inference_count < stats'.inference_count := by
  induction items generalizing stats with
  | nil =>
    obtain ⟨_, hmem, -⟩ := hsome
    cases hmem
  | cons item rest ih =>
    rw [List.mapM_cons]
    by_cases hitem : in_range item.2 = true
    · obtain ⟨prediction, hcall, -⟩ := respond_of_in_range app extractor stats latency_ms hitem
      have hrest : ∃ item ∈ rest, in_range item.2 = false := by
        obtain ⟨bad, hmem, hbad⟩ := hsome
        obtain rfl | hmem := List.mem_cons.mp hmem
        · rw [hitem] at hbad
          cases hbad
        · exact ⟨bad, hmem, hbad⟩
      obtain ⟨e, stats', hcalls, hlt⟩ := ih (stats.counted latency_ms (app.settings.anomaly_threshold.lt item.2)) hrest
      refine ⟨e, stats', ?_, (Nat.lt_succ_self _).trans hlt⟩
      rw [Raising.call_bind_ok hcall, Raising.call_bind_error hcalls]
    · rw [Bool.not_eq_true] at hitem
      exact ⟨_, _, Raising.call_bind_error (respond_of_not_in_range app extractor stats latency_ms hitem), Nat.lt_succ_self _⟩

end Responses

end gateway.inference
