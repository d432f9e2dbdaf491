import EdgeGateway.MlInference.FeatureExtractor.AllOrNothing
import EdgeGateway.MlInference.FeatureExtractor.WindowSize

open gateway.telemetry

namespace gateway.feature_extractor

section Definitions

variable {F U T : Type} (arith : Arithmetic F) (str : U → String) (stats : FeatureStats F)

/-- All that can go wrong with a reading, before it gets to the window of its device. -/
def extracted_value (reading : TelemetryReading U T) : Except PyExc (F × F) := do
  let value ← values arith reading
  let _ ← scale arith stats reading.device_type Prod.fst
  let _ ← scale arith stats reading.device_type Prod.snd
  return value

def extractable (reading : TelemetryReading U T) : Bool := (extracted_value arith stats reading).isOk

/-- The extractor after the readings up to the first one that cannot be extracted. -/
def FeatureExtractor.fed (extractor : FeatureExtractor F) : List (TelemetryReading U T) → FeatureExtractor F
  | [] => extractor
  | reading :: rest =>
    match extracted_value arith extractor.stats reading with
    | .error _ => extractor
    | .ok value => (extractor.appended (str reading.device_id) value).fed rest

/-- The values of a device, up to the first reading that cannot be extracted. -/
def fed_values (device_key : String) : List (TelemetryReading U T) → List (F × F)
  | [] => []
  | reading :: rest =>
    match extracted_value arith stats reading with
    | .error _ => []
    | .ok value =>
      if device_key = str reading.device_id then value :: fed_values device_key rest
      else fed_values device_key rest

end Definitions

section Fed

variable {F U T : Type} {arith : Arithmetic F} {str : U → String} {extractor : FeatureExtractor F}

/-- The window of a device takes in the values of the device one after the other. -/
theorem window_fed (readings : List (TelemetryReading U T)) (device_key : String) :
    (extractor.fed arith str readings).window device_key =
      (fed_values arith str extractor.stats device_key readings).foldl (append extractor.window_size)
        (extractor.window device_key) := by
  induction readings generalizing extractor with
  | nil => rfl
  | cons reading rest ih =>
    unfold FeatureExtractor.fed fed_values
    split
    · rfl
    · rw [ih, appended_stats, appended_window_size, window_appended]
      by_cases hdevice : device_key = str reading.device_id
      · rw [if_pos hdevice, if_pos hdevice, List.foldl_cons, hdevice]
      · rw [if_neg hdevice, if_neg hdevice]

/-- Every row has a place for each feature. -/
theorem length_of_extract_row {reading : TelemetryReading U T} {row : List F} {extractor' : FeatureExtractor F}
    (h : (extract_row arith str reading).call extractor = (.ok row, extractor')) : row.length = N_FEATURES := by
  rw [call_extract_row] at h
  split at h
  · cases h
  · cases h
  · cases h
  · split at h
    · cases h
    · split at h
      · cases h
      · cases h
        rfl

end Fed

section Calls

variable {U T : Type} {arith : Arithmetic PyFloat} {extractor : FeatureExtractor PyFloat} {reading : TelemetryReading U T}

theorem extract_row_of_error (str : U → String) {e : PyExc} (h : extracted_value arith extractor.stats reading = .error e) :
    (extract_row arith str reading).call extractor = (.error e, extractor) := by
  unfold extracted_value at h
  rw [call_extract_row]
  cases hvalue : values arith reading with
  | error e' =>
    rw [hvalue] at h
    cases h
    rfl
  | ok value =>
    rw [hvalue] at h
    cases hfirst : scale arith extractor.stats reading.device_type Prod.fst with
    | error e' =>
      rw [hfirst] at h
      cases h
      rfl
    | ok first =>
      rw [hfirst] at h
      cases hsecond : scale arith extractor.stats reading.device_type Prod.snd with
      | error e' =>
        rw [hsecond] at h
        cases h
        rfl
      | ok second =>
        rw [hsecond] at h
        cases h

theorem extract_row_of_ok (hfloats : arith.Floats) (str : U → String) {value : PyFloat × PyFloat}
    (h : extracted_value arith extractor.stats reading = .ok value) :
    ∃ row, (extract_row arith str reading).call extractor =
      (.ok row, extractor.appended (str reading.device_id) value) := by
  unfold extracted_value at h
  obtain ⟨value, hvalue, h⟩ := Except.bind_ok_iff.mp h
  obtain ⟨⟨mean_a, std_a⟩, hfirst, h⟩ := Except.bind_ok_iff.mp h
  obtain ⟨⟨mean_b, std_b⟩, hsecond, h⟩ := Except.bind_ok_iff.mp h
  cases h
  have ha := scale_ne_zero hfloats hfirst
  have hb := scale_ne_zero hfloats hsecond
  obtain ⟨dev, hdev⟩ := deviations_ok hfloats (extractor.window (str reading.device_id)) value ha hb
  obtain ⟨z, hz⟩ := standardised_ok hfloats reading.device_type value (mean_a, mean_b) ha hb
  refine ⟨features arith reading.device_type z dev, ?_⟩
  rw [call_extract_row, hvalue, hfirst, hsecond]
  dsimp only
  rw [hdev]
  dsimp only
  rw [hz]

/-- The rows of readings all of which can be extracted. -/
theorem extract_rows_of_extractable (hfloats : arith.Floats) (str : U → String) {readings : List (TelemetryReading U T)}
    (hall : ∀ reading ∈ readings, extractable arith extractor.stats reading = true) :
    ∃ rows, (extract_rows arith str readings).call extractor = (.ok rows, extractor.fed arith str readings) ∧
      rows.length = readings.length ∧ ∀ row ∈ rows, row.length = N_FEATURES := by
  induction readings generalizing extractor with
  | nil => exact ⟨[], rfl, rfl, nofun⟩
  | cons reading rest ih =>
    obtain ⟨hhead, hrest⟩ := List.forall_mem_cons.mp hall
    unfold extractable at hhead
    unfold FeatureExtractor.fed
    cases hvalue : extracted_value arith extractor.stats reading with
    | error e =>
      rw [hvalue] at hhead
      cases hhead
    | ok value =>
      obtain ⟨row, hrow⟩ := extract_row_of_ok hfloats str hvalue
      rw [← appended_stats extractor (str reading.device_id) value] at hrest
      obtain ⟨rows, hrows, hlength, hwides⟩ := ih hrest
      refine ⟨row :: rows, ?_, congrArg Nat.succ hlength, List.forall_mem_cons.mpr ⟨length_of_extract_row hrow, hwides⟩⟩
      unfold extract_rows at hrows ⊢
      rw [List.mapM_cons, Raising.call_bind_ok hrow, Raising.call_bind_ok hrows]
      rfl

/-- The readings before the first one that cannot be extracted have left their values. -/
theorem extract_rows_of_not_extractable (hfloats : arith.Floats) (str : U → String) {readings : List (TelemetryReading U T)}
    (hsome : ∃ reading ∈ readings, extractable arith extractor.stats reading = false) :
    ∃ e, (extract_rows arith str readings).call extractor = (.error e, extractor.fed arith str readings) := by
  induction readings generalizing extractor with
  | nil =>
    obtain ⟨_, hmem, -⟩ := hsome
    cases hmem
  | cons reading rest ih =>
    unfold FeatureExtractor.fed
    cases hvalue : extracted_value arith extractor.stats reading with
    | error e =>
      refine ⟨e, ?_⟩
      unfold extract_rows
      rw [List.mapM_cons, Raising.call_bind_error (extract_row_of_error str hvalue)]
    | ok value =>
      have hrest : ∃ reading ∈ rest, extractable arith extractor.stats reading = false := by
        obtain ⟨bad, hmem, hbad⟩ := hsome
        obtain rfl | hmem := List.mem_cons.mp hmem
        · rw [extractable, hvalue] at hbad
          cases hbad
        · exact ⟨bad, hmem, hbad⟩
      obtain ⟨row, hrow⟩ := extract_row_of_ok hfloats str hvalue
      rw [← appended_stats extractor (str reading.device_id) value] at hrest
      obtain ⟨e, herror⟩ := ih hrest
      refine ⟨e, ?_⟩
      unfold extract_rows at herror ⊢
      rw [List.mapM_cons, Raising.call_bind_ok hrow, Raising.call_bind_error herror]

end Calls

end gateway.feature_extractor
