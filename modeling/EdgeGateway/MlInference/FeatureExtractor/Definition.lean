import EdgeGateway.MlInference.FeatureExtractor.Windows

open gateway.telemetry

namespace gateway.feature_extractor

/-- Statistics for both fields of every known type. -/
def Covers {F : Type} (stats : FeatureStats F) : Prop :=
  ∀ device_type fields, SENSOR_FIELDS.lookup device_type = some fields → ∀ field ∈ [fields.1, fields.2],
    ∃ type_stats mean std, stats.get? device_type = some type_stats ∧ type_stats.get? field = some [mean, std]

section Definition

variable {U T : Type} (window_size : ℕ) (stats : FeatureStats ℚ)

/-- The mean and the standard deviation of a field. -/
def moments (device_type field : String) : ℚ × ℚ :=
  match (stats.get? device_type).bind fun type_stats => type_stats.get? field with
  | some [mean, std] => (mean, std)
  | _ => (0, 1)

/-- The median of some numbers: the middle one, or half-way between the middle two. -/
def middle (numbers : List ℚ) : ℚ :=
  let sorted := numbers.insertionSort (· ≤ ·)
  (sorted.getD ((numbers.length - 1) / 2) 0 + sorted.getD (numbers.length / 2) 0) / 2

/-- The mean that a feature starts from, and the scale that it is in. -/
def unit_of (device_type : String) (field : String × String → String) : ℚ × ℚ :=
  match SENSOR_FIELDS.lookup device_type with
  | some fields =>
    ((moments stats device_type (field fields)).1, max (moments stats device_type (field fields)).2 (1 / 1000000))
  | none => (0, 1)

def z_of (device_type : String) (field : String × String → String) (value : ℚ) : ℚ :=
  if device_type ∈ DEVICE_TYPES then
    (value - (unit_of stats device_type field).1) / (unit_of stats device_type field).2
  else 0

def dev_of (device_type : String) (field : String × String → String) (earlier : List ℚ) (value : ℚ) : ℚ :=
  if earlier.length < 5 then 0
  else (value - middle (lastN (min window_size earlier.length) earlier)) / (unit_of stats device_type field).2

/-- The row of a reading by the earlier values of its device. -/
def row_of (earlier : List (ℚ × ℚ)) (device_type : String) (value : ℚ × ℚ) : List ℚ :=
  ([z_of stats device_type Prod.fst value.1,
    z_of stats device_type Prod.snd value.2,
    dev_of window_size stats device_type Prod.fst (earlier.map Prod.fst) value.1,
    dev_of window_size stats device_type Prod.snd (earlier.map Prod.snd) value.2] ++
    ["temperature_sensor", "pressure_sensor", "vibration_sensor"].map fun t => if device_type = t then 1 else 0).map
      fun x => max (-1000) (min 1000 x)

/-- The value pair that `_values` picks. -/
def picked (reading : TelemetryReading U T) : ℚ × ℚ := (values Arithmetic.exact reading).toOption.getD (0, 0)

/-- The row of a reading by the earlier readings of its device. -/
def device_row (earlier : List (TelemetryReading U T)) (reading : TelemetryReading U T) : List ℚ :=
  row_of window_size stats (earlier.map picked) reading.device_type (picked reading)

/-- The rows of a device by its own readings. -/
def device_rows (readings : List (TelemetryReading U T)) : List (List ℚ) :=
  readings.mapIdx fun k reading => device_row window_size stats (readings.take k) reading

end Definition

/-- `_values` picks a pair. -/
def WellFormed {U T : Type} (reading : TelemetryReading U T) : Prop :=
  ∃ value, values Arithmetic.exact reading = .ok value

section Exact

variable {stats : FeatureStats ℚ} {device_type : String} {field : String × String → String}

theorem py_max_exact (a b : ℚ) : py_max Arithmetic.exact a b = max a b := by
  unfold py_max Arithmetic.exact
  rw [max_def_lt]
  simp only [decide_eq_true_eq]

theorem py_min_exact (a b : ℚ) : py_min Arithmetic.exact a b = min a b := by
  unfold py_min Arithmetic.exact
  rw [min_comm, min_def_lt]
  simp only [decide_eq_true_eq]

theorem clip_exact (x : ℚ) : clip Arithmetic.exact x = max (-1000) (min 1000 x) := by
  unfold clip
  rw [py_max_exact, py_min_exact]
  rfl

theorem scale_exact (hstats : Covers stats) (hfield : field = Prod.fst ∨ field = Prod.snd) :
    scale Arithmetic.exact stats device_type field = .ok (unit_of stats device_type field) := by
  unfold scale unit_of
  cases hfields : SENSOR_FIELDS.lookup device_type with
  | none => rfl
  | some fields =>
    have hmem : field fields ∈ [fields.1, fields.2] := by
      obtain rfl | rfl := hfield
      · exact List.mem_cons_self
      · exact List.mem_cons_of_mem _ List.mem_cons_self
    obtain ⟨type_stats, mean, std, htype, hentry⟩ := hstats device_type fields hfields _ hmem
    have hitems : type_stats.items ≠ [] := by
      intro hnil
      rw [Dict.get?, hnil] at hentry
      cases hentry
    have hmoments : moments stats device_type (field fields) = (mean, std) := by
      rw [moments, htype, Option.bind_some, hentry]
    simp only [htype, if_neg hitems, hentry, hmoments, py_max_exact]
    rfl

theorem unit_of_pos : 0 < (unit_of stats device_type field).2 := by
  unfold unit_of
  split
  · exact lt_max_of_lt_right (by norm_num)
  · exact zero_lt_one

/-- The median of the standard library. -/
theorem median_exact {numbers : List ℚ} (h : numbers ≠ []) :
    median Arithmetic.exact numbers = .ok (middle numbers) := by
  have hsort : (numbers.insertionSort fun a b => Arithmetic.exact.lt b a = false) =
      numbers.insertionSort (· ≤ ·) := by
    simp only [Arithmetic.exact, decide_eq_false_iff_not, not_lt]
  have hpos : 0 < numbers.length := List.length_pos_iff.mpr h
  have hget : ∀ i, i < numbers.length → (numbers.insertionSort (· ≤ ·))[i]? =
      some ((numbers.insertionSort (· ≤ ·)).getD i 0) := by
    intro i hi
    rw [← List.length_insertionSort (· ≤ ·) numbers] at hi
    rw [List.getD_eq_getElem?_getD, List.getElem?_eq_getElem hi, Option.getD_some]
  unfold median middle
  rw [hsort]
  dsimp only
  rw [List.length_insertionSort]
  split
  · rename_i hodd
    have hsame : (numbers.length - 1) / 2 = numbers.length / 2 := by omega
    rw [hget _ (by omega), hsame]
    dsimp only
    rw [add_self_div_two]
  · rename_i heven
    have hbefore : (numbers.length - 1) / 2 = numbers.length / 2 - 1 := by omega
    rw [hget _ (by omega), hget _ (by omega), hbefore]
    rfl

theorem div_exact {a b : ℚ} (h : b ≠ 0) : Arithmetic.exact.div a b = .ok (a / b) := if_neg h

theorem deviation_exact {window : List ℚ} {value std : ℚ} (hwindow : window ≠ []) (hstd : std ≠ 0) :
    deviation Arithmetic.exact window value std = .ok ((value - middle window) / std) := by
  unfold deviation
  rw [median_exact hwindow]
  exact div_exact hstd

theorem standardised_exact (value : ℚ × ℚ) :
    standardised Arithmetic.exact device_type value
        ((unit_of stats device_type Prod.fst).1, (unit_of stats device_type Prod.snd).1)
        ((unit_of stats device_type Prod.fst).2, (unit_of stats device_type Prod.snd).2) =
      .ok (z_of stats device_type Prod.fst value.1, z_of stats device_type Prod.snd value.2) := by
  unfold standardised z_of
  split
  · rw [div_exact unit_of_pos.ne', div_exact unit_of_pos.ne']
    rfl
  · rfl

/-- The window of a device holds enough for the median as soon as there were enough readings. -/
theorem deviations_exact {window_size : ℕ} (hsize : 5 ≤ window_size) (earlier : List (ℚ × ℚ)) (value : ℚ × ℚ) :
    deviations Arithmetic.exact (lastN window_size earlier) value (unit_of stats device_type Prod.fst).2
        (unit_of stats device_type Prod.snd).2 =
      .ok (dev_of window_size stats device_type Prod.fst (earlier.map Prod.fst) value.1,
        dev_of window_size stats device_type Prod.snd (earlier.map Prod.snd) value.2) := by
  unfold deviations dev_of MIN_HISTORY
  rw [length_lastN, List.length_map, List.length_map]
  by_cases hfew : earlier.length < 5
  · rw [if_neg (by omega), if_pos hfew, if_pos hfew]
    rfl
  · have hne : ∀ pick : ℚ × ℚ → ℚ, lastN window_size (earlier.map pick) ≠ [] := by
      intro pick
      rw [← List.length_pos_iff, length_lastN, List.length_map]
      omega
    have hlast : ∀ pick : ℚ × ℚ → ℚ,
        lastN (min window_size earlier.length) (earlier.map pick) = lastN window_size (earlier.map pick) := by
      intro pick
      rw [← lastN_min window_size (earlier.map pick), List.length_map]
    rw [if_pos (by omega), if_neg hfew, if_neg hfew, map_lastN, map_lastN, hlast, hlast,
      deviation_exact (hne _) unit_of_pos.ne', deviation_exact (hne _) unit_of_pos.ne']
    rfl

theorem features_exact {window_size : ℕ} (earlier : List (ℚ × ℚ)) (value : ℚ × ℚ) :
    features Arithmetic.exact device_type
        (z_of stats device_type Prod.fst value.1, z_of stats device_type Prod.snd value.2)
        (dev_of window_size stats device_type Prod.fst (earlier.map Prod.fst) value.1,
          dev_of window_size stats device_type Prod.snd (earlier.map Prod.snd) value.2) =
      row_of window_size stats earlier device_type value := by
  unfold features row_of
  refine congrArg₂ List.map (funext clip_exact) ?_
  rfl

end Exact

section Stream

variable {U T : Type} [DecidableEq U] (str : U → String) (window_size : ℕ) (stats : FeatureStats ℚ)

/-- The readings of a device. -/
def own (device : U) (readings : List (TelemetryReading U T)) : List (TelemetryReading U T) :=
  readings.filter fun reading => reading.device_id = device

/-- The extractor after some readings: the window of each device holds its last values. -/
structure Holds (past : List (TelemetryReading U T)) (extractor : FeatureExtractor ℚ) : Prop where
  maxlen : extractor.window_size = window_size
  table : extractor.stats = stats
  windows : ∀ device, extractor.window (str device) = lastN window_size ((own device past).map picked)

variable {str window_size stats} {past : List (TelemetryReading U T)} {extractor : FeatureExtractor ℚ}

omit [DecidableEq U] in
theorem values_of_wellFormed {reading : TelemetryReading U T} (h : WellFormed reading) :
    values Arithmetic.exact reading = .ok (picked reading) := by
  obtain ⟨value, hvalue⟩ := h
  rw [picked, hvalue]
  rfl

theorem holds_appended (hstr : Function.Injective str) (h : Holds str window_size stats past extractor)
    (reading : TelemetryReading U T) :
    Holds str window_size stats (past ++ [reading])
      (extractor.appended (str reading.device_id) (picked reading)) := by
  refine ⟨?_, ?_, fun device => ?_⟩
  · rw [appended_window_size, h.maxlen]
  · rw [appended_stats, h.table]
  · rw [window_appended, own, List.filter_append]
    by_cases hdevice : device = reading.device_id
    · subst hdevice
      rw [if_pos rfl, h.windows, h.maxlen, append_lastN, List.filter_singleton, decide_eq_true rfl, cond_true,
        List.map_append]
      rfl
    · have hother : reading.device_id ≠ device := fun heq => hdevice heq.symm
      rw [if_neg fun heq => hdevice (hstr heq), h.windows, List.filter_singleton, decide_eq_false hother, cond_false,
        List.append_nil]
      rfl

/-- One reading: the row is the one of the definition. -/
theorem extract_row_holds (hsize : 5 ≤ window_size) (hstats : Covers stats) (hstr : Function.Injective str)
    (h : Holds str window_size stats past extractor) {reading : TelemetryReading U T} (hwell : WellFormed reading) :
    ∃ extractor', (extract_row Arithmetic.exact str reading).call extractor =
        (.ok (row_of window_size stats ((own reading.device_id past).map picked) reading.device_type (picked reading)),
          extractor') ∧
      Holds str window_size stats (past ++ [reading]) extractor' := by
  refine ⟨_, ?_, holds_appended hstr h reading⟩
  rw [call_extract_row, values_of_wellFormed hwell, h.table, scale_exact hstats (.inl rfl),
    scale_exact hstats (.inr rfl)]
  dsimp only
  rw [h.windows, deviations_exact hsize]
  dsimp only
  rw [standardised_exact]
  dsimp only
  rw [features_exact]

/-- Extract the rows of batches of readings, one batch after the other. -/
def extract_batches (str : U → String) (batches : List (List (TelemetryReading U T))) :
    Raising (FeatureExtractor ℚ) PyExc (List (List (List ℚ))) :=
  batches.mapM fun batch => batch.mapM (extract_row Arithmetic.exact str)

/-- The rows that were returned for the readings of a device. -/
def rows_for (device : U) (readings : List (TelemetryReading U T)) (rows : List (List ℚ)) : List (List ℚ) :=
  ((readings.zip rows).filter fun (reading, _) => reading.device_id = device).map Prod.snd

/-- The row of a reading by all that came before. -/
def stream_row (window_size : ℕ) (stats : FeatureStats ℚ) (past : List (TelemetryReading U T))
    (reading : TelemetryReading U T) : List ℚ :=
  device_row window_size stats (own reading.device_id past) reading

theorem own_append (device : U) (xs ys : List (TelemetryReading U T)) :
    own device (xs ++ ys) = own device xs ++ own device ys :=
  List.filter_append ..

theorem own_cons (device : U) (reading : TelemetryReading U T) (rest : List (TelemetryReading U T)) :
    own device (reading :: rest) =
      if reading.device_id = device then reading :: own device rest else own device rest := by
  rw [own, List.filter_cons]
  simp only [decide_eq_true_eq]
  rfl

/-- The rows of a device, taken out of those of the stream. -/
theorem rows_for_outputs (device : U) (past readings : List (TelemetryReading U T)) :
    rows_for device readings (Raising.outputs (stream_row window_size stats) past readings) =
      Raising.outputs (device_row window_size stats) (own device past) (own device readings) := by
  induction readings generalizing past with
  | nil => rfl
  | cons reading rest ih =>
    have hih := ih (past ++ [reading])
    rw [own_append, own_cons] at hih
    rw [own_cons, Raising.outputs, rows_for, List.zip_cons_cons, List.filter_cons]
    by_cases hdevice : reading.device_id = device
    · rw [if_pos hdevice] at hih
      rw [if_pos hdevice, if_pos (by simpa using hdevice), Raising.outputs]
      subst hdevice
      exact congrArg₂ List.cons rfl hih
    · have hnil : own device ([] : List (TelemetryReading U T)) = [] := rfl
      rw [if_neg hdevice, hnil, List.append_nil] at hih
      rw [if_neg hdevice, if_neg (by simpa using hdevice)]
      exact hih

/-- All rows of a stream of well-formed readings, whatever the batches. -/
theorem extract_batches_outputs (hsize : 5 ≤ window_size) (hstats : Covers stats) (hstr : Function.Injective str)
    (batches : List (List (TelemetryReading U T))) (hwell : ∀ batch ∈ batches, ∀ reading ∈ batch, WellFormed reading) :
    ∃ rows extractor', (extract_batches str batches).call { window_size, stats, windows := Dict.empty } =
        (.ok rows, extractor') ∧
      rows.map List.length = batches.map List.length ∧
      rows.flatten = Raising.outputs (stream_row window_size stats) [] batches.flatten := by
  have hstep : ∀ (past : List (TelemetryReading U T)) reading extractor, WellFormed reading →
      Holds str window_size stats past extractor →
        ∃ extractor', (extract_row Arithmetic.exact str reading).call extractor =
            (.ok (stream_row window_size stats past reading), extractor') ∧
          Holds str window_size stats (past ++ [reading]) extractor' :=
    fun _ _ _ hwell h => extract_row_holds hsize hstats hstr h hwell
  have hbatch : ∀ (past : List (List (TelemetryReading U T))) (batch : List (TelemetryReading U T)) extractor,
      (∀ reading ∈ batch, WellFormed reading) → Holds str window_size stats past.flatten extractor →
        ∃ extractor', (batch.mapM (extract_row Arithmetic.exact str)).call extractor =
            (.ok (Raising.outputs (stream_row window_size stats) past.flatten batch), extractor') ∧
          Holds str window_size stats (past ++ [batch]).flatten extractor' := by
    intro past batch extractor hall h
    rw [List.flatten_append, List.flatten_singleton]
    exact Raising.call_mapM hstep batch past.flatten extractor hall h
  have hfresh : Holds (T := T) str window_size stats [] { window_size, stats, windows := Dict.empty } :=
    ⟨rfl, rfl, fun _ => List.drop_nil.symm⟩
  obtain ⟨extractor', hcall, -⟩ := Raising.call_mapM (P := fun past => Holds str window_size stats past.flatten)
    hbatch batches [] _ hwell hfresh
  exact ⟨_, extractor', hcall, Raising.map_length_outputs [] batches, Raising.flatten_outputs [] batches⟩

/-- Every row is the one of the definition, and depends on the readings of its device only. -/
theorem windows_meet_definition (hsize : 5 ≤ window_size) (hstats : Covers stats) (hstr : Function.Injective str) :
    (∀ batches : List (List (TelemetryReading U T)), (∀ batch ∈ batches, ∀ reading ∈ batch, WellFormed reading) →
      ∃ rows extractor', (extract_batches str batches).call { window_size, stats, windows := Dict.empty } =
          (.ok rows, extractor') ∧
        rows.map List.length = batches.map List.length ∧
        ∀ device, rows_for device batches.flatten rows.flatten =
          device_rows window_size stats (own device batches.flatten)) ∧
      ∀ (batches batches' : List (List (TelemetryReading U T))) rows rows' device,
        (∀ batch ∈ batches, ∀ reading ∈ batch, WellFormed reading) →
        (∀ batch ∈ batches', ∀ reading ∈ batch, WellFormed reading) →
        own device batches.flatten = own device batches'.flatten →
        ((extract_batches str batches).call { window_size, stats, windows := Dict.empty }).1 = .ok rows →
        ((extract_batches str batches').call { window_size, stats, windows := Dict.empty }).1 = .ok rows' →
          rows_for device batches.flatten rows.flatten = rows_for device batches'.flatten rows'.flatten := by
  have hrows : ∀ batches : List (List (TelemetryReading U T)),
      (∀ batch ∈ batches, ∀ reading ∈ batch, WellFormed reading) →
        ∃ rows extractor', (extract_batches str batches).call { window_size, stats, windows := Dict.empty } =
            (.ok rows, extractor') ∧
          rows.map List.length = batches.map List.length ∧
          ∀ device, rows_for device batches.flatten rows.flatten =
            device_rows window_size stats (own device batches.flatten) := by
    intro batches hwell
    obtain ⟨rows, extractor', hcall, hlength, hflatten⟩ := extract_batches_outputs hsize hstats hstr batches hwell
    refine ⟨rows, extractor', hcall, hlength, fun device => ?_⟩
    rw [hflatten, rows_for_outputs, Raising.outputs_eq_mapIdx]
    rfl
  refine ⟨hrows, ?_⟩
  intro batches batches' rows rows' device hwell hwell' hown hcall hcall'
  obtain ⟨_, _, hmade, -, hdefined⟩ := hrows batches hwell
  obtain ⟨_, _, hmade', -, hdefined'⟩ := hrows batches' hwell'
  rw [hmade] at hcall
  rw [hmade'] at hcall'
  cases hcall
  cases hcall'
  rw [hdefined, hdefined', hown]

end Stream

/-- Statistics for all types. -/
def sample_stats : FeatureStats ℚ :=
  ((Dict.empty.set "temperature_sensor"
      ((Dict.empty.set "temperature_celsius" [23, 7 / 2]).set "humidity_percent" [50, 1])).set "pressure_sensor"
      ((Dict.empty.set "pressure_hpa" [1013, 2]).set "flow_rate_lpm" [30, 1])).set "vibration_sensor"
    ((Dict.empty.set "rms_velocity_mm_s" [5 / 4, 1 / 10]).set "peak_frequency_hz" [125, 5])

theorem sample_stats_covers : Covers sample_stats := by
  intro device_type fields hfields field hfield
  have hmem : (device_type, fields) ∈ SENSOR_FIELDS := by
    obtain ⟨before, after, heq, -⟩ := List.lookup_eq_some_iff.mp hfields
    rw [heq]
    exact List.mem_append_right before List.mem_cons_self
  simp only [SENSOR_FIELDS, List.mem_cons, Prod.mk.injEq, List.not_mem_nil, or_false] at hmem
  obtain ⟨rfl, rfl⟩ | ⟨rfl, rfl⟩ | ⟨rfl, rfl⟩ := hmem
  all_goals
    simp only [List.mem_cons, List.not_mem_nil, or_false] at hfield
    obtain rfl | rfl := hfield
  all_goals exact ⟨_, _, _, rfl, rfl⟩

def sample_reading : TelemetryReading String Unit where
  device_id := "0f8fad5b-d9cb-469f-a165-70867728950e"
  device_type := "temperature_sensor"
  timestamp := ()
  payload := [("temperature_celsius", .int 30), ("humidity_percent", .int 52), ("unit", .str "celsius")]
  metadata := []

theorem windows_meet_definition_sample :
    ∃ rows extractor', (extract_batches id [[sample_reading], [sample_reading]]).call
        { window_size := 10, stats := sample_stats, windows := Dict.empty } = (.ok rows, extractor') ∧
      rows.map List.length = [1, 1] ∧
      ∀ device, rows_for device [sample_reading, sample_reading] rows.flatten =
        device_rows 10 sample_stats (own device [sample_reading, sample_reading]) := by
  refine (windows_meet_definition (by decide) sample_stats_covers Function.injective_id).1
    [[sample_reading], [sample_reading]] ?_
  have hwell : WellFormed sample_reading := ⟨(30, 52), rfl⟩
  intro batch hbatch reading hreading
  simp only [List.mem_cons, List.not_mem_nil, or_false, or_self] at hbatch
  subst hbatch
  rw [List.mem_singleton.mp hreading]
  exact hwell

end gateway.feature_extractor
