import EdgeGateway.MlInference.FeatureExtractor.Windows

open gateway.telemetry

namespace gateway.feature_extractor

variable {F U T : Type} {arith : Arithmetic F} {str : U → String}

/-- `FeatureExtractor(window_size, feature_stats)`. -/
def FeatureExtractor.new (window_size : ℕ) (stats : FeatureStats F) : FeatureExtractor F :=
  { window_size, stats, windows := Dict.empty }

/-- The rows of some readings, one after the other. -/
def extract_rows (arith : Arithmetic F) (str : U → String) (readings : List (TelemetryReading U T)) :
    Raising (FeatureExtractor F) PyExc (List (List F)) :=
  readings.mapM (extract_row arith str)

section Short

/-- The windows never hold enough for a median. -/
structure FeatureExtractor.Short (extractor : FeatureExtractor F) : Prop where
  maxlen : extractor.window_size < MIN_HISTORY
  windows : ∀ device_key, (extractor.window device_key).length < MIN_HISTORY

variable {x y : FeatureExtractor F}

theorem length_append_le (maxlen : ℕ) (window : List (F × F)) (value : F × F) :
    (append maxlen window value).length ≤ maxlen := by
  unfold append
  rw [List.length_drop, List.length_append, List.length_singleton]
  omega

theorem short_new {window_size : ℕ} (h : window_size < MIN_HISTORY) (stats : FeatureStats F) :
    (FeatureExtractor.new window_size stats).Short :=
  ⟨h, fun _ => Nat.zero_lt_succ 4⟩

theorem short_appended (h : x.Short) (device_key : String) (value : F × F) : (x.appended device_key value).Short := by
  refine ⟨?_, fun key => ?_⟩
  · rw [appended_window_size]
    exact h.maxlen
  · rw [window_appended]
    split
    · exact lt_of_le_of_lt (length_append_le _ _ _) h.maxlen
    · exact h.windows key

theorem deviations_short (h : x.Short) (device_key : String) (value : F × F) (std_a std_b : F) :
    deviations arith (x.window device_key) value std_a std_b = .ok (arith.ofRat 0, arith.ofRat 0) :=
  if_neg (Nat.not_le.mpr (h.windows device_key))

/-- Extractors with short windows return the same for a reading. -/
theorem extract_row_short (arith : Arithmetic F) (str : U → String) (hx : x.Short) (hy : y.Short)
    (hstats : x.stats = y.stats) (reading : TelemetryReading U T) :
    ∃ outcome x' y', (extract_row arith str reading).call x = (outcome, x') ∧
      (extract_row arith str reading).call y = (outcome, y') ∧ x'.Short ∧ y'.Short ∧ x'.stats = y'.stats := by
  rw [call_extract_row, call_extract_row, ← hstats]
  cases values arith reading with
  | error e => exact ⟨_, _, _, rfl, rfl, hx, hy, hstats⟩
  | ok value =>
    cases scale arith x.stats reading.device_type Prod.fst with
    | error e => exact ⟨_, _, _, rfl, rfl, hx, hy, hstats⟩
    | ok first =>
      cases scale arith x.stats reading.device_type Prod.snd with
      | error e => exact ⟨_, _, _, rfl, rfl, hx, hy, hstats⟩
      | ok second =>
        dsimp only
        rw [deviations_short hx, deviations_short hy]
        have hstats' : (x.appended (str reading.device_id) value).stats =
            (y.appended (str reading.device_id) value).stats := by
          rw [appended_stats, appended_stats, hstats]
        cases standardised arith reading.device_type value (first.1, second.1) (first.2, second.2) with
        | error e => exact ⟨_, _, _, rfl, rfl, short_appended hx _ _, short_appended hy _ _, hstats'⟩
        | ok z => exact ⟨_, _, _, rfl, rfl, short_appended hx _ _, short_appended hy _ _, hstats'⟩

theorem extract_rows_short (hx : x.Short) (hy : y.Short) (hstats : x.stats = y.stats)
    (readings : List (TelemetryReading U T)) :
    ((extract_rows arith str readings).call x).1 = ((extract_rows arith str readings).call y).1 := by
  unfold extract_rows
  induction readings generalizing x y with
  | nil => rfl
  | cons reading rest ih =>
    obtain ⟨outcome, x', y', hcall, hcall', hx', hy', hstats'⟩ := extract_row_short arith str hx hy hstats reading
    rw [List.mapM_cons, Raising.call_bind, Raising.call_bind, hcall, hcall']
    cases outcome with
    | error e => rfl
    | ok row =>
      dsimp only
      rw [Raising.call_bind, Raising.call_bind]
      have hrest := ih hx' hy' hstats'
      generalize (rest.mapM (extract_row arith str)).call x' = after_x at hrest
      generalize (rest.mapM (extract_row arith str)).call y' = after_y at hrest
      obtain ⟨rows, x''⟩ := after_x
      obtain ⟨rows', y''⟩ := after_y
      cases hrest
      cases rows with
      | error e => rfl
      | ok rows => rfl

end Short

section Sensitive

/-- A reading of a type that is not known, with one number. -/
def gas [Inhabited U] [Inhabited T] (ppm : PyFloat) : TelemetryReading U T where
  device_id := default
  device_type := "gas_sensor"
  timestamp := default
  payload := [("ppm", .float ppm)]
  metadata := []

variable [Inhabited U] [Inhabited T]

theorem values_gas (ppm : PyFloat) :
    values Arithmetic.binary64 (gas ppm : TelemetryReading U T) = .ok (ppm, .finite 0) := by
  rfl

theorem scale_gas (stats : FeatureStats F) (field : String × String → String) :
    scale arith stats "gas_sensor" field = .ok (arith.ofRat 0, arith.ofRat 1) := by
  rfl

theorem standardised_gas (value mean std : F × F) :
    standardised arith "gas_sensor" value mean std = .ok (arith.ofRat 0, arith.ofRat 0) := by
  rfl

theorem ofRat_one : Arithmetic.binary64.ofRat 1 = .finite 1 := by decide +kernel

theorem ofRat_two : Arithmetic.binary64.ofRat 2 = .finite 2 := by decide +kernel

theorem div_binary64 (a : PyFloat) {q : ℚ} (h : q ≠ 0) : ∃ c, Arithmetic.binary64.div a (.finite q) = .ok c := by
  cases a <;> simp [Arithmetic.binary64, PyFloat.div, h]

theorem median_binary64 {data : List PyFloat} (h : data ≠ []) : ∃ m, median Arithmetic.binary64 data = .ok m := by
  have hpos : 0 < data.length := List.length_pos_iff.mpr h
  unfold median
  dsimp only
  rw [List.length_insertionSort]
  have hget : ∀ i, i < data.length →
      ∃ m, (data.insertionSort fun a b => Arithmetic.binary64.lt b a = false)[i]? = some m := by
    intro i hi
    rw [← List.length_insertionSort (fun a b => Arithmetic.binary64.lt b a = false) data] at hi
    exact ⟨_, List.getElem?_eq_getElem hi⟩
  obtain ⟨m, hm⟩ := hget (data.length / 2) (by omega)
  split
  · rw [hm]
    exact ⟨m, rfl⟩
  · obtain ⟨before, hbefore⟩ := hget (data.length / 2 - 1) (by omega)
    rw [hm, hbefore, ofRat_two]
    exact div_binary64 _ two_ne_zero

/-- The `dev_*` features of a reading of gas, which are always there. -/
def gas_dev (window : List (PyFloat × PyFloat)) (ppm : PyFloat) : PyFloat × PyFloat :=
  match deviations Arithmetic.binary64 window (ppm, .finite 0) (.finite 1) (.finite 1) with
  | .ok dev => dev
  | .error _ => (.nan, .nan)

theorem deviation_gas {window : List PyFloat} (h : window ≠ []) (value : PyFloat) :
    ∃ dev, deviation Arithmetic.binary64 window value (.finite 1) = .ok dev := by
  obtain ⟨m, hm⟩ := median_binary64 h
  obtain ⟨dev, hdev⟩ := div_binary64 (Arithmetic.binary64.sub value m) one_ne_zero
  refine ⟨dev, ?_⟩
  unfold deviation
  rw [hm]
  exact hdev

theorem deviations_gas (window : List (PyFloat × PyFloat)) (ppm : PyFloat) :
    deviations Arithmetic.binary64 window (ppm, .finite 0) (.finite 1) (.finite 1) = .ok (gas_dev window ppm) := by
  have hok : ∃ dev, deviations Arithmetic.binary64 window (ppm, .finite 0) (.finite 1) (.finite 1) = .ok dev := by
    unfold deviations
    split
    · rename_i hlength
      have hne : window ≠ [] := List.ne_nil_of_length_pos (Nat.lt_of_lt_of_le (Nat.zero_lt_succ 4) hlength)
      obtain ⟨dev_a, ha⟩ := deviation_gas (mt List.map_eq_nil_iff.mp hne) ppm
      obtain ⟨dev_b, hb⟩ := deviation_gas (mt List.map_eq_nil_iff.mp hne) (PyFloat.finite 0)
      exact ⟨(dev_a, dev_b), by rw [ha, hb]; rfl⟩
    · exact ⟨_, rfl⟩
  obtain ⟨dev, hdev⟩ := hok
  unfold gas_dev
  rw [hdev]

/-- The row of a reading of gas by the readings before it. -/
def gas_row (window_size : ℕ) (past : List PyFloat) (ppm : PyFloat) : List PyFloat :=
  features Arithmetic.binary64 "gas_sensor" (.finite 0, .finite 0)
    (gas_dev (lastN window_size (past.map fun value => (value, .finite 0))) ppm)

theorem extract_row_gas {extractor : FeatureExtractor PyFloat} {window_size : ℕ} {past : List PyFloat}
    (hsize : extractor.window_size = window_size)
    (hwindow : extractor.window (str (default : U)) = lastN window_size (past.map fun value => (value, .finite 0)))
    (ppm : PyFloat) :
    ∃ extractor', (extract_row Arithmetic.binary64 str (gas ppm : TelemetryReading U T)).call extractor =
        (.ok (gas_row window_size past ppm), extractor') ∧
      extractor'.window_size = window_size ∧
      extractor'.window (str default) = lastN window_size ((past ++ [ppm]).map fun value => (value, .finite 0)) := by
  refine ⟨extractor.appended (str (default : U)) (ppm, .finite 0), ?_, ?_, ?_⟩
  · have hone : Arithmetic.binary64.ofRat 1 = .finite 1 := ofRat_one
    have htype : (gas ppm : TelemetryReading U T).device_type = "gas_sensor" := rfl
    have hdevice : (gas ppm : TelemetryReading U T).device_id = default := rfl
    rw [call_extract_row, values_gas, htype, hdevice, scale_gas, scale_gas, hone]
    dsimp only
    rw [hwindow, deviations_gas, standardised_gas]
    rfl
  · rw [appended_window_size, hsize]
  · rw [window_appended, if_pos rfl, hwindow, hsize, append_lastN, List.map_append]
    rfl

theorem extract_rows_gas (str : U → String) (window_size : ℕ) (stats : FeatureStats PyFloat) (ppms : List PyFloat) :
    ((extract_rows Arithmetic.binary64 str (ppms.map fun ppm => (gas ppm : TelemetryReading U T))).call
        (.new window_size stats)).1 = .ok (Raising.outputs (gas_row window_size) [] ppms) := by
  have hstep : ∀ (past : List PyFloat) (ppm : PyFloat) (extractor : FeatureExtractor PyFloat), True →
      (extractor.window_size = window_size ∧
        extractor.window (str default) = lastN window_size (past.map fun value => (value, .finite 0))) →
      ∃ extractor', (extract_row Arithmetic.binary64 str (gas ppm : TelemetryReading U T)).call extractor =
          (.ok (gas_row window_size past ppm), extractor') ∧
        extractor'.window_size = window_size ∧
        extractor'.window (str default) = lastN window_size ((past ++ [ppm]).map fun value => (value, .finite 0)) :=
    fun _ ppm _ _ h => extract_row_gas h.1 h.2 ppm
  have hfresh : (FeatureExtractor.new window_size stats).window (str default) =
      lastN window_size (([] : List PyFloat).map fun value => (value, .finite 0)) := List.drop_nil.symm
  obtain ⟨extractor', hcall, -⟩ := Raising.call_mapM hstep ppms [] (.new window_size stats) (fun _ _ => trivial)
    ⟨rfl, hfresh⟩
  rw [extract_rows, List.mapM_map]
  exact congrArg Prod.fst hcall

/-- What two windows make of the last of some readings is the same. -/
theorem gas_dev_eq_of_rows_eq {size size' : ℕ} {stats : FeatureStats PyFloat} {history : List PyFloat} {ppm : PyFloat}
    (h : ∀ readings : List (TelemetryReading U T),
      ((extract_rows Arithmetic.binary64 str readings).call (.new size stats)).1 =
        ((extract_rows Arithmetic.binary64 str readings).call (.new size' stats)).1) :
    clip Arithmetic.binary64 (gas_dev (lastN size (history.map fun value => (value, .finite 0))) ppm).1 =
      clip Arithmetic.binary64 (gas_dev (lastN size' (history.map fun value => (value, .finite 0))) ppm).1 := by
  have hrows := h ((history ++ [ppm]).map fun ppm => gas ppm)
  rw [extract_rows_gas, extract_rows_gas, Except.ok.injEq, Raising.outputs_append, Raising.outputs_append] at hrows
  have hlast := (List.append_inj' hrows rfl).2
  have hrow : gas_row size history ppm = gas_row size' history ppm := List.singleton_injective hlast
  exact Option.some.inj (congrArg (fun row : List PyFloat => row[2]?) hrow)

end Sensitive

section ZerosOnes

/-- The median of so many zeros and ones. -/
def half (zeros ones : ℕ) : PyFloat :=
  if ones < zeros then .finite 0 else if zeros = ones then .finite (1 / 2) else .finite 1

/-- Some zeros, and then some ones. -/
def zeros_ones (zeros ones : ℕ) : List PyFloat :=
  List.replicate zeros (.finite 0) ++ List.replicate ones (.finite 1)

theorem length_zeros_ones (zeros ones : ℕ) : (zeros_ones zeros ones).length = zeros + ones := by
  rw [zeros_ones, List.length_append, List.length_replicate, List.length_replicate]

theorem getElem?_zeros_ones {zeros ones i : ℕ} (h : i < zeros + ones) :
    (zeros_ones zeros ones)[i]? = some (if i < zeros then .finite 0 else .finite 1) := by
  unfold zeros_ones
  split
  · rename_i hzero
    rw [List.getElem?_append_left (by rw [List.length_replicate]; exact hzero), List.getElem?_replicate, if_pos hzero]
  · rename_i hone
    rw [List.getElem?_append_right (by rw [List.length_replicate]; omega), List.length_replicate,
      List.getElem?_replicate, if_pos (by omega)]

theorem sorted_zeros_ones (zeros ones : ℕ) :
    ((zeros_ones zeros ones).insertionSort fun a b => Arithmetic.binary64.lt b a = false) = zeros_ones zeros ones := by
  refine List.Pairwise.insertionSort_eq (List.pairwise_append.mpr ⟨?_, ?_, ?_⟩)
  · exact List.pairwise_replicate.mpr (.inr (by decide +kernel))
  · exact List.pairwise_replicate.mpr (.inr (by decide +kernel))
  · intro a ha b hb
    rw [List.eq_of_mem_replicate ha, List.eq_of_mem_replicate hb]
    decide +kernel

theorem median_zeros_ones {zeros ones : ℕ} (h : 0 < zeros + ones) :
    median Arithmetic.binary64 (zeros_ones zeros ones) = .ok (half zeros ones) := by
  unfold median half
  rw [sorted_zeros_ones]
  dsimp only
  rw [length_zeros_ones, getElem?_zeros_ones (by omega)]
  split
  · -- An odd number of values has one in the middle.
    obtain hfew | hmany := Nat.lt_or_ge ones zeros
    · rw [if_pos (by omega), if_pos hfew]
    · rw [if_neg (by omega), if_neg (by omega), if_neg (by omega)]
  · rw [getElem?_zeros_ones (by omega)]
    dsimp only
    obtain hfew | heq | hmany := Nat.lt_trichotomy ones zeros
    · rw [if_pos (by omega), if_pos (by omega), if_pos hfew]
      decide +kernel
    · rw [if_pos (by omega), if_neg (by omega), if_neg (by omega), if_pos heq.symm]
      decide +kernel
    · rw [if_neg (by omega), if_neg (by omega), if_neg (by omega), if_neg (by omega)]
      decide +kernel

/-- What the middle of some zeros and ones makes of a zero. -/
theorem gas_dev_zeros_ones {zeros ones : ℕ} (h : MIN_HISTORY ≤ zeros + ones) :
    (gas_dev ((zeros_ones zeros ones).map fun value => (value, .finite 0)) (.finite 0)).1 =
      if ones < zeros then .finite 0 else if zeros = ones then .finite (-1 / 2) else .finite (-1) := by
  have hlength : ((zeros_ones zeros ones).map fun value => (value, PyFloat.finite 0)).length ≥ MIN_HISTORY := by
    rw [List.length_map, length_zeros_ones]
    exact h
  have hfst : ((zeros_ones zeros ones).map fun value => (value, PyFloat.finite 0)).map Prod.fst =
      zeros_ones zeros ones := by
    rw [List.map_map]
    exact List.map_id _
  have hdev := deviations_gas ((zeros_ones zeros ones).map fun value => (value, .finite 0)) (.finite 0)
  unfold deviations at hdev
  rw [if_pos hlength, hfst] at hdev
  obtain ⟨dev_a, ha, hrest⟩ := Except.bind_ok_iff.mp hdev
  obtain ⟨dev_b, -, hpair⟩ := Except.bind_ok_iff.mp hrest
  rw [← Except.ok.inj hpair]
  unfold deviation at ha
  rw [median_zeros_ones (Nat.lt_of_lt_of_le (Nat.zero_lt_succ 4) h)] at ha
  have hvalue : Arithmetic.binary64.div (Arithmetic.binary64.sub (.finite 0) (half zeros ones)) (.finite 1) =
      .ok dev_a := ha
  refine Except.ok.inj (hvalue.symm.trans ?_)
  unfold half
  split
  · decide +kernel
  · split <;> decide +kernel

theorem lastN_zeros_ones {size zeros ones : ℕ} (hones : ones ≤ size) (hsize : size ≤ zeros + ones) :
    lastN size (zeros_ones zeros ones) = zeros_ones (size - ones) ones := by
  unfold lastN zeros_ones
  rw [List.length_append, List.length_replicate, List.length_replicate,
    List.drop_append_of_le_length (by rw [List.length_replicate]; omega), List.drop_replicate]
  congr 2
  omega

theorem gas_dev_short {window : List (PyFloat × PyFloat)} (h : window.length < MIN_HISTORY) (ppm : PyFloat) :
    (gas_dev window ppm).1 = .finite 0 := by
  unfold gas_dev deviations
  rw [if_neg (Nat.not_le.mpr h)]
  rfl

/-- Enough readings for the larger window to have another median than the smaller one. -/
theorem exists_sensitive {size size' : ℕ} (hlt : size < size') (hsize' : MIN_HISTORY ≤ size') :
    ∃ history : List PyFloat,
      clip Arithmetic.binary64 (gas_dev (lastN size (history.map fun value => (value, .finite 0))) (.finite 0)).1 ≠
        clip Arithmetic.binary64 (gas_dev (lastN size' (history.map fun value => (value, .finite 0))) (.finite 0)).1 := by
  by_cases hshort : size < MIN_HISTORY
  · -- Five ones are too few for the smaller window.
    refine ⟨zeros_ones 0 5, ?_⟩
    have hall : lastN size' (zeros_ones 0 5) = zeros_ones 0 5 := lastN_of_length_le hsize'
    have hsmall : (lastN size ((zeros_ones 0 5).map fun value => (value, PyFloat.finite 0))).length < MIN_HISTORY := by
      rw [length_lastN]
      exact lt_of_le_of_lt (Nat.min_le_left _ _) hshort
    rw [gas_dev_short hsmall, ← map_lastN, hall, gas_dev_zeros_ones (by decide)]
    decide +kernel
  · -- Up to half of the smaller window are ones, and all that is older are zeros.
    have hmin : MIN_HISTORY ≤ size := Nat.not_lt.mp hshort
    refine ⟨zeros_ones (size' - (size + 1) / 2) ((size + 1) / 2), ?_⟩
    rw [← map_lastN, ← map_lastN, lastN_zeros_ones (by omega) (by omega), lastN_zeros_ones (by omega) (by omega),
      gas_dev_zeros_ones (by omega), gas_dev_zeros_ones (by omega)]
    obtain heven | hodd := Nat.mod_two_eq_zero_or_one size
    · rw [if_neg (by omega), if_pos (by omega), if_pos (by omega)]
      decide +kernel
    · rw [if_neg (by omega), if_neg (by omega)]
      split
      · decide +kernel
      · rw [if_pos (by omega)]
        decide +kernel

end ZerosOnes

/-- The rows do not depend on the window size exactly if no window gets long enough for a median. -/
theorem extract_rows_eq_iff [Inhabited U] [Inhabited T] (str : U → String) (size size' : ℕ)
    (stats : FeatureStats PyFloat) :
    (∀ readings : List (TelemetryReading U T),
      ((extract_rows Arithmetic.binary64 str readings).call (.new size stats)).1 =
        ((extract_rows Arithmetic.binary64 str readings).call (.new size' stats)).1) ↔
      size = size' ∨ size < MIN_HISTORY ∧ size' < MIN_HISTORY := by
  constructor
  · intro h
    by_contra hnot
    obtain ⟨hne, hlong⟩ := not_or.mp hnot
    obtain hlt | hlt := Nat.lt_or_gt_of_ne hne
    · obtain ⟨history, hdiffer⟩ := exists_sensitive hlt (by omega)
      exact hdiffer (gas_dev_eq_of_rows_eq h)
    · obtain ⟨history, hdiffer⟩ := exists_sensitive hlt (by omega)
      exact hdiffer (gas_dev_eq_of_rows_eq fun readings => (h readings).symm)
  · rintro (rfl | ⟨hsize, hsize'⟩) readings
    · rfl
    · exact extract_rows_short (short_new hsize stats) (short_new hsize' stats) rfl readings

end gateway.feature_extractor
