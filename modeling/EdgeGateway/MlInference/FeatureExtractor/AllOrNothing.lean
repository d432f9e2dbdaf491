import EdgeGateway.MlInference.FeatureExtractor.Windows

open gateway.telemetry

namespace gateway.feature_extractor

/-- Floats that are not rounded: a finite result is exact, and infinities and NaN
behave as they always do. -/
def Arithmetic.unrounded : Arithmetic PyFloat where
  float := JsonValue.toFloat
  ofRat := .finite
  lt := PyFloat.lt
  add
    | .finite a, .finite b => .finite (a + b)
    | a, b => a.add b
  sub
    | .finite a, .finite b => .finite (a - b)
    | a, b => a.sub b
  div
    | .finite a, .finite b => if b = 0 then .error .ZeroDivisionError else .ok (.finite (a / b))
    | a, b =>
      match a.div b with
      | some c => .ok c
      | none => .error .ZeroDivisionError

/-- What the features need of an arithmetic on floats. -/
structure Arithmetic.Floats (arith : Arithmetic PyFloat) : Prop where
  float_eq : arith.float = JsonValue.toFloat
  lt_eq : arith.lt = PyFloat.lt
  div_ok : ∀ a b, b ≠ .finite 0 → ∃ c, arith.div a b = .ok c
  one : arith.ofRat 1 = .finite 1
  two : arith.ofRat 2 = .finite 2
  least : ∃ q > 0, arith.ofRat (1 / 1000000) = .finite q
  upper : arith.ofRat 1000 = .finite 1000
  lower : arith.ofRat (-1000) = .finite (-1000)

theorem div_eq_some {a b : PyFloat} (h : b ≠ .finite 0) : ∃ c, a.div b = some c := by
  cases a <;> cases b <;> simp_all [PyFloat.div]

theorem unrounded_floats : Arithmetic.unrounded.Floats where
  float_eq := rfl
  lt_eq := rfl
  div_ok a b h := by
    obtain ⟨c, hc⟩ := div_eq_some (a := a) h
    cases a <;> cases b <;> simp_all [Arithmetic.unrounded]
  one := rfl
  two := rfl
  least := ⟨1 / 1000000, by norm_num, rfl⟩
  upper := rfl
  lower := rfl

theorem binary64_floats : Arithmetic.binary64.Floats where
  float_eq := rfl
  lt_eq := rfl
  div_ok a b h := by
    obtain ⟨c, hc⟩ := div_eq_some (a := a) h
    exact ⟨c, by simp [Arithmetic.binary64, hc]⟩
  one := by decide +kernel
  two := by decide +kernel
  least := ⟨4722366482869645 / 2 ^ 72, by norm_num, by decide +kernel⟩
  upper := by decide +kernel
  lower := by decide +kernel

section Parts

variable {U T : Type} {arith : Arithmetic PyFloat} (h : arith.Floats)
include h

/-- What limits a feature from both sides makes a number of everything, also of a NaN. -/
theorem clip_bounds (x : PyFloat) : ∃ q : ℚ, clip arith x = .finite q ∧ -1000 ≤ q ∧ q ≤ 1000 := by
  unfold clip py_max py_min
  rw [h.lt_eq, h.upper, h.lower]
  cases x with
  | nan => exact ⟨1000, by norm_num [PyFloat.lt], by norm_num, le_refl _⟩
  | inf negative =>
    cases negative with
    | false => exact ⟨1000, by norm_num [PyFloat.lt], by norm_num, le_refl _⟩
    | true => exact ⟨-1000, by norm_num [PyFloat.lt], le_refl _, by norm_num⟩
  | finite q =>
    by_cases hupper : q < 1000
    · by_cases hlower : -1000 < q
      · exact ⟨q, by simp [PyFloat.lt, hupper, hlower], hlower.le, hupper.le⟩
      · exact ⟨-1000, by simp [PyFloat.lt, hupper, hlower], le_refl _, by norm_num⟩
    · exact ⟨1000, by norm_num [PyFloat.lt, hupper], by norm_num, le_refl _⟩

/-- A NaN stays one, and all that is too small is raised. -/
theorem py_max_least_ne_zero (std : PyFloat) :
    py_max arith std (arith.ofRat (1 / 1000000)) ≠ .finite 0 := by
  obtain ⟨q, hpos, hq⟩ := h.least
  unfold py_max
  rw [h.lt_eq, hq]
  split
  · simpa using hpos.ne'
  · rename_i hnot
    intro hzero
    rw [hzero] at hnot
    simp [PyFloat.lt, hpos] at hnot

theorem scale_ne_zero {stats : FeatureStats PyFloat} {device_type : String} {field : String × String → String}
    {mean std : PyFloat}
    (hscale : scale arith stats device_type field = .ok (mean, std)) : std ≠ .finite 0 := by
  have hone : arith.ofRat 1 ≠ .finite 0 := by
    rw [h.one]
    simp
  unfold scale at hscale
  split at hscale
  · split at hscale
    · cases hscale
      exact hone
    · split at hscale
      · cases hscale
      · cases hscale
        exact py_max_least_ne_zero h _
      · cases hscale
  · cases hscale
    exact hone

theorem median_ok {data : List PyFloat} (hdata : data ≠ []) : ∃ m, median arith data = .ok m := by
  have hpos : 0 < data.length := List.length_pos_iff.mpr hdata
  unfold median
  generalize hsorted : (data.insertionSort fun a b => arith.lt b a = false) = sorted
  have hlength : sorted.length = data.length := by rw [← hsorted, List.length_insertionSort]
  dsimp only
  split
  · have hmiddle : sorted.length / 2 < sorted.length := by omega
    rw [List.getElem?_eq_getElem hmiddle]
    exact ⟨_, rfl⟩
  · have hmiddle : sorted.length / 2 < sorted.length := by omega
    have hbefore : sorted.length / 2 - 1 < sorted.length := by omega
    rw [List.getElem?_eq_getElem hmiddle, List.getElem?_eq_getElem hbefore]
    exact h.div_ok _ _ (by simp [h.two])

theorem deviation_ok {window : List PyFloat} (hwindow : window ≠ []) (value : PyFloat) {std : PyFloat}
    (hstd : std ≠ .finite 0) : ∃ dev, deviation arith window value std = .ok dev := by
  obtain ⟨m, hm⟩ := median_ok h hwindow
  obtain ⟨dev, hdev⟩ := h.div_ok (arith.sub value m) std hstd
  refine ⟨dev, ?_⟩
  unfold deviation
  rw [hm]
  exact hdev

theorem deviations_ok (window : List (PyFloat × PyFloat)) (value : PyFloat × PyFloat) {std_a std_b : PyFloat}
    (ha : std_a ≠ .finite 0) (hb : std_b ≠ .finite 0) :
    ∃ dev, deviations arith window value std_a std_b = .ok dev := by
  unfold deviations
  split
  · rename_i hlong
    have hne : ∀ pick : PyFloat × PyFloat → PyFloat, window.map pick ≠ [] := by
      intro pick
      rw [← List.length_pos_iff, List.length_map]
      exact lt_of_lt_of_le (by decide) hlong
    obtain ⟨dev_a, hdev_a⟩ := deviation_ok h (hne Prod.fst) value.1 ha
    obtain ⟨dev_b, hdev_b⟩ := deviation_ok h (hne Prod.snd) value.2 hb
    rw [hdev_a, hdev_b]
    exact ⟨_, rfl⟩
  · exact ⟨_, rfl⟩

theorem standardised_ok (device_type : String) (value mean : PyFloat × PyFloat) {std_a std_b : PyFloat}
    (ha : std_a ≠ .finite 0) (hb : std_b ≠ .finite 0) :
    ∃ z, standardised arith device_type value mean (std_a, std_b) = .ok z := by
  unfold standardised
  split
  · obtain ⟨z_a, hz_a⟩ := h.div_ok (arith.sub value.1 mean.1) std_a ha
    obtain ⟨z_b, hz_b⟩ := h.div_ok (arith.sub value.2 mean.2) std_b hb
    rw [hz_a, hz_b]
    exact ⟨_, rfl⟩
  · exact ⟨_, rfl⟩

end Parts

section Errors

variable {U T : Type}

theorem toFloat_ne_zero_division (value : JsonValue) : value.toFloat ≠ .error .ZeroDivisionError := by
  unfold JsonValue.toFloat
  split
  · simp
  · split <;> simp
  · simp
  · split <;> simp
  all_goals simp

theorem bind_eq_error {α β : Type} {x : Except PyExc α} {f : α → Except PyExc β} {e : PyExc}
    (h : x >>= f = .error e) : x = .error e ∨ ∃ a, f a = .error e := by
  cases x with
  | error e' =>
    cases h
    exact .inl rfl
  | ok a => exact .inr ⟨a, h⟩

theorem mapM_eq_error {α β : Type} {f : α → Except PyExc β} {e : PyExc} {l : List α} (h : l.mapM f = .error e) :
    ∃ a ∈ l, f a = .error e := by
  induction l with
  | nil => cases h
  | cons a rest ih =>
    rw [List.mapM_cons] at h
    obtain ha | ⟨b, h⟩ := bind_eq_error h
    · exact ⟨a, List.mem_cons_self, ha⟩
    · obtain hrest | ⟨bs, h⟩ := bind_eq_error h
      · obtain ⟨a', ha', hfa'⟩ := ih hrest
        exact ⟨a', List.mem_cons_of_mem a ha', hfa'⟩
      · cases h

theorem numeric_values_ne_zero_division {arith : Arithmetic PyFloat} (h : arith.float = JsonValue.toFloat)
    (payload : List (String × JsonValue)) : numeric_values arith payload ≠ .error .ZeroDivisionError := by
  intro hvalues
  unfold numeric_values at hvalues
  obtain hnumeric | ⟨numeric, hpick⟩ := bind_eq_error hvalues
  · obtain ⟨field, -, hfield⟩ := mapM_eq_error hnumeric
    rw [h] at hfield
    exact toFloat_ne_zero_division field.2 hfield
  · split at hpick <;> cases hpick

theorem values_ne_zero_division {arith : Arithmetic PyFloat} (h : arith.float = JsonValue.toFloat)
    (reading : TelemetryReading U T) : values arith reading ≠ .error .ZeroDivisionError := by
  have hnumeric := numeric_values_ne_zero_division h reading.payload
  unfold values
  split
  · split
    · rename_i a b _ _
      rw [h]
      intro hpair
      obtain ha | ⟨x, hpair⟩ := bind_eq_error hpair
      · exact toFloat_ne_zero_division a ha
      · obtain hb | ⟨y, hpair⟩ := bind_eq_error hpair
        · exact toFloat_ne_zero_division b hb
        · cases hpair
    · exact hnumeric
  · exact hnumeric

theorem scale_ne_zero_division (arith : Arithmetic PyFloat) (stats : FeatureStats PyFloat) (device_type : String)
    (field : String × String → String) : scale arith stats device_type field ≠ .error .ZeroDivisionError := by
  unfold scale
  split
  · split
    · simp
    · split <;> simp
  · simp

end Errors

section Call

variable {U T : Type} {arith : Arithmetic PyFloat} (str : U → String)

/-- One row was returned, and one pair went into the window of its device. -/
structure Extracted (device_key : String) (before after : FeatureExtractor PyFloat) (row : List PyFloat) : Prop where
  length : row.length = N_FEATURES
  bounds : ∀ x ∈ row, ∃ q : ℚ, x = .finite q ∧ -1000 ≤ q ∧ q ≤ 1000
  pair : ∃ pair,
    ((before.window device_key).length < before.window_size →
      after.windows.get? device_key = some (before.window device_key ++ [pair])) ∧
    ((before.window device_key).length = before.window_size →
      after.windows.get? device_key = some (before.window device_key ++ [pair]).tail)
  others : ∀ key, key ≠ device_key → after.windows.get? key = before.windows.get? key
  stats : after.stats = before.stats
  window_size : after.window_size = before.window_size

theorem append_of_room {α : Type} {maxlen : ℕ} {window : List α} (h : window.length < maxlen) (value : α) :
    append maxlen window value = window ++ [value] := by
  have hnone : window.length + 1 - maxlen = 0 := by omega
  rw [append, hnone, List.drop_zero]

theorem append_of_full {α : Type} {maxlen : ℕ} {window : List α} (h : window.length = maxlen) (value : α) :
    append maxlen window value = (window ++ [value]).tail := by
  have hone : window.length + 1 - maxlen = 1 := by omega
  rw [append, hone, List.drop_one]

theorem get?_appended_of_ne (extractor : FeatureExtractor PyFloat) {device_key key : String} (hne : key ≠ device_key)
    (value : PyFloat × PyFloat) :
    (extractor.appended device_key value).windows.get? key = extractor.windows.get? key := by
  rw [FeatureExtractor.appended, Dict.get?_set_of_ne _ _ hne]
  unfold FeatureExtractor.opened
  split
  · exact Dict.get?_set_of_ne _ _ hne
  · rfl

theorem appended_extracted (h : arith.Floats) (extractor : FeatureExtractor PyFloat) (device_key : String)
    (value : PyFloat × PyFloat) (device_type : String) (z dev : PyFloat × PyFloat) :
    Extracted device_key extractor (extractor.appended device_key value) (features arith device_type z dev) where
  length := rfl
  bounds x hx := by
    obtain ⟨y, -, rfl⟩ := List.mem_map.mp hx
    exact clip_bounds h y
  pair := by
    have hget : (extractor.appended device_key value).windows.get? device_key =
        some (append extractor.window_size (extractor.window device_key) value) := Dict.get?_set_self ..
    refine ⟨value, ?_, ?_⟩
    · intro hroom
      rw [hget, append_of_room hroom]
    · intro hfull
      rw [hget, append_of_full hfull]
  others key hne := get?_appended_of_ne extractor hne value
  stats := appended_stats extractor device_key value
  window_size := appended_window_size extractor device_key value

/-- A reading is refused before any window is touched, or it makes a row. -/
theorem extract_row_cases (h : arith.Floats) (reading : TelemetryReading U T) (extractor : FeatureExtractor PyFloat) :
    (∃ e, (extract_row arith str reading).call extractor = (.error e, extractor) ∧ e ≠ .ZeroDivisionError) ∨
      ∃ row extractor', (extract_row arith str reading).call extractor = (.ok row, extractor') ∧
        Extracted (str reading.device_id) extractor extractor' row := by
  rw [call_extract_row]
  have hvalues := values_ne_zero_division h.float_eq reading
  have hscale := scale_ne_zero_division arith extractor.stats reading.device_type
  cases hvalue : values arith reading with
  | error e =>
    rw [hvalue] at hvalues
    exact .inl ⟨e, rfl, fun he => hvalues (congrArg _ he)⟩
  | ok value =>
    cases hfirst : scale arith extractor.stats reading.device_type Prod.fst with
    | error e => exact .inl ⟨e, rfl, fun he => hscale Prod.fst (hfirst.trans (congrArg _ he))⟩
    | ok first =>
      cases hsecond : scale arith extractor.stats reading.device_type Prod.snd with
      | error e => exact .inl ⟨e, rfl, fun he => hscale Prod.snd (hsecond.trans (congrArg _ he))⟩
      | ok second =>
        obtain ⟨mean_a, std_a⟩ := first
        obtain ⟨mean_b, std_b⟩ := second
        have ha := scale_ne_zero h hfirst
        have hb := scale_ne_zero h hsecond
        obtain ⟨dev, hdev⟩ := deviations_ok h (extractor.window (str reading.device_id)) value ha hb
        obtain ⟨z, hz⟩ := standardised_ok h reading.device_type value (mean_a, mean_b) ha hb
        dsimp only
        rw [hdev]
        dsimp only
        rw [hz]
        exact .inr ⟨_, _, rfl, appended_extracted h extractor _ value reading.device_type z dev⟩

end Call

/-- `extract_row` is all or nothing, with exact numbers for all finite values. -/
theorem extract_row_all_or_nothing {U T : Type} (str : U → String) (reading : TelemetryReading U T)
    (extractor : FeatureExtractor PyFloat) :
    (∃ e, (extract_row .unrounded str reading).call extractor = (.error e, extractor) ∧ e ≠ .ZeroDivisionError) ∨
      ∃ row extractor', (extract_row .unrounded str reading).call extractor = (.ok row, extractor') ∧
        Extracted (str reading.device_id) extractor extractor' row :=
  extract_row_cases str unrounded_floats reading extractor

/-- Rounding makes no difference to it. -/
theorem extract_row_binary64 {U T : Type} (str : U → String) (reading : TelemetryReading U T)
    (extractor : FeatureExtractor PyFloat) :
    (∃ e, (extract_row .binary64 str reading).call extractor = (.error e, extractor) ∧ e ≠ .ZeroDivisionError) ∨
      ∃ row extractor', (extract_row .binary64 str reading).call extractor = (.ok row, extractor') ∧
        Extracted (str reading.device_id) extractor extractor' row :=
  extract_row_cases str binary64_floats reading extractor

end gateway.feature_extractor
