import EdgeGateway.Library.PyRound
import EdgeGateway.Library.Transition

namespace gateway.temperature_sensor

/-- What the module `math` has of the daily cycle. -/
structure Math where
  pi : ℚ
  sin : ℚ → ℚ

/-- Generate a sinusoidal value. -/
def sinusoidal (math : Math) (amplitude frequency offset time : ℚ) : ℚ :=
  offset + amplitude * math.sin (2 * math.pi * frequency * time)

/-- Sensor drift grows linearly with the number of elapsed steps. -/
def drift_anomaly (base_value drift_rate : ℚ) (elapsed_steps : ℕ) : ℚ := base_value + drift_rate * elapsed_steps

def stuck_sensor (last_value : ℚ) : ℚ := last_value

def TEMP_MIN : ℚ := 18
def TEMP_MAX : ℚ := 28
def HUMIDITY_MIN : ℚ := 40
def HUMIDITY_MAX : ℚ := 60
def SPIKE_LOW : ℚ := 80
def SPIKE_HIGH : ℚ := 120
def DRIFT_INCREASE : ℚ := 20
def DRIFT_RATE : ℚ := 1 / 2

/-- The choice of an anomaly, with the random number that a spike draws. -/
inductive AnomalyType where
  | spike (temperature : ℚ)
  | drift
  | stuck

structure Reading where
  temperature_celsius : ℚ
  humidity_percent : ℚ
  unit : String := "celsius"
  anomaly : Bool
  anomaly_type : Option String := none

structure TemperatureSensor where
  time_offset : ℚ := 0
  last_temperature : Option ℚ := none
  drift_steps : ℕ := 0

namespace TemperatureSensor

variable (math : Math) (self : TemperatureSensor)

/-- The daily cycle with the noise that was drawn. -/
def normal_temperature (noise : ℚ) : ℚ :=
  sinusoidal math ((TEMP_MAX - TEMP_MIN) / 2) (1 / 24) ((TEMP_MAX + TEMP_MIN) / 2) self.time_offset + noise

def normal_humidity (noise : ℚ) : ℚ := (HUMIDITY_MAX + HUMIDITY_MIN) / 2 + noise

def humidity_percent (noise : ℚ) : ℚ := PyRound.round (max 0 (min 100 (normal_humidity noise))) 2

/-- Generate a normal temperature + humidity reading. -/
def generate_reading (temperature_noise humidity_noise : ℚ) : TemperatureSensor × Reading :=
  let temperature := self.normal_temperature math temperature_noise
  ({ time_offset := self.time_offset + 1, last_temperature := some temperature, drift_steps := 0 },
    { temperature_celsius := PyRound.round temperature 2, humidity_percent := humidity_percent humidity_noise
      anomaly := false })

/-- The temperature that an anomaly starts from. -/
def base : ℚ := self.last_temperature.getD 23

/-- Generate an anomalous temperature reading. -/
def generate_anomaly (anomaly_type : AnomalyType) (humidity_noise : ℚ) : TemperatureSensor × Reading :=
  let (temperature, drift_steps, name) :=
    match anomaly_type with
    | .spike temperature => (temperature, self.drift_steps, "spike")
    | .drift =>
      let drift_steps := self.drift_steps + 1
      -- "Cap at the configured maximum drift increase above the base"
      (min (drift_anomaly self.base DRIFT_RATE drift_steps) (self.base + DRIFT_INCREASE), drift_steps, "drift")
    | .stuck => (stuck_sensor self.base, self.drift_steps, "stuck")
  ({ time_offset := self.time_offset + 1, last_temperature := some temperature, drift_steps },
    { temperature_celsius := PyRound.round temperature 2, humidity_percent := humidity_percent humidity_noise
      anomaly := true, anomaly_type := some name })

end TemperatureSensor

/-- A sensor with what it has last reported, and what a reader knows of its history. -/
structure State where
  sensor : TemperatureSensor := {}
  reading : Option Reading := none
  /-- The temperature of the most recent normal reading. -/
  normal : Option ℚ := none
  /-- A spike has been reported since. -/
  spiked : Bool := false

/-- The most recent normal temperature, or 23 degrees before there is one. -/
def State.normal_temperature (s : State) : ℚ := s.normal.getD 23

inductive Action where
  | generate_reading (temperature_noise humidity_noise : ℚ)
  | generate_anomaly (anomaly_type : AnomalyType) (humidity_noise : ℚ)

/-- One reading drawn from the sensor. A spike is drawn from its range. -/
def step (math : Math) (s : State) : Action → Option State
  | .generate_reading temperature_noise humidity_noise =>
    let (sensor, reading) := s.sensor.generate_reading math temperature_noise humidity_noise
    some { sensor, reading := some reading, normal := sensor.last_temperature, spiked := false }
  | .generate_anomaly anomaly_type humidity_noise =>
    let (sensor, reading) := s.sensor.generate_anomaly anomaly_type humidity_noise
    match anomaly_type with
    | .spike temperature =>
      if SPIKE_LOW ≤ temperature ∧ temperature ≤ SPIKE_HIGH then some { s with sensor, reading := some reading, spiked := true }
      else none
    | _ => some { s with sensor, reading := some reading }

def system (math : Math) : TransitionSystem State Action where
  initial s := s = {}
  step := step math

/-- A drift reading is at most 20 degrees above the most recent normal temperature, as it is
generated and as both are reported. -/
def Capped (s : State) : Prop :=
  ∀ reading ∈ s.reading, reading.anomaly_type = some "drift" →
    s.sensor.base ≤ s.normal_temperature + 20 ∧
      reading.temperature_celsius ≤ PyRound.round s.normal_temperature 2 + 20

/-- By how much the next drift step raises the temperature. -/
def next_increase (drift_steps : ℕ) : ℚ := min (DRIFT_RATE * (drift_steps + 1 : ℕ)) DRIFT_INCREASE

/-- A drift starts from a reading that is low enough for its next step. -/
def LowEnough (s : State) : Action → Prop
  | .generate_anomaly .drift _ => s.sensor.base - s.normal_temperature ≤ 20 - next_increase s.sensor.drift_steps
  | _ => True

instance (s : State) : ∀ a, Decidable (LowEnough s a)
  | .generate_anomaly .drift _ => inferInstanceAs (Decidable (_ ≤ _))
  | .generate_anomaly (.spike _) _ => isTrue trivial
  | .generate_anomaly .stuck _ => isTrue trivial
  | .generate_reading _ _ => isTrue trivial

/-- How far the first drift steps add up. -/
def total_drift : ℕ → ℚ
  | 0 => 0
  | k + 1 => total_drift k + next_increase k

section Drift

variable {math : Math} {s s' : State} {humidity_noise : ℚ}

theorem base_drift (self : TemperatureSensor) (humidity_noise : ℚ) :
    (self.generate_anomaly .drift humidity_noise).1.base = self.base + next_increase self.drift_steps := by
  rw [next_increase, ← min_add_add_left]
  rfl

/-- A drift reading is capped exactly if it starts low enough. -/
theorem capped_drift_iff (hstep : step math s (.generate_anomaly .drift humidity_noise) = some s') :
    Capped s' ↔ LowEnough s (.generate_anomaly .drift humidity_noise) := by
  cases hstep
  have hbase := base_drift s.sensor humidity_noise
  have hlow : LowEnough s (.generate_anomaly .drift humidity_noise) ↔
      (s.sensor.generate_anomaly .drift humidity_noise).1.base ≤ s.normal_temperature + 20 := by
    rw [hbase, LowEnough]
    constructor <;> intro h <;> linarith
  rw [hlow]
  constructor
  · intro hcapped
    exact (hcapped _ rfl rfl).1
  · intro hle reading hreading _
    cases hreading
    refine ⟨hle, ?_⟩
    have hround := PyRound.round_mono hle 2
    have hshift := @PyRound.round_add_even 2000 (by decide) s.normal_temperature 2
    norm_num at hshift
    rw [hshift] at hround
    exact hround

theorem capped_of_step {a : Action} (hlow : LowEnough s a) (hstep : step math s a = some s') : Capped s' := by
  have hspike : some "spike" ≠ some "drift" := by decide
  have hstuck : some "stuck" ≠ some "drift" := by decide
  cases a with
  | generate_reading temperature_noise humidity_noise =>
    cases hstep
    intro reading hreading hdrift
    cases hreading
    cases hdrift
  | generate_anomaly anomaly_type humidity_noise =>
    cases anomaly_type with
    | spike temperature =>
      simp only [step] at hstep
      split at hstep
      · cases hstep
        intro reading hreading hdrift
        cases hreading
        exact absurd hdrift hspike
      · cases hstep
    | drift => exact (capped_drift_iff hstep).mpr hlow
    | stuck =>
      cases hstep
      intro reading hreading hdrift
      cases hreading
      exact absurd hdrift hstuck

/-- Without a spike, the temperature is as far above the normal one as the drift steps add up to. -/
theorem base_of_not_spiked (h : (system math).Reachable s) (hspiked : s.spiked = false) :
    s.sensor.base = s.normal_temperature + total_drift s.sensor.drift_steps := by
  revert hspiked
  refine TransitionSystem.ReachableWhere.invariant
    (P := fun s => s.spiked = false → s.sensor.base = s.normal_temperature + total_drift s.sensor.drift_steps) ?_ ?_ h
  · rintro s rfl _
    exact (add_zero 23).symm
  · intro s a s' hbefore _ hstep hspiked
    cases a with
    | generate_reading temperature_noise humidity_noise =>
      cases hstep
      exact (add_zero _).symm
    | generate_anomaly anomaly_type humidity_noise =>
      cases anomaly_type with
      | spike temperature =>
        simp only [system, step] at hstep
        split at hstep
        · cases hstep
          cases hspiked
        · cases hstep
      | drift =>
        cases hstep
        refine (base_drift s.sensor humidity_noise).trans ?_
        rw [hbefore hspiked, add_assoc]
        rfl
      | stuck =>
        cases hstep
        exact hbefore hspiked

theorem next_increase_nonneg (k : ℕ) : 0 ≤ next_increase k :=
  le_min (mul_nonneg (by norm_num [DRIFT_RATE]) (Nat.cast_nonneg _)) (by norm_num [DRIFT_INCREASE])

/-- Eight steps stay within the cap, and nine do not. -/
theorem total_drift_le_iff (k : ℕ) : total_drift k ≤ 20 ↔ k ≤ 8 := by
  have hmono : Monotone total_drift := monotone_nat_of_le_succ fun k =>
    le_add_of_nonneg_right (next_increase_nonneg k)
  have height : total_drift 8 = 18 := by decide +kernel
  have hnine : total_drift 9 = 45 / 2 := by decide +kernel
  constructor
  · intro hle
    by_contra hnot
    have hge := hmono (not_le.mp hnot : 9 ≤ k)
    rw [hnine] at hge
    linarith
  · intro hk
    have hle := hmono hk
    rw [height] at hle
    linarith

theorem lowEnough_iff_of_not_spiked (h : (system math).Reachable s) (hspiked : s.spiked = false) :
    LowEnough s (.generate_anomaly .drift humidity_noise) ↔ s.sensor.drift_steps < 8 := by
  rw [← Nat.succ_le_iff, ← total_drift_le_iff, LowEnough, base_of_not_spiked h hspiked, total_drift]
  constructor <;> intro hle <;> linarith

end Drift

/-- The sine of the first moment. -/
def sample_math : Math := { pi := 3, sin := fun _ => 0 }

/-- A normal reading and then a number of drifts. -/
def sample_drifts (n : ℕ) : List Action := .generate_reading 0 0 :: List.replicate n (.generate_anomaly .drift 0)

end gateway.temperature_sensor
