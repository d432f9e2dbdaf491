import Mathlib.Data.List.Sort
import EdgeGateway.Library.Raising
import EdgeGateway.Shared.Telemetry

open gateway.telemetry

namespace gateway.feature_extractor

/-- The numbers that features are computed with: Python floats, or exact rationals. -/
structure Arithmetic (F : Type) where
  float : JsonValue → Except PyExc F
  ofRat : ℚ → F
  lt : F → F → Bool
  add : F → F → F
  sub : F → F → F
  div : F → F → Except PyExc F

def Arithmetic.binary64 : Arithmetic PyFloat where
  float := JsonValue.toFloat
  ofRat := PyFloat.ofRat PyFloat.binary64
  lt := PyFloat.lt
  add := PyFloat.add
  sub := PyFloat.sub
  div a b :=
    match PyFloat.div a b with
    | some c => .ok c
    | none => .error .ZeroDivisionError

/-- Exact arithmetic, which has no infinities and no NaN. -/
def Arithmetic.exact : Arithmetic ℚ where
  float
    | .int n => .ok n
    | value =>
      match value.toFloat with
      | .ok (.finite x) => .ok x
      | .ok _ => .error .OverflowError
      | .error e => .error e
  ofRat q := q
  lt a b := a < b
  add a b := a + b
  sub a b := a - b
  div a b := if b = 0 then .error .ZeroDivisionError else .ok (a / b)

/-- Payload fields used per device type, in feature order. -/
def SENSOR_FIELDS : List (String × String × String) :=
  [("temperature_sensor", "temperature_celsius", "humidity_percent"),
    ("pressure_sensor", "pressure_hpa", "flow_rate_lpm"),
    ("vibration_sensor", "rms_velocity_mm_s", "peak_frequency_hz")]

def DEVICE_TYPES : List String := SENSOR_FIELDS.map Prod.fst

def FEATURE_NAMES : List String :=
  ["z_a", "z_b", "dev_a", "dev_b"] ++
    DEVICE_TYPES.map fun t => "is_" ++ String.ofList (t.toList.takeWhile fun c => c ≠ '_')

def N_FEATURES : ℕ := FEATURE_NAMES.length

/-- Until a device has this much history its `dev_*` features are 0. -/
def MIN_HISTORY : ℕ := 5

def SKIP_KEYS : List String := ["anomaly", "anomaly_type", "unit"]

/-- `{device_type: {field: [mean, std]}}`. -/
abbrev FeatureStats (F : Type) := Dict String (Dict String (List F))

structure FeatureExtractor (F : Type) where
  window_size : ℕ
  stats : FeatureStats F
  /-- The recent values of each device, the newest last. -/
  windows : Dict String (List (F × F))

section Functions

variable {F U T : Type} (arith : Arithmetic F)

/-- `isinstance(v, (int, float)) and not isinstance(v, bool)`. -/
def is_number : JsonValue → Bool
  | .int _ | .float _ => true
  | _ => false

/-- For an unknown device type: the first two numeric fields. -/
def numeric_values (payload : List (String × JsonValue)) : Except PyExc (F × F) := do
  let numeric ← (payload.filter fun (k, v) => k ∉ SKIP_KEYS && is_number v).mapM fun (_, v) => arith.float v
  match numeric ++ List.replicate (2 - numeric.length) (arith.ofRat 0) with
  | a :: b :: _ => return (a, b)
  | _ => throw .IndexError

/-- Pick the two sensor values for this reading's device type. -/
def values (reading : TelemetryReading U T) : Except PyExc (F × F) :=
  match SENSOR_FIELDS.lookup reading.device_type with
  | some (field_a, field_b) =>
    match reading.payload.lookup field_a, reading.payload.lookup field_b with
    | some a, some b => do return (← arith.float a, ← arith.float b)
    | _, _ => numeric_values arith reading.payload
  | none => numeric_values arith reading.payload

/-- `max(a, b)`. -/
def py_max (a b : F) : F := if arith.lt a b then b else a

/-- `min(a, b)`. -/
def py_min (a b : F) : F := if arith.lt b a then b else a

/-- `(mean, std)` for one sensor field, or an identity scale. -/
def scale (stats : FeatureStats F) (device_type : String) (field : String × String → String) : Except PyExc (F × F) :=
  match SENSOR_FIELDS.lookup device_type, stats.get? device_type with
  | some fields, some type_stats =>
    if type_stats.items = [] then .ok (arith.ofRat 0, arith.ofRat 1)
    else
      match type_stats.get? (field fields) with
      | none => .error .KeyError
      | some [mean, std] => .ok (mean, py_max arith std (arith.ofRat (1 / 1000000)))
      | some _ => .error .ValueError
  | _, _ => .ok (arith.ofRat 0, arith.ofRat 1)

/-- `statistics.median`, whose StatisticsError is a ValueError. -/
def median (data : List F) : Except PyExc F :=
  let data := data.insertionSort fun a b => arith.lt b a = false
  let middle := data.length / 2
  if data.length % 2 = 1 then
    match data[middle]? with
    | some m => .ok m
    | none => .error .ValueError
  else
    match data[middle - 1]?, data[middle]? with
    | some a, some b => arith.div (arith.add a b) (arith.ofRat 2)
    | _, _ => .error .ValueError

/-- The deviation of a value from the median of the window, in units of `std`. -/
def deviation (window : List F) (value std : F) : Except PyExc F := do
  arith.div (arith.sub value (← median arith window)) std

/-- `deque.append` on a deque of bounded length. -/
def append {α : Type} (maxlen : ℕ) (window : List α) (value : α) : List α :=
  (window ++ [value]).drop (window.length + 1 - maxlen)

/-- `max(-_FEATURE_CLIP, min(_FEATURE_CLIP, x))`. -/
def clip (x : F) : F := py_max arith (arith.ofRat (-1000)) (py_min arith (arith.ofRat 1000) x)

/-- Assign the window of a device. -/
def set_window (device_key : String) (window : List (F × F)) : Raising (FeatureExtractor F) PyExc Unit :=
  modify fun extractor => { extractor with windows := extractor.windows.set device_key window }

/-- Extract the feature vector for one reading. -/
def extract_row (str : U → String) (reading : TelemetryReading U T) : Raising (FeatureExtractor F) PyExc (List F) := do
  let device_key := str reading.device_id
  let extractor ← get
  let (a, b) ← values arith reading
  let (mean_a, std_a) ← scale arith extractor.stats reading.device_type Prod.fst
  let (mean_b, std_b) ← scale arith extractor.stats reading.device_type Prod.snd
  let window := (extractor.windows.get? device_key).getD []
  if (extractor.windows.get? device_key).isNone then
    set_window device_key window
  let (dev_a, dev_b) ←
    if window.length ≥ MIN_HISTORY then do
      let dev_a ← deviation arith (window.map Prod.fst) a std_a
      let dev_b ← deviation arith (window.map Prod.snd) b std_b
      pure (dev_a, dev_b)
    else pure (arith.ofRat 0, arith.ofRat 0)
  set_window device_key (append extractor.window_size window (a, b))
  let (z_a, z_b) ←
    if reading.device_type ∈ DEVICE_TYPES then do
      let z_a ← arith.div (arith.sub a mean_a) std_a
      let z_b ← arith.div (arith.sub b mean_b) std_b
      pure (z_a, z_b)
    else pure (arith.ofRat 0, arith.ofRat 0)
  let one_hot := DEVICE_TYPES.map fun t => arith.ofRat (if reading.device_type = t then 1 else 0)
  return ([z_a, z_b, dev_a, dev_b] ++ one_hot).map (clip arith)

end Functions

end gateway.feature_extractor
