import EdgeGateway.MlInference.FeatureExtractor.WindowSize

open gateway.telemetry gateway.feature_extractor

namespace gateway.train_edge_autoencoder

def MODEL_NAME : String := "anomaly-autoencoder"

def FEATURE_NAMES : List String :=
  ["z_a", "z_b", "dev_a", "dev_b", "is_temperature", "is_pressure", "is_vibration"]

/-- The rows, the labels and the types of labelled readings. -/
def extract_features {F U T : Type} (arith : Arithmetic F) (str : U → String)
    (readings : List (TelemetryReading U T × Bool)) (feature_stats : FeatureStats F) (window_size : ℕ) :
    Except PyExc (List (List F) × List Bool × List String) := do
  let x ← ((extract_rows arith str (readings.map Prod.fst)).call (.new window_size feature_stats)).1
  return (x, readings.map Prod.snd, readings.map fun (r, _) => r.device_type)

/-- The statistics as the sidecar has them. -/
def to_json (feature_stats : FeatureStats PyFloat) : JsonValue :=
  .dict (feature_stats.items.map fun (device_type, fields) =>
    (device_type, .dict (fields.items.map fun (field, numbers) => (field, .list (numbers.map .float)))))

/-- A list of floats. -/
def floats_of_json : JsonValue → Option (List PyFloat)
  | .list items => items.mapM fun
    | .float x => some x
    | _ => none
  | _ => none

/-- A dict, by what its values are. -/
def dict_of_json {α : Type} (value_of : JsonValue → Option α) : JsonValue → Option (Dict String α)
  | .dict items => do
    let items ← items.mapM fun (key, value) => (value_of value).map fun a => (key, a)
    if h : (items.map Prod.fst).Nodup then some { items, nodup := h } else none
  | _ => none

/-- The statistics that the sidecar has. -/
def of_json : JsonValue → Option (FeatureStats PyFloat) := dict_of_json (dict_of_json floats_of_json)

/-- What the training run found out. -/
structure Report where
  exported_with : String
  trained_at : String
  error_threshold : PyFloat
  test_metrics : JsonValue
  training : JsonValue

/-- The sidecar that `main` writes. -/
def metadata (version : String) (window_size : ℕ) (feature_stats : FeatureStats PyFloat) (report : Report) :
    JsonValue :=
  .dict
    [ ("model_name", .str MODEL_NAME),
      ("model_version", .str version),
      ("framework", .str "pytorch"),
      ("architecture", .str "autoencoder"),
      ("exported_with", .str report.exported_with),
      ("trained_at", .str report.trained_at),
      ("input_name", .str "features"),
      ("feature_names", .list (FEATURE_NAMES.map .str)),
      ("feature_stats", to_json feature_stats),
      ("window_size", .int window_size),
      ("error_threshold", .float report.error_threshold),
      ("test_metrics", report.test_metrics),
      ("training", report.training) ]

theorem floats_of_json_list (numbers : List PyFloat) : floats_of_json (.list (numbers.map .float)) = some numbers := by
  unfold floats_of_json
  dsimp only
  rw [List.mapM_map]
  change (numbers.mapM fun x => (pure (id x) : Option PyFloat)) = some numbers
  rw [List.mapM_pure, List.map_id]
  rfl

/-- A dict is read back when its values are. -/
theorem dict_of_json_dict {α : Type} {value_of : JsonValue → Option α} {to_value : α → JsonValue}
    (h : ∀ a, value_of (to_value a) = some a) (d : Dict String α) :
    dict_of_json value_of (.dict (d.items.map fun (key, a) => (key, to_value a))) = some d := by
  have hitems : ((d.items.map fun (key, a) => (key, to_value a)).mapM fun (key, value) =>
      (value_of value).map fun a => (key, a)) = some d.items := by
    rw [List.mapM_map]
    have hread : ((fun (key, value) => (value_of value).map fun a => (key, a)) ∘
        fun ((key, a) : String × α) => (key, to_value a)) = fun item => (pure (id item) : Option (String × α)) := by
      funext ⟨key, a⟩
      simp only [Function.comp_apply, h]
      rfl
    rw [hread, List.mapM_pure, List.map_id]
    rfl
  unfold dict_of_json
  dsimp only
  rw [hitems]
  exact dif_pos d.nodup

theorem of_json_to_json (feature_stats : FeatureStats PyFloat) : of_json (to_json feature_stats) = some feature_stats :=
  dict_of_json_dict (dict_of_json_dict floats_of_json_list) feature_stats

end gateway.train_edge_autoencoder
