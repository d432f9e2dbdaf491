import EdgeGateway.MlInference.Service
import EdgeGateway.MlTraining.TrainEdgeAutoencoder

open gateway.telemetry gateway.feature_extractor gateway.inference_engine gateway.train_edge_autoencoder

namespace gateway.ml_inference

variable {A U T : Type} {host : Host A} {model_path : String} {app : App A}

/-- The two ways in which the service comes to a model. -/
inductive Loaded (host : Host A) (model_path : String) (app : App A) : Prop where
  | startup {onnx_files : List String} (hnewest : onnx_files.head? = some model_path)
      (hlifespan : lifespan host onnx_files = .ok app)
  | reload {before : App A} (hreload : (reload_model host (.ok (some model_path))).call before = (.ok (), app))

/-- The rows that the service makes of some readings from fresh windows. Its windows have
the size that its settings say. -/
def serving_rows (str : U → String) (feature_window_size : ℕ) (app : App A) (readings : List (TelemetryReading U T)) :
    Option (Except PyExc (List (List PyFloat))) :=
  (of_json app.2).map fun feature_stats =>
    ((extract_rows Arithmetic.binary64 str readings).call (.new feature_window_size feature_stats)).1

/-- The rows that the training run made of them. -/
def training_rows (str : U → String) (feature_stats : FeatureStats PyFloat) (window_size : ℕ)
    (readings : List (TelemetryReading U T × Bool)) : Except PyExc (List (List PyFloat)) :=
  (extract_features Arithmetic.binary64 str readings feature_stats window_size).map Prod.fst

section Loading

variable {sidecar feature_stats : JsonValue}

/-- What a reload that returns has loaded. -/
theorem reload_returned {before : App A} (h : (reload_model host (.ok (some model_path))).call before = (.ok (), app))
    (hsidecar : read_metadata host model_path = .ok sidecar) : sidecar.getItem "feature_stats" = .ok app.2 := by
  cases hmodel : host.open_onnx model_path with
  | error e =>
    have hunreadable : ∀ metadata model, read_metadata host model_path = .ok metadata →
        host.open_onnx model_path ≠ .ok model := by
      intro metadata model _ hopen
      rw [hmodel] at hopen
      cases hopen
    obtain ⟨_, process, hcall, -⟩ := reload_unreadable before hunreadable
    rw [hcall] at h
    cases h
  | ok model =>
    by_cases hincomplete : Incomplete sidecar model
    · obtain ⟨e, process, hcall, -⟩ := reload_incomplete before hsidecar hmodel hincomplete
      rw [hcall] at h
      cases h
    · obtain ⟨process, feature_stats, hcall, hstats, -⟩ := reload_complete before hsidecar hmodel hincomplete
      rw [hcall] at h
      cases h
      exact hstats

/-- What a startup that returns has loaded. -/
theorem lifespan_returned {onnx_files : List String} (hnewest : onnx_files.head? = some model_path)
    (h : lifespan host onnx_files = .ok app) (hsidecar : read_metadata host model_path = .ok sidecar) :
    ∃ feature_stats, sidecar.get "feature_stats" .null = .ok feature_stats ∧ app.2 = or_empty feature_stats := by
  obtain ⟨rest, rfl⟩ : ∃ rest, onnx_files = model_path :: rest := by
    cases onnx_files with
    | nil => cases hnewest
    | cons head rest =>
      cases hnewest
      exact ⟨rest, rfl⟩
  cases hcall : (load_model host model_path "" "").call { engine := {}, sessions := 0 } with
  | mk outcome process =>
    unfold lifespan at h
    simp only [load_initial_model, hcall] at h
    obtain ⟨_, rfl, hstats⟩ := Except.bind_ok_iff.mp h
    obtain ⟨feature_stats, hget, hreturn⟩ := Except.bind_ok_iff.mp hstats
    cases (load_model_returned hcall).symm.trans hsidecar
    exact ⟨feature_stats, hget, by rw [← Except.ok.inj hreturn]⟩

theorem or_empty_dict (items : List (String × JsonValue)) : or_empty (.dict items) = .dict items := by
  cases items with
  | nil => rfl
  | cons item rest => rfl

end Loading

section Sidecar

variable {version : String} {window_size : ℕ} {feature_stats : FeatureStats PyFloat} {report : Report}

/-- The statistics travel with the model, on both ways. -/
theorem loaded_stats (hsidecar : read_metadata host model_path = .ok (metadata version window_size feature_stats report))
    (h : Loaded host model_path app) : app.2 = to_json feature_stats := by
  cases h with
  | startup hnewest hlifespan =>
    obtain ⟨stats, hget, happ⟩ := lifespan_returned hnewest hlifespan hsidecar
    have hstats : (metadata version window_size feature_stats report).get "feature_stats" .null =
        .ok (to_json feature_stats) := rfl
    cases hstats.symm.trans hget
    rw [happ]
    exact or_empty_dict _
  | reload hreload =>
    have hstats : (metadata version window_size feature_stats report).getItem "feature_stats" =
        .ok (to_json feature_stats) := rfl
    exact (Except.ok.inj (hstats.symm.trans (reload_returned hreload hsidecar))).symm

theorem serving_rows_eq (str : U → String) (feature_window_size : ℕ) (readings : List (TelemetryReading U T))
    (happ : app.2 = to_json feature_stats) :
    serving_rows str feature_window_size app readings =
      some ((extract_rows Arithmetic.binary64 str readings).call (.new feature_window_size feature_stats)).1 := by
  rw [serving_rows, happ, of_json_to_json, Option.map_some]

theorem training_rows_eq (str : U → String) (readings : List (TelemetryReading U T × Bool)) :
    training_rows str feature_stats window_size readings =
      ((extract_rows Arithmetic.binary64 str (readings.map Prod.fst)).call (.new window_size feature_stats)).1 := by
  unfold training_rows extract_features
  generalize (extract_rows Arithmetic.binary64 str (readings.map Prod.fst)).call
    (.new window_size feature_stats) = outcome
  obtain ⟨rows, extractor⟩ := outcome
  cases rows <;> rfl

/-- The service and the training run agree on all readings if their window sizes are such
that all extractors do. -/
theorem agree_iff_rows_eq (str : U → String) (feature_window_size : ℕ) (happ : app.2 = to_json feature_stats) :
    (∀ readings : List (TelemetryReading U T × Bool),
      serving_rows str feature_window_size app (readings.map Prod.fst) =
        some (training_rows str feature_stats window_size readings)) ↔
      ∀ readings : List (TelemetryReading U T),
        ((extract_rows Arithmetic.binary64 str readings).call (.new window_size feature_stats)).1 =
          ((extract_rows Arithmetic.binary64 str readings).call (.new feature_window_size feature_stats)).1 := by
  simp only [serving_rows_eq str feature_window_size _ happ, training_rows_eq, Option.some.injEq]
  constructor
  · intro h readings
    have hunlabelled : (readings.map fun reading => (reading, false)).map Prod.fst = readings := by
      rw [List.map_map]
      exact List.map_id _
    have hrows := h (readings.map fun reading => (reading, false))
    rw [hunlabelled] at hrows
    exact hrows.symm
  · exact fun h readings => (h _).symm

/-- The service makes the rows of the training run of all readings exactly if it has the
window size of the training run, or both windows are too short for a median. -/
theorem training_serving_agree_iff [Inhabited U] [Inhabited T] (str : U → String) (feature_window_size : ℕ)
    (hsidecar : read_metadata host model_path = .ok (metadata version window_size feature_stats report))
    (hloaded : Loaded host model_path app) :
    (∀ readings : List (TelemetryReading U T × Bool),
      serving_rows str feature_window_size app (readings.map Prod.fst) =
        some (training_rows str feature_stats window_size readings)) ↔
      window_size = feature_window_size ∨ window_size < MIN_HISTORY ∧ feature_window_size < MIN_HISTORY := by
  rw [agree_iff_rows_eq str feature_window_size (loaded_stats hsidecar hloaded)]
  exact extract_rows_eq_iff str window_size feature_window_size feature_stats

end Sidecar

/-- Statistics of one field. -/
def trained_stats : FeatureStats PyFloat :=
  Dict.empty.set "temperature_sensor" (Dict.empty.set "temperature_celsius" [.finite 23, .finite (7 / 2)])

def sample_report : Report where
  exported_with := "torch 2.2.0"
  trained_at := "2025-01-01T00:00:00+00:00"
  error_threshold := .finite 1
  test_metrics := .dict []
  training := .dict []

theorem sample_loaded (window_size : ℕ) :
    ∃ app, Loaded (sample_host (metadata "1.0.0" window_size trained_stats sample_report)) "/models/edge_v1.onnx" app := by
  have hmodel : (sample_host (metadata "1.0.0" window_size trained_stats sample_report)).open_onnx
      "/models/edge_v1.onnx" = .ok constant_model := rfl
  have hinput : first_input constant_model = .ok "features" := rfl
  have hthreshold : read_error_threshold (metadata "1.0.0" window_size trained_stats sample_report) =
      .ok (.finite 1) := rfl
  obtain ⟨name, version, hcall⟩ := load_model_ok "" "" { engine := {}, sessions := 0 } (read_sample_sidecar _) hmodel
    hinput hthreshold
  have hlifespan : ∃ app, lifespan (sample_host (metadata "1.0.0" window_size trained_stats sample_report))
      ["/models/edge_v1.onnx"] = .ok app := by
    simp only [lifespan, load_initial_model, hcall]
    exact ⟨_, rfl⟩
  obtain ⟨app, happ⟩ := hlifespan
  exact ⟨app, .startup rfl happ⟩

/-- The same window size on both sides. -/
theorem training_serving_agree_iff_ten :
    ∃ app, Loaded (sample_host (metadata "1.0.0" 10 trained_stats sample_report)) "/models/edge_v1.onnx" app ∧
      ∀ readings : List (TelemetryReading String Unit × Bool),
        serving_rows id 10 app (readings.map Prod.fst) = some (training_rows id trained_stats 10 readings) := by
  obtain ⟨app, hloaded⟩ := sample_loaded 10
  exact ⟨app, hloaded, (training_serving_agree_iff id 10 (read_sample_sidecar _) hloaded).mpr (.inl rfl)⟩

/-- Trained with `--window-size 20`, served with the default of 10. -/
theorem window_size_does_not_travel :
    ¬ ∀ (host : Host Unit) model_path version window_size feature_stats report feature_window_size app,
      read_metadata host model_path = .ok (metadata version window_size feature_stats report) →
      Loaded host model_path app → ∀ readings : List (TelemetryReading String Unit × Bool),
        serving_rows id feature_window_size app (readings.map Prod.fst) =
          some (training_rows id feature_stats window_size readings) := by
  intro hclaim
  obtain ⟨app, hloaded⟩ := sample_loaded 20
  have hagree := hclaim _ _ _ 20 _ _ 10 app (read_sample_sidecar _) hloaded
  have hstats := loaded_stats (read_sample_sidecar _) hloaded
  rw [agree_iff_rows_eq id 10 hstats, extract_rows_eq_iff] at hagree
  exact absurd hagree (by decide)

end gateway.ml_inference
