import EdgeGateway.MlInference.InferenceEngine

namespace gateway.inference_engine

variable {A : Type} {host : Host A} {model_path model_name model_version : String}
  {metadata : JsonValue} {model : OnnxModel A} {process : Process A}

/-- Nothing is assigned before the sidecar was decoded. -/
theorem load_model_metadata_error {e : PyExc} (h : read_metadata host model_path = .error e) :
    (load_model host model_path model_name model_version).call process = (.error e, process) := by
  unfold load_model
  exact Raising.call_bind_error (by rw [h, Raising.call_lift])

/-- Nothing is assigned before the session was created. -/
theorem load_model_session_error {e : PyExc} (hmetadata : read_metadata host model_path = .ok metadata)
    (h : host.open_onnx model_path = .error e) :
    (load_model host model_path model_name model_version).call process = (.error e, process) := by
  unfold load_model
  rw [Raising.call_bind_ok (by rw [hmetadata, Raising.call_lift])]
  exact Raising.call_bind_error (create_session_error h process)

/-- A model without inputs raises when only the session was replaced. -/
theorem load_model_no_input {e : PyExc} (hmetadata : read_metadata host model_path = .ok metadata)
    (hmodel : host.open_onnx model_path = .ok model) (h : first_input model = .error e) :
    (load_model host model_path model_name model_version).call process =
      (.error e,
        { engine := { process.engine with session := some { id := process.sessions, model } }
          sessions := process.sessions + 1 }) := by
  simp only [load_model, Raising.call_bind, Raising.call_lift, hmetadata, create_session_ok hmodel,
    call_assign, h]

/-- A sidecar without a usable `error_threshold` raises when the session, the input
name and the metadata were replaced. -/
theorem load_model_no_threshold {input_name : String} {e : PyExc}
    (hmetadata : read_metadata host model_path = .ok metadata)
    (hmodel : host.open_onnx model_path = .ok model) (hinput : first_input model = .ok input_name)
    (h : read_error_threshold metadata = .error e) :
    (load_model host model_path model_name model_version).call process =
      (.error e,
        { engine := { process.engine with
            session := some { id := process.sessions, model }, input_name, metadata }
          sessions := process.sessions + 1 }) := by
  simp only [load_model, Raising.call_bind, Raising.call_lift, hmetadata, create_session_ok hmodel,
    call_assign, hinput, h]

/-- With a model that has an input and a usable `error_threshold` nothing raises any more. -/
theorem load_model_ok (model_name model_version : String) (process : Process A)
    {input_name : String} {error_threshold : PyFloat}
    (hmetadata : read_metadata host model_path = .ok metadata)
    (hmodel : host.open_onnx model_path = .ok model) (hinput : first_input model = .ok input_name)
    (h : read_error_threshold metadata = .ok error_threshold) :
    ∃ name version,
      (load_model host model_path model_name model_version).call process =
        (.ok (),
          { engine :=
              { session := some { id := process.sessions, model }, input_name, metadata, error_threshold
                model_name := name, model_version := version, loaded_at := some host.utcnow }
            sessions := process.sessions + 1 }) := by
  obtain ⟨item, hitem⟩ : ∃ item, metadata.getItem "error_threshold" = .ok item := by
    unfold read_error_threshold at h
    cases hget : metadata.getItem "error_threshold" with
    | ok item => exact ⟨item, rfl⟩
    | error e =>
      rw [hget] at h
      cases h
  obtain ⟨name, hname⟩ := name_or_of_dict hitem model_name "model_name"
  obtain ⟨version, hversion⟩ := name_or_of_dict hitem model_version "model_version"
  refine ⟨name, version, ?_⟩
  simp only [load_model, Raising.call_bind, Raising.call_lift, hmetadata, create_session_ok hmodel,
    call_assign, hinput, h, hname, hversion]

/-- A load depends on what is found under its path only. -/
theorem load_model_congr {other : Host A} (hmetadata : read_metadata other model_path = read_metadata host model_path)
    (hmodel : other.open_onnx model_path = host.open_onnx model_path) (hnow : other.utcnow = host.utcnow) :
    load_model other model_path model_name model_version = load_model host model_path model_name model_version := by
  unfold load_model create_session
  rw [hmetadata, hmodel, hnow]

/-- A load that returns has put the metadata of its sidecar in place. -/
theorem load_model_returned {process' : Process A}
    (h : (load_model host model_path model_name model_version).call process = (.ok (), process')) :
    read_metadata host model_path = .ok process'.engine.metadata := by
  cases hmetadata : read_metadata host model_path with
  | error e =>
    rw [load_model_metadata_error hmetadata] at h
    cases h
  | ok metadata =>
    cases hmodel : host.open_onnx model_path with
    | error e =>
      rw [load_model_session_error hmetadata hmodel] at h
      cases h
    | ok model =>
      cases hinput : first_input model with
      | error e =>
        rw [load_model_no_input hmetadata hmodel hinput] at h
        cases h
      | ok input_name =>
        cases hthreshold : read_error_threshold metadata with
        | error e =>
          rw [load_model_no_threshold hmetadata hmodel hinput hthreshold] at h
          cases h
        | ok error_threshold =>
          obtain ⟨name, version, hcall⟩ :=
            load_model_ok model_name model_version process hmetadata hmodel hinput hthreshold
          rw [hcall] at h
          cases h
          rfl

/-- The files load, and yet the sidecar or the model lacks what the assignments need. -/
def RaisesLate (host : Host A) (model_path : String) : Prop :=
  ∃ metadata model,
    read_metadata host model_path = .ok metadata ∧ host.open_onnx model_path = .ok model ∧
      ((∃ e, first_input model = .error e) ∨ ∃ e, read_error_threshold metadata = .error e)

/-- The engine after a load that raises late holds the session that was just created. -/
theorem load_model_late (model_name model_version : String) (process : Process A)
    (h : RaisesLate host model_path) :
    ∃ e process' model,
      (load_model host model_path model_name model_version).call process = (.error e, process') ∧
        process'.engine.session = some { id := process.sessions, model } := by
  obtain ⟨metadata, model, hmetadata, hmodel, hlate⟩ := h
  cases hinput : first_input model with
  | error e => exact ⟨e, _, model, load_model_no_input hmetadata hmodel hinput, rfl⟩
  | ok input_name =>
    obtain ⟨e, hthreshold⟩ : ∃ e, read_error_threshold metadata = .error e := by
      refine hlate.resolve_left ?_
      rintro ⟨e, he⟩
      rw [hinput] at he
      cases he
    exact ⟨e, _, model, load_model_no_threshold hmetadata hmodel hinput hthreshold, rfl⟩

/-- A load that does not raise late raises before it assigned anything, or not at all. -/
theorem load_model_not_late (h : ¬ RaisesLate host model_path) :
    (load_model host model_path model_name model_version).FailsCleanly Process.engine process := by
  cases hmetadata : read_metadata host model_path with
  | error e => exact .of_view_eq (by rw [load_model_metadata_error hmetadata])
  | ok metadata =>
    cases hmodel : host.open_onnx model_path with
    | error e => exact .of_view_eq (by rw [load_model_session_error hmetadata hmodel])
    | ok model =>
      cases hinput : first_input model with
      | error e => exact absurd ⟨metadata, model, hmetadata, hmodel, .inl ⟨e, hinput⟩⟩ h
      | ok input_name =>
        cases hthreshold : read_error_threshold metadata with
        | error e => exact absurd ⟨metadata, model, hmetadata, hmodel, .inr ⟨e, hthreshold⟩⟩ h
        | ok error_threshold =>
          obtain ⟨name, version, hcall⟩ :=
            load_model_ok model_name model_version process hmetadata hmodel hinput hthreshold
          exact .of_ok (by rw [hcall])

/-- A load keeps the engine to sessions that were created, however it ends. -/
theorem load_model_live (hlive : process.Live) :
    ((load_model host model_path model_name model_version).call process).2.Live := by
  cases hmetadata : read_metadata host model_path with
  | error e => rwa [load_model_metadata_error hmetadata]
  | ok metadata =>
    cases hmodel : host.open_onnx model_path with
    | error e => rwa [load_model_session_error hmetadata hmodel]
    | ok model =>
      -- The session is the new one from here on.
      cases hinput : first_input model with
      | error e =>
        rw [load_model_no_input hmetadata hmodel hinput]
        rintro session ⟨⟩
        exact Nat.lt_succ_self _
      | ok input_name =>
        cases hthreshold : read_error_threshold metadata with
        | error e =>
          rw [load_model_no_threshold hmetadata hmodel hinput hthreshold]
          rintro session ⟨⟩
          exact Nat.lt_succ_self _
        | ok error_threshold =>
          obtain ⟨name, version, hcall⟩ :=
            load_model_ok model_name model_version process hmetadata hmodel hinput hthreshold
          rw [hcall]
          rintro session ⟨⟩
          exact Nat.lt_succ_self _

/-- A hot swap whose files do not both load leaves the engine as it is. -/
theorem hot_swap_unreadable (process : Process A) (h : ∀ metadata model, read_metadata host model_path = .ok metadata →
    host.open_onnx model_path ≠ .ok model) :
    ∃ e process', (hot_swap host model_path).call process = (.error e, process') ∧
      process'.engine = process.engine := by
  unfold hot_swap
  cases hmodel : host.open_onnx model_path with
  | error e => exact ⟨e, process, Raising.call_bind_error (create_session_error hmodel process), rfl⟩
  | ok model =>
    cases hmetadata : read_metadata host model_path with
    | error e =>
      refine ⟨e, { process with sessions := process.sessions + 1 }, ?_, rfl⟩
      rw [Raising.call_bind_ok (create_session_ok hmodel process), load_model_metadata_error hmetadata]
    | ok metadata => exact absurd hmodel (h metadata model hmetadata)

/-- A hot swap of files that load puts the new session in place, and either raises then or
puts the new metadata in place as well. -/
theorem hot_swap_readable (process : Process A) (hmetadata : read_metadata host model_path = .ok metadata)
    (hmodel : host.open_onnx model_path = .ok model) :
    ∃ outcome process', (hot_swap host model_path).call process = (outcome, process') ∧
      process'.engine.session = some { id := process.sessions + 1, model } ∧
      ((∃ e, outcome = .error e) ∧
          ((∃ e, first_input model = .error e) ∨ ∃ e, read_error_threshold metadata = .error e) ∨
        outcome = .ok () ∧ process'.engine.metadata = metadata ∧
          (∃ name, first_input model = .ok name) ∧ ∃ threshold, read_error_threshold metadata = .ok threshold) := by
  unfold hot_swap
  rw [Raising.call_bind_ok (create_session_ok hmodel process)]
  cases hinput : first_input model with
  | error e => exact ⟨_, _, load_model_no_input hmetadata hmodel hinput, rfl, .inl ⟨⟨e, rfl⟩, .inl ⟨e, rfl⟩⟩⟩
  | ok input_name =>
    cases hthreshold : read_error_threshold metadata with
    | error e =>
      exact ⟨_, _, load_model_no_threshold hmetadata hmodel hinput hthreshold, rfl, .inl ⟨⟨e, rfl⟩, .inr ⟨e, rfl⟩⟩⟩
    | ok error_threshold =>
      obtain ⟨name, version, hcall⟩ := load_model_ok "" "" { process with sessions := process.sessions + 1 }
        hmetadata hmodel hinput hthreshold
      exact ⟨_, _, hcall, rfl, .inr ⟨rfl, rfl, ⟨input_name, rfl⟩, error_threshold, rfl⟩⟩

theorem hot_swap_live (hlive : process.Live) : ((hot_swap host model_path).call process).2.Live := by
  unfold hot_swap
  cases hmodel : host.open_onnx model_path with
  | error e => rwa [Raising.call_bind_error (create_session_error hmodel process)]
  | ok model =>
    rw [Raising.call_bind_ok (create_session_ok hmodel process)]
    exact load_model_live fun session hsession => Nat.lt_succ_of_lt (hlive session hsession)

theorem load_model_failsCleanly_iff (hlive : process.Live) :
    (load_model host model_path model_name model_version).FailsCleanly Process.engine process ↔
      ¬ RaisesLate host model_path := by
  refine ⟨fun hclean hlate => ?_, load_model_not_late⟩
  obtain ⟨e, process', model, hcall, hsession⟩ := load_model_late model_name model_version process hlate
  have hengine : process'.engine = process.engine := by
    have h := hclean e (by rw [hcall])
    rwa [hcall] at h
  rw [hengine] at hsession
  exact absurd (hlive _ hsession) (Nat.lt_irrefl _)

theorem hot_swap_failsCleanly_iff (hlive : process.Live) :
    (hot_swap host model_path).FailsCleanly Process.engine process ↔ ¬ RaisesLate host model_path := by
  cases hmodel : host.open_onnx model_path with
  | error e =>
    constructor
    · rintro _ ⟨metadata, model, _, hopen, _⟩
      rw [hmodel] at hopen
      cases hopen
    · intro _
      exact Raising.failsCleanly_bind_of_error (create_session_error hmodel process) rfl
  | ok model =>
    unfold hot_swap
    rw [Raising.failsCleanly_bind_iff (create_session_ok hmodel process) rfl]
    exact load_model_failsCleanly_iff fun s hs => Nat.lt_succ_of_lt (hlive s hs)

/-- If the call raises, no attribute of the engine changed and it scores as before. -/
def FailureChangesNothing (numpy : NumPy A) (load : Raising (Process A) PyExc Unit) (process : Process A) : Prop :=
  ∀ e, (load.call process).1 = .error e →
    (load.call process).2.engine = process.engine ∧
      ∀ features, score numpy (load.call process).2.engine features = score numpy process.engine features

theorem failureChangesNothing_iff (numpy : NumPy A) (load : Raising (Process A) PyExc Unit) (process : Process A) :
    FailureChangesNothing numpy load process ↔ load.FailsCleanly Process.engine process := by
  constructor
  · exact fun h e he => (h e he).1
  · intro h e he
    have hengine : (load.call process).2.engine = process.engine := h e he
    exact ⟨hengine, fun features => by rw [hengine]⟩

/-- A load or a hot swap that raises changes nothing, exactly unless both files load
and the model has no input or the sidecar no usable `error_threshold`. -/
theorem failed_load_changes_nothing_iff (host : Host A) (numpy : NumPy A) (service : Service A)
    (model_path model_name model_version : String) :
    (FailureChangesNothing numpy (load_model host model_path model_name model_version) service.toProcess ↔
        ¬ RaisesLate host model_path) ∧
      (FailureChangesNothing numpy (hot_swap host model_path) service.toProcess ↔
        ¬ RaisesLate host model_path) := by
  rw [failureChangesNothing_iff, failureChangesNothing_iff]
  exact ⟨load_model_failsCleanly_iff service.live, hot_swap_failsCleanly_iff service.live⟩

/-- A model that answers every input with one error per row. -/
def constant_model : OnnxModel Unit := { inputs := ["features"], run := fun _ _ => .ok [()] }

/-- Both files are there, but the sidecar is the empty object. -/
def empty_sidecar : Host Unit where
  read_text _ := .ok "{}"
  loads text := if text = "{}" then .ok (.dict []) else .error .ValueError
  open_onnx _ := .ok constant_model
  utcnow := 0

def unit_arrays : NumPy Unit where
  astype_float32 := .ok
  ravel := .ok
  add _ _ := .ok ()
  divide _ _ := .ok ()

/-- A service that loaded one model. -/
def serving : Service Unit where
  engine := { session := some { id := 0, model := constant_model }, input_name := "features" }
  sessions := 1
  live := by
    rintro session ⟨⟩
    exact Nat.zero_lt_one

theorem empty_sidecar_raisesLate : RaisesLate empty_sidecar "/models/edge_v2.onnx" :=
  ⟨.dict [], constant_model, rfl, rfl, .inr ⟨.KeyError, rfl⟩⟩

/-- `{}` as the sidecar: the call raises KeyError and the new session stays. -/
theorem empty_sidecar_replaces_session :
    ¬ FailureChangesNothing unit_arrays (load_model empty_sidecar "/models/edge_v2.onnx" "" "")
        serving.toProcess ∧
      ¬ FailureChangesNothing unit_arrays (hot_swap empty_sidecar "/models/edge_v2.onnx")
        serving.toProcess := by
  rw [failureChangesNothing_iff, failureChangesNothing_iff]
  exact ⟨fun h => (load_model_failsCleanly_iff serving.live).mp h empty_sidecar_raisesLate,
    fun h => (hot_swap_failsCleanly_iff serving.live).mp h empty_sidecar_raisesLate⟩

end gateway.inference_engine
