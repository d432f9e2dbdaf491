import EdgeGateway.Library.JsonValue
import EdgeGateway.Library.FileSystem
import EdgeGateway.Library.Raising

namespace gateway.inference_engine

/-- An ONNX graph as the runtime serves it: the names of its inputs, and what
`session.run(None, {name: array})` gives. -/
structure OnnxModel (A : Type) where
  inputs : List String
  run : String → A → Except PyExc (List A)

/-- An `ort.InferenceSession` object; `id` tells it from every other one. -/
structure InferenceSession (A : Type) where
  id : ℕ
  model : OnnxModel A

/-- What the process finds in its files and libraries while it loads a model. -/
structure Host (A : Type) where
  read_text : PurePath → Except PyExc String
  loads : String → Except PyExc JsonValue
  open_onnx : String → Except PyExc (OnnxModel A)
  /-- Microseconds since the epoch. -/
  utcnow : ℤ

/-- The array operations of NumPy that scoring uses. -/
structure NumPy (A : Type) where
  astype_float32 : A → Except PyExc A
  ravel : A → Except PyExc A
  add : A → PyFloat → Except PyExc A
  divide : A → A → Except PyExc A

variable {A : Type}

structure InferenceEngine (A : Type) where
  session : Option (InferenceSession A) := none
  input_name : String := ""
  model_name : JsonValue := .str ""
  model_version : JsonValue := .str ""
  loaded_at : Option ℤ := none
  metadata : JsonValue := .dict []
  error_threshold : PyFloat := .finite 1

/-- The engine, and how many sessions the process created so far. -/
structure Process (A : Type) where
  engine : InferenceEngine A
  sessions : ℕ

/-- A session the engine holds is one that was created. -/
def Process.Live (process : Process A) : Prop :=
  ∀ session, process.engine.session = some session → session.id < process.sessions

structure Service (A : Type) extends Process A where
  live : toProcess.Live

/-- `ort.InferenceSession(model_path)`, a new object each time. -/
def create_session (host : Host A) (model_path : String) :
    Raising (Process A) PyExc (InferenceSession A) := do
  let model ← host.open_onnx model_path
  let process ← get
  set { process with sessions := process.sessions + 1 }
  return { id := process.sessions, model }

def assign (update : InferenceEngine A → InferenceEngine A) : Raising (Process A) PyExc Unit :=
  modify fun process => { process with engine := update process.engine }

/-- `json.loads(Path(model_path).with_suffix(".json").read_text())`. -/
def read_metadata (host : Host A) (model_path : String) : Except PyExc JsonValue :=
  match (PurePath.parse model_path).with_suffix ".json" with
  | none => .error .ValueError
  | some metadata_path => do host.loads (← host.read_text metadata_path)

/-- `session.get_inputs()[0].name`. -/
def first_input (model : OnnxModel A) : Except PyExc String :=
  match model.inputs with
  | [] => .error .IndexError
  | name :: _ => .ok name

/-- `float(metadata["error_threshold"])`. -/
def read_error_threshold (metadata : JsonValue) : Except PyExc PyFloat := do
  (← metadata.getItem "error_threshold").toFloat

/-- `name or metadata.get(key, "")`. -/
def name_or (name : String) (metadata : JsonValue) (key : String) : Except PyExc JsonValue :=
  if name = "" then metadata.get key (.str "") else .ok (.str name)

def load_model (host : Host A) (model_path model_name model_version : String) :
    Raising (Process A) PyExc Unit := do
  let metadata ← read_metadata host model_path
  let session ← create_session host model_path
  -- "Swap only after both files loaded successfully."
  assign fun engine => { engine with session := some session }
  let input_name ← first_input session.model
  assign fun engine => { engine with input_name }
  assign fun engine => { engine with metadata }
  let error_threshold ← read_error_threshold metadata
  assign fun engine => { engine with error_threshold }
  let model_name ← name_or model_name metadata "model_name"
  assign fun engine => { engine with model_name }
  let model_version ← name_or model_version metadata "model_version"
  assign fun engine => { engine with model_version }
  assign fun engine => { engine with loaded_at := some host.utcnow }

/-- `hot_swap` first opens the model in a session that it throws away. Its handler
logs the exception and raises it again. -/
def hot_swap (host : Host A) (new_model_path : String) : Raising (Process A) PyExc Unit := do
  let _test_session ← create_session host new_model_path
  load_model host new_model_path "" ""

def predict (numpy : NumPy A) (engine : InferenceEngine A) (features : A) : Except PyExc A :=
  match engine.session with
  | none => .error .RuntimeError
  | some session => do
    match ← session.model.run engine.input_name (← numpy.astype_float32 features) with
    | [errors] => numpy.ravel errors
    | _ => .error .ValueError

def score (numpy : NumPy A) (engine : InferenceEngine A) (features : A) : Except PyExc A := do
  let errors ← predict numpy engine features
  numpy.divide errors (← numpy.add errors engine.error_threshold)

theorem call_assign (update : InferenceEngine A → InferenceEngine A) (process : Process A) :
    (assign update).call process = (.ok (), { process with engine := update process.engine }) := rfl

/-- Opening a session leaves the engine alone. -/
theorem create_session_ok {host : Host A} {model_path : String} {model : OnnxModel A}
    (h : host.open_onnx model_path = .ok model) (process : Process A) :
    (create_session host model_path).call process =
      (.ok { id := process.sessions, model }, { process with sessions := process.sessions + 1 }) := by
  unfold create_session
  rw [h]
  rfl

theorem create_session_error {host : Host A} {model_path : String} {e : PyExc}
    (h : host.open_onnx model_path = .error e) (process : Process A) :
    (create_session host model_path).call process = (.error e, process) := by
  unfold create_session
  rw [h]
  rfl

theorem name_or_of_dict {metadata v : JsonValue} {key : String} (h : metadata.getItem key = .ok v)
    (name other : String) : ∃ value, name_or name metadata other = .ok value := by
  unfold name_or
  split
  · exact JsonValue.get_of_getItem h
  · exact ⟨_, rfl⟩

end gateway.inference_engine
