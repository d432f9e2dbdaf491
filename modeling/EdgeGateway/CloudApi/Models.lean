import EdgeGateway.Library.JsonValue
import EdgeGateway.Library.Uuid

namespace gateway.cloud_api.models

/-- A row of the table `ml_models`. Columns that may be null are options. -/
structure MLModel where
  id : Uuid
  name : String
  version : String
  framework : Option String
  description : Option String
  file_url : String
  metrics : Option JsonValue
  is_active : Option Bool
  /-- In microseconds since the epoch. -/
  created_at : Option ℤ

structure Response where
  status_code : ℕ
  content : JsonValue

/-- The endpoints that a GET reaches, with what the path has for them. -/
inductive Endpoint where
  | list_models_endpoint
  | latest_model (model_name : String)
  | get_model_endpoint (model_id : String)
  deriving DecidableEq

/-- The text of a parameter `{name}` behind the start of a template. -/
def segment (start : String) (path : List Char) : Option String :=
  let text := path.drop start.toList.length
  if start.toList.isPrefixOf path ∧ text ≠ [] ∧ '/' ∉ text then some (String.ofList text) else none

/-- The routes in their order. -/
def route (path : List Char) : Option Endpoint :=
  if path = "/api/v1/models".toList then some .list_models_endpoint
  else
    match segment "/api/v1/models/latest/" path with
    | some model_name => some (.latest_model model_name)
    | none => (segment "/api/v1/models/" path).map .get_model_endpoint

/-- `ORDER BY created_at DESC`, which has null values first. -/
def newer (a b : MLModel) : Bool :=
  match a.created_at, b.created_at with
  | none, _ => true
  | some _, none => false
  | some t, some t' => t' ≤ t

/-- The active models, optionally of one name, the newest first. -/
def list_models (name_filter : Option String) (registry : List MLModel) : List MLModel :=
  (registry.filter fun row => row.is_active = some true && name_filter.all (row.name = ·)).mergeSort newer

def get_model (model_id : Uuid) (registry : List MLModel) : Option MLModel := registry.find? (·.id = model_id)

/-- The most recently created active model version of a name. -/
def get_latest_model (model_name : String) (registry : List MLModel) : Option MLModel :=
  (list_models (some model_name) registry).head?

variable (isoformat : ℤ → String)

/-- A row as `ModelResponse` shows it, if it has a value for every field. -/
def model_response (row : MLModel) : Option JsonValue :=
  match row.framework, row.metrics.getD (.dict []), row.is_active, row.created_at with
  | some framework, .dict metrics, some is_active, some created_at =>
    some (.dict [
      ("id", .str row.id.str),
      ("name", .str row.name),
      ("version", .str row.version),
      ("framework", .str framework),
      ("description", .str (row.description.getD "")),
      ("file_url", .str row.file_url),
      ("metrics", .dict metrics),
      ("is_active", .bool is_active),
      ("created_at", .str (isoformat created_at))])
  | _, _, _, _ => none

def http_exception (status_code : ℕ) (detail : String) : Response :=
  { status_code, content := .dict [("detail", .str detail)] }

/-- The response with what an endpoint returned; one that does not validate is an error of the server. -/
def respond : Option JsonValue → Response
  | some content => { status_code := 200, content }
  | none => { status_code := 500, content := .str "Internal Server Error" }

/-- The response to a GET of the endpoint, without a query. -/
def serve (registry : List MLModel) : Endpoint → Response
  | .list_models_endpoint => respond (((list_models none registry).mapM (model_response isoformat)).map .list)
  | .latest_model model_name =>
    match get_latest_model model_name registry with
    | none => http_exception 404 ("No active model found with name '" ++ model_name ++ "'")
    | some row => respond (model_response isoformat row)
  | .get_model_endpoint model_id =>
    match Uuid.parse model_id with
    -- The errors of the validation.
    | none => { status_code := 422, content := .dict [("detail", .list [])] }
    | some model_id =>
      match get_model model_id registry with
      | none => http_exception 404 "Model not found"
      | some row => respond (model_response isoformat row)

/-- The response to `GET path`. -/
def get (registry : List MLModel) (path : List Char) : Response :=
  match route path with
  | none => http_exception 404 "Not Found"
  | some endpoint => serve isoformat registry endpoint

/-- The fields of a model in a response. -/
theorem model_response_dict {row : MLModel} {content : JsonValue} (h : model_response isoformat row = some content) :
    ∃ items, content = .dict items ∧ items.map Prod.fst =
      ["id", "name", "version", "framework", "description", "file_url", "metrics", "is_active", "created_at"] := by
  unfold model_response at h
  split at h
  · cases h
    exact ⟨_, rfl, rfl⟩
  · cases h

end gateway.cloud_api.models
