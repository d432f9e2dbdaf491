import EdgeGateway.CloudApi.Models
import EdgeGateway.MlInference.ModelManager

open gateway.cloud_api.models

namespace gateway.model_manager

/-- `response.raise_for_status()`, then `response.json()`. -/
def body (response : Response) : Except PyExc JsonValue :=
  if 200 ≤ response.status_code ∧ response.status_code < 300 then .ok response.content else .error .LibraryError

/-- `client.get(url)` with the cloud API behind the origin, and nothing elsewhere. -/
def fetch_json (isoformat : ℤ → String) (origin : String) (registry : List MLModel) (url : String) :
    Except PyExc JsonValue :=
  if origin.toList.isPrefixOf url.toList then
    body (cloud_api.models.get isoformat registry (url.toList.drop origin.toList.length))
  else .error .LibraryError

/-- The setting `model_registry_url`, by the origin of the cloud API. -/
def registry_url (origin : String) : String := origin ++ "/api/v1/models"

/-- The attempt with the response of the cloud API to the URL that is polled. -/
def Attempt.polls (attempt : Attempt) (isoformat : ℤ → String) (origin : String) (registry : List MLModel) : Attempt :=
  { attempt with latest := fetch_json isoformat origin registry (registry_url origin ++ "/latest") }

/-- Every file can be downloaded. -/
structure Attempt.Succeeds (attempt : Attempt) : Prop where
  get : ∀ url, ∃ content, attempt.get url = .ok content
  write : ∀ path, attempt.write path = .completes

variable {A : Type} (libraries : Libraries A) (model_dir : String)

/-- Where the version of the registry goes. -/
def Libraries.target_of (row : MLModel) : String :=
  libraries.target_path model_dir (.str row.name) (.str row.version)

/-- An active model that is not in the directory is downloaded; without active models nothing is. -/
def Speaks (isoformat : ℤ → String) (origin : String) (registry : List MLModel) (files : FileSystem) : Prop :=
  ∀ attempt : Attempt, attempt.Succeeds →
    (∀ row ∈ registry, row.is_active = some true → files.has (libraries.target_of model_dir row) = false →
      ∃ row' ∈ registry, row'.is_active = some true ∧
        ((check_and_download libraries (attempt.polls isoformat origin registry) model_dir).call files).1 =
          .ok (some (libraries.target_of model_dir row'))) ∧
    ((∀ row ∈ registry, row.is_active ≠ some true) →
      ((check_and_download libraries (attempt.polls isoformat origin registry) model_dir).call files).1 = .ok none)

variable {libraries model_dir} {isoformat : ℤ → String} {origin : String} {registry : List MLModel}
  {files : FileSystem}

/-- The path that is polled is the one of a model by its id, and `latest` is no id. -/
theorem fetch_latest :
    fetch_json isoformat origin registry (registry_url origin ++ "/latest") = .error .LibraryError := by
  have hroute : route "/api/v1/models/latest".toList = some (.get_model_endpoint "latest") := by decide +kernel
  have hid : Uuid.parse "latest" = none := by decide +kernel
  have hurl : (registry_url origin ++ "/latest").toList = origin.toList ++ "/api/v1/models/latest".toList := by
    rw [registry_url, String.toList_append, String.toList_append, List.append_assoc]
    rfl
  unfold fetch_json
  rw [hurl, if_pos (List.isPrefixOf_iff_prefix.mpr (List.prefix_append _ _)), List.drop_left, cloud_api.models.get, hroute]
  simp [serve, hid, body]

theorem call_of_error {attempt : Attempt} {e : PyExc} (h : attempt.latest = .error e) :
    (check_and_download libraries attempt model_dir).call files = (.ok none, files) := by
  unfold check_and_download check_for_updates
  rw [h]
  rfl

/-- The poll of the registry never has a result. -/
theorem call_polls (attempt : Attempt) :
    (check_and_download libraries (attempt.polls isoformat origin registry) model_dir).call files =
      (.ok none, files) :=
  call_of_error fetch_latest

/-- What the server calls `file_url` the client looks for as `download_url`: also with the
response of another route it finds nothing to download. -/
theorem call_of_model_response {attempt : Attempt} {row : MLModel} {content : JsonValue}
    (hlatest : attempt.latest = .ok content) (hresponse : model_response isoformat row = some content) :
    (check_and_download libraries attempt model_dir).call files = (.ok none, files) := by
  obtain ⟨items, rfl, hkeys⟩ := model_response_dict isoformat hresponse
  have hmissing : items.lookup "download_url" = none := by
    have habsent : "download_url" ∉ items.map Prod.fst := by
      rw [hkeys]
      decide
    rw [List.lookup_eq_none_iff]
    intro item hitem
    apply bne_iff_ne.mpr
    intro heq
    exact habsent (heq ▸ List.mem_map_of_mem hitem)
  unfold check_and_download check_for_updates
  rw [hlatest]
  simp only [JsonValue.get, hmissing, Option.getD_none, Raising.call_bind, Raising.call_lift]
  rfl

/-- A model directory that can be written, and a registry that all files come from. -/
def reachable_files : Attempt where
  latest := .ok .null
  get _ := .ok []
  write _ := .completes
  mtime _ := 0
  utcnow := 0

/-- The gateway follows the registry exactly if it already has every active version. -/
theorem speaks_iff (libraries : Libraries A) (model_dir : String) (isoformat : ℤ → String) (origin : String)
    (registry : List MLModel) (files : FileSystem) :
    Speaks libraries model_dir isoformat origin registry files ↔
      ∀ row ∈ registry, row.is_active = some true → files.has (libraries.target_of model_dir row) = true := by
  constructor
  · intro h row hrow hactive
    by_contra hmissing
    have hsucceeds : reachable_files.Succeeds := ⟨fun _ => ⟨_, rfl⟩, fun _ => rfl⟩
    obtain ⟨row', -, -, hpath⟩ := (h _ hsucceeds).1 row hrow hactive (by simpa using hmissing)
    rw [call_polls] at hpath
    cases hpath
  · intro h attempt _
    refine ⟨?_, ?_⟩
    · intro row hrow hactive hmissing
      rw [h row hrow hactive] at hmissing
      cases hmissing
    · intro _
      rw [call_polls]

/-- A registered model with a file. -/
def registered : MLModel where
  id := 7
  name := "edge"
  version := "2"
  framework := some "onnx"
  description := some ""
  file_url := "http://files/edge.onnx"
  metrics := some (.dict [])
  is_active := some true
  created_at := some 1735689600000000

def text_libraries : Libraries Unit where
  str
    | .str s => s
    | _ => ""
  decode _ := .ok ""
  loads _ := .ok (.dict [])
  open_onnx _ := .error .LibraryError

/-- The active model never reaches a gateway without it. -/
theorem not_speaks :
    ¬ ∀ (registry : List MLModel) (files : FileSystem),
      Speaks text_libraries "/app/model_store" toString "http://cloud-api:8080" registry files := by
  intro h
  have hsucceeds : reachable_files.Succeeds := ⟨fun _ => ⟨_, rfl⟩, fun _ => rfl⟩
  obtain ⟨row, -, -, hpath⟩ := (h [registered] Dict.empty reachable_files hsucceeds).1 registered
    List.mem_cons_self rfl rfl
  rw [call_polls] at hpath
  cases hpath

end gateway.model_manager
