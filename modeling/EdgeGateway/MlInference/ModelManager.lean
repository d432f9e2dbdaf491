import EdgeGateway.Library.FileSystem
import EdgeGateway.MlInference.Service

open gateway.inference_engine gateway.ml_inference

namespace gateway.model_manager

/-- The libraries that the manager and the engine read files with. -/
structure Libraries (A : Type) where
  /-- How an f-string shows a value. -/
  str : JsonValue → String
  decode : List UInt8 → Except PyExc String
  loads : String → Except PyExc JsonValue
  open_onnx : List UInt8 → Except PyExc (OnnxModel A)

/-- What the registry and the disk do during one call of `check_and_download`. -/
structure Attempt where
  latest : Except PyExc JsonValue
  /-- The body of the response to a GET. -/
  get : JsonValue → Except PyExc (List UInt8)
  write : String → WriteOutcome
  mtime : String → ℤ
  utcnow : ℤ

variable {A : Type}

def Libraries.host (libraries : Libraries A) (files : FileSystem) (utcnow : ℤ) : Host A where
  read_text path :=
    match files.get? path with
    | some file => libraries.decode file.content
    | none => .error .OSError
  loads := libraries.loads
  open_onnx model_path :=
    match files.get? (PurePath.parse model_path) with
    | some file => libraries.open_onnx file.content
    | none => .error .LibraryError
  utcnow

/-- What is in front of the last occurrence of the separator. -/
def before_last (sep : List Char) : List Char → Option (List Char)
  | [] => none
  | c :: rest =>
    match before_last sep rest with
    | some before => some (c :: before)
    | none => if sep <+: c :: rest then some [] else none

/-- `text.rsplit(".onnx", 1)[0] + ".json"`. -/
def sidecar_of (text : String) : String :=
  String.ofList ((before_last ".onnx".toList text.toList).getD text.toList) ++ ".json"

/-- The file, if it is one of the directory that `*.onnx` matches. -/
def match_onnx (model_dir : String) (entry : PurePath × File) : Option (String × File) :=
  match entry.1.parts.getLast? with
  | none => none
  | some name =>
    if PurePath.parse (path_join model_dir name) = entry.1 ∧ ".onnx".toList <:+ name.toList ∧
      name.toList.head? ≠ some '.' then some (path_join model_dir name, entry.2) else none

/-- `glob.glob(os.path.join(model_dir, "*.onnx"))`. -/
def glob_onnx (files : FileSystem) (model_dir : String) : List (String × File) :=
  files.items.filterMap (match_onnx model_dir)

/-- The model files, the newest first. -/
def onnx_files (files : FileSystem) (model_dir : String) : List String :=
  ((glob_onnx files model_dir).mergeSort fun a b => b.2.mtime ≤ a.2.mtime).map Prod.fst

/-- Poll the model registry. Every exception is logged, and `None` returned. -/
def check_for_updates (attempt : Attempt) : Option JsonValue :=
  match attempt.latest with
  | .ok .null => none
  | .ok latest => some latest
  | .error _ => none

/-- Download a file from the registry. -/
def download_model (attempt : Attempt) (url : JsonValue) (target_path : String) : Raising FileSystem PyExc String := do
  let content ← attempt.get url
  FileSystem.write target_path content (attempt.mtime target_path) (attempt.write target_path)
  return target_path

/-- `latest.get("metadata_url") or download_url.rsplit(".onnx", 1)[0] + ".json"`. -/
def metadata_url_of (latest download_url : JsonValue) : Except PyExc JsonValue := do
  let metadata_url ← latest.get "metadata_url" .null
  if metadata_url.truthy then return metadata_url
  match download_url with
  | .str url => return .str (sidecar_of url)
  | _ => .error .AttributeError

def Libraries.target_path (libraries : Libraries A) (model_dir : String) (name version : JsonValue) : String :=
  path_join model_dir (libraries.str name ++ "_v" ++ libraries.str version ++ ".onnx")

def check_and_download (libraries : Libraries A) (attempt : Attempt) (model_dir : String) :
    Raising FileSystem PyExc (Option String) := do
  match check_for_updates attempt with
  | none => return none
  | some latest =>
    let download_url ← latest.get "download_url" .null
    let version ← latest.get "version" (.str "unknown")
    let name ← latest.get "name" (.str "model")
    if download_url.truthy = false then return none
    let target_path := libraries.target_path model_dir name version
    let files ← get
    -- "Skip download if this version already exists locally"
    if files.has target_path then return none
    let metadata_url ← metadata_url_of latest download_url
    let _ ← download_model attempt metadata_url (sidecar_of target_path)
    let path ← download_model attempt download_url target_path
    return some path

/-- The service with its files. -/
structure Station (A : Type) where
  files : FileSystem
  app : App A

/-- A request to reload the model from the registry. -/
def Station.reload (libraries : Libraries A) (model_dir : String) (s : Station A) (attempt : Attempt) :
    Except PyExc Unit × Station A :=
  let (downloaded, files) := (check_and_download libraries attempt model_dir).call s.files
  let (outcome, app) := (reload_model (libraries.host files attempt.utcnow) downloaded).call s.app
  (outcome, { files, app })

/-- The startup of the service with the files that are there. -/
def Station.start (libraries : Libraries A) (model_dir : String) (files : FileSystem) (utcnow : ℤ) :
    Except PyExc (App A) :=
  lifespan (libraries.host files utcnow) (onnx_files files model_dir)

inductive Action where
  | reload (attempt : Attempt)
  | restart (utcnow : ℤ)

/-- The runs of the service from a successful startup, over reloads and restarts. -/
def station (libraries : Libraries A) (model_dir : String) : TransitionSystem (Station A) Action where
  initial s := ∃ utcnow, Station.start libraries model_dir s.files utcnow = .ok s.app
  step s
    | .reload attempt => some (s.reload libraries model_dir attempt).2
    | .restart utcnow => (Station.start libraries model_dir s.files utcnow).toOption.map fun app => { s with app }

/-- What the registry says of its newest model. -/
structure Offer where
  latest : JsonValue
  name : JsonValue
  version : JsonValue
  download_url : JsonValue

/-- The registry answers with a model that it has a URL for. -/
structure Attempt.Offers (attempt : Attempt) (offer : Offer) : Prop where
  latest : check_for_updates attempt = some offer.latest
  download_url : offer.latest.get "download_url" .null = .ok offer.download_url
  version : offer.latest.get "version" (.str "unknown") = .ok offer.version
  name : offer.latest.get "name" (.str "model") = .ok offer.name
  truthy : offer.download_url.truthy = true

/-- The sidecar and the model load, and neither lacks what comes after them. -/
structure Libraries.Loads (libraries : Libraries A) (sidecar content : List UInt8) (metadata : JsonValue)
    (model : OnnxModel A) : Prop where
  sidecar : libraries.decode sidecar >>= libraries.loads = .ok metadata
  content : libraries.open_onnx content = .ok model
  complete : ¬ Incomplete metadata model

/-- Both downloads of an offer succeed. -/
structure Attempt.Downloads (attempt : Attempt) (offer : Offer) (target_path : String)
    (sidecar content : List UInt8) : Prop where
  sidecar : ∃ metadata_url, metadata_url_of offer.latest offer.download_url = .ok metadata_url ∧
    attempt.get metadata_url = .ok sidecar
  sidecar_written : attempt.write (sidecar_of target_path) = .completes
  content : attempt.get offer.download_url = .ok content
  content_written : attempt.write target_path = .completes

/-- The text in front of a `.onnx` that ends it. -/
theorem before_last_onnx (text : List Char) : before_last ".onnx".toList (text ++ ".onnx".toList) = some text := by
  induction text with
  | nil => decide
  | cons c rest ih => rw [List.cons_append, before_last, ih]

theorem sidecar_of_onnx (text : List Char) :
    sidecar_of (String.ofList (text ++ ".onnx".toList)) = String.ofList (text ++ ".json".toList) := by
  have hchars : (String.ofList (text ++ ".onnx".toList)).toList = text ++ ".onnx".toList := String.toList_ofList
  have hjson : String.ofList (text ++ ".json".toList) = String.ofList text ++ ".json" := by
    rw [String.ofList_append, String.ofList_toList]
  rw [sidecar_of, hchars, before_last_onnx, Option.getD_some, hjson]

/-- A file in a directory, by its text. -/
theorem path_join_append (model_dir : String) {name : List Char} (ext : List Char) (hname : name ≠ [])
    (hslash : '/' ∉ name) :
    ∃ text, text ≠ [] ∧ text.getLast? ≠ some '/' ∧
      path_join model_dir (String.ofList (name ++ ext)) = String.ofList (text ++ ext) := by
  have hhead : (String.ofList (name ++ ext)).toList.head? ≠ some '/' := by
    rw [String.toList_ofList]
    cases name with
    | nil => exact absurd rfl hname
    | cons c rest =>
      intro h
      cases h
      exact hslash List.mem_cons_self
  have hlast : ∀ before : List Char, (before ++ name).getLast? ≠ some '/' := by
    intro before h
    rw [List.getLast?_append_of_ne_nil _ hname] at h
    exact hslash (List.mem_of_getLast? h)
  have hjoin : ∀ directory : String, directory ++ String.ofList (name ++ ext) =
      String.ofList (directory.toList ++ name ++ ext) := by
    intro directory
    have happend : String.ofList (directory.toList ++ (name ++ ext)) =
        String.ofList directory.toList ++ String.ofList (name ++ ext) := String.ofList_append
    rw [List.append_assoc, happend, String.ofList_toList]
  unfold path_join
  rw [if_neg hhead]
  split
  · exact ⟨_, List.append_ne_nil_of_right_ne_nil _ hname, hlast _, hjoin model_dir⟩
  · exact ⟨_, List.append_ne_nil_of_right_ne_nil _ hname, hlast _, hjoin (model_dir ++ "/")⟩

variable {libraries : Libraries A} {model_dir : String} {attempt : Attempt} {files : FileSystem} {offer : Offer}

/-- The name of a model file without a slash. -/
def Libraries.NamesFile (libraries : Libraries A) (name version : JsonValue) : Prop :=
  '/' ∉ (libraries.str name).toList ∧ '/' ∉ (libraries.str version).toList

/-- The engine finds the sidecar where the manager puts it. -/
theorem target_path_onnx (model_dir : String) {name version : JsonValue} (h : libraries.NamesFile name version) :
    (PurePath.parse (libraries.target_path model_dir name version)).IsOnnx ∧
      (PurePath.parse (libraries.target_path model_dir name version)).with_suffix ".json" =
        some (PurePath.parse (sidecar_of (libraries.target_path model_dir name version))) := by
  have hname : (libraries.str name ++ "_v" ++ libraries.str version).toList ≠ [] := by
    rw [String.toList_append, String.toList_append]
    exact List.append_ne_nil_of_left_ne_nil (List.append_ne_nil_of_right_ne_nil _ (by decide)) _
  have hslash : '/' ∉ (libraries.str name ++ "_v" ++ libraries.str version).toList := by
    rw [String.toList_append, String.toList_append, List.mem_append, List.mem_append]
    rintro ((hmem | hmem) | hmem)
    · exact h.1 hmem
    · exact absurd hmem (by decide)
    · exact h.2 hmem
  obtain ⟨text, htext, hlast, hjoin⟩ := path_join_append model_dir ".onnx".toList hname hslash
  have htarget : libraries.target_path model_dir name version = String.ofList (text ++ ".onnx".toList) := by
    rw [← hjoin, String.ofList_append, String.ofList_toList, String.ofList_toList]
    rfl
  rw [htarget, sidecar_of_onnx]
  exact PurePath.parse_onnx htext hlast

end gateway.model_manager
