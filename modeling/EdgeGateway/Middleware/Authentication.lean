import EdgeGateway.Library.Raising
import EdgeGateway.Middleware.AuthService
import EdgeGateway.Middleware.Request

open gateway.jwt_handler gateway.auth_service gateway.middleware

namespace gateway.authentication

/-- Paths that do not require authentication. -/
def EXCLUDED_PATHS : List String :=
  ["/health", "/ready", "/health/dependencies", "/auth/login", "/docs", "/redoc", "/openapi.json"]

/-- Path prefixes that are excluded. -/
def EXCLUDED_PREFIXES : List String := ["/health", "/docs"]

def excluded (path : List Char) : Bool :=
  EXCLUDED_PATHS.any (fun page => page.toList = path) || EXCLUDED_PREFIXES.any (fun page => page.toList.isPrefixOf path)

/-- What the middleware works with while it handles a request. -/
structure Env where
  settings : Settings
  jwt : PyJWT
  now : ℤ
  valid_netloc : List Char → Bool
  redis_get : String → Except PyBaseException (Option String)
  loads : String → Except PyExc JsonValue

variable (env : Env)

def jwt_identity (payload : Payload) : Identity where
  sub := payload.getD "sub" .null
  role := payload.getD "role" (.str "user")
  auth_method := "jwt"

/-- Decode a JWT and return the identity. -/
def validate_jwt (token : String) : Option Identity :=
  match decode_token env.jwt env.now token env.settings.jwt_secret env.settings.jwt_algorithm with
  | .ok payload => some (jwt_identity payload)
  | .error _ => none

def api_key_identity (metadata : JsonValue) : Except PyExc Identity := do
  return {
    sub := ← metadata.get "name" (.str "api-key-user")
    role := ← metadata.get "role" (.str "device")
    auth_method := "api_key"
    key_id := some (← metadata.get "key_id" .null) }

/-- Look up an API key in Redis and return the identity. -/
def validate_api_key (api_key : String) : Except PyBaseException (Option Identity) :=
  match env.redis_get ("apikey:" ++ api_key) with
  | .ok none => .ok none
  | .ok (some data) =>
    match env.loads data >>= api_key_identity with
    | .ok identity => .ok (some identity)
    | .error _ => .ok none
  | .error (.exception _) => .ok none
  | .error .cancelled => .error .cancelled

def unauthorized (detail : String) : Response := { status_code := 401, content := .dict [("detail", .str detail)] }

/-- `header[7:]` if the header starts with the word of the scheme. -/
def credential (word : String) (auth_header : String) : Option String :=
  if word.toList.isPrefixOf auth_header.toList then some (String.ofList (auth_header.toList.drop 7)) else none

variable {σ : Type}

/-- Enforce authentication. What comes next in the application sees `request.state.user`. -/
def dispatch (request : Request) (call_next : Option Identity → Raising σ PyBaseException Response) :
    Raising σ PyBaseException Response := do
  let path ← (request.url_path env.valid_netloc).mapError PyBaseException.exception
  if excluded path then call_next none
  else
    match request.authorization with
    | none => return unauthorized "Missing Authorization header"
    | some auth_header =>
      if auth_header = "" then return unauthorized "Missing Authorization header"
      else
        match credential "Bearer " auth_header, credential "ApiKey " auth_header with
        | some token, _ =>
          match validate_jwt env token with
          | none => return unauthorized "Invalid or expired JWT token"
          | some user => call_next (some user)
        | none, some api_key => do
          match ← validate_api_key env api_key with
          | none => return unauthorized "Invalid API key"
          | some user => call_next (some user)
        | none, none => return unauthorized "Authorization header must start with 'Bearer' or 'ApiKey'"

/-- A credential that the middleware takes, and the identity derived from it: a JWT that
`decode_token` accepts, or an API key present in Redis. -/
inductive Accepted (request : Request) : Identity → Prop where
  | jwt {token : String} {payload : Payload} (hheader : request.authorization = some ("Bearer " ++ token))
      (hdecode : decode_token env.jwt env.now token env.settings.jwt_secret env.settings.jwt_algorithm = .ok payload) :
      Accepted request (jwt_identity payload)
  | api_key {key data : String} {metadata : JsonValue} {identity : Identity}
      (hheader : request.authorization = some ("ApiKey " ++ key))
      (hget : env.redis_get ("apikey:" ++ key) = .ok (some data)) (hloads : env.loads data = .ok metadata)
      (hidentity : api_key_identity metadata = .ok identity) : Accepted request identity

/-- What the middleware makes of a request before it calls on. -/
inductive Verdict where
  | excluded
  | accepted (user : Identity)
  | rejected (response : Response)
  | failed (e : PyBaseException)

/-- The verdict on the `Authorization` header. -/
def check_header (auth_header : String) : Verdict :=
  match credential "Bearer " auth_header, credential "ApiKey " auth_header with
  | some token, _ =>
    match validate_jwt env token with
    | none => .rejected (unauthorized "Invalid or expired JWT token")
    | some user => .accepted user
  | none, some api_key =>
    match validate_api_key env api_key with
    | .error e => .failed e
    | .ok none => .rejected (unauthorized "Invalid API key")
    | .ok (some user) => .accepted user
  | none, none => .rejected (unauthorized "Authorization header must start with 'Bearer' or 'ApiKey'")

def verdict (request : Request) : Verdict :=
  match request.url_path env.valid_netloc with
  | .error e => .failed (.exception e)
  | .ok path =>
    if authentication.excluded path then .excluded
    else
      match request.authorization with
      | none => .rejected (unauthorized "Missing Authorization header")
      | some auth_header =>
        if auth_header = "" then .rejected (unauthorized "Missing Authorization header")
        else check_header env auth_header

variable {env} {request : Request}

/-- How the middleware carries the verdict out. -/
theorem call_dispatch (call_next : Option Identity → Raising σ PyBaseException Response) (s : σ) :
    (dispatch env request call_next).call s =
      match verdict env request with
      | .excluded => (call_next none).call s
      | .accepted user => (call_next (some user)).call s
      | .rejected response => (.ok response, s)
      | .failed e => (.error e, s) := by
  unfold dispatch verdict
  rw [Raising.call_bind, Raising.call_lift]
  cases request.url_path env.valid_netloc with
  | error e => rfl
  | ok path =>
    dsimp only [Except.mapError]
    cases hexcluded : authentication.excluded path with
    | true => simp
    | false =>
      cases request.authorization with
      | none => rfl
      | some auth_header =>
        by_cases hempty : auth_header = ""
        · simp [hempty]
        · simp only [hempty, if_false, Bool.false_eq_true, check_header]
          cases credential "Bearer " auth_header with
          | some token =>
            dsimp only
            cases validate_jwt env token <;> rfl
          | none =>
            cases credential "ApiKey " auth_header with
            | none => rfl
            | some api_key =>
              dsimp only
              rw [Raising.call_bind, Raising.call_lift]
              cases validate_api_key env api_key with
              | error e => rfl
              | ok identity => cases identity <;> rfl

theorem check_header_ne_excluded (auth_header : String) : check_header env auth_header ≠ .excluded := by
  unfold check_header
  split
  · split <;> simp
  · split <;> simp
  · simp

theorem verdict_excluded_iff :
    verdict env request = .excluded ↔
      ∃ path, request.url_path env.valid_netloc = .ok path ∧ authentication.excluded path = true := by
  unfold verdict
  cases hpath : request.url_path env.valid_netloc with
  | error e => simp
  | ok path =>
    simp only [Except.ok.injEq, exists_eq_left']
    cases hexcluded : authentication.excluded path with
    | true => simp
    | false =>
      simp only [Bool.false_eq_true, if_false, iff_false]
      cases request.authorization with
      | none => simp
      | some auth_header =>
        dsimp only
        split
        · simp
        · exact check_header_ne_excluded auth_header

theorem credential_eq_some {word auth_header token : String} (hword : word.toList.length = 7)
    (h : credential word auth_header = some token) : auth_header = word ++ token := by
  simp only [credential, Option.ite_none_right_eq_some, Option.some.injEq, List.isPrefixOf_iff_prefix] at h
  obtain ⟨⟨rest, hrest⟩, rfl⟩ := h
  apply String.toList_inj.mp
  rw [String.toList_append, String.toList_ofList, ← hrest, ← hword, List.drop_left]

theorem validate_jwt_eq_some_iff {token : String} {user : Identity} :
    validate_jwt env token = some user ↔
      ∃ payload, decode_token env.jwt env.now token env.settings.jwt_secret env.settings.jwt_algorithm = .ok payload ∧
        user = jwt_identity payload := by
  unfold validate_jwt
  cases decode_token env.jwt env.now token env.settings.jwt_secret env.settings.jwt_algorithm with
  | ok payload => simp [eq_comm]
  | error e => simp

/-- A Bearer token is taken behind the excluded paths if it validates. -/
theorem verdict_accepted_iff_of_bearer {auth_header token : String} {user : Identity}
    (hheader : request.authorization = some auth_header) (htoken : credential "Bearer " auth_header = some token) :
    verdict env request = .accepted user ↔
      (∃ path, request.url_path env.valid_netloc = .ok path ∧ authentication.excluded path = false) ∧
        validate_jwt env token = some user := by
  have hne : auth_header ≠ "" := by
    rintro rfl
    have hnone : credential "Bearer " "" = none := by decide
    rw [hnone] at htoken
    cases htoken
  unfold verdict
  cases hpath : request.url_path env.valid_netloc with
  | error e => simp
  | ok path =>
    simp only [Except.ok.injEq, exists_eq_left']
    cases hexcluded : authentication.excluded path with
    | true => simp
    | false =>
      simp only [Bool.false_eq_true, if_false, hheader, if_neg hne, true_and, check_header, htoken]
      cases validate_jwt env token with
      | none => simp
      | some identity => simp

theorem validate_api_key_ok {api_key : String} {user : Identity}
    (h : validate_api_key env api_key = .ok (some user)) :
    ∃ data metadata, env.redis_get ("apikey:" ++ api_key) = .ok (some data) ∧ env.loads data = .ok metadata ∧
      api_key_identity metadata = .ok user := by
  unfold validate_api_key at h
  split at h
  · cases h
  · rename_i data hget
    split at h
    · rename_i identity hidentity
      cases h
      obtain ⟨metadata, hloads, hidentity⟩ := Except.bind_ok_iff.mp hidentity
      exact ⟨data, metadata, hget, hloads, hidentity⟩
    · cases h
  · cases h
  · cases h

/-- An identity is passed on only if a credential for it was accepted. -/
theorem accepted_of_verdict {user : Identity} (h : verdict env request = .accepted user) :
    Accepted env request user := by
  unfold verdict at h
  split at h
  · cases h
  · split at h
    · cases h
    · split at h
      · cases h
      · rename_i auth_header hheader
        split at h
        · cases h
        · unfold check_header at h
          split at h
          · rename_i token _ htoken
            split at h
            · cases h
            · rename_i user' huser
              cases h
              obtain ⟨payload, hdecode, rfl⟩ := validate_jwt_eq_some_iff.mp huser
              rw [credential_eq_some rfl htoken] at hheader
              exact .jwt hheader hdecode
          · rename_i api_key _ hkey
            split at h
            · cases h
            · cases h
            · rename_i user' huser
              cases h
              obtain ⟨data, metadata, hget, hloads, hidentity⟩ := validate_api_key_ok huser
              rw [credential_eq_some rfl hkey] at hheader
              exact .api_key hheader hget hloads hidentity
          · cases h

end gateway.authentication
