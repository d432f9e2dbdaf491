import EdgeGateway.Middleware.Authentication
import EdgeGateway.Middleware.RateLimiter

open gateway.middleware

namespace gateway.main

inductive Endpoint where
  | openapi
  | swagger_ui
  | swagger_ui_redirect
  | redoc
  | health
  | ready
  | health_dependencies
  | login
  | refresh
  | create_api_key
  | revoke_api_key
  | proxy_devices
  | proxy_telemetry
  | proxy_inference
  | proxy_scheduler
  deriving DecidableEq

/-- A path template: a text, or one that a parameter follows. -/
inductive Pattern where
  | text (start : String)
  /-- `{name:path}`. -/
  | path (start : String)
  /-- `{name}`. -/
  | segment (start : String)

def Pattern.start : Pattern → String
  | .text start | .path start | .segment start => start

/-- The regular expression of the template matches. Its `$` also matches in front of a
newline at the end, and its `.*` no newline. -/
def Pattern.matches (pattern : Pattern) (path : List Char) : Bool :=
  pattern.start.toList.isPrefixOf path &&
    let rest := path.drop pattern.start.toList.length
    match pattern with
    | .text _ => rest = [] || rest = ['\n']
    | .path _ => rest.dropLast.all (· ≠ '\n')
    | .segment _ => rest ≠ [] && rest.all (· ≠ '/')

structure Route where
  methods : List String
  pattern : Pattern
  endpoint : Endpoint

/-- The methods that are proxied. -/
def PROXY_METHODS : List String := ["GET", "POST", "PUT", "PATCH", "DELETE"]

/-- The routes of the application, those of its documentation first. -/
def routes : List Route :=
  [⟨["GET", "HEAD"], .text "/openapi.json", .openapi⟩,
    ⟨["GET", "HEAD"], .text "/docs", .swagger_ui⟩,
    ⟨["GET", "HEAD"], .text "/docs/oauth2-redirect", .swagger_ui_redirect⟩,
    ⟨["GET", "HEAD"], .text "/redoc", .redoc⟩,
    ⟨["GET"], .text "/health", .health⟩,
    ⟨["GET"], .text "/ready", .ready⟩,
    ⟨["GET"], .text "/health/dependencies", .health_dependencies⟩,
    ⟨["POST"], .text "/auth/login", .login⟩,
    ⟨["POST"], .text "/auth/refresh", .refresh⟩,
    ⟨["POST"], .text "/auth/api-keys", .create_api_key⟩,
    ⟨["DELETE"], .segment "/auth/api-keys/", .revoke_api_key⟩,
    ⟨PROXY_METHODS, .path "/api/v1/devices/", .proxy_devices⟩,
    ⟨PROXY_METHODS, .path "/api/v1/telemetry/", .proxy_telemetry⟩,
    ⟨PROXY_METHODS, .path "/api/v1/inference/", .proxy_inference⟩,
    ⟨PROXY_METHODS, .path "/api/v1/scheduler/", .proxy_scheduler⟩]

/-- Routing looks at the method and at the path alone. -/
def route (request : Request) : Option Endpoint :=
  (routes.find? fun route => route.methods.contains request.method && route.pattern.matches request.path.toList).map
    Route.endpoint

/-- The endpoints that `_require_admin` guards. -/
def Endpoint.admin_only : Endpoint → Bool
  | .create_api_key | .revoke_api_key => true
  | _ => false

/-- `_require_admin` lets the request pass. -/
def require_admin : Option Identity → Bool
  | some { role := .str role, .. } => role = "admin"
  | _ => false

/-- What the layers of the application work with while it handles a request. A handler
is not run, `none`, for a request whose parameters or body do not validate. -/
structure Env extends authentication.Env where
  limits : rate_limiter.Settings
  str : JsonValue → String
  time : ℤ
  later : ℤ
  incr : String → Except PyBaseException ℤ
  expire : String → ℤ → Except PyBaseException Unit
  handlers : Endpoint → Option Identity → Option (Except PyBaseException Response)

def Env.limiter (env : Env) : rate_limiter.Env :=
  { settings := env.limits, valid_netloc := env.valid_netloc, str := env.str, now := env.time, later := env.later,
    incr := env.incr, expire := env.expire }

/-- The handlers that have run, each with the `request.state.user` it found. -/
abbrev Ran := List (Endpoint × Option Identity)

variable (env : Env) (request : Request)

/-- The endpoint whose handler a request reaches behind the middlewares. -/
def serves (user : Option Identity) : Option Endpoint :=
  (route request).filter fun endpoint =>
    (!endpoint.admin_only || require_admin user) && (env.handlers endpoint user).isSome

/-- The router with the handlers. -/
def router (user : Option Identity) : Raising Ran PyBaseException Response :=
  match route request with
  | none => return { status_code := 404, content := .dict [("detail", .str "Not Found")] }
  | some endpoint =>
    if endpoint.admin_only && !require_admin user then
      return { status_code := 403, content := .dict [("detail", .str "Admin privileges required")] }
    else
      match env.handlers endpoint user with
      | none => return { status_code := 422, content := .null }
      | some outcome => do
        modify (· ++ [(endpoint, user)])
        outcome

/-- The authentication in front of the rate limiter in front of the router. The layers
outside of them call on once and change nothing of this. -/
def app : Raising Ran PyBaseException Response :=
  authentication.dispatch env.toEnv request fun user =>
    rate_limiter.dispatch env.limiter request user (router env request user)

/-- The handlers that run for the request. -/
def ran : Ran := ((app env request).call []).2

end gateway.main
