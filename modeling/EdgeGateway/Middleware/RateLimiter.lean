import EdgeGateway.Library.Raising
import EdgeGateway.Middleware.Request

open gateway.middleware

namespace gateway.rate_limiter

structure Settings where
  /-- Per window and client. -/
  rate_limit_requests : ℤ
  rate_limit_window_seconds : ℤ

/-- Multiplier for the base rate limit by role. -/
def ROLE_LIMIT_MULTIPLIERS : List (String × PyFloat) :=
  [("admin", .finite 5), ("user", .finite 1), ("device", .finite 2)]

/-- Paths excluded from rate limiting. -/
def RATE_LIMIT_EXCLUDED : List String := ["/health", "/ready", "/health/dependencies"]

/-- What the middleware works with while it handles a request. -/
structure Env where
  settings : Settings
  valid_netloc : List Char → Bool
  /-- `str(value)`. -/
  str : JsonValue → String
  /-- `int(time.time())`. -/
  now : ℤ
  /-- `int(time.time())` once Redis answered. -/
  later : ℤ
  incr : String → Except PyBaseException ℤ
  expire : String → ℤ → Except PyBaseException Unit

variable (env : Env)

/-- Derive a stable client identifier from the request. -/
def get_client_id (request : Request) (user : Option Identity) : String :=
  let ip := "ip:" ++ request.client.getD "unknown"
  match user with
  | some user => if user.sub.truthy then "user:" ++ env.str user.sub else ip
  | none => ip

/-- The authenticated role. -/
def get_client_role (user : Option Identity) : JsonValue :=
  match user with
  | some user => user.role
  | none => .str "user"

/-- `ROLE_LIMIT_MULTIPLIERS.get(role, 1.0)`. -/
def multiplier (role : JsonValue) : Except PyExc PyFloat :=
  if role.hashable then
    match role with
    | .str role => .ok ((ROLE_LIMIT_MULTIPLIERS.lookup role).getD (.finite 1))
    | _ => .ok (.finite 1)
  else .error .TypeError

/-- `int(base_limit * multiplier)`. -/
def effective_limit (role : JsonValue) : Except PyExc ℤ := do
  let multiplier ← multiplier role
  match PyFloat.ofInt env.settings.rate_limit_requests with
  | none => .error .OverflowError
  | some base_limit =>
    match (base_limit.mul multiplier).toInt with
    | some limit => return limit
    | none => .error .OverflowError

/-- `int(time.time()) // window`. -/
def current_window : Except PyExc ℤ :=
  let window := env.settings.rate_limit_window_seconds
  if window = 0 then .error .ZeroDivisionError else .ok (env.now.fdiv window)

def window_key (request : Request) (user : Option Identity) (current_window : ℤ) : String :=
  "ratelimit:" ++ get_client_id env request user ++ ":" ++ toString current_window

/-- When the window resets. -/
def reset (current_window : ℤ) : ℤ :=
  current_window * env.settings.rate_limit_window_seconds + env.settings.rate_limit_window_seconds

def too_many_requests (limit current_window : ℤ) : Response :=
  let retry_after := max (reset env current_window - env.later) 1
  { status_code := 429
    content := .dict [("detail", .str "Rate limit exceeded"), ("retry_after_seconds", .int retry_after)]
    headers := (((Dict.empty.set "retry-after" (toString retry_after)).set "x-ratelimit-limit" (toString limit)).set
      "x-ratelimit-remaining" "0").set "x-ratelimit-reset" (toString (reset env current_window)) }

/-- Attach the rate-limit info headers. -/
def attach_headers (limit count current_window : ℤ) (response : Response) : Response :=
  ((response.set_header "X-RateLimit-Limit" (toString limit)).set_header
    "X-RateLimit-Remaining" (toString (max (limit - count) 0))).set_header
    "X-RateLimit-Reset" (toString (reset env current_window))

variable {σ : Type}

/-- A request that is the first one in its window sets the expiry. -/
def set_expiry (key : String) (current_count : ℤ) : Except PyBaseException Unit :=
  if current_count = 1 then env.expire key (env.settings.rate_limit_window_seconds + 1) else .ok ()

/-- The body of the `try`. -/
def attempt (key : String) (limit current_window : ℤ) (call_next : Raising σ PyBaseException Response) :
    Raising σ PyBaseException Response := do
  let current_count ← env.incr key
  set_expiry env key current_count
  if current_count > limit then return too_many_requests env limit current_window
  else do
    let response ← call_next
    return attach_headers env limit current_count current_window response

def dispatch (request : Request) (user : Option Identity) (call_next : Raising σ PyBaseException Response) :
    Raising σ PyBaseException Response := do
  let path ← (request.url_path env.valid_netloc).mapError PyBaseException.exception
  if RATE_LIMIT_EXCLUDED.any (fun page => page.toList = path) then call_next
  else do
    let limit ← (effective_limit env (get_client_role user)).mapError PyBaseException.exception
    let window ← (current_window env).mapError PyBaseException.exception
    tryCatch (attempt env (window_key env request user window) limit window call_next) fun
      -- "If Redis is down, allow the request (fail-open)."
      | .exception _ => call_next
      | .cancelled => throw .cancelled

/-- What becomes of a request before the application behind the limiter has a say. -/
inductive Verdict where
  | excluded
  /-- A Redis command raises. -/
  | fail_open
  /-- Redis answers, with a count within the limit. -/
  | counted (limit count current_window : ℤ)
  | rejected (response : Response)
  /-- The middleware raises. -/
  | failed (e : PyBaseException)

/-- The verdict once the limit and the window are known. -/
def count_request (request : Request) (user : Option Identity) (limit window : ℤ) : Verdict :=
  let key := window_key env request user window
  match env.incr key with
  | .error (.exception _) => .fail_open
  | .error .cancelled => .failed .cancelled
  | .ok count =>
    match set_expiry env key count with
    | .error (.exception _) => .fail_open
    | .error .cancelled => .failed .cancelled
    | .ok () => if count > limit then .rejected (too_many_requests env limit window) else .counted limit count window

def verdict (request : Request) (user : Option Identity) : Verdict :=
  match request.url_path env.valid_netloc with
  | .error e => .failed (.exception e)
  | .ok path =>
    if RATE_LIMIT_EXCLUDED.any (fun page => page.toList = path) then .excluded
    else
      match effective_limit env (get_client_role user), current_window env with
      | .error e, _ => .failed (.exception e)
      | .ok _, .error e => .failed (.exception e)
      | .ok limit, .ok window => count_request env request user limit window

def Verdict.admitted : Verdict → Bool
  | .excluded | .fail_open | .counted _ _ _ => true
  | .rejected _ | .failed _ => false

/-- Redis answered, and the count is within the limit. -/
def Verdict.is_counted : Verdict → Bool
  | .counted _ _ _ => true
  | _ => false

variable {env}

theorem call_attempt (key : String) (limit window : ℤ) (call_next : Raising σ PyBaseException Response) (s : σ) :
    (attempt env key limit window call_next).call s =
      match env.incr key with
      | .error e => (.error e, s)
      | .ok count =>
        match set_expiry env key count with
        | .error e => (.error e, s)
        | .ok () =>
          if count > limit then (.ok (too_many_requests env limit window), s)
          else (call_next >>= fun response => pure (attach_headers env limit count window response)).call s := by
  unfold attempt
  rw [Raising.call_bind, Raising.call_lift]
  cases env.incr key with
  | error e => rfl
  | ok count =>
    dsimp only
    rw [Raising.call_bind, Raising.call_lift]
    cases set_expiry env key count with
    | error e => rfl
    | ok _ =>
      dsimp only
      split <;> rfl

/-- How the middleware carries the verdict out. -/
theorem call_dispatch (request : Request) (user : Option Identity) (call_next : Raising σ PyBaseException Response)
    (s : σ) :
    (dispatch env request user call_next).call s =
      match verdict env request user with
      | .excluded | .fail_open => call_next.call s
      | .counted limit count window =>
        match call_next.call s with
        | (.ok response, s') => (.ok (attach_headers env limit count window response), s')
        | (.error (.exception _), s') => call_next.call s'
        | (.error .cancelled, s') => (.error .cancelled, s')
      | .rejected response => (.ok response, s)
      | .failed e => (.error e, s) := by
  unfold dispatch verdict
  rw [Raising.call_bind, Raising.call_lift]
  cases request.url_path env.valid_netloc with
  | error e => rfl
  | ok path =>
    dsimp only [Except.mapError]
    split
    · rfl
    · rw [Raising.call_bind, Raising.call_lift]
      cases effective_limit env (get_client_role user) with
      | error e => rfl
      | ok limit =>
        dsimp only [Except.mapError]
        rw [Raising.call_bind, Raising.call_lift]
        cases current_window env with
        | error e => rfl
        | ok window =>
          dsimp only [Except.mapError, count_request]
          rw [Raising.call_tryCatch, call_attempt]
          cases env.incr (window_key env request user window) with
          | error e => cases e <;> rfl
          | ok count =>
            dsimp only
            cases set_expiry env (window_key env request user window) count with
            | error e => cases e <;> rfl
            | ok _ =>
              by_cases hover : count > limit
              · simp only [if_pos hover]
              · simp only [if_neg hover]
                rw [Raising.call_bind]
                rcases call_next.call s with ⟨_ | response, s'⟩
                · rename_i e
                  cases e <;> rfl
                · rfl

/-- The application behind the limiter, with a count of its invocations. -/
def counted (app : Raising σ PyBaseException Response) : Raising (σ × ℕ) PyBaseException Response :=
  do
    modify fun (world, invocations) => (world, invocations + 1)
    app.onFst

/-- How often a request invokes the application behind the limiter. -/
def invocations (env : Env) (request : Request) (user : Option Identity) (app : Raising σ PyBaseException Response)
    (world : σ) : ℕ :=
  ((dispatch env request user (counted app)).call (world, 0)).2.2

theorem call_counted (app : Raising σ PyBaseException Response) (world : σ) (n : ℕ) :
    (counted app).call (world, n) = ((app.call world).1, ((app.call world).2, n + 1)) := by
  unfold counted
  rw [Raising.call_bind, Raising.call_modify]
  exact Raising.call_onFst app world (n + 1)

/-- A request that Redis counted is executed again if its execution raises. -/
theorem invocations_eq (request : Request) (user : Option Identity) (app : Raising σ PyBaseException Response)
    (world : σ) :
    invocations env request user app world =
      match verdict env request user, (app.call world).1 with
      | .counted _ _ _, .error (.exception _) => 2
      | verdict, _ => if verdict.admitted then 1 else 0 := by
  unfold invocations
  rw [call_dispatch]
  cases verdict env request user with
  | excluded => rw [call_counted]; rfl
  | fail_open => rw [call_counted]; rfl
  | counted limit count window =>
    rw [call_counted]
    cases (app.call world).1 with
    | ok response => rfl
    | error e =>
      cases e with
      | exception e =>
        dsimp only
        rw [call_counted]
      | cancelled => rfl
  | rejected response => rfl
  | failed e => rfl

/-- An admitted request is executed once and any other one never, unless Redis counted
the request and its execution raises an exception. -/
theorem executed_once_iff (request : Request) (user : Option Identity) (app : Raising σ PyBaseException Response)
    (world : σ) :
    invocations env request user app world = (if (verdict env request user).admitted then 1 else 0) ↔
      ¬ ((verdict env request user).is_counted = true ∧ ∃ e, (app.call world).1 = .error (.exception e)) := by
  rw [invocations_eq]
  cases verdict env request user with
  | counted limit count window =>
    cases (app.call world).1 with
    | ok response => simp
    | error e => cases e <;> simp [Verdict.admitted, Verdict.is_counted]
  | _ => simp [Verdict.is_counted]

/-- The application forwards a POST, and then the answer of the upstream service times
out. The world counts what upstream received. -/
def forward_and_time_out : Raising ℕ PyBaseException Response := do
  modify (· + 1)
  throw (.exception .LibraryError)

/-- The first request of a client in its window. -/
def first_in_window : Env where
  settings := { rate_limit_requests := 100, rate_limit_window_seconds := 60 }
  valid_netloc _ := true
  str _ := "operator"
  now := 1735689600
  later := 1735689600
  incr _ := .ok 1
  expire _ _ := .ok ()

def sample_post : Request where
  method := "POST"
  scheme := "http".toList
  is_scheme := UrlSplit.isScheme_http
  host := "gateway:8000"
  path := "/api/v1/devices/commands"
  authorization := none
  client := some "10.0.0.7"

/-- A POST that is forwarded and not answered in time is forwarded again. -/
theorem forwarded_twice :
    ¬ ∀ (σ : Type) (env : Env) (request : Request) (user : Option Identity)
      (app : Raising σ PyBaseException Response) (world : σ),
      invocations env request user app world = if (verdict env request user).admitted then 1 else 0 := by
  intro hclaim
  have htwice : invocations first_in_window sample_post none forward_and_time_out 0 = 2 := by decide +kernel
  have honce := hclaim ℕ first_in_window sample_post none forward_and_time_out 0
  rw [htwice] at honce
  split at honce <;> cases honce

end gateway.rate_limiter
