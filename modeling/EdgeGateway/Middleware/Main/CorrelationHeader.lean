import EdgeGateway.Middleware.Layers
import EdgeGateway.Middleware.Main.Mediation

open gateway.middleware gateway.correlation_id

namespace gateway.main

/-- The layers inside the one that attaches the correlation id. -/
def inner_layers {τ : Type} (env : Env) (request : Request) (app : Option Identity → Raising τ PyBaseException Response) :
    Raising τ PyBaseException Response :=
  request_logger.dispatch env.valid_netloc request
    (authentication.dispatch env.toEnv request fun user => rate_limiter.dispatch env.limiter request user (app user))

variable {σ : Type} (env : Env) (inspect : error_handler.Inspect) (uuid4 : String) (request : HttpRequest)
  (app : Option Identity → Raising (σ × RequestState) PyBaseException Response)

/-- The middleware layers, outermost first. -/
def middleware_stack : Raising (σ × RequestState) PyBaseException Response :=
  error_handler.dispatch inspect env.valid_netloc request.toRequest
    (correlation_id.dispatch uuid4 request (inner_layers env request.toRequest app))

/-- What Starlette answers when an exception leaves the layers. -/
def server_error : Response := { status_code := 500, content := .str "Internal Server Error" }

/-- The response to the request, if its task is not cancelled. -/
def answer : Except PyBaseException Response → Option Response
  | .ok response => some response
  | .error (.exception _) => some server_error
  | .error .cancelled => none

/-- The response has the id of the request unless that is empty, and else the generated one. -/
def Carries (response : Response) : Prop :=
  ∃ id, response.headers.get? HEADER_NAME.toLower = some id ∧
    ((request.header HEADER_NAME = some id ∧ id ≠ "") ∨
      ((∀ sent, request.header HEADER_NAME = some sent → sent = "") ∧ id = uuid4))

/-- Whatever the request is answered carries the correlation id. -/
def CarriesId (s : σ × RequestState) : Prop :=
  ∀ response, answer ((middleware_stack env inspect uuid4 request app).call s).1 = some response →
    Carries uuid4 request response

variable {env inspect uuid4 request app}

theorem carries_iff {response : Response} :
    Carries uuid4 request response ↔
      response.headers.get? HEADER_NAME.toLower = some (read_or_generate uuid4 request) := by
  unfold Carries read_or_generate
  cases request.header HEADER_NAME with
  | none => simp
  | some sent =>
    by_cases hempty : sent = ""
    · simp [hempty]
    · simp [hempty]

section Raises

/-- The call raises an exception. -/
def Raises {τ : Type} (x : Raising τ PyBaseException Response) (s : τ) : Prop :=
  ∃ e, (x.call s).1 = .error (.exception e)

/-- The authentication lets the request pass with this `request.state.user`. -/
def Passes (env : authentication.Env) (request : Request) (user : Option Identity) : Prop :=
  (authentication.verdict env request = .excluded ∧ user = none) ∨
    ∃ identity, authentication.verdict env request = .accepted identity ∧ user = some identity

/-- The rate limiter counts the requests to the page, and cannot work out the limit or the window. -/
def LimitRaises (env : rate_limiter.Env) (request : Request) (user : Option Identity) : Prop :=
  ∃ path, request.url_path env.valid_netloc = .ok path ∧
    (∀ page ∈ rate_limiter.RATE_LIMIT_EXCLUDED, page.toList ≠ path) ∧
      ((∃ e, rate_limiter.effective_limit env (rate_limiter.get_client_role user) = .error e) ∨
        env.settings.rate_limit_window_seconds = 0)

/-- The application raises, and so it does once more if the limiter counted the request and
calls it a second time. -/
def HandlerRaises {τ : Type} (x : Raising τ PyBaseException Response) (counted : Bool) (s : τ) : Prop :=
  Raises x s ∧ (counted = true → Raises x (x.call s).2)

/-- What makes an exception come out of the inner layers. -/
def Escapes (env : Env) (request : Request) (app : Option Identity → Raising (σ × RequestState) PyBaseException Response)
    (s : σ × RequestState) : Prop :=
  (∃ e, request.url_path env.valid_netloc = .error e) ∨
    ∃ user, Passes env.toEnv request user ∧
      (LimitRaises env.limiter request user ∨
        ((rate_limiter.verdict env.limiter request user).admitted = true ∧
          HandlerRaises (app user) (rate_limiter.verdict env.limiter request user).is_counted s))

variable {τ : Type} {s : τ}

theorem raises_logger {valid_netloc : List Char → Bool} {request : Request}
    {call_next : Raising τ PyBaseException Response} {path : List Char} (hpath : request.url_path valid_netloc = .ok path) :
    Raises (request_logger.dispatch valid_netloc request call_next) s ↔ Raises call_next s := by
  unfold Raises
  rw [request_logger.call_dispatch, hpath]
  rcases call_next.call s with ⟨e | response, s'⟩ <;> rfl

/-- Without a path the authentication raises before anything else is done. -/
theorem verdict_of_url_path {env : authentication.Env} {request : Request} {e : PyExc}
    (hpath : request.url_path env.valid_netloc = .error e) :
    authentication.verdict env request = .failed (.exception e) := by
  unfold authentication.verdict
  rw [hpath]

theorem check_header_ne_failed (env : authentication.Env) (auth_header : String) (e : PyExc) :
    authentication.check_header env auth_header ≠ .failed (.exception e) := by
  unfold authentication.check_header
  split
  · split <;> simp
  · rename_i api_key _ _
    have hkey : authentication.validate_api_key env api_key ≠ .error (.exception e) := by
      unfold authentication.validate_api_key
      split
      · simp
      · split <;> simp
      · simp
      · simp
    split
    · rename_i e' hfailed
      rintro ⟨⟩
      exact hkey hfailed
    · simp
    · simp
  · simp

/-- The authentication raises no exception of its own once it has the path. -/
theorem verdict_ne_failed {env : authentication.Env} {request : Request} {path : List Char}
    (hpath : request.url_path env.valid_netloc = .ok path) (e : PyExc) :
    authentication.verdict env request ≠ .failed (.exception e) := by
  unfold authentication.verdict
  rw [hpath]
  dsimp only
  split
  · simp
  · split
    · simp
    · split
      · simp
      · exact check_header_ne_failed env _ e

theorem raises_authentication {env : authentication.Env} {request : Request} {path : List Char}
    {call_next : Option Identity → Raising τ PyBaseException Response}
    (hpath : request.url_path env.valid_netloc = .ok path) :
    Raises (authentication.dispatch env request call_next) s ↔
      ∃ user, Passes env request user ∧ Raises (call_next user) s := by
  have hfailed := verdict_ne_failed hpath
  unfold Raises Passes
  rw [authentication.call_dispatch]
  cases hverdict : authentication.verdict env request with
  | excluded => simp
  | accepted identity => simp
  | rejected response => simp
  | failed e =>
    cases e with
    | exception e => exact absurd hverdict (hfailed e)
    | cancelled => simp

/-- A Redis command that raises an exception is no failure of the limiter. -/
theorem count_request_ne_failed (env : rate_limiter.Env) (request : Request) (user : Option Identity) (limit window : ℤ)
    (e : PyExc) : rate_limiter.count_request env request user limit window ≠ .failed (.exception e) := by
  unfold rate_limiter.count_request
  dsimp only
  split
  · simp
  · simp
  · split
    · simp
    · simp
    · split <;> simp

theorem limiter_failed_iff {env : rate_limiter.Env} {request : Request} {user : Option Identity} {path : List Char}
    (hpath : request.url_path env.valid_netloc = .ok path) :
    (∃ e, rate_limiter.verdict env request user = .failed (.exception e)) ↔ LimitRaises env request user := by
  unfold LimitRaises rate_limiter.verdict
  rw [hpath]
  simp only [Except.ok.injEq, exists_eq_left']
  by_cases hexcluded : (rate_limiter.RATE_LIMIT_EXCLUDED.any fun page => page.toList = path) = true
  · obtain ⟨page, hmem, hpage⟩ := List.any_eq_true.mp hexcluded
    rw [if_pos hexcluded]
    constructor
    · rintro ⟨e, ⟨⟩⟩
    · rintro ⟨hcounts, -⟩
      exact absurd (of_decide_eq_true hpage) (hcounts page hmem)
  · have hcounts : ∀ page ∈ rate_limiter.RATE_LIMIT_EXCLUDED, page.toList ≠ path := by
      intro page hmem heq
      exact hexcluded (List.any_eq_true.mpr ⟨page, hmem, decide_eq_true heq⟩)
    rw [if_neg hexcluded, and_iff_right hcounts]
    cases rate_limiter.effective_limit env (rate_limiter.get_client_role user) with
    | error e => simp
    | ok limit =>
      unfold rate_limiter.current_window
      by_cases hwindow : env.settings.rate_limit_window_seconds = 0
      · simp [hwindow]
      · simp [hwindow, count_request_ne_failed]

theorem raises_limiter {env : rate_limiter.Env} {request : Request} {user : Option Identity} {path : List Char}
    {call_next : Raising τ PyBaseException Response} (hpath : request.url_path env.valid_netloc = .ok path) :
    Raises (rate_limiter.dispatch env request user call_next) s ↔
      LimitRaises env request user ∨
        ((rate_limiter.verdict env request user).admitted = true ∧
          HandlerRaises call_next (rate_limiter.verdict env request user).is_counted s) := by
  rw [← limiter_failed_iff hpath]
  unfold HandlerRaises Raises
  rw [rate_limiter.call_dispatch]
  cases rate_limiter.verdict env request user with
  | excluded => simp [rate_limiter.Verdict.admitted, rate_limiter.Verdict.is_counted]
  | fail_open => simp [rate_limiter.Verdict.admitted, rate_limiter.Verdict.is_counted]
  | counted limit count window =>
    -- An exception is handled by calling the application again.
    rcases call_next.call s with ⟨e | response, s'⟩
    · cases e with
      | exception e => simp [rate_limiter.Verdict.admitted, rate_limiter.Verdict.is_counted]
      | cancelled => simp
    · simp
  | rejected response => simp [rate_limiter.Verdict.admitted]
  | failed e => simp [rate_limiter.Verdict.admitted]

theorem raises_inner_layers_iff {s : σ × RequestState} :
    Raises (inner_layers env request.toRequest app) s ↔ Escapes env request.toRequest app s := by
  unfold Escapes
  cases hpath : request.url_path env.valid_netloc with
  | error e =>
    refine iff_of_true ⟨e, ?_⟩ (.inl ⟨e, rfl⟩)
    unfold inner_layers
    rw [request_logger.call_dispatch, authentication.call_dispatch, verdict_of_url_path hpath]
  | ok path =>
    unfold inner_layers
    rw [raises_logger hpath, raises_authentication hpath]
    simp only [reduceCtorEq, exists_false, false_or]
    exact exists_congr fun user => and_congr_right fun _ => raises_limiter hpath

end Raises

/-- The error handler answers what the layers inside of it raise, and attaches no header. -/
theorem answer_of_raises (inspect : error_handler.Inspect) {s : σ × RequestState}
    (hraises : Raises (inner_layers env request.toRequest app) (attach (read_or_generate uuid4 request) s)) :
    ∃ response, answer ((middleware_stack env inspect uuid4 request app).call s).1 = some response ∧
      response.headers = .empty := by
  obtain ⟨exc, hraises⟩ := hraises
  unfold middleware_stack error_handler.dispatch
  rw [Raising.call_tryCatch, correlation_id.call_dispatch]
  rcases hcall : (inner_layers env request.toRequest app).call (attach (read_or_generate uuid4 request) s) with ⟨outcome, s'⟩
  rw [hcall] at hraises
  obtain rfl := hraises
  dsimp only
  obtain ⟨e, hhandle⟩ | ⟨status_code, error, message, hhandle⟩ :=
    error_handler.call_handle inspect env.valid_netloc request.toRequest exc (unbind_contextvars s')
  · rw [hhandle]
    exact ⟨server_error, rfl, rfl⟩
  · rw [hhandle]
    exact ⟨_, rfl, rfl⟩

section World

variable {τ ρ : Type} {call_next : Option Identity → Raising τ PyBaseException Response}

theorem logger_onFst {valid_netloc : List Char → Bool} {request : Request} (call_next : Raising τ PyBaseException Response) :
    request_logger.dispatch valid_netloc request (call_next.onFst (τ := ρ)) =
      (request_logger.dispatch valid_netloc request call_next).onFst := by
  refine Raising.ext_call fun s => ?_
  obtain ⟨world, state⟩ := s
  rw [Raising.call_onFst, request_logger.call_dispatch, request_logger.call_dispatch, Raising.call_onFst]
  rcases call_next.call world with ⟨e | response, world'⟩
  · rfl
  · cases request.url_path valid_netloc <;> rfl

theorem authentication_onFst {env : authentication.Env} {request : Request}
    (call_next : Option Identity → Raising τ PyBaseException Response) :
    authentication.dispatch env request (fun user => (call_next user).onFst (τ := ρ)) =
      (authentication.dispatch env request call_next).onFst := by
  refine Raising.ext_call fun s => ?_
  obtain ⟨world, state⟩ := s
  rw [Raising.call_onFst, authentication.call_dispatch, authentication.call_dispatch]
  cases authentication.verdict env request <;> rfl

theorem limiter_onFst {env : rate_limiter.Env} {request : Request} {user : Option Identity}
    (call_next : Raising τ PyBaseException Response) :
    rate_limiter.dispatch env request user (call_next.onFst (τ := ρ)) =
      (rate_limiter.dispatch env request user call_next).onFst := by
  refine Raising.ext_call fun s => ?_
  obtain ⟨world, state⟩ := s
  rw [Raising.call_onFst, rate_limiter.call_dispatch, rate_limiter.call_dispatch]
  cases rate_limiter.verdict env request user with
  | counted limit count window =>
    dsimp only
    rw [Raising.call_onFst]
    rcases call_next.call world with ⟨e | response, world'⟩
    · cases e with
      | exception e => exact Raising.call_onFst call_next world' state
      | cancelled => rfl
    · rfl
  | _ => rfl

/-- The inner layers neither read nor change what the outer ones note. -/
theorem inner_layers_onFst {env : Env} {request : Request} :
    inner_layers env request (fun user => (call_next user).onFst (τ := ρ)) =
      (inner_layers env request call_next).onFst := by
  unfold inner_layers
  simp only [limiter_onFst]
  rw [authentication_onFst, logger_onFst]

/-- The other layers change nothing of what the inner ones do to the world. -/
theorem world_middleware_stack (world : σ) (state : RequestState)
    (call_next : Option Identity → Raising σ PyBaseException Response) :
    ((middleware_stack env inspect uuid4 request fun user => (call_next user).onFst).call (world, state)).2.1 =
      ((inner_layers env request.toRequest call_next).call world).2 := by
  unfold middleware_stack error_handler.dispatch
  rw [Raising.call_tryCatch, correlation_id.call_dispatch, attach, inner_layers_onFst, Raising.call_onFst]
  rcases (inner_layers env request.toRequest call_next).call world with ⟨e | response, world'⟩
  · cases e with
    | exception exc =>
      obtain ⟨e, hhandle⟩ | ⟨status_code, error, message, hhandle⟩ :=
        error_handler.call_handle inspect env.valid_netloc request.toRequest exc (unbind_contextvars (world', _))
      · dsimp only
        rw [hhandle]
        rfl
      · dsimp only
        rw [hhandle]
        rfl
    | cancelled => rfl
  · rfl

/-- Behind the whole stack the same handlers run as behind the authentication and the limiter. -/
theorem ran_middleware_stack (state : RequestState) :
    ((middleware_stack env inspect uuid4 request fun user => (router env request.toRequest user).onFst).call
      ([], state)).2.1 = ran env request.toRequest := by
  rw [world_middleware_stack, inner_layers, request_logger.call_dispatch, ran, app]
  rcases (authentication.dispatch env.toEnv request.toRequest fun user =>
    rate_limiter.dispatch env.limiter request.toRequest user (router env request.toRequest user)).call [] with
    ⟨e | response, ran⟩
  · rfl
  · cases request.url_path env.valid_netloc <;> rfl

end World

/-- An application that knows one API key, and whose upstream services are down. -/
def upstream_down : Env :=
  { sample_env with
    redis_get := fun _ => .ok (some "")
    loads := fun _ => .ok (.dict [("name", .str "operator"), ("role", .str "user"), ("key_id", .str "01")]) }

def connection_refused : Raising (Unit × RequestState) PyBaseException Response := throw (.exception .LibraryError)

def connect_error : error_handler.Inspect where
  isinstance _ _ := false
  type_name _ := "ConnectError"
  str _ := "All connection attempts failed"

def proxied_get : HttpRequest where
  method := "GET"
  scheme := "http".toList
  is_scheme := UrlSplit.isScheme_http
  host := "gateway:8000"
  path := "/api/v1/devices/7"
  authorization := some "ApiKey 42"
  client := some "10.0.0.7"
  headers := [("x-correlation-id", "7f0e")]

end gateway.main
