import EdgeGateway.Library.Raising
import EdgeGateway.Middleware.Request

/-! The layers in front of the authentication. -/

namespace gateway.middleware

/-- A request with its headers, whose names the server gives in lower case. -/
structure HttpRequest extends Request where
  headers : List (String × String)

/-- `request.headers.get(name)`. -/
def HttpRequest.header (request : HttpRequest) (name : String) : Option String := request.headers.lookup name.toLower

/-- What the layers note about the request. -/
structure RequestState where
  /-- `request.state.correlation_id`. -/
  correlation_id : Option String
  /-- What the context of structlog binds the id to. -/
  contextvar : Option String

end gateway.middleware

open gateway.middleware

namespace gateway.request_logger

variable {σ : Type}

/-- Log every request/response. The path is read for the log. -/
def dispatch (valid_netloc : List Char → Bool) (request : Request) (call_next : Raising σ PyBaseException Response) :
    Raising σ PyBaseException Response := do
  let response ← call_next
  let _ ← (request.url_path valid_netloc).mapError PyBaseException.exception
  return response

theorem call_dispatch {valid_netloc : List Char → Bool} {request : Request}
    (call_next : Raising σ PyBaseException Response) (s : σ) :
    (dispatch valid_netloc request call_next).call s =
      match call_next.call s, request.url_path valid_netloc with
      | (.ok response, s'), .ok _ => (.ok response, s')
      | (.ok _, s'), .error e => (.error (.exception e), s')
      | (.error e, s'), _ => (.error e, s') := by
  unfold dispatch
  rw [Raising.call_bind]
  rcases call_next.call s with ⟨e | response, s'⟩
  · rfl
  · dsimp only
    rw [Raising.call_bind, Raising.call_lift]
    cases request.url_path valid_netloc <;> rfl

end gateway.request_logger

namespace gateway.correlation_id

variable {σ : Type}

def HEADER_NAME : String := "X-Correlation-ID"

/-- `request.headers.get(HEADER_NAME) or str(uuid.uuid4())`. -/
def read_or_generate (uuid4 : String) (request : HttpRequest) : String :=
  let header := (request.header HEADER_NAME).getD ""
  if header = "" then uuid4 else header

/-- Attach the id to the request and bind it to the context of structlog. -/
def attach (correlation_id : String) : σ × RequestState → σ × RequestState
  | (world, _) => (world, { correlation_id := some correlation_id, contextvar := some correlation_id })

def unbind_contextvars : σ × RequestState → σ × RequestState
  | (world, state) => (world, { state with contextvar := none })

/-- Ensure every request/response carries a correlation ID. -/
def dispatch (uuid4 : String) (request : HttpRequest) (call_next : Raising (σ × RequestState) PyBaseException Response) :
    Raising (σ × RequestState) PyBaseException Response := do
  let correlation_id := read_or_generate uuid4 request
  modify (attach correlation_id)
  let response ← call_next.tryFinally unbind_contextvars
  return response.set_header HEADER_NAME correlation_id

theorem call_dispatch {uuid4 : String} {request : HttpRequest}
    (call_next : Raising (σ × RequestState) PyBaseException Response) (s : σ × RequestState) :
    (dispatch uuid4 request call_next).call s =
      match call_next.call (attach (read_or_generate uuid4 request) s) with
      | (.ok response, s') =>
        (.ok (response.set_header HEADER_NAME (read_or_generate uuid4 request)), unbind_contextvars s')
      | (.error e, s') => (.error e, unbind_contextvars s') := by
  unfold dispatch
  rw [Raising.call_bind, Raising.call_modify]
  dsimp only
  rw [Raising.call_bind, Raising.call_tryFinally]
  rcases call_next.call (attach (read_or_generate uuid4 request) s) with ⟨e | response, s'⟩ <;> rfl

end gateway.correlation_id

namespace gateway.error_handler

/-- The types of exceptions that the layer tells apart. -/
inductive ExcType where
  | RequestValidationError
  | ValueError
  | KeyError
  | PermissionError
  | FileNotFoundError
  | NotImplementedError
  | TimeoutError
deriving DecidableEq

/-- What Python says about an exception. -/
structure Inspect where
  isinstance : PyExc → ExcType → Bool
  /-- `type(exc).__name__`. -/
  type_name : PyExc → String
  /-- `str(exc)`. -/
  str : PyExc → String

/-- Map well-known exception types to HTTP status codes. -/
def EXCEPTION_STATUS_MAP : List (ExcType × ℕ) :=
  [(.ValueError, 400), (.KeyError, 400), (.PermissionError, 403), (.FileNotFoundError, 404),
    (.NotImplementedError, 501), (.TimeoutError, 504)]

variable {σ : Type} (inspect : Inspect)

/-- Determine the status code from the known exception types. -/
def status_code (exc : PyExc) : ℕ :=
  match EXCEPTION_STATUS_MAP.find? fun (exc_type, _) => inspect.isinstance exc exc_type with
  | some (_, code) => code
  | none => 500

def error_response (correlation_id : Option String) (status_code : ℕ) (error message : String) : Response where
  status_code := status_code
  content := .dict [
    ("error", .str error),
    ("message", .str message),
    ("correlation_id", correlation_id.elim .null .str),
    ("status_code", .int status_code)]

def handle (valid_netloc : List Char → Bool) (request : Request) (exc : PyExc) :
    Raising (σ × RequestState) PyBaseException Response := do
  let (_, state) ← get
  if inspect.isinstance exc .RequestValidationError then
    return error_response state.correlation_id 422 "Validation Error" (inspect.str exc)
  else do
    -- The path is read for the log.
    let _ ← (request.url_path valid_netloc).mapError PyBaseException.exception
    let status_code := status_code inspect exc
    return error_response state.correlation_id status_code (inspect.type_name exc)
      (if status_code < 500 then inspect.str exc else "Internal server error")

/-- Return structured JSON error responses for unhandled exceptions. -/
def dispatch (valid_netloc : List Char → Bool) (request : Request)
    (call_next : Raising (σ × RequestState) PyBaseException Response) :
    Raising (σ × RequestState) PyBaseException Response :=
  tryCatch call_next fun
    | .exception exc => handle inspect valid_netloc request exc
    | .cancelled => throw .cancelled

/-- A response made here has no headers, and the id in its body only. -/
theorem call_handle (valid_netloc : List Char → Bool) (request : Request) (exc : PyExc) (s : σ × RequestState) :
    (∃ e, (handle inspect valid_netloc request exc).call s = (.error (.exception e), s)) ∨
      ∃ status_code error message, (handle inspect valid_netloc request exc).call s =
        (.ok (error_response s.2.correlation_id status_code error message), s) := by
  unfold handle
  rw [Raising.call_bind, Raising.call_get]
  dsimp only
  by_cases hvalidation : inspect.isinstance exc .RequestValidationError = true
  · rw [if_pos hvalidation]
    exact .inr ⟨_, _, _, rfl⟩
  · rw [if_neg hvalidation, Raising.call_bind, Raising.call_lift]
    cases request.url_path valid_netloc with
    | error e => exact .inl ⟨e, rfl⟩
    | ok path => exact .inr ⟨_, _, _, rfl⟩

end gateway.error_handler
