import EdgeGateway.Library.HttpHeaders
import EdgeGateway.Library.HttpxUrl
import EdgeGateway.Library.Raising
import EdgeGateway.Middleware.Request

open gateway.middleware

namespace gateway.proxy

/-- The base URL of a service: a scheme and an authority. -/
structure Upstream where
  scheme : List Char
  is_scheme : UrlSplit.IsScheme scheme
  authority : List Char
  is_authority : ∀ c ∈ authority, UrlSplit.delimiter c = false

def Upstream.base (upstream : Upstream) : List Char := upstream.scheme ++ ':' :: '/' :: '/' :: upstream.authority

structure Settings where
  upstream_device_manager : Upstream
  upstream_data_ingestion : Upstream
  upstream_ml_inference : Upstream
  upstream_scheduler : Upstream

/-- The routes of the proxy. -/
inductive Route where
  | devices
  | telemetry
  | inference
  | scheduler
deriving DecidableEq

/-- The segment of the path that selects the route. -/
def Route.segment : Route → List Char
  | .devices => "devices".toList
  | .telemetry => "telemetry".toList
  | .inference => "inference".toList
  | .scheduler => "scheduler".toList

/-- Mapping of path prefix to upstream URL. -/
def ROUTE_MAP (settings : Settings) : Route → Upstream
  | .devices => settings.upstream_device_manager
  | .telemetry => settings.upstream_data_ingestion
  | .inference => settings.upstream_ml_inference
  | .scheduler => settings.upstream_scheduler

/-- Headers that should NOT be forwarded to upstream services. -/
def HOP_BY_HOP_HEADERS : List String :=
  ["host", "connection", "keep-alive", "proxy-authenticate", "proxy-authorization", "te", "trailers", "transfer-encoding",
    "upgrade"]

def excluded_response_headers : List String := ["content-encoding", "content-length", "transfer-encoding"]

/-- A request as the proxy reads it. The server gives the names of its headers in lower case. -/
structure ProxyRequest extends Request where
  query_string : List Char
  headers : List (String × String)
  lower_names : ∀ header ∈ headers, header.1.toLower = header.1
  body : List UInt8
  /-- `request.state.correlation_id`. -/
  correlation_id : Option String

/-- What the HTTP client is called with. -/
structure UpstreamRequest where
  method : String
  url : List Char
  headers : Dict String String
  content : Option (List UInt8)

structure UpstreamResponse where
  status_code : ℕ
  headers : List (String × String)
  content : List UInt8

structure ProxyResponse where
  status_code : ℕ
  headers : List (String × String)
  content : List UInt8

/-- What the proxy works with while it handles a request. -/
structure Env where
  valid_netloc : List Char → Bool
  /-- The URLs that `httpx` takes. -/
  valid_url : List Char → Bool
  /-- What comes back when a request is sent to that URL. -/
  send : UpstreamRequest → HttpxUrl → Except PyBaseException UpstreamResponse

variable (env : Env)

/-- The `path` of the route `/{segment}/{path:path}`. The pattern takes no line break, but for one
at the very end that it leaves out. -/
def path_parameter (route : Route) (path : List Char) : Option (List Char) :=
  let start := "/api/v1/".toList ++ route.segment ++ ['/']
  if start.isPrefixOf path then
    let remainder := path.drop start.length
    let line := remainder.takeWhile (· ≠ '\n')
    if remainder = line ∨ remainder = line ++ ['\n'] then some line else none
  else none

/-- `request.url`. -/
def ProxyRequest.url (request : ProxyRequest) : List Char :=
  request.scheme ++ ':' :: '/' :: '/' ::
    (request.host.toList ++ request.path.toList ++ if request.query_string = [] then [] else '?' :: request.query_string)

/-- `request.url.query`. -/
def ProxyRequest.url_query (request : ProxyRequest) : Except PyExc (List Char) :=
  (UrlSplit.urlsplit env.valid_netloc request.url).map SplitResult.query

def target_url (upstream_base path query : List Char) : List Char :=
  let url := upstream_base ++ "/api/v1/".toList ++ path
  if query = [] then url else url ++ '?' :: query

def client_host (request : ProxyRequest) : String := request.client.getD "unknown"

/-- Forward headers (filter hop-by-hop). -/
def forward_headers (request : ProxyRequest) : Dict String String :=
  HttpHeaders.of_pairs (request.headers.filter fun header => header.1.toLower ∉ HOP_BY_HOP_HEADERS)

def inject_correlation_id (correlation_id : Option String) (headers : Dict String String) : Dict String String :=
  match correlation_id with
  | some correlation_id => if correlation_id = "" then headers else headers.set "X-Correlation-ID" correlation_id
  | none => headers

def inject_forwarded_for (client_host : String) (headers : Dict String String) : Dict String String :=
  let existing_forwarded := headers.getD "X-Forwarded-For" ""
  headers.set "X-Forwarded-For"
    (if existing_forwarded = "" then client_host else existing_forwarded ++ ", " ++ client_host)

/-- Inject gateway headers. -/
def inject_headers (request : ProxyRequest) : Dict String String :=
  inject_forwarded_for (client_host request) (inject_correlation_id request.correlation_id (forward_headers request))

/-- The call of the HTTP client. -/
def upstream_request (request : ProxyRequest) (upstream_base path : List Char) : Except PyExc UpstreamRequest := do
  let query ← request.url_query env
  return {
    method := request.method
    url := target_url upstream_base path query
    headers := inject_headers request
    content := if request.body = [] then none else some request.body }

/-- The URL that a request is sent to, unless `httpx` refuses it. -/
def sent_url (request : UpstreamRequest) : Option HttpxUrl :=
  if env.valid_url request.url then some (HttpxUrl.urlparse request.url) else none

/-- `http_client.request(...)`. -/
def http_client_request (request : UpstreamRequest) : Except PyBaseException UpstreamResponse :=
  match sent_url env request with
  | some url => env.send request url
  | none => .error (.exception .LibraryError)

/-- `Response(...)`: the headers that it is given, in lower case, and those that it adds. -/
def init_headers (status_code : ℕ) (headers : Dict String String) (media_type : Option String) (body : List UInt8) :
    List (String × String) :=
  let raw_headers := headers.items.map fun (name, value) => (name.toLower, value)
  let content_length :=
    if raw_headers.any (·.1 = "content-length") || status_code < 200 || status_code = 204 || status_code = 304 then []
    else [("content-length", toString body.length)]
  -- The proxy takes the media type from a header, so that it is there already.
  let content_type :=
    match media_type with
    | some media_type => if raw_headers.any (·.1 = "content-type") then [] else [("content-type", media_type)]
    | none => []
  raw_headers ++ content_length ++ content_type

def response_headers (upstream_response : UpstreamResponse) : Dict String String :=
  (HttpHeaders.joined upstream_response.headers).filter fun name _ => name.toLower ∉ excluded_response_headers

/-- Build the response, forwarding status, headers and body. -/
def build_response (upstream_response : UpstreamResponse) : ProxyResponse where
  status_code := upstream_response.status_code
  headers := init_headers upstream_response.status_code (response_headers upstream_response)
    ((HttpHeaders.joined upstream_response.headers).get? "content-type") upstream_response.content
  content := upstream_response.content

/-- Generic reverse-proxy helper. -/
def _proxy (request : ProxyRequest) (upstream_base path : List Char) : Except PyBaseException ProxyResponse := do
  let upstream ← (upstream_request env request upstream_base path).mapError PyBaseException.exception
  let upstream_response ← http_client_request env upstream
  return build_response upstream_response

/-- The route functions. -/
def proxy_route (settings : Settings) (route : Route) (request : ProxyRequest) (path : List Char) :
    Except PyBaseException ProxyResponse :=
  _proxy env request (ROUTE_MAP settings route).base (route.segment ++ '/' :: path)

def proxy_devices (settings : Settings) := proxy_route env settings .devices

def proxy_telemetry (settings : Settings) := proxy_route env settings .telemetry

def proxy_inference (settings : Settings) := proxy_route env settings .inference

def proxy_scheduler (settings : Settings) := proxy_route env settings .scheduler

end gateway.proxy
