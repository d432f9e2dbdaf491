import EdgeGateway.Library.Dict
import EdgeGateway.Library.UrlSplit

namespace gateway.middleware

/-- An HTTP request. Its path is what routing sees. -/
structure Request where
  method : String
  scheme : List Char
  is_scheme : UrlSplit.IsScheme scheme
  host : String
  path : String
  authorization : Option String
  /-- The address of the client. -/
  client : Option String

structure Response where
  status_code : ℕ
  content : JsonValue
  /-- By their names in lower case. -/
  headers : Dict String String := .empty

/-- `response.headers[name] = value`. -/
def Response.set_header (response : Response) (name value : String) : Response :=
  { response with headers := response.headers.set name.toLower value }

/-- `request.url.path`. -/
def Request.url_path (valid_netloc : List Char → Bool) (request : Request) : Except PyExc (List Char) :=
  (UrlSplit.urlsplit valid_netloc
    (request.scheme ++ ':' :: '/' :: '/' :: (request.host.toList ++ request.path.toList))).map SplitResult.path

/-- The path starts where the authority ends, which is in the host if that has a delimiter. -/
theorem Request.url_path_eq {valid_netloc : List Char → Bool} {request : Request} {rest : List Char}
    (hpath : UrlSplit.clean request.path.toList = '/' :: rest) :
    request.url_path valid_netloc =
      if valid_netloc (UrlSplit.splitnetloc (UrlSplit.clean request.host.toList)).1 then
        .ok (((UrlSplit.splitnetloc (UrlSplit.clean request.host.toList)).2 ++ '/' :: rest).takeWhile
          (!UrlSplit.path_end ·))
      else .error .ValueError := by
  unfold Request.url_path
  rw [UrlSplit.path_urlsplit request.is_scheme, UrlSplit.clean_append, hpath, UrlSplit.splitnetloc_append]

/-- What the authentication puts into `request.state.user`. -/
structure Identity where
  sub : JsonValue
  role : JsonValue
  auth_method : String
  key_id : Option JsonValue := none

end gateway.middleware
