import EdgeGateway.Library.Dict
import EdgeGateway.Library.JsonValue

namespace gateway.jwt_handler

/-- The claims of a token. -/
abbrev Payload := Dict String JsonValue

inductive PyJWTError where
  | ExpiredSignatureError
  | InvalidTokenError (message : String)

/-- The functions of PyJWT. `decode` sees the time in microseconds since the epoch. -/
structure PyJWT where
  encode : Payload → (secret algorithm : String) → String
  decode : ℤ → (token secret algorithm : String) → Except PyJWTError Payload

/-- Raised when JWT operations fail. -/
structure JWTError where
  message : String

/-- PyJWT writes a datetime as whole seconds. -/
def timegm (microseconds : ℤ) : JsonValue := .int (microseconds / 1000000)

/-- The payload with the times of its token. -/
def to_encode (now : ℤ) (payload : Payload) (expires_minutes : ℤ) : Payload :=
  (payload.set "iat" (timegm now)).set "exp" (timegm (now + expires_minutes * 60000000))

/-- Create a signed JWT token. -/
def create_token (jwt : PyJWT) (now : ℤ) (payload : Payload) (secret algorithm : String) (expires_minutes : ℤ) :
    String :=
  jwt.encode (to_encode now payload expires_minutes) secret algorithm

/-- The first microsecond at which a token created at `now` has expired. -/
def expires_at (now expires_minutes : ℤ) : ℤ := (now + expires_minutes * 60000000) / 1000000 * 1000000

theorem expires_at_le (now expires_minutes : ℤ) : expires_at now expires_minutes ≤ now + expires_minutes * 60000000 :=
  Int.ediv_mul_le _ (by decide)

/-- Decode and validate a JWT token. -/
def decode_token (jwt : PyJWT) (now : ℤ) (token secret algorithm : String) : Except JWTError Payload :=
  match jwt.decode now token secret algorithm with
  | .ok payload => .ok payload
  | .error .ExpiredSignatureError => .error ⟨"Token has expired"⟩
  | .error (.InvalidTokenError message) => .error ⟨"Invalid token: " ++ message⟩

theorem decode_token_ok {jwt : PyJWT} {now : ℤ} {token secret algorithm : String} {payload : Payload}
    (h : decode_token jwt now token secret algorithm = .ok payload) :
    jwt.decode now token secret algorithm = .ok payload := by
  unfold decode_token at h
  split at h
  · rename_i payload' hdecode
    cases h
    exact hdecode
  · cases h
  · cases h

theorem decode_token_of_decode {jwt : PyJWT} {now : ℤ} {token secret algorithm : String} {payload : Payload}
    (h : jwt.decode now token secret algorithm = .ok payload) :
    decode_token jwt now token secret algorithm = .ok payload := by
  unfold decode_token
  rw [h]

end gateway.jwt_handler
