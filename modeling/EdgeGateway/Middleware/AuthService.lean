import EdgeGateway.Shared.JwtHandler

open gateway.jwt_handler

namespace gateway.auth_service

structure Settings where
  jwt_secret : String
  jwt_algorithm : String
  jwt_expiration_minutes : ℤ
  jwt_refresh_expiration_minutes : ℤ

structure User where
  sub : JsonValue
  role : JsonValue

/-- The hardcoded users, with the hashes of their passwords and their roles. -/
def DEV_USERS (sha256 : String → String) : List (String × String × String) :=
  [("admin", sha256 "admin", "admin"), ("operator", sha256 "operator", "user"),
    ("device-service", sha256 "device-service", "device")]

/-- Validate username and password. -/
def authenticate_user (sha256 : String → String) (username password : String) : Option User :=
  match (DEV_USERS sha256).lookup username with
  | none => none
  | some (password_hash, role) =>
    if sha256 password = password_hash then some { sub := .str username, role := .str role } else none

/-- The claims that a token of the given type has for the user. -/
def claims (user : User) (type : String) : Payload :=
  ((Dict.empty.set "sub" user.sub).set "role" user.role).set "type" (.str type)

def create_access_token (jwt : PyJWT) (settings : Settings) (now : ℤ) (user : User) : String :=
  create_token jwt now (claims user "access") settings.jwt_secret settings.jwt_algorithm
    settings.jwt_expiration_minutes

def create_refresh_token (jwt : PyJWT) (settings : Settings) (now : ℤ) (user : User) : String :=
  create_token jwt now (claims user "refresh") settings.jwt_secret settings.jwt_algorithm
    settings.jwt_refresh_expiration_minutes

/-- Decode and validate a JWT token. -/
def verify_token (jwt : PyJWT) (settings : Settings) (now : ℤ) (token : String) : Except JWTError Payload :=
  decode_token jwt now token settings.jwt_secret settings.jwt_algorithm

/-- PyJWT accepts a token of the service exactly until it expires, and returns what was
encoded. -/
structure Verifies (jwt : PyJWT) (settings : Settings) : Prop where
  decode_iff : ∀ (sub role type : String) (created now minutes : ℤ) (payload : Payload), created ≤ now →
    (jwt.decode now (create_token jwt created (claims ⟨.str sub, .str role⟩ type) settings.jwt_secret
        settings.jwt_algorithm minutes) settings.jwt_secret settings.jwt_algorithm = .ok payload ↔
      payload = to_encode created (claims ⟨.str sub, .str role⟩ type) minutes ∧ now < expires_at created minutes)

variable {user : User} {type : String} {now minutes : ℤ}

theorem to_encode_get?_sub : (to_encode now (claims user type) minutes).get? "sub" = some user.sub := by
  simp [to_encode, claims, Dict.get?_set]

theorem to_encode_get?_role : (to_encode now (claims user type) minutes).get? "role" = some user.role := by
  simp [to_encode, claims, Dict.get?_set]

end gateway.auth_service
