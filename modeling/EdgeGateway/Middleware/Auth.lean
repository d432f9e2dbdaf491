import EdgeGateway.Middleware.AuthService

open gateway.jwt_handler gateway.auth_service

namespace gateway.auth

structure TokenResponse where
  access_token : String
  refresh_token : String
  token_type : String := "bearer"

structure AccessTokenResponse where
  access_token : String
  token_type : String := "bearer"

/-- How a handler fails: with a response of its own, or with an exception. -/
inductive Failure where
  | HTTPException (status_code : ℕ) (detail : String)
  | raised (e : PyExc)

variable (sha256 : String → String) (jwt : PyJWT) (settings : Settings) (now : ℤ)

/-- Authenticate with username/password and receive JWT tokens. -/
def login (username password : String) : Except Failure TokenResponse :=
  match authenticate_user sha256 username password with
  | none => .error (.HTTPException 401 "Invalid username or password")
  | some user =>
    .ok {
      access_token := create_access_token jwt settings now user
      refresh_token := create_refresh_token jwt settings now user }

/-- The user whom a refresh token names. -/
def refresh_user (refresh_token : String) : Except Failure User :=
  match verify_token jwt settings now refresh_token with
  | .error _ => .error (.HTTPException 401 "Invalid or expired refresh token")
  | .ok payload =>
    match payload.get? "type" with
    | some (.str "refresh") =>
      match payload.get? "sub" with
      | none => .error (.raised .KeyError)
      | some sub => .ok { sub := sub, role := payload.getD "role" (.str "user") }
    | _ => .error (.HTTPException 401 "Token is not a refresh token")

/-- Exchange a valid refresh token for a new access token. -/
def refresh (refresh_token : String) : Except Failure AccessTokenResponse :=
  (refresh_user jwt settings now refresh_token).map fun user =>
    { access_token := create_access_token jwt settings now user }

variable {sha256 jwt settings now}

theorem login_ok {username password : String} {response : TokenResponse}
    (h : login sha256 jwt settings now username password = .ok response) :
    ∃ user, authenticate_user sha256 username password = some user ∧
      response.access_token = create_access_token jwt settings now user ∧
      response.refresh_token = create_refresh_token jwt settings now user := by
  unfold login at h
  split at h
  · cases h
  · rename_i user huser
    cases h
    exact ⟨user, huser, rfl, rfl⟩

theorem refresh_ok {refresh_token : String} {response : AccessTokenResponse}
    (h : refresh jwt settings now refresh_token = .ok response) :
    ∃ user, refresh_user jwt settings now refresh_token = .ok user ∧
      response.access_token = create_access_token jwt settings now user := by
  unfold refresh at h
  cases huser : refresh_user jwt settings now refresh_token with
  | error e =>
    rw [huser] at h
    cases h
  | ok user =>
    rw [huser] at h
    cases h
    exact ⟨user, rfl, rfl⟩

/-- Only a token of type "refresh" is exchanged. -/
theorem refresh_user_ok {refresh_token : String} {user : User}
    (h : refresh_user jwt settings now refresh_token = .ok user) :
    ∃ payload, verify_token jwt settings now refresh_token = .ok payload ∧
      payload.get? "type" = some (.str "refresh") ∧ payload.get? "sub" = some user.sub ∧
      user.role = payload.getD "role" (.str "user") := by
  unfold refresh_user at h
  split at h
  · cases h
  · rename_i payload hverify
    split at h
    · rename_i htype
      split at h
      · cases h
      · rename_i sub hsub
        cases h
        exact ⟨payload, hverify, htype, hsub, rfl⟩
    · cases h

end gateway.auth
