import EdgeGateway.Middleware.Auth
import EdgeGateway.Middleware.Auth.AccessLifetime
import EdgeGateway.Middleware.Main.Mediation

open gateway.middleware gateway.jwt_handler gateway.auth_service gateway.authentication

namespace gateway.auth

/-- What FastAPI makes of the outcome of `refresh`. -/
def refresh_response (jwt : PyJWT) (settings : Settings) (now : ℤ) (refresh_token : String) :
    Except PyBaseException Response :=
  match refresh jwt settings now refresh_token with
  | .ok response =>
    .ok {
      status_code := 200
      content := .dict [("access_token", .str response.access_token), ("token_type", .str response.token_type)] }
  | .error (.HTTPException status_code detail) => .ok { status_code, content := .dict [("detail", .str detail)] }
  | .error (.raised e) => .error (.exception e)

/-- The handlers for a request with a refresh token in its body, which is exchanged at the instant `handled`. -/
def with_body (env : main.Env) (handled : ℤ) (refresh_token : String) : main.Env :=
  { env with
    handlers := fun endpoint user =>
      if endpoint = .refresh then some (refresh_response env.jwt env.settings handled refresh_token)
      else env.handlers endpoint user }

/-- The `Authorization` header: none, or the access token that the user got at an instant. -/
def carried (jwt : PyJWT) (settings : Settings) (user : User) (access : Option ℤ) : Option String :=
  access.map fun created => "Bearer " ++ create_access_token jwt settings created user

/-- `request.state.user`, if the authentication lets the request through. -/
def Passes (env : main.Env) (request : Request) (user : Option Identity) : Prop :=
  (authentication.verdict env.toEnv request = .excluded ∧ user = none) ∨
    ∃ identity, authentication.verdict env.toEnv request = .accepted identity ∧ user = some identity

/-- The limiter admits what the authentication lets through. -/
def WithinLimit (env : main.Env) (request : Request) : Prop :=
  ∀ user, Passes env request user → (rate_limiter.verdict env.limiter request user).admitted = true

/-- The client gets the access token. -/
def Returns (outcome : Except PyBaseException Response) (access_token : String) : Prop :=
  ∃ response, outcome = .ok response ∧ response.status_code = 200 ∧
    response.content = .dict [("access_token", .str access_token), ("token_type", .str "bearer")]

section Handler

variable {jwt : PyJWT} {settings : Settings} (hjwt : Verifies jwt settings)
include hjwt

theorem verify_token_create {sub role type : String} {created now minutes : ℤ} (hcreated : created ≤ now) :
    (∃ payload, verify_token jwt settings now (create_token jwt created (claims ⟨.str sub, .str role⟩ type)
        settings.jwt_secret settings.jwt_algorithm minutes) = .ok payload) ↔ now < expires_at created minutes := by
  constructor
  · rintro ⟨payload, hverify⟩
    exact ((hjwt.decode_iff sub role type created now minutes payload hcreated).mp (decode_token_ok hverify)).2
  · intro hlt
    have hdecode := (hjwt.decode_iff sub role type created now minutes _ hcreated).mpr ⟨rfl, hlt⟩
    exact ⟨_, decode_token_of_decode hdecode⟩

/-- A refresh token that has not expired is exchanged for an access token of its user. -/
theorem refresh_response_ok {sub role : String} {issued handled : ℤ} (hissued : issued ≤ handled)
    (hvalid : handled < expires_at issued settings.jwt_refresh_expiration_minutes) :
    Returns (refresh_response jwt settings handled (create_refresh_token jwt settings issued ⟨.str sub, .str role⟩))
      (create_access_token jwt settings handled ⟨.str sub, .str role⟩) := by
  have hdecode := (hjwt.decode_iff sub role "refresh" issued handled settings.jwt_refresh_expiration_minutes _
    hissued).mpr ⟨rfl, hvalid⟩
  have hverify : verify_token jwt settings handled (create_refresh_token jwt settings issued ⟨.str sub, .str role⟩) =
      .ok (to_encode issued (claims ⟨.str sub, .str role⟩ "refresh") settings.jwt_refresh_expiration_minutes) :=
    decode_token_of_decode hdecode
  have huser : refresh_user jwt settings handled (create_refresh_token jwt settings issued ⟨.str sub, .str role⟩) =
      .ok ⟨.str sub, .str role⟩ := by
    unfold refresh_user
    rw [hverify]
    rfl
  unfold refresh_response refresh
  rw [huser]
  exact ⟨_, rfl, rfl, rfl⟩

end Handler

section Request

variable {env : main.Env} {request : Request} {handled : ℤ} {refresh_token access_token : String}

theorem call_router_refresh (hmethod : request.method = "POST") (hpath : request.path = "/auth/refresh")
    (user : Option Identity) (ran : main.Ran) :
    (main.router (with_body env handled refresh_token) request user).call ran =
      (refresh_response env.jwt env.settings handled refresh_token, ran ++ [(.refresh, user)]) := by
  have hroute : main.route request = some .refresh := by
    unfold main.route
    rw [hmethod, hpath]
    decide
  unfold main.router
  rw [hroute]
  rfl

/-- The limiter adds headers to what the router returns. -/
theorem returns_limited {user : Option Identity} {next : Raising main.Ran PyBaseException Response} {ran : main.Ran}
    (hadmitted : (rate_limiter.verdict env.limiter request user).admitted = true)
    (hnext : Returns (next.call ran).1 access_token) :
    Returns ((rate_limiter.dispatch env.limiter request user next).call ran).1 access_token := by
  rw [rate_limiter.call_dispatch]
  cases hverdict : rate_limiter.verdict env.limiter request user with
  | excluded => exact hnext
  | fail_open => exact hnext
  | counted limit count window =>
    obtain ⟨response, hok, hstatus, hcontent⟩ := hnext
    rcases hcall : next.call ran with ⟨outcome, ran'⟩
    rw [hcall] at hok
    dsimp only at hok
    subst hok
    exact ⟨_, rfl, hstatus, hcontent⟩
  | rejected response =>
    rw [hverdict] at hadmitted
    cases hadmitted
  | failed e =>
    rw [hverdict] at hadmitted
    cases hadmitted

theorem verdict_rejected_status {env : authentication.Env} {response : Response}
    (h : authentication.verdict env request = .rejected response) : response.status_code = 401 := by
  have hcheck : ∀ auth_header, check_header env auth_header = .rejected response → response.status_code = 401 := by
    intro auth_header hcheck
    unfold check_header at hcheck
    split at hcheck
    · split at hcheck <;> cases hcheck
      rfl
    · split at hcheck <;> cases hcheck
      rfl
    · cases hcheck
      rfl
  unfold authentication.verdict at h
  split at h
  · cases h
  · split at h
    · cases h
    · split at h
      · cases h
        rfl
      · split at h
        · cases h
          rfl
        · exact hcheck _ h

/-- The token is returned exactly if the authentication lets the request through. -/
theorem returns_app_iff (hmethod : request.method = "POST") (hpath : request.path = "/auth/refresh")
    (hlimit : WithinLimit env request)
    (hrefresh : Returns (refresh_response env.jwt env.settings handled refresh_token) access_token) :
    Returns ((main.app (with_body env handled refresh_token) request).call []).1 access_token ↔
      ∃ user, Passes env request user := by
  have hthrough : ∀ user, Passes env request user →
      Returns ((rate_limiter.dispatch (with_body env handled refresh_token).limiter request user
        (main.router (with_body env handled refresh_token) request user)).call []).1 access_token := by
    intro user hpasses
    have hrouted : Returns ((main.router (with_body env handled refresh_token) request user).call []).1 access_token := by
      rw [call_router_refresh hmethod hpath]
      exact hrefresh
    exact returns_limited (hlimit user hpasses) hrouted
  have hsame : (with_body env handled refresh_token).toEnv = env.toEnv := rfl
  unfold main.app
  rw [authentication.call_dispatch, hsame]
  cases hverdict : authentication.verdict env.toEnv request with
  | excluded =>
    have hpasses : Passes env request none := .inl ⟨hverdict, rfl⟩
    exact iff_of_true (hthrough none hpasses) ⟨none, hpasses⟩
  | accepted identity =>
    have hpasses : Passes env request (some identity) := .inr ⟨identity, hverdict, rfl⟩
    exact iff_of_true (hthrough _ hpasses) ⟨_, hpasses⟩
  | rejected response =>
    refine iff_of_false ?_ ?_
    · rintro ⟨response', hok, hstatus, -⟩
      cases hok
      rw [verdict_rejected_status hverdict] at hstatus
      cases hstatus
    · rintro ⟨user, ⟨hskipped, -⟩ | ⟨identity, haccepted, -⟩⟩
      · rw [hverdict] at hskipped
        cases hskipped
      · rw [hverdict] at haccepted
        cases haccepted
  | failed e =>
    refine iff_of_false ?_ ?_
    · rintro ⟨response, hok, -⟩
      cases hok
    · rintro ⟨user, ⟨hskipped, -⟩ | ⟨identity, haccepted, -⟩⟩
      · rw [hverdict] at hskipped
        cases hskipped
      · rw [hverdict] at haccepted
        cases haccepted

theorem credential_append (word token : String) (hword : word.toList.length = 7) :
    credential word (word ++ token) = some token := by
  unfold credential
  rw [String.toList_append, if_pos (List.isPrefixOf_iff_prefix.mpr (List.prefix_append _ _)), ← hword,
    List.drop_left, String.ofList_toList]

/-- The authentication lets the request through for its access token, or because it is skipped. -/
theorem passes_iff (hjwt : Verifies env.jwt env.settings) (hpath : request.path = "/auth/refresh") {sub role : String}
    {access : Option ℤ} (hheader : request.authorization = carried env.jwt env.settings ⟨.str sub, .str role⟩ access)
    (hpast : ∀ created ∈ access, created ≤ env.now) :
    (∃ user, Passes env request user) ↔
      main.Smuggles env.valid_netloc request.host ∨
        (∃ path, request.url_path env.valid_netloc = .ok path) ∧
          ∃ created ∈ access, env.now < expires_at created env.settings.jwt_expiration_minutes := by
  have hstart : "/auth/refresh".toList <+: request.path.toList := by
    rw [hpath]
  have hskipped : authentication.verdict env.toEnv request = .excluded ↔
      main.Smuggles env.valid_netloc request.host := main.skipped_iff (by decide) hstart
  have hopen : (∃ path, request.url_path env.valid_netloc = .ok path ∧ authentication.excluded path = false) ↔
      ¬ main.Smuggles env.valid_netloc request.host ∧ ∃ path, request.url_path env.valid_netloc = .ok path := by
    rw [← hskipped, verdict_excluded_iff]
    constructor
    · rintro ⟨path, hok, hnot⟩
      refine ⟨?_, path, hok⟩
      rintro ⟨path', hok', hyes⟩
      rw [hok] at hok'
      cases hok'
      rw [hnot] at hyes
      cases hyes
    · rintro ⟨hnot, path, hok⟩
      refine ⟨path, hok, ?_⟩
      rw [← Bool.not_eq_true]
      exact fun hyes => hnot ⟨path, hok, hyes⟩
  have haccepted : (∃ identity, authentication.verdict env.toEnv request = .accepted identity) ↔
      ¬ main.Smuggles env.valid_netloc request.host ∧ (∃ path, request.url_path env.valid_netloc = .ok path) ∧
        ∃ created ∈ access, env.now < expires_at created env.settings.jwt_expiration_minutes := by
    cases access with
    | none =>
      refine iff_of_false ?_ (by simp)
      rintro ⟨identity, hidentity⟩
      cases accepted_of_verdict hidentity with
      | jwt hbearer => simp [hheader, carried] at hbearer
      | api_key hkey => simp [hheader, carried] at hkey
    | some created =>
      have hcreated : created ≤ env.now := hpast created rfl
      have htoken := credential_append "Bearer " (create_access_token env.jwt env.settings created ⟨.str sub, .str role⟩)
        rfl
      have haccepts : ∀ identity, authentication.verdict env.toEnv request = .accepted identity ↔
          (∃ path, request.url_path env.valid_netloc = .ok path ∧ authentication.excluded path = false) ∧
            validate_jwt env.toEnv (create_access_token env.jwt env.settings created ⟨.str sub, .str role⟩) =
              some identity :=
        fun _ => verdict_accepted_iff_of_bearer hheader htoken
      constructor
      · rintro ⟨identity, hidentity⟩
        obtain ⟨hopened, huser⟩ := (haccepts identity).mp hidentity
        obtain ⟨payload, hdecode, -⟩ := validate_jwt_eq_some_iff.mp huser
        obtain ⟨hnot, hurl⟩ := hopen.mp hopened
        exact ⟨hnot, hurl, created, rfl, (verify_token_create hjwt hcreated).mp ⟨payload, hdecode⟩⟩
      · rintro ⟨hnot, hurl, created', hmem, hlt⟩
        cases hmem
        obtain ⟨payload, hverify⟩ := (verify_token_create hjwt hcreated).mpr hlt
        have huser := validate_jwt_eq_some_iff.mpr ⟨payload, hverify, rfl⟩
        exact ⟨_, (haccepts _).mpr ⟨hopen.mpr ⟨hnot, hurl⟩, huser⟩⟩
  constructor
  · rintro ⟨user, ⟨hexcluded, -⟩ | ⟨identity, hidentity, -⟩⟩
    · exact .inl (hskipped.mp hexcluded)
    · exact .inr (haccepted.mp ⟨identity, hidentity⟩).2
  · rintro (hsmuggles | ⟨hurl, hvalid⟩)
    · exact ⟨none, .inl ⟨hskipped.mpr hsmuggles, rfl⟩⟩
    · by_cases hsmuggles : main.Smuggles env.valid_netloc request.host
      · exact ⟨none, .inl ⟨hskipped.mpr hsmuggles, rfl⟩⟩
      · obtain ⟨identity, hidentity⟩ := haccepted.mpr ⟨hsmuggles, hurl, hvalid⟩
        exact ⟨some identity, .inr ⟨identity, hidentity, rfl⟩⟩

/-- `request.state.user` is the user of the access token, if there is one. -/
theorem passes_user (hjwt : Verifies env.jwt env.settings) {sub role : String} {access : Option ℤ}
    (hheader : request.authorization = carried env.jwt env.settings ⟨.str sub, .str role⟩ access)
    (hpast : ∀ created ∈ access, created ≤ env.now) {user : Option Identity} (h : Passes env request user) :
    user = none ∨ user = some { sub := .str sub, role := .str role, auth_method := "jwt" } := by
  obtain ⟨-, rfl⟩ | ⟨identity, hidentity, rfl⟩ := h
  · exact .inl rfl
  · cases access with
    | none =>
      cases accepted_of_verdict hidentity with
      | jwt hbearer => simp [hheader, carried] at hbearer
      | api_key hkey => simp [hheader, carried] at hkey
    | some created =>
      have htoken := credential_append "Bearer " (create_access_token env.jwt env.settings created ⟨.str sub, .str role⟩)
        rfl
      obtain ⟨-, huser⟩ := (verdict_accepted_iff_of_bearer hheader htoken).mp hidentity
      obtain ⟨payload, hdecode, rfl⟩ := validate_jwt_eq_some_iff.mp huser
      obtain ⟨rfl, -⟩ := (hjwt.decode_iff _ _ _ _ _ _ _ (hpast created rfl)).mp (decode_token_ok hdecode)
      exact .inr rfl

end Request

/-- A refresh token is of use exactly as long as the request has an access token that
has not expired, unless its host hides the path from the authentication. -/
theorem refresh_token_usable_iff {env : main.Env} {request : Request} {sub role : String} {issued handled : ℤ}
    {access : Option ℤ} (hjwt : Verifies env.jwt env.settings) (hmethod : request.method = "POST")
    (hpath : request.path = "/auth/refresh")
    (hheader : request.authorization = carried env.jwt env.settings ⟨.str sub, .str role⟩ access)
    (hpast : ∀ created ∈ access, created ≤ env.now) (hlimit : WithinLimit env request) (hissued : issued ≤ handled)
    (hvalid : handled < expires_at issued env.settings.jwt_refresh_expiration_minutes) :
    Returns ((main.app (with_body env handled (create_refresh_token env.jwt env.settings issued
        ⟨.str sub, .str role⟩)) request).call []).1
        (create_access_token env.jwt env.settings handled ⟨.str sub, .str role⟩) ↔
      main.Smuggles env.valid_netloc request.host ∨
        (∃ path, request.url_path env.valid_netloc = .ok path) ∧
          ∃ created ∈ access, env.now < expires_at created env.settings.jwt_expiration_minutes := by
  rw [returns_app_iff hmethod hpath hlimit (refresh_response_ok hjwt hissued hvalid)]
  exact passes_iff hjwt hpath hheader hpast

/-- The gateway at an instant. Its access tokens live for one minute, its refresh tokens for three. -/
def sample_gateway (now : ℤ) : main.Env where
  toEnv := sample_env now
  limits := { rate_limit_requests := 100, rate_limit_window_seconds := 60 }
  str _ := ""
  time := 1735689600
  later := 1735689600
  incr _ := .ok 1
  expire _ _ := .ok ()
  handlers _ _ := none

/-- The operator refreshes with the access token of a login at the start. -/
def sample_refresh : Request where
  method := "POST"
  scheme := "http".toList
  is_scheme := UrlSplit.isScheme_http
  host := "gateway:8000"
  path := "/auth/refresh"
  authorization := carried sample_jwt sample_settings sample_operator (some 0)
  client := some "10.0.0.7"

theorem sample_past {now : ℤ} (hnow : 0 ≤ now) : ∀ created ∈ some (0 : ℤ), created ≤ (sample_gateway now).now := by
  intro created hcreated
  cases hcreated
  exact hnow

theorem sample_within_limit {now : ℤ} (hnow : 0 ≤ now) : WithinLimit (sample_gateway now) sample_refresh := by
  have hsame : (sample_gateway now).limiter = (sample_gateway 0).limiter := rfl
  intro user hpasses
  rw [hsame]
  obtain rfl | rfl := passes_user (sample_jwt_verifies sample_settings) rfl (sample_past hnow) hpasses
  · decide +kernel
  · decide +kernel

theorem refresh_token_usable_operator :
    Returns ((main.app (with_body (sample_gateway 30000000) 30000000 (create_refresh_token sample_jwt sample_settings 0
        sample_operator)) sample_refresh).call []).1
        (create_access_token sample_jwt sample_settings 30000000 sample_operator) :=
  (refresh_token_usable_iff (sample_jwt_verifies sample_settings) rfl rfl rfl (sample_past (by decide))
    (sample_within_limit (by decide)) (by decide) (by decide)).mpr (.inr ⟨⟨_, rfl⟩, 0, rfl, by decide⟩)

theorem sample_host : ¬ main.Smuggles (sample_gateway 0).valid_netloc sample_refresh.host := by
  have hsplit : UrlSplit.splitnetloc (UrlSplit.clean sample_refresh.host.toList) = ("gateway:8000".toList, []) := by
    decide
  unfold main.Smuggles
  rw [hsplit]
  rintro ⟨-, ⟨page, hpage, hprefix⟩ | ⟨page, -, c, tail, -, hrest⟩⟩
  · have hnil : ∀ page ∈ EXCLUDED_PREFIXES, page.toList ≠ [] := by decide
    exact hnil page hpage (List.prefix_nil.mp hprefix)
  · simp at hrest

/-- A minute after the login the access token of the operator has expired, and the refresh
token is refused. -/
theorem refresh_token_unusable :
    ¬ ∀ (env : main.Env) (request : Request) (sub role : String) (issued handled : ℤ) (access : Option ℤ),
      Verifies env.jwt env.settings → request.method = "POST" → request.path = "/auth/refresh" →
        request.authorization = carried env.jwt env.settings ⟨.str sub, .str role⟩ access →
        (∀ created ∈ access, created ≤ env.now) → WithinLimit env request → issued ≤ handled →
        handled < expires_at issued env.settings.jwt_refresh_expiration_minutes →
          Returns ((main.app (with_body env handled (create_refresh_token env.jwt env.settings issued
            ⟨.str sub, .str role⟩)) request).call []).1
            (create_access_token env.jwt env.settings handled ⟨.str sub, .str role⟩) := by
  intro hclaim
  have hjwt := sample_jwt_verifies sample_settings
  have hlimit : WithinLimit (sample_gateway 60000000) sample_refresh := sample_within_limit (by decide)
  have hpast : ∀ created ∈ some (0 : ℤ), created ≤ (sample_gateway 60000000).now := sample_past (by decide)
  have hreturns := hclaim (sample_gateway 60000000) sample_refresh "operator" "user" 0 60000000 (some 0) hjwt rfl rfl
    rfl hpast hlimit (by decide) (by decide)
  have hpasses : ∃ user, Passes (sample_gateway 60000000) sample_refresh user :=
    (returns_app_iff rfl rfl hlimit (refresh_response_ok hjwt (by decide) (by decide))).mp hreturns
  obtain hsmuggles | ⟨-, created, hmem, hlt⟩ := (passes_iff hjwt rfl rfl hpast).mp hpasses
  · exact sample_host hsmuggles
  · cases hmem
    exact absurd hlt (by decide)

end gateway.auth
