import EdgeGateway.Library.Transition
import EdgeGateway.Middleware.Auth
import EdgeGateway.Middleware.Authentication
import Mathlib.Data.Nat.Digits.Defs
import Mathlib.Tactic.IntervalCases

open gateway.jwt_handler gateway.auth_service gateway.middleware

open TransitionSystem (Transition)

namespace gateway.auth

inductive TokenKind where
  | access
  | refresh
  deriving DecidableEq

def TokenKind.type : TokenKind → String
  | .access => "access"
  | .refresh => "refresh"

/-- The minutes for which a token of the kind is valid. -/
def TokenKind.minutes (settings : Settings) : TokenKind → ℤ
  | .access => settings.jwt_expiration_minutes
  | .refresh => settings.jwt_refresh_expiration_minutes

/-- A token that an endpoint returned, with the user it is for. -/
structure Issue where
  token : String
  kind : TokenKind
  user : User
  issued_at : ℤ

/-- A Bearer token that the middleware took, with the identity derived from it and all
the tokens that had been issued by then. -/
structure Acceptance where
  token : String
  user : Identity
  time : ℤ
  issued : List Issue

/-- The clock in microseconds, and the history of the tokens. -/
structure State where
  now : ℤ
  issued : List Issue
  accepted : List Acceptance

/-- What happens. The middleware checks a request, to whatever endpoint, in a step of its own. -/
inductive Action where
  | tick (elapsed : ℕ)
  | login (username password : String)
  | refresh (refresh_token : String)
  | request (request : Request)

variable (env : ℤ → authentication.Env) (sha256 : String → String) (jwt : PyJWT) (settings : Settings)

/-- The middleware looks at the clock, and at Redis as it then is. -/
def middleware_env (now : ℤ) : authentication.Env :=
  { env now with settings := settings, jwt := jwt, now := now }

/-- The Bearer token of a request. -/
def bearer (request : Request) : Option String :=
  request.authorization.bind (authentication.credential "Bearer ")

/-- A token that nobody was given is not one that verifies. -/
def presentable (s : State) (token : String) : Bool :=
  match verify_token jwt settings s.now token with
  | .ok _ => s.issued.any (·.token = token)
  | .error _ => true

/-- The middleware checks the request. -/
def State.authenticate (s : State) (request : Request) : State :=
  match authentication.verdict (middleware_env env jwt settings s.now) request, bearer request with
  | .accepted user, some token => { s with accepted := ⟨token, user, s.now, s.issued⟩ :: s.accepted }
  | _, _ => s

def State.login (s : State) (username password : String) : State :=
  match authenticate_user sha256 username password, auth.login sha256 jwt settings s.now username password with
  | some user, .ok response =>
    { s with
      issued := ⟨response.access_token, .access, user, s.now⟩ :: ⟨response.refresh_token, .refresh, user, s.now⟩ ::
        s.issued }
  | _, _ => s

def State.refresh (s : State) (refresh_token : String) : State :=
  match refresh_user jwt settings s.now refresh_token, auth.refresh jwt settings s.now refresh_token with
  | .ok user, .ok response => { s with issued := ⟨response.access_token, .access, user, s.now⟩ :: s.issued }
  | _, _ => s

def step (s : State) : Action → Option State
  | .tick elapsed => some { s with now := s.now + elapsed }
  | .login username password => some (s.login sha256 jwt settings username password)
  | .refresh refresh_token =>
    if presentable jwt settings s refresh_token then some (s.refresh jwt settings refresh_token) else none
  | .request request =>
    if (bearer request).all (presentable jwt settings s) then some (s.authenticate env jwt settings request) else none

/-- Logins, refreshes and API requests, while the clock goes on. -/
def tokens : TransitionSystem State Action where
  initial s := s.issued = [] ∧ s.accepted = []
  step := step env sha256 jwt settings

/-- An access token for the subject was issued within the lifetime of access tokens, and
the token that was taken had not been issued as a refresh token. -/
def Acceptance.Covered (a : Acceptance) : Prop :=
  (∃ i ∈ a.issued, i.kind = .access ∧ i.user.sub = a.user.sub ∧
    a.time - settings.jwt_expiration_minutes * 60000000 < i.issued_at ∧ i.issued_at ≤ a.time) ∧
  ∀ i ∈ a.issued, i.kind = .refresh → i.token ≠ a.token

/-- Access outlives its last issue by at most the access lifetime. -/
def AccessBounded (s : State) : Prop := ∀ a ∈ s.accepted, a.Covered settings

/-- The request has a refresh token that has not expired as its Bearer token, and a path
that is not excluded. -/
def PresentsRefreshToken (s : State) (request : Request) : Prop :=
  (∃ path, request.url_path (env s.now).valid_netloc = .ok path ∧ authentication.excluded path = false) ∧
  ∃ i ∈ s.issued, i.kind = .refresh ∧ s.now < expires_at i.issued_at settings.jwt_refresh_expiration_minutes ∧
    bearer request = some i.token

/-- No request presents a refresh token. -/
def NoRefreshToken (s : State) : Action → Prop
  | .request request => ¬ PresentsRefreshToken env settings s request
  | _ => True

/-- What the history says about an issue. -/
structure Issue.Recorded (i : Issue) (now : ℤ) : Prop where
  token : i.token = create_token jwt i.issued_at (claims i.user i.kind.type) settings.jwt_secret
    settings.jwt_algorithm (i.kind.minutes settings)
  issued_at : i.issued_at ≤ now
  user : ∃ sub role, i.user = ⟨.str sub, .str role⟩

def Recorded (s : State) : Prop := ∀ i ∈ s.issued, i.Recorded jwt settings s.now

variable {env sha256 jwt settings}

theorem Issue.Recorded.mono {i : Issue} {now later : ℤ} (h : i.Recorded jwt settings now) (hle : now ≤ later) :
    i.Recorded jwt settings later :=
  { h with issued_at := le_trans h.issued_at hle }

/-- The token of an issue verifies until it expires, and says what it was issued for. -/
theorem Issue.Recorded.verify_iff {i : Issue} {now : ℤ} (hjwt : Verifies jwt settings)
    (h : i.Recorded jwt settings now) {payload : Payload} :
    verify_token jwt settings now i.token = .ok payload ↔
      payload = to_encode i.issued_at (claims i.user i.kind.type) (i.kind.minutes settings) ∧
        now < expires_at i.issued_at (i.kind.minutes settings) := by
  obtain ⟨sub, role, huser⟩ := h.user
  have hdecode := hjwt.decode_iff sub role i.kind.type i.issued_at now (i.kind.minutes settings) payload h.issued_at
  rw [← huser, ← h.token] at hdecode
  exact ⟨fun hverify => hdecode.mp (decode_token_ok hverify), fun hvalid => decode_token_of_decode (hdecode.mpr hvalid)⟩

theorem presentable_ok {s : State} {token : String} {payload : Payload} (h : presentable jwt settings s token = true)
    (hverify : verify_token jwt settings s.now token = .ok payload) : ∃ i ∈ s.issued, i.token = token := by
  unfold presentable at h
  rw [hverify] at h
  obtain ⟨i, hi, htoken⟩ := List.any_eq_true.mp h
  exact ⟨i, hi, of_decide_eq_true htoken⟩

theorem authenticate_user_text {username password : String} {user : User}
    (h : authenticate_user sha256 username password = some user) : ∃ sub role, user = ⟨.str sub, .str role⟩ := by
  unfold authenticate_user at h
  split at h
  · cases h
  · split at h
    · cases h
      exact ⟨_, _, rfl⟩
    · cases h

/-- A refresh returns a token for the user of the refresh token. -/
theorem refresh_user_text {s : State} {refresh_token : String} {user : User} (hjwt : Verifies jwt settings)
    (hrecorded : Recorded jwt settings s) (hpresentable : presentable jwt settings s refresh_token = true)
    (h : refresh_user jwt settings s.now refresh_token = .ok user) : ∃ sub role, user = ⟨.str sub, .str role⟩ := by
  obtain ⟨payload, hverify, -, hsub, hrole⟩ := refresh_user_ok h
  obtain ⟨i, hi, rfl⟩ := presentable_ok hpresentable hverify
  obtain ⟨rfl, -⟩ := ((hrecorded i hi).verify_iff hjwt).mp hverify
  obtain ⟨sub, role, huser⟩ := (hrecorded i hi).user
  rw [to_encode_get?_sub, huser] at hsub
  rw [Dict.getD, to_encode_get?_role, huser] at hrole
  cases user with
  | mk sub' role' =>
    cases hsub
    cases hrole
    exact ⟨sub, role, rfl⟩

/-- An access token or a refresh token for a user whose claims are texts. -/
theorem recorded_access {user : User} {now : ℤ} (huser : ∃ sub role, user = ⟨.str sub, .str role⟩) :
    Issue.Recorded jwt settings ⟨create_access_token jwt settings now user, .access, user, now⟩ now :=
  { token := rfl, issued_at := le_refl _, user := huser }

theorem recorded_refresh {user : User} {now : ℤ} (huser : ∃ sub role, user = ⟨.str sub, .str role⟩) :
    Issue.Recorded jwt settings ⟨create_refresh_token jwt settings now user, .refresh, user, now⟩ now :=
  { token := rfl, issued_at := le_refl _, user := huser }

theorem login_cases (s : State) (username password : String) :
    ∃ issued, s.login sha256 jwt settings username password = { s with issued := issued ++ s.issued } ∧
      ∀ i ∈ issued, i.Recorded jwt settings s.now := by
  unfold State.login
  split
  · rename_i user response huser hresponse
    obtain ⟨user', huser', haccess, hrefresh⟩ := login_ok hresponse
    cases huser.symm.trans huser'
    have htext := authenticate_user_text huser
    rw [haccess, hrefresh]
    exact ⟨[_, _], rfl, List.forall_mem_cons.mpr
      ⟨recorded_access htext, List.forall_mem_singleton.mpr (recorded_refresh htext)⟩⟩
  · exact ⟨[], rfl, by simp⟩

theorem refresh_cases {s : State} {refresh_token : String} (hjwt : Verifies jwt settings)
    (hrecorded : Recorded jwt settings s) (hpresentable : presentable jwt settings s refresh_token = true) :
    ∃ issued, s.refresh jwt settings refresh_token = { s with issued := issued ++ s.issued } ∧
      ∀ i ∈ issued, i.Recorded jwt settings s.now := by
  unfold State.refresh
  split
  · rename_i user response huser hresponse
    obtain ⟨user', huser', haccess⟩ := refresh_ok hresponse
    cases huser.symm.trans huser'
    rw [haccess]
    exact ⟨[_], rfl, List.forall_mem_singleton.mpr
      (recorded_access (refresh_user_text hjwt hrecorded hpresentable huser))⟩
  · exact ⟨[], rfl, by simp⟩

/-- What a step does: the clock goes on, tokens are issued, or the middleware checks a
request. -/
theorem step_cases {s s' : State} {a : Action} (hjwt : Verifies jwt settings) (hrecorded : Recorded jwt settings s)
    (h : step env sha256 jwt settings s a = some s') :
    ((∀ request, a ≠ .request request) ∧ ∃ (elapsed : ℕ) (issued : List Issue),
      s' = { s with now := s.now + elapsed, issued := issued ++ s.issued } ∧
        ∀ i ∈ issued, i.Recorded jwt settings s.now) ∨
    ∃ request, a = .request request ∧ (bearer request).all (presentable jwt settings s) = true ∧
      s' = s.authenticate env jwt settings request := by
  cases a with
  | tick elapsed =>
    cases h
    exact .inl ⟨nofun, elapsed, [], rfl, by simp⟩
  | login username password =>
    cases h
    obtain ⟨issued, heq, hissued⟩ := login_cases s username password
    exact .inl ⟨nofun, 0, issued, by rw [heq, Int.natCast_zero, Int.add_zero], hissued⟩
  | refresh refresh_token =>
    simp only [step, Option.ite_none_right_eq_some, Option.some.injEq] at h
    obtain ⟨hpresentable, rfl⟩ := h
    obtain ⟨issued, heq, hissued⟩ := refresh_cases hjwt hrecorded hpresentable
    exact .inl ⟨nofun, 0, issued, by rw [heq, Int.natCast_zero, Int.add_zero], hissued⟩
  | request request =>
    simp only [step, Option.ite_none_right_eq_some, Option.some.injEq] at h
    obtain ⟨hpresentable, rfl⟩ := h
    exact .inr ⟨request, rfl, hpresentable, rfl⟩

/-- A request leaves everything as it is but for the token that it has accepted. -/
theorem authenticate_cases (env : ℤ → authentication.Env) (s : State) (request : Request) :
    (s.authenticate env jwt settings request = s ∧ ∀ token, bearer request = some token →
      ¬ ((∃ path, request.url_path (env s.now).valid_netloc = .ok path ∧ authentication.excluded path = false) ∧
        ∃ payload, verify_token jwt settings s.now token = .ok payload)) ∨
    ∃ token payload, bearer request = some token ∧ verify_token jwt settings s.now token = .ok payload ∧
      (∃ path, request.url_path (env s.now).valid_netloc = .ok path ∧ authentication.excluded path = false) ∧
      s.authenticate env jwt settings request =
        { s with accepted := ⟨token, authentication.jwt_identity payload, s.now, s.issued⟩ :: s.accepted } := by
  unfold State.authenticate
  cases hbearer : bearer request with
  | none =>
    left
    refine ⟨?_, nofun⟩
    split
    · rename_i heq
      cases heq
    · rfl
  | some token =>
    obtain ⟨auth_header, hheader, htoken⟩ := Option.bind_eq_some_iff.mp hbearer
    have hverdict : ∀ user, authentication.verdict (middleware_env env jwt settings s.now) request = .accepted user ↔
        _ ∧ authentication.validate_jwt (middleware_env env jwt settings s.now) token = some user :=
      fun _ => authentication.verdict_accepted_iff_of_bearer hheader htoken
    cases hcase : authentication.verdict (middleware_env env jwt settings s.now) request with
    | accepted user =>
      obtain ⟨hpath, hvalid⟩ := (hverdict user).mp hcase
      obtain ⟨payload, hdecode, rfl⟩ := authentication.validate_jwt_eq_some_iff.mp hvalid
      exact .inr ⟨token, payload, rfl, hdecode, hpath, rfl⟩
    | _ =>
      left
      refine ⟨rfl, fun token' heq => ?_⟩
      cases heq
      rintro ⟨hpath, payload, hverify⟩
      have hvalid : authentication.validate_jwt (middleware_env env jwt settings s.now) token =
          some (authentication.jwt_identity payload) :=
        authentication.validate_jwt_eq_some_iff.mpr ⟨payload, hverify, rfl⟩
      exact absurd (hcase.symm.trans ((hverdict _).mpr ⟨hpath, hvalid⟩)) nofun

theorem Recorded.reachable {s : State} (hjwt : Verifies jwt settings)
    (h : (tokens env sha256 jwt settings).Reachable s) : Recorded jwt settings s := by
  refine TransitionSystem.ReachableWhere.invariant (P := Recorded jwt settings) ?_ ?_ h
  · rintro s ⟨hissued, -⟩ i hi
    rw [hissued] at hi
    cases hi
  · intro s a s' hrecorded _ hstep
    obtain ⟨-, elapsed, issued, rfl, hissued⟩ | ⟨request, -, -, rfl⟩ := step_cases hjwt hrecorded hstep
    · have hle : s.now ≤ s.now + (elapsed : ℤ) := Int.le_add_of_nonneg_right (Int.natCast_nonneg elapsed)
      intro i hi
      obtain hnew | hold := List.mem_append.mp hi
      · exact (hissued i hnew).mono hle
      · exact (hrecorded i hold).mono hle
    · obtain ⟨heq, -⟩ | ⟨token, payload, -, -, -, heq⟩ := authenticate_cases env s request
      · rw [heq]
        exact hrecorded
      · rw [heq]
        exact hrecorded

/-- A token that verifies is covered exactly if it is no refresh token. -/
theorem covered_iff {s : State} {token : String} {payload : Payload} (hjwt : Verifies jwt settings)
    (hrecorded : Recorded jwt settings s) (hpresentable : presentable jwt settings s token = true)
    (hverify : verify_token jwt settings s.now token = .ok payload) :
    Acceptance.Covered settings ⟨token, authentication.jwt_identity payload, s.now, s.issued⟩ ↔
      ∀ i ∈ s.issued, i.kind = .refresh → i.token ≠ token := by
  refine ⟨fun hcovered => hcovered.2, fun hrefresh => ⟨?_, hrefresh⟩⟩
  obtain ⟨i, hi, htoken⟩ := presentable_ok hpresentable hverify
  have hkind : i.kind = .access := by
    cases hkind : i.kind with
    | access => rfl
    | refresh => exact absurd htoken (hrefresh i hi hkind)
  rw [← htoken] at hverify
  obtain ⟨rfl, hexpires⟩ := ((hrecorded i hi).verify_iff hjwt).mp hverify
  refine ⟨i, hi, hkind, ?_, ?_, (hrecorded i hi).issued_at⟩
  · simp only [authentication.jwt_identity, Dict.getD, to_encode_get?_sub, Option.getD_some]
  · rw [hkind] at hexpires
    have hle := expires_at_le i.issued_at settings.jwt_expiration_minutes
    exact sub_lt_iff_lt_add.mpr (lt_of_lt_of_le hexpires hle)

/-- A step keeps the bound exactly if its request has no refresh token. -/
theorem step_accessBounded_iff {s s' : State} {a : Action} (hjwt : Verifies jwt settings)
    (hrecorded : Recorded jwt settings s) (hbounded : AccessBounded settings s)
    (hstep : step env sha256 jwt settings s a = some s') :
    NoRefreshToken env settings s a ↔ AccessBounded settings s' := by
  obtain ⟨hother, elapsed, issued, rfl, -⟩ | ⟨request, rfl, hpresentable, rfl⟩ := step_cases hjwt hrecorded hstep
  · refine ⟨fun _ => hbounded, fun _ => ?_⟩
    cases a with
    | request request => exact absurd rfl (hother request)
    | _ => trivial
  · obtain ⟨heq, hnone⟩ | ⟨token, payload, hbearer, hverify, hpath, heq⟩ :=
      authenticate_cases env s request
    · rw [heq]
      refine ⟨fun _ => hbounded, fun _ => ?_⟩
      rintro ⟨hpath, i, hi, hkind, hexpires, hbearer⟩
      rw [← TokenKind.minutes, ← hkind] at hexpires
      exact hnone i.token hbearer ⟨hpath, _, ((hrecorded i hi).verify_iff hjwt).mpr ⟨rfl, hexpires⟩⟩
    · rw [hbearer, Option.all_some] at hpresentable
      have hcovered := covered_iff hjwt hrecorded hpresentable hverify
      have hgood : AccessBounded settings (s.authenticate env jwt settings request) ↔
          ∀ i ∈ s.issued, i.kind = .refresh → i.token ≠ token := by
        rw [heq, ← hcovered]
        exact ⟨fun hall => hall _ List.mem_cons_self, fun hnew => List.forall_mem_cons.mpr ⟨hnew, hbounded⟩⟩
      rw [hgood]
      constructor
      · rintro hno i hi hkind rfl
        have hexpires := (((hrecorded i hi).verify_iff hjwt).mp hverify).2
        rw [hkind] at hexpires
        exact hno ⟨hpath, i, hi, hkind, hexpires, hbearer⟩
      · rintro hno ⟨-, i, hi, hkind, -, hbearer'⟩
        exact hno i hi hkind (Option.some.inj (hbearer'.symm.trans hbearer))

/-- Access outlives its last issue by at most the access lifetime throughout a run, and no
refresh token is taken as a credential, exactly if no request of the run has one. -/
theorem access_bounded_iff {trace : List (Transition State Action)} {s : State} (hjwt : Verifies jwt settings)
    (h : (tokens env sha256 jwt settings).Run trace s) :
    (∀ t ∈ trace, NoRefreshToken env settings t.source t.action) ↔ ∀ t ∈ trace, AccessBounded settings t.target := by
  refine TransitionSystem.Run.all_ok_iff_all_good ?_ ?_ h
  · rintro s ⟨-, haccepted⟩ a ha
    rw [haccepted] at ha
    cases ha
  · intro s a s' hreach hbounded hstep
    exact step_accessBounded_iff hjwt (Recorded.reachable hjwt hreach) hbounded hstep

/-- A field of a sample token. -/
def field (text : List Char) : List Char := text.flatMap (['%', ·]) ++ ['.']

/-- Read a field. -/
def unfield : List Char → List Char × List Char
  | '%' :: c :: rest => (c :: (unfield rest).1, (unfield rest).2)
  | _ :: rest => ([], rest)
  | [] => ([], [])

theorem unfield_field (text rest : List Char) : unfield (field text ++ rest) = (text, rest) := by
  induction text with
  | nil => rfl
  | cons c text ih =>
    change (c :: (unfield (field text ++ rest)).1, (unfield (field text ++ rest)).2) = (c :: text, rest)
    rw [ih]

/-- A whole number as a sample token has it: its sign, and its digits from the last one on. -/
def decimal : ℤ → List Char
  | .ofNat n => '+' :: (Nat.digits 10 n).map Nat.digitChar
  | .negSucc n => '-' :: (Nat.digits 10 (n + 1)).map Nat.digitChar

def undecimal : List Char → ℤ
  | '-' :: digits => -(Nat.ofDigits 10 (digits.map (·.toNat - 48)) : ℕ)
  | _ :: digits => (Nat.ofDigits 10 (digits.map (·.toNat - 48)) : ℕ)
  | [] => 0

theorem toNat_digitChar {d : ℕ} (h : d < 10) : d.digitChar.toNat - 48 = d := by
  interval_cases d <;> rfl

theorem ofDigits_digitChars (n : ℕ) :
    Nat.ofDigits 10 (((Nat.digits 10 n).map Nat.digitChar).map (·.toNat - 48)) = n := by
  rw [List.map_map]
  have hmap : (Nat.digits 10 n).map ((·.toNat - 48) ∘ Nat.digitChar) = (Nat.digits 10 n).map id :=
    List.map_congr_left fun d hd => toNat_digitChar (Nat.digits_lt_base (by decide) hd)
  rw [hmap, List.map_id, Nat.ofDigits_digits]

theorem undecimal_decimal (n : ℤ) : undecimal (decimal n) = n := by
  cases n with
  | ofNat n => exact congrArg Nat.cast (ofDigits_digitChars n)
  | negSucc n => exact congrArg (fun k : ℕ => -(k : ℤ)) (ofDigits_digitChars (n + 1))

def text_claim (payload : Payload) (claim : String) : List Char :=
  match payload.get? claim with
  | some (.str text) => text.toList
  | some (.int n) => decimal n
  | _ => []

/-- Tokens that name the key and the claims. -/
def sample_jwt : PyJWT where
  encode payload secret algorithm :=
    String.ofList (field secret.toList ++ (field algorithm.toList ++ (field (text_claim payload "sub") ++
      (field (text_claim payload "role") ++ (field (text_claim payload "type") ++
        (field (text_claim payload "iat") ++ (field (text_claim payload "exp") ++ [])))))))
  decode now token secret algorithm :=
    let (key, rest) := unfield token.toList
    let (alg, rest) := unfield rest
    let (sub, rest) := unfield rest
    let (role, rest) := unfield rest
    let (type, rest) := unfield rest
    let (iat, rest) := unfield rest
    let (exp, _) := unfield rest
    if key = secret.toList ∧ alg = algorithm.toList then
      if now < undecimal exp * 1000000 then
        .ok (((claims ⟨.str (String.ofList sub), .str (String.ofList role)⟩ (String.ofList type)).set "iat"
          (.int (undecimal iat))).set "exp" (.int (undecimal exp)))
      else .error .ExpiredSignatureError
    else .error (.InvalidTokenError "Signature verification failed")

theorem sample_jwt_verifies (settings : Settings) : Verifies sample_jwt settings where
  decode_iff sub role type created now minutes payload _ := by
    have hsub : text_claim (to_encode created (claims ⟨.str sub, .str role⟩ type) minutes) "sub" = sub.toList := rfl
    have hrole : text_claim (to_encode created (claims ⟨.str sub, .str role⟩ type) minutes) "role" = role.toList := rfl
    have htype : text_claim (to_encode created (claims ⟨.str sub, .str role⟩ type) minutes) "type" = type.toList := rfl
    have hiat : text_claim (to_encode created (claims ⟨.str sub, .str role⟩ type) minutes) "iat" =
        decimal (created / 1000000) := rfl
    have hexp : text_claim (to_encode created (claims ⟨.str sub, .str role⟩ type) minutes) "exp" =
        decimal ((created + minutes * 60000000) / 1000000) := rfl
    simp only [create_token, sample_jwt, String.toList_ofList, unfield_field, hsub, hrole, htype, hiat, hexp,
      undecimal_decimal, String.ofList_toList, and_self, if_true]
    change (if now < expires_at created minutes then
      Except.ok (to_encode created (claims ⟨.str sub, .str role⟩ type) minutes) else _) = _ ↔ _
    by_cases hlt : now < expires_at created minutes
    · rw [if_pos hlt, Except.ok.injEq, and_iff_left hlt, eq_comm]
    · rw [if_neg hlt]
      exact ⟨nofun, fun h => absurd h.2 hlt⟩

/-- A gateway with short lifetimes, and without API keys. -/
def sample_settings : Settings where
  jwt_secret := "secret"
  jwt_algorithm := "HS256"
  jwt_expiration_minutes := 1
  jwt_refresh_expiration_minutes := 3

def sample_env (now : ℤ) : authentication.Env where
  settings := sample_settings
  jwt := sample_jwt
  now := now
  valid_netloc _ := true
  redis_get _ := .ok none
  loads _ := .error .ValueError

/-- A request for the devices with a Bearer token. -/
def sample_request (token : String) : Request where
  method := "GET"
  scheme := "http".toList
  is_scheme := UrlSplit.isScheme_http
  host := "gateway:8000"
  path := "/api/v1/devices/"
  authorization := some ("Bearer " ++ token)
  client := some "10.0.0.7"

def sample_operator : User := { sub := .str "operator", role := .str "user" }

def no_issue : State := { now := 0, issued := [], accepted := [] }

/-- The operator logs in and asks for the devices with the access token. -/
def sample_run : List Action :=
  [.login "operator" "operator", .tick 1000000,
    .request (sample_request (create_access_token sample_jwt sample_settings 0 sample_operator))]

/-- The operator does so with the refresh token, after the access token has expired. -/
def outliving_run : List Action :=
  [.login "operator" "operator", .tick 60000000,
    .request (sample_request (create_refresh_token sample_jwt sample_settings 0 sample_operator))]

def sample_step (s : State) (a : Action) : Bool :=
  match a with
  | .request request => s.issued.all fun i => i.kind = .access || bearer request ≠ some i.token
  | _ => true

theorem sample_step_ok {s : State} {a : Action} (h : sample_step s a = true) :
    NoRefreshToken sample_env sample_settings s a := by
  cases a with
  | request request =>
    rintro ⟨-, i, hi, hkind, -, hbearer⟩
    have hall := List.all_eq_true.mp h i hi
    rw [hkind] at hall
    simp only [decide_eq_true_eq, Bool.or_eq_true, reduceCtorEq, false_or] at hall
    exact hall hbearer
  | _ => trivial

theorem no_issue_initial : (tokens sample_env id sample_jwt sample_settings).initial no_issue := ⟨rfl, rfl⟩

theorem access_bounded_iff_operator :
    ∃ (trace : List (Transition State Action)) (s : State),
      (tokens sample_env id sample_jwt sample_settings).Run trace s ∧ s.accepted.isEmpty = false ∧
        ∀ t ∈ trace, AccessBounded sample_settings t.target := by
  have haccepts : ((tokens sample_env id sample_jwt sample_settings).replay sample_step no_issue sample_run).any
      (!·.accepted.isEmpty) = true := by decide +kernel
  obtain ⟨trace, s, hrun, hall, haccepted⟩ :=
    TransitionSystem.exists_run_of_replay sample_step no_issue_initial sample_run _ haccepts
  exact ⟨trace, s, hrun, by simpa using haccepted,
    (access_bounded_iff (sample_jwt_verifies sample_settings) hrun).mp fun t ht => sample_step_ok (hall t ht)⟩

/-- No access token was issued within the lifetime of access tokens. -/
def Acceptance.outlives (a : Acceptance) : Bool :=
  a.issued.all fun i => i.kind ≠ .access || i.issued_at ≤ a.time - sample_settings.jwt_expiration_minutes * 60000000

/-- A refresh token is a credential for days after the last access token has expired. -/
theorem refresh_token_accepted :
    ¬ ∀ (env : ℤ → authentication.Env) (sha256 : String → String) (jwt : PyJWT) (settings : Settings) (s : State),
      Verifies jwt settings → (tokens env sha256 jwt settings).Reachable s → AccessBounded settings s := by
  intro hclaim
  have haccepts : ((tokens sample_env id sample_jwt sample_settings).replay (fun _ _ => true) no_issue outliving_run).any
      (·.accepted.any Acceptance.outlives) = true := by decide +kernel
  obtain ⟨s, hreach, houtlives⟩ := TransitionSystem.exists_of_replay (fun _ _ => True) (fun _ _ => true)
    (fun _ _ _ => trivial) no_issue_initial outliving_run _ haccepts
  obtain ⟨a, ha, hall⟩ := List.any_eq_true.mp houtlives
  obtain ⟨⟨i, hi, hkind, -, hlt, -⟩, -⟩ :=
    hclaim sample_env id sample_jwt sample_settings s (sample_jwt_verifies sample_settings) hreach a ha
  have hle := List.all_eq_true.mp hall i hi
  rw [hkind] at hle
  simp only [ne_eq, not_true_eq_false, decide_false, Bool.false_or, decide_eq_true_eq] at hle
  exact absurd hlt (not_lt.mpr hle)

end gateway.auth
