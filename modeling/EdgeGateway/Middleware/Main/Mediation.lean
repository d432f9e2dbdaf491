import EdgeGateway.Middleware.Main

open gateway.middleware gateway.authentication

namespace gateway.main

/-- The endpoints behind the gateway's authentication: the proxy, `/auth/refresh` and the
API keys. -/
def Endpoint.guarded : Endpoint → Bool
  | .refresh | .create_api_key | .revoke_api_key => true
  | .proxy_devices | .proxy_telemetry | .proxy_inference | .proxy_scheduler => true
  | _ => false

/-- A guarded handler only ever runs with the identity of an accepted credential. -/
def Mediated (env : Env) (request : Request) : Prop :=
  ∀ endpoint user, (endpoint, user) ∈ ran env request → endpoint.guarded = true →
    ∃ identity, user = some identity ∧ Accepted env.toEnv request identity

/-- The host, without its tabs and line breaks, has a slash that ends the authority, and
what follows from there on starts with an excluded prefix, or is an excluded path in
front of a `?` or `#`. -/
def Smuggles (valid_netloc : List Char → Bool) (host : String) : Prop :=
  let (netloc, rest) := UrlSplit.splitnetloc (UrlSplit.clean host.toList)
  valid_netloc netloc = true ∧
    ((∃ page ∈ EXCLUDED_PREFIXES, page.toList <+: rest) ∨
      ∃ page ∈ EXCLUDED_PATHS, ∃ c tail, UrlSplit.path_end c = true ∧ rest = page.toList ++ c :: tail)

section Paths

/-- What the paths of the guarded endpoints start with. -/
def GUARDED_STARTS : List String := ["/api/v1/", "/auth/refresh", "/auth/api-keys"]

theorem start_of_mem_routes :
    ∀ r ∈ routes, r.endpoint.guarded = true →
      ∃ start ∈ GUARDED_STARTS, start.toList.isPrefixOf r.pattern.start.toList = true := by
  decide

/-- A request for a guarded endpoint has one of these paths. -/
theorem start_of_route {request : Request} {endpoint : Endpoint} (h : route request = some endpoint)
    (hguarded : endpoint.guarded = true) : ∃ start ∈ GUARDED_STARTS, start.toList <+: request.path.toList := by
  obtain ⟨r, hfind, rfl⟩ := Option.map_eq_some_iff.mp h
  obtain ⟨start, hmem, hstart⟩ := start_of_mem_routes r (List.mem_of_find?_eq_some hfind) hguarded
  have hmatches := List.find?_some hfind
  simp only [Pattern.matches, Bool.and_eq_true, List.isPrefixOf_iff_prefix] at hmatches hstart
  exact ⟨start, hmem, hstart.trans hmatches.2.1⟩

theorem guarded_chars :
    ∀ start ∈ GUARDED_STARTS,
      (start.toList.all fun c => !UrlSplit.unsafe_to_remove c && !UrlSplit.path_end c) = true := by
  decide

/-- Such a start has no character that `urlsplit` removes or that ends a path, and it
occurs in no excluded path. -/
theorem guarded_starts :
    ∀ start ∈ GUARDED_STARTS,
      ['/', 'a'].isPrefixOf start.toList = true ∧
        (∀ c ∈ start.toList, UrlSplit.unsafe_to_remove c = false ∧ UrlSplit.path_end c = false) ∧
        ∀ page ∈ EXCLUDED_PATHS, ¬ start.toList <:+: page.toList := by
  intro start hmem
  have hchars := guarded_chars start hmem
  simp only [List.all_eq_true, Bool.and_eq_true, Bool.not_eq_true'] at hchars
  have hother : ∀ start ∈ GUARDED_STARTS, ['/', 'a'].isPrefixOf start.toList = true ∧
      ∀ page ∈ EXCLUDED_PATHS, ¬ start.toList <:+: page.toList := by decide
  exact ⟨(hother start hmem).1, hchars, (hother start hmem).2⟩

theorem excluded_paths : ∀ page ∈ EXCLUDED_PATHS, ∀ c ∈ page.toList, UrlSplit.path_end c = false := by
  have hall : ∀ page ∈ EXCLUDED_PATHS, (page.toList.all fun c => !UrlSplit.path_end c) = true := by decide
  exact fun page hmem => UrlSplit.eq_false_of_all (hall page hmem)

theorem excluded_prefixes :
    ∀ page ∈ EXCLUDED_PREFIXES, (∀ c ∈ page.toList, UrlSplit.path_end c = false) ∧
      page.toList.getLast? ≠ some '/' ∧ ¬ ['/', 'a'] <:+: page.toList := by
  have hall : ∀ page ∈ EXCLUDED_PREFIXES, (page.toList.all fun c => !UrlSplit.path_end c) = true ∧
      page.toList.getLast? ≠ some '/' ∧ ¬ ['/', 'a'] <:+: page.toList := by decide
  intro page hmem
  obtain ⟨hchars, hlast, hsublist⟩ := hall page hmem
  exact ⟨UrlSplit.eq_false_of_all hchars, hlast, hsublist⟩

/-- A prefix that does not reach over to the `/a` behind the list is one of the list. -/
theorem prefix_append_iff {page l rest : List Char} (hlast : page.getLast? ≠ some '/')
    (hsublist : ¬ ['/', 'a'] <:+: page) : page <+: l ++ '/' :: 'a' :: rest ↔ page <+: l := by
  constructor
  · intro h
    obtain hle | ⟨more, hmore⟩ := List.prefix_or_prefix_of_prefix h (List.prefix_append l _)
    · exact hle
    · -- The page is `l` and a part of what follows it.
      subst hmore
      obtain ⟨tail, htail⟩ := h
      rw [List.append_assoc] at htail
      have hsplit := List.append_cancel_left htail
      cases more with
      | nil => simp
      | cons c more =>
        obtain ⟨rfl, hrest⟩ := List.cons.inj hsplit
        cases more with
        | nil => simp at hlast
        | cons c' more =>
          obtain ⟨rfl, _⟩ := List.cons.inj hrest
          exact absurd ⟨l, more, by simp⟩ hsublist
  · exact fun h => h.trans (List.prefix_append l _)

theorem prefix_takeWhile_iff {p : Char → Bool} {page l : List Char} (hpage : ∀ c ∈ page, p c = true) :
    page <+: l.takeWhile p ↔ page <+: l := by
  constructor
  · exact fun h => h.trans (List.takeWhile_prefix p)
  · rintro ⟨tail, rfl⟩
    rw [List.takeWhile_append_of_pos hpage]
    exact List.prefix_append page _

/-- A path that ends within the list, or that does not have what is behind it. -/
theorem takeWhile_append_eq_iff {p : Char → Bool} {page l start rest : List Char} (hpage : ∀ c ∈ page, p c = true)
    (hstart : ∀ c ∈ start, p c = true) (hsublist : ¬ start <:+: page) :
    (l ++ (start ++ rest)).takeWhile p = page ↔ ∃ c tail, p c = false ∧ l = page ++ c :: tail := by
  constructor
  · intro h
    by_cases hall : ∀ c ∈ l, p c = true
    · rw [List.takeWhile_append_of_pos hall, List.takeWhile_append_of_pos hstart] at h
      exact absurd ⟨l, rest.takeWhile p, by rw [← h, List.append_assoc]⟩ hsublist
    · obtain ⟨c, tail, hdrop, hc⟩ : ∃ c tail, l.dropWhile p = c :: tail ∧ p c = false := by
        cases hdrop : l.dropWhile p with
        | nil => exact absurd (List.dropWhile_eq_nil_iff.mp hdrop) hall
        | cons c tail =>
          have hhead := List.head_dropWhile_not p (by simp [hdrop] : l.dropWhile p ≠ [])
          simp only [hdrop, List.head_cons] at hhead
          exact ⟨c, tail, rfl, hhead⟩
      have hl : l = l.takeWhile p ++ c :: tail := by rw [← hdrop, List.takeWhile_append_dropWhile]
      rw [hl, List.append_assoc, List.takeWhile_append_of_pos (fun _ => List.mem_takeWhile_imp), List.cons_append,
        List.takeWhile_cons_of_neg (by simp [hc]), List.append_nil] at h
      exact ⟨c, tail, hc, h ▸ hl⟩
  · rintro ⟨c, tail, hc, rfl⟩
    rw [List.append_assoc, List.takeWhile_append_of_pos hpage, List.cons_append,
      List.takeWhile_cons_of_neg (by simp [hc]), List.append_nil]

/-- For a guarded endpoint the authentication is skipped exactly if the host smuggles. -/
theorem skipped_iff {env : authentication.Env} {request : Request} {start : String} (hmem : start ∈ GUARDED_STARTS)
    (hstart : start.toList <+: request.path.toList) :
    authentication.verdict env request = .excluded ↔ Smuggles env.valid_netloc request.host := by
  obtain ⟨hslash, hchars, hsublist⟩ := guarded_starts start hmem
  obtain ⟨tail, htail⟩ := hstart
  -- What `urlsplit` keeps of the path still begins like it.
  have hclean : UrlSplit.clean request.path.toList = start.toList ++ UrlSplit.clean tail := by
    rw [← htail, UrlSplit.clean_append, UrlSplit.clean_of_forall fun c hc => (hchars c hc).1]
  obtain ⟨more, hmore⟩ := List.isPrefixOf_iff_prefix.mp hslash
  have hcons : UrlSplit.clean request.path.toList = '/' :: 'a' :: (more ++ UrlSplit.clean tail) := by
    rw [hclean, ← hmore]
    rfl
  have hends : ∀ c ∈ start.toList, (!UrlSplit.path_end c) = true := fun c hc => by rw [(hchars c hc).2]; rfl
  rw [authentication.verdict_excluded_iff, Request.url_path_eq hcons]
  unfold Smuggles
  obtain ⟨netloc, rest⟩ := UrlSplit.splitnetloc (UrlSplit.clean request.host.toList)
  dsimp only
  by_cases hvalid : env.valid_netloc netloc = true
  · simp only [hvalid, if_true, Except.ok.injEq, exists_eq_left', true_and, authentication.excluded, Bool.or_eq_true,
      List.any_eq_true, decide_eq_true_eq, List.isPrefixOf_iff_prefix]
    rw [Or.comm]
    refine or_congr (exists_congr fun page => and_congr_right fun hpage => ?_)
      (exists_congr fun page => and_congr_right fun hpage => ?_)
    · obtain ⟨hends, hlast, hsublist⟩ := excluded_prefixes page hpage
      rw [prefix_takeWhile_iff fun c hc => by rw [hends c hc]; rfl]
      exact prefix_append_iff hlast hsublist
    · have hpage_ends : ∀ c ∈ page.toList, (!UrlSplit.path_end c) = true := by
        intro c hc
        rw [excluded_paths page hpage c hc]
        rfl
      rw [← hcons, hclean, eq_comm, takeWhile_append_eq_iff hpage_ends hends (hsublist page hpage)]
      simp
  · simp [hvalid]

end Paths

section Run

variable {env : Env} {request : Request} {endpoint : Endpoint} {user user' : Option Identity}

theorem call_router (ran : Ran) :
    ((router env request user).call ran).2 =
      ran ++ ((serves env request user).map fun endpoint => (endpoint, user)).toList := by
  unfold router serves
  cases route request with
  | none => simp
  | some endpoint =>
    dsimp only
    cases hadmin : endpoint.admin_only && !require_admin user with
    | true => simp_all [Option.filter]
    | false =>
      have hpass : (!endpoint.admin_only || require_admin user) = true := by
        cases hadmin_only : endpoint.admin_only with
        | false => rfl
        | true =>
          rw [hadmin_only] at hadmin
          simpa using hadmin
      cases hhandlers : env.handlers endpoint user with
      | none => simp [Option.filter, hhandlers]
      | some outcome =>
        simp only [Bool.false_eq_true, if_false, Raising.call_bind, Raising.call_modify]
        simp [Option.filter, hhandlers, hpass]

/-- The limiter lets the router run at least once, or not at all. -/
theorem mem_limited_iff :
    (endpoint, user') ∈ ((rate_limiter.dispatch env.limiter request user (router env request user)).call []).2 ↔
      (rate_limiter.verdict env.limiter request user).admitted = true ∧
        serves env request user = some endpoint ∧ user' = user := by
  have hserved : ∀ ran : Ran, (endpoint, user') ∈ ((router env request user).call ran).2 ↔
      (endpoint, user') ∈ ran ∨ serves env request user = some endpoint ∧ user' = user := by
    intro ran
    rw [call_router]
    cases serves env request user with
    | none => simp
    | some served =>
      simp [eq_comm]
  rw [rate_limiter.call_dispatch]
  cases rate_limiter.verdict env.limiter request user with
  | excluded => simp [hserved, rate_limiter.Verdict.admitted]
  | fail_open => simp [hserved, rate_limiter.Verdict.admitted]
  | counted limit count window =>
    have hfirst := hserved []
    rcases hcall : (router env request user).call [] with ⟨_ | response, ran⟩
    · rename_i e
      rw [hcall] at hfirst
      cases e with
      | exception e =>
        have hsecond := hserved ran
        simp only [hsecond, hfirst]
        simp [rate_limiter.Verdict.admitted]
      | cancelled =>
        simp only [hfirst]
        simp [rate_limiter.Verdict.admitted]
    · rw [hcall] at hfirst
      simp only [hfirst]
      simp [rate_limiter.Verdict.admitted]
  | rejected response => simp [rate_limiter.Verdict.admitted]
  | failed e => simp [rate_limiter.Verdict.admitted]

/-- Which handlers run: what the authentication passes on, the limiter admits and the
router serves. -/
theorem mem_ran_iff :
    (endpoint, user) ∈ ran env request ↔
      ((authentication.verdict env.toEnv request = .excluded ∧ user = none) ∨
          ∃ identity, authentication.verdict env.toEnv request = .accepted identity ∧ user = some identity) ∧
        (rate_limiter.verdict env.limiter request user).admitted = true ∧ serves env request user = some endpoint := by
  unfold ran app
  rw [authentication.call_dispatch]
  cases authentication.verdict env.toEnv request with
  | excluded =>
    dsimp only
    rw [mem_limited_iff]
    constructor
    · rintro ⟨hadmitted, hserves, rfl⟩
      exact ⟨.inl ⟨rfl, rfl⟩, hadmitted, hserves⟩
    · rintro ⟨⟨_, rfl⟩ | ⟨_, ⟨⟩, _⟩, hadmitted, hserves⟩
      exact ⟨hadmitted, hserves, rfl⟩
  | accepted identity =>
    dsimp only
    rw [mem_limited_iff]
    constructor
    · rintro ⟨hadmitted, hserves, rfl⟩
      exact ⟨.inr ⟨identity, rfl, rfl⟩, hadmitted, hserves⟩
    · rintro ⟨⟨⟨⟩, _⟩ | ⟨_, ⟨⟩, rfl⟩, hadmitted, hserves⟩
      exact ⟨hadmitted, hserves, rfl⟩
  | rejected response => simp
  | failed e => simp

theorem route_of_serves (h : serves env request user = some endpoint) : route request = some endpoint :=
  (Option.filter_eq_some_iff.mp h).1

theorem not_mediated (hsmuggles : Smuggles env.valid_netloc request.host)
    (hadmitted : (rate_limiter.verdict env.limiter request none).admitted = true)
    (hserves : serves env request none = some endpoint) (hguarded : endpoint.guarded = true) :
    ¬ Mediated env request := by
  intro hmediated
  obtain ⟨start, hmem, hstart⟩ := start_of_route (route_of_serves hserves) hguarded
  have hskipped : authentication.verdict env.toEnv request = .excluded := (skipped_iff hmem hstart).mpr hsmuggles
  obtain ⟨_, hnone, _⟩ :=
    hmediated endpoint none (mem_ran_iff.mpr ⟨.inl ⟨hskipped, rfl⟩, hadmitted, hserves⟩) hguarded
  cases hnone

/-- The gateway mediates a request unless its host smuggles an excluded path, the limiter
admits it without an identity, and it reaches a guarded handler without one. -/
theorem mediated_iff :
    Mediated env request ↔
      ¬ (Smuggles env.valid_netloc request.host ∧
        (rate_limiter.verdict env.limiter request none).admitted = true ∧
        ∃ endpoint, serves env request none = some endpoint ∧ endpoint.guarded = true) := by
  constructor
  · rintro hmediated ⟨hsmuggles, hadmitted, endpoint, hserves, hguarded⟩
    exact not_mediated hsmuggles hadmitted hserves hguarded hmediated
  · intro hnot endpoint user hran hguarded
    obtain ⟨⟨hskipped, rfl⟩ | ⟨identity, haccepted, rfl⟩, hadmitted, hserves⟩ := mem_ran_iff.mp hran
    · obtain ⟨start, hmem, hstart⟩ := start_of_route (route_of_serves hserves) hguarded
      exact absurd ⟨(skipped_iff hmem hstart).mp hskipped, hadmitted, endpoint, hserves, hguarded⟩ hnot
    · exact ⟨identity, rfl, authentication.accepted_of_verdict haccepted⟩

end Run

/-- An application in which every handler answers, Redis counts one request and no token
or API key is known. -/
def sample_env : Env where
  settings :=
    { jwt_secret := "secret"
      jwt_algorithm := "HS256"
      jwt_expiration_minutes := 60
      jwt_refresh_expiration_minutes := 10080 }
  jwt := { encode := fun _ _ _ => "", decode := fun _ _ _ _ => .error (.InvalidTokenError "Not enough segments") }
  now := 1735689600000000
  valid_netloc _ := true
  redis_get _ := .ok none
  loads _ := .error .ValueError
  limits := { rate_limit_requests := 100, rate_limit_window_seconds := 60 }
  str _ := ""
  time := 1735689600
  later := 1735689600
  incr _ := .ok 1
  expire _ _ := .ok ()
  handlers _ _ := some (.ok { status_code := 200, content := .null })

/-- A request without credentials, for a host with a path of its own. -/
def smuggling_request : Request where
  method := "DELETE"
  scheme := "http".toList
  is_scheme := UrlSplit.isScheme_http
  host := "gateway/health?"
  path := "/api/v1/devices/7"
  authorization := none
  client := some "10.0.0.7"

/-- The proxy serves it, although no credential was ever checked. -/
theorem host_bypasses_authentication : ¬ ∀ (env : Env) (request : Request), Mediated env request := by
  intro hclaim
  have hserves : serves sample_env smuggling_request none = some .proxy_devices := by decide
  refine not_mediated ?_ ?_ hserves rfl (hclaim sample_env smuggling_request)
  · refine ⟨rfl, .inl ⟨"/health", by decide, ?_⟩⟩
    exact ⟨['?'], by decide⟩
  · decide +kernel

end gateway.main
