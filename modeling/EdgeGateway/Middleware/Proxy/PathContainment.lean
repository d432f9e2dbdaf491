import EdgeGateway.Middleware.Proxy

open gateway.middleware

namespace gateway.proxy

/-- The components of `/api/v1/{segment}/`. -/
def Route.components (route : Route) : List (List Char) := ["api".toList, "v1".toList, route.segment]

/-- The request that is sent upstream stays under the route, and keeps its query string. -/
def StaysWithin (env : Env) (settings : Settings) (route : Route) (request : ProxyRequest) (path : List Char) : Prop :=
  ∀ upstream url, upstream_request env request (ROUTE_MAP settings route).base (route.segment ++ '/' :: path) = .ok upstream →
    sent_url env upstream = some url →
      "/api/v1/".toList ++ route.segment ++ ['/'] <+: url.path ∧ url.query = request.query_string

/-- The dot segments of what is in front of the first `?` or `#` of the remainder lead back into
the route, and do not end in its root. -/
def PathKept (route : Route) (path : List Char) : Prop :=
  let resolved := HttpxUrl.resolve ((path.takeWhile (!UrlSplit.path_end ·)).splitOn '/')
  ∃ tail, tail ≠ [] ∧ resolved.2 = route.components.drop (3 - resolved.1) ++ tail

/-- The `Host` header does not reach into the path or the query. -/
def ProxyRequest.plain_host (request : ProxyRequest) : Bool := request.host.toList.all fun c => !UrlSplit.path_end c

/-- A query behind its question mark. -/
def mark (query : List Char) : List Char := if query = [] then [] else '?' :: query

/-- What the `?` or `#` of the remainder leaves of the query string `query` that Starlette reads. -/
def QueryKept (request : ProxyRequest) (path query : List Char) : Prop :=
  match path.dropWhile (!UrlSplit.path_end ·) with
  | [] =>
    if request.plain_host then ∀ c ∈ request.query_string, c ≠ '#' ∧ UrlSplit.unsafe_to_remove c = false
    else query = request.query_string
  | '?' :: rest =>
    if '#' ∈ rest then rest.takeWhile (· ≠ '#') = request.query_string
    else if request.plain_host then rest = [] ∧ request.query_string = []
    else rest ++ mark query = request.query_string
  | _ => request.query_string = []

section Path

variable {route : Route} {path : List Char}

theorem directory_components (route : Route) :
    HttpxUrl.directory route.components = "/api/v1/".toList ++ route.segment ++ ['/'] := by
  cases route <;> decide +kernel

theorem components_plain (route : Route) :
    ∀ l ∈ route.components, '/' ∉ l ∧ (l ≠ ['.'] ∧ l ≠ ['.', '.']) := by
  cases route <;> decide +kernel

theorem directory_no_path_end (route : Route) :
    ∀ c ∈ HttpxUrl.directory route.components, (!UrlSplit.path_end c) = true := by
  cases route <;> exact List.all_eq_true.mp (by decide +kernel)

theorem pathKept_iff :
    HttpxUrl.directory route.components <+:
        HttpxUrl.normalize_path (HttpxUrl.directory route.components ++ path.takeWhile (!UrlSplit.path_end ·)) ↔
      PathKept route path :=
  HttpxUrl.directory_prefix_normalize_path_iff (fun l hl => (components_plain route l hl).1)
    fun l hl => (components_plain route l hl).2

theorem takeWhile_append_mark (query : List Char) :
    (path ++ mark query).takeWhile (!UrlSplit.path_end ·) = path.takeWhile (!UrlSplit.path_end ·) := by
  have hmark : (mark query).takeWhile (!UrlSplit.path_end ·) = [] := by
    unfold mark
    split <;> rfl
  rw [List.takeWhile_append, hmark]
  split
  · rename_i hall
    rw [List.append_nil]
    exact (List.IsPrefix.eq_of_length (List.takeWhile_prefix _) hall).symm
  · rfl

theorem dropWhile_append_mark (query : List Char) :
    (path ++ mark query).dropWhile (!UrlSplit.path_end ·) = path.dropWhile (!UrlSplit.path_end ·) ++ mark query := by
  have hmark : (mark query).dropWhile (!UrlSplit.path_end ·) = mark query := by
    unfold mark
    split <;> rfl
  rw [List.dropWhile_append, hmark]
  split
  · rename_i hempty
    rw [List.isEmpty_iff.mp hempty, List.nil_append]
  · rfl

/-- What is sent upstream, if anything is. -/
theorem urlparse_target_url (upstream : Upstream) (query : List Char) :
    HttpxUrl.urlparse (target_url upstream.base (route.segment ++ '/' :: path) query) =
      { scheme := upstream.scheme.map Char.toLower
        authority := upstream.authority
        path := HttpxUrl.normalize_path (HttpxUrl.directory route.components ++ path.takeWhile (!UrlSplit.path_end ·))
        query := HttpxUrl.query_of (path.dropWhile (!UrlSplit.path_end ·) ++ mark query) } := by
  have htarget : target_url upstream.base (route.segment ++ '/' :: path) query =
      upstream.base ++ (HttpxUrl.directory route.components ++ (path ++ mark query)) := by
    rw [directory_components, target_url, mark]
    split <;> simp
  have hbase : upstream.base ++ (HttpxUrl.directory route.components ++ (path ++ mark query)) =
      upstream.scheme ++ ':' :: '/' :: '/' ::
        (upstream.authority ++ '/' :: (route.components.flatMap (· ++ ['/']) ++ (path ++ mark query))) := by
    simp [Upstream.base, HttpxUrl.directory]
  have hslash : '/' :: (route.components.flatMap (· ++ ['/']) ++ (path ++ mark query)) =
      HttpxUrl.directory route.components ++ (path ++ mark query) := rfl
  rw [htarget, hbase, HttpxUrl.urlparse_eq upstream.is_scheme upstream.is_authority, hslash,
    List.takeWhile_append_of_pos (directory_no_path_end route), List.dropWhile_append_of_pos (directory_no_path_end route),
    takeWhile_append_mark, dropWhile_append_mark]

end Path

section Query

variable {env : Env} {route : Route} {request : ProxyRequest} {path query : List Char}

/-- What the query is that arrives upstream. -/
theorem query_of_mark (hquery : '#' ∉ query) : HttpxUrl.query_of (mark query) = query := by
  unfold mark
  split
  · rename_i hempty
    rw [hempty]
    rfl
  · exact List.takeWhile_eq_self_iff.mpr fun c hc => decide_eq_true fun heq => hquery (heq ▸ hc)

/-- The query that arrives upstream, by what the remainder has of `?` and `#`. -/
def arriving_query (path query : List Char) : List Char :=
  match path.dropWhile (!UrlSplit.path_end ·) with
  | [] => query
  | '?' :: rest => if '#' ∈ rest then rest.takeWhile (· ≠ '#') else rest ++ mark query
  | _ => []

theorem takeWhile_append_of_mem {rest : List Char} (hmem : '#' ∈ rest) (more : List Char) :
    (rest ++ more).takeWhile (· ≠ '#') = rest.takeWhile (· ≠ '#') := by
  rw [List.takeWhile_append, if_neg]
  intro hall
  have heq := List.IsPrefix.eq_of_length (List.takeWhile_prefix (· ≠ '#')) hall
  have hne := List.mem_takeWhile_imp (heq.symm ▸ hmem)
  simp at hne

theorem mem_mark {c : Char} (h : c ∈ mark query) : c = '?' ∨ c ∈ query := by
  unfold mark at h
  split at h
  · cases h
  · exact List.mem_cons.mp h

theorem dropWhile_path_end_cases (path : List Char) :
    path.dropWhile (!UrlSplit.path_end ·) = [] ∨
      ∃ rest, path.dropWhile (!UrlSplit.path_end ·) = '?' :: rest ∨ path.dropWhile (!UrlSplit.path_end ·) = '#' :: rest := by
  cases hdrop : path.dropWhile (!UrlSplit.path_end ·) with
  | nil => exact .inl rfl
  | cons c rest =>
    have hend := List.head?_dropWhile_not (!UrlSplit.path_end ·) path
    rw [hdrop] at hend
    simp only [List.head?_cons, Bool.not_eq_false', UrlSplit.path_end, Bool.or_eq_true, decide_eq_true_eq] at hend
    obtain rfl | rfl := hend
    · exact .inr ⟨rest, .inl rfl⟩
    · exact .inr ⟨rest, .inr rfl⟩

theorem query_of_append_mark (hquery : '#' ∉ query) :
    HttpxUrl.query_of (path.dropWhile (!UrlSplit.path_end ·) ++ mark query) = arriving_query path query := by
  unfold arriving_query
  obtain hdrop | ⟨rest, hdrop | hdrop⟩ := dropWhile_path_end_cases path
  · rw [hdrop]
    exact query_of_mark hquery
  · rw [hdrop]
    change (rest ++ mark query).takeWhile (· ≠ '#') = if '#' ∈ rest then _ else _
    split
    · rename_i hmem
      exact takeWhile_append_of_mem hmem _
    · rename_i hmem
      refine List.takeWhile_eq_self_iff.mpr fun c hc => decide_eq_true ?_
      rintro rfl
      obtain hc | hc := List.mem_append.mp hc
      · exact hmem hc
      · obtain hc | hc := mem_mark hc
        · cases hc
        · exact hquery hc
  · rw [hdrop]
    rfl

/-- The remainder that a route takes from a path. -/
theorem path_parameter_eq_some {text : List Char} (h : path_parameter route text = some path) :
    ∃ line_break, (line_break = [] ∨ line_break = ['\n']) ∧
      text = HttpxUrl.directory route.components ++ (path ++ line_break) := by
  unfold path_parameter at h
  rw [← directory_components] at h
  simp only [Option.ite_none_right_eq_some, Option.some.injEq] at h
  obtain ⟨hstart, hrest, rfl⟩ := h
  obtain ⟨remainder, rfl⟩ := List.isPrefixOf_iff_prefix.mp hstart
  rw [List.drop_left] at hrest ⊢
  obtain hrest | hrest := hrest
  · exact ⟨[], .inl rfl, by rw [List.append_nil, ← hrest]⟩
  · exact ⟨['\n'], .inr rfl, by rw [← hrest]⟩

theorem url_query_eq_query_part :
    request.url_query env =
      let rest := UrlSplit.clean (request.host.toList ++ request.path.toList ++ mark request.query_string)
      if env.valid_netloc (UrlSplit.splitnetloc rest).1 then
        .ok (UrlSplit.query_part (UrlSplit.splitnetloc rest).2)
      else .error .ValueError :=
  UrlSplit.query_urlsplit request.is_scheme

/-- What Starlette reads as the query, if the host has no part in it. -/
theorem url_query_eq (hpath : path_parameter route request.path.toList = some path) (hhost : request.plain_host = true) :
    request.url_query env =
      if env.valid_netloc (UrlSplit.splitnetloc (UrlSplit.clean request.host.toList)).1 then
        .ok (UrlSplit.query_part (UrlSplit.clean path ++ UrlSplit.clean (mark request.query_string)))
      else .error .ValueError := by
  obtain ⟨line_break, hbreak, htext⟩ := path_parameter_eq_some hpath
  have hdirectory : UrlSplit.clean (HttpxUrl.directory route.components) = HttpxUrl.directory route.components := by
    cases route <;> decide +kernel
  have hline_break : UrlSplit.clean line_break = [] := by
    obtain rfl | rfl := hbreak <;> rfl
  have hclean : UrlSplit.clean (request.host.toList ++ request.path.toList ++ mark request.query_string) =
      UrlSplit.clean request.host.toList ++ '/' ::
        (route.components.flatMap (· ++ ['/']) ++
          (UrlSplit.clean path ++ UrlSplit.clean (mark request.query_string))) := by
    rw [htext]
    simp only [UrlSplit.clean_append, hdirectory, hline_break, List.append_assoc]
    rfl
  have hplain : ∀ c ∈ (UrlSplit.splitnetloc (UrlSplit.clean request.host.toList)).2 ++ HttpxUrl.directory route.components,
      UrlSplit.path_end c = false := by
    intro c hc
    obtain hc | hc := List.mem_append.mp hc
    · have hmem := (List.dropWhile_sublist _).subset hc
      have hend := List.all_eq_true.mp hhost c (List.mem_of_mem_filter hmem)
      exact Bool.not_eq_true' _ ▸ hend
    · exact Bool.not_eq_true' _ ▸ directory_no_path_end route c hc
  rw [url_query_eq_query_part, hclean]
  dsimp only
  rw [UrlSplit.splitnetloc_append]
  have hslash : '/' :: (route.components.flatMap (· ++ ['/']) ++
      (UrlSplit.clean path ++ UrlSplit.clean (mark request.query_string))) =
      HttpxUrl.directory route.components ++ (UrlSplit.clean path ++ UrlSplit.clean (mark request.query_string)) := rfl
  rw [hslash, ← List.append_assoc, UrlSplit.query_part_append hplain]

theorem clean_mark (query : List Char) : UrlSplit.clean (mark query) = if query = [] then [] else '?' :: UrlSplit.clean query := by
  unfold mark
  split <;> rfl

/-- With neither `?` nor `#` in the remainder. -/
theorem query_part_of_no_path_end (hpath : ∀ c ∈ path, UrlSplit.path_end c = false) (query : List Char) :
    UrlSplit.query_part (UrlSplit.clean path ++ UrlSplit.clean (mark query)) =
      (UrlSplit.clean query).takeWhile (· ≠ '#') := by
  have hclean : ∀ c ∈ UrlSplit.clean path, UrlSplit.path_end c = false := fun c hc => hpath c (List.mem_of_mem_filter hc)
  rw [UrlSplit.query_part_append hclean, clean_mark]
  split
  · rename_i hempty
    rw [hempty]
    rfl
  · rfl

theorem takeWhile_clean_eq_iff :
    (UrlSplit.clean query).takeWhile (· ≠ '#') = query ↔ ∀ c ∈ query, c ≠ '#' ∧ UrlSplit.unsafe_to_remove c = false := by
  constructor
  · intro h c hc
    rw [← h] at hc
    have hne := List.mem_takeWhile_imp hc
    have hmem := List.mem_filter.mp ((List.takeWhile_sublist _).subset hc)
    exact ⟨of_decide_eq_true hne, Bool.not_eq_true' _ ▸ hmem.2⟩
  · intro h
    rw [UrlSplit.clean_of_forall fun c hc => (h c hc).2]
    exact List.takeWhile_eq_self_iff.mpr fun c hc => decide_eq_true (h c hc).1

/-- With a `?` in the remainder, and no `#` after it. -/
theorem query_part_of_question_mark {rest : List Char} (hdrop : path.dropWhile (!UrlSplit.path_end ·) = '?' :: rest)
    (hrest : '#' ∉ rest) (query : List Char) :
    UrlSplit.query_part (UrlSplit.clean path ++ UrlSplit.clean (mark query)) =
      UrlSplit.clean rest ++ (UrlSplit.clean (mark query)).takeWhile (· ≠ '#') := by
  have hpath : path = path.takeWhile (!UrlSplit.path_end ·) ++ '?' :: rest := by
    rw [← hdrop, List.takeWhile_append_dropWhile]
  have hbefore : ∀ c ∈ UrlSplit.clean (path.takeWhile (!UrlSplit.path_end ·)), UrlSplit.path_end c = false := by
    intro c hc
    have hmem : c ∈ path.takeWhile (!UrlSplit.path_end ·) := List.mem_of_mem_filter hc
    have hend := List.mem_takeWhile_imp hmem
    exact Bool.not_eq_true' _ ▸ hend
  have hfragment : ∀ c ∈ UrlSplit.clean rest, decide (c ≠ '#') = true := by
    intro c hc
    refine decide_eq_true ?_
    rintro rfl
    exact hrest (List.mem_of_mem_filter hc)
  have hquestion : UrlSplit.clean ('?' :: rest) = '?' :: UrlSplit.clean rest := rfl
  rw [hpath, UrlSplit.clean_append, hquestion, List.append_assoc, UrlSplit.query_part_append hbefore, List.cons_append,
    UrlSplit.query_part_cons, List.takeWhile_append_of_pos hfragment]

/-- Such a remainder completes the query string only if there is nothing in either. -/
theorem append_mark_eq_iff {rest : List Char} (hrest : '#' ∉ rest) :
    rest ++ mark (UrlSplit.clean rest ++ (UrlSplit.clean (mark query)).takeWhile (· ≠ '#')) = query ↔
      rest = [] ∧ query = [] := by
  constructor
  · intro h
    by_cases hempty : query = []
    · rw [hempty] at h
      exact ⟨(List.append_eq_nil_iff.mp h).1, hempty⟩
    · -- Otherwise the query string would be longer than itself.
      have hlong : rest ++ '?' :: (UrlSplit.clean rest ++ '?' :: (UrlSplit.clean query).takeWhile (· ≠ '#')) = query := by
        rw [clean_mark, if_neg hempty, mark, if_neg (by simp)] at h
        exact h
      have hfragment : ∀ c ∈ UrlSplit.clean query, decide (c ≠ '#') = true := by
        intro c hc
        refine decide_eq_true ?_
        rintro rfl
        have hmem := List.mem_of_mem_filter hc
        rw [← hlong] at hmem
        simp only [List.mem_append, List.mem_cons] at hmem
        obtain hmem | hmem | hmem | hmem | hmem := hmem
        · exact hrest hmem
        · cases hmem
        · exact hrest (List.mem_of_mem_filter hmem)
        · cases hmem
        · have hne := List.mem_takeWhile_imp hmem
          simp at hne
      rw [List.takeWhile_eq_self_iff.mpr hfragment] at hlong
      have hidem : UrlSplit.clean (UrlSplit.clean query) = UrlSplit.clean query :=
        UrlSplit.clean_of_forall fun c hc => Bool.not_eq_true' _ ▸ (List.mem_filter.mp hc).2
      have hcons : ∀ l, UrlSplit.clean ('?' :: l) = '?' :: UrlSplit.clean l := fun _ => rfl
      have hlength := congrArg (fun l => (UrlSplit.clean l).length) hlong
      simp only [UrlSplit.clean_append, hcons, hidem, List.length_append, List.length_cons] at hlength
      omega
  · rintro ⟨rfl, rfl⟩
    rfl

/-- What arrives upstream is the query string under the condition only. -/
theorem queryKept_iff (hpath : path_parameter route request.path.toList = some path)
    (hquery : request.url_query env = .ok query) :
    arriving_query path query = request.query_string ↔ QueryKept request path query := by
  have hplain : request.plain_host = true →
      query = UrlSplit.query_part (UrlSplit.clean path ++ UrlSplit.clean (mark request.query_string)) := by
    intro hhost
    rw [url_query_eq hpath hhost] at hquery
    split at hquery
    · exact (Except.ok.inj hquery).symm
    · cases hquery
  unfold arriving_query QueryKept
  obtain hdrop | ⟨rest, hdrop | hdrop⟩ := dropWhile_path_end_cases path
  · rw [hdrop]
    change query = request.query_string ↔ if request.plain_host then _ else _
    split
    · rename_i hhost
      have hnone : ∀ c ∈ path, UrlSplit.path_end c = false := fun c hc =>
        Bool.not_eq_true' _ ▸ List.dropWhile_eq_nil_iff.mp hdrop c hc
      rw [hplain hhost, query_part_of_no_path_end hnone]
      exact takeWhile_clean_eq_iff
    · rfl
  · rw [hdrop]
    change (if '#' ∈ rest then _ else _) = request.query_string ↔ if '#' ∈ rest then _ else _
    split
    · rfl
    · rename_i hrest
      split
      · rename_i hhost
        rw [hplain hhost, query_part_of_question_mark hdrop hrest]
        exact append_mark_eq_iff hrest
      · rfl
  · rw [hdrop]
    exact eq_comm

theorem not_mem_url_query (hquery : request.url_query env = .ok query) : '#' ∉ query := by
  rw [url_query_eq_query_part] at hquery
  dsimp only at hquery
  split at hquery
  · cases hquery
    exact UrlSplit.not_mem_query_part _
  · cases hquery

theorem upstream_request_eq_ok_iff {upstream_base : List Char} {upstream : UpstreamRequest} :
    upstream_request env request upstream_base path = .ok upstream ↔
      ∃ query, request.url_query env = .ok query ∧
        upstream = {
          method := request.method
          url := target_url upstream_base path query
          headers := inject_headers request
          content := if request.body = [] then none else some request.body } := by
  unfold upstream_request
  rw [Except.bind_ok_iff]
  exact exists_congr fun query => and_congr_right fun _ =>
    ⟨fun h => (Except.ok.inj h).symm, fun h => congrArg Except.ok h.symm⟩

theorem upstream_request_of_url_query (upstream_base path : List Char) (hquery : request.url_query env = .ok query) :
    upstream_request env request upstream_base path =
      .ok {
        method := request.method
        url := target_url upstream_base path query
        headers := inject_headers request
        content := if request.body = [] then none else some request.body } :=
  upstream_request_eq_ok_iff.mpr ⟨query, hquery, rfl⟩

end Query

/-- When the request that is sent upstream stays under its route and keeps its query string. -/
theorem stays_within_iff {env : Env} {settings : Settings} {route : Route} {request : ProxyRequest} {path : List Char}
    (hpath : path_parameter route request.path.toList = some path) :
    StaysWithin env settings route request path ↔
      ∀ query, request.url_query env = .ok query →
        env.valid_url (target_url (ROUTE_MAP settings route).base (route.segment ++ '/' :: path) query) = true →
          PathKept route path ∧ QueryKept request path query := by
  have hsent : ∀ query, request.url_query env = .ok query →
      ("/api/v1/".toList ++ route.segment ++ ['/'] <+:
            (HttpxUrl.urlparse (target_url (ROUTE_MAP settings route).base (route.segment ++ '/' :: path) query)).path ∧
          (HttpxUrl.urlparse (target_url (ROUTE_MAP settings route).base (route.segment ++ '/' :: path) query)).query =
            request.query_string ↔
        PathKept route path ∧ QueryKept request path query) := by
    intro query hquery
    rw [urlparse_target_url, ← directory_components]
    dsimp only
    rw [pathKept_iff, query_of_append_mark (not_mem_url_query hquery), queryKept_iff hpath hquery]
  constructor
  · intro h query hquery hvalid
    exact (hsent query hquery).mp (h _ _ (upstream_request_of_url_query _ _ hquery) (if_pos hvalid))
  · intro h upstream url hupstream hurl
    obtain ⟨query, hquery, rfl⟩ := upstream_request_eq_ok_iff.mp hupstream
    simp only [sent_url, Option.ite_none_right_eq_some, Option.some.injEq] at hurl
    obtain ⟨hvalid, rfl⟩ := hurl
    exact (hsent query hquery).mpr (h query hquery hvalid)

/-- An upstream service that answers everything. -/
def sample_env : Env where
  valid_netloc _ := true
  valid_url _ := true
  send _ _ := .ok { status_code := 200, headers := [], content := [] }

def sample_upstream (authority : String) (h : ∀ c ∈ authority.toList, UrlSplit.delimiter c = false) : Upstream :=
  { scheme := "http".toList, is_scheme := UrlSplit.isScheme_http, authority := authority.toList, is_authority := h }

def sample_settings : Settings where
  upstream_device_manager := sample_upstream "device-manager:8002" (UrlSplit.eq_false_of_all (by decide +kernel))
  upstream_data_ingestion := sample_upstream "data-ingestion:8001" (UrlSplit.eq_false_of_all (by decide +kernel))
  upstream_ml_inference := sample_upstream "ml-inference:8004" (UrlSplit.eq_false_of_all (by decide +kernel))
  upstream_scheduler := sample_upstream "scheduler:8005" (UrlSplit.eq_false_of_all (by decide +kernel))

def sample_get (path query_string : String) : ProxyRequest where
  method := "GET"
  scheme := "http".toList
  is_scheme := UrlSplit.isScheme_http
  host := "gateway:8000"
  path := path
  authorization := none
  client := some "10.0.0.7"
  query_string := query_string.toList
  headers := [("accept", "*/*")]
  lower_names := by decide +kernel
  body := []
  correlation_id := some "7f0e"

/-- Dot segments that stay within the route. -/
theorem stays_within_sibling :
    StaysWithin sample_env sample_settings .devices (sample_get "/api/v1/devices/a/../b" "limit=5") "a/../b".toList := by
  have hpath : path_parameter .devices (sample_get "/api/v1/devices/a/../b" "limit=5").path.toList =
      some "a/../b".toList := by decide +kernel
  refine (stays_within_iff hpath).mpr fun query _ _ => ⟨⟨["b".toList], List.cons_ne_nil _ _, by decide +kernel⟩, ?_⟩
  have hdrop : "a/../b".toList.dropWhile (!UrlSplit.path_end ·) = [] := by decide +kernel
  have hhost : (sample_get "/api/v1/devices/a/../b" "limit=5").plain_host = true := by decide +kernel
  have hplain : ("limit=5".toList.all fun c => c ≠ '#' && !UrlSplit.unsafe_to_remove c) = true := by decide +kernel
  rw [QueryKept, hdrop]
  change if _ then _ else _
  rw [if_pos hhost]
  intro c hc
  simpa using List.all_eq_true.mp hplain c hc

/-- Three of them lead to any page of the service. -/
theorem route_left :
    ¬ ∀ (env : Env) (settings : Settings) (route : Route) (request : ProxyRequest) (path : List Char),
      path_parameter route request.path.toList = some path → StaysWithin env settings route request path := by
  intro hclaim
  have hpath : path_parameter .devices (sample_get "/api/v1/devices/../../../health" "").path.toList =
      some "../../../health".toList := by decide +kernel
  have hstays := hclaim sample_env sample_settings .devices (sample_get "/api/v1/devices/../../../health" "") _ hpath
  have hquery : (sample_get "/api/v1/devices/../../../health" "").url_query sample_env = .ok [] := by decide +kernel
  obtain ⟨hunder, -⟩ := hstays _ _ (upstream_request_of_url_query _ _ hquery) (if_pos rfl)
  exact absurd hunder (by decide +kernel)

end gateway.proxy
