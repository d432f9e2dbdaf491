import EdgeGateway.Middleware.Proxy.GatewayHeaders

open gateway.middleware

namespace gateway.proxy

/-- Every pair but those of the filtered names arrives as often as it was sent. -/
def Preserved (filtered : List String) (sent received : List (String × String)) : Prop :=
  ∀ header : String × String, header.1 ∉ filtered → received.count header = sent.count header

/-- The names of the headers that are not filtered, as often as they occur. -/
def names_besides (filtered : List String) (headers : List (String × String)) : List String :=
  (headers.filter (·.1 ∉ filtered)).map Prod.fst

def injected_headers : List String := ["X-Correlation-ID", "X-Forwarded-For"]

/-- The headers of an upstream response, whose names compare without regard to case. -/
def lower_headers (headers : List (String × String)) : List (String × String) :=
  headers.map fun (name, value) => (name.toLower, value)

section Preserved

variable {filtered : List String} {sent received : List (String × String)}

theorem preserved_iff_perm :
    Preserved filtered sent received ↔
      (received.filter (·.1 ∉ filtered)).Perm (sent.filter (·.1 ∉ filtered)) := by
  rw [List.perm_iff_count]
  refine forall_congr' fun header => ?_
  by_cases hfiltered : header.1 ∉ filtered
  · rw [List.count_filter (by simpa using hfiltered), List.count_filter (by simpa using hfiltered)]
    exact ⟨fun h => h hfiltered, fun h _ => h⟩
  · have hnone : ∀ l : List (String × String), (l.filter (·.1 ∉ filtered)).count header = 0 := by
      intro l
      refine List.count_eq_zero.mpr fun hmem => hfiltered ?_
      exact of_decide_eq_true (List.mem_filter.mp hmem).2
    rw [hnone, hnone]
    exact iff_of_true (fun h => absurd h hfiltered) rfl

/-- What a dict keeps of the pairs that are entered into it. -/
theorem perm_collect_iff {merge : Option String → String → String} (hmerge : ∀ value, merge none value = value)
    (filtered : List String) (sent : List (String × String)) :
    ((HttpHeaders.collect merge .empty sent).items.filter (·.1 ∉ filtered)).Perm (sent.filter (·.1 ∉ filtered)) ↔
      (names_besides filtered sent).Nodup := by
  have hitems : (HttpHeaders.collect merge .empty sent).items.filter (·.1 ∉ filtered) =
      (HttpHeaders.collect merge .empty (sent.filter (·.1 ∉ filtered))).items := by
    have hfilter : (HttpHeaders.collect merge .empty sent).filter (fun name _ => name ∉ filtered) =
        HttpHeaders.collect merge .empty (sent.filter (·.1 ∉ filtered)) :=
      HttpHeaders.filter_collect (fun name => name ∉ filtered)
    exact congrArg Dict.items hfilter
  rw [hitems, names_besides]
  exact HttpHeaders.items_collect_perm_iff hmerge

end Preserved

section Request

variable {request : ProxyRequest} {correlation_id : String}

theorem forward_headers_eq (request : ProxyRequest) :
    forward_headers request = HttpHeaders.of_pairs (request.headers.filter (·.1 ∉ HOP_BY_HOP_HEADERS)) := by
  unfold forward_headers
  congr 1
  refine List.filter_congr fun header hheader => ?_
  rw [request.lower_names header hheader]

/-- No header of a client has the spelling of the gateway's own. -/
theorem not_mem_injected_headers {header : String × String} (hheader : header ∈ request.headers) :
    header.1 ∉ injected_headers := by
  have hinjected : ∀ name ∈ injected_headers, name.toLower ≠ name := by decide +kernel
  exact fun hmem => hinjected _ hmem (request.lower_names header hheader)

theorem request_preserved_iff (hid : request.correlation_id = some correlation_id) (hne : correlation_id ≠ "") :
    Preserved (HOP_BY_HOP_HEADERS ++ injected_headers) request.headers (inject_headers request).items ↔
      (names_besides HOP_BY_HOP_HEADERS request.headers).Nodup := by
  have hsent : request.headers.filter (·.1 ∉ HOP_BY_HOP_HEADERS ++ injected_headers) =
      request.headers.filter (·.1 ∉ HOP_BY_HOP_HEADERS) := by
    refine List.filter_congr fun header hheader => decide_eq_decide.mpr ?_
    rw [List.mem_append, or_iff_left (not_mem_injected_headers hheader)]
  have hforwarded : ∀ header ∈ (forward_headers request).items, header.1 ∉ HOP_BY_HOP_HEADERS ++ injected_headers := by
    intro header hheader
    have hkey : header.1 ∈ (forward_headers request).keys := List.mem_map.mpr ⟨header, hheader, rfl⟩
    obtain ⟨hname, hhop⟩ := mem_keys_forward_headers.mp hkey
    obtain ⟨sent, hmem, heq⟩ := List.mem_map.mp hname
    have hlower := request.lower_names sent hmem
    rw [heq] at hlower
    rw [hlower] at hhop
    rw [List.mem_append, not_or]
    exact ⟨hhop, heq ▸ not_mem_injected_headers hmem⟩
  have hreceived : (inject_headers request).items.filter (·.1 ∉ HOP_BY_HOP_HEADERS ++ injected_headers) =
      (forward_headers request).items := by
    rw [items_inject_headers hid hne, List.filter_append, List.filter_eq_self.mpr fun header hheader =>
      decide_eq_true (hforwarded header hheader)]
    exact List.append_nil _
  rw [preserved_iff_perm, hsent, hreceived, forward_headers_eq, names_besides]
  exact HttpHeaders.items_collect_perm_iff fun _ => rfl

end Request

section Response

variable {upstream_response : UpstreamResponse}

theorem lower_of_mem_joined {header : String × String}
    (h : header ∈ (HttpHeaders.joined upstream_response.headers).items) : header.1.toLower = header.1 := by
  have hkey : header.1 ∈ (HttpHeaders.joined upstream_response.headers).keys := List.mem_map.mpr ⟨header, h, rfl⟩
  rw [HttpHeaders.joined, HttpHeaders.mem_keys_collect] at hkey
  obtain hkey | hkey := hkey
  · cases hkey
  · obtain ⟨lower, hlower, heq⟩ := List.mem_map.mp hkey
    obtain ⟨sent, _, rfl⟩ := List.mem_map.mp hlower
    rw [← heq]
    exact HttpHeaders.toLower_toLower _

theorem items_response_headers :
    (response_headers upstream_response).items =
      (HttpHeaders.joined upstream_response.headers).items.filter (·.1 ∉ excluded_response_headers) := by
  refine List.filter_congr fun header hheader => ?_
  dsimp only
  rw [lower_of_mem_joined hheader]

theorem mem_response_headers {header : String × String} (h : header ∈ (response_headers upstream_response).items) :
    header.1.toLower = header.1 ∧ header.1 ∉ excluded_response_headers := by
  rw [items_response_headers] at h
  obtain ⟨hjoined, hname⟩ := List.mem_filter.mp h
  exact ⟨lower_of_mem_joined hjoined, of_decide_eq_true hname⟩

/-- The media type comes from a header that the response has. -/
theorem any_content_type {media_type : String}
    (h : (HttpHeaders.joined upstream_response.headers).get? "content-type" = some media_type) :
    (response_headers upstream_response).items.any (·.1 = "content-type") = true := by
  have hlisted : ("content-type", media_type) ∈ (response_headers upstream_response).items := by
    rw [items_response_headers]
    refine List.mem_filter.mpr ⟨Dict.get?_eq_some_iff.mp h, decide_eq_true ?_⟩
    dsimp only
    decide
  exact List.any_eq_true.mpr ⟨_, hlisted, rfl⟩

/-- The response has these headers, and none of another name that is not filtered. -/
theorem filter_build_response :
    (build_response upstream_response).headers.filter (·.1 ∉ excluded_response_headers) =
      (response_headers upstream_response).items := by
  have hraw : ((response_headers upstream_response).items.map fun (name, value) => (name.toLower, value)) =
      (response_headers upstream_response).items := by
    refine (List.map_congr_left fun header hheader => ?_).trans (List.map_id _)
    exact Prod.ext (mem_response_headers hheader).1 rfl
  unfold build_response init_headers
  dsimp only
  rw [hraw, List.filter_append, List.filter_append,
    List.filter_eq_self.mpr fun header hheader => decide_eq_true (mem_response_headers hheader).2]
  -- Of the two that the response may add, one is filtered, and the other one is there already.
  have hcontent_length : ∀ (present : Bool) (value : String),
      (if present then [] else [("content-length", value)]).filter (·.1 ∉ excluded_response_headers) = [] := by
    intro present value
    cases present <;> rfl
  rw [hcontent_length, List.append_nil]
  cases hget : (HttpHeaders.joined upstream_response.headers).get? "content-type" with
  | none => exact List.append_nil _
  | some media_type =>
    dsimp only
    rw [if_pos (any_content_type hget)]
    exact List.append_nil _

theorem response_preserved_iff :
    Preserved excluded_response_headers (lower_headers upstream_response.headers) (build_response upstream_response).headers ↔
      (names_besides excluded_response_headers (lower_headers upstream_response.headers)).Nodup := by
  rw [preserved_iff_perm, filter_build_response, items_response_headers]
  exact perm_collect_iff (fun _ => rfl) excluded_response_headers (lower_headers upstream_response.headers)

end Response

/-- The headers of the request arrive at the service, and those of its response at the client. -/
def HeadersPreserved (request : ProxyRequest) (upstream : UpstreamRequest) (upstream_response : UpstreamResponse) : Prop :=
  Preserved (HOP_BY_HOP_HEADERS ++ injected_headers) request.headers upstream.headers.items ∧
    Preserved excluded_response_headers (lower_headers upstream_response.headers) (build_response upstream_response).headers

/-- A response that sets the given cookies. -/
def sample_cookies (cookies : List String) : UpstreamResponse where
  status_code := 200
  headers := ("Content-Type", "application/json") :: cookies.map fun cookie => ("Set-Cookie", cookie)
  content := []

end gateway.proxy
