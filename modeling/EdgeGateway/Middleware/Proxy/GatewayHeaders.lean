import EdgeGateway.Middleware.Proxy.PathContainment

open gateway.middleware

namespace gateway.proxy

/-- The values of the headers that have the name in any spelling. -/
def values_of (name : String) (headers : List (String × String)) : List String :=
  (headers.filter (·.1.toLower = name)).map Prod.snd

/-- The chain of the incoming request, if there is one, and the host of the client. -/
def forwarded_chain (request : ProxyRequest) : String :=
  match request.headers.lookup "x-forwarded-for" with
  | some existing_forwarded => existing_forwarded ++ ", " ++ client_host request
  | none => client_host request

/-- The upstream request has one header for the chain and one for the correlation id. -/
def InjectedOnce (request : ProxyRequest) (correlation_id : String) (upstream : UpstreamRequest) : Prop :=
  values_of "x-forwarded-for" upstream.headers.items = [forwarded_chain request] ∧
    values_of "x-correlation-id" upstream.headers.items = [correlation_id]

section Inject

variable {request : ProxyRequest} {correlation_id name : String}

theorem mem_keys_forward_headers :
    name ∈ (forward_headers request).keys ↔ name ∈ request.headers.map Prod.fst ∧ name.toLower ∉ HOP_BY_HOP_HEADERS := by
  rw [forward_headers, HttpHeaders.of_pairs, HttpHeaders.mem_keys_collect]
  simp [Dict.keys, Dict.empty, List.mem_map, List.mem_filter]

/-- A name that is not in lower case is none of those that are forwarded. -/
theorem not_mem_keys_forward_headers (hname : name.toLower ≠ name) : name ∉ (forward_headers request).keys := by
  intro hmem
  obtain ⟨header, hheader, rfl⟩ := List.mem_map.mp (mem_keys_forward_headers.mp hmem).1
  exact hname (request.lower_names header hheader)

/-- The gateway's headers come after those that are forwarded. -/
theorem items_inject_headers (hid : request.correlation_id = some correlation_id) (hne : correlation_id ≠ "") :
    (inject_headers request).items =
      (forward_headers request).items ++ [("X-Correlation-ID", correlation_id), ("X-Forwarded-For", client_host request)] := by
  have hlower : ∀ injected : String, injected.toLower ≠ injected → injected ∉ (forward_headers request).keys :=
    fun _ => not_mem_keys_forward_headers
  have hcorrelation := hlower "X-Correlation-ID" (by decide +kernel)
  have hforwarded : "X-Forwarded-For" ∉ ((forward_headers request).set "X-Correlation-ID" correlation_id).keys := by
    rw [Dict.mem_keys_set, not_or]
    exact ⟨by decide, hlower "X-Forwarded-For" (by decide +kernel)⟩
  have hinject : inject_correlation_id request.correlation_id (forward_headers request) =
      (forward_headers request).set "X-Correlation-ID" correlation_id := by
    rw [hid]
    exact if_neg hne
  have hfirst : ((forward_headers request).set "X-Correlation-ID" correlation_id).items =
      (forward_headers request).items ++ [("X-Correlation-ID", correlation_id)] :=
    Dict.setItem_of_not_mem _ hcorrelation
  rw [inject_headers, hinject, inject_forwarded_for, Dict.getD_of_not_mem hforwarded]
  refine (Dict.setItem_of_not_mem _ hforwarded).trans ?_
  rw [hfirst, List.append_assoc]
  rfl

theorem values_of_append (name : String) (first second : List (String × String)) :
    values_of name (first ++ second) = values_of name first ++ values_of name second := by
  rw [values_of, List.filter_append, List.map_append]
  rfl

/-- Whether a name is forwarded that is in lower case and not hop-by-hop. -/
theorem values_of_forward_headers_iff (hlower : name.toLower = name) (hforwarded : name ∉ HOP_BY_HOP_HEADERS) :
    values_of name (forward_headers request).items = [] ↔ ∀ header ∈ request.headers, header.1 ≠ name := by
  have hmem : name ∈ (forward_headers request).keys ↔ name ∈ request.headers.map Prod.fst := by
    rw [mem_keys_forward_headers, hlower, and_iff_left hforwarded]
  have hnames : ∀ header ∈ (forward_headers request).items, header.1.toLower = header.1 := by
    intro header hheader
    by_contra hname
    exact not_mem_keys_forward_headers hname (List.mem_map.mpr ⟨header, hheader, rfl⟩)
  have hvalues : values_of name (forward_headers request).items = [] ↔ name ∉ (forward_headers request).keys := by
    rw [values_of, List.map_eq_nil_iff, List.filter_eq_nil_iff, Dict.keys, List.mem_map]
    constructor
    · rintro h ⟨header, hheader, rfl⟩
      exact h header hheader (decide_eq_true (hnames header hheader))
    · intro h header hheader heq
      exact h ⟨header, hheader, (hnames header hheader).symm.trans (of_decide_eq_true heq)⟩
  rw [hvalues, hmem, List.mem_map]
  constructor
  · exact fun h header hheader heq => h ⟨header, hheader, heq⟩
  · rintro h ⟨header, hheader, heq⟩
    exact h header hheader heq

end Inject

theorem values_of_injected (correlation_id host : String) :
    values_of "x-forwarded-for" [("X-Correlation-ID", correlation_id), ("X-Forwarded-For", host)] = [host] ∧
      values_of "x-correlation-id" [("X-Correlation-ID", correlation_id), ("X-Forwarded-For", host)] = [correlation_id] := by
  have hcorrelation : "X-Correlation-ID".toLower = "x-correlation-id" := by decide +kernel
  have hforwarded : "X-Forwarded-For".toLower = "x-forwarded-for" := by decide +kernel
  simp [values_of, hcorrelation, hforwarded]

theorem append_singleton_eq_iff {α : Type} {l : List α} {a b : α} : l ++ [a] = [b] ↔ l = [] ∧ a = b := by
  cases l with
  | nil => simp
  | cons c rest => simp

/-- The gateway's headers arrive once exactly if the client sends none with their names. -/
theorem injected_once_iff {env : Env} {request : ProxyRequest} {upstream_base path : List Char} {upstream : UpstreamRequest}
    {correlation_id : String} (hid : request.correlation_id = some correlation_id) (hne : correlation_id ≠ "")
    (hupstream : upstream_request env request upstream_base path = .ok upstream) :
    InjectedOnce request correlation_id upstream ↔
      ∀ header ∈ request.headers, header.1 ≠ "x-forwarded-for" ∧ header.1 ≠ "x-correlation-id" := by
  obtain ⟨query, -, rfl⟩ := upstream_request_eq_ok_iff.mp hupstream
  obtain ⟨hchain, hcorrelation⟩ := values_of_injected correlation_id (client_host request)
  have hforwarded_iff : values_of "x-forwarded-for" (forward_headers request).items = [] ↔
      ∀ header ∈ request.headers, header.1 ≠ "x-forwarded-for" :=
    values_of_forward_headers_iff (by decide +kernel) (by decide +kernel)
  have hcorrelation_iff : values_of "x-correlation-id" (forward_headers request).items = [] ↔
      ∀ header ∈ request.headers, header.1 ≠ "x-correlation-id" :=
    values_of_forward_headers_iff (by decide +kernel) (by decide +kernel)
  unfold InjectedOnce
  dsimp only
  rw [items_inject_headers hid hne, values_of_append, values_of_append, hchain, hcorrelation, append_singleton_eq_iff,
    append_singleton_eq_iff, hforwarded_iff, hcorrelation_iff, and_iff_left rfl]
  constructor
  · rintro ⟨⟨hforwarded, -⟩, hcorrelation⟩ header hheader
    exact ⟨hforwarded header hheader, hcorrelation header hheader⟩
  · intro h
    refine ⟨⟨fun header hheader => (h header hheader).1, ?_⟩, fun header hheader => (h header hheader).2⟩
    rw [forwarded_chain, List.lookup_eq_none_iff.mpr fun header hheader => bne_iff_ne.mpr (h header hheader).1.symm]

/-- The request of a client that sends neither of them. -/
theorem injected_once_plain : ∃ upstream,
    upstream_request sample_env (sample_get "/api/v1/devices/a" "") [] [] = .ok upstream ∧
      InjectedOnce (sample_get "/api/v1/devices/a" "") "7f0e" upstream := by
  have hquery : (sample_get "/api/v1/devices/a" "").url_query sample_env = .ok [] := by decide +kernel
  have hupstream := upstream_request_of_url_query [] [] hquery
  exact ⟨_, hupstream, (injected_once_iff rfl (by decide) hupstream).mpr (by decide +kernel)⟩

/-- A request that came through another proxy. -/
def sample_forwarded : ProxyRequest :=
  { sample_get "/api/v1/devices/a" "" with
    headers := [("x-forwarded-for", "203.0.113.9")]
    lower_names := by decide +kernel }

/-- The upstream service receives both chains. -/
theorem injected_twice :
    ¬ ∀ (env : Env) (request : ProxyRequest) (upstream_base path : List Char) (upstream : UpstreamRequest)
      (correlation_id : String), request.correlation_id = some correlation_id → correlation_id ≠ "" →
        upstream_request env request upstream_base path = .ok upstream →
          InjectedOnce request correlation_id upstream := by
  intro hclaim
  have hquery : sample_forwarded.url_query sample_env = .ok [] := by decide +kernel
  have hupstream := upstream_request_of_url_query [] [] hquery
  obtain ⟨hchain, -⟩ := hclaim sample_env sample_forwarded [] [] _ "7f0e" rfl (by decide) hupstream
  exact absurd hchain (by decide +kernel)

end gateway.proxy
