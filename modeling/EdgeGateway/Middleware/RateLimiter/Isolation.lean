import EdgeGateway.Library.Transition
import EdgeGateway.Middleware.Authentication
import EdgeGateway.Middleware.RateLimiter.Requests

open gateway.jwt_handler gateway.auth_service gateway.middleware

namespace gateway.rate_limiter

/-- Who an authenticated request is made by. -/
inductive Principal where
  | user (sub role : String)
  | api_key (key_id name role : String)
deriving DecidableEq

namespace Principal

/-- The text that is derived from the principal. -/
def subject : Principal → String
  | .user sub _ => sub
  | .api_key _ name _ => name

def role : Principal → String
  | .user _ role => role
  | .api_key _ _ role => role

/-- What `request.state.user` is in its requests. -/
def identity : Principal → Identity
  | .user sub role => { sub := .str sub, role := .str role, auth_method := "jwt" }
  | .api_key key_id name role =>
    { sub := .str name, role := .str role, auth_method := "api_key", key_id := some (.str key_id) }

/-- Different users, or different API keys, or a user and a key. -/
def Distinct : Principal → Principal → Prop
  | .user sub _, .user sub' _ => sub ≠ sub'
  | .api_key key_id _ _, .api_key key_id' _ _ => key_id ≠ key_id'
  | _, _ => True

end Principal

/-- The metadata that `create_api_key` stores. -/
def api_key_meta (key_id name role : String) : JsonValue :=
  .dict [("key_id", .str key_id), ("name", .str name), ("role", .str role)]

/-- The tokens of a user give its identity. -/
theorem jwt_identity_claims (now minutes : ℤ) (sub role type : String) :
    authentication.jwt_identity (to_encode now (claims ⟨.str sub, .str role⟩ type) minutes) =
      (Principal.user sub role).identity := by
  rw [authentication.jwt_identity, Dict.getD, to_encode_get?_sub, Dict.getD, to_encode_get?_role]
  rfl

/-- The metadata of an API key give its identity. -/
theorem api_key_identity_meta (key_id name role : String) :
    authentication.api_key_identity (api_key_meta key_id name role) = .ok (Principal.api_key key_id name role).identity := by
  rfl

/-- The requests that are made, with the principal who makes them if it is authenticated. -/
abbrev Callers := ℕ → Request × Option Principal

def Callers.incoming (callers : Callers) : Incoming := fun n => ((callers n).1, (callers n).2.map Principal.identity)

def Callers.made_by (callers : Callers) (A : Principal) : Action → Bool
  | .arrive n | .next n => (callers n).2 = some A
  | .advance _ => false

/-- In two runs that differ in the requests of `A` only, those of `B` are decided alike. -/
def Isolated (env : Env) (A B : Principal) : Prop :=
  ∀ (callers : Callers) (s s₁ s₂ : State) (actions₁ actions₂ : List Action),
    (system env callers.incoming).initial s →
    (system env callers.incoming).replay (fun _ _ => true) s actions₁ = some s₁ →
    (system env callers.incoming).replay (fun _ _ => true) s actions₂ = some s₂ →
    actions₁.filter (!callers.made_by A ·) = actions₂.filter (!callers.made_by A ·) →
    ∀ n d₁ d₂, (callers n).2 = some B → (s₁.requests.get? n).bind Progress.admitted = some d₁ →
      (s₂.requests.get? n).bind Progress.admitted = some d₂ → d₁ = d₂

/-- A request in two runs. It may only differ in its count, if its client is one of `clients`. -/
inductive Similar (clients : Set String) : Option Progress → Option Progress → Prop where
  | absent : Similar clients none none
  | settled {admitted : Bool} : Similar clients (some (.settled admitted)) (some (.settled admitted))
  | counting {p q : Pending} (hclient : p.client_id = q.client_id) (hwindow : p.window = q.window)
      (hlimit : p.limit = q.limit) (hsame : p.client_id ∉ clients → p = q) :
      Similar clients (some (.counting p)) (some (.counting q))

/-- Two states that look the same to everyone but `A`, up to the counters of the clients. -/
structure Indistinguishable (callers : Callers) (A : Principal) (clients : Set String) (s t : State) : Prop where
  clock : s.clock = t.clock
  counters : ∀ client_id window, client_id ∉ clients →
    s.counters.get? (key_of client_id window) = t.counters.get? (key_of client_id window)
  requests : ∀ n, (callers n).2 ≠ some A → Similar clients (s.requests.get? n) (t.requests.get? n)

section Unwinding

variable {env : Env} {callers : Callers} {A : Principal} {clients : Set String} {s t : State}

theorem Similar.refl (progress : Option Progress) : Similar clients progress progress := by
  cases progress with
  | none => exact .absent
  | some progress =>
    cases progress with
    | settled admitted => exact .settled
    | counting p => exact .counting rfl rfl rfl fun _ => rfl

theorem Similar.symm {progress progress' : Option Progress} (h : Similar clients progress progress') :
    Similar clients progress' progress := by
  cases h with
  | absent => exact .absent
  | settled => exact .settled
  | counting hclient hwindow hlimit hsame =>
    exact .counting hclient.symm hwindow.symm hlimit.symm fun hmem => (hsame (hclient ▸ hmem)).symm

theorem Indistinguishable.refl (s : State) : Indistinguishable callers A clients s s :=
  ⟨rfl, fun _ _ _ => rfl, fun _ _ => .refl _⟩

theorem Indistinguishable.symm (h : Indistinguishable callers A clients s t) : Indistinguishable callers A clients t s :=
  ⟨h.clock.symm, fun client_id window hmem => (h.counters client_id window hmem).symm, fun n hn => (h.requests n hn).symm⟩

/-- A request that counts for one of the clients leaves the keys of all others alone. -/
theorem get?_next_of_mem {p : Pending} (hp : p.client_id ∈ clients) (clock : ℚ) (counters : ExpiringCounters)
    {client_id : String} (window : ℤ) (hmem : client_id ∉ clients) :
    (p.next env clock counters).2.get? (key_of client_id window) = counters.get? (key_of client_id window) := by
  refine get?_next_of_ne env clock counters fun hkey => hmem ?_
  rw [(key_of_inj hkey).1]
  exact hp

theorem get?_set_of_ne {n m : ℕ} {progress : Progress} {counters : ExpiringCounters} (h : m ≠ n) :
    (s.set n progress counters).requests.get? m = s.requests.get? m := Dict.get?_set_of_ne _ _ h

/-- The requests of `A` count for one of the clients, if they count at all. -/
def CountsFor (env : Env) (callers : Callers) (A : Principal) (clients : Set String) : Prop :=
  ∀ n clock p, (callers n).2 = some A → arrival env (callers n).1 (some A.identity) clock = .counting p →
    p.client_id ∈ clients

theorem client_id_mem {ok : State → Action → Prop} (hclients : CountsFor env callers A clients)
    (h : (system env callers.incoming).ReachableWhere ok s) {n : ℕ} {p : Pending} (hn : (callers n).2 = some A)
    (hp : s.requests.get? n = some (.counting p)) : p.client_id ∈ clients := by
  refine forall_pending (P := fun n p => (callers n).2 = some A → p.client_id ∈ clients) ?_ ?_ h n p hp hn
  · intro n clock p harrived hn
    rw [Callers.incoming, hn] at harrived
    exact hclients n clock p hn harrived
  · intro n p clock counters hmem hn
    rw [next_client_id]
    exact hmem hn

/-- A step of `A` is seen by nobody else. -/
theorem Indistinguishable.local_step (hclients : CountsFor env callers A clients) {s' : State} {a : Action}
    (hs : (system env callers.incoming).Reachable s) (h : Indistinguishable callers A clients s t)
    (ha : callers.made_by A a = true) (hstep : step env callers.incoming s a = some s') :
    Indistinguishable callers A clients s' t := by
  obtain ⟨n, rfl, -, rfl⟩ | ⟨n, p, rfl, hp, rfl⟩ | ⟨n, admitted, -, -, rfl⟩ | ⟨seconds, rfl, -, -⟩ := step_cases hstep
  · have hn : (callers n).2 = some A := of_decide_eq_true ha
    refine ⟨h.clock, h.counters, fun m hm => ?_⟩
    have hne : m ≠ n := fun heq => hm (heq ▸ hn)
    rw [get?_set_of_ne hne]
    exact h.requests m hm
  · have hn : (callers n).2 = some A := of_decide_eq_true ha
    refine ⟨h.clock, fun client_id window hmem => ?_, fun m hm => ?_⟩
    · exact (get?_next_of_mem (client_id_mem hclients hs hn hp) s.clock s.counters window hmem).trans
        (h.counters client_id window hmem)
    · have hne : m ≠ n := fun heq => hm (heq ▸ hn)
      rw [get?_set_of_ne hne]
      exact h.requests m hm
  · exact h
  · cases ha

theorem Indistinguishable.set (h : Indistinguishable callers A clients s t) {n : ℕ} {progress progress' : Progress}
    {counters counters' : ExpiringCounters} (hsimilar : Similar clients (some progress) (some progress'))
    (hcounters : ∀ client_id window, client_id ∉ clients →
      counters.get? (key_of client_id window) = counters'.get? (key_of client_id window)) :
    Indistinguishable callers A clients (s.set n progress counters) (t.set n progress' counters') := by
  refine ⟨h.clock, hcounters, fun m hm => ?_⟩
  by_cases hmn : m = n
  · subst hmn
    rw [set_requests_self, set_requests_self]
    exact hsimilar
  · rw [get?_set_of_ne hmn, get?_set_of_ne hmn]
    exact h.requests m hm

/-- A request that anyone else makes takes its step in both. -/
theorem Indistinguishable.next (h : Indistinguishable callers A clients s t) {n : ℕ} {p q : Pending}
    (hclient : p.client_id = q.client_id) (hwindow : p.window = q.window) (hlimit : p.limit = q.limit)
    (hsame : p.client_id ∉ clients → p = q) :
    Indistinguishable callers A clients
      (s.set n (.counting (p.next env s.clock s.counters).1) (p.next env s.clock s.counters).2)
      (t.set n (.counting (q.next env t.clock t.counters).1) (q.next env t.clock t.counters).2) := by
  by_cases hmem : p.client_id ∈ clients
  · refine h.set (.counting ?_ ?_ ?_ ?_) fun client_id window hother => ?_
    · rw [next_client_id, next_client_id, hclient]
    · rw [next_window, next_window, hwindow]
    · rw [next_limit, next_limit, hlimit]
    · rw [next_client_id]
      exact fun hnot => absurd hmem hnot
    · rw [get?_next_of_mem hmem _ _ _ hother, get?_next_of_mem (hclient ▸ hmem) _ _ _ hother]
      exact h.counters client_id window hother
  · -- The request and its counter are the same in both.
    obtain rfl := hsame hmem
    obtain ⟨hnext, hkey⟩ := next_congr env s.clock s.counters (h.counters p.client_id p.window hmem)
    rw [← h.clock, ← hnext]
    refine h.set (.refl _) fun client_id window hother => ?_
    by_cases hsame_key : key_of client_id window = p.key
    · rw [hsame_key]
      exact hkey
    · rw [get?_next_of_ne _ _ _ hsame_key, get?_next_of_ne _ _ _ hsame_key]
      exact h.counters client_id window hother

/-- A step of anyone else does the same to both. -/
theorem Indistinguishable.low_step {s' t' : State} {a : Action} (h : Indistinguishable callers A clients s t)
    (ha : callers.made_by A a = false) (hstep : step env callers.incoming s a = some s')
    (hstep' : step env callers.incoming t a = some t') : Indistinguishable callers A clients s' t' := by
  cases a with
  | arrive n =>
    obtain ⟨_, ⟨⟩, -, rfl⟩ | ⟨_, _, ⟨⟩, -⟩ | ⟨_, _, ⟨⟩, -⟩ | ⟨_, ⟨⟩, -⟩ := step_cases hstep
    obtain ⟨_, ⟨⟩, -, rfl⟩ | ⟨_, _, ⟨⟩, -⟩ | ⟨_, _, ⟨⟩, -⟩ | ⟨_, ⟨⟩, -⟩ := step_cases hstep'
    rw [h.clock]
    exact h.set (.refl _) h.counters
  | next n =>
    have hsimilar := h.requests n (of_decide_eq_false ha)
    generalize hs : s.requests.get? n = progress at hsimilar
    generalize ht : t.requests.get? n = progress' at hsimilar
    cases hsimilar with
    | absent =>
      rw [step, hs] at hstep
      cases hstep
    | settled =>
      rw [step_next_settled hs] at hstep
      rw [step_next_settled ht] at hstep'
      cases hstep
      cases hstep'
      exact h
    | counting hclient hwindow hlimit hsame =>
      rw [step_next_counting hs] at hstep
      rw [step_next_counting ht] at hstep'
      cases hstep
      cases hstep'
      exact h.next hclient hwindow hlimit hsame
  | advance seconds =>
    obtain ⟨_, ⟨⟩, -⟩ | ⟨_, _, ⟨⟩, -⟩ | ⟨_, _, ⟨⟩, -⟩ | ⟨_, ⟨⟩, -, rfl⟩ := step_cases hstep
    obtain ⟨_, ⟨⟩, -⟩ | ⟨_, _, ⟨⟩, -⟩ | ⟨_, _, ⟨⟩, -⟩ | ⟨_, ⟨⟩, -, rfl⟩ := step_cases hstep'
    exact ⟨congrArg (· + seconds) h.clock, h.counters, h.requests⟩

theorem unwinding (hclients : CountsFor env callers A clients) :
    (system env callers.incoming).Unwinding (callers.made_by A) (Indistinguishable callers A clients) where
  refl := .refl
  symm _ _ := .symm
  local_step _ _ _ _ hs h ha hstep := h.local_step hclients hs ha hstep
  low_step _ _ _ _ _ _ _ h ha hstep hstep' := h.low_step ha hstep hstep'

end Unwinding

/-- What the limiter relies on: the text of a string, and a network location without brackets. -/
structure Conventional (env : Env) : Prop where
  str_str : ∀ s, env.str (.str s) = s
  valid_netloc : ∀ netloc : List Char, (∀ c ∈ netloc, c.isAlphanum ∨ c = '.' ∨ c = '-' ∨ c = ':') →
    env.valid_netloc netloc = true

/-- The two have different names, or the requests of one of them never count. -/
def Unshared (env : Env) (A B : Principal) : Prop :=
  A.subject ≠ B.subject ∨ env.settings.rate_limit_window_seconds = 0 ∨
    (∀ limit, effective_limit env (.str A.role) ≠ .ok limit) ∨
    ∀ limit, effective_limit env (.str B.role) = .ok limit → limit < 1

section Client

variable {env : Env} {A B : Principal}

theorem identity_sub (A : Principal) : A.identity.sub = .str A.subject := by
  cases A <;> rfl

theorem get_client_role_identity (A : Principal) : get_client_role (some A.identity) = .str A.role := by
  cases A <;> rfl

theorem get_client_id_identity (hstr : ∀ s, env.str (.str s) = s) (request : Request) :
    get_client_id env request (some A.identity) =
      if A.subject = "" then "ip:" ++ request.client.getD "unknown" else "user:" ++ A.subject := by
  rw [get_client_id, identity_sub, hstr, JsonValue.truthy]
  by_cases hempty : A.subject = ""
  · rw [if_pos hempty, if_neg (by simp [hempty])]
  · rw [if_neg hempty, if_pos (by simp [hempty])]

/-- Different names make different clients. -/
theorem get_client_id_ne (hstr : ∀ s, env.str (.str s) = s) (hsubject : A.subject ≠ B.subject) (request request' : Request) :
    get_client_id env request (some B.identity) ≠ get_client_id env request' (some A.identity) := by
  have hword : ∀ ip name : String, "ip:" ++ ip ≠ "user:" ++ name := by
    intro ip name h
    have hlists := congrArg String.toList h
    rw [String.toList_append, String.toList_append] at hlists
    exact absurd (List.cons.inj hlists).1 (by decide)
  rw [get_client_id_identity hstr, get_client_id_identity hstr]
  split
  · rename_i hempty
    rw [if_neg fun h => hsubject (h.trans hempty.symm)]
    exact hword _ _
  · split
    · exact (hword _ _).symm
    · exact fun h => hsubject ((String.append_right_inj _).mp h).symm

theorem Principal.Distinct.ne (h : A.Distinct B) : A ≠ B := by
  rintro rfl
  cases A <;> exact h rfl

end Client

section Isolated

variable {env : Env} {A B : Principal} {callers : Callers} {s s₁ s₂ : State} {n : ℕ}

theorem pending_client_id (h : (system env callers.incoming).Reachable s) {p : Pending}
    (hn : (callers n).2 = some B) (hp : s.requests.get? n = some (.counting p)) :
    p.client_id = get_client_id env (callers n).1 (some B.identity) := by
  refine forall_pending (P := fun n p => (callers n).2 = some B →
    p.client_id = get_client_id env (callers n).1 (some B.identity)) ?_ ?_ h n p hp hn
  · intro n clock p harrived hn
    rw [Callers.incoming, hn] at harrived
    exact (arrival_eq_counting harrived).2.2.1
  · intro n p clock counters hclient hn
    rw [next_client_id]
    exact hclient hn

/-- A request that is not admitted by a limit below one. -/
theorem decided_of_limit_lt_one (h : (system env callers.incoming).Reachable s) {p : Pending} {d : Bool}
    (hlimit : ∀ limit, effective_limit env (.str B.role) = .ok limit → limit < 1) (hn : (callers n).2 = some B)
    (hp : s.requests.get? n = some (.counting p)) (hd : p.stage.decision = some d) : d = false := by
  obtain ⟨hcounted, hwithin⟩ := pending_sound h hp
  have heffective := pending_limit h hp
  rw [Callers.incoming, hn, Option.map_some, get_client_role_identity] at heffective
  cases hstage : p.stage with
  | decided admitted =>
    rw [hstage] at hd
    cases hd
    cases d with
    | false => rfl
    | true =>
      have hpos := hcounted (by rw [hstage]; rintro ⟨⟩)
      have hle := hwithin hstage
      have hlt := hlimit _ heffective
      omega
  | _ =>
    rw [hstage] at hd
    cases hd

/-- It is enough that a request is decided alike where it looks the same in both runs. -/
theorem isolated_of_similar (clients : Set String) (hne : A ≠ B) (hclients : ∀ callers, CountsFor env callers A clients)
    (hdecided : ∀ (callers : Callers) (s t : State) (n : ℕ) (p q : Pending) (d₁ d₂ : Bool),
      (system env callers.incoming).Reachable s → (system env callers.incoming).Reachable t → (callers n).2 = some B →
        s.requests.get? n = some (.counting p) → t.requests.get? n = some (.counting q) →
          (p.client_id ∉ clients → p = q) → p.stage.decision = some d₁ → q.stage.decision = some d₂ → d₁ = d₂) :
    Isolated env A B := by
  intro callers s s₁ s₂ actions₁ actions₂ hs hreplay₁ hreplay₂ hpurged n d₁ d₂ hn hd₁ hd₂
  have hreach : (system env callers.incoming).Reachable s := TransitionSystem.ReachableWhere.initial hs
  have hrelated := (unwinding (hclients callers)).replay_related hpurged hreach hreach (.refl s) hreplay₁ hreplay₂
  have hreach₁ := TransitionSystem.replay_reachable (fun _ _ _ => trivial) hreach hreplay₁
  have hreach₂ := TransitionSystem.replay_reachable (fun _ _ _ => trivial) hreach hreplay₂
  have hsimilar := hrelated.requests n fun h => hne (Option.some.inj (h.symm.trans hn))
  generalize hs₁ : s₁.requests.get? n = progress₁ at hsimilar hd₁
  generalize hs₂ : s₂.requests.get? n = progress₂ at hsimilar hd₂
  cases hsimilar with
  | absent => cases hd₁
  | settled => exact Option.some.inj (hd₁.symm.trans hd₂)
  | counting _ _ _ hsame => exact hdecided callers s₁ s₂ n _ _ d₁ d₂ hreach₁ hreach₂ hn hs₁ hs₂ hsame hd₁ hd₂

/-- The requests of a client that `A` does not count for are the same in both runs. -/
theorem isolated_of_countsFor (clients : Set String) (hne : A ≠ B) (hclients : ∀ callers, CountsFor env callers A clients)
    (hother : ∀ request, get_client_id env request (some B.identity) ∉ clients) : Isolated env A B := by
  refine isolated_of_similar clients hne hclients ?_
  intro callers s t n p q d₁ d₂ hs _ hn hp _ hsame hd₁ hd₂
  obtain rfl := hsame (pending_client_id hs hn hp ▸ hother _)
  exact Option.some.inj (hd₁.symm.trans hd₂)

theorem isolated_of_limit_lt_one (hne : A ≠ B)
    (hlimit : ∀ limit, effective_limit env (.str B.role) = .ok limit → limit < 1) : Isolated env A B := by
  refine isolated_of_similar Set.univ hne (fun _ _ _ _ _ _ => Set.mem_univ _) ?_
  intro callers s t n p q d₁ d₂ hs ht hn hp hq _ hd₁ hd₂
  rw [decided_of_limit_lt_one hs hlimit hn hp hd₁, decided_of_limit_lt_one ht hlimit hn hq hd₂]

theorem isolated_of_unshared (hstr : ∀ s, env.str (.str s) = s) (hdistinct : A.Distinct B) (h : Unshared env A B) :
    Isolated env A B := by
  obtain hsubject | hwindow | hlimit | hlimit := h
  · refine isolated_of_countsFor ({ client_id | ∃ request, client_id = get_client_id env request (some A.identity) })
      hdistinct.ne ?_ ?_
    · exact fun callers n clock p _ harrived => ⟨_, (arrival_eq_counting harrived).2.2.1⟩
    · rintro request ⟨request', heq⟩
      exact get_client_id_ne hstr hsubject request request' heq
  · refine isolated_of_countsFor ∅ hdistinct.ne ?_ fun _ => Set.notMem_empty _
    intro callers n clock p _ harrived
    have hcurrent := (arrival_eq_counting harrived).2.1
    rw [current_window] at hcurrent
    dsimp only at hcurrent
    rw [if_pos hwindow] at hcurrent
    cases hcurrent
  · refine isolated_of_countsFor ∅ hdistinct.ne ?_ fun _ => Set.notMem_empty _
    intro callers n clock p _ harrived
    have heffective := (arrival_eq_counting harrived).1
    rw [get_client_role_identity] at heffective
    exact absurd heffective (hlimit _)
  · exact isolated_of_limit_lt_one hdistinct.ne hlimit

end Isolated

section Flood

variable {env : Env} {A B : Principal} {limit : ℤ}

/-- The requests before number `k` are made by `A`, and the others by `B`. -/
def flood_callers (A B : Principal) (k : ℕ) : Callers := fun n => (sample_post, some (if n < k then A else B))

/-- The first `j` requests arrive and are counted. -/
def flood (j : ℕ) : List Action := (List.range j).flatMap fun n => [.arrive n, .next n]

theorem arrival_sample_post (h : Conventional env) (hwindow : env.settings.rate_limit_window_seconds ≠ 0)
    (hlimit : effective_limit env (.str A.role) = .ok limit) (clock : ℚ) :
    arrival env sample_post (some A.identity) clock =
      .counting {
        client_id := get_client_id env sample_post (some A.identity)
        limit := limit
        window := ⌊clock⌋.fdiv env.settings.rate_limit_window_seconds
        arrived := clock } := by
  have hhost : ((UrlSplit.splitnetloc (UrlSplit.clean sample_post.host.toList)).1.all fun c =>
      c.isAlphanum || c = '.' || c = '-' || c = ':') = true := by decide +kernel
  have hnetloc : env.valid_netloc (UrlSplit.splitnetloc (UrlSplit.clean sample_post.host.toList)).1 = true := by
    refine h.valid_netloc _ fun c hc => ?_
    simpa [or_assoc] using List.all_eq_true.mp hhost c hc
  have hpath : sample_post.url_path env.valid_netloc = .ok sample_post.path.toList := by
    have hclean : UrlSplit.clean sample_post.path.toList = '/' :: "api/v1/devices/commands".toList := by decide +kernel
    rw [Request.url_path_eq hclean, if_pos hnetloc]
    decide +kernel
  have hcounts : RATE_LIMIT_EXCLUDED.any (fun page => page.toList = sample_post.path.toList) = false := by decide +kernel
  rw [arrival, hpath]
  dsimp only
  rw [hcounts, if_neg Bool.false_ne_true, get_client_role_identity, hlimit, current_window]
  dsimp only
  rw [if_neg hwindow]

/-- What a key holds that was counted so often. -/
def counted_so_often : ℕ → Option ExpiringCounter
  | 0 => none
  | j + 1 => some { value := j + 1 }

theorem get?_incr_counted {store : ExpiringCounters} (now : ℚ) {key : String} {j : ℕ}
    (h : store.get? key = counted_so_often j) :
    (store.incr now key).2 = j + 1 ∧ (store.incr now key).1.get? key = counted_so_often (j + 1) := by
  unfold ExpiringCounters.incr ExpiringCounters.find
  rw [h]
  cases j with
  | zero => exact ⟨rfl, Dict.get?_set_self _ _ _⟩
  | succ j => exact ⟨rfl, Dict.get?_set_self _ _ _⟩

/-- After the flood the key that the two share has been counted that often. -/
theorem replay_flood (h : Conventional env) (hwindow : env.settings.rate_limit_window_seconds ≠ 0)
    (hlimit : effective_limit env (.str A.role) = .ok limit) {k : ℕ} :
    ∀ {j : ℕ}, j ≤ k → ∃ s,
      (system env (flood_callers A B k).incoming).replay (fun _ _ => true) epoch (flood j) = some s ∧
        s.clock = epoch.clock ∧ (∀ n, j ≤ n → s.requests.get? n = none) ∧
        s.counters.get? (key_of (get_client_id env sample_post (some A.identity))
          (⌊epoch.clock⌋.fdiv env.settings.rate_limit_window_seconds)) = counted_so_often j := by
  intro j
  induction j with
  | zero => exact fun _ => ⟨epoch, rfl, rfl, fun _ _ => rfl, rfl⟩
  | succ j ih =>
    intro hj
    obtain ⟨s, hreplay, hclock, hrequests, hcounter⟩ := ih (by omega)
    have hincoming : (flood_callers A B k).incoming j = (sample_post, some A.identity) := by
      rw [Callers.incoming, flood_callers, if_pos (by omega)]
      rfl
    have hflood : flood (j + 1) = flood j ++ [.arrive j, .next j] := by
      rw [flood, List.range_succ, List.flatMap_append]
      rfl
    have hstep : (system env (flood_callers A B k).incoming).step = step env (flood_callers A B k).incoming := rfl
    rw [hflood, TransitionSystem.replay_append, hreplay]
    simp only [Option.bind_some, TransitionSystem.replay, if_true, hstep, step_arrive (hrequests j (le_refl j)), hincoming,
      hclock, arrival_sample_post h hwindow hlimit, step_next_counting (set_requests_self _ _ _)]
    refine ⟨_, rfl, hclock, fun n hn => ?_, ?_⟩
    · rw [get?_set_of_ne (by omega), get?_set_of_ne (by omega)]
      exact hrequests n (by omega)
    · simp only [State.set, hclock]
      exact (get?_incr_counted epoch.clock hcounter).2

/-- The request of `B` is counted with those of `A`. -/
theorem replay_serve (h : Conventional env) (hsubject : A.subject = B.subject)
    (hwindow : env.settings.rate_limit_window_seconds ≠ 0) (hlimit : effective_limit env (.str B.role) = .ok limit)
    {s : State} {j k : ℕ} (hclock : s.clock = epoch.clock) (hrequest : s.requests.get? k = none)
    (hcounter : s.counters.get? (key_of (get_client_id env sample_post (some A.identity))
      (⌊epoch.clock⌋.fdiv env.settings.rate_limit_window_seconds)) = counted_so_often j) :
    ∃ s', (system env (flood_callers A B k).incoming).replay (fun _ _ => true) s (serve k) = some s' ∧
      (s'.requests.get? k).bind Progress.admitted = some (decide (((j + 1 : ℕ) : ℤ) ≤ limit)) := by
  have hclient : get_client_id env sample_post (some A.identity) = get_client_id env sample_post (some B.identity) := by
    rw [get_client_id_identity h.str_str, get_client_id_identity h.str_str, hsubject]
  have hincoming : (flood_callers A B k).incoming k = (sample_post, some B.identity) := by
    rw [Callers.incoming, flood_callers, if_neg (lt_irrefl k)]
    rfl
  obtain ⟨s', hserved, hdecided⟩ := admitted_serve env (flood_callers A B k).incoming hrequest
  refine ⟨s', hserved, ?_⟩
  rw [hincoming, admitted_verdict, hclock, arrival_sample_post h hwindow hlimit, ← hclient] at hdecided
  rw [hdecided, ← (get?_incr_counted epoch.clock hcounter).1]
  rfl

theorem made_by_flood {k : ℕ} : ∀ a ∈ flood k, (flood_callers A B k).made_by A a = true := by
  intro a ha
  obtain ⟨n, hn, ha⟩ := List.mem_flatMap.mp ha
  have hlt := List.mem_range.mp hn
  simp only [List.mem_cons, List.not_mem_nil, or_false] at ha
  obtain rfl | rfl := ha <;> exact decide_eq_true (congrArg some (if_pos hlt))

theorem not_isolated (h : Conventional env) (hsubject : A.subject = B.subject)
    (hwindow : env.settings.rate_limit_window_seconds ≠ 0) {limitA limitB : ℤ}
    (hA : effective_limit env (.str A.role) = .ok limitA) (hB : effective_limit env (.str B.role) = .ok limitB)
    (hpos : 1 ≤ limitB) : ¬ Isolated env A B := by
  intro hisolated
  obtain ⟨s, hflood, hclock, hrequests, hcounter⟩ := replay_flood h hwindow hA (le_refl limitB.toNat)
  obtain ⟨s₁, hserved₁, hdecided₁⟩ := replay_serve h hsubject hwindow hB hclock (hrequests _ (le_refl _)) hcounter
  obtain ⟨s₂, hserved₂, hdecided₂⟩ := replay_serve (s := epoch) (j := 0) h hsubject hwindow hB rfl rfl rfl
  have hreplay₁ : (system env (flood_callers A B limitB.toNat).incoming).replay (fun _ _ => true) epoch
      (flood limitB.toNat ++ serve limitB.toNat) = some s₁ := by
    rw [TransitionSystem.replay_append, hflood]
    exact hserved₁
  have hpurged : (flood limitB.toNat ++ serve limitB.toNat).filter (!(flood_callers A B limitB.toNat).made_by A ·) =
      (serve limitB.toNat).filter (!(flood_callers A B limitB.toNat).made_by A ·) := by
    rw [List.filter_append, List.filter_eq_nil_iff.mpr fun a ha => by simp [made_by_flood a ha], List.nil_append]
  have hmade : (flood_callers A B limitB.toNat limitB.toNat).2 = some B := congrArg some (if_neg (lt_irrefl _))
  have hsame := hisolated _ epoch s₁ s₂ _ _ (epoch_initial _ _) hreplay₁ hserved₂ hpurged _ _ _ hmade hdecided₁ hdecided₂
  have hrejected : ¬ ((limitB.toNat + 1 : ℕ) : ℤ) ≤ limitB := by omega
  have hadmitted : ((0 + 1 : ℕ) : ℤ) ≤ limitB := by omega
  rw [decide_eq_false hrejected, decide_eq_true hadmitted] at hsame
  cases hsame

end Flood

/-- One of two different principals cannot use up the other's quota if their names differ, or
the requests of one of them never count, and else it can. -/
theorem isolated_iff {env : Env} (h : Conventional env) {A B : Principal} (hdistinct : A.Distinct B) :
    Isolated env A B ↔ Unshared env A B := by
  refine ⟨fun hisolated => ?_, isolated_of_unshared h.str_str hdistinct⟩
  by_contra hshared
  simp only [Unshared, not_or, ne_eq, not_not, not_forall, not_lt] at hshared
  obtain ⟨hsubject, hwindow, ⟨limitA, hA⟩, limitB, hB, hpos⟩ := hshared
  exact not_isolated h hsubject hwindow hA hB hpos hisolated

/-- A hundred requests a minute. -/
def sample_limits : Env where
  settings := { rate_limit_requests := 100, rate_limit_window_seconds := 60 }
  valid_netloc _ := true
  str
    | .str s => s
    | _ => ""
  now := 0
  later := 0
  incr _ := .ok 1
  expire _ _ := .ok ()

theorem sample_limits_conventional : Conventional sample_limits := ⟨fun _ => rfl, fun _ _ => rfl⟩

def operator : Principal := .user "operator" "user"

/-- An API key by its name. -/
def device_key (name : String) : Principal := .api_key "01" name "device"

/-- The key of a sensor does not use up the quota of the operator. -/
theorem isolated_sensor_operator : Isolated sample_limits (device_key "sensor") operator := by
  have hdistinct : (device_key "sensor").Distinct operator := trivial
  exact (isolated_iff sample_limits_conventional hdistinct).mpr (.inl (by decide))

/-- An API key that was named after the operator uses up the operator's quota. -/
theorem quota_shared :
    ¬ ∀ (env : Env) (A B : Principal), Conventional env → A.Distinct B → Isolated env A B := by
  intro hclaim
  have hisolated := hclaim sample_limits (device_key "operator") operator sample_limits_conventional trivial
  have hdevice : effective_limit sample_limits (.str (device_key "operator").role) = .ok 200 := by decide +kernel
  have huser : effective_limit sample_limits (.str operator.role) = .ok 100 := by decide +kernel
  have hsubject : (device_key "operator").subject = operator.subject := rfl
  exact not_isolated sample_limits_conventional hsubject (by decide) hdevice huser (by decide) hisolated

end gateway.rate_limiter
