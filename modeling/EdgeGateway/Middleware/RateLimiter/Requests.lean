import Mathlib.Data.Rat.Floor
import EdgeGateway.Library.RedisKeyspace
import EdgeGateway.Library.PyDecimal
import EdgeGateway.Library.Transition
import EdgeGateway.Middleware.RateLimiter

open gateway.middleware

namespace gateway.rate_limiter

/-- The next thing that a request does about its limit. -/
inductive Stage where
  | incr
  | expire
  | compare
  | decided (admitted : Bool)
deriving DecidableEq

def Stage.decision : Stage → Option Bool
  | .decided admitted => some admitted
  | _ => none

/-- A request that read the clock. -/
structure Pending where
  client_id : String
  limit : ℤ
  window : ℤ
  arrived : ℚ
  /-- The reply to its INCR, and zero before that. -/
  count : ℕ := 0
  stage : Stage := .incr
deriving DecidableEq

def key_of (client_id : String) (window : ℤ) : String := "ratelimit:" ++ client_id ++ ":" ++ toString window

def Pending.key (p : Pending) : String := key_of p.client_id p.window

/-- What has become of a request that arrived. -/
inductive Progress where
  /-- It does not count, or the middleware raises before it asks Redis. -/
  | settled (admitted : Bool)
  | counting (pending : Pending)
deriving DecidableEq

def Progress.admitted : Progress → Option Bool
  | .settled admitted => some admitted
  | .counting pending => pending.stage.decision

variable (env : Env)

/-- What a request works out before it asks Redis. -/
def arrival (request : Request) (user : Option Identity) (clock : ℚ) : Progress :=
  match request.url_path env.valid_netloc with
  | .error _ => .settled false
  | .ok path =>
    if RATE_LIMIT_EXCLUDED.any (fun page => page.toList = path) then .settled true
    else
      match effective_limit env (get_client_role user), current_window { env with now := ⌊clock⌋ } with
      | .ok limit, .ok window =>
        .counting { client_id := get_client_id env request user, limit := limit, window := window, arrived := clock }
      | _, _ => .settled false

/-- The next step of a request, and the counters after it. -/
def Pending.next (p : Pending) (clock : ℚ) (counters : ExpiringCounters) : Pending × ExpiringCounters :=
  match p.stage with
  | .incr =>
    let (counters, current_count) := counters.incr clock p.key
    ({ p with count := current_count, stage := if current_count = 1 then .expire else .compare }, counters)
  | .expire =>
    ({ p with stage := .compare }, counters.expire clock p.key (env.settings.rate_limit_window_seconds + 1))
  | .compare => ({ p with stage := .decided (p.count ≤ p.limit) }, counters)
  | .decided _ => (p, counters)

/-- The requests of a gateway, whose Redis always answers. -/
structure State where
  clock : ℚ
  counters : ExpiringCounters
  requests : Dict ℕ Progress

def State.set (s : State) (n : ℕ) (progress : Progress) (counters : ExpiringCounters) : State :=
  { s with counters := counters, requests := s.requests.set n progress }

inductive Action where
  /-- The request reads the clock. -/
  | arrive (n : ℕ)
  | next (n : ℕ)
  | advance (seconds : ℚ)

/-- The requests that are made, with who makes them. -/
abbrev Incoming := ℕ → Request × Option Identity

variable (incoming : Incoming)

def step (s : State) : Action → Option State
  | .arrive n =>
    match s.requests.get? n with
    | none =>
      let (request, user) := incoming n
      some (s.set n (arrival env request user s.clock) s.counters)
    | some _ => none
  | .next n =>
    match s.requests.get? n with
    | none => none
    | some (.settled _) => some s
    | some (.counting p) =>
      let (p', counters) := p.next env s.clock s.counters
      some (s.set n (.counting p') counters)
  | .advance seconds => if 0 ≤ seconds then some { s with clock := s.clock + seconds } else none

/-- A run starts with no counters, at any instant that is not before the epoch. -/
def system : TransitionSystem State Action where
  initial s := 0 ≤ s.clock ∧ s.counters = .empty ∧ s.requests = .empty
  step := step env incoming

def epoch : State := { clock := 0, counters := .empty, requests := .empty }

variable {env incoming} {s s' : State} {a : Action}

theorem epoch_initial (env : Env) (incoming : Incoming) : (system env incoming).initial epoch := ⟨le_refl 0, rfl, rfl⟩

@[simp] theorem set_requests_self (n : ℕ) (progress : Progress) (counters : ExpiringCounters) :
    (s.set n progress counters).requests.get? n = some progress := Dict.get?_set_self _ _ _

theorem step_arrive {n : ℕ} (h : s.requests.get? n = none) :
    step env incoming s (.arrive n) = some (s.set n (arrival env (incoming n).1 (incoming n).2 s.clock) s.counters) := by
  rw [step, h]

theorem step_next_settled {n : ℕ} {admitted : Bool} (h : s.requests.get? n = some (.settled admitted)) :
    step env incoming s (.next n) = some s := by
  rw [step, h]

theorem step_next_counting {n : ℕ} {p : Pending} (h : s.requests.get? n = some (.counting p)) :
    step env incoming s (.next n) =
      some (s.set n (.counting (p.next env s.clock s.counters).1) (p.next env s.clock s.counters).2) := by
  rw [step, h]

/-- What comes after the last separator, and what comes before it. -/
theorem append_cons_inj_of_not_mem {α : Type} {a : α} {before before' after after' : List α} (hafter : a ∉ after)
    (hafter' : a ∉ after') (h : before ++ a :: after = before' ++ a :: after') : before = before' ∧ after = after' := by
  obtain ⟨mid, rfl, hmid⟩ | ⟨mid, rfl, hmid⟩ := List.append_eq_append_iff.mp h
  · cases mid with
    | nil =>
      rw [List.nil_append, List.cons.injEq] at hmid
      exact ⟨(List.append_nil _).symm, hmid.2⟩
    | cons b mid =>
      rw [List.cons_append, List.cons.injEq] at hmid
      exact absurd (hmid.2 ▸ List.mem_append_right _ List.mem_cons_self) hafter
  · cases mid with
    | nil =>
      rw [List.nil_append, List.cons.injEq] at hmid
      exact ⟨List.append_nil _, hmid.2.symm⟩
    | cons b mid =>
      rw [List.cons_append, List.cons.injEq] at hmid
      exact absurd (hmid.2 ▸ List.mem_append_right _ List.mem_cons_self) hafter'

/-- No two clients share a key, and no client has one key for two windows. -/
theorem key_of_inj {client_id client_id' : String} {window window' : ℤ}
    (h : key_of client_id window = key_of client_id' window') : client_id = client_id' ∧ window = window' := by
  unfold key_of at h
  have hcolon : ∀ n : ℤ, ':' ∉ (toString n).toList := PyDecimal.not_mem_toString rfl (by decide)
  have hlists := congrArg String.toList h
  simp only [String.toList_append, List.append_assoc] at hlists
  obtain ⟨hclient, hwindow⟩ :=
    append_cons_inj_of_not_mem (hcolon window) (hcolon window') (List.append_cancel_left hlists)
  exact ⟨String.toList_inj.mp hclient, PyDecimal.toString_int_inj (String.toList_inj.mp hwindow)⟩

/-- What a step does. -/
theorem step_cases (h : step env incoming s a = some s') :
    (∃ n, a = .arrive n ∧ s.requests.get? n = none ∧
      s' = s.set n (arrival env (incoming n).1 (incoming n).2 s.clock) s.counters) ∨
    (∃ n p, a = .next n ∧ s.requests.get? n = some (.counting p) ∧
      s' = s.set n (.counting (p.next env s.clock s.counters).1) (p.next env s.clock s.counters).2) ∨
    (∃ n admitted, a = .next n ∧ s.requests.get? n = some (.settled admitted) ∧ s' = s) ∨
    ∃ seconds, a = .advance seconds ∧ 0 ≤ seconds ∧ s' = { s with clock := s.clock + seconds } := by
  cases a with
  | arrive n =>
    cases hrequest : s.requests.get? n with
    | none =>
      rw [step_arrive hrequest, Option.some.injEq] at h
      exact .inl ⟨n, rfl, hrequest, h.symm⟩
    | some progress =>
      rw [step, hrequest] at h
      cases h
  | next n =>
    cases hrequest : s.requests.get? n with
    | none =>
      rw [step, hrequest] at h
      cases h
    | some progress =>
      cases progress with
      | settled admitted =>
        rw [step_next_settled hrequest, Option.some.injEq] at h
        exact .inr (.inr (.inl ⟨n, admitted, rfl, hrequest, h.symm⟩))
      | counting p =>
        rw [step_next_counting hrequest, Option.some.injEq] at h
        exact .inr (.inl ⟨n, p, rfl, hrequest, h.symm⟩)
  | advance seconds =>
    simp only [step, Option.ite_none_right_eq_some, Option.some.injEq] at h
    exact .inr (.inr (.inr ⟨seconds, rfl, h.1, h.2.symm⟩))

/-- A request that asks Redis has a limit and a window of its own. -/
theorem arrival_eq_counting {request : Request} {user : Option Identity} {clock : ℚ} {p : Pending}
    (h : arrival env request user clock = .counting p) :
    effective_limit env (get_client_role user) = .ok p.limit ∧
      current_window { env with now := ⌊clock⌋ } = .ok p.window ∧
      p.client_id = get_client_id env request user ∧ p.arrived = clock ∧ p.count = 0 ∧ p.stage = .incr := by
  unfold arrival at h
  split at h
  · cases h
  · split at h
    · cases h
    · split at h
      · rename_i limit window hlimit hwindow
        cases h
        exact ⟨hlimit, hwindow, rfl, rfl, rfl, rfl⟩
      · cases h

theorem counting_set {n m : ℕ} {progress : Progress} {counters : ExpiringCounters} {p : Pending}
    (h : (s.set n progress counters).requests.get? m = some (.counting p)) :
    m = n ∧ progress = .counting p ∨ m ≠ n ∧ s.requests.get? m = some (.counting p) := by
  by_cases hn : m = n
  · subst hn
    rw [set_requests_self, Option.some.injEq] at h
    exact .inl ⟨rfl, h⟩
  · exact .inr ⟨hn, (Dict.get?_set_of_ne _ _ hn).symm.trans h⟩

/-- What holds of every request that arrives, and survives its steps, holds of all of them. -/
theorem forall_pending {ok : State → Action → Prop} {P : ℕ → Pending → Prop}
    (harrival : ∀ n clock p, arrival env (incoming n).1 (incoming n).2 clock = .counting p → P n p)
    (hnext : ∀ n p clock counters, P n p → P n (p.next env clock counters).1)
    (h : (system env incoming).ReachableWhere ok s) : ∀ n p, s.requests.get? n = some (.counting p) → P n p := by
  refine h.invariant (P := fun s => ∀ n p, s.requests.get? n = some (.counting p) → P n p) ?_ ?_
  · rintro s ⟨_, _, hrequests⟩ n p hp
    rw [hrequests] at hp
    cases hp
  · intro s a s' hall _ hstep n p hp
    obtain ⟨m, -, -, rfl⟩ | ⟨m, q, -, hq, rfl⟩ | ⟨m, admitted, -, -, rfl⟩ | ⟨seconds, -, -, rfl⟩ := step_cases hstep
    · obtain ⟨rfl, harrived⟩ | ⟨_, hp⟩ := counting_set hp
      · exact harrival _ _ _ harrived
      · exact hall n p hp
    · obtain ⟨rfl, hserved⟩ | ⟨_, hp⟩ := counting_set hp
      · exact Progress.counting.inj hserved ▸ hnext _ _ _ _ (hall _ q hq)
      · exact hall n p hp
    · exact hall n p hp
    · exact hall n p hp

section Next

variable {p : Pending} {clock : ℚ} {counters : ExpiringCounters}

@[simp] theorem next_client_id : (p.next env clock counters).1.client_id = p.client_id := by
  unfold Pending.next
  split <;> rfl

@[simp] theorem next_limit : (p.next env clock counters).1.limit = p.limit := by
  unfold Pending.next
  split <;> rfl

@[simp] theorem next_window : (p.next env clock counters).1.window = p.window := by
  unfold Pending.next
  split <;> rfl

@[simp] theorem next_arrived : (p.next env clock counters).1.arrived = p.arrived := by
  unfold Pending.next
  split <;> rfl

@[simp] theorem next_key : (p.next env clock counters).1.key = p.key := by
  rw [Pending.key, Pending.key, next_client_id, next_window]

variable (env clock counters)

/-- Once a request is counted, its steps change no value. -/
theorem next_of_ne_incr (h : p.stage ≠ .incr) (key : String) :
    (p.next env clock counters).1.count = p.count ∧ (p.next env clock counters).2.value key = counters.value key := by
  unfold Pending.next
  split
  · contradiction
  · exact ⟨rfl, ExpiringCounters.value_expire⟩
  · exact ⟨rfl, rfl⟩
  · exact ⟨rfl, rfl⟩

theorem next_of_incr (h : p.stage = .incr) :
    (p.next env clock counters).1.count = (counters.incr clock p.key).2 ∧
      (p.next env clock counters).2 = (counters.incr clock p.key).1 := by
  unfold Pending.next
  rw [h]
  exact ⟨rfl, rfl⟩

theorem next_of_decided {admitted : Bool} (h : p.stage = .decided admitted) :
    p.next env clock counters = (p, counters) := by
  unfold Pending.next
  rw [h]

/-- A step of a request leaves the other keys alone. -/
theorem get?_next_of_ne {key : String} (h : key ≠ p.key) : (p.next env clock counters).2.get? key = counters.get? key := by
  unfold Pending.next
  split
  · exact ExpiringCounters.get?_incr_of_ne h
  · exact ExpiringCounters.get?_expire_of_ne h
  · rfl
  · rfl

/-- A step of a request depends on what its key holds only. -/
theorem next_congr {counters' : ExpiringCounters} (h : counters.get? p.key = counters'.get? p.key) :
    (p.next env clock counters).1 = (p.next env clock counters').1 ∧
      (p.next env clock counters).2.get? p.key = (p.next env clock counters').2.get? p.key := by
  unfold Pending.next
  split
  · obtain ⟨hreply, hget⟩ := ExpiringCounters.incr_congr clock h
    simp only [hreply, hget, and_self]
  · exact ⟨rfl, ExpiringCounters.expire_congr h⟩
  · exact ⟨rfl, h⟩
  · exact ⟨rfl, h⟩

end Next

/-- A request that is past its INCR is counted, and is admitted within its limit only. -/
theorem pending_sound {ok : State → Action → Prop} (h : (system env incoming).ReachableWhere ok s) {n : ℕ} {p : Pending}
    (hp : s.requests.get? n = some (.counting p)) :
    (p.stage ≠ .incr → 0 < p.count) ∧ (p.stage = .decided true → (p.count : ℤ) ≤ p.limit) := by
  refine forall_pending (P := fun _ p => (p.stage ≠ .incr → 0 < p.count) ∧ (p.stage = .decided true → (p.count : ℤ) ≤ p.limit))
    ?_ ?_ h n p hp
  · intro n clock p harrived
    obtain ⟨-, -, -, -, -, hstage⟩ := arrival_eq_counting harrived
    rw [hstage]
    exact ⟨fun hne => absurd rfl hne, fun h => by cases h⟩
  · intro n p clock counters hsound
    cases hstage : p.stage with
    | incr =>
      simp only [Pending.next, hstage]
      refine ⟨fun _ => ExpiringCounters.incr_pos _ _ _, ?_⟩
      split <;> rintro ⟨⟩
    | expire =>
      simp only [Pending.next, hstage]
      exact ⟨fun _ => hsound.1 (by rw [hstage]; rintro ⟨⟩), by rintro ⟨⟩⟩
    | compare =>
      simp only [Pending.next, hstage, Stage.decided.injEq, decide_eq_true_eq]
      exact ⟨fun _ => hsound.1 (by rw [hstage]; rintro ⟨⟩), fun hle => hle⟩
    | decided admitted =>
      simp only [Pending.next, hstage]
      rwa [hstage] at hsound

/-- The limit of a request is the one of the role that makes it. -/
theorem pending_limit {ok : State → Action → Prop} (h : (system env incoming).ReachableWhere ok s) {n : ℕ} {p : Pending}
    (hp : s.requests.get? n = some (.counting p)) : effective_limit env (get_client_role (incoming n).2) = .ok p.limit := by
  refine forall_pending (P := fun n p => effective_limit env (get_client_role (incoming n).2) = .ok p.limit) ?_ ?_ h n p hp
  · exact fun n clock p harrived => (arrival_eq_counting harrived).1
  · intro n p clock counters hlimit
    rwa [next_limit]

/-- The count of a request, and zero if it has none. -/
def State.count (s : State) (n : ℕ) : ℕ :=
  match s.requests.get? n with
  | some (.counting p) => p.count
  | _ => 0

theorem count_eq {n : ℕ} {p : Pending} (h : s.requests.get? n = some (.counting p)) : s.count n = p.count := by
  rw [State.count, h]

/-- The window of a request, and zero if it has none. -/
def State.window (s : State) (n : ℕ) : ℤ :=
  match s.requests.get? n with
  | some (.counting p) => p.window
  | _ => 0

theorem window_eq {n : ℕ} {p : Pending} (h : s.requests.get? n = some (.counting p)) : s.window n = p.window := by
  rw [State.window, h]

/-- The steps of a request, none of which waits. -/
def serve (n : ℕ) : List Action := [.arrive n, .next n, .next n, .next n]

/-- The Redis of a state, as a request finds it that does not wait. -/
def Env.at (env : Env) (s : State) : Env :=
  { env with
    now := ⌊s.clock⌋
    incr := fun key => .ok (s.counters.incr s.clock key).2
    expire := fun _ _ => .ok () }

/-- Three steps after its arrival a request is decided. -/
theorem stage_next_next_next {p : Pending} (h : p.stage = .incr) (clock : ℚ) (counters : ExpiringCounters) :
    let first := p.next env clock counters
    let second := first.1.next env clock first.2
    (second.1.next env clock second.2).1.stage = .decided ((counters.incr clock p.key).2 ≤ p.limit) := by
  simp only [Pending.next, h]
  by_cases hone : (counters.incr clock p.key).2 = 1
  · simp only [if_pos hone]
  · simp only [if_neg hone]

/-- What the middleware decides for a request that does not wait. -/
theorem admitted_verdict (s : State) (request : Request) (user : Option Identity) :
    (verdict (env.at s) request user).admitted =
      match arrival env request user s.clock with
      | .settled admitted => admitted
      | .counting p => decide ((s.counters.incr s.clock p.key).2 ≤ p.limit) := by
  have hlimit : effective_limit (env.at s) = effective_limit env := rfl
  have hwindow : current_window (env.at s) = current_window { env with now := ⌊s.clock⌋ } := rfl
  have hpath : request.url_path (env.at s).valid_netloc = request.url_path env.valid_netloc := rfl
  unfold verdict arrival
  rw [hlimit, hwindow, hpath]
  cases request.url_path env.valid_netloc with
  | error e => rfl
  | ok path =>
    dsimp only
    split
    · rfl
    · cases effective_limit env (get_client_role user) with
      | error e => rfl
      | ok limit =>
        cases current_window { env with now := ⌊s.clock⌋ } with
        | error e => rfl
        | ok window =>
          have hexpiry : ∀ key count, set_expiry (env.at s) key count = .ok () := fun key count => ite_self _
          have hincr : ∀ key, (env.at s).incr key = .ok (s.counters.incr s.clock key).2 := fun _ => rfl
          simp only [count_request, hincr, hexpiry]
          change (if ((s.counters.incr s.clock (key_of (get_client_id env request user) window)).2 : ℤ) > limit then _ else _ :
            Verdict).admitted = _
          split
          · rename_i hover
            exact (decide_eq_false (not_le.mpr hover)).symm
          · rename_i hwithin
            exact (decide_eq_true (not_lt.mp hwithin)).symm

/-- A request that does not wait is decided as the middleware decides it. -/
theorem admitted_serve (env : Env) (incoming : Incoming) {n : ℕ} (h : s.requests.get? n = none) :
    ∃ s', (system env incoming).replay (fun _ _ => true) s (serve n) = some s' ∧
      (s'.requests.get? n).bind Progress.admitted =
        some (verdict (env.at s) (incoming n).1 (incoming n).2).admitted := by
  have hstep : (system env incoming).step = step env incoming := rfl
  simp only [serve, TransitionSystem.replay, if_true, hstep, step_arrive h, Option.bind_some, admitted_verdict]
  cases harrival : arrival env (incoming n).1 (incoming n).2 s.clock with
  | settled admitted =>
    simp only [step_next_settled (set_requests_self _ _ _), Option.bind_some]
    exact ⟨_, rfl, by rw [set_requests_self]; rfl⟩
  | counting p =>
    obtain ⟨-, -, -, -, -, hstage⟩ := arrival_eq_counting harrival
    simp only [step_next_counting (set_requests_self _ _ _), Option.bind_some]
    refine ⟨_, rfl, ?_⟩
    rw [set_requests_self, Option.bind_some]
    exact congrArg Stage.decision (stage_next_next_next hstage s.clock s.counters)

end gateway.rate_limiter
