import Mathlib.Data.Finset.Max
import Mathlib.Tactic.Linarith
import EdgeGateway.Middleware.RateLimiter.WindowLimit

open gateway.middleware

namespace gateway.rate_limiter

/-- No time passes while a request is undecided. -/
def instant (s : State) : Action → Bool
  | .advance _ => s.requests.values.all fun progress => progress.admitted.isSome
  | _ => true

/-- A request that got its count in the window before. -/
def Pending.follows (p : Pending) (q : Pending) : Bool :=
  q.client_id = p.client_id && q.window = p.window - 1 && 0 < q.count

/-- How many requests of the client are within the limit in the window before. -/
def State.admitted_before (s : State) (p : Pending) : ℤ :=
  min p.limit (s.counters.value (key_of p.client_id (p.window - 1)))

/-- `q` is one of the requests that `p`, being the one with that count, leaves no room for. -/
def State.crowded_out (s : State) (p : Pending) (count : ℕ) (q : Pending) : Bool :=
  p.follows q && decide ((q.count : ℤ) + p.limit ≤ s.admitted_before p + count)

variable (env : Env)

/-- A request that is counted within the limit comes a whole window after those of the window
before that it leaves no room for. -/
def spaced (s : State) : Action → Bool
  | .next n =>
    match s.requests.get? n with
    | some (.counting p) =>
      p.stage ≠ .incr || p.limit ≤ s.counters.value p.key ||
        s.requests.values.all fun progress =>
          match progress with
          | .counting q =>
            !s.crowded_out p (s.counters.value p.key + 1) q ||
              decide (q.arrived + env.settings.rate_limit_window_seconds ≤ s.clock)
          | .settled _ => true
    | _ => true
  | _ => true

variable {env} {incoming : Incoming} {s : State} {n : ℕ} {p : Pending}

section Clock

/-- The request arrived within its window. -/
structure Pending.InWindow (env : Env) (p : Pending) : Prop where
  start_le : (p.window * env.settings.rate_limit_window_seconds : ℚ) ≤ p.arrived
  lt_stop : p.arrived < (p.window + 1) * env.settings.rate_limit_window_seconds

theorem inWindow {ok : State → Action → Prop} (h : (system env incoming).ReachableWhere ok s)
    (hwindow : 0 < env.settings.rate_limit_window_seconds) (hp : s.requests.get? n = some (.counting p)) : p.InWindow env := by
  refine forall_pending (P := fun _ p => p.InWindow env) ?_ ?_ h n p hp
  · intro n clock p harrived
    obtain ⟨-, hcurrent, -, rfl, -, -⟩ := arrival_eq_counting harrived
    unfold current_window at hcurrent
    dsimp only at hcurrent
    rw [if_neg hwindow.ne', Except.ok.injEq, Int.fdiv_eq_ediv_of_nonneg _ hwindow.le] at hcurrent
    have hle := Int.ediv_mul_le ⌊p.arrived⌋ hwindow.ne'
    have hlt := Int.lt_ediv_add_one_mul_self ⌊p.arrived⌋ hwindow
    rw [hcurrent] at hle hlt
    constructor
    · calc (p.window * env.settings.rate_limit_window_seconds : ℚ) ≤ ⌊p.arrived⌋ := by exact_mod_cast hle
        _ ≤ p.arrived := Int.floor_le _
    · have hnext : ⌊p.arrived⌋ + 1 ≤ (p.window + 1) * env.settings.rate_limit_window_seconds := hlt
      calc p.arrived < ⌊p.arrived⌋ + 1 := Int.lt_floor_add_one _
        _ ≤ (p.window + 1) * env.settings.rate_limit_window_seconds := by exact_mod_cast hnext
  · intro n p clock counters hin
    constructor
    · rw [next_window, next_arrived]
      exact hin.start_le
    · rw [next_window, next_arrived]
      exact hin.lt_stop

/-- What holds of the requests and the counters when no request waits. -/
structure Prompt (env : Env) (s : State) : Prop where
  arrived_le : ∀ n p, s.requests.get? n = some (.counting p) → p.arrived ≤ s.clock
  undecided : ∀ n p, s.requests.get? n = some (.counting p) → p.stage.decision = none → p.arrived = s.clock
  expires_at : ∀ client_id window counter t, s.counters.get? (key_of client_id window) = some counter →
    counter.expires_at = some t → ((window + 1) * env.settings.rate_limit_window_seconds : ℚ) + 1 ≤ t

/-- The request that starts a counter does so in its window, and the counter outlasts that. -/
theorem expires_at_next (hp : s.requests.get? n = some (.counting p)) (hprompt : Prompt env s)
    (hin : p.InWindow env)
    (client_id : String) (window : ℤ) (counter : ExpiringCounter) (t : ℚ)
    (hcounter : (p.next env s.clock s.counters).2.get? (key_of client_id window) = some counter)
    (ht : counter.expires_at = some t) : ((window + 1) * env.settings.rate_limit_window_seconds : ℚ) + 1 ≤ t := by
  cases hstage : p.stage with
  | incr =>
    rw [(next_of_incr env s.clock s.counters hstage).2] at hcounter
    obtain ⟨old, hold, hexpires⟩ := ExpiringCounters.expires_at_incr hcounter ht
    exact hprompt.expires_at client_id window old t hold hexpires
  | expire =>
    simp only [Pending.next, hstage] at hcounter
    obtain ⟨hkey, rfl⟩ | ⟨old, hold, hexpires⟩ := ExpiringCounters.expires_at_expire hcounter ht
    · obtain ⟨-, rfl⟩ := key_of_inj hkey
      have hnow := hprompt.undecided n p hp (by rw [hstage]; rfl)
      have hle := hin.start_le
      rw [hnow] at hle
      push_cast
      linarith
    · exact hprompt.expires_at client_id window old t hold hexpires
  | compare =>
    simp only [Pending.next, hstage] at hcounter
    exact hprompt.expires_at client_id window counter t hcounter ht
  | decided admitted =>
    simp only [Pending.next, hstage] at hcounter
    exact hprompt.expires_at client_id window counter t hcounter ht

theorem Prompt.set (h : Prompt env s) {progress : Progress} {counters : ExpiringCounters}
    (hrequest : ∀ q, progress = .counting q → q.arrived ≤ s.clock ∧ (q.stage.decision = none → q.arrived = s.clock))
    (hcounters : ∀ client_id window counter t, counters.get? (key_of client_id window) = some counter →
      counter.expires_at = some t → ((window + 1) * env.settings.rate_limit_window_seconds : ℚ) + 1 ≤ t) :
    Prompt env (s.set n progress counters) := by
  refine ⟨?_, ?_, hcounters⟩
  · intro m q hq
    obtain ⟨-, hset⟩ | ⟨-, hold⟩ := counting_set hq
    · exact (hrequest q hset).1
    · exact h.arrived_le m q hold
  · intro m q hq hnone
    obtain ⟨-, hset⟩ | ⟨-, hold⟩ := counting_set hq
    · exact (hrequest q hset).2 hnone
    · exact h.undecided m q hold hnone

theorem Prompt.next (h : Prompt env s) (hp : s.requests.get? n = some (.counting p))
    (hin : p.InWindow env) :
    Prompt env (s.set n (.counting (p.next env s.clock s.counters).1) (p.next env s.clock s.counters).2) := by
  refine h.set ?_ (expires_at_next hp h hin)
  rintro _ ⟨⟩
  rw [next_arrived]
  refine ⟨h.arrived_le n p hp, fun hnone => h.undecided n p hp ?_⟩
  cases hstage : p.stage with
  | decided admitted =>
    rw [next_of_decided _ _ _ hstage, hstage] at hnone
    exact hnone
  | _ => rfl

/-- Time passes for decided requests only. -/
theorem Prompt.advance (h : Prompt env s) {seconds : ℚ} (hseconds : 0 ≤ seconds)
    (hinstant : instant s (.advance seconds) = true) : Prompt env { s with clock := s.clock + seconds } := by
  refine ⟨?_, ?_, h.expires_at⟩
  · intro m q hq
    exact (h.arrived_le m q hq).trans (le_add_of_nonneg_right hseconds)
  · intro m q hq hnone
    have hdecided := List.all_eq_true.mp hinstant _ (Dict.mem_values_iff.mpr ⟨m, hq⟩)
    rw [Progress.admitted, hnone] at hdecided
    cases hdecided

theorem prompt_of_initial (h : (system env incoming).initial s) : Prompt env s := by
  obtain ⟨_, hcounters, hrequests⟩ := h
  constructor
  · intro n p hp
    rw [hrequests] at hp
    cases hp
  · intro n p hp
    rw [hrequests] at hp
    cases hp
  · intro client_id window counter t hcounter
    rw [hcounters] at hcounter
    cases hcounter

theorem prompt_of_reachable {ok : State → Action → Prop} (hok : ∀ s a, ok s a → instant s a)
    (hwindow : 0 < env.settings.rate_limit_window_seconds) (h : (system env incoming).ReachableWhere ok s) :
    Prompt env s := by
  refine h.invariant_of (fun s hreach n p hp => inWindow (n := n) (p := p) hreach hwindow hp)
    (fun s hinit => prompt_of_initial hinit) ?_
  intro s a s' hwindows hprompt hinstant hstep
  replace hinstant := hok s a hinstant
  obtain ⟨n, -, -, rfl⟩ | ⟨n, p, -, hp, rfl⟩ | ⟨n, admitted, -, -, rfl⟩ | ⟨seconds, rfl, hseconds, rfl⟩ :=
    step_cases hstep
  · refine hprompt.set (fun q hq => ?_) hprompt.expires_at
    have harrived : q.arrived = s.clock := (arrival_eq_counting hq).2.2.2.1
    exact ⟨harrived.le, fun _ => harrived⟩
  · exact hprompt.next hp (hwindows n p hp)
  · exact hprompt
  · exact hprompt.advance hseconds hinstant

theorem Prompt.unexpired (hprompt : Prompt env s) (hp : s.requests.get? n = some (.counting p))
    (hundecided : p.stage.decision = none)
    (hin : p.InWindow env) :
    s.counters.Unexpired s.clock p.key := by
  unfold ExpiringCounters.Unexpired
  cases hcounter : s.counters.get? p.key with
  | none => rfl
  | some counter =>
    rw [Option.all_some, ExpiringCounter.live]
    cases ht : counter.expires_at with
    | none => rfl
    | some t =>
      have hexpires := hprompt.expires_at p.client_id p.window counter t hcounter ht
      have hlt := hin.lt_stop
      rw [hprompt.undecided n p hp hundecided] at hlt
      exact decide_eq_true (by linarith)

/-- So no request finds its counter expired. -/
theorem finds_counter_of_instant {ok : State → Action → Prop} (hok : ∀ s a, ok s a → instant s a)
    (hwindow : 0 < env.settings.rate_limit_window_seconds) (h : (system env incoming).ReachableWhere ok s) :
    (system env incoming).ReachableWhere (fun s a => finds_counter s a) s := by
  refine h.mono fun s a hreach _ => ?_
  have hprompt := prompt_of_reachable hok hwindow hreach
  cases a with
  | next n =>
    cases hrequest : s.requests.get? n with
    | none => rw [finds_counter, hrequest]
    | some progress =>
      cases progress with
      | settled _ => rw [finds_counter, hrequest]
      | counting p =>
        rw [finds_counter, hrequest]
        by_cases hstage : p.stage = .incr
        · simp only [hstage, ne_eq, not_true_eq_false, decide_false, Bool.false_or, decide_eq_true_eq]
          exact hprompt.unexpired hrequest (by rw [hstage]; rfl) (inWindow hreach hwindow hrequest)
        · simp [hstage]
  | _ => rfl

end Clock

/-- What the condition says of the requests that have arrived so far. -/
def Spread (env : Env) (s : State) : Prop :=
  ∀ n p m q, s.requests.get? n = some (.counting p) → s.requests.get? m = some (.counting q) →
    0 < p.count → (p.count : ℤ) ≤ p.limit → s.crowded_out p p.count q →
      q.arrived + env.settings.rate_limit_window_seconds ≤ p.arrived

theorem crowded_out_iff {count : ℕ} {q : Pending} :
    s.crowded_out p count q ↔
      q.client_id = p.client_id ∧ q.window = p.window - 1 ∧ 0 < q.count ∧
        (q.count : ℤ) + p.limit ≤ s.admitted_before p + count := by
  simp only [State.crowded_out, Pending.follows, Bool.and_eq_true, decide_eq_true_eq, and_assoc]

/-- A request of the window after this one has not arrived yet. -/
theorem not_follows {m : ℕ} {q : Pending} (hprompt : Prompt env s)
    (hwindows : ∀ n p, s.requests.get? n = some (.counting p) → p.InWindow env)
    (hp : s.requests.get? n = some (.counting p)) (hq : s.requests.get? m = some (.counting q))
    (hundecided : q.stage.decision = none) : q.window ≠ p.window - 1 := by
  intro hbefore
  have hnow := hprompt.undecided m q hq hundecided
  have hpast := hprompt.arrived_le n p hp
  have hin := (hwindows n p hp).start_le
  have hout := (hwindows m q hq).lt_stop
  rw [hbefore, hnow] at hout
  push_cast at hout
  rw [sub_add_cancel] at hout
  linarith

theorem spread_initial (h : s.requests = .empty) : Spread env s := by
  intro n p m q hp
  rw [h] at hp
  cases hp

theorem Spread.arrive (h : Spread env s) {progress : Progress}
    (hnew : ∀ p, progress = .counting p → p.count = 0) : Spread env (s.set n progress s.counters) := by
  intro k p m q hp hq hpos hwithin hcrowded
  obtain ⟨-, hserved⟩ | ⟨-, hp'⟩ := counting_set hp
  · rw [hnew p hserved] at hpos
    exact absurd hpos (lt_irrefl 0)
  · obtain ⟨-, hserved⟩ | ⟨-, hq'⟩ := counting_set hq
    · obtain ⟨-, -, hcount, -⟩ := crowded_out_iff.mp hcrowded
      rw [hnew q hserved] at hcount
      exact absurd hcount (lt_irrefl 0)
    · exact h k p m q hp' hq' hpos hwithin hcrowded

/-- Past its INCR, a request is to the others what it was. -/
theorem Spread.next_of_ne_incr (h : Spread env s) (hp : s.requests.get? n = some (.counting p)) (hstage : p.stage ≠ .incr) :
    Spread env (s.set n (.counting (p.next env s.clock s.counters).1) (p.next env s.clock s.counters).2) := by
  have hsame := rate_limiter.next_of_ne_incr env s.clock s.counters hstage
  have hold : ∀ m q, (s.set n (.counting (p.next env s.clock s.counters).1)
      (p.next env s.clock s.counters).2).requests.get? m = some (.counting q) →
      ∃ q', s.requests.get? m = some (.counting q') ∧ q.client_id = q'.client_id ∧ q.window = q'.window ∧
        q.limit = q'.limit ∧ q.arrived = q'.arrived ∧ q.count = q'.count := by
    intro m q hq
    obtain ⟨rfl, hserved⟩ | ⟨-, hq'⟩ := counting_set hq
    · cases hserved
      exact ⟨p, hp, next_client_id, next_window, next_limit, next_arrived, (hsame "").1⟩
    · exact ⟨q, hq', rfl, rfl, rfl, rfl, rfl⟩
  intro k p₁ m q₁ hp₁ hq₁ hpos hwithin hcrowded
  obtain ⟨p₀, hp₀, hclient, hwindow, hlimit, harrived, hcount⟩ := hold k p₁ hp₁
  obtain ⟨q₀, hq₀, hclient', hwindow', -, harrived', hcount'⟩ := hold m q₁ hq₁
  rw [crowded_out_iff, State.admitted_before] at hcrowded
  simp only [State.set, (hsame _).2, hclient, hwindow, hlimit, hcount, hclient', hwindow', hcount'] at hcrowded
  rw [hcount] at hpos
  rw [hcount, hlimit] at hwithin
  rw [harrived, harrived']
  exact h k p₀ m q₀ hp₀ hq₀ hpos hwithin (crowded_out_iff.mpr hcrowded)

theorem key_of_before_ne (p : Pending) : key_of p.client_id (p.window - 1) ≠ p.key := by
  intro hkey
  have hwindow := (key_of_inj hkey).2
  omega

/-- What the condition of an INCR within the limit says of another request. -/
theorem arrived_of_spaced {m : ℕ} {q : Pending} (hspaced : spaced env s (.next n))
    (hp : s.requests.get? n = some (.counting p)) (hstage : p.stage = .incr) (hroom : s.counters.value p.key < p.limit)
    (hq : s.requests.get? m = some (.counting q)) (hcrowded : s.crowded_out p (s.counters.value p.key + 1) q = true) :
    q.arrived + env.settings.rate_limit_window_seconds ≤ s.clock := by
  simp only [spaced, hp, hstage, ne_eq, not_true_eq_false, decide_false, Bool.false_or, Bool.or_eq_true,
    decide_eq_true_eq, List.all_eq_true] at hspaced
  obtain hfull | hall := hspaced
  · omega
  · have hq := hall _ (Dict.mem_values_iff.mpr ⟨m, hq⟩)
    simp only [Bool.or_eq_true, Bool.not_eq_true', decide_eq_true_eq] at hq
    obtain hfree | hspaced := hq
    · exact absurd hcrowded (Bool.eq_false_iff.mp hfree)
    · exact hspaced

/-- An INCR that meets the condition keeps it for the request and for the others. -/
theorem Spread.next_of_incr (h : Spread env s) (hp : s.requests.get? n = some (.counting p)) (hstage : p.stage = .incr)
    (hunexpired : s.counters.Unexpired s.clock p.key) (hnow : p.arrived = s.clock) (hspaced : spaced env s (.next n))
    (hfirst : ∀ m q, s.requests.get? m = some (.counting q) → p.window ≠ q.window - 1) :
    Spread env (s.set n (.counting (p.next env s.clock s.counters).1) (p.next env s.clock s.counters).2) := by
  obtain ⟨hcount, hcounters⟩ := rate_limiter.next_of_incr env s.clock s.counters hstage
  rw [ExpiringCounters.incr_of_unexpired hunexpired] at hcount
  have hvalue : ∀ q : Pending, key_of q.client_id (q.window - 1) ≠ p.key →
      (p.next env s.clock s.counters).2.value (key_of q.client_id (q.window - 1)) =
        s.counters.value (key_of q.client_id (q.window - 1)) := by
    intro q hkey
    rw [hcounters, ExpiringCounters.value_incr_of_ne hkey]
  intro k p₁ m q₁ hp₁ hq₁ hpos hwithin hcrowded
  rw [crowded_out_iff, State.admitted_before] at hcrowded
  simp only [State.set] at hcrowded
  obtain ⟨rfl, hserved⟩ | ⟨-, hp₀⟩ := counting_set hp₁
  · cases hserved
    rw [next_client_id, next_window, next_limit, hvalue p (key_of_before_ne p), hcount] at hcrowded
    obtain ⟨hm, hserved⟩ | ⟨-, hq₀⟩ := counting_set hq₁
    · cases hserved
      have hwindow := hcrowded.2.1
      rw [next_window] at hwindow
      omega
    · -- The condition of the step is about this pair.
      rw [next_arrived, hnow]
      rw [hcount, next_limit] at hwithin
      push_cast at hwithin
      exact arrived_of_spaced hspaced hp hstage (by omega) hq₀ (crowded_out_iff.mpr hcrowded)
  · obtain ⟨-, hserved⟩ | ⟨-, hq₀⟩ := counting_set hq₁
    · cases hserved
      have hwindow := hcrowded.2.1
      rw [next_window] at hwindow
      exact absurd hwindow (hfirst k p₁ hp₀)
    · have hkey : key_of p₁.client_id (p₁.window - 1) ≠ p.key := fun hkey => hfirst k p₁ hp₀ (key_of_inj hkey).2.symm
      rw [hvalue p₁ hkey] at hcrowded
      exact h k p₁ m q₁ hp₀ hq₀ hpos hwithin (crowded_out_iff.mpr hcrowded)

theorem spread_of_reachable {ok : State → Action → Prop} (hinstant : ∀ s a, ok s a → instant s a)
    (hspaced : ∀ s a, ok s a → spaced env s a) (hwindow : 0 < env.settings.rate_limit_window_seconds)
    (h : (system env incoming).ReachableWhere ok s) : Spread env s := by
  have hwindows : ∀ s, (system env incoming).ReachableWhere ok s → ∀ n p, s.requests.get? n = some (.counting p) →
      p.InWindow env := fun s hreach n p hp => inWindow hreach hwindow hp
  refine h.invariant_of (fun s hreach => And.intro (hwindows s hreach) (prompt_of_reachable hinstant hwindow hreach)) ?_ ?_
  · rintro s ⟨_, _, hrequests⟩
    exact spread_initial hrequests
  · rintro s a s' ⟨hwindows, hprompt⟩ hspread hok hstep
    obtain ⟨n, -, -, rfl⟩ | ⟨n, p, rfl, hp, rfl⟩ | ⟨n, admitted, -, -, rfl⟩ | ⟨seconds, -, -, rfl⟩ := step_cases hstep
    · exact hspread.arrive fun p harrived => (arrival_eq_counting harrived).2.2.2.2.1
    · by_cases hstage : p.stage = .incr
      · have hundecided : p.stage.decision = none := by
          rw [hstage]
          rfl
        exact hspread.next_of_incr hp hstage (hprompt.unexpired hp hundecided (hwindows n p hp))
          (hprompt.undecided n p hp hundecided) (hspaced s _ hok)
          fun m q hq => not_follows hprompt hwindows hq hp hundecided
      · exact hspread.next_of_ne_incr hp hstage
    · exact hspread
    · exact hspread

/-- A request with that client and role, which arrived in the interval, was admitted. -/
def AdmittedBetween (incoming : Incoming) (s : State) (client_id : String) (role : JsonValue) (start stop : ℚ) (n : ℕ) :
    Prop :=
  get_client_role (incoming n).2 = role ∧
    ∃ p, s.requests.get? n = some (.counting p) ∧ p.client_id = client_id ∧ start ≤ p.arrived ∧ p.arrived < stop ∧
      p.stage = .decided true

section AdmittedBetween

variable {ok : State → Action → Prop} {client_id : String} {role : JsonValue} {limit : ℤ} {start : ℚ} {m : ℕ}

theorem AdmittedBetween.admitted {stop : ℚ} (hn : AdmittedBetween incoming s client_id role start stop n) :
    Admitted incoming s client_id role (s.window n) n := by
  obtain ⟨hrole, p, hp, hclient, -, -, hstage⟩ := hn
  exact ⟨hrole, p, hp, hclient, (window_eq hp).symm, hstage⟩

/-- The interval meets two windows at most. -/
theorem AdmittedBetween.window_cases (h : (system env incoming).ReachableWhere ok s)
    (hwindow : 0 < env.settings.rate_limit_window_seconds)
    (hn : AdmittedBetween incoming s client_id role start (start + env.settings.rate_limit_window_seconds) n)
    (hm : AdmittedBetween incoming s client_id role start (start + env.settings.rate_limit_window_seconds) m)
    (hle : s.window m ≤ s.window n) : s.window m = s.window n ∨ s.window m = s.window n - 1 := by
  obtain ⟨-, p, hp, -, -, hstop, -⟩ := hn
  obtain ⟨-, q, hq, -, hstart, -, -⟩ := hm
  rw [window_eq hp, window_eq hq] at hle ⊢
  have hbegin := (inWindow h hwindow hp).start_le
  have hend := (inWindow h hwindow hq).lt_stop
  have hpos : (0 : ℚ) < env.settings.rate_limit_window_seconds := by exact_mod_cast hwindow
  have hless : (p.window : ℚ) * env.settings.rate_limit_window_seconds <
      (q.window + 2) * env.settings.rate_limit_window_seconds := by
    linarith
  have hless := lt_of_mul_lt_mul_right hless hpos.le
  have hless : p.window < q.window + 2 := by exact_mod_cast hless
  omega

/-- The counts of the window before lie above those that are crowded out. -/
theorem AdmittedBetween.count_mem_before (h : (system env incoming).ReachableWhere ok s) (hnumbered : Numbered s)
    (hspread : Spread env s) (hlimit : effective_limit env role = .ok limit)
    (hn : AdmittedBetween incoming s client_id role start (start + env.settings.rate_limit_window_seconds) n)
    (hm : AdmittedBetween incoming s client_id role start (start + env.settings.rate_limit_window_seconds) m)
    (hbefore : s.window m = s.window n - 1) (hp : s.requests.get? n = some (.counting p)) :
    s.count m ∈ Finset.Icc (max 1 (s.admitted_before p + s.count n + 1 - limit).toNat) (s.admitted_before p).toNat := by
  have hcount := hn.admitted.count_mem h hlimit
  have hcount' := hm.admitted.count_mem h hlimit
  obtain ⟨hrole, p', hp', hclient, -, hstop, -⟩ := hn
  obtain ⟨-, q, hq, hclient', hstart, -, -⟩ := hm
  rw [hp, Option.some.injEq, Progress.counting.injEq] at hp'
  subst hp'
  have hlimit' : p.limit = limit := Except.ok.inj ((pending_limit h hp).symm.trans (hrole ▸ hlimit))
  rw [window_eq hp, window_eq hq] at hbefore
  rw [count_eq hp, Finset.mem_Icc] at hcount
  rw [count_eq hq, Finset.mem_Icc] at hcount'
  have hvalue := hnumbered.count_le m q hq
  rw [Pending.key, hclient', hbefore, ← hclient] at hvalue
  have hcrowded : ¬ (q.count : ℤ) + p.limit ≤ s.admitted_before p + p.count := by
    intro hle
    have hspaced := hspread n p m q hp hq (by omega) (by omega)
      (crowded_out_iff.mpr ⟨hclient'.trans hclient.symm, hbefore, by omega, hle⟩)
    linarith
  have hwithin : (q.count : ℤ) ≤ s.admitted_before p := by
    rw [State.admitted_before, le_min_iff]
    exact ⟨by omega, by exact_mod_cast hvalue⟩
  rw [count_eq hp, count_eq hq, Finset.mem_Icc]
  omega

end AdmittedBetween

def Progress.admitted_between (client_id : String) (start stop : ℚ) : Progress → Bool
  | .settled _ => false
  | .counting p => p.client_id = client_id && decide (start ≤ p.arrived) && decide (p.arrived < stop) &&
      p.stage = .decided true

theorem AdmittedBetween.of_any {client_id : String} {role : JsonValue} {start stop : ℚ}
    (hrole : get_client_role (incoming n).2 = role)
    (h : (s.requests.get? n).any (Progress.admitted_between client_id start stop) = true) :
    AdmittedBetween incoming s client_id role start stop n := by
  obtain ⟨progress, hprogress, hadmitted⟩ := (Option.any_eq_true _ _).mp h
  cases progress with
  | settled _ => cases hadmitted
  | counting p =>
    simp only [Progress.admitted_between, Bool.and_eq_true, decide_eq_true_eq] at hadmitted
    obtain ⟨⟨⟨hclient, hstart⟩, hstop⟩, hstage⟩ := hadmitted
    exact ⟨hrole, p, hprogress, hclient, hstart, hstop, hstage⟩

end gateway.rate_limiter
