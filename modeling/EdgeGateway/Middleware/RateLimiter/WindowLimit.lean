import Mathlib.Data.Finset.Card
import Mathlib.Order.Interval.Finset.Nat
import EdgeGateway.Middleware.RateLimiter.Requests

open gateway.middleware

namespace gateway.rate_limiter

/-- No INCR of the step starts a counter again that has expired. -/
def finds_counter (s : State) : Action → Bool
  | .next n =>
    match s.requests.get? n with
    | some (.counting p) => p.stage ≠ .incr || decide (s.counters.Unexpired s.clock p.key)
    | _ => true
  | _ => true

/-- The requests of a key have different counts, of which the counter has the largest. -/
structure Numbered (s : State) : Prop where
  count_le : ∀ n p, s.requests.get? n = some (.counting p) → p.count ≤ s.counters.value p.key
  injective : ∀ n m p q, s.requests.get? n = some (.counting p) → s.requests.get? m = some (.counting q) →
    p.key = q.key → p.count = q.count → 0 < p.count → n = m

variable {env : Env} {incoming : Incoming} {s : State}

/-- A request whose count is not that of any other may join them. -/
theorem Numbered.set {n : ℕ} {progress : Progress} {counters : ExpiringCounters} (h : Numbered s)
    (hvalue : ∀ key, s.counters.value key ≤ counters.value key)
    (hcount : ∀ p, progress = .counting p → p.count ≤ counters.value p.key)
    (hfresh : ∀ p m q, progress = .counting p → m ≠ n → s.requests.get? m = some (.counting q) → p.key = q.key →
      0 < p.count → p.count ≠ q.count) :
    Numbered (s.set n progress counters) := by
  constructor
  · intro m p hp
    obtain ⟨-, hprogress⟩ | ⟨-, hp⟩ := counting_set hp
    · exact hcount p hprogress
    · exact (h.count_le m p hp).trans (hvalue _)
  · intro m k p q hp hq hkey heq hpos
    obtain ⟨rfl, hserved⟩ | ⟨hm, hp'⟩ := counting_set hp
    · obtain ⟨rfl, -⟩ | ⟨hk, hq'⟩ := counting_set hq
      · rfl
      · exact absurd heq (hfresh p k q hserved hk hq' hkey hpos)
    · obtain ⟨rfl, hserved⟩ | ⟨-, hq'⟩ := counting_set hq
      · exact absurd heq.symm (hfresh q m p hserved hm hp' hkey.symm (heq ▸ hpos))
      · exact h.injective m k p q hp' hq' hkey heq hpos

theorem Numbered.next {n : ℕ} {p : Pending} (h : Numbered s) (hp : s.requests.get? n = some (.counting p))
    (hfinds : p.stage = .incr → s.counters.Unexpired s.clock p.key) :
    Numbered (s.set n (.counting (p.next env s.clock s.counters).1) (p.next env s.clock s.counters).2) := by
  by_cases hstage : p.stage = .incr
  · obtain ⟨hcount, hcounters⟩ := next_of_incr env s.clock s.counters hstage
    have hreply := ExpiringCounters.incr_of_unexpired (hfinds hstage)
    have hvalue := ExpiringCounters.incr_snd s.counters s.clock p.key
    refine h.set ?_ ?_ ?_
    · intro key
      rw [hcounters]
      by_cases hkey : key = p.key
      · rw [hkey]
        omega
      · exact (ExpiringCounters.value_incr_of_ne hkey).ge
    · rintro q ⟨⟩
      rw [hcount, hcounters, next_key, hvalue]
    · rintro _ m q ⟨⟩ hm hq hkey _
      -- Every other request of the key was counted before.
      have hle := h.count_le m q hq
      rw [next_key] at hkey
      rw [← hkey] at hle
      omega
  · have hsame := next_of_ne_incr env s.clock s.counters hstage
    refine h.set ?_ ?_ ?_
    · intro key
      exact (hsame key).2.ge
    · rintro q ⟨⟩
      rw [(hsame p.key).1, next_key, (hsame p.key).2]
      exact h.count_le n p hp
    · rintro _ m q ⟨⟩ hm hq hkey hpos heq
      rw [(hsame p.key).1] at heq hpos
      rw [next_key] at hkey
      exact hm (h.injective n m p q hp hq hkey heq hpos).symm

theorem numbered_of_reachable {ok : State → Action → Prop} (hok : ∀ s a, ok s a → finds_counter s a)
    (h : (system env incoming).ReachableWhere ok s) : Numbered s := by
  refine h.invariant ?_ ?_
  · rintro s ⟨_, _, hrequests⟩
    constructor
    · intro n p hp
      rw [hrequests] at hp
      cases hp
    · intro n m p q hp
      rw [hrequests] at hp
      cases hp
  · intro s a s' hnumbered hfinds hstep
    replace hfinds := hok s a hfinds
    obtain ⟨n, -, -, rfl⟩ | ⟨n, p, rfl, hp, rfl⟩ | ⟨n, admitted, -, -, rfl⟩ | ⟨seconds, -, -, rfl⟩ := step_cases hstep
    · refine hnumbered.set (fun _ => le_refl _) ?_ ?_
      · intro p harrived
        rw [(arrival_eq_counting harrived).2.2.2.2.1]
        exact Nat.zero_le _
      · intro p m q harrived _ _ _ hpos
        rw [(arrival_eq_counting harrived).2.2.2.2.1] at hpos
        exact absurd hpos (lt_irrefl 0)
    · refine hnumbered.next hp fun hstage => ?_
      simpa [finds_counter, hp, hstage] using hfinds
    · exact hnumbered
    · exact ⟨hnumbered.count_le, hnumbered.injective⟩

/-- A request with that client and role was admitted by the counter of that window. -/
def Admitted (incoming : Incoming) (s : State) (client_id : String) (role : JsonValue) (window : ℤ) (n : ℕ) : Prop :=
  get_client_role (incoming n).2 = role ∧
    ∃ p, s.requests.get? n = some (.counting p) ∧ p.client_id = client_id ∧ p.window = window ∧ p.stage = .decided true

section Admitted

variable {ok : State → Action → Prop} {client_id : String} {role : JsonValue} {limit window : ℤ} {n m : ℕ}

/-- An admitted request has a count within the limit. -/
theorem Admitted.count_mem (h : (system env incoming).ReachableWhere ok s) (hlimit : effective_limit env role = .ok limit)
    (hn : Admitted incoming s client_id role window n) : s.count n ∈ Finset.Icc 1 limit.toNat := by
  obtain ⟨rfl, p, hp, -, -, hstage⟩ := hn
  obtain ⟨hcounted, hwithin⟩ := pending_sound h hp
  have hpos := hcounted (by rw [hstage]; rintro ⟨⟩)
  have hle := hwithin hstage
  have heq : p.limit = limit := Except.ok.inj ((pending_limit h hp).symm.trans hlimit)
  rw [count_eq hp, Finset.mem_Icc]
  omega

/-- No two of them have the same count. -/
theorem Admitted.eq_of_count_eq (hnumbered : Numbered s) (hpos : 0 < s.count n)
    (hn : Admitted incoming s client_id role window n) (hm : Admitted incoming s client_id role window m)
    (heq : s.count n = s.count m) : n = m := by
  obtain ⟨-, p, hp, rfl, rfl, -⟩ := hn
  obtain ⟨-, q, hq, hclient, hwindow, -⟩ := hm
  rw [count_eq hp] at hpos heq
  rw [count_eq hq] at heq
  exact hnumbered.injective n m p q hp hq (by rw [Pending.key, Pending.key, hclient, hwindow]) heq hpos

/-- So as many of them as have their counts among some numbers are at most as many as these. -/
theorem Admitted.card_le (hnumbered : Numbered s) {admitted counts : Finset ℕ}
    (hadmitted : ∀ n ∈ admitted, Admitted incoming s client_id role window n) (hcounts : ∀ n ∈ admitted, s.count n ∈ counts)
    (hpos : ∀ count ∈ counts, 0 < count) : admitted.card ≤ counts.card := by
  refine Finset.card_le_card_of_injOn s.count hcounts ?_
  intro n hn m hm heq
  exact Admitted.eq_of_count_eq hnumbered (hpos _ (hcounts n hn)) (hadmitted n hn) (hadmitted m hm) heq

end Admitted

/-- However the requests of a client are delayed and interleaved, those that computed the same
window are admitted within its limit, as long as none of them finds the counter expired. -/
theorem window_limit (h : (system env incoming).ReachableWhere (fun s a => finds_counter s a) s) {client_id : String}
    {role : JsonValue} {limit window : ℤ} (hlimit : effective_limit env role = .ok limit) {admitted : Finset ℕ}
    (hadmitted : ∀ n ∈ admitted, Admitted incoming s client_id role window n) : admitted.card ≤ limit.toNat := by
  have hnumbered := numbered_of_reachable (fun _ _ hfinds => hfinds) h
  have hcard := Admitted.card_le hnumbered hadmitted (fun n hn => (hadmitted n hn).count_mem h hlimit)
    (fun count hcount => (Finset.mem_Icc.mp hcount).1)
  rwa [Nat.card_Icc, Nat.add_sub_cancel] at hcard

/-- One request a minute. -/
def one_a_minute : Env := { first_in_window with settings := { rate_limit_requests := 1, rate_limit_window_seconds := 60 } }

/-- All requests are made by one client, that is not authenticated. -/
def sample_incoming : Incoming := fun _ => (sample_post, none)

theorem effective_limit_one_a_minute : effective_limit one_a_minute (.str "user") = .ok 1 := by decide +kernel

def Progress.admitted_in (client_id : String) (window : ℤ) : Progress → Bool
  | .settled _ => false
  | .counting p => p.client_id = client_id && p.window = window && p.stage = .decided true

theorem Admitted.of_any {client_id : String} {role : JsonValue} {window : ℤ} {n : ℕ}
    (hrole : get_client_role (incoming n).2 = role) (h : (s.requests.get? n).any (Progress.admitted_in client_id window) = true) :
    Admitted incoming s client_id role window n := by
  obtain ⟨progress, hprogress, hadmitted⟩ := (Option.any_eq_true _ _).mp h
  cases progress with
  | settled _ => cases hadmitted
  | counting p =>
    simp only [Progress.admitted_in, Bool.and_eq_true, decide_eq_true_eq] at hadmitted
    exact ⟨hrole, p, hprogress, hadmitted.1.1, hadmitted.1.2, hadmitted.2⟩

/-- One of two requests is admitted. -/
theorem window_limit_two_requests :
    ∃ s, (system one_a_minute sample_incoming).Reachable s ∧ (s.requests.get? 1).bind Progress.admitted = some false ∧
      Admitted sample_incoming s "ip:10.0.0.7" (.str "user") 0 0 ∧ ({0} : Finset ℕ).card ≤ (1 : ℤ).toNat := by
  obtain ⟨s, hreach, htest⟩ := TransitionSystem.exists_of_replay (fun s a => finds_counter s a = true) finds_counter
    (fun _ _ h => h) (epoch_initial one_a_minute sample_incoming)
    [.arrive 0, .arrive 1, .next 0, .next 1, .next 1, .next 0, .next 0]
    (fun s => (s.requests.get? 0).any (Progress.admitted_in "ip:10.0.0.7" 0) &&
      (s.requests.get? 1).bind Progress.admitted = some false)
    (by decide +kernel)
  simp only [Bool.and_eq_true, decide_eq_true_eq] at htest
  have hadmitted : Admitted sample_incoming s "ip:10.0.0.7" (.str "user") 0 0 := .of_any rfl htest.1
  refine ⟨s, hreach.mono fun _ _ _ _ => trivial, htest.2, hadmitted, ?_⟩
  exact window_limit hreach effective_limit_one_a_minute fun n hn => (Finset.mem_singleton.mp hn).symm ▸ hadmitted

/-- The second request reads the clock together with the first one, and asks Redis when the
counter has expired that the first one started. -/
theorem window_limit_exceeded :
    ¬ ∀ (env : Env) (incoming : Incoming) (s : State), (system env incoming).Reachable s →
      ∀ (client_id : String) (role : JsonValue) (limit window : ℤ), effective_limit env role = .ok limit →
        ∀ admitted : Finset ℕ, (∀ n ∈ admitted, Admitted incoming s client_id role window n) →
          admitted.card ≤ limit.toNat := by
  intro hclaim
  obtain ⟨s, hreach, htest⟩ := TransitionSystem.exists_of_replay (fun _ _ => True) (fun _ _ => true)
    (fun _ _ _ => trivial) (epoch_initial one_a_minute sample_incoming)
    [.arrive 0, .arrive 1, .next 0, .next 0, .next 0, .advance 61, .next 1, .next 1, .next 1]
    (fun s => (s.requests.get? 0).any (Progress.admitted_in "ip:10.0.0.7" 0) &&
      (s.requests.get? 1).any (Progress.admitted_in "ip:10.0.0.7" 0))
    (by decide +kernel)
  simp only [Bool.and_eq_true] at htest
  have hcard := hclaim one_a_minute sample_incoming s hreach "ip:10.0.0.7" (.str "user") 1 0 effective_limit_one_a_minute
    {0, 1} (by
      intro n hn
      obtain rfl | hn := Finset.mem_insert.mp hn
      · exact .of_any rfl htest.1
      · exact Finset.mem_singleton.mp hn ▸ .of_any rfl htest.2)
  exact absurd hcard (by decide)

end gateway.rate_limiter
