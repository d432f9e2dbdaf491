import Mathlib.Data.Int.Order.Basic
import EdgeGateway.Coordination.ConfigSync.Versions

namespace gateway.config_sync

variable {ν : Type} [DecidableEq ν]

omit [DecidableEq ν] in
/-- A suspended call of node `n` has fetched the entry's version and will store it
without another look at the cache. -/
def Holds (s : State ν) (n : ν) (entry : Entry) : Prop :=
  ∃ t, s.TaskAt t n (Writing entry) ∨ s.TaskAt t n (Holding entry)

/-- An entry goes into the cache of a node only while no suspended call of that
node holds an older version of the key. -/
def StoresInOrder (K : ConfigKeys) (s : State ν) (a : Action ν) : Prop :=
  OnKeys K a ∧ ∀ n entry, Stores s a n entry →
    ∀ held, Holds s n held → held.key = entry.key → entry.version ≤ held.version

variable {K : ConfigKeys} {s s' : State ν}

theorem get_local_set_local (config : LocalConfig) (entry : Entry) (key : String) :
    get_local (set_local config entry) key =
      if key = entry.key then (entry.value, entry.version) else get_local config key :=
  Dict.getD_set config entry.key key (entry.value, entry.version) ("", 0)

omit [DecidableEq ν] in
/-- A cached version is behind the counter of its key. -/
theorem Bounded.get_local_le (hb : Bounded K s) (n : ν) (key : String) :
    (get_local (s.node n) key).2 ≤ version_count s.server.store key := by
  cases hget : (s.node n).get? key with
  | none =>
    rw [get_local, Dict.getD, hget]
    exact Int.natCast_nonneg _
  | some pair =>
    have hfits := hb.carries { key, value := pair.1, version := pair.2 } (.inl ⟨n, hget⟩)
    rw [get_local, Dict.getD, hget]
    exact hfits.2.2

omit [DecidableEq ν] in
theorem Quiet.holds (hq : Quiet s s') {n : ν} {entry : Entry} (h : Holds s' n entry) : Holds s n entry := by
  obtain ⟨t, hwriting | hholding⟩ := h
  · exact ⟨t, .inl ((hq.writing t n entry).mp hwriting)⟩
  · exact ⟨t, .inr (hq.holding t n entry hholding)⟩

omit [DecidableEq ν] in
/-- A version that a call newly holds is the one its counter shows after the fetch. -/
theorem Loud.holds {t : ℕ} (h : Loud s t s') (hb : Bounded K s)
    (hincr_key : ∀ t task, s.tasks t = some task → ∀ key value, task.pc = .incr key value → key ∈ K.keys)
    {n : ν} {entry : Entry} (hheld : Holds s' n entry) :
    Holds s n entry ∨ (entry.version = version_count s'.server.store entry.key) := by
  obtain ⟨u, hheld⟩ := hheld
  cases h with
  | @incr m key value store version htask hincr =>
    have hkey := hincr_key t _ htask key value rfl
    obtain ⟨rfl, rfl⟩ := RedisKeyspace.incr_counter (hb.counts key hkey) hincr
    obtain hheld | hheld := hheld
    · obtain ⟨_, _, rfl⟩ | ⟨_, hold⟩ := hheld.update_cases rfl
      · refine .inr ?_
        rw [version_count_incr, if_pos rfl]
      · exact .inl ⟨u, .inl hold⟩
    · obtain ⟨_, _, hnew⟩ | ⟨_, hold⟩ := hheld.update_cases rfl
      · cases hnew
      · exact .inl ⟨u, .inr hold⟩
  | @set m written htask =>
    obtain hheld | hheld := hheld
    · obtain ⟨_, _, hnew⟩ | ⟨_, hold⟩ := hheld.update_cases rfl
      · cases hnew
      · exact .inl ⟨u, .inl hold⟩
    · obtain ⟨_, hnode, hnew⟩ | ⟨_, hold⟩ := hheld.update_cases rfl
      · exact .inl ⟨t, .inl ⟨_, htask, hnode, hnew⟩⟩
      · exact .inl ⟨u, .inr hold⟩
  | @get_value m raw_key value batch htask hvalue =>
    obtain hheld | hheld := hheld
    · obtain ⟨_, _, hnew⟩ | ⟨_, hold⟩ := hheld.update_cases rfl
      · cases hnew
      · exact .inl ⟨u, .inl hold⟩
    · obtain ⟨_, _, hnew⟩ | ⟨_, hold⟩ := hheld.update_cases rfl
      · cases hnew
      · exact .inl ⟨u, .inr hold⟩
  | @get_version m raw_key value batch htask =>
    obtain ⟨hkey, hpos⟩ := hb.reading t m (short_key raw_key) value ⟨_, htask, rfl, rfl, rfl⟩
    obtain hheld | hheld := hheld
    · obtain ⟨_, _, hnew⟩ | ⟨_, hold⟩ := hheld.update_cases rfl
      · cases hnew
      · exact .inl ⟨u, .inl hold⟩
    · obtain ⟨_, _, heq, _, hversion⟩ | ⟨_, hold⟩ := hheld.update_cases rfl
      · rw [read_version_get hpos (hb.counts _ hkey), Option.some.injEq] at hversion
        exact .inr (by rw [← heq, ← hversion])
      · exact .inl ⟨u, .inr hold⟩

omit [DecidableEq ν] in
theorem Loud.node {t : ℕ} (h : Loud s t s') : s'.node = s.node := by
  cases h <;> rfl

/-- No call of a node holds a version older than the one the node has cached. -/
theorem cached_le_held (h : system.ReachableWhere (StoresInOrder K) s) :
    ∀ n entry, Holds s n entry → (get_local (s.node n) entry.key).2 ≤ entry.version := by
  refine TransitionSystem.ReachableWhere.invariant_of
    (P := fun s => ∀ n entry, Holds s n entry → (get_local (s.node n) entry.key).2 ≤ entry.version)
    (Q := system.ReachableWhere (StoresInOrder K)) (fun s hs => hs) ?_ ?_ h
  · rintro s hs n entry ⟨t, hheld | hheld⟩
    · exact absurd hheld (initial_taskAt hs)
    · exact absurd hheld (initial_taskAt hs)
  · intro s a s' hreach hinv hok hstep n entry hheld
    have hb : Bounded K s := reachable_bounded (fun _ _ hok => hok.1) hreach
    have hb' : Bounded K s' := reachable_bounded (fun _ _ hok => hok.1) (hreach.step hok hstep)
    obtain hquiet | ⟨t, choice, rfl, hloud⟩ := quiet_or_loud (no_orphans hreach) hstep
    · have hold := hquiet.holds hheld
      obtain hsame | ⟨stored, hstores, hset⟩ := node_step (no_orphans hreach) hstep n
      · rw [hsame]
        exact hinv n entry hold
      · rw [hset, get_local_set_local]
        split
        · rename_i hkey
          exact hok.2 n stored hstores entry hold hkey
        · exact hinv n entry hold
    · obtain hold | hnew := hloud.holds hb (incr_key (fun _ _ hok => hok.1) hreach) hheld
      · rw [hloud.node]
        exact hinv n entry hold
      · -- A version fetched just now is not behind what any node has cached.
        rw [hnew]
        exact hb'.get_local_le n entry.key

/-- One step of such a run does not lower a cached version. -/
theorem step_version_le (h : system.ReachableWhere (StoresInOrder K) s) {a : Action ν}
    (hstep : system.step s a = some s') (n : ν) (key : String) :
    (get_local (s.node n) key).2 ≤ (get_local (s'.node n) key).2 := by
  obtain hsame | ⟨stored, hstores, hset⟩ := node_step (no_orphans h) hstep n
  · rw [hsame]
  · rw [hset, get_local_set_local]
    split
    · rename_i hkey
      rw [hkey]
      cases hstores with
      | resume htask => exact cached_le_held h n stored ⟨_, .inr htask⟩
      | deliver _ hnewer => exact Int.le_of_lt hnewer
      | SyncConfig _ hnewer => exact Int.le_of_lt hnewer
    · exact Int.le_refl _

/-- In a run in which no cache write overtakes a call of the same node with an older
version in hand, the version a node has cached for a key never decreases. -/
theorem local_version_never_decreases (h : system.ReachableWhere (StoresInOrder K) s)
    (hsteps : system.StepsWhere (StoresInOrder K) s s') (n : ν) (key : String) :
    (get_local (s.node n) key).2 ≤ (get_local (s'.node n) key).2 :=
  hsteps.monotone (f := fun s => (get_local (s.node n) key).2)
    (fun _ _ _ hreach _ hstep => step_version_le hreach hstep n key) h

omit [DecidableEq ν] in
theorem Holding.version_unique {pc : Pc} {reply : Option Reply} {entry entry' : Entry}
    (h : Holding entry pc reply) (h' : Holding entry' pc reply) : entry.version = entry'.version := by
  unfold Holding at h h'
  split at h
  · rw [← h, ← h']
  · exact Option.some.inj (h.2.2.symm.trans h'.2.2)
  · cases h

/-- Calls that follow one another, without messages, store in order. -/
theorem OneCaller.storesInOrder
    (h : system.ReachableWhere (fun _ a => OneCaller K a ∧ ∀ e, a ≠ .event e) s) {a : Action ν}
    (hcaller : OneCaller K a) (hevent : ∀ e, a ≠ .event e) : StoresInOrder K s a := by
  refine ⟨hcaller.1, fun n entry hstores held hheld _ => ?_⟩
  cases hstores with
  | @resume t _ _ htask =>
    obtain ⟨task, htask, _, hholding⟩ := htask
    obtain ⟨u, hheld⟩ := hheld
    have hsame : ∀ {C}, s.TaskAt u n C → C task.pc task.reply :=
      OneCaller.same_task (h.mono fun _ _ _ hcaller => hcaller.1) htask
    obtain hheld | hheld := hheld
    · exact absurd hholding (hsame hheld).not_holding
    · exact Int.le_of_eq (hholding.version_unique (hsame hheld))
  | deliver _ _ => exact absurd rfl (hevent _)
  | SyncConfig _ _ => exact absurd rfl (hevent _)

/-- One caller sets a key twice. -/
theorem local_version_never_decreases_twice :
    ∃ s s' : State ℕ, (get_local (s.node 0) "rate").2 = 1 ∧ (get_local (s'.node 0) "rate").2 = 2 ∧
      ∀ key, (get_local (s.node 0) key).2 ≤ (get_local (s'.node 0) key).2 := by
  obtain ⟨s, hreach, htest⟩ := TransitionSystem.exists_of_replay
    (fun _ a => OneCaller rate_only a ∧ ∀ e, a ≠ .event e)
    (fun _ a => match a with
      | .event _ => false
      | a => one_rate_caller a)
    (fun s a hallow => by cases a <;> first | exact ⟨one_rate_caller_ok hallow, by simp⟩ | cases hallow)
    (s := (idle : State ℕ)) idle_initial
    [.call 0 0 (.set_config "rate" "5"), .exec 0 ⟨[], false⟩, .resume 0, .exec 0 ⟨[], false⟩, .resume 0,
      .exec 0 ⟨[], false⟩, .resume 0, .call 0 0 (.set_config "rate" "9"), .exec 0 ⟨[], false⟩, .resume 0,
      .exec 0 ⟨[], false⟩]
    (fun s => (get_local (s.node 0) "rate").2 = 1 ∧
      s.tasks 0 = some { node := 0, pc := .set ⟨"rate", "9", 2⟩, reply := some .ok })
    (by decide)
  obtain ⟨hversion, htask⟩ := of_decide_eq_true htest
  have hordered : system.ReachableWhere (StoresInOrder rate_only) s :=
    hreach.mono fun _ _ hs hcaller => hcaller.1.storesInOrder hs hcaller.2
  obtain ⟨s', hstep⟩ : ∃ s', system.step s (.resume 0) = some s' := by
    simp [system, AsyncProtocol.system, AsyncProtocol.step, htask]
  have hcaller : OneCaller rate_only (.resume 0 : Action ℕ) := one_rate_caller_ok rfl
  have hle := local_version_never_decreases hordered
    (.step .refl (hcaller.storesInOrder hreach (by simp)) hstep) 0
  obtain ⟨n, pc, reply, htask', rfl⟩ := step_resume (no_orphans hreach) hstep
  rw [htask] at htask'
  cases htask'
  exact ⟨s, _, hversion, by simp [resume, get_local_set_local], hle⟩

/-- Two `set_config` calls of node 0 overlap: the second one gets version 2 and stores
it first, then the first one overwrites it with version 1. -/
theorem overlapping_set_config_lowers_version :
    ¬ ∀ (s s' : State ℕ) (n : ℕ) (key : String), system.Reachable s →
      system.StepsWhere (fun _ _ => True) s s' →
      (get_local (s.node n) key).2 ≤ (get_local (s'.node n) key).2 := by
  intro hclaim
  obtain ⟨s, hreach, htest⟩ := TransitionSystem.exists_of_replay (fun _ _ => True)
    (fun _ _ => true) (fun _ _ _ => trivial) (s := (idle : State ℕ)) idle_initial
    [.call 0 0 (.set_config "rate" "5"), .call 1 0 (.set_config "rate" "9"), .exec 0 ⟨[], false⟩,
      .exec 1 ⟨[], false⟩, .resume 1, .exec 1 ⟨[], false⟩, .resume 1, .resume 0, .exec 0 ⟨[], false⟩]
    (fun s => (get_local (s.node 0) "rate").2 = 2 ∧
      s.tasks 0 = some { node := 0, pc := .set ⟨"rate", "5", 1⟩, reply := some .ok })
    (by decide)
  obtain ⟨hversion, htask⟩ := of_decide_eq_true htest
  obtain ⟨s', hstep⟩ : ∃ s', system.step s (.resume 0) = some s' := by
    simp [system, AsyncProtocol.system, AsyncProtocol.step, htask]
  have hle := hclaim s s' 0 "rate" hreach (.step .refl trivial hstep)
  obtain ⟨n, pc, reply, htask', rfl⟩ := step_resume (no_orphans hreach) hstep
  rw [htask] at htask'
  cases htask'
  rw [hversion] at hle
  exact absurd hle (by simp [resume, get_local_set_local])

end gateway.config_sync
