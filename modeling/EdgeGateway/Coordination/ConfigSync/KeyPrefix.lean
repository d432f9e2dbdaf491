import EdgeGateway.Coordination.ConfigSync.Versions

namespace gateway.config_sync

variable {ν : Type} [DecidableEq ν]

/-- A call that runs to its end while nothing else happens. -/
inductive Completes (n : ν) : Redis ν → LocalConfig → Pc → Redis ν → LocalConfig → Prop where
  | last {redis redis' : Redis ν} {config config' : LocalConfig} {pc : Pc} {choice : ScanChoice} {reply : Reply}
      (hexec : execute redis n choice pc = some (redis', reply)) (hresume : resume config pc reply = (config', none)) :
      Completes n redis config pc redis' config'
  | next {redis mid redis' : Redis ν} {config between config' : LocalConfig} {pc pc' : Pc} {choice : ScanChoice} {reply : Reply}
      (hexec : execute redis n choice pc = some (mid, reply)) (hresume : resume config pc reply = (between, some pc'))
      (hrest : Completes n mid between pc' redis' config') : Completes n redis config pc redis' config'

variable {n : ν} {redis redis' : Redis ν} {config config' : LocalConfig}

/-- What `set_config` makes of the store; `none` stands for the error of its INCR. -/
def written (store : RedisKeyspace) (key value : String) : Option (RedisKeyspace × Entry) :=
  (store.incr (version_key key)).map fun (store, version) =>
    (store.set (config_key key) value, { key, value, version })

/-- `set_config` stores the value and a new version, or fails and does nothing. -/
theorem set_config_completes {key value : String} (h : Completes n redis config (start (.set_config key value)) redis' config') :
    (written redis.store key value = none ∧ redis' = redis) ∨
      ∃ store entry, written redis.store key value = some (store, entry) ∧ redis' = publish { redis with store } entry := by
  cases hincr : redis.store.incr (version_key key) with
  | none =>
    refine .inl ⟨by rw [written, hincr]; rfl, ?_⟩
    cases h with
    | last hexec hresume =>
      simp only [start, execute, hincr, Option.some.injEq, Prod.mk.injEq] at hexec
      exact hexec.1.symm
    | next hexec hresume hrest =>
      simp only [start, execute, hincr, Option.some.injEq, Prod.mk.injEq] at hexec
      obtain ⟨_, rfl⟩ := hexec
      cases hresume
  | some counted =>
    obtain ⟨store, version⟩ := counted
    refine .inr ⟨store.set (config_key key) value, { key, value, version }, by rw [written, hincr]; rfl, ?_⟩
    cases h with
    | last hexec hresume =>
      simp only [start, execute, hincr, Option.some.injEq, Prod.mk.injEq] at hexec
      obtain ⟨_, rfl⟩ := hexec
      cases hresume
    | next hexec hresume hrest =>
      simp only [start, execute, hincr, Option.some.injEq, Prod.mk.injEq] at hexec
      obtain ⟨rfl, rfl⟩ := hexec
      cases hresume
      cases hrest with
      | last hexec hresume =>
        cases hexec
        cases hresume
      | next hexec hresume hrest =>
        cases hexec
        cases hresume
        cases hrest with
        | last hexec hresume =>
          cases hexec
          rfl
        | next hexec hresume hrest =>
          cases hexec
          cases hresume

/-- A call of `set_config` always comes to its end. -/
theorem exists_set_config (n : ν) (redis : Redis ν) (config : LocalConfig) (key value : String) :
    ∃ redis' config', Completes n redis config (start (.set_config key value)) redis' config' := by
  let choice : ScanChoice := { keys := [], last := true }
  cases hincr : redis.store.incr (version_key key) with
  | none =>
    have hexec : execute redis n choice (start (.set_config key value)) = some (redis, .error) := by
      simp only [start, execute, hincr]
    exact ⟨_, _, .last hexec rfl⟩
  | some counted =>
    obtain ⟨store, version⟩ := counted
    have hexec : execute redis n choice (start (.set_config key value)) = some ({ redis with store }, .integer version) := by
      simp only [start, execute, hincr]
    let entry : Entry := { key, value, version }
    let stored : Redis ν := { redis with store := store.set (config_key key) value }
    have hset : execute { redis with store } n choice (.set entry) = some (stored, .ok) := rfl
    have hpublish : execute stored n choice (.publish entry) = some (publish stored entry, .ok) := rfl
    exact ⟨_, _, .next hexec rfl (.next hset rfl (.last hpublish rfl))⟩

/-- Neither the value nor the version counter of the key has changed. -/
def Untouched (store store' : RedisKeyspace) (key : String) : Prop :=
  store'.get? (config_key key) = store.get? (config_key key) ∧ store'.get? (version_key key) = store.get? (version_key key)

/-- INCR always changes the text it counts with. -/
theorem get?_incr_ne {store store' : RedisKeyspace} {key : String} {version : ℤ}
    (h : store.incr key = some (store', version)) : store'.get? key ≠ store.get? key := by
  unfold RedisKeyspace.incr at h
  split at h
  · rename_i count hcount
    simp only [Option.ite_none_right_eq_some, Option.some.injEq, Prod.mk.injEq] at h
    obtain ⟨_, rfl, rfl⟩ := h
    rw [Dict.get?_set_self]
    intro heq
    rw [Dict.getD, ← heq, Option.getD_some] at hcount
    unfold RedisKeyspace.integer? at hcount
    split at hcount
    · rename_i read _
      simp only [Option.ite_none_right_eq_some, Bool.and_eq_true, decide_eq_true_eq, Option.some.injEq] at hcount
      obtain ⟨⟨⟨hread, _⟩, _⟩, rfl⟩ := hcount
      have hsame := PyDecimal.toString_int_inj hread
      omega
    · cases hcount
  · cases h

theorem get?_incr_of_ne {store store' : RedisKeyspace} {key other : String} {version : ℤ}
    (h : store.incr key = some (store', version)) (hne : other ≠ key) : store'.get? other = store.get? other := by
  unfold RedisKeyspace.incr at h
  split at h
  · simp only [Option.ite_none_right_eq_some, Option.some.injEq, Prod.mk.injEq] at h
    obtain ⟨_, rfl, rfl⟩ := h
    exact Dict.get?_set_of_ne _ _ hne
  · cases h

theorem untouched_written_iff {store store' : RedisKeyspace} {key key' value : String} {entry : Entry} (hne : key ≠ key')
    (h : written store key value = some (store', entry)) :
    Untouched store store' key' ↔
      key' ≠ "version:" ++ key ∧ (key = "version:" ++ key' → store.get? (version_key key') = some value) := by
  obtain ⟨⟨mid, version⟩, hincr, heq⟩ := Option.map_eq_some_iff.mp h
  cases heq
  have hvalue : (mid.set (config_key key) value).get? (config_key key') = mid.get? (config_key key') :=
    Dict.get?_set_of_ne _ _ fun heq => hne (config_key_inj.mp heq).symm
  have hcounter : mid.get? (version_key key') = store.get? (version_key key') :=
    get?_incr_of_ne hincr fun heq => hne (version_key_inj.mp heq).symm
  have hcounter' : (mid.set (config_key key) value).get? (version_key key') =
      if key = "version:" ++ key' then some value else store.get? (version_key key') := by
    have hsame : version_key key' = config_key key ↔ key = "version:" ++ key' := by
      rw [version_key_eq, config_key_inj]
      exact eq_comm
    simp only [Dict.get?_set, hcounter, hsame]
  rw [Untouched, hvalue, hcounter']
  refine and_congr ?_ ?_
  · by_cases heq : key' = "version:" ++ key
    · subst heq
      rw [← version_key_eq]
      exact iff_of_false (get?_incr_ne hincr) fun h => h rfl
    · refine iff_of_true (get?_incr_of_ne hincr ?_) heq
      rw [version_key_eq, Ne, config_key_inj]
      exact heq
  · by_cases heq : key = "version:" ++ key'
    · rw [if_pos heq]
      exact ⟨fun h _ => h.symm, fun h => (h heq).symm⟩
    · rw [if_neg heq]
      exact iff_of_true rfl fun h => absurd h heq

/-- A call of `set_config` on node `n` leaves the value and the counter of another key alone. -/
def LeavesAlone (n : ν) (redis : Redis ν) (key value key' : String) : Prop :=
  ∀ (config : LocalConfig) (redis' : Redis ν) (config' : LocalConfig),
    Completes n redis config (start (.set_config key value)) redis' config' → Untouched redis.store redis'.store key'

/-- Neither key is the version tracker of the other, the version cannot be counted, or
the value is what the version tracker holds. -/
def Apart (store : RedisKeyspace) (key value key' : String) : Prop :=
  ¬ store.Countable (version_key key) ∨
    (key' ≠ "version:" ++ key ∧ (key = "version:" ++ key' → store.get? (version_key key') = some value))

theorem written_eq_none_iff {store : RedisKeyspace} {key value : String} :
    written store key value = none ↔ ¬ store.Countable (version_key key) := by
  rw [written, Option.map_eq_none_iff, RedisKeyspace.incr_eq_none_iff]

theorem leavesAlone_iff {key key' : String} (hne : key ≠ key') (value : String) :
    LeavesAlone n redis key value key' ↔ Apart redis.store key value key' := by
  cases hwritten : written redis.store key value with
  | none =>
    refine iff_of_true ?_ (.inl (written_eq_none_iff.mp hwritten))
    intro config redis' config' h
    obtain ⟨_, rfl⟩ | ⟨store, entry, hwritten', _⟩ := set_config_completes h
    · exact ⟨rfl, rfl⟩
    · rw [hwritten] at hwritten'
      cases hwritten'
  | some outcome =>
    obtain ⟨store, entry⟩ := outcome
    have hiff := untouched_written_iff hne hwritten
    have hapart : Apart redis.store key value key' ↔ Untouched redis.store store key' := by
      rw [Apart, ← @written_eq_none_iff redis.store key value, hwritten, hiff]
      simp
    rw [hapart]
    constructor
    · intro hall
      obtain ⟨redis', config', hcompletes⟩ := exists_set_config n redis .empty key value
      have huntouched := hall .empty redis' config' hcompletes
      obtain ⟨hnone, _⟩ | ⟨store', entry', hwritten', rfl⟩ := set_config_completes hcompletes
      · rw [hwritten] at hnone
        cases hnone
      · rw [hwritten] at hwritten'
        cases hwritten'
        exact huntouched
    · intro huntouched config redis' config' h
      obtain ⟨hnone, _⟩ | ⟨store', entry', hwritten', rfl⟩ := set_config_completes h
      · rw [hwritten] at hnone
        cases hnone
      · rw [hwritten] at hwritten'
        cases hwritten'
        exact huntouched

end gateway.config_sync
