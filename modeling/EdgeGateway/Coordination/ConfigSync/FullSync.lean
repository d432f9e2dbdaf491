import EdgeGateway.Coordination.ConfigSync.KeyPrefix
import Mathlib.Data.List.Induction

namespace gateway.config_sync

variable {ν : Type} [DecidableEq ν]

/-- The key does not read as the version tracker of another one. -/
def Plain (key : String) : Prop := starts_with "version:" key = false

/-- No plain key is the version tracker of another. -/
def plain_keys : ConfigKeys where
  keys := {key | Plain key}
  apart := by
    intro key _ hmem
    have hplain : Plain ("version:" ++ key) := hmem
    have htracker : starts_with "version:" ("version:" ++ key) = true := by
      rw [starts_with, String.toList_append, List.isPrefixOf_iff_prefix]
      exact List.prefix_append _ _
    rw [Plain, htracker] at hplain
    cases hplain

/-- The filter of `sync_from_leader` takes exactly the plain keys. -/
theorem starts_with_config_key (key : String) :
    starts_with VERSION_PREFIX (config_key key) = starts_with "version:" key := by
  rw [Bool.eq_iff_iff, starts_with, starts_with, VERSION_PREFIX, config_key, String.toList_append, String.toList_append,
    List.isPrefixOf_iff_prefix, List.isPrefixOf_iff_prefix]
  exact List.prefix_append_right_inj _

/-- What the keys that were set hold. -/
def latest (entries : List Entry) : LocalConfig := entries.foldl set_local .empty

theorem latest_append (entries : List Entry) (entry : Entry) : latest (entries ++ [entry]) = set_local (latest entries) entry :=
  List.foldl_append

/-- A sequence of `set_config` calls, each of which waits for the one before it, on
any nodes; `entries` are those that did not fail. -/
inductive After : List Entry → Redis ν → Prop where
  | empty : After [] .empty
  | failed {entries : List Entry} {redis redis' : Redis ν} {n : ν} {config config' : LocalConfig} {key value : String}
      (hprev : After entries redis) (hcall : Completes n redis config (start (.set_config key value)) redis' config')
      (hwritten : written redis.store key value = none) : After entries redis'
  | set {entries : List Entry} {redis redis' : Redis ν} {n : ν} {config config' : LocalConfig} {key value : String}
      {store : RedisKeyspace} {entry : Entry}
      (hprev : After entries redis) (hcall : Completes n redis config (start (.set_config key value)) redis' config')
      (hwritten : written redis.store key value = some (store, entry)) : After (entries ++ [entry]) redis'

/-- A full sync on a fresh node comes to its end, and whenever it does the node has
cached the keys that were set, each with its last value and version. -/
def SyncsExactly (n : ν) (redis : Redis ν) (entries : List Entry) : Prop :=
  (∃ redis' config', Completes n redis .empty (start .sync_from_leader) redis' config') ∧
    ∀ (redis' : Redis ν) (config' : LocalConfig), Completes n redis .empty (start .sync_from_leader) redis' config' →
      ∀ key, config'.get? key = (latest entries).get? key

section Store

/-- An induction over the calls that succeed, on what they make of the store. -/
theorem After.store_induction {P : List Entry → RedisKeyspace → Prop} (hempty : P [] .empty)
    (hset : ∀ entries store store' key value entry, P entries store → written store key value = some (store', entry) →
      P (entries ++ [entry]) store') {entries : List Entry} {redis : Redis ν} (h : After entries redis) :
    P entries redis.store := by
  induction h with
  | empty => exact hempty
  | failed hprev hcall hwritten ih =>
    obtain ⟨_, rfl⟩ | ⟨store, entry, hsome, _⟩ := set_config_completes hcall
    · exact ih
    · rw [hwritten] at hsome
      cases hsome
  | set hprev hcall hwritten ih =>
    obtain ⟨hnone, _⟩ | ⟨store, entry, hsome, rfl⟩ := set_config_completes hcall
    · rw [hwritten] at hnone
      cases hnone
    · rw [hwritten] at hsome
      cases hsome
      exact hset _ _ _ _ _ _ ih hwritten

/-- Every Redis key is the one of some config key. -/
def Prefixed (store : RedisKeyspace) : Prop := ∀ raw_key ∈ store.keys, ∃ key, raw_key = config_key key

theorem mem_keys_written {store store' : RedisKeyspace} {key value : String} {entry : Entry}
    (h : written store key value = some (store', entry)) {raw_key : String} (hmem : raw_key ∈ store'.keys) :
    raw_key = config_key key ∨ raw_key = version_key key ∨ raw_key ∈ store.keys := by
  obtain ⟨⟨mid, version⟩, hincr, heq⟩ := Option.map_eq_some_iff.mp h
  cases heq
  obtain rfl | hmid := Dict.mem_keys_set.mp hmem
  · exact .inl rfl
  · by_cases hkey : raw_key = version_key key
    · exact .inr (.inl hkey)
    · refine .inr (.inr ?_)
      obtain ⟨text, htext⟩ := Dict.mem_keys_iff.mp hmid
      rw [get?_incr_of_ne hincr hkey] at htext
      exact Dict.mem_keys_iff.mpr ⟨text, htext⟩

theorem After.prefixed {entries : List Entry} {redis : Redis ν} (h : After entries redis) : Prefixed redis.store := by
  refine h.store_induction (P := fun _ store => Prefixed store) ?_ ?_
  · intro raw_key hmem
    cases hmem
  · intro entries store store' key value entry ih hwritten raw_key hmem
    obtain rfl | rfl | hold := mem_keys_written hwritten hmem
    · exact ⟨key, rfl⟩
    · exact ⟨_, version_key_eq key⟩
    · exact ih raw_key hold

/-- The plain keys that were set are stored with their last value and version. -/
structure Stored (entries : List Entry) (store : RedisKeyspace) : Prop where
  counter : ∀ key, Plain key → ∃ count, store.get? (version_key key) = RedisKeyspace.counter count ∧
    ∀ value version, (latest entries).get? key = some (value, version) → 0 < count ∧ version = count
  value : ∀ key, Plain key → store.get? (config_key key) = ((latest entries).get? key).map Prod.fst
  plain : ∀ key, ((latest entries).get? key).isSome → Plain key

theorem Stored.written {entries : List Entry} {store store' : RedisKeyspace} {key value : String} {entry : Entry}
    (h : Stored entries store) (hwritten : config_sync.written store key value = some (store', entry)) (hkey : Plain key) :
    Stored (entries ++ [entry]) store' := by
  obtain ⟨⟨mid, version⟩, hincr, heq⟩ := Option.map_eq_some_iff.mp hwritten
  cases heq
  obtain ⟨count, hcount, _⟩ := h.counter key hkey
  obtain ⟨rfl, rfl⟩ := RedisKeyspace.incr_counter hcount hincr
  refine ⟨?_, ?_, ?_⟩
  · intro other hother
    have hset : config_key key ≠ version_key other := ConfigKeys.config_key_ne (K := plain_keys) hkey hother
    rw [Dict.get?_set_of_ne _ _ hset.symm, Dict.get?_set, latest_append, get?_set_local]
    by_cases heq : other = key
    · subst heq
      rw [if_pos rfl, if_pos rfl]
      refine ⟨count + 1, rfl, ?_⟩
      rintro _ _ ⟨⟩
      exact ⟨Nat.succ_pos _, rfl⟩
    · rw [if_neg fun h => heq (version_key_inj.mp h), if_neg heq]
      exact h.counter other hother
  · intro other hother
    have hincr : config_key other ≠ version_key key := ConfigKeys.config_key_ne (K := plain_keys) hother hkey
    rw [Dict.get?_set, Dict.get?_set_of_ne _ _ hincr, latest_append, get?_set_local]
    by_cases heq : other = key
    · rw [if_pos (config_key_inj.mpr heq), if_pos heq]
      rfl
    · rw [if_neg fun h => heq (config_key_inj.mp h), if_neg heq]
      exact h.value other hother
  · intro other hsome
    rw [latest_append, get?_set_local] at hsome
    split at hsome
    · rename_i heq
      rw [heq]
      exact hkey
    · exact h.plain other hsome

theorem written_key {store store' : RedisKeyspace} {key value : String} {entry : Entry}
    (h : written store key value = some (store', entry)) : entry.key = key := by
  obtain ⟨_, _, heq⟩ := Option.map_eq_some_iff.mp h
  cases heq
  rfl

theorem After.stored {entries : List Entry} {redis : Redis ν} (h : After entries redis)
    (hplain : ∀ entry ∈ entries, Plain entry.key) : Stored entries redis.store := by
  refine h.store_induction (P := fun entries store => (∀ entry ∈ entries, Plain entry.key) → Stored entries store) ?_ ?_ hplain
  · intro _
    refine ⟨fun key _ => ⟨0, rfl, ?_⟩, fun key _ => rfl, ?_⟩
    · rintro _ _ ⟨⟩
    · rintro key ⟨⟩
  · intro entries store store' key value entry ih hwritten hplain
    have hkey := hplain entry (by simp)
    rw [written_key hwritten] at hkey
    exact (ih fun entry hmem => hplain entry (List.mem_append_left _ hmem)).written hwritten hkey

end Store

/-- A sync is at a command about a plain key, or between two of them. -/
def Fetching (store : RedisKeyspace) : Pc → Prop
  | .scan _ serve => serve = false
  | .get_value raw_key batch => starts_with VERSION_PREFIX raw_key = false ∧ batch.serve = false
  | .get_version raw_key value batch =>
    (∃ key, Plain key ∧ raw_key = config_key key ∧ store.get? raw_key = some value) ∧ batch.serve = false
  | _ => False

/-- What the SCANs to come will still return. -/
def ahead (store : RedisKeyspace) : Cursor → List String
  | none => store.keys.filter (starts_with CONFIG_PREFIX)
  | some keys => keys

/-- The Redis key has still to be fetched. -/
def Awaits (store : RedisKeyspace) (raw_key : String) : Pc → Prop
  | .scan cursor _ => raw_key ∈ ahead store cursor
  | .get_value raw_key' batch => raw_key = raw_key' ∨ raw_key ∈ batch.keys ∨ raw_key ∈ batch.cursor.getD []
  | .get_version raw_key' _ batch => raw_key = raw_key' ∨ raw_key ∈ batch.keys ∨ raw_key ∈ batch.cursor.getD []
  | _ => False

section Sync

variable {n : ν} {redis redis' : Redis ν} {config config' : LocalConfig}

theorem fetching_next_key (store : RedisKeyspace) {cursor : Cursor} {keys : List String} {pc : Pc}
    (h : next_key cursor false keys = some pc) : Fetching store pc := by
  induction keys with
  | nil =>
    cases cursor with
    | none => cases h
    | some wanted =>
      cases h
      rfl
  | cons key keys ih =>
    unfold next_key at h
    split at h
    · exact ih h
    · rename_i hkey
      cases h
      exact ⟨Bool.eq_false_iff.mpr hkey, rfl⟩

/-- Only version trackers are skipped. -/
theorem awaits_next_key (store : RedisKeyspace) {cursor : Cursor} {keys : List String} {raw_key : String}
    (hkey : starts_with VERSION_PREFIX raw_key = false) (hmem : raw_key ∈ keys ∨ raw_key ∈ cursor.getD []) :
    ∃ pc, next_key cursor false keys = some pc ∧ Awaits store raw_key pc := by
  induction keys with
  | nil =>
    obtain hnil | hcursor := hmem
    · cases hnil
    · cases cursor with
      | none => cases hcursor
      | some wanted => exact ⟨_, rfl, hcursor⟩
  | cons key keys ih =>
    by_cases htracker : starts_with VERSION_PREFIX key = true
    · have hrest : raw_key ∈ keys ∨ raw_key ∈ cursor.getD [] := by
        obtain hcons | hcursor := hmem
        · obtain rfl | hrest := List.mem_cons.mp hcons
          · rw [hkey] at htracker
            cases htracker
          · exact .inl hrest
        · exact .inr hcursor
      obtain ⟨pc, hpc, hawaits⟩ := ih hrest
      exact ⟨pc, by rw [next_key, if_pos htracker, hpc], hawaits⟩
    · refine ⟨_, by rw [next_key, if_neg htracker], ?_⟩
      obtain hcons | hcursor := hmem
      · obtain rfl | hrest := List.mem_cons.mp hcons
        · exact .inl rfl
        · exact .inr (.inl hrest)
      · exact .inr (.inr hcursor)

/-- What one command of a sync does: go on to the next key, find a value, or store
the value it found with the version it read. -/
inductive Fetched (store : RedisKeyspace) (config : LocalConfig) : Pc → LocalConfig → Option Pc → Prop where
  | scanned {cursor cursor' : Cursor} {keys : List String}
      (hall : ∀ raw_key ∈ ahead store cursor, raw_key ∈ keys ∨ raw_key ∈ cursor'.getD []) :
      Fetched store config (.scan cursor false) config (next_key cursor' false keys)
  | missing {raw_key : String} {batch : Batch} (hbatch : batch.serve = false) (hmissing : store.get? raw_key = none) :
      Fetched store config (.get_value raw_key batch) config batch.next
  | found {key value : String} {batch : Batch} (hbatch : batch.serve = false) (hkey : Plain key)
      (hfound : store.get? (config_key key) = some value) :
      Fetched store config (.get_value (config_key key) batch) config (some (.get_version (config_key key) value batch))
  | stored {key value : String} {batch : Batch} {version : ℤ} (hbatch : batch.serve = false) (hkey : Plain key)
      (hfound : store.get? (config_key key) = some value)
      (hversion : read_version (get store (version_key key)) = some version) :
      Fetched store config (.get_version (config_key key) value batch) (set_local config { key, value, version }) batch.next
  | failed {key value : String} {batch : Batch} (hkey : Plain key)
      (hversion : read_version (get store (version_key key)) = none) :
      Fetched store config (.get_version (config_key key) value batch) config none

/-- A SCAN returns what it had to, or leaves it to the ones to come. -/
theorem scan_returns {store : RedisKeyspace} {cursor : Cursor} {choice : ScanChoice} {reply : Reply}
    (h : scan store cursor choice = some reply) : ∃ cursor' : Cursor,
      (∀ raw_key ∈ ahead store cursor, raw_key ∈ choice.keys ∨ raw_key ∈ cursor'.getD []) ∧
        reply = .scanned cursor' choice.keys := by
  have hremaining : ∀ raw_key ∈ ahead store cursor, raw_key ∈ choice.keys ∨
      raw_key ∈ (ahead store cursor).filter (· ∉ choice.keys) := by
    intro raw_key hmem
    by_cases hkeys : raw_key ∈ choice.keys
    · exact .inl hkeys
    · exact .inr (List.mem_filter.mpr ⟨hmem, decide_eq_true hkeys⟩)
  unfold scan at h
  change (if _ then if choice.last then if (ahead store cursor).filter (· ∉ choice.keys) = [] then _ else _ else _
    else _) = _ at h
  split at h
  · split at h
    · split at h
      · rename_i hnil
        cases h
        rw [hnil] at hremaining
        exact ⟨none, hremaining, rfl⟩
      · cases h
    · cases h
      exact ⟨some _, hremaining, rfl⟩
  · cases h

theorem fetched {pc : Pc} {choice : ScanChoice} {reply : Reply} {next : Option Pc} (hprefixed : Prefixed redis.store)
    (hfetching : Fetching redis.store pc) (hexec : execute redis n choice pc = some (redis', reply))
    (hresume : resume config pc reply = (config', next)) : redis' = redis ∧ Fetched redis.store config pc config' next := by
  cases pc with
  | scan cursor serve =>
    obtain rfl : serve = false := hfetching
    obtain ⟨reply', hscan, heq⟩ := Option.map_eq_some_iff.mp hexec
    cases heq
    obtain ⟨cursor', hall, rfl⟩ := scan_returns hscan
    cases hresume
    exact ⟨rfl, .scanned hall⟩
  | get_value raw_key batch =>
    obtain ⟨hkey, hbatch⟩ := hfetching
    cases hexec
    cases hfound : redis.store.get? raw_key with
    | none =>
      rw [get, hfound] at hresume
      cases hresume
      exact ⟨rfl, .missing hbatch hfound⟩
    | some value =>
      rw [get, hfound] at hresume
      cases hresume
      obtain ⟨key, rfl⟩ := hprefixed raw_key (Dict.mem_keys_iff.mpr ⟨value, hfound⟩)
      rw [starts_with_config_key] at hkey
      exact ⟨rfl, .found hbatch hkey hfound⟩
  | get_version raw_key value batch =>
    obtain ⟨⟨key, hkey, rfl, hfound⟩, hbatch⟩ := hfetching
    cases hexec
    rw [short_key_config_key] at hresume
    cases hversion : read_version (get redis.store (version_key key)) with
    | none =>
      simp only [resume, hversion, hbatch] at hresume
      cases hresume
      exact ⟨rfl, .failed hkey hversion⟩
    | some version =>
      simp only [resume, hversion, short_key_config_key] at hresume
      cases hresume
      exact ⟨rfl, .stored hbatch hkey hfound hversion⟩
  | _ => exact hfetching.elim

/-- The cache has nothing that was not set, and what it lacks has still to be fetched. -/
structure Progress (entries : List Entry) (store : RedisKeyspace) (config : LocalConfig) (next : Option Pc) : Prop where
  fetching : ∀ pc, next = some pc → Fetching store pc
  sound : ∀ key pair, config.get? key = some pair → (latest entries).get? key = some pair
  complete : ∀ key, ((latest entries).get? key).isSome →
    (config.get? key).isSome ∨ ∃ pc, next = some pc ∧ Awaits store (config_key key) pc

/-- The next key of a batch, when the one before it is done with. -/
theorem Progress.next_key {entries : List Entry} {store : RedisKeyspace} {cursor : Cursor} {keys : List String}
    (hplain : ∀ key, ((latest entries).get? key).isSome → Plain key)
    (hsound : ∀ key pair, config.get? key = some pair → (latest entries).get? key = some pair)
    (hcomplete : ∀ key, ((latest entries).get? key).isSome →
      (config.get? key).isSome ∨ config_key key ∈ keys ∨ config_key key ∈ cursor.getD []) :
    Progress entries store config (config_sync.next_key cursor false keys) where
  fetching _ hpc := fetching_next_key store hpc
  sound := hsound
  complete key hsome := by
    have hkey : starts_with VERSION_PREFIX (config_key key) = false := by
      rw [starts_with_config_key]
      exact hplain key hsome
    exact (hcomplete key hsome).imp_right (awaits_next_key store hkey)

theorem Fetched.fetching {store : RedisKeyspace} {pc : Pc} {next : Option Pc} (h : Fetched store config pc config' next) :
    ∀ pc', next = some pc' → Fetching store pc' := by
  cases h with
  | scanned => exact fun pc' hpc' => fetching_next_key store hpc'
  | missing hbatch =>
    rw [Batch.next, hbatch]
    exact fun pc' hpc' => fetching_next_key store hpc'
  | found hbatch hkey hfound =>
    rintro _ ⟨⟩
    exact ⟨⟨_, hkey, rfl, hfound⟩, hbatch⟩
  | stored hbatch =>
    rw [Batch.next, hbatch]
    exact fun pc' hpc' => fetching_next_key store hpc'
  | failed => rintro _ ⟨⟩

theorem Fetched.tracker {store : RedisKeyspace} {pc : Pc} {next : Option Pc} (h : Fetched store config pc config' next)
    {key : String} (hkey : ¬ Plain key) : config'.get? key = config.get? key := by
  cases h with
  | stored _ hplain _ _ =>
    rw [get?_set_local, if_neg]
    rintro rfl
    exact hkey hplain
  | _ => rfl

theorem Progress.step {entries : List Entry} {store : RedisKeyspace} {pc : Pc} {next : Option Pc}
    (hstored : Stored entries store) (h : Progress entries store config (some pc))
    (hfetched : Fetched store config pc config' next) : Progress entries store config' next := by
  have hcomplete : ∀ key, ((latest entries).get? key).isSome →
      (config.get? key).isSome ∨ Awaits store (config_key key) pc := by
    intro key hsome
    obtain hcached | ⟨_, heq, hawaits⟩ := h.complete key hsome
    · exact .inl hcached
    · cases heq
      exact .inr hawaits
  -- A plain key with a value is one that was set, with that value and the version read.
  have hlatest : ∀ key value, Plain key → store.get? (config_key key) = some value →
      ∃ version, (latest entries).get? key = some (value, version) ∧
        read_version (get store (version_key key)) = some version := by
    intro key value hkey hvalue
    rw [hstored.value key hkey] at hvalue
    obtain ⟨⟨_, version⟩, hget, rfl⟩ := Option.map_eq_some_iff.mp hvalue
    obtain ⟨count, hcount, hversion⟩ := hstored.counter key hkey
    obtain ⟨hpos, rfl⟩ := hversion _ version hget
    exact ⟨_, hget, read_version_get hpos hcount⟩
  cases hfetched with
  | scanned hall =>
    refine .next_key hstored.plain h.sound fun key hsome => ?_
    exact (hcomplete key hsome).imp_right (hall _)
  | @missing raw_key batch hbatch hmissing =>
    rw [Batch.next, hbatch]
    refine .next_key hstored.plain h.sound fun key hsome => ?_
    obtain hcached | rfl | hrest := hcomplete key hsome
    · exact .inl hcached
    · rw [hstored.value key (hstored.plain key hsome), Option.map_eq_none_iff] at hmissing
      rw [hmissing] at hsome
      cases hsome
    · exact .inr hrest
  | found hbatch hkey hfound =>
    refine ⟨(Fetched.found hbatch hkey hfound : Fetched store config _ _ _).fetching, h.sound, ?_⟩
    · exact fun key hsome => (hcomplete key hsome).imp_right fun hawaits => ⟨_, rfl, hawaits⟩
  | @stored key value batch version hbatch hkey hfound hversion =>
    obtain ⟨version', hget, hread⟩ := hlatest key value hkey hfound
    rw [hversion] at hread
    cases hread
    rw [Batch.next, hbatch]
    refine .next_key hstored.plain ?_ ?_
    · intro key' pair hpair
      rw [get?_set_local] at hpair
      split at hpair
      · rename_i heq
        cases hpair
        rw [heq]
        exact hget
      · exact h.sound key' pair hpair
    · intro key' hsome
      rw [get?_set_local]
      by_cases heq : key' = key
      · rw [if_pos heq]
        exact .inl rfl
      · rw [if_neg heq]
        obtain hcached | hsame | hrest := hcomplete key' hsome
        · exact .inl hcached
        · exact absurd (config_key_inj.mp hsame) heq
        · exact .inr hrest
  | failed hkey hversion =>
    obtain ⟨⟨key, _, heq, hfound⟩, _⟩ := h.fetching _ rfl
    obtain rfl := config_key_inj.mp heq
    obtain ⟨version, _, hread⟩ := hlatest _ _ hkey hfound
    rw [hversion] at hread
    cases hread

/-- What a sync caches in the end is what was set. -/
theorem Completes.synced {entries : List Entry} {pc : Pc} (h : Completes n redis config pc redis' config')
    (hprefixed : Prefixed redis.store) (hstored : Stored entries redis.store)
    (hprogress : Progress entries redis.store config (some pc)) (key : String) :
    config'.get? key = (latest entries).get? key := by
  induction h with
  | last hexec hresume =>
    obtain ⟨_, hfetched⟩ := fetched hprefixed (hprogress.fetching _ rfl) hexec hresume
    have hdone := hprogress.step hstored hfetched
    cases hlatest : (latest entries).get? key with
    | none =>
      refine Option.eq_none_iff_forall_ne_some.mpr fun pair hpair => ?_
      rw [hdone.sound key pair hpair] at hlatest
      cases hlatest
    | some pair =>
      obtain hcached | ⟨_, hnone, _⟩ := hdone.complete key (by rw [hlatest]; rfl)
      · obtain ⟨pair', hpair⟩ := Option.isSome_iff_exists.mp hcached
        rw [hpair, ← hdone.sound key pair' hpair, hlatest]
      · cases hnone
  | next hexec hresume hrest ih =>
    obtain ⟨rfl, hfetched⟩ := fetched hprefixed (hprogress.fetching _ rfl) hexec hresume
    exact ih hprefixed hstored (hprogress.step hstored hfetched)

/-- A sync never caches a version tracker. -/
theorem Completes.tracker {pc : Pc} (h : Completes n redis config pc redis' config') (hprefixed : Prefixed redis.store)
    (hfetching : Fetching redis.store pc) {key : String} (hkey : ¬ Plain key) : config'.get? key = config.get? key := by
  induction h with
  | last hexec hresume =>
    obtain ⟨_, hfetched⟩ := fetched hprefixed hfetching hexec hresume
    exact hfetched.tracker hkey
  | next hexec hresume hrest ih =>
    obtain ⟨rfl, hfetched⟩ := fetched hprefixed hfetching hexec hresume
    rw [ih hprefixed (hfetched.fetching _ rfl), hfetched.tracker hkey]

/-- The loop over the keys of the last SCAN comes to its end. -/
theorem exists_fetch (redis : Redis ν) (keys : List String) : ∀ (config : LocalConfig) (pc : Pc),
    next_key none false keys = some pc → ∃ redis' config', Completes n redis config pc redis' config' := by
  let choice : ScanChoice := { keys := [], last := true }
  induction keys with
  | nil => rintro config pc ⟨⟩
  | cons key keys ih =>
    intro config pc hnext
    unfold next_key at hnext
    split at hnext
    · exact ih config pc hnext
    · cases hnext
      -- The rest of the batch, once the call has resumed with some cache.
      have hrest : ∀ {config between : LocalConfig} {pc : Pc} {reply : Reply},
          execute redis n choice pc = some (redis, reply) →
          resume config pc reply = (between, next_key none false keys) →
          ∃ redis' config', Completes n redis config pc redis' config' := by
        intro config between pc reply hexec hresume
        cases hnext : next_key none false keys with
        | none =>
          rw [hnext] at hresume
          exact ⟨_, _, .last hexec hresume⟩
        | some pc' =>
          rw [hnext] at hresume
          obtain ⟨redis', config', hcompletes⟩ := ih between pc' hnext
          exact ⟨redis', config', .next hexec hresume hcompletes⟩
      let batch : Batch := { cursor := none, keys, serve := false }
      have hget : execute redis n choice (.get_value key batch) = some (redis, get redis.store key) := rfl
      cases hfound : redis.store.get? key with
      | none =>
        rw [get, hfound] at hget
        exact hrest hget rfl
      | some value =>
        rw [get, hfound] at hget
        have hversion : execute redis n choice (.get_version key value batch) =
            some (redis, get redis.store (version_key (short_key key))) := rfl
        obtain ⟨redis', config', hcompletes⟩ : ∃ redis' config',
            Completes n redis config (.get_version key value batch) redis' config' := by
          cases hread : read_version (get redis.store (version_key (short_key key))) with
          | none => exact ⟨_, _, .last hversion (by simp only [resume, hread]; rfl)⟩
          | some version =>
            have hresume : resume config (.get_version key value batch) (get redis.store (version_key (short_key key))) =
                (set_local config { key := short_key key, value, version }, next_key none false keys) := by
              simp only [resume, hread]
              rfl
            exact hrest hversion hresume
        exact ⟨redis', config', .next hget rfl hcompletes⟩

/-- A full sync can always come to its end. -/
theorem exists_sync (redis : Redis ν) :
    ∃ redis' config', Completes n redis .empty (start .sync_from_leader) redis' config' := by
  let keys := redis.store.keys.filter (starts_with CONFIG_PREFIX)
  have hexec : execute redis n { keys, last := true } (start .sync_from_leader) = some (redis, .scanned none keys) := by
    have hall : keys.all (fun key => key ∈ redis.store.keys && starts_with CONFIG_PREFIX key) = true := by
      rw [List.all_eq_true]
      intro key hmem
      simpa using List.mem_filter.mp hmem
    have hremaining : keys.filter (· ∉ keys) = [] := by
      rw [List.filter_eq_nil_iff]
      intro key hmem
      simpa using hmem
    change (if keys.all _ then if true then if keys.filter (· ∉ keys) = [] then _ else _ else _ else _ : Option Reply).map _ = _
    rw [if_pos hall, if_pos rfl, if_pos hremaining]
    rfl
  cases hnext : next_key none false keys with
  | none => exact ⟨_, _, .last hexec (by rw [start, resume, hnext])⟩
  | some pc =>
    obtain ⟨redis', config', hcompletes⟩ := exists_fetch (n := n) redis keys .empty pc hnext
    exact ⟨redis', config', .next hexec (by rw [start, resume, hnext]) hcompletes⟩

end Sync

theorem latest_isSome {entries : List Entry} {entry : Entry} (h : entry ∈ entries) :
    ((latest entries).get? entry.key).isSome := by
  induction entries using List.reverseRecOn with
  | nil => cases h
  | append_singleton entries last ih =>
    rw [latest_append, get?_set_local]
    split
    · rfl
    · rename_i hne
      obtain hold | hlast := List.mem_append.mp h
      · exact ih hold
      · rw [List.mem_singleton.mp hlast] at hne
        exact absurd rfl hne

/-- A full sync caches what was set exactly when no key reads as a version tracker. -/
theorem syncsExactly_iff {n : ν} {redis : Redis ν} {entries : List Entry} (hafter : After entries redis) :
    SyncsExactly n redis entries ↔ ∀ entry ∈ entries, Plain entry.key := by
  constructor
  · rintro ⟨⟨redis', config', hcompletes⟩, hall⟩ entry hmem
    by_contra hkey
    have hcached := hall redis' config' hcompletes entry.key
    rw [hcompletes.tracker hafter.prefixed rfl hkey] at hcached
    have hsome := latest_isSome hmem
    rw [← hcached] at hsome
    cases hsome
  · intro hplain
    have hstored := hafter.stored hplain
    refine ⟨exists_sync redis, fun redis' config' hcompletes key => ?_⟩
    refine hcompletes.synced hafter.prefixed hstored ⟨?_, ?_, ?_⟩ key
    · rintro _ ⟨⟩
      rfl
    · rintro key pair ⟨⟩
    · intro key hsome
      obtain ⟨⟨value, version⟩, hlatest⟩ := Option.isSome_iff_exists.mp hsome
      refine .inr ⟨_, rfl, List.mem_filter.mpr ⟨Dict.mem_keys_iff.mpr ⟨value, ?_⟩, ?_⟩⟩
      · rw [hstored.value key (hstored.plain key hsome), hlatest]
        rfl
      · rw [starts_with, config_key, String.toList_append, List.isPrefixOf_iff_prefix]
        exact List.prefix_append _ _

/-- A call leaves another key alone exactly when the two are apart, and a full sync
caches what was set exactly when no key reads as a version tracker. -/
theorem keys_apart_iff {n m : ν} (redis : Redis ν) {key key' : String} (hne : key ≠ key') (value : String)
    {synced : Redis ν} {entries : List Entry} (hafter : After entries synced) :
    (LeavesAlone n redis key value key' ↔ Apart redis.store key value key') ∧
      (SyncsExactly m synced entries ↔ ∀ entry ∈ entries, Plain entry.key) :=
  ⟨leavesAlone_iff hne value, syncsExactly_iff hafter⟩

theorem exists_after_one {key value : String} {store : RedisKeyspace} {entry : Entry}
    (h : written .empty key value = some (store, entry)) : ∃ redis : Redis ℕ, After [entry] redis := by
  obtain ⟨redis, config, hcompletes⟩ := exists_set_config 0 (Redis.empty : Redis ℕ) .empty key value
  exact ⟨redis, .set .empty hcompletes h⟩

/-- After "rate" was set on an empty Redis, "burst" is as it was and a sync finds "rate". -/
theorem keys_apart_one_key : LeavesAlone 0 (Redis.empty : Redis ℕ) "rate" "5" "burst" ∧
    ∃ redis : Redis ℕ, After [{ key := "rate", value := "5", version := 1 }] redis ∧
      SyncsExactly 1 redis [{ key := "rate", value := "5", version := 1 }] := by
  have hwritten : (written .empty "rate" "5").map Prod.snd = some { key := "rate", value := "5", version := 1 } := by
    decide +kernel
  obtain ⟨⟨store, entry⟩, hwritten, rfl⟩ := Option.map_eq_some_iff.mp hwritten
  obtain ⟨redis, hafter⟩ := exists_after_one hwritten
  have hiff := keys_apart_iff (n := 0) (m := 1) Redis.empty (by decide : "rate" ≠ "burst") "5" hafter
  refine ⟨hiff.1.mpr (.inr ⟨by decide, fun heq => absurd heq (by decide)⟩), redis, hafter, hiff.2.mpr ?_⟩
  intro entry hmem
  rw [List.mem_singleton.mp hmem]
  change starts_with "version:" "rate" = false
  decide

/-- Setting "rate" creates a value of "version:rate", and a sync does not find
"version:rate" when it was set. -/
theorem version_key_interferes : ¬ LeavesAlone 0 (Redis.empty : Redis ℕ) "rate" "5" "version:rate" ∧
    ∃ (entries : List Entry) (redis : Redis ℕ), After entries redis ∧ ¬ SyncsExactly 1 redis entries := by
  refine ⟨?_, ?_⟩
  · rw [leavesAlone_iff (by decide)]
    rintro (hcount | ⟨hne, _⟩)
    · exact hcount ⟨0, by decide +kernel, by decide⟩
    · exact hne (by decide)
  · have hwritten : (written .empty "version:rate" "5").map Prod.snd =
        some { key := "version:rate", value := "5", version := 1 } := by
      decide +kernel
    obtain ⟨⟨store, entry⟩, hwritten, rfl⟩ := Option.map_eq_some_iff.mp hwritten
    obtain ⟨redis, hafter⟩ := exists_after_one hwritten
    refine ⟨_, redis, hafter, fun hsyncs => ?_⟩
    have hplain : starts_with "version:" "version:rate" = false :=
      (syncsExactly_iff hafter).mp hsyncs _ (List.mem_singleton_self _)
    revert hplain
    decide

end gateway.config_sync
