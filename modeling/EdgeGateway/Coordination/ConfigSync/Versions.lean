import EdgeGateway.Coordination.ConfigSync.Flow

namespace gateway.config_sync

/-- Config keys none of which is the version tracker of another. -/
structure ConfigKeys where
  keys : Set String
  apart : ∀ key ∈ keys, "version:" ++ key ∉ keys

/-- The one key "rate". -/
def rate_only : ConfigKeys where
  keys := {key | key = "rate"}
  apart := by
    rintro key rfl
    change ¬ "version:" ++ "rate" = "rate"
    decide

theorem version_key_eq (key : String) : version_key key = config_key ("version:" ++ key) :=
  String.append_assoc

theorem config_key_inj {key key' : String} : config_key key = config_key key' ↔ key = key' :=
  String.append_right_inj CONFIG_PREFIX

theorem version_key_inj {key key' : String} : version_key key = version_key key' ↔ key = key' :=
  String.append_right_inj VERSION_PREFIX

theorem short_key_config_key (key : String) : short_key (config_key key) = key := by
  rw [short_key, config_key, String.toList_append, ← String.length_toList, List.drop_left,
    String.ofList_toList]

theorem starts_with_version_key (key : String) : starts_with VERSION_PREFIX (version_key key) = true := by
  rw [starts_with, version_key, String.toList_append, List.isPrefixOf_iff_prefix]
  exact List.prefix_append _ _

theorem ConfigKeys.config_key_ne {K : ConfigKeys} {key key' : String} (hkey : key ∈ K.keys)
    (hkey' : key' ∈ K.keys) : config_key key ≠ version_key key' := by
  rw [version_key_eq, Ne, config_key_inj]
  rintro rfl
  exact K.apart key' hkey' hkey

/-- The version counter of a key. -/
def version_count (store : RedisKeyspace) (key : String) : ℕ :=
  ((PyDecimal.toInt (store.getD (version_key key) "0")).getD 0).toNat

theorem version_count_eq {store : RedisKeyspace} {key : String} {n : ℕ}
    (h : store.get? (version_key key) = RedisKeyspace.counter n) : version_count store key = n := by
  rw [version_count, RedisKeyspace.getD_counter h, PyDecimal.toInt_toString]
  rfl

theorem version_count_congr {store store' : RedisKeyspace} {key : String}
    (h : store'.get? (version_key key) = store.get? (version_key key)) :
    version_count store' key = version_count store key := by
  rw [version_count, version_count, Dict.getD, Dict.getD, h]

theorem version_count_incr (store : RedisKeyspace) (key key' : String) :
    version_count (store.set (version_key key) (toString (version_count store key + 1))) key' =
      if key' = key then version_count store key + 1 else version_count store key' := by
  split
  · rename_i heq
    subst heq
    exact version_count_eq (Dict.get?_set_self _ _ _)
  · rename_i hne
    exact version_count_congr (Dict.get?_set_of_ne _ _ fun h => hne (version_key_inj.mp h))

theorem version_count_set {K : ConfigKeys} (store : RedisKeyspace) {key key' value : String}
    (hkey : key ∈ K.keys) (hkey' : key' ∈ K.keys) :
    version_count (store.set (config_key key) value) key' = version_count store key' :=
  version_count_congr (Dict.get?_set_of_ne _ _ (ConfigKeys.config_key_ne hkey hkey').symm)

/-- Reading a counter that counted gives the count. -/
theorem read_version_get {store : RedisKeyspace} {key : String} {n : ℕ} (hpos : 0 < n)
    (h : store.get? (version_key key) = RedisKeyspace.counter n) :
    read_version (get store (version_key key)) = some (n : ℤ) := by
  obtain ⟨m, rfl⟩ := Nat.exists_eq_succ_of_ne_zero (Nat.pos_iff_ne_zero.mp hpos)
  have hne : toString (m + 1) ≠ "" := Nat.repr_ne_empty
  rw [get, h, RedisKeyspace.counter, read_version, if_neg hne, PyDecimal.toInt_toString]

variable {ν : Type} [DecidableEq ν]

/-- Every `set_config` call is about one of the keys. -/
def OnKeys (K : ConfigKeys) (a : Action ν) : Prop :=
  ∀ t n key value, a = .call t n (.set_config key value) → key ∈ K.keys

/-- The entry is about one of the keys and has a version that was counted. -/
def Fits (K : ConfigKeys) (store : RedisKeyspace) (entry : Entry) : Prop :=
  entry.key ∈ K.keys ∧ 0 < entry.version ∧ entry.version ≤ version_count store entry.key

theorem Fits.mono {K : ConfigKeys} {store store' : RedisKeyspace} {entry : Entry} (h : Fits K store entry)
    (hle : ∀ key ∈ K.keys, version_count store key ≤ version_count store' key) : Fits K store' entry := by
  obtain ⟨hkey, hpos, hcount⟩ := h
  have := hle entry.key hkey
  exact ⟨hkey, hpos, by omega⟩

/-- The Redis keys are config keys and version counters, and no version in a cache,
in a message or in the hands of a call is ahead of its counter. -/
structure Bounded (K : ConfigKeys) (s : State ν) : Prop where
  keys : ∀ raw_key ∈ s.server.store.keys, ∃ key ∈ K.keys, raw_key = config_key key ∨ raw_key = version_key key
  counts : ∀ key ∈ K.keys,
    s.server.store.get? (version_key key) = RedisKeyspace.counter (version_count s.server.store key)
  values : ∀ key ∈ K.keys, ∀ value,
    s.server.store.get? (config_key key) = some value → 0 < version_count s.server.store key
  writing : ∀ t n entry, s.TaskAt t n (Writing entry) → Fits K s.server.store entry
  reading : ∀ t n key value, s.TaskAt t n (Reading key value) →
    key ∈ K.keys ∧ 0 < version_count s.server.store key
  carries : ∀ entry, Carries s entry → Fits K s.server.store entry

section Tasks

variable {K : ConfigKeys} {ok : State ν → Action ν → Prop} (hok : ∀ s a, ok s a → OnKeys K a)
  {s s' : State ν} (h : system.ReachableWhere ok s)
include h

theorem no_orphans : ∀ t task, s.tasks t = some task → task.orphan = false :=
  AsyncProtocol.no_orphans rfl h

/-- A sync never GETs the value of a version tracker. -/
theorem get_value_key : ∀ t task, s.tasks t = some task →
    ∀ key batch, task.pc = .get_value key batch → starts_with VERSION_PREFIX key = false := by
  refine AsyncProtocol.tasks_invariant (Q := fun _ task => ∀ key batch, task.pc = .get_value key batch →
    starts_with VERSION_PREFIX key = false) ?_ ?_ ?_ ?_ h
  · rintro s t n c pc _ hstart key batch rfl
    cases c <;> cases hstart
  · exact fun t n pc reply hpc => hpc
  · rintro t n l pc reply orphan next hnext _ key batch rfl
    obtain ⟨_, _, hset⟩ | ⟨_, _, hset⟩ | ⟨_, _, _, _, hset⟩ | ⟨_, hbrowsing⟩ := resume_cases l pc reply
    · cases hnext.symm.trans hset
    · cases hnext.symm.trans hset
    · cases hnext.symm.trans hset
    · cases hbrowsing _ hnext
      assumption
  · intro hfaulty
    cases hfaulty

include hok

theorem incr_key : ∀ t task, s.tasks t = some task → ∀ key value, task.pc = .incr key value → key ∈ K.keys := by
  refine AsyncProtocol.tasks_invariant (Q := fun _ task => ∀ key value, task.pc = .incr key value →
    key ∈ K.keys) ?_ ?_ ?_ ?_ h
  · rintro s t n c pc hokc hstart key value rfl
    cases c with
    | set_config key' value' =>
      cases hstart
      exact hok s _ hokc t n key value rfl
    | sync_from_leader => cases hstart
    | run_sync_loop => cases hstart
  · exact fun t n pc reply hpc => hpc
  · rintro t n l pc reply orphan next hnext _ key value rfl
    obtain ⟨_, _, hset⟩ | ⟨_, _, hset⟩ | ⟨_, _, _, _, hset⟩ | ⟨_, hbrowsing⟩ := resume_cases l pc reply
    · cases hnext.symm.trans hset
    · cases hnext.symm.trans hset
    · cases hnext.symm.trans hset
    · cases hbrowsing _ hnext
  · intro hfaulty
    cases hfaulty

end Tasks

namespace Bounded

variable {K : ConfigKeys} {s s' : State ν} {t : ℕ}

omit [DecidableEq ν] in
theorem quiet (hb : Bounded K s) (hq : Quiet s s') : Bounded K s' where
  keys := hq.store ▸ hb.keys
  counts := hq.store ▸ hb.counts
  values := hq.store ▸ hb.values
  writing t n entry h := hq.store ▸ hb.writing t n entry ((hq.writing t n entry).mp h)
  reading t n key value h := hq.store ▸ hb.reading t n key value (hq.reading t n key value h)
  carries entry h := hq.store ▸ hb.carries entry (hq.carries entry h)

omit [DecidableEq ν] in
/-- The key that a sync has found is a config key. -/
theorem found_key (hb : Bounded K s) {raw_key value : String} (hfound : s.server.store.get? raw_key = some value)
    (hkey : starts_with VERSION_PREFIX raw_key = false) : ∃ key ∈ K.keys, raw_key = config_key key := by
  obtain ⟨key, hmem, rfl | rfl⟩ := hb.keys raw_key (Dict.mem_keys_iff.mpr ⟨value, hfound⟩)
  · exact ⟨key, hmem, rfl⟩
  · rw [starts_with_version_key] at hkey
    cases hkey

omit [DecidableEq ν] in
/-- Only the call that gets its reply can say something new. -/
theorem of_loud {task : Task ν} (hb : Bounded K s) (h : Loud s t s')
    (htasks : s'.tasks = Function.update s.tasks t (some task))
    (hle : ∀ key ∈ K.keys, version_count s.server.store key ≤ version_count s'.server.store key)
    (hkeys : ∀ raw_key ∈ s'.server.store.keys, ∃ key ∈ K.keys, raw_key = config_key key ∨ raw_key = version_key key)
    (hcounts : ∀ key ∈ K.keys,
      s'.server.store.get? (version_key key) = RedisKeyspace.counter (version_count s'.server.store key))
    (hvalues : ∀ key ∈ K.keys, ∀ value,
      s'.server.store.get? (config_key key) = some value → 0 < version_count s'.server.store key)
    (hwriting : ∀ entry, Writing entry task.pc task.reply → Fits K s'.server.store entry)
    (hreading : ∀ key value, Reading key value task.pc task.reply →
      key ∈ K.keys ∧ 0 < version_count s'.server.store key)
    (hholding : ∀ entry, Holding entry task.pc task.reply → Fits K s'.server.store entry) : Bounded K s' := by
  refine ⟨hkeys, hcounts, hvalues, ?_, ?_, ?_⟩
  · intro u n entry hsays
    obtain ⟨_, _, hnew⟩ | ⟨_, hold⟩ := hsays.update_cases htasks
    · exact hwriting entry hnew
    · exact (hb.writing u n entry hold).mono hle
  · intro u n key value hsays
    obtain ⟨_, _, hnew⟩ | ⟨_, hold⟩ := hsays.update_cases htasks
    · exact hreading key value hnew
    · obtain ⟨hkey, hpos⟩ := hb.reading u n key value hold
      exact ⟨hkey, Nat.lt_of_lt_of_le hpos (hle key hkey)⟩
  · intro entry hcarries
    obtain hold | ⟨n, hsays⟩ := h.carries entry hcarries
    · exact (hb.carries entry hold).mono hle
    · obtain ⟨_, _, hnew⟩ | ⟨hne, _⟩ := hsays.update_cases htasks
      · exact hholding entry hnew
      · exact absurd rfl hne

omit [DecidableEq ν] in
theorem loud_incr (hb : Bounded K s) {n : ν} {key value : String} {store : RedisKeyspace} {version : ℤ}
    (hkey : key ∈ K.keys) (htask : s.tasks t = some { node := n, pc := .incr key value })
    (hincr : s.server.store.incr (version_key key) = some (store, version)) :
    Bounded K { s with
      server := { s.server with store }
      tasks := Function.update s.tasks t
        (some { node := n, pc := .incr key value, reply := some (.integer version) }) } := by
  have hloud := Loud.incr htask hincr
  obtain ⟨rfl, rfl⟩ := RedisKeyspace.incr_counter (hb.counts key hkey) hincr
  have hcount := version_count_incr s.server.store key
  have hle : ∀ key' ∈ K.keys, version_count s.server.store key' ≤
      version_count (s.server.store.set (version_key key) (toString (version_count s.server.store key + 1))) key' := by
    intro key' _
    rw [hcount]
    split
    · rename_i heq
      rw [heq]
      exact Nat.le_succ _
    · exact Nat.le_refl _
  refine hb.of_loud hloud rfl hle ?_ ?_ ?_ ?_ (fun _ _ => nofun) (fun _ => nofun)
  · intro raw_key hraw
    obtain rfl | hraw := Dict.mem_keys_set.mp hraw
    · exact ⟨key, hkey, .inr rfl⟩
    · exact hb.keys raw_key hraw
  · intro key' hkey'
    rw [hcount, Dict.get?_set]
    by_cases heq : key' = key
    · rw [if_pos (version_key_inj.mpr heq), if_pos heq]
      rfl
    · rw [if_neg fun h => heq (version_key_inj.mp h), if_neg heq]
      exact hb.counts key' hkey'
  · intro key' hkey' text htext
    rw [Dict.get?_set_of_ne _ _ (ConfigKeys.config_key_ne hkey' hkey)] at htext
    exact Nat.lt_of_lt_of_le (hb.values key' hkey' text htext) (hle key' hkey')
  · rintro entry rfl
    exact ⟨hkey, Int.natCast_pos.mpr (Nat.succ_pos _), Int.le_of_eq (by rw [hcount, if_pos rfl])⟩

omit [DecidableEq ν] in
theorem loud_set (hb : Bounded K s) {n : ν} {entry : Entry} (htask : s.tasks t = some { node := n, pc := .set entry }) :
    Bounded K { s with
      server := { s.server with store := s.server.store.set (config_key entry.key) entry.value }
      tasks := Function.update s.tasks t (some { node := n, pc := .set entry, reply := some .ok }) } := by
  have hwrote : Fits K s.server.store entry := hb.writing t n entry ⟨_, htask, rfl, rfl⟩
  have hcount : ∀ key' ∈ K.keys, version_count (s.server.store.set (config_key entry.key) entry.value) key' =
      version_count s.server.store key' := fun key' hkey' => version_count_set _ hwrote.1 hkey'
  have hle := fun key' hkey' => Nat.le_of_eq (hcount key' hkey').symm
  refine hb.of_loud (.set htask) rfl hle ?_ ?_ ?_ (fun _ => nofun) (fun _ _ => nofun) ?_
  · intro raw_key hraw
    obtain rfl | hraw := Dict.mem_keys_set.mp hraw
    · exact ⟨entry.key, hwrote.1, .inl rfl⟩
    · exact hb.keys raw_key hraw
  · intro key' hkey'
    rw [hcount key' hkey', Dict.get?_set_of_ne _ _ (ConfigKeys.config_key_ne hwrote.1 hkey').symm]
    exact hb.counts key' hkey'
  · intro key' hkey' text htext
    rw [hcount key' hkey']
    rw [Dict.get?_set] at htext
    split at htext
    · rename_i heq
      obtain ⟨_, hpos, hbound⟩ := hwrote
      rw [config_key_inj.mp heq]
      omega
    · exact hb.values key' hkey' text htext
  · rintro _ rfl
    exact hwrote.mono hle

omit [DecidableEq ν] in
theorem loud_get_value (hb : Bounded K s) {n : ν} {raw_key value : String} {batch : Batch}
    (hkey : starts_with VERSION_PREFIX raw_key = false)
    (htask : s.tasks t = some { node := n, pc := .get_value raw_key batch })
    (hvalue : s.server.store.get? raw_key = some value) :
    Bounded K { s with
      tasks := Function.update s.tasks t
        (some { node := n, pc := .get_value raw_key batch, reply := some (.bulk value) }) } := by
  obtain ⟨key, hmem, rfl⟩ := hb.found_key hvalue hkey
  refine hb.of_loud (.get_value htask hvalue) rfl (fun _ _ => Nat.le_refl _) hb.keys hb.counts hb.values (fun _ => nofun) ?_
    (fun _ => nofun)
  rintro key' text ⟨rfl, _⟩
  rw [short_key_config_key]
  exact ⟨hmem, hb.values key hmem value hvalue⟩

omit [DecidableEq ν] in
theorem loud_get_version (hb : Bounded K s) {n : ν} {raw_key value : String} {batch : Batch}
    (htask : s.tasks t = some { node := n, pc := .get_version raw_key value batch }) :
    Bounded K { s with
      tasks := Function.update s.tasks t
        (some { node := n, pc := .get_version raw_key value batch
                reply := some (get s.server.store (version_key (short_key raw_key))) }) } := by
  obtain ⟨hkey, hpos⟩ := hb.reading t n (short_key raw_key) value ⟨_, htask, rfl, rfl, rfl⟩
  refine hb.of_loud (.get_version htask) rfl (fun _ _ => Nat.le_refl _) hb.keys hb.counts hb.values (fun _ => nofun)
    (fun _ _ => nofun) ?_
  rintro entry ⟨heq, _, hversion⟩
  rw [read_version_get hpos (hb.counts _ hkey), Option.some.injEq] at hversion
  refine ⟨heq ▸ hkey, ?_, ?_⟩
  · omega
  · exact Int.le_of_eq (by rw [← heq, ← hversion])

omit [DecidableEq ν] in
theorem loud (hb : Bounded K s)
    (hincr_key : ∀ t task, s.tasks t = some task → ∀ key value, task.pc = .incr key value → key ∈ K.keys)
    (hget_key : ∀ t task, s.tasks t = some task →
      ∀ key batch, task.pc = .get_value key batch → starts_with VERSION_PREFIX key = false)
    (h : Loud s t s') : Bounded K s' := by
  cases h with
  | incr htask hincr => exact hb.loud_incr (hincr_key t _ htask _ _ rfl) htask hincr
  | set htask => exact hb.loud_set htask
  | get_value htask hvalue => exact hb.loud_get_value (hget_key t _ htask _ _ rfl) htask hvalue
  | get_version htask => exact hb.loud_get_version htask

end Bounded

theorem initial_store {s : State ν} (hs : system.initial s) : s.server.store = .empty :=
  congrArg Redis.store hs.1

theorem initial_taskAt {s : State ν} (hs : system.initial s) {t : ℕ} {n : ν} {C : Pc → Option Reply → Prop} :
    ¬ s.TaskAt t n C := by
  rintro ⟨task, htask, _⟩
  rw [hs.2.2 t] at htask
  cases htask

theorem initial_carries {s : State ν} (hs : system.initial s) {entry : Entry} : ¬ Carries s entry := by
  obtain ⟨hserver, hnode, _⟩ := id hs
  rintro (⟨n, hn⟩ | ⟨n, hn⟩ | hn | ⟨t, n, hn | hn⟩)
  · rw [show s.node n = .empty from hnode n] at hn
    cases hn
  · rw [show s.server = .empty from hserver] at hn
    cases hn
  · rw [show s.server = .empty from hserver] at hn
    cases hn
  · exact initial_taskAt hs hn
  · exact initial_taskAt hs hn

/-- In every run about the keys, versions stay behind their counters. -/
theorem reachable_bounded {K : ConfigKeys} {ok : State ν → Action ν → Prop} (hok : ∀ s a, ok s a → OnKeys K a)
    {s : State ν} (h : system.ReachableWhere ok s) : Bounded K s := by
  refine TransitionSystem.ReachableWhere.invariant_of (P := Bounded K)
    (Q := system.ReachableWhere ok) (fun s hs => hs) ?_ ?_ h
  · intro s hs
    have hstore := initial_store hs
    have hcount : ∀ key, version_count s.server.store key = 0 := by
      intro key
      rw [hstore]
      exact version_count_eq (n := 0) rfl
    refine ⟨?_, ?_, ?_, fun t n entry h => absurd h (initial_taskAt hs), 
      fun t n key value h => absurd h (initial_taskAt hs), fun entry h => absurd h (initial_carries hs)⟩
    · intro raw_key hraw
      rw [hstore] at hraw
      cases hraw
    · intro key _
      rw [hcount, hstore]
      rfl
    · intro key _ value hvalue
      rw [hstore] at hvalue
      cases hvalue
  · intro s a s' hreach hb _ hstep
    obtain hquiet | ⟨t, _, _, hloud⟩ := quiet_or_loud (no_orphans hreach) hstep
    · exact hb.quiet hquiet
    · exact hb.loud (incr_key hok hreach) (get_value_key hreach) hloud

/-- Every call waits for the one before it, whichever nodes make them. -/
def OneCaller (K : ConfigKeys) (a : Action ν) : Prop :=
  OnKeys K a ∧ ∀ t n c, a = .call t n c → t = 0

theorem OneCaller.same_task {K : ConfigKeys} {s : State ν} (h : system.ReachableWhere (fun _ a => OneCaller K a) s)
    {t u : ℕ} {n : ν} {task : Task ν} (htask : s.tasks t = some task) {C : Pc → Option Reply → Prop}
    (hC : s.TaskAt u n C) : C task.pc task.reply := by
  have hslot : ∀ t task, s.tasks t = some task → t = 0 :=
    AsyncProtocol.tasks_slot (T := fun t => t = 0) (h.mono fun s a _ hcaller => hcaller.2)
  obtain ⟨task', htask', _, hC⟩ := hC
  rw [hslot u task' htask'] at htask'
  rw [hslot t task htask, htask'] at htask
  cases htask
  exact hC

/-- A test for `OneCaller rate_only`. -/
def one_rate_caller : Action ν → Bool
  | .call t _ (.set_config key _) => t == 0 && key == "rate"
  | .call t _ _ => t == 0
  | _ => true

omit [DecidableEq ν] in
theorem one_rate_caller_ok {a : Action ν} (h : one_rate_caller a = true) : OneCaller rate_only a := by
  cases a with
  | call t n c =>
    cases c with
    | set_config key value =>
      obtain ⟨ht, hkey⟩ := Bool.and_eq_true_iff.mp h
      refine ⟨?_, ?_⟩
      · rintro _ _ _ _ ⟨⟩
        exact eq_of_beq hkey
      · rintro _ _ _ ⟨⟩
        exact eq_of_beq ht
    | _ =>
      refine ⟨?_, ?_⟩
      · rintro _ _ _ _ ⟨⟩
      · rintro _ _ _ ⟨⟩
        exact eq_of_beq h
  | _ =>
    refine ⟨?_, ?_⟩
    · rintro _ _ _ _ ⟨⟩
    · rintro _ _ _ ⟨⟩

end gateway.config_sync
