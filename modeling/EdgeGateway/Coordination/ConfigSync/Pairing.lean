import EdgeGateway.Coordination.ConfigSync.Versions

namespace gateway.config_sync

variable {ν : Type} [DecidableEq ν]

omit [DecidableEq ν] in
/-- Some `set_config` on the key is between INCR and SET. -/
def BetweenIncrAndSet (s : State ν) (key : String) : Prop :=
  ∃ t n entry, s.TaskAt t n (Writing entry) ∧ entry.key = key

omit [DecidableEq ν] in
/-- Some sync is between the GETs of the value and of the version of the key. -/
def BetweenGets (s : State ν) (key : String) : Prop :=
  ∃ t n value, s.TaskAt t n (Reading key value)

/-- INCR is executed outside of every other `set_config` and every sync on the key,
and the value is read outside of every `set_config`. -/
structure PairingSafe (K : ConfigKeys) (s : State ν) (a : Action ν) : Prop where
  keys : OnKeys K a
  incr : ∀ t choice n key value, a = .exec t choice →
    s.tasks t = some { node := n, pc := .incr key value } → ¬ BetweenIncrAndSet s key ∧ ¬ BetweenGets s key
  get_value : ∀ t choice n key batch, a = .exec t choice →
    s.tasks t = some { node := n, pc := .get_value key batch } → ¬ BetweenIncrAndSet s (short_key key)

/-- `history key version` is the value written under the version, and `settled key`
the version that was last SET. -/
structure Paired (K : ConfigKeys) (history : String → ℤ → String) (settled : String → ℕ) (s : State ν) : Prop where
  settled_le : ∀ key ∈ K.keys, settled key ≤ version_count s.server.store key
  settled_or : ∀ key ∈ K.keys, settled key = version_count s.server.store key ∨ BetweenIncrAndSet s key
  written : ∀ key ∈ K.keys, s.server.store.get? (config_key key) =
    if settled key = 0 then none else some (history key (settled key))
  writing : ∀ t n entry, s.TaskAt t n (Writing entry) →
    entry.version = settled entry.key + 1 ∧ version_count s.server.store entry.key = settled entry.key + 1 ∧
      history entry.key entry.version = entry.value
  writing_slot : ∀ t n entry t' n' entry', s.TaskAt t n (Writing entry) → s.TaskAt t' n' (Writing entry') →
    entry.key = entry'.key → t = t'
  reading : ∀ t n key value, s.TaskAt t n (Reading key value) →
    settled key = version_count s.server.store key ∧ history key (settled key) = value
  carries : ∀ entry, Carries s entry →
    entry.version ≤ settled entry.key ∧ history entry.key entry.version = entry.value

variable {K : ConfigKeys} {history : String → ℤ → String} {settled : String → ℕ} {s s' : State ν} {t : ℕ}

omit [DecidableEq ν] in
theorem Quiet.betweenIncrAndSet_iff (hq : Quiet s s') (key : String) :
    BetweenIncrAndSet s' key ↔ BetweenIncrAndSet s key := by
  simp only [BetweenIncrAndSet, hq.writing]

namespace Paired

omit [DecidableEq ν] in
theorem quiet (hp : Paired K history settled s) (hq : Quiet s s') : Paired K history settled s' where
  settled_le := hq.store ▸ hp.settled_le
  settled_or key hkey := by
    rw [hq.store, hq.betweenIncrAndSet_iff]
    exact hp.settled_or key hkey
  written := hq.store ▸ hp.written
  writing t n entry h := hq.store ▸ hp.writing t n entry ((hq.writing t n entry).mp h)
  writing_slot t n entry t' n' entry' h h' :=
    hp.writing_slot t n entry t' n' entry' ((hq.writing t n entry).mp h) ((hq.writing t' n' entry').mp h')
  reading t n key value h := hq.store ▸ hp.reading t n key value (hq.reading t n key value h)
  carries entry h := hp.carries entry (hq.carries entry h)

omit [DecidableEq ν] in
/-- INCR opens a new version of the key. -/
theorem incr (hp : Paired K history settled s) {n : ν} {key value : String}
    (hkey : key ∈ K.keys) (htask : s.tasks t = some { node := n, pc := .incr key value })
    (hset : ¬ BetweenIncrAndSet s key) (hgets : ¬ BetweenGets s key)
    (hserver : s'.server.store =
      s.server.store.set (version_key key) (toString (version_count s.server.store key + 1)))
    (htasks : s'.tasks = Function.update s.tasks t (some { node := n, pc := .incr key value
                                                           reply := some (.integer (settled key + 1 : ℕ)) }))
    (hcarries : ∀ entry, Carries s' entry → Carries s entry) :
    Paired K (Function.update history key (Function.update (history key) (settled key + 1) value)) settled s' := by
  have hsettled : settled key = version_count s.server.store key :=
    (hp.settled_or key hkey).resolve_right hset
  have hcount : ∀ key', version_count s'.server.store key' =
      if key' = key then settled key + 1 else version_count s.server.store key' := by
    intro key'
    rw [hserver, version_count_incr, hsettled]
  have hhistory : ∀ key' (version : ℤ), version ≤ settled key' →
      Function.update history key (Function.update (history key) (settled key + 1) value) key' version =
        history key' version := by
    intro key' version hle
    by_cases heq : key' = key
    · subst heq
      rw [Function.update_self, Function.update_of_ne (by omega)]
    · rw [Function.update_of_ne heq]
  have hother : ∀ {u m entry}, s.TaskAt u m (Writing entry) → entry.key ≠ key :=
    fun h heq => hset ⟨_, _, _, h, heq⟩
  constructor
  case settled_le =>
    intro key' hkey'
    have hle := hp.settled_le key' hkey'
    rw [hcount]
    split
    · rename_i heq
      subst heq
      omega
    · exact hle
  case settled_or =>
    intro key' hkey'
    rw [hcount]
    by_cases heq : key' = key
    · have hslot : s'.tasks t = some { node := n, pc := .incr key value
                                       reply := some (.integer (settled key + 1 : ℕ)) } := by
        rw [htasks, Function.update_self]
      exact .inr ⟨t, n, { key, value, version := (settled key + 1 : ℕ) }, ⟨_, hslot, rfl, rfl⟩, heq.symm⟩
    · rw [if_neg heq]
      refine (hp.settled_or key' hkey').imp_right ?_
      rintro ⟨u, m, entry, hwriting, hentry⟩
      refine ⟨u, m, entry, hwriting.update htasks fun hslot => ?_, hentry⟩
      exact absurd ((AsyncProtocol.State.taskAt_iff htask).mp hslot).2 fun h => h
  case written =>
    intro key' hkey'
    rw [hserver, Dict.get?_set_of_ne _ _ (ConfigKeys.config_key_ne hkey' hkey), hhistory key' _ (Int.le_refl _)]
    exact hp.written key' hkey'
  case writing =>
    intro u m entry hwriting
    obtain ⟨_, _, rfl⟩ | ⟨_, hold⟩ := hwriting.update_cases htasks
    · refine ⟨Int.natCast_succ _, by rw [hcount, if_pos rfl], ?_⟩
      simp
    · obtain ⟨hversion, hcounted, hvalue⟩ := hp.writing u m entry hold
      refine ⟨hversion, by rw [hcount, if_neg (hother hold), hcounted], ?_⟩
      rw [Function.update_of_ne (hother hold), hvalue]
  case writing_slot =>
    intro u m entry u' m' entry' h h' heq
    obtain ⟨rfl, _, rfl⟩ | ⟨_, hold⟩ := h.update_cases htasks
    · obtain ⟨rfl, _⟩ | ⟨_, hold'⟩ := h'.update_cases htasks
      · rfl
      · exact absurd heq.symm (hother hold')
    · obtain ⟨rfl, _, rfl⟩ | ⟨_, hold'⟩ := h'.update_cases htasks
      · exact absurd heq (hother hold)
      · exact hp.writing_slot u m entry u' m' entry' hold hold' heq
  case reading =>
    intro u m key' text hreading
    obtain ⟨_, _, hnew⟩ | ⟨_, hold⟩ := hreading.update_cases htasks
    · cases hnew
    · have hne : key' ≠ key := by
        rintro rfl
        exact hgets ⟨u, m, text, hold⟩
      obtain ⟨hcounted, hvalue⟩ := hp.reading u m key' text hold
      rw [hcount, if_neg hne, Function.update_of_ne hne]
      exact ⟨hcounted, hvalue⟩
  case carries =>
    intro entry h
    obtain ⟨hle, hvalue⟩ := hp.carries entry (hcarries entry h)
    exact ⟨hle, by rw [hhistory _ _ hle, hvalue]⟩

omit [DecidableEq ν] in
/-- SET settles the version that INCR opened. -/
theorem set (hb : Bounded K s) (hp : Paired K history settled s) {n : ν} {written : Entry}
    (htask : s.tasks t = some { node := n, pc := .set written })
    (hserver : s'.server.store = s.server.store.set (config_key written.key) written.value)
    (htasks : s'.tasks = Function.update s.tasks t (some { node := n, pc := .set written, reply := some .ok }))
    (hcarries : ∀ entry, Carries s' entry → Carries s entry ∨ entry = written) :
    Paired K history (Function.update settled written.key (settled written.key + 1)) s' := by
  have hslot : s.TaskAt t n (Writing written) := ⟨_, htask, rfl, rfl⟩
  have hkey : written.key ∈ K.keys := (hb.writing t n written hslot).1
  obtain ⟨hversion, hcounted, hvalue⟩ := hp.writing t n written hslot
  have hcount : ∀ key ∈ K.keys, version_count s'.server.store key = version_count s.server.store key := by
    intro key hmem
    rw [hserver]
    exact version_count_set _ hkey hmem
  have hother : ∀ {u m entry}, u ≠ t → s.TaskAt u m (Writing entry) → entry.key ≠ written.key :=
    fun hne h heq => hne (hp.writing_slot _ _ _ _ _ _ h hslot heq)
  have hold : ∀ {u m entry}, s'.TaskAt u m (Writing entry) →
      s.TaskAt u m (Writing entry) ∧ entry.key ≠ written.key := by
    intro u m entry h
    obtain ⟨_, _, hnew⟩ | ⟨hne, hold⟩ := h.update_cases htasks
    · cases hnew
    · exact ⟨hold, hother hne hold⟩
  constructor
  case settled_le =>
    intro key hmem
    rw [hcount key hmem]
    by_cases heq : key = written.key
    · exact Nat.le_of_eq (by rw [heq, Function.update_self, hcounted])
    · rw [Function.update_of_ne heq]
      exact hp.settled_le key hmem
  case settled_or =>
    intro key hmem
    rw [hcount key hmem]
    by_cases heq : key = written.key
    · exact .inl (by rw [heq, Function.update_self, hcounted])
    · rw [Function.update_of_ne heq]
      refine (hp.settled_or key hmem).imp_right ?_
      rintro ⟨u, m, entry, hwriting, hentry⟩
      refine ⟨u, m, entry, hwriting.update htasks fun h => ?_, hentry⟩
      obtain rfl : written = entry := ((AsyncProtocol.State.taskAt_iff htask).mp h).2
      exact absurd hentry.symm heq
  case written =>
    intro key hmem
    rw [hserver]
    by_cases heq : key = written.key
    · rw [heq, Dict.get?_set_self, Function.update_self, if_neg (Nat.succ_ne_zero _), ← hvalue, hversion]
      rfl
    · rw [Dict.get?_set_of_ne _ _ fun h => heq (config_key_inj.mp h), Function.update_of_ne heq]
      exact hp.written key hmem
  case writing =>
    intro u m entry h
    obtain ⟨hwriting, hne⟩ := hold h
    rw [hcount _ (hb.writing u m entry hwriting).1, Function.update_of_ne hne]
    exact hp.writing u m entry hwriting
  case writing_slot =>
    intro u m entry u' m' entry' h h' heq
    exact hp.writing_slot u m entry u' m' entry' (hold h).1 (hold h').1 heq
  case reading =>
    intro u m key value hreading
    obtain ⟨_, _, hnew⟩ | ⟨_, hreading⟩ := hreading.update_cases htasks
    · cases hnew
    · have hread := hp.reading u m key value hreading
      have hne : key ≠ written.key := by
        rintro rfl
        omega
      rw [hcount _ (hb.reading u m key value hreading).1, Function.update_of_ne hne]
      exact hread
  case carries =>
    intro entry h
    obtain h | rfl := hcarries entry h
    · obtain ⟨hle, hpaired⟩ := hp.carries entry h
      refine ⟨?_, hpaired⟩
      by_cases heq : entry.key = written.key
      · rw [heq, Function.update_self]
        rw [heq] at hle
        omega
      · rw [Function.update_of_ne heq]
        exact hle
    · refine ⟨?_, hvalue⟩
      rw [Function.update_self, hversion]
      exact Int.le_refl _

omit [DecidableEq ν] in
/-- A GET changes only what its caller knows. -/
theorem of_get (hp : Paired K history settled s) {n : ν} {pc : Pc} {reply : Reply}
    (htask : s.tasks t = some { node := n, pc }) (hserver : s'.server = s.server)
    (htasks : s'.tasks = Function.update s.tasks t (some { node := n, pc, reply := some reply }))
    (hwriting : ∀ entry, Writing entry pc (some reply) ↔ Writing entry pc none)
    (hreading : ∀ key value, Reading key value pc (some reply) →
      settled key = version_count s.server.store key ∧ history key (settled key) = value)
    (hcarries : ∀ entry, Carries s' entry → Carries s entry ∨
      entry.version ≤ settled entry.key ∧ history entry.key entry.version = entry.value) :
    Paired K history settled s' := by
  have hwriting : ∀ {u m entry}, s'.TaskAt u m (Writing entry) ↔ s.TaskAt u m (Writing entry) := by
    intro u m entry
    constructor
    · refine fun h => h.of_update htasks ?_
      rintro task ⟨⟩ hnew
      exact ⟨_, htask, rfl, (hwriting entry).mp hnew⟩
    · refine fun h => h.update htasks fun hslot => ?_
      obtain ⟨hnode, hold⟩ := (AsyncProtocol.State.taskAt_iff htask).mp hslot
      exact ⟨_, rfl, hnode, (hwriting entry).mpr hold⟩
  constructor
  case settled_le => exact hserver ▸ hp.settled_le
  case written => exact hserver ▸ hp.written
  case settled_or =>
    intro key hkey
    rw [hserver]
    simp only [BetweenIncrAndSet, hwriting]
    exact hp.settled_or key hkey
  case writing =>
    intro u m entry h
    rw [hserver]
    exact hp.writing u m entry (hwriting.mp h)
  case writing_slot =>
    intro u m entry u' m' entry' h h' heq
    exact hp.writing_slot u m entry u' m' entry' (hwriting.mp h) (hwriting.mp h') heq
  case reading =>
    intro u m key value h
    rw [hserver]
    obtain ⟨_, _, hnew⟩ | ⟨_, hold⟩ := h.update_cases htasks
    · exact hreading key value hnew
    · exact hp.reading u m key value hold
  case carries => exact fun entry h => (hcarries entry h).elim (hp.carries entry) id

omit [DecidableEq ν] in
/-- The value read outside of every `set_config` is the settled one. -/
theorem get_value (hp : Paired K history settled s) {key value : String} (hkey : key ∈ K.keys)
    (hset : ¬ BetweenIncrAndSet s key) (hvalue : s.server.store.get? (config_key key) = some value) :
    settled key = version_count s.server.store key ∧ history key (settled key) = value := by
  refine ⟨(hp.settled_or key hkey).resolve_right hset, ?_⟩
  have hwritten := hp.written key hkey
  rw [hvalue] at hwritten
  split at hwritten
  · cases hwritten
  · exact (Option.some.inj hwritten).symm

omit [DecidableEq ν] in
theorem step (hb : Bounded K s) (hp : Paired K history settled s)
    (hincr_key : ∀ t task, s.tasks t = some task → ∀ key value, task.pc = .incr key value → key ∈ K.keys)
    (hget_key : ∀ t task, s.tasks t = some task →
      ∀ key batch, task.pc = .get_value key batch → starts_with VERSION_PREFIX key = false)
    {choice : ScanChoice} (hok : PairingSafe K s (.exec t choice)) (h : Loud s t s') :
    ∃ history settled, Paired K history settled s' := by
  have hcarried := h.carries
  cases h with
  | @incr n key value store version htask hincr =>
    have hkey := hincr_key t _ htask key value rfl
    obtain ⟨hset, hgets⟩ := hok.incr t choice n key value rfl htask
    obtain ⟨rfl, rfl⟩ := RedisKeyspace.incr_counter (hb.counts key hkey) hincr
    refine ⟨_, _, hp.incr hkey htask hset hgets rfl ?_ ?_⟩
    · rw [(hp.settled_or key hkey).resolve_right hset]
    · intro entry h
      obtain hold | ⟨m, hnew⟩ := hcarried entry h
      · exact hold
      · obtain ⟨_, _, hnew⟩ | ⟨hne, _⟩ := hnew.update_cases rfl
        · cases hnew
        · exact absurd rfl hne
  | @set n written htask =>
    refine ⟨_, _, hp.set hb htask rfl rfl fun entry h => ?_⟩
    refine (hcarried entry h).imp_right ?_
    rintro ⟨m, hnew⟩
    obtain ⟨_, _, hnew⟩ | ⟨hne, _⟩ := hnew.update_cases rfl
    · exact hnew.symm
    · exact absurd rfl hne
  | @get_value n raw_key value batch htask hvalue =>
    obtain ⟨key, hkey, rfl⟩ := hb.found_key hvalue (hget_key t _ htask raw_key batch rfl)
    have hset := hok.get_value t choice n _ batch rfl htask
    rw [short_key_config_key] at hset
    refine ⟨_, _, hp.of_get htask rfl rfl (fun _ => Iff.rfl) ?_ ?_⟩
    · rintro key' value' ⟨rfl, rfl⟩
      rw [short_key_config_key]
      exact hp.get_value hkey hset hvalue
    · intro entry h
      refine (hcarried entry h).imp_right ?_
      rintro ⟨m, hnew⟩
      obtain ⟨_, _, hnew⟩ | ⟨hne, _⟩ := hnew.update_cases rfl
      · cases hnew
      · exact absurd rfl hne
  | @get_version n raw_key value batch htask =>
    have hslot : s.TaskAt t n (Reading (short_key raw_key) value) := ⟨_, htask, rfl, rfl, rfl⟩
    obtain ⟨hkey, hpos⟩ := hb.reading t n (short_key raw_key) value hslot
    obtain ⟨hsettled, hread⟩ := hp.reading t n (short_key raw_key) value hslot
    refine ⟨_, _, hp.of_get htask rfl rfl (fun _ => Iff.rfl) (fun _ _ h => by cases h) ?_⟩
    intro entry h
    refine (hcarried entry h).imp_right ?_
    rintro ⟨m, hnew⟩
    obtain ⟨_, _, heq, hvalue, hversion⟩ | ⟨hne, _⟩ := hnew.update_cases rfl
    · rw [read_version_get hpos (hb.counts _ hkey), Option.some.injEq] at hversion
      rw [← heq, ← hversion, ← hvalue, ← hsettled]
      exact ⟨Int.le_refl _, hread⟩
    · exact absurd rfl hne

end Paired

/-- In a run in which no INCR and no read of a value falls into another call's gap,
every version in sight stands for one value. -/
theorem reachable_paired {ok : State ν → Action ν → Prop} (hok : ∀ s a, ok s a → PairingSafe K s a)
    (h : system.ReachableWhere ok s) : ∃ history settled, Paired K history settled s := by
  refine TransitionSystem.ReachableWhere.invariant_of (P := fun s => ∃ history settled, Paired K history settled s)
    (Q := system.ReachableWhere ok) (fun s hs => hs) ?_ ?_ h
  · intro s hs
    have hstore := initial_store hs
    have hcount : ∀ key, version_count s.server.store key = 0 := by
      intro key
      rw [hstore]
      exact version_count_eq (n := 0) rfl
    refine ⟨fun _ _ => "", fun _ => 0, fun key _ => Nat.zero_le _, fun key _ => .inl (hcount key).symm, ?_,
      fun t n entry h => absurd h (initial_taskAt hs), fun t n entry _ _ _ h => absurd h (initial_taskAt hs),
      fun t n key value h => absurd h (initial_taskAt hs), fun entry h => absurd h (initial_carries hs)⟩
    intro key _
    rw [hstore]
    rfl
  · rintro s a s' hreach ⟨history, settled, hp⟩ hoka hstep
    have hkeys := fun s a hoka => (hok s a hoka).keys
    obtain hquiet | ⟨t, choice, rfl, hloud⟩ := quiet_or_loud (no_orphans hreach) hstep
    · exact ⟨history, settled, hp.quiet hquiet⟩
    · exact hp.step (reachable_bounded hkeys hreach) (incr_key hkeys hreach) (get_value_key hreach)
        (hok s _ hoka) hloud

/-- The version counter of a key as Redis has it. -/
def redis_version (store : RedisKeyspace) (key : String) : Option ℤ :=
  (store.get? (version_key key)).bind PyDecimal.toInt

theorem redis_version_eq {n : ℕ} {store : RedisKeyspace} {key : String}
    (h : store.get? (version_key key) = RedisKeyspace.counter n) :
    redis_version store key = if n = 0 then none else some (n : ℤ) := by
  rw [redis_version, h]
  cases n with
  | zero => rfl
  | succ n =>
    rw [RedisKeyspace.counter, Option.bind_some, PyDecimal.toInt_toString, if_neg (Nat.succ_ne_zero n)]

/-- Two caches that agree on the version of the key agree on its value, and a cache
that has the version of the Redis counter has the Redis value. -/
def VersionDeterminesValue (s : State ν) (key : String) : Prop :=
  (∀ n m value value' version, (s.node n).get? key = some (value, version) →
      (s.node m).get? key = some (value', version) → value = value') ∧
    ∀ n value version, (s.node n).get? key = some (value, version) →
      redis_version s.server.store key = some version → s.server.store.get? (config_key key) = some value

omit [DecidableEq ν] in
/-- Whoever carries a version has the value that the history pairs with it. -/
theorem Paired.determines {history : String → ℤ → String} {settled : String → ℕ}
    (hp : Paired K history settled s) (hb : Bounded K s) (key : String) : VersionDeterminesValue s key := by
  have hcarries : ∀ {n value version}, (s.node n).get? key = some (value, version) →
      Carries s { key, value, version } := fun hcached => .inl ⟨_, hcached⟩
  refine ⟨fun n m value value' version hn hm => ?_, fun n value version hn hversion => ?_⟩
  · have hvalue : history key version = value := (hp.carries _ (hcarries hn)).2
    have hvalue' : history key version = value' := (hp.carries _ (hcarries hm)).2
    exact hvalue.symm.trans hvalue'
  · obtain ⟨hkey, hpos, _⟩ := hb.carries _ (hcarries hn)
    obtain ⟨hle, hvalue⟩ := hp.carries _ (hcarries hn)
    have hsettled := hp.settled_le key hkey
    rw [redis_version_eq (hb.counts key hkey)] at hversion
    split at hversion
    · cases hversion
    · -- The cached version is settled, so the counter has not moved past it.
      cases hversion
      have heq : settled key = version_count s.server.store key := by
        simp only at hle
        omega
      rw [hp.written key hkey, if_neg (by omega), heq]
      exact congrArg some hvalue

/-- A version determines its value in every state of a run in which INCR and the
read of a value fall into no other call's gap. -/
theorem version_determines_value (h : system.ReachableWhere (PairingSafe K) s) (key : String) :
    VersionDeterminesValue s key := by
  obtain ⟨_, _, hp⟩ := reachable_paired (fun _ _ hok => hok) h
  exact hp.determines (reachable_bounded (fun _ _ hok => hok.keys) h) key

/-- Calls that follow one another have no gaps to fall into. -/
theorem OneCaller.pairingSafe (h : system.ReachableWhere (fun _ a => OneCaller K a) s) {a : Action ν}
    (hcaller : OneCaller K a) : PairingSafe K s a := by
  refine ⟨hcaller.1, fun t choice n key value _ htask => ⟨?_, ?_⟩, fun t choice n key batch _ htask => ?_⟩
  · rintro ⟨u, m, entry, hwriting, _⟩
    exact same_task h htask hwriting
  · rintro ⟨u, m, text, hreading⟩
    exact same_task h htask hreading
  · rintro ⟨u, m, entry, hwriting, _⟩
    exact same_task h htask hwriting

/-- One node sets a key and another one starts up afterwards. -/
theorem version_determines_value_two_nodes :
    ∃ s : State ℕ, (s.node 0).get? "rate" = some ("5", 1) ∧ (s.node 1).get? "rate" = some ("5", 1) ∧
      redis_version s.server.store "rate" = some 1 ∧ VersionDeterminesValue s "rate" := by
  obtain ⟨s, hreach, htest⟩ := TransitionSystem.exists_of_replay (fun _ a => OneCaller rate_only a)
    (fun _ a => one_rate_caller a) (fun _ _ => one_rate_caller_ok) (s := (idle : State ℕ)) idle_initial
    [.call 0 0 (.set_config "rate" "5"), .exec 0 ⟨[], false⟩, .resume 0, .exec 0 ⟨[], false⟩, .resume 0,
      .exec 0 ⟨[], false⟩, .resume 0,
      .call 0 1 .run_sync_loop, .exec 0 ⟨[version_key "rate", config_key "rate"], true⟩, .resume 0,
      .exec 0 ⟨[], false⟩, .resume 0, .exec 0 ⟨[], false⟩, .resume 0, .exec 0 ⟨[], false⟩]
    (fun s => (s.node 0).get? "rate" = some ("5", 1) ∧ (s.node 1).get? "rate" = some ("5", 1) ∧
      redis_version s.server.store "rate" = some 1)
    (by decide)
  obtain ⟨hwriter, hsynced, hversion⟩ := of_decide_eq_true htest
  have hsafe : system.ReachableWhere (PairingSafe rate_only) s :=
    hreach.mono fun _ _ hs hcaller => hcaller.pairingSafe hs
  exact ⟨s, hwriter, hsynced, hversion, version_determines_value hsafe "rate"⟩

/-- A sync reads the value after INCR and before SET: both nodes have version 2, with
different values. -/
theorem sync_between_incr_and_set :
    ¬ ∀ (s : State ℕ) (key : String), system.Reachable s → VersionDeterminesValue s key := by
  intro hclaim
  obtain ⟨s, hreach, htest⟩ := TransitionSystem.exists_of_replay (fun _ _ => True)
    (fun _ _ => true) (fun _ _ _ => trivial) (s := (idle : State ℕ)) idle_initial
    [.call 0 0 (.set_config "rate" "5"), .exec 0 ⟨[], false⟩, .resume 0, .exec 0 ⟨[], false⟩, .resume 0,
      .exec 0 ⟨[], false⟩, .resume 0, .call 0 0 (.set_config "rate" "9"), .exec 0 ⟨[], false⟩,
      .call 1 1 .run_sync_loop, .exec 1 ⟨[version_key "rate", config_key "rate"], true⟩, .resume 1,
      .exec 1 ⟨[], false⟩, .resume 1, .exec 1 ⟨[], false⟩, .resume 1,
      .resume 0, .exec 0 ⟨[], false⟩, .resume 0]
    (fun s => (s.node 0).get? "rate" = some ("9", 2) ∧ (s.node 1).get? "rate" = some ("5", 2))
    (by decide)
  obtain ⟨hwriter, hsynced⟩ := of_decide_eq_true htest
  have hsame : "9" = "5" := (hclaim s "rate" hreach).1 0 1 "9" "5" 2 hwriter hsynced
  exact absurd hsame (by decide)

end gateway.config_sync
