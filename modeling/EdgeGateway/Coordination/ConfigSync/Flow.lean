import EdgeGateway.Coordination.ConfigSync

namespace gateway.config_sync

/-- A `set_config` call between INCR, which gave the entry its version, and SET. -/
def Writing (entry : Entry) : Pc → Option Reply → Prop
  | .incr key value, some (.integer version) => entry = { key, value, version }
  | .set entry', none => entry' = entry
  | _, _ => False

/-- A sync between the GET of the value of the key and the GET of its version. -/
def Reading (key value : String) : Pc → Option Reply → Prop
  | .get_value raw_key _, some (.bulk text) => short_key raw_key = key ∧ text = value
  | .get_version raw_key text _, none => short_key raw_key = key ∧ text = value
  | _, _ => False

/-- A call about to store the entry in the cache of its node. -/
def Holding (entry : Entry) : Pc → Option Reply → Prop
  | .set entry', some _ => entry' = entry
  | .get_version raw_key value _, some reply =>
    short_key raw_key = entry.key ∧ value = entry.value ∧ read_version reply = some entry.version
  | _, _ => False

/-- A `set_config` call that has stored the entry and is not done with PUBLISH. -/
def Publishing (entry : Entry) : Pc → Option Reply → Prop
  | .publish entry', _ => entry' = entry
  | _, _ => False

variable {ν : Type} [DecidableEq ν]

omit [DecidableEq ν] in
/-- The entry is in a cache, in a message or in the hands of a call, and whoever
wrote it is past SET. -/
def Carries (s : State ν) (entry : Entry) : Prop :=
  (∃ n, (s.node n).get? entry.key = some (entry.value, entry.version)) ∨
    (∃ n, entry ∈ s.server.inbox n) ∨ entry ∈ s.server.sent ∨
    ∃ t n, s.TaskAt t n (Holding entry) ∨ s.TaskAt t n (Publishing entry)

variable {s s' : State ν} {t : ℕ}

theorem step_call {n : ν} {c : Call} (h : protocol.step s (.call t n c) = some s') :
    s.tasks t = none ∧
      s' = { s with tasks := Function.update s.tasks t (some { node := n, pc := start c }) } := by
  obtain ⟨hfree, rfl⟩ := AsyncProtocol.step_call h
  refine ⟨hfree, ?_⟩
  simp [protocol]

theorem step_exec (hclean : ∀ t task, s.tasks t = some task → task.orphan = false) {choice : ScanChoice}
    (h : protocol.step s (.exec t choice) = some s') :
    ∃ n pc server reply, s.tasks t = some { node := n, pc } ∧
      execute s.server n choice pc = some (server, reply) ∧
      s' = { s with
        server
        tasks := Function.update s.tasks t (some { node := n, pc, reply := some reply }) } := by
  obtain ⟨n, pc, orphan, server, reply, htask, hexec, rfl⟩ := AsyncProtocol.step_exec h
  obtain rfl : orphan = false := hclean t _ htask
  exact ⟨n, pc, server, reply, htask, hexec, rfl⟩

theorem step_resume (hclean : ∀ t task, s.tasks t = some task → task.orphan = false)
    (h : protocol.step s (.resume t) = some s') :
    ∃ n pc reply, s.tasks t = some { node := n, pc, reply := some reply } ∧
      s' = { s with
        node := Function.update s.node n (resume (s.node n) pc reply).1
        tasks := Function.update s.tasks t
          ((resume (s.node n) pc reply).2.map fun pc => { node := n, pc }) } := by
  obtain ⟨n, pc, reply, orphan, htask, rfl⟩ := AsyncProtocol.step_resume h
  obtain rfl : orphan = false := hclean t _ htask
  exact ⟨n, pc, reply, htask, rfl⟩

omit [DecidableEq ν] in
theorem Carries.of_task {n : ν} {entry : Entry} (h : s.TaskAt t n (Holding entry)) : Carries s entry :=
  .inr (.inr (.inr ⟨t, n, .inl h⟩))

/-- A point at which a sync knows nothing about any entry yet. A key it is about to
GET is no version tracker. -/
inductive Browsing : Pc → Prop where
  | scan (cursor : Cursor) (serve : Bool) : Browsing (.scan cursor serve)
  | get_value {key : String} (batch : Batch) (hkey : starts_with VERSION_PREFIX key = false) :
      Browsing (.get_value key batch)
  | subscribe : Browsing .subscribe

theorem next_key_browsing {cursor : Cursor} {serve : Bool} {keys : List String} {pc : Pc}
    (h : next_key cursor serve keys = some pc) : Browsing pc := by
  induction keys with
  | nil =>
    simp only [next_key] at h
    split at h
    · cases h
      exact .scan _ _
    · simp only [Option.ite_none_right_eq_some, Option.some.injEq] at h
      exact h.2 ▸ .subscribe
  | cons key keys ih =>
    simp only [next_key] at h
    split at h
    · exact ih h
    · rename_i hkey
      cases h
      exact .get_value _ (by simpa using hkey)

/-- The step stores the entry in the cache of node `n`. -/
inductive Stores (s : State ν) : Action ν → ν → Entry → Prop where
  | resume {t : ℕ} {n : ν} {entry : Entry} (htask : s.TaskAt t n (Holding entry)) :
      Stores s (.resume t) n entry
  | deliver {n : ν} {i : ℕ} {entry : Entry} (hmessage : (s.server.inbox n)[i]? = some entry)
      (hnewer : (get_local (s.node n) entry.key).2 < entry.version) :
      Stores s (.event (.deliver n i)) n entry
  | SyncConfig {n : ν} {i : ℕ} {entry : Entry} (hmessage : s.server.sent[i]? = some entry)
      (hnewer : (get_local (s.node n) entry.key).2 < entry.version) :
      Stores s (.event (.SyncConfig n i)) n entry

omit [DecidableEq ν] in
theorem Stores.carries {a : Action ν} {n : ν} {entry : Entry} (h : Stores s a n entry) : Carries s entry := by
  cases h with
  | resume htask => exact .of_task htask
  | deliver hmessage _ => exact .inr (.inl ⟨n, List.mem_of_getElem? hmessage⟩)
  | SyncConfig hmessage _ => exact .inr (.inr (.inl (List.mem_of_getElem? hmessage)))

theorem cached_set_local {config : LocalConfig} {entry e : Entry}
    (h : (set_local config entry).get? e.key = some (e.value, e.version)) :
    e = entry ∨ config.get? e.key = some (e.value, e.version) := by
  rw [get?_set_local] at h
  split at h
  · rename_i hkey
    simp only [Option.some.injEq, Prod.mk.injEq] at h
    exact .inl (by cases e; cases entry; simp_all)
  · exact .inr h

/-- A call that is resumed stores what it holds, or nothing. -/
theorem resume_config (config : LocalConfig) (pc : Pc) (reply : Reply) :
    (resume config pc reply).1 = config ∨
      ∃ entry, Holding entry pc (some reply) ∧ (resume config pc reply).1 = set_local config entry := by
  cases pc with
  | incr key value => cases reply <;> exact .inl rfl
  | set entry => exact .inr ⟨entry, rfl, rfl⟩
  | publish entry => exact .inl rfl
  | scan cursor serve => cases reply <;> exact .inl rfl
  | get_value key batch => cases reply <;> exact .inl rfl
  | get_version key value batch =>
    cases hversion : read_version reply with
    | none => exact .inl (by simp [resume, hversion])
    | some version =>
      exact .inr ⟨{ key := short_key key, value, version }, ⟨rfl, rfl, hversion⟩, by simp [resume, hversion]⟩
  | subscribe => exact .inl rfl

/-- Every change of a cache stores one entry. -/
theorem node_step {a : Action ν} (hclean : ∀ t task, s.tasks t = some task → task.orphan = false)
    (h : protocol.step s a = some s') (n : ν) :
    s'.node n = s.node n ∨ ∃ entry, Stores s a n entry ∧ s'.node n = set_local (s.node n) entry := by
  cases a with
  | call t m c =>
    obtain ⟨_, rfl⟩ := step_call h
    exact .inl rfl
  | exec t choice =>
    obtain ⟨m, pc, server, reply, _, _, rfl⟩ := step_exec hclean h
    exact .inl rfl
  | resume t =>
    obtain ⟨m, pc, reply, htask, rfl⟩ := step_resume hclean h
    by_cases hn : n = m
    · subst hn
      simp only [Function.update_self]
      refine (resume_config (s.node n) pc reply).imp_right ?_
      rintro ⟨entry, hholding, hstore⟩
      exact ⟨entry, .resume ⟨_, htask, rfl, hholding⟩, hstore⟩
    · exact .inl (Function.update_of_ne hn _ _)
  | fail t =>
    obtain ⟨hfaulty, _⟩ := AsyncProtocol.step_fail h
    cases hfaulty
  | drop t =>
    obtain ⟨_, rfl⟩ := AsyncProtocol.step_drop h
    exact .inl rfl
  | event e =>
    obtain ⟨server, node, hevent, rfl⟩ := AsyncProtocol.step_event h
    cases e with
    | deliver m i =>
      obtain ⟨entry, hmessage, heq⟩ := Option.map_eq_some_iff.mp hevent
      cases heq
      by_cases hn : n = m
      · subst hn
        simp only [Function.update_self, apply_notification]
        split
        · exact .inr ⟨entry, .deliver hmessage (by assumption), rfl⟩
        · exact .inl rfl
      · exact .inl (Function.update_of_ne hn _ _)
    | send m key =>
      obtain ⟨pair, _, heq⟩ := Option.map_eq_some_iff.mp hevent
      cases heq
      exact .inl rfl
    | SyncConfig m i =>
      obtain ⟨entry, hmessage, heq⟩ := Option.map_eq_some_iff.mp hevent
      cases heq
      by_cases hn : n = m
      · subst hn
        simp only [Function.update_self, sync_entry]
        split
        · exact .inl rfl
        · split
          · exact .inr ⟨entry, .SyncConfig hmessage (by assumption), rfl⟩
          · exact .inl rfl
      · exact .inl (Function.update_of_ne hn _ _)

/-- A step that fetches and stores nothing. -/
structure Quiet (s s' : State ν) : Prop where
  store : s'.server.store = s.server.store
  writing : ∀ t n entry, s'.TaskAt t n (Writing entry) ↔ s.TaskAt t n (Writing entry)
  reading : ∀ t n key value, s'.TaskAt t n (Reading key value) → s.TaskAt t n (Reading key value)
  holding : ∀ t n entry, s'.TaskAt t n (Holding entry) → s.TaskAt t n (Holding entry)
  carries : ∀ entry, Carries s' entry → Carries s entry

/-- The commands that matter for versions: INCR, SET and the GETs of a sync that
found its key. -/
inductive Loud (s : State ν) (t : ℕ) : State ν → Prop where
  | incr {n : ν} {key value : String} {store : RedisKeyspace} {version : ℤ}
      (htask : s.tasks t = some { node := n, pc := .incr key value })
      (hincr : s.server.store.incr (version_key key) = some (store, version)) :
      Loud s t { s with
        server := { s.server with store }
        tasks := Function.update s.tasks t
          (some { node := n, pc := .incr key value, reply := some (.integer version) }) }
  | set {n : ν} {entry : Entry} (htask : s.tasks t = some { node := n, pc := .set entry }) :
      Loud s t { s with
        server := { s.server with store := s.server.store.set (config_key entry.key) entry.value }
        tasks := Function.update s.tasks t (some { node := n, pc := .set entry, reply := some .ok }) }
  | get_value {n : ν} {key value : String} {batch : Batch}
      (htask : s.tasks t = some { node := n, pc := .get_value key batch })
      (hvalue : s.server.store.get? key = some value) :
      Loud s t { s with
        tasks := Function.update s.tasks t
          (some { node := n, pc := .get_value key batch, reply := some (.bulk value) }) }
  | get_version {n : ν} {key value : String} {batch : Batch}
      (htask : s.tasks t = some { node := n, pc := .get_version key value batch }) :
      Loud s t { s with
        tasks := Function.update s.tasks t
          (some { node := n, pc := .get_version key value batch
                  reply := some (get s.server.store (version_key (short_key key))) }) }

omit [DecidableEq ν] in
/-- Such a command leaves caches and messages alone, so whatever is new is in the
hands of its caller. -/
theorem Loud.carries (h : Loud s t s') (entry : Entry) (hcarries : Carries s' entry) :
    Carries s entry ∨ ∃ n, s'.TaskAt t n (Holding entry) := by
  have htask : ∀ {n pc reply}, s.tasks t = some { node := n, pc } →
      s'.tasks = Function.update s.tasks t (some { node := n, pc, reply := some reply }) →
      ∀ u m, s'.TaskAt u m (Publishing entry) → s.TaskAt u m (Publishing entry) := by
    intro n pc reply htask htasks u m hpublishing
    obtain ⟨rfl, hnode, hC⟩ | ⟨_, hold⟩ := hpublishing.update_cases htasks
    · exact ⟨_, htask, hnode, by cases pc <;> exact hC⟩
    · exact hold
  have hholding : ∀ {n pc reply}, 
      s'.tasks = Function.update s.tasks t (some { node := n, pc, reply := some reply }) →
      ∀ u m, s'.TaskAt u m (Holding entry) → Carries s entry ∨ ∃ n, s'.TaskAt t n (Holding entry) := by
    intro n pc reply htasks u m hholding
    obtain ⟨rfl, _⟩ | ⟨_, hold⟩ := hholding.update_cases htasks
    · exact .inr ⟨m, hholding⟩
    · exact .inl (.of_task hold)
  obtain ⟨n, hn⟩ | ⟨n, hn⟩ | hn | ⟨u, n, hn | hn⟩ := hcarries
  · exact .inl (.inl ⟨n, by cases h <;> exact hn⟩)
  · exact .inl (.inr (.inl ⟨n, by cases h <;> exact hn⟩))
  · exact .inl (.inr (.inr (.inl (by cases h <;> exact hn))))
  · cases h <;> exact hholding rfl u n hn
  · refine .inl (.inr (.inr (.inr ⟨u, n, .inr ?_⟩)))
    cases h with
    | incr hslot _ => exact htask hslot rfl u n hn
    | set hslot => exact htask hslot rfl u n hn
    | get_value hslot _ => exact htask hslot rfl u n hn
    | get_version hslot => exact htask hslot rfl u n hn

omit [DecidableEq ν] in
theorem quiet_of_slot {new : Option (Task ν)} (htasks : s'.tasks = Function.update s.tasks t new)
    (hserver : s'.server.store = s.server.store)
    (hwriting : ∀ n entry, (∃ task, new = some task ∧ task.node = n ∧ Writing entry task.pc task.reply) ↔
      s.TaskAt t n (Writing entry))
    (hreading : ∀ task key value, new = some task → Reading key value task.pc task.reply →
      s.TaskAt t task.node (Reading key value))
    (hholding : ∀ task entry, new = some task → Holding entry task.pc task.reply →
      s.TaskAt t task.node (Holding entry))
    (hpublishing : ∀ task entry, new = some task → Publishing entry task.pc task.reply → Carries s entry)
    (hcached : ∀ n entry, (s'.node n).get? entry.key = some (entry.value, entry.version) → Carries s entry)
    (hinbox : ∀ n entry, entry ∈ s'.server.inbox n → Carries s entry)
    (hsent : ∀ entry, entry ∈ s'.server.sent → Carries s entry) : Quiet s s' := by
  have hold : ∀ u n entry, s'.TaskAt u n (Holding entry) → s.TaskAt u n (Holding entry) :=
    fun u n entry h => h.of_update htasks fun task hnew hC => hholding task entry hnew hC
  refine ⟨hserver, fun u n entry => ⟨fun h => ?_, fun h => ?_⟩, fun u n key value h => ?_, hold, ?_⟩
  · exact h.of_update htasks fun task hnew hC => (hwriting _ _).mp ⟨task, hnew, rfl, hC⟩
  · exact h.update htasks fun hslot => (hwriting _ _).mpr hslot
  · exact h.of_update htasks fun task hnew hC => hreading task key value hnew hC
  · rintro entry (⟨n, hn⟩ | ⟨n, hn⟩ | hn | ⟨u, n, hn | hn⟩)
    · exact hcached n entry hn
    · exact hinbox n entry hn
    · exact hsent entry hn
    · exact .of_task (hold u n entry hn)
    · obtain ⟨task, htask, rfl, hC⟩ := hn
      rw [htasks] at htask
      obtain ⟨_, hwrite⟩ | ⟨_, hkept⟩ := AsyncProtocol.update_tasks_cases htask
      · exact hpublishing task entry hwrite hC
      · exact .inr (.inr (.inr ⟨u, _, .inr ⟨task, hkept, rfl, hC⟩⟩))

/-- No step makes up an entry in a cache. -/
theorem cached_step {a : Action ν} (hclean : ∀ t task, s.tasks t = some task → task.orphan = false)
    (h : protocol.step s a = some s') (n : ν) (entry : Entry)
    (hcached : (s'.node n).get? entry.key = some (entry.value, entry.version)) : Carries s entry := by
  obtain hsame | ⟨stored, hstores, hset⟩ := node_step hclean h n
  · exact .inl ⟨n, hsame ▸ hcached⟩
  · rw [hset] at hcached
    obtain rfl | hold := cached_set_local hcached
    · exact hstores.carries
    · exact .inl ⟨n, hold⟩

theorem quiet_of_call (hclean : ∀ t task, s.tasks t = some task → task.orphan = false) {n : ν} {c : Call}
    (h : protocol.step s (.call t n c) = some s') : Quiet s s' := by
  have hcached := cached_step hclean h
  obtain ⟨hfree, rfl⟩ := step_call h
  have hnone : ∀ n C, ¬ s.TaskAt t n C := by
    rintro n C ⟨task, htask, _⟩
    rw [hfree] at htask
    cases htask
  refine quiet_of_slot rfl rfl ?_ ?_ ?_ ?_ hcached (fun n entry hn => .inr (.inl ⟨n, hn⟩))
    (fun entry hn => .inr (.inr (.inl hn)))
  · intro m entry
    constructor
    · rintro ⟨task, heq, _, hC⟩
      cases heq
      cases c <;> cases hC
    · exact fun h => absurd h (hnone _ _)
  all_goals
    intro task
    intros
    rename_i heq hC
    cases heq
    cases c <;> cases hC

theorem quiet_of_event (hclean : ∀ t task, s.tasks t = some task → task.orphan = false) {e : Event ν}
    (h : protocol.step s (.event e) = some s') : Quiet s s' := by
  have hcached := cached_step hclean h
  obtain ⟨server, node, hevent, rfl⟩ := AsyncProtocol.step_event h
  have hserver : server.store = s.server.store ∧ server.inbox = s.server.inbox ∧
      ∀ entry ∈ server.sent, Carries s entry := by
    cases e with
    | deliver m i =>
      obtain ⟨entry, _, heq⟩ := Option.map_eq_some_iff.mp hevent
      cases heq
      exact ⟨rfl, rfl, fun entry hn => .inr (.inr (.inl hn))⟩
    | send m key =>
      obtain ⟨⟨value, version⟩, hget, heq⟩ := Option.map_eq_some_iff.mp hevent
      cases heq
      refine ⟨rfl, rfl, fun entry hn => ?_⟩
      obtain hn | hn := List.mem_append.mp hn
      · exact .inr (.inr (.inl hn))
      · cases List.mem_singleton.mp hn
        exact .inl ⟨m, hget⟩
    | SyncConfig m i =>
      obtain ⟨entry, _, heq⟩ := Option.map_eq_some_iff.mp hevent
      cases heq
      exact ⟨rfl, rfl, fun entry hn => .inr (.inr (.inl hn))⟩
  obtain ⟨hstore, hinbox, hsent⟩ := hserver
  refine ⟨hstore, fun _ _ _ => Iff.rfl, fun _ _ _ _ h => h, fun _ _ _ h => h, ?_⟩
  rintro entry (⟨n, hn⟩ | ⟨n, hn⟩ | hn | hn)
  · exact hcached n entry hn
  · exact .inr (.inl ⟨n, hinbox ▸ hn⟩)
  · exact hsent entry hn
  · exact .inr (.inr (.inr hn))

/-- A point at which a call has nothing to do with any entry. -/
structure Silent (pc : Pc) (reply : Option Reply) : Prop where
  writing : ∀ entry, ¬ Writing entry pc reply
  reading : ∀ key value, ¬ Reading key value pc reply
  holding : ∀ entry, ¬ Holding entry pc reply
  publishing : ∀ entry, ¬ Publishing entry pc reply

theorem Browsing.silent {pc : Pc} (h : Browsing pc) : Silent pc none := by
  cases h <;> exact ⟨fun _ h => h, fun _ _ h => h, fun _ h => h, fun _ h => h⟩

/-- A resumed call goes on to SET, to PUBLISH or to the GET of a version with what
it has, or drops it. -/
theorem resume_cases (config : LocalConfig) (pc : Pc) (reply : Reply) :
    (∃ entry, Writing entry pc (some reply) ∧ (resume config pc reply).2 = some (.set entry)) ∨
      (∃ entry, pc = .set entry ∧ (resume config pc reply).2 = some (.publish entry)) ∨
      (∃ key value batch, Reading (short_key key) value pc (some reply) ∧
        (resume config pc reply).2 = some (.get_version key value batch)) ∨
      ((∀ entry, ¬ Writing entry pc (some reply)) ∧
        ∀ next, (resume config pc reply).2 = some next → Browsing next) := by
  cases pc with
  | incr key value =>
    cases reply with
    | integer version => exact .inl ⟨_, rfl, rfl⟩
    | _ => exact .inr (.inr (.inr ⟨fun _ h => h, fun next h => by cases h⟩))
  | set entry => exact .inr (.inl ⟨entry, rfl, rfl⟩)
  | publish entry => exact .inr (.inr (.inr ⟨fun _ h => h, fun next h => by cases h⟩))
  | scan cursor serve =>
    refine .inr (.inr (.inr ⟨fun _ h => h, fun next h => ?_⟩))
    cases reply with
    | scanned cursor keys => exact next_key_browsing h
    | _ =>
      simp only [resume, Option.ite_none_right_eq_some, Option.some.injEq] at h
      exact h.2 ▸ .subscribe
  | get_value key batch =>
    cases reply with
    | bulk value => exact .inr (.inr (.inl ⟨key, value, batch, ⟨rfl, rfl⟩, rfl⟩))
    | _ => exact .inr (.inr (.inr ⟨fun _ h => h, fun next h => next_key_browsing h⟩))
  | get_version key value batch =>
    refine .inr (.inr (.inr ⟨fun _ h => h, fun next h => ?_⟩))
    simp only [resume] at h
    cases hversion : read_version reply with
    | some version =>
      rw [hversion] at h
      exact next_key_browsing h
    | none =>
      rw [hversion] at h
      simp only [Option.ite_none_right_eq_some, Option.some.injEq] at h
      exact h.2 ▸ .subscribe
  | subscribe => exact .inr (.inr (.inr ⟨fun _ h => h, fun next h => by cases h⟩))

theorem Writing.unique {pc : Pc} {reply : Option Reply} {entry entry' : Entry} (h : Writing entry pc reply)
    (h' : Writing entry' pc reply) : entry = entry' := by
  unfold Writing at h h'
  split at h
  · exact h.trans h'.symm
  · exact h.symm.trans h'
  · cases h

theorem Writing.not_holding {pc : Pc} {reply : Option Reply} {entry entry' : Entry}
    (h : Writing entry pc reply) : ¬ Holding entry' pc reply := by
  unfold Writing at h
  split at h
  · exact fun h => h
  · exact fun h => h
  · cases h

theorem Writing.not_reading {pc : Pc} {reply : Option Reply} {entry : Entry} {key value : String}
    (h : Writing entry pc reply) : ¬ Reading key value pc reply := by
  unfold Writing at h
  split at h
  · exact fun h => h
  · exact fun h => h
  · cases h

theorem quiet_of_resume (hclean : ∀ t task, s.tasks t = some task → task.orphan = false)
    (h : protocol.step s (.resume t) = some s') : Quiet s s' := by
  have hcached := cached_step hclean h
  obtain ⟨n, pc, reply, htask, rfl⟩ := step_resume hclean h
  have hat {m : ν} {C : Pc → Option Reply → Prop} : s.TaskAt t m C ↔ n = m ∧ C pc (some reply) :=
    AsyncProtocol.State.taskAt_iff htask
  have hinbox : ∀ m entry, entry ∈ s.server.inbox m → Carries s entry := fun m _ hm => .inr (.inl ⟨m, hm⟩)
  have hsent : ∀ entry, entry ∈ s.server.sent → Carries s entry := fun _ hm => .inr (.inr (.inl hm))
  obtain ⟨entry, hold, hnext⟩ | ⟨entry, rfl, hnext⟩ | ⟨key, value, batch, hold, hnext⟩ | ⟨hold, hnext⟩ :=
    resume_cases (s.node n) pc reply
  · -- INCR was answered: the call stays between INCR and SET.
    refine quiet_of_slot rfl rfl ?_ ?_ ?_ ?_ hcached hinbox hsent <;> rw [hnext]
    · intro m entry'
      rw [hat]
      constructor
      · rintro ⟨task, heq, rfl, hC⟩
        cases heq
        obtain rfl : entry = entry' := hC
        exact ⟨rfl, hold⟩
      · rintro ⟨rfl, hC⟩
        exact ⟨_, rfl, rfl, hold.unique hC⟩
    · rintro task key' value' ⟨⟩ ⟨⟩
    · rintro task entry' ⟨⟩ ⟨⟩
    · rintro task entry' ⟨⟩ ⟨⟩
  · -- SET was answered: what the call held goes on to PUBLISH.
    refine quiet_of_slot rfl rfl ?_ ?_ ?_ ?_ hcached hinbox hsent <;> rw [hnext]
    · intro m entry'
      rw [hat]
      constructor
      · rintro ⟨task, ⟨⟩, _, ⟨⟩⟩
      · rintro ⟨_, hC⟩
        cases hC
    · rintro task key' value' ⟨⟩ ⟨⟩
    · rintro task entry' ⟨⟩ ⟨⟩
    · rintro task entry' ⟨⟩ hC
      obtain rfl : entry = entry' := hC
      exact .of_task (hat.mpr ⟨rfl, rfl⟩)
  · -- The GET of a value was answered: the sync goes on to its version.
    refine quiet_of_slot rfl rfl ?_ ?_ ?_ ?_ hcached hinbox hsent <;> rw [hnext]
    · intro m entry'
      rw [hat]
      constructor
      · rintro ⟨task, ⟨⟩, _, ⟨⟩⟩
      · rintro ⟨_, hC⟩
        exact absurd hold hC.not_reading
    · rintro task key' value' ⟨⟩ ⟨hkey, hvalue⟩
      exact hat.mpr ⟨rfl, hkey ▸ hvalue ▸ hold⟩
    · rintro task entry' ⟨⟩ ⟨⟩
    · rintro task entry' ⟨⟩ ⟨⟩
  · have hsilent : ∀ task, (resume (s.node n) pc reply).2.map (fun pc => ({ node := n, pc } : Task ν)) =
        some task → Silent task.pc task.reply := by
      intro task heq
      obtain ⟨next, hsome, rfl⟩ := Option.map_eq_some_iff.mp heq
      exact (hnext next hsome).silent
    refine quiet_of_slot rfl rfl ?_ ?_ ?_ ?_ hcached hinbox hsent
    · intro m entry'
      rw [hat]
      constructor
      · rintro ⟨task, heq, _, hC⟩
        exact absurd hC ((hsilent task heq).writing entry')
      · rintro ⟨_, hC⟩
        exact absurd hC (hold entry')
    · exact fun task key' value' heq hC => absurd hC ((hsilent task heq).reading key' value')
    · exact fun task entry' heq hC => absurd hC ((hsilent task heq).holding entry')
    · exact fun task entry' heq hC => absurd hC ((hsilent task heq).publishing entry')

omit [DecidableEq ν] in
/-- A command that neither fetches nor stores a version. -/
theorem quiet_of_exec {n : ν} {pc : Pc} {reply : Reply} {server : Redis ν}
    (htask : s.tasks t = some { node := n, pc })
    (htasks : s' = { s with
      server, tasks := Function.update s.tasks t (some { node := n, pc, reply := some reply }) })
    (hwriting : ∀ entry, ¬ Writing entry pc none) (hwriting' : ∀ entry, ¬ Writing entry pc (some reply))
    (hreading : ∀ key value, ¬ Reading key value pc (some reply))
    (hholding : ∀ entry, ¬ Holding entry pc (some reply))
    (hstore : server.store = s.server.store) (hsent : server.sent = s.server.sent)
    (hinbox : ∀ m entry, entry ∈ server.inbox m → entry ∈ s.server.inbox m ∨ Publishing entry pc none) :
    Quiet s s' := by
  subst htasks
  have hat {m : ν} {C : Pc → Option Reply → Prop} : s.TaskAt t m C ↔ n = m ∧ C pc none :=
    AsyncProtocol.State.taskAt_iff htask
  have hpublishing : ∀ entry, Publishing entry pc none → Carries s entry :=
    fun entry hC => .inr (.inr (.inr ⟨t, n, .inr (hat.mpr ⟨rfl, hC⟩)⟩))
  refine quiet_of_slot rfl hstore ?_ ?_ ?_ ?_ (fun m _ hm => .inl ⟨m, hm⟩) ?_ ?_
  · intro m entry
    rw [hat]
    constructor
    · rintro ⟨task, ⟨⟩, _, hC⟩
      exact absurd hC (hwriting' entry)
    · rintro ⟨_, hC⟩
      exact absurd hC (hwriting entry)
  · rintro task key value ⟨⟩ hC
    exact absurd hC (hreading key value)
  · rintro task entry ⟨⟩ hC
    exact absurd hC (hholding entry)
  · rintro task entry ⟨⟩ hC
    refine hpublishing entry ?_
    cases pc <;> exact hC
  · intro m entry hm
    obtain hm | hm := hinbox m entry hm
    · exact .inr (.inl ⟨m, hm⟩)
    · exact hpublishing entry hm
  · intro entry hm
    exact .inr (.inr (.inl (hsent ▸ hm)))

/-- What a step can do to versions. -/
theorem quiet_or_loud {a : Action ν} (hclean : ∀ t task, s.tasks t = some task → task.orphan = false)
    (h : protocol.step s a = some s') : Quiet s s' ∨ ∃ t choice, a = .exec t choice ∧ Loud s t s' := by
  cases a with
  | call t n c => exact .inl (quiet_of_call hclean h)
  | resume t => exact .inl (quiet_of_resume hclean h)
  | event e => exact .inl (quiet_of_event hclean h)
  | fail t =>
    obtain ⟨hfaulty, _⟩ := AsyncProtocol.step_fail h
    cases hfaulty
  | drop t =>
    obtain ⟨⟨task, htask, horphan⟩, _⟩ := AsyncProtocol.step_drop h
    rw [hclean t task htask] at horphan
    cases horphan
  | exec t choice =>
    obtain ⟨n, pc, server, reply, htask, hexec, rfl⟩ := step_exec hclean h
    cases pc with
    | incr key value =>
      simp only [execute] at hexec
      split at hexec
      · cases hexec
        exact .inl (quiet_of_exec htask rfl (fun _ h => h) (fun _ h => h) (fun _ _ h => h) (fun _ h => h)
          rfl rfl fun m entry hm => .inl hm)
      · rename_i hincr
        cases hexec
        exact .inr ⟨t, choice, rfl, .incr htask hincr⟩
    | set entry =>
      cases hexec
      exact .inr ⟨t, choice, rfl, .set htask⟩
    | publish entry =>
      cases hexec
      refine .inl (quiet_of_exec htask rfl (fun _ h => h) (fun _ h => h) (fun _ _ h => h) (fun _ h => h)
        rfl rfl fun m entry' hm => ?_)
      simp only [publish] at hm
      split at hm
      · obtain hm | hm := List.mem_append.mp hm
        · exact .inl hm
        · exact .inr (List.mem_singleton.mp hm).symm
      · exact .inl hm
    | scan cursor serve =>
      obtain ⟨_, hscan, heq⟩ := Option.map_eq_some_iff.mp hexec
      cases heq
      exact .inl (quiet_of_exec htask rfl (fun _ h => h) (fun _ h => h) (fun _ _ h => h) (fun _ h => h)
        rfl rfl fun m entry hm => .inl hm)
    | get_value key batch =>
      simp only [execute, get] at hexec
      split at hexec
      · cases hexec
        exact .inl (quiet_of_exec htask rfl (fun _ h => h) (fun _ h => h) (fun _ _ h => h) (fun _ h => h)
          rfl rfl fun m entry hm => .inl hm)
      · rename_i value hvalue
        cases hexec
        exact .inr ⟨t, choice, rfl, .get_value htask hvalue⟩
    | get_version key value batch =>
      cases hexec
      exact .inr ⟨t, choice, rfl, .get_version htask⟩
    | subscribe =>
      cases hexec
      exact .inl (quiet_of_exec htask rfl (fun _ h => h) (fun _ h => h) (fun _ _ h => h) (fun _ h => h)
        rfl rfl fun m entry hm => .inl hm)

end gateway.config_sync
