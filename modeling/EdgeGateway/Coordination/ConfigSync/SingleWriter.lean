import EdgeGateway.Coordination.ConfigSync.Versions

namespace gateway.config_sync

/-- The call is a `set_config`. -/
def InSetConfig : Pc → Option Reply → Prop
  | .incr _ _, _ | .set _, _ | .publish _, _ => True
  | _, _ => False

/-- The call is in `run_sync_loop` before its subscription is confirmed. -/
def Syncing : Pc → Option Reply → Prop
  | .scan _ _, _ | .get_value _ _, _ | .get_version _ _ _, _ | .subscribe, _ => True
  | _, _ => False

/-- The call is in `run_sync_loop` and SUBSCRIBE is yet to be executed. -/
def Unsubscribed : Pc → Option Reply → Prop
  | .subscribe, some _ => False
  | pc, reply => Syncing pc reply

/-- A `set_config` call that executed INCR and is yet to execute PUBLISH. -/
def Pending (entry : Entry) : Pc → Option Reply → Prop
  | .incr key value, some (.integer version) => entry = { key, value, version }
  | .set entry', _ => entry' = entry
  | .publish entry', none => entry' = entry
  | _, _ => False

variable {ν : Type} [DecidableEq ν]

omit [DecidableEq ν] in
def WriterIdle (s : State ν) : Prop := ∀ t n, ¬ s.TaskAt t n InSetConfig

/-- Node `writer` makes all `set_config` calls, one after the other, every node starts
`run_sync_loop` once, and each notification is handled once, in order. -/
structure SingleWriter (K : ConfigKeys) (writer : ν) (s : State ν) (a : Action ν) : Prop where
  keys : OnKeys K a
  set_config : ∀ t n key value, a = .call t n (.set_config key value) → n = writer ∧ WriterIdle s
  run_sync_loop : ∀ t n, a = .call t n .run_sync_loop →
    s.server.subscribed n = false ∧ ∀ u, ¬ s.TaskAt u n Syncing
  sync_from_leader : ∀ t n, a ≠ .call t n .sync_from_leader
  deliver : ∀ n i, a = .event (.deliver n i) → i = s.server.applied n

/-- One `set_config` at a time, one `run_sync_loop` a node, and no subscription before
its SUBSCRIBE. -/
structure Exclusive (s : State ν) : Prop where
  set_config : ∀ t n t' n', s.TaskAt t n InSetConfig → s.TaskAt t' n' InSetConfig → t = t'
  sync : ∀ t t' n, s.TaskAt t n Syncing → s.TaskAt t' n Syncing → t = t'
  unsubscribed : ∀ t n, s.TaskAt t n Unsubscribed → s.server.subscribed n = false

variable {K : ConfigKeys} {writer : ν} {s s' : State ν} {a : Action ν}

theorem Browsing.not_inSetConfig {pc : Pc} (h : Browsing pc) : ¬ InSetConfig pc none := by
  cases h <;> exact fun h => h

theorem inSetConfig_resume {config : LocalConfig} {pc next : Pc} {reply : Reply}
    (h : (resume config pc reply).2 = some next) (hnext : InSetConfig next none) : InSetConfig pc (some reply) := by
  obtain ⟨_, hold, _⟩ | ⟨_, rfl, _⟩ | ⟨_, _, _, _, heq⟩ | ⟨_, hbrowsing⟩ := resume_cases config pc reply
  · cases pc <;> trivial
  · trivial
  · rw [h] at heq
    cases heq
    cases hnext
  · exact absurd hnext (hbrowsing next h).not_inSetConfig

theorem Pending.inSetConfig {entry : Entry} {pc : Pc} {reply : Option Reply} (h : Pending entry pc reply) :
    InSetConfig pc reply := by
  cases pc <;> trivial

/-- Only a call of `set_config` puts a task into it. -/
theorem inSetConfig_step (h : protocol.step s a = some s') {u : ℕ} {n : ν} (hC : s'.TaskAt u n InSetConfig) :
    s.TaskAt u n InSetConfig ∨ ∃ key value, a = .call u n (.set_config key value) := by
  refine (hC.of_step ?_ ?_ h).imp_right ?_
  · intro pc reply hpc
    cases pc <;> exact hpc
  · exact fun n l pc reply next hnext hC => inSetConfig_resume hnext hC
  · rintro ⟨c, pc, rfl, _, hstart, hC⟩
    cases c with
    | set_config key value => exact ⟨key, value, rfl⟩
    | _ =>
      cases hstart
      cases hC

theorem Unsubscribed.syncing {pc : Pc} {reply : Option Reply} (h : Unsubscribed pc reply) : Syncing pc reply := by
  unfold Unsubscribed at h
  split at h
  · cases h
  · exact h

/-- Only a sync that is yet to subscribe goes on syncing. -/
theorem syncing_resume {config : LocalConfig} {pc next : Pc} {reply : Reply}
    (h : (resume config pc reply).2 = some next) (hnext : Syncing next none) : Unsubscribed pc (some reply) := by
  cases pc with
  | incr key value => cases reply <;> cases h; cases hnext
  | set entry =>
    cases h
    cases hnext
  | publish entry => cases h
  | subscribe => cases h
  | _ => trivial

/-- Only a call of `run_sync_loop` or `sync_from_leader` puts a task into a sync. -/
theorem syncing_step {C : Pc → Option Reply → Prop} (hC : C = Syncing ∨ C = Unsubscribed)
    (h : protocol.step s a = some s') {u : ℕ} {n : ν} (hsyncing : s'.TaskAt u n C) :
    s.TaskAt u n C ∨ a = .call u n .run_sync_loop ∨ a = .call u n .sync_from_leader := by
  refine (hsyncing.of_step ?_ ?_ h).imp_right ?_
  · intro pc reply hpc
    obtain rfl | rfl := hC
    · cases pc <;> exact hpc
    · cases pc <;> trivial
  · intro n l pc reply next hnext hpc
    obtain rfl | rfl := hC
    · exact (syncing_resume hnext hpc).syncing
    · exact syncing_resume hnext hpc.syncing
  · rintro ⟨c, pc, rfl, _, hstart, hpc⟩
    cases c with
    | set_config key value =>
      cases hstart
      obtain rfl | rfl := hC <;> cases hpc
    | sync_from_leader => exact .inr rfl
    | run_sync_loop => exact .inl rfl

theorem subscribe_exec (hclean : ∀ t task, s.tasks t = some task → task.orphan = false) {t : ℕ} {n : ν}
    {choice : ScanChoice} (htask : s.tasks t = some { node := n, pc := .subscribe })
    (h : protocol.step s (.exec t choice) = some s') :
    s' = { s with
      server := { s.server with subscribed := Function.update s.server.subscribed n true }
      tasks := Function.update s.tasks t (some { node := n, pc := .subscribe, reply := some .ok }) } := by
  obtain ⟨m, pc, server, reply, hslot, hexec, rfl⟩ := step_exec hclean h
  rw [htask] at hslot
  cases hslot
  cases hexec
  rfl

/-- A node is subscribed by its own SUBSCRIBE only. -/
theorem subscribed_step (hclean : ∀ t task, s.tasks t = some task → task.orphan = false)
    (h : protocol.step s a = some s') (n : ν) :
    s'.server.subscribed n = s.server.subscribed n ∨
      ∃ t choice, a = .exec t choice ∧ s.tasks t = some { node := n, pc := .subscribe } := by
  cases a with
  | call t m c =>
    obtain ⟨_, rfl⟩ := step_call h
    exact .inl rfl
  | exec t choice =>
    obtain ⟨m, pc, server, reply, htask, hexec, rfl⟩ := step_exec hclean h
    cases pc with
    | incr key value =>
      simp only [execute] at hexec
      split at hexec <;> cases hexec <;> exact .inl rfl
    | scan cursor serve =>
      obtain ⟨_, _, heq⟩ := Option.map_eq_some_iff.mp hexec
      cases heq
      exact .inl rfl
    | subscribe =>
      cases hexec
      by_cases heq : n = m
      · subst heq
        exact .inr ⟨t, choice, rfl, htask⟩
      · exact .inl (Function.update_of_ne heq _ _)
    | _ =>
      cases hexec
      exact .inl rfl
  | resume t =>
    obtain ⟨m, pc, reply, _, rfl⟩ := step_resume hclean h
    exact .inl rfl
  | fail t =>
    obtain ⟨hfaulty, _⟩ := AsyncProtocol.step_fail h
    cases hfaulty
  | drop t =>
    obtain ⟨_, rfl⟩ := AsyncProtocol.step_drop h
    exact .inl rfl
  | event e =>
    obtain ⟨server, node, hevent, rfl⟩ := AsyncProtocol.step_event h
    cases e with
    | deliver m i =>
      obtain ⟨_, _, heq⟩ := Option.map_eq_some_iff.mp hevent
      cases heq
      exact .inl rfl
    | send m key =>
      obtain ⟨_, _, heq⟩ := Option.map_eq_some_iff.mp hevent
      cases heq
      exact .inl rfl
    | SyncConfig m i =>
      obtain ⟨_, _, heq⟩ := Option.map_eq_some_iff.mp hevent
      cases heq
      exact .inl rfl

theorem Exclusive.step (hclean : ∀ t task, s.tasks t = some task → task.orphan = false) (hx : Exclusive s)
    (hok : SingleWriter K writer s a) (h : protocol.step s a = some s') : Exclusive s' := by
  refine ⟨?_, ?_, ?_⟩
  · intro t n t' n' hC hC'
    obtain hC | ⟨key, value, rfl⟩ := inSetConfig_step h hC
    · obtain hC' | ⟨key, value, rfl⟩ := inSetConfig_step h hC'
      · exact hx.set_config t n t' n' hC hC'
      · exact absurd hC ((hok.set_config t' n' key value rfl).2 t n)
    · obtain hC' | ⟨key', value', heq⟩ := inSetConfig_step h hC'
      · exact absurd hC' ((hok.set_config t n key value rfl).2 t' n')
      · cases heq
        rfl
  · intro t t' n hC hC'
    obtain hC | rfl | rfl := syncing_step (.inl rfl) h hC
    · obtain hC' | rfl | rfl := syncing_step (.inl rfl) h hC'
      · exact hx.sync t t' n hC hC'
      · exact absurd hC ((hok.run_sync_loop t' n rfl).2 t)
      · exact absurd rfl (hok.sync_from_leader t' n)
    · obtain hC' | heq | heq := syncing_step (.inl rfl) h hC'
      · exact absurd hC' ((hok.run_sync_loop t n rfl).2 t')
      · cases heq
        rfl
      · cases heq
    · exact absurd rfl (hok.sync_from_leader t n)
  · intro t n hC
    obtain hsame | ⟨u, choice, rfl, htask⟩ := subscribed_step hclean h n
    · rw [hsame]
      obtain hC | rfl | rfl := syncing_step (.inr rfl) h hC
      · exact hx.unsubscribed t n hC
      · exact (hok.run_sync_loop t n rfl).1
      · exact absurd rfl (hok.sync_from_leader t n)
    · -- The only sync of this node is the one that has just subscribed.
      exfalso
      obtain hold | heq | heq := syncing_step (.inr rfl) h hC
      · have hsubscribing : s.TaskAt u n Syncing := ⟨_, htask, rfl, trivial⟩
        obtain ⟨task, hslot, hnode, hsyncing⟩ := hold
        obtain rfl : t = u := hx.sync t u n ⟨task, hslot, hnode, hsyncing.syncing⟩ hsubscribing
        rw [subscribe_exec hclean htask h] at hC
        obtain ⟨_, _, hunsubscribed⟩ | ⟨hne, _⟩ := hC.update_cases rfl
        · exact hunsubscribed
        · exact hne rfl
      · cases heq
      · cases heq

theorem resume_pending (config : LocalConfig) (pc : Pc) (reply : Reply) (entry : Entry) :
    (∃ next, (resume config pc reply).2 = some next ∧ Pending entry next none) ↔ Pending entry pc (some reply) := by
  cases pc with
  | incr key value =>
    cases reply with
    | integer version =>
      constructor
      · rintro ⟨next, ⟨⟩, hC⟩
        exact hC.symm
      · rintro rfl
        exact ⟨_, rfl, rfl⟩
    | _ =>
      constructor
      · rintro ⟨next, ⟨⟩, _⟩
      · rintro ⟨⟩
  | set entry' =>
    constructor
    · rintro ⟨next, ⟨⟩, hC⟩
      exact hC
    · rintro rfl
      exact ⟨_, rfl, rfl⟩
  | publish entry' =>
    constructor
    · rintro ⟨next, ⟨⟩, _⟩
    · rintro ⟨⟩
  | _ =>
    constructor
    · rintro ⟨next, hnext, hC⟩
      cases inSetConfig_resume hnext hC.inSetConfig
    · rintro ⟨⟩

/-- A `set_config` call becomes pending by INCR. -/
theorem pending_step (hclean : ∀ t task, s.tasks t = some task → task.orphan = false)
    (h : protocol.step s a = some s') {u : ℕ} {n : ν} {entry : Entry} (hC : s'.TaskAt u n (Pending entry)) :
    s.TaskAt u n (Pending entry) ∨
      s.tasks u = some { node := n, pc := .incr entry.key entry.value } ∧
        s.server.store.incr (version_key entry.key) = some (s'.server.store, entry.version) := by
  cases a with
  | call t m c =>
    obtain ⟨_, rfl⟩ := step_call h
    refine .inl (hC.of_update rfl ?_)
    rintro task ⟨⟩ hnew
    cases c <;> cases hnew
  | exec t choice =>
    obtain ⟨m, pc, server, reply, htask, hexec, rfl⟩ := step_exec hclean h
    obtain ⟨rfl, rfl, hnew⟩ | ⟨_, hold⟩ := hC.update_cases rfl
    · cases pc with
      | incr key value =>
        simp only [execute] at hexec
        split at hexec
        · cases hexec
          cases hnew
        · rename_i hincr
          cases hexec
          cases hnew
          exact .inr ⟨htask, hincr⟩
      | set entry' => exact .inl ⟨_, htask, rfl, hnew⟩
      | _ => cases hnew
    · exact .inl hold
  | resume t =>
    obtain ⟨m, pc, reply, htask, rfl⟩ := step_resume hclean h
    refine .inl (hC.of_update rfl fun task hnew hC => ?_)
    obtain ⟨next, hnext, rfl⟩ := Option.map_eq_some_iff.mp hnew
    exact ⟨_, htask, rfl, (resume_pending (s.node m) pc reply entry).mp ⟨next, hnext, hC⟩⟩
  | fail t =>
    obtain ⟨hfaulty, _⟩ := AsyncProtocol.step_fail h
    cases hfaulty
  | drop t =>
    obtain ⟨_, rfl⟩ := AsyncProtocol.step_drop h
    exact .inl (hC.of_update rfl fun task hnew _ => by cases hnew)
  | event e =>
    obtain ⟨server, node, _, rfl⟩ := AsyncProtocol.step_event h
    exact .inl hC

/-- A pending call stays so until it has published. -/
theorem pending_persists (hclean : ∀ t task, s.tasks t = some task → task.orphan = false)
    (h : protocol.step s a = some s') {u : ℕ} {n : ν} {entry : Entry} (hC : s.TaskAt u n (Pending entry)) :
    s'.TaskAt u n (Pending entry) ∨
      s.tasks u = some { node := n, pc := .publish entry } ∧ s'.node = s.node ∧
        s'.server = publish s.server entry := by
  obtain hkept | ⟨choice, pc, server, reply, rfl, htask, hexec, hold, rfl⟩ :=
    hC.persists rfl hclean (fun pc reply _ hold => (resume_pending _ pc reply entry).mpr hold) h
  · exact .inl hkept
  · cases pc with
    | set entry' => exact .inl ⟨_, Function.update_self _ _ _, rfl, hold⟩
    | publish entry' =>
      cases hexec
      obtain rfl : entry' = entry := hold
      exact .inr ⟨htask, rfl, rfl⟩
    | _ => cases hold

theorem Publishing.inSetConfig {entry : Entry} {pc : Pc} {reply : Option Reply} (h : Publishing entry pc reply) :
    InSetConfig pc reply := by
  cases pc <;> trivial

/-- A writer publishes what it has just stored. -/
theorem publishing_step (hclean : ∀ t task, s.tasks t = some task → task.orphan = false)
    (h : protocol.step s a = some s') {t : ℕ} {n : ν} {entry : Entry} (hC : s'.TaskAt t n (Publishing entry)) :
    s.TaskAt t n (Publishing entry) ∨
      s.TaskAt t n (Pending entry) ∧ s'.server = s.server ∧ s'.node n = set_local (s.node n) entry := by
  cases a with
  | call u m c =>
    obtain ⟨_, rfl⟩ := step_call h
    refine .inl (hC.of_update rfl ?_)
    rintro task ⟨⟩ hnew
    cases c <;> cases hnew
  | exec u choice =>
    obtain ⟨m, pc, server, reply, htask, _, rfl⟩ := step_exec hclean h
    obtain ⟨rfl, rfl, hnew⟩ | ⟨_, hold⟩ := hC.update_cases rfl
    · refine .inl ⟨_, htask, rfl, ?_⟩
      cases pc <;> exact hnew
    · exact .inl hold
  | resume u =>
    obtain ⟨m, pc, reply, htask, rfl⟩ := step_resume hclean h
    obtain ⟨task, hslot, rfl, hnew⟩ := hC
    obtain ⟨rfl, hwrite⟩ | ⟨_, hold⟩ := AsyncProtocol.update_tasks_cases hslot
    · obtain ⟨next, hnext, rfl⟩ := Option.map_eq_some_iff.mp hwrite
      obtain ⟨_, _, hset⟩ | ⟨stored, rfl, hset⟩ | ⟨_, _, _, _, hset⟩ | ⟨_, hbrowsing⟩ :=
        resume_cases (s.node m) pc reply
      · cases hnext.symm.trans hset
        cases hnew
      · cases hnext.symm.trans hset
        obtain rfl : stored = entry := hnew
        exact .inr ⟨⟨_, htask, rfl, rfl⟩, rfl, Function.update_self _ _ _⟩
      · cases hnext.symm.trans hset
        cases hnew
      · cases hbrowsing next hnext <;> cases hnew
    · exact .inl ⟨task, hold, rfl, hnew⟩
  | fail u =>
    obtain ⟨hfaulty, _⟩ := AsyncProtocol.step_fail h
    cases hfaulty
  | drop u =>
    obtain ⟨_, rfl⟩ := AsyncProtocol.step_drop h
    exact .inl (hC.of_update rfl fun task hnew _ => by cases hnew)
  | event e =>
    obtain ⟨server, node, _, rfl⟩ := AsyncProtocol.step_event h
    exact .inl hC

/-- The sync was started by `run_sync_loop`. -/
def Serving : Pc → Prop
  | .scan _ serve => serve = true
  | .get_value _ batch | .get_version _ _ batch => batch.serve = true
  | _ => True

theorem next_key_serving (cursor : Cursor) (keys : List String) :
    ∃ pc, next_key cursor true keys = some pc ∧ Unsubscribed pc none ∧ Serving pc := by
  induction keys with
  | nil =>
    cases cursor with
    | none => exact ⟨.subscribe, rfl, trivial, trivial⟩
    | some keys => exact ⟨.scan (some keys) true, rfl, trivial, rfl⟩
  | cons key keys ih =>
    simp only [next_key]
    split
    · exact ih
    · exact ⟨.get_value key { cursor, keys, serve := true }, rfl, trivial, rfl⟩

/-- `run_sync_loop` goes on to SUBSCRIBE whatever its sync comes to. -/
theorem resume_unsubscribed (config : LocalConfig) {pc : Pc} {reply : Reply} (hserving : Serving pc)
    (h : Unsubscribed pc (some reply)) :
    ∃ next, (resume config pc reply).2 = some next ∧ Unsubscribed next none ∧ Serving next := by
  cases pc with
  | scan cursor serve =>
    obtain rfl : serve = true := hserving
    cases reply with
    | scanned cursor keys => exact next_key_serving cursor keys
    | _ => exact ⟨.subscribe, rfl, trivial, trivial⟩
  | get_value key batch =>
    obtain ⟨cursor, keys, serve⟩ := batch
    obtain rfl : serve = true := hserving
    cases reply with
    | bulk value => exact ⟨_, rfl, trivial, rfl⟩
    | _ => exact next_key_serving cursor keys
  | get_version key value batch =>
    obtain ⟨cursor, keys, serve⟩ := batch
    obtain rfl : serve = true := hserving
    simp only [resume]
    cases read_version reply with
    | some version => exact next_key_serving cursor keys
    | none => exact ⟨.subscribe, rfl, trivial, trivial⟩
  | _ => cases h

theorem resume_serving {config : LocalConfig} {pc next : Pc} {reply : Reply} (hserving : Serving pc)
    (h : (resume config pc reply).2 = some next) : Serving next := by
  by_cases hnext : Syncing next none
  · obtain ⟨next', hnext', _, hserving'⟩ := resume_unsubscribed config hserving (syncing_resume h hnext)
    rw [h] at hnext'
    cases hnext'
    exact hserving'
  · cases next with
    | scan cursor serve => exact absurd trivial hnext
    | get_value key batch => exact absurd trivial hnext
    | get_version key value batch => exact absurd trivial hnext
    | _ => trivial

/-- Without a bare `sync_from_leader` every sync is one of `run_sync_loop`. -/
theorem tasks_serving {ok : State ν → Action ν → Prop} (hok : ∀ s a, ok s a → SingleWriter K writer s a)
    (h : system.ReachableWhere ok s) : ∀ t task, s.tasks t = some task → Serving task.pc := by
  refine AsyncProtocol.tasks_invariant (Q := fun _ task => Serving task.pc) ?_ ?_ ?_ ?_ h
  · intro s t n c pc hokc hstart
    cases c with
    | set_config key value =>
      cases hstart
      trivial
    | sync_from_leader => exact absurd rfl ((hok s _ hokc).sync_from_leader t n)
    | run_sync_loop =>
      cases hstart
      rfl
  · exact fun t n pc reply hserving => hserving
  · exact fun t n l pc reply orphan next hnext hserving => resume_serving hserving hnext
  · intro hfaulty
    cases hfaulty

/-- A starting node is on its way until its SUBSCRIBE is executed. -/
theorem unsubscribed_persists (hclean : ∀ t task, s.tasks t = some task → task.orphan = false)
    (hserving : ∀ t task, s.tasks t = some task → Serving task.pc)
    (h : protocol.step s a = some s') {u : ℕ} {n : ν} (hC : s.TaskAt u n Unsubscribed) :
    s'.TaskAt u n Unsubscribed ∨
      ∃ choice, a = .exec u choice ∧ s.tasks u = some { node := n, pc := .subscribe } := by
  obtain hkept | ⟨choice, pc, server, reply, rfl, htask, hexec, hold, rfl⟩ :=
    hC.persists rfl hclean (fun pc reply htask hold => by
      obtain ⟨next, hnext, hnew, _⟩ := resume_unsubscribed (s.node n) (hserving u _ htask) hold
      exact ⟨next, hnext, hnew⟩) h
  · exact .inl hkept
  · cases pc with
    | subscribe => exact .inr ⟨choice, rfl, htask⟩
    | scan cursor serve => exact .inl ⟨_, Function.update_self _ _ _, rfl, trivial⟩
    | get_value key batch => exact .inl ⟨_, Function.update_self _ _ _, rfl, trivial⟩
    | get_version key value batch => exact .inl ⟨_, Function.update_self _ _ _, rfl, trivial⟩
    | _ => cases hold

/-- Inboxes only grow, and a message is applied when it is handled in its turn. -/
theorem mail_step (hclean : ∀ t task, s.tasks t = some task → task.orphan = false)
    (hok : SingleWriter K writer s a) (h : protocol.step s a = some s') (n : ν) :
    (∃ new, s'.server.inbox n = s.server.inbox n ++ new) ∧
      (s'.server.applied n = s.server.applied n ∨
        ∃ entry, (s.server.inbox n)[s.server.applied n]? = some entry ∧
          s'.server.applied n = s.server.applied n + 1 ∧ s'.server.inbox n = s.server.inbox n ∧
          s'.node n = apply_notification (s.node n) entry) := by
  have hsame : ∃ new, s.server.inbox n = s.server.inbox n ++ new := ⟨[], (List.append_nil _).symm⟩
  cases a with
  | call t m c =>
    obtain ⟨_, rfl⟩ := step_call h
    exact ⟨hsame, .inl rfl⟩
  | exec t choice =>
    obtain ⟨m, pc, server, reply, htask, hexec, rfl⟩ := step_exec hclean h
    cases pc with
    | incr key value =>
      simp only [execute] at hexec
      split at hexec <;> cases hexec <;> exact ⟨hsame, .inl rfl⟩
    | publish entry =>
      cases hexec
      refine ⟨?_, .inl rfl⟩
      simp only [publish]
      split
      · exact ⟨[entry], rfl⟩
      · exact hsame
    | scan cursor serve =>
      obtain ⟨_, _, heq⟩ := Option.map_eq_some_iff.mp hexec
      cases heq
      exact ⟨hsame, .inl rfl⟩
    | _ =>
      cases hexec
      exact ⟨hsame, .inl rfl⟩
  | resume t =>
    obtain ⟨m, pc, reply, _, rfl⟩ := step_resume hclean h
    exact ⟨hsame, .inl rfl⟩
  | fail t =>
    obtain ⟨hfaulty, _⟩ := AsyncProtocol.step_fail h
    cases hfaulty
  | drop t =>
    obtain ⟨_, rfl⟩ := AsyncProtocol.step_drop h
    exact ⟨hsame, .inl rfl⟩
  | event e =>
    obtain ⟨server, node, hevent, rfl⟩ := AsyncProtocol.step_event h
    cases e with
    | deliver m i =>
      obtain ⟨entry, hmessage, heq⟩ := Option.map_eq_some_iff.mp hevent
      cases heq
      obtain rfl := hok.deliver m i rfl
      refine ⟨hsame, ?_⟩
      by_cases heq : n = m
      · subst heq
        exact .inr ⟨entry, hmessage, by simp, rfl, by simp⟩
      · exact .inl (by simp [heq])
    | send m key =>
      obtain ⟨_, _, heq⟩ := Option.map_eq_some_iff.mp hevent
      cases heq
      exact ⟨hsame, .inl rfl⟩
    | SyncConfig m i =>
      obtain ⟨_, _, heq⟩ := Option.map_eq_some_iff.mp hevent
      cases heq
      exact ⟨hsame, .inl rfl⟩

/-- Every `set_config` call is one of the writer. -/
theorem inSetConfig_writer {ok : State ν → Action ν → Prop} (hok : ∀ s a, ok s a → SingleWriter K writer s a)
    (h : system.ReachableWhere ok s) {t : ℕ} {n : ν} (hC : s.TaskAt t n InSetConfig) : n = writer := by
  have hall : ∀ t task, s.tasks t = some task → InSetConfig task.pc task.reply → task.node = writer := by
    refine AsyncProtocol.tasks_invariant (Q := fun _ task => InSetConfig task.pc task.reply → task.node = writer)
      ?_ ?_ ?_ ?_ h
    · intro s t n c pc hokc hstart hC
      cases c with
      | set_config key value => exact ((hok s _ hokc).set_config t n key value rfl).1
      | _ =>
        cases hstart
        cases hC
    · intro t n pc reply hwriter hC
      refine hwriter ?_
      cases pc <;> exact hC
    · exact fun t n l pc reply orphan next hnext hwriter hC => hwriter (inSetConfig_resume hnext hC)
    · intro hfaulty
      cases hfaulty
  obtain ⟨task, hslot, rfl, hC⟩ := hC
  exact hall t task hslot hC

theorem reachable_exclusive {ok : State ν → Action ν → Prop} (hok : ∀ s a, ok s a → SingleWriter K writer s a)
    (h : system.ReachableWhere ok s) : Exclusive s := by
  refine TransitionSystem.ReachableWhere.invariant_of (P := Exclusive)
    (Q := system.ReachableWhere ok) (fun s hs => hs) ?_ ?_ h
  · intro s hs
    exact ⟨fun t n _ _ h => absurd h (initial_taskAt hs), fun t _ n h => absurd h (initial_taskAt hs),
      fun t n h => absurd h (initial_taskAt hs)⟩
  · exact fun s a s' hreach hx hoka hstep => hx.step (no_orphans hreach) (hok s a hoka) hstep

end gateway.config_sync
