import EdgeGateway.Coordination.ConfigSync.Monotone
import EdgeGateway.Coordination.ConfigSync.Pairing
import EdgeGateway.Coordination.ConfigSync.SingleWriter

namespace gateway.config_sync

variable {ν : Type} [DecidableEq ν] {K : ConfigKeys} {writer : ν} {s s' : State ν} {a : Action ν}

omit [DecidableEq ν] in
/-- The node has the newest version of the key, or some `set_config` is about to
publish a newer one. -/
def UpToDate (s : State ν) (n : ν) (key : String) : Prop :=
  (get_local (s.node n) key).2 = version_count s.server.store key ∨
    ∃ t m entry, s.TaskAt t m (Pending entry) ∧ entry.key = key

omit [DecidableEq ν] in
/-- Or the newest version waits in the node's inbox. -/
def CatchingUp (s : State ν) (n : ν) (key : String) : Prop :=
  UpToDate s n key ∨
    ∃ i entry, s.server.applied n ≤ i ∧ (s.server.inbox n)[i]? = some entry ∧ entry.key = key ∧
      entry.version = version_count s.server.store key

/-- A sync reads value and version of a key with no write in between, and a node that
subscribes has missed nothing. -/
structure SafeStart (K : ConfigKeys) (writer : ν) (s : State ν) (a : Action ν) : Prop
    extends SingleWriter K writer s a where
  incr : ∀ t choice n key value, a = .exec t choice →
    s.tasks t = some { node := n, pc := .incr key value } → ¬ BetweenGets s key
  get_value : ∀ t choice n key batch, a = .exec t choice →
    s.tasks t = some { node := n, pc := .get_value key batch } → ¬ BetweenIncrAndSet s (short_key key)
  subscribe : ∀ t choice n, a = .exec t choice → s.tasks t = some { node := n, pc := .subscribe } →
    ∀ key ∈ K.keys, UpToDate s n key

/-- With a single writer no INCR falls into another `set_config`. -/
theorem SafeStart.pairingSafe (h : system.ReachableWhere (SafeStart K writer) s)
    (hok : SafeStart K writer s a) : PairingSafe K s a := by
  have hx : Exclusive s := reachable_exclusive (fun _ _ hok => hok.toSingleWriter) h
  refine ⟨hok.keys, fun t choice n key value heq htask => ⟨?_, hok.incr t choice n key value heq htask⟩,
    hok.get_value⟩
  rintro ⟨u, m, entry, hwriting, _⟩
  have hsetting : s.TaskAt t n InSetConfig := ⟨_, htask, rfl, trivial⟩
  obtain ⟨task, hslot, hnode, hC⟩ := hwriting
  have hsetting' : s.TaskAt u m InSetConfig := by
    refine ⟨task, hslot, hnode, ?_⟩
    cases hpc : task.pc <;> rw [hpc] at hC <;> trivial
  obtain rfl := hx.set_config t n u m hsetting hsetting'
  rw [htask] at hslot
  cases hslot
  exact hC

/-- A counter is moved by the INCR of a call that is pending from then on. -/
theorem count_step (hb : Bounded K s)
    (hincr_key : ∀ t task, s.tasks t = some task → ∀ key value, task.pc = .incr key value → key ∈ K.keys)
    (hclean : ∀ t task, s.tasks t = some task → task.orphan = false) (h : protocol.step s a = some s')
    {key : String} (hkey : key ∈ K.keys) :
    version_count s'.server.store key = version_count s.server.store key ∨
      ∃ t n entry, s.tasks t = some { node := n, pc := .incr entry.key entry.value } ∧
        s'.TaskAt t n (Pending entry) ∧ entry.key = key := by
  obtain hquiet | ⟨t, choice, rfl, hloud⟩ := quiet_or_loud hclean h
  · rw [hquiet.store]
    exact .inl rfl
  · cases hloud with
    | @incr n key' value store version htask hincr =>
      have hkey' := hincr_key t _ htask key' value rfl
      obtain ⟨rfl, rfl⟩ := RedisKeyspace.incr_counter (hb.counts key' hkey') hincr
      by_cases heq : key = key'
      · refine .inr ⟨t, n, { key := key', value, version := _ }, htask, ⟨_, Function.update_self _ _ _, rfl, rfl⟩, heq.symm⟩
      · refine .inl ?_
        rw [version_count_incr, if_neg heq]
    | @set n entry htask =>
      have hwrote : Fits K s.server.store entry := hb.writing t n entry ⟨_, htask, rfl, rfl⟩
      exact .inl (version_count_set _ hwrote.1 hkey)
    | get_value => exact .inl rfl
    | get_version => exact .inl rfl

omit [DecidableEq ν] in
/-- The node is subscribed or the writer, and not on its way to a subscription. -/
def Follows (writer : ν) (s : State ν) (n : ν) : Prop :=
  (n = writer ∨ s.server.subscribed n = true) ∧ ∀ t, ¬ s.TaskAt t n Unsubscribed

/-- A node comes to follow by its SUBSCRIBE. -/
theorem follows_step (hclean : ∀ t task, s.tasks t = some task → task.orphan = false)
    (hserving : ∀ t task, s.tasks t = some task → Serving task.pc) (h : protocol.step s a = some s') {n : ν}
    (hfollows : Follows writer s' n) :
    Follows writer s n ∨ ∃ t choice, a = .exec t choice ∧ s.tasks t = some { node := n, pc := .subscribe } := by
  obtain ⟨hreceives, hdone⟩ := hfollows
  by_cases hstarting : ∃ t, s.TaskAt t n Unsubscribed
  · obtain ⟨t, hstarting⟩ := hstarting
    obtain hkept | ⟨choice, heq, htask⟩ := unsubscribed_persists hclean hserving h hstarting
    · exact absurd hkept (hdone t)
    · exact .inr ⟨t, choice, heq, htask⟩
  · obtain hsame | ⟨t, choice, heq, htask⟩ := subscribed_step hclean h n
    · exact .inl ⟨hsame ▸ hreceives, fun t ht => hstarting ⟨t, ht⟩⟩
    · exact .inr ⟨t, choice, heq, htask⟩

/-- A node that has not started to subscribe had not before. -/
theorem unstarted_step (hclean : ∀ t task, s.tasks t = some task → task.orphan = false)
    (hserving : ∀ t task, s.tasks t = some task → Serving task.pc) (h : protocol.step s a = some s') {n : ν}
    (hsubscribed : s'.server.subscribed n = false) (hdone : ∀ t, ¬ s'.TaskAt t n Unsubscribed) :
    s.server.subscribed n = false ∧ ∀ t, ¬ s.TaskAt t n Unsubscribed := by
  have hexec : ∀ t choice, a = .exec t choice → s.tasks t ≠ some { node := n, pc := .subscribe } := by
    rintro t choice rfl htask
    rw [subscribe_exec hclean htask h] at hsubscribed
    simp at hsubscribed
  constructor
  · obtain hsame | ⟨t, choice, heq, htask⟩ := subscribed_step hclean h n
    · rw [← hsame, hsubscribed]
    · exact absurd htask (hexec t choice heq)
  · intro t hstarting
    obtain hkept | ⟨choice, heq, htask⟩ := unsubscribed_persists hclean hserving h hstarting
    · exact hdone t hkept
    · exact hexec t choice heq htask

omit [DecidableEq ν] in
/-- A pending version is of a config key. -/
theorem Bounded.pending_fits (hb : Bounded K s) {t : ℕ} {n : ν} {entry : Entry}
    (h : s.TaskAt t n (Pending entry)) : Fits K s.server.store entry := by
  obtain ⟨⟨m, pc, reply, orphan⟩, hslot, hnode, hC⟩ := h
  cases pc with
  | incr key value =>
    cases reply with
    | none => cases hC
    | some reply =>
      cases reply with
      | integer version => exact hb.writing t n entry ⟨_, hslot, hnode, hC⟩
      | _ => cases hC
  | set entry' =>
    cases reply with
    | none => exact hb.writing t n entry ⟨_, hslot, hnode, hC⟩
    | some reply => exact hb.carries entry (.of_task ⟨_, hslot, hnode, hC⟩)
  | publish entry' =>
    cases reply with
    | none => exact hb.carries entry (.inr (.inr (.inr ⟨t, n, .inr ⟨_, hslot, hnode, hC⟩⟩)))
    | some reply => cases hC
  | _ => cases hC

/-- A pending version is the newest one of its key, a writer about to publish it has
it unless it is starting up, and whoever follows is catching up. -/
structure Following (K : ConfigKeys) (writer : ν) (s : State ν) : Prop where
  pending : ∀ t n entry, s.TaskAt t n (Pending entry) → entry.version = version_count s.server.store entry.key
  stored : ∀ t n entry, s.TaskAt t n (Publishing entry) → s.server.subscribed n = false →
    (∀ u, ¬ s.TaskAt u n Unsubscribed) → (get_local (s.node n) entry.key).2 = version_count s.server.store entry.key
  applied_le : ∀ n, s.server.applied n ≤ (s.server.inbox n).length
  catching_up : ∀ n, Follows writer s n → ∀ key ∈ K.keys, CatchingUp s n key

namespace Following

variable (hb : Bounded K s) (hx : Exclusive s) (hf : Following K writer s)
  (hincr_key : ∀ t task, s.tasks t = some task → ∀ key value, task.pc = .incr key value → key ∈ K.keys)
  (hclean : ∀ t task, s.tasks t = some task → task.orphan = false)
  (h : protocol.step s a = some s')
include hb hx hf

omit [DecidableEq ν] hx in
/-- What goes into the cache of a node that is done starting up is not behind what
it had, so the newest version stays in place. -/
theorem stored_newest {n : ν} {entry : Entry} (hdone : ∀ t, ¬ s.TaskAt t n Unsubscribed) (hstores : Stores s a n entry)
    (hnewest : (get_local (s.node n) entry.key).2 = version_count s.server.store entry.key) :
    entry.version = version_count s.server.store entry.key := by
  have hle := (hb.carries entry hstores.carries).2.2
  cases hstores with
  | @resume t _ _ htask =>
    obtain ⟨⟨m, pc, reply, orphan⟩, hslot, hnode, hholding⟩ := htask
    cases pc with
    | set entry' =>
      refine hf.pending t n entry ⟨_, hslot, hnode, ?_⟩
      cases reply <;> cases hholding
      rfl
    | get_version key value batch => exact absurd ⟨_, hslot, hnode, trivial⟩ (hdone t)
    | _ => cases hholding
  | deliver _ hnewer => omega
  | SyncConfig _ hnewer => omega

include hclean h

omit hx in
/-- The newest version of a key stays in the cache of a node that is done starting up. -/
theorem newest_step {n : ν} {key : String} (hdone : ∀ t, ¬ s.TaskAt t n Unsubscribed)
    (hsame : version_count s'.server.store key = version_count s.server.store key)
    (hnewest : (get_local (s.node n) key).2 = version_count s.server.store key) :
    (get_local (s'.node n) key).2 = version_count s'.server.store key := by
  rw [hsame]
  obtain hnode | ⟨entry, hstores, hnode⟩ := node_step hclean h n
  · rw [hnode, hnewest]
  · rw [hnode, get_local_set_local]
    split
    · rename_i heq
      subst heq
      exact hf.stored_newest hb hdone hstores hnewest
    · exact hnewest

include hincr_key

omit hf in
/-- While a `set_config` is under way no other one moves a counter. -/
theorem count_fixed {t : ℕ} {n : ν} {C : Pc → Option Reply → Prop} (hC : ∀ pc reply, C pc reply → InSetConfig pc reply)
    (hincr : ∀ key value, ¬ C (.incr key value) none) (hsetting : s.TaskAt t n C) {key : String} (hkey : key ∈ K.keys) :
    version_count s'.server.store key = version_count s.server.store key := by
  obtain hsame | ⟨u, m, entry, htask, _⟩ := count_step hb hincr_key hclean h hkey
  · exact hsame
  · obtain ⟨task, hslot, hnode, hold⟩ := hsetting
    obtain rfl := hx.set_config t n u m ⟨task, hslot, hnode, hC _ _ hold⟩ ⟨_, htask, rfl, trivial⟩
    rw [htask] at hslot
    cases hslot
    exact absurd hold (hincr _ _)

theorem pending_step {t : ℕ} {n : ν} {entry : Entry} (hC : s'.TaskAt t n (Pending entry)) :
    entry.version = version_count s'.server.store entry.key := by
  obtain hold | ⟨htask, hincr⟩ := config_sync.pending_step hclean h hC
  · rw [count_fixed hb hx hincr_key hclean h (fun _ _ hold => hold.inSetConfig) (fun _ _ hold => hold) hold
      (hb.pending_fits hold).1]
    exact hf.pending t n entry hold
  · have hkey := hincr_key t _ htask entry.key entry.value rfl
    obtain ⟨hversion, hstore⟩ := RedisKeyspace.incr_counter (hb.counts entry.key hkey) hincr
    rw [hversion, hstore, version_count_incr, if_pos rfl]

omit hx in
/-- A node that follows goes on catching up. -/
theorem catching_up_step (hok : SingleWriter K writer s a) (hwriter : ∀ t n, s.TaskAt t n InSetConfig → n = writer)
    {n : ν} (hfollows : Follows writer s n) {key : String} (hkey : key ∈ K.keys) : CatchingUp s' n key := by
  obtain hsame | ⟨t, m, entry, htask, hpending, heq⟩ := count_step hb hincr_key hclean h hkey
  swap
  · exact .inl (.inr ⟨t, m, entry, hpending, heq⟩)
  obtain ⟨⟨new, hinbox⟩, hmail⟩ := mail_step hclean hok h n
  obtain (hnewest | ⟨t, m, entry, hpending, rfl⟩) | ⟨i, entry, hle, hmessage, rfl, hversion⟩ :=
    hf.catching_up n hfollows key hkey
  · exact .inl (.inl (newest_step hb hf hclean h hfollows.2 hsame hnewest))
  · obtain hkept | ⟨htask, hnode, hserver⟩ := pending_persists hclean h hpending
    · exact .inl (.inr ⟨t, m, entry, hkept, rfl⟩)
    · cases hsubscribed : s.server.subscribed n with
      | true =>
        refine .inr ⟨(s.server.inbox n).length, entry, ?_, ?_, rfl, ?_⟩
        · rw [hserver]
          exact hf.applied_le n
        · simp [hserver, publish, hsubscribed]
        · rw [hsame]
          exact hf.pending t m entry hpending
      | false =>
        -- Nobody delivers to the writer, which has stored the entry before.
        obtain rfl : n = writer := hfollows.1.resolve_right (by simp [hsubscribed])
        obtain rfl : m = n := hwriter t m ⟨_, htask, rfl, trivial⟩
        exact .inl (.inl (newest_step hb hf hclean h hfollows.2 hsame
          (hf.stored t m entry ⟨_, htask, rfl, rfl⟩ hsubscribed hfollows.2)))
  · obtain happlied | ⟨handled, hhandled, happlied, hinbox', hnode⟩ := hmail
    · refine .inr ⟨i, entry, happlied ▸ hle, ?_, rfl, hsame ▸ hversion⟩
      have hlt : i < (s.server.inbox n).length := (List.getElem?_eq_some_iff.mp hmessage).1
      rw [hinbox, List.getElem?_append_left hlt, hmessage]
    · by_cases heq : i = s.server.applied n
      · subst heq
        rw [hmessage] at hhandled
        cases hhandled
        refine .inl (.inl ?_)
        rw [hsame, hnode, apply_notification]
        split
        · rw [get_local_set_local, if_pos rfl, hversion]
        · have := hb.get_local_le n entry.key
          omega
      · exact .inr ⟨i, entry, by omega, hinbox' ▸ hmessage, rfl, hsame ▸ hversion⟩

theorem stored_step (hserving : ∀ t task, s.tasks t = some task → Serving task.pc) {t : ℕ} {n : ν} {entry : Entry}
    (hC : s'.TaskAt t n (Publishing entry)) (hsubscribed : s'.server.subscribed n = false)
    (hdone : ∀ u, ¬ s'.TaskAt u n Unsubscribed) :
    (get_local (s'.node n) entry.key).2 = version_count s'.server.store entry.key := by
  obtain hold | ⟨hpending, hserver, hnode⟩ := publishing_step hclean h hC
  · obtain ⟨hsubscribed, hdone⟩ := unstarted_step hclean hserving h hsubscribed hdone
    have hkey : entry.key ∈ K.keys := (hb.carries entry (.inr (.inr (.inr ⟨t, n, .inr hold⟩)))).1
    have hsame := count_fixed hb hx hincr_key hclean h (fun _ _ hC => hC.inSetConfig) (fun _ _ hC => hC) hold hkey
    exact newest_step hb hf hclean h hdone hsame (hf.stored t n entry hold hsubscribed hdone)
  · rw [hserver, hnode, get_local_set_local, if_pos rfl]
    exact hf.pending t n entry hpending

theorem step (hserving : ∀ t task, s.tasks t = some task → Serving task.pc)
    (hwriter : ∀ t n, s.TaskAt t n InSetConfig → n = writer) (hok : SafeStart K writer s a) :
    Following K writer s' := by
  refine ⟨?_, ?_, ?_, ?_⟩
  · exact fun t n entry hC => hf.pending_step hb hx hincr_key hclean h hC
  · exact fun t n entry hC => hf.stored_step hb hx hincr_key hclean h hserving hC
  · intro n
    have hle := hf.applied_le n
    obtain ⟨⟨new, hinbox⟩, happlied | ⟨entry, hmessage, happlied, hinbox', _⟩⟩ := mail_step hclean hok.toSingleWriter h n
    · rw [happlied, hinbox, List.length_append]
      omega
    · have hlt : s.server.applied n < (s.server.inbox n).length := (List.getElem?_eq_some_iff.mp hmessage).1
      rw [happlied, hinbox']
      omega
  · intro n hfollows key hkey
    obtain hold | ⟨t, choice, rfl, htask⟩ := follows_step hclean hserving h hfollows
    · exact hf.catching_up_step hb hincr_key hclean h hok.toSingleWriter hwriter hold hkey
    · left
      have hbefore := hok.subscribe t choice n rfl htask key hkey
      obtain rfl := subscribe_exec hclean htask h
      refine hbefore.imp_right ?_
      rintro ⟨u, m, entry, hpending, heq⟩
      exact ⟨u, m, entry, hpending.update rfl fun hslot => absurd hslot (by simp [AsyncProtocol.State.taskAt_iff htask, Pending]), heq⟩

end Following

/-- In a run in which every start is safe, whoever follows is catching up. -/
theorem reachable_following (h : system.ReachableWhere (SafeStart K writer) s) : Following K writer s := by
  refine TransitionSystem.ReachableWhere.invariant_of (P := Following K writer)
    (Q := system.ReachableWhere (SafeStart K writer)) (fun s hs => hs) ?_ ?_ h
  · intro s hs
    obtain ⟨hserver, hnode, _⟩ := id hs
    have hcount : ∀ key, version_count s.server.store key = 0 := by
      intro key
      rw [initial_store hs]
      exact version_count_eq (n := 0) rfl
    refine ⟨fun t n entry h => absurd h (initial_taskAt hs), fun t n entry h => absurd h (initial_taskAt hs), ?_, ?_⟩
    · intro n
      rw [show s.server = .empty from hserver]
      exact Nat.zero_le _
    · intro n _ key _
      refine .inl (.inl ?_)
      rw [show s.node n = .empty from hnode n, hcount]
      rfl
  · intro s a s' hreach hf hok hstep
    have hsingle := fun s a (hok : SafeStart K writer s a) => hok.toSingleWriter
    have hkeys := fun s a (hok : SafeStart K writer s a) => hok.keys
    exact hf.step (reachable_bounded hkeys hreach) (reachable_exclusive hsingle hreach) (incr_key hkeys hreach)
      (no_orphans hreach) hstep (tasks_serving hsingle hreach) (fun t n => inSetConfig_writer hsingle hreach) hok

/-- The value and the version that Redis has for the key. -/
def redis_entry (store : RedisKeyspace) (key : String) : Option (String × ℤ) :=
  (store.get? (config_key key)).bind fun value => (redis_version store key).map fun version => (value, version)

/-- Once the writer is idle, a node that follows and has handled all its messages has
in its cache what Redis has. -/
def FollowersAgree (K : ConfigKeys) (writer : ν) (s : State ν) : Prop :=
  WriterIdle s → ∀ n, Follows writer s n → s.server.applied n = (s.server.inbox n).length →
    ∀ key ∈ K.keys, (s.node n).get? key = redis_entry s.server.store key

/-- No update is lost in a run in which a node subscribes only while its cache is up to
date, or an update of what it has is yet to be published. -/
theorem no_update_lost (h : system.ReachableWhere (SafeStart K writer) s) : FollowersAgree K writer s := by
  intro hidle n hfollows hdelivered key hkey
  have hb : Bounded K s := reachable_bounded (fun _ _ hok => hok.keys) h
  have hf : Following K writer s := reachable_following h
  have hnewest : (get_local (s.node n) key).2 = version_count s.server.store key := by
    obtain (hnewest | ⟨t, m, entry, hpending, _⟩) | ⟨i, entry, hle, hmessage, _⟩ := hf.catching_up n hfollows key hkey
    · exact hnewest
    · obtain ⟨task, hslot, hnode, hC⟩ := hpending
      exact absurd ⟨task, hslot, hnode, hC.inSetConfig⟩ (hidle t m)
    · have hlt : i < (s.server.inbox n).length := (List.getElem?_eq_some_iff.mp hmessage).1
      omega
  have hversion := redis_version_eq (hb.counts key hkey)
  cases hcached : (s.node n).get? key with
  | none =>
    have hzero : version_count s.server.store key = 0 := by
      rw [get_local, Dict.getD, hcached] at hnewest
      exact Int.natCast_eq_zero.mp hnewest.symm
    rw [redis_entry, hversion, if_pos hzero]
    cases s.server.store.get? (config_key key) <;> rfl
  | some pair =>
    obtain ⟨value, version⟩ := pair
    obtain ⟨_, hpos, _⟩ := hb.carries { key, value, version } (.inl ⟨n, hcached⟩)
    rw [get_local, Dict.getD, hcached] at hnewest
    obtain rfl : version = version_count s.server.store key := hnewest
    rw [if_neg (by have : 0 < (version_count s.server.store key : ℤ) := hpos; omega)] at hversion
    obtain ⟨_, _, hp⟩ := reachable_paired (fun _ _ hok => hok) (h.mono fun _ _ hs hok => hok.pairingSafe hs)
    have hpaired : VersionDeterminesValue s key := hp.determines hb key
    rw [redis_entry, hpaired.2 n value _ hcached hversion, hversion]
    rfl


/-- Node 0 sets "rate" in task 0 and node 1 starts in task 1. -/
def two_tasks (s : State ℕ) : Action ℕ → Bool
  | .call t n (.set_config key _) => t == 0 && n == 0 && key == "rate" && (s.tasks 0).isNone
  | .call t n .run_sync_loop => t == 1 && n == 1 && !s.server.subscribed 1 && (s.tasks 1).isNone
  | .call _ _ .sync_from_leader => false
  | .event (.deliver n i) => i == s.server.applied n
  | _ => true

theorem two_tasks_slots {s : State ℕ} (h : system.ReachableWhere (fun s a => two_tasks s a = true) s) :
    ∀ t task, s.tasks t = some task →
      (t = 0 ∧ ¬ Syncing task.pc task.reply) ∨ (t = 1 ∧ ¬ InSetConfig task.pc task.reply) := by
  refine AsyncProtocol.tasks_invariant (Q := fun t task => (t = 0 ∧ ¬ Syncing task.pc task.reply) ∨
    (t = 1 ∧ ¬ InSetConfig task.pc task.reply)) ?_ ?_ ?_ ?_ h
  · intro s t n c pc hok hstart
    cases c with
    | set_config key value =>
      cases hstart
      simp only [two_tasks, Bool.and_eq_true, beq_iff_eq] at hok
      exact .inl ⟨hok.1.1.1, fun h => h⟩
    | sync_from_leader => cases hok
    | run_sync_loop =>
      cases hstart
      simp only [two_tasks, Bool.and_eq_true, beq_iff_eq] at hok
      exact .inr ⟨hok.1.1.1, fun h => h⟩
  · intro t n pc reply hslot
    refine hslot.imp (And.imp_right fun hnot hC => hnot ?_) (And.imp_right fun hnot hC => hnot ?_)
    · cases pc <;> exact hC
    · cases pc <;> exact hC
  · intro t n l pc reply orphan next hnext hslot
    exact hslot.imp (And.imp_right fun hnot hC => hnot (syncing_resume hnext hC).syncing)
      (And.imp_right fun hnot hC => hnot (inSetConfig_resume hnext hC))
  · intro hfaulty
    cases hfaulty

theorem two_tasks_single {s : State ℕ} (h : system.ReachableWhere (fun s a => two_tasks s a = true) s)
    {a : Action ℕ} (hok : two_tasks s a = true) : SingleWriter rate_only 0 s a := by
  have hslots := two_tasks_slots h
  have hsetting : s.tasks 0 = none → WriterIdle s := by
    rintro hfree t n ⟨task, hslot, _, hC⟩
    obtain ⟨rfl, _⟩ | ⟨_, hnot⟩ := hslots t task hslot
    · rw [hfree] at hslot
      cases hslot
    · exact hnot hC
  have hsyncing : s.tasks 1 = none → ∀ t n, ¬ s.TaskAt t n Syncing := by
    rintro hfree t n ⟨task, hslot, _, hC⟩
    obtain ⟨_, hnot⟩ | ⟨rfl, _⟩ := hslots t task hslot
    · exact hnot hC
    · rw [hfree] at hslot
      cases hslot
  constructor
  case keys =>
    rintro t n key value rfl
    simp only [two_tasks, Bool.and_eq_true, beq_iff_eq] at hok
    exact hok.1.2
  case set_config =>
    rintro t n key value rfl
    simp only [two_tasks, Bool.and_eq_true, beq_iff_eq, Option.isNone_iff_eq_none] at hok
    exact ⟨hok.1.1.2, hsetting hok.2⟩
  case run_sync_loop =>
    rintro t n rfl
    simp only [two_tasks, Bool.and_eq_true, beq_iff_eq, Option.isNone_iff_eq_none, Bool.not_eq_true'] at hok
    obtain ⟨⟨⟨_, rfl⟩, hsubscribed⟩, hfree⟩ := hok
    exact ⟨hsubscribed, fun u => hsyncing hfree u 1⟩
  case sync_from_leader =>
    rintro t n rfl
    cases hok
  case deliver =>
    rintro n i rfl
    simpa [two_tasks] using hok

/-- Each task waits for the other one with its commands, and the SUBSCRIBE until the
node is up to date. -/
def in_turns (s : State ℕ) (a : Action ℕ) : Bool :=
  two_tasks s a && match a with
    | .exec t _ => (s.tasks (1 - t)).isNone && match s.tasks t with
      | some { node := n, pc := .subscribe, .. } =>
        (get_local (s.node n) "rate").2 == version_count s.server.store "rate"
      | _ => true
    | _ => true

theorem in_turns_safe {s : State ℕ} (h : system.ReachableWhere (fun s a => in_turns s a = true) s)
    {a : Action ℕ} (hok : in_turns s a = true) : SafeStart rate_only 0 s a := by
  have htwo : system.ReachableWhere (fun s a => two_tasks s a = true) s :=
    h.mono fun s a _ hok => (Bool.and_eq_true_iff.mp hok).1
  obtain ⟨hok, hturn⟩ := Bool.and_eq_true_iff.mp hok
  have halone : ∀ t choice, a = .exec t choice → ∀ task, s.tasks t = some task → ∀ u m C, s.TaskAt u m C →
      C task.pc task.reply := by
    rintro t choice rfl task htask u m C ⟨task', htask', _, hC⟩
    have hother : s.tasks (1 - t) = none := Option.isNone_iff_eq_none.mp (Bool.and_eq_true_iff.mp hturn).1
    have heq : u = t := by
      by_contra hne
      have hu : u = 1 - t := by
        obtain ⟨rfl, _⟩ | ⟨rfl, _⟩ := two_tasks_slots htwo t task htask <;>
          obtain ⟨rfl, _⟩ | ⟨rfl, _⟩ := two_tasks_slots htwo u task' htask' <;> omega
      rw [hu, hother] at htask'
      cases htask'
    rw [heq, htask] at htask'
    cases htask'
    exact hC
  refine { two_tasks_single htwo hok with incr := ?_, get_value := ?_, subscribe := ?_ }
  · rintro t choice n key value heq htask ⟨u, m, text, hreading⟩
    exact halone t choice heq _ htask u m _ hreading
  · rintro t choice n key batch heq htask ⟨u, m, entry, hwriting, _⟩
    exact halone t choice heq _ htask u m _ hwriting
  · rintro t choice n rfl htask key rfl
    left
    simpa [htask] using (Bool.and_eq_true_iff.mp hturn).2

/-- Node 1 starts between two updates and gets both. -/
theorem no_update_lost_between_updates :
    ∃ s : State ℕ, (s.node 0).get? "rate" = some ("9", 2) ∧ (s.node 1).get? "rate" = some ("9", 2) ∧
      s.server.subscribed 1 = true ∧ FollowersAgree rate_only 0 s := by
  obtain ⟨s, hreach, htest⟩ := TransitionSystem.exists_of_replay (fun s a => in_turns s a = true)
    in_turns (fun _ _ h => h) (s := (idle : State ℕ)) idle_initial
    [.call 0 0 (.set_config "rate" "5"), .exec 0 ⟨[], false⟩, .resume 0, .exec 0 ⟨[], false⟩, .resume 0,
      .exec 0 ⟨[], false⟩, .resume 0,
      .call 1 1 .run_sync_loop, .exec 1 ⟨[version_key "rate", config_key "rate"], true⟩, .resume 1,
      .exec 1 ⟨[], false⟩, .resume 1, .exec 1 ⟨[], false⟩, .resume 1, .exec 1 ⟨[], false⟩, .resume 1,
      .call 0 0 (.set_config "rate" "9"), .exec 0 ⟨[], false⟩, .resume 0, .exec 0 ⟨[], false⟩, .resume 0,
      .exec 0 ⟨[], false⟩, .resume 0, .event (.deliver 1 0)]
    (fun s => (s.node 0).get? "rate" = some ("9", 2) ∧ (s.node 1).get? "rate" = some ("9", 2) ∧
      s.server.subscribed 1 = true)
    (by decide)
  obtain ⟨hwriter, hstarted, hsubscribed⟩ := of_decide_eq_true htest
  have hsafe : system.ReachableWhere (SafeStart rate_only 0) s := hreach.mono fun _ _ hs hok => in_turns_safe hs hok
  exact ⟨s, hwriter, hstarted, hsubscribed, no_update_lost hsafe⟩

/-- Node 1 has scanned Redis but not subscribed when the only update is published. -/
theorem update_between_scan_and_subscribe :
    ¬ ∀ s : State ℕ, system.ReachableWhere (SingleWriter rate_only 0) s → FollowersAgree rate_only 0 s := by
  intro hclaim
  obtain ⟨s, hreach, htest⟩ := TransitionSystem.exists_of_replay (fun s a => two_tasks s a = true)
    two_tasks (fun _ _ h => h) (s := (idle : State ℕ)) idle_initial
    [.call 1 1 .run_sync_loop, .exec 1 ⟨[], true⟩, .resume 1,
      .call 0 0 (.set_config "rate" "5"), .exec 0 ⟨[], false⟩, .resume 0, .exec 0 ⟨[], false⟩, .resume 0,
      .exec 0 ⟨[], false⟩, .resume 0, .exec 1 ⟨[], false⟩, .resume 1]
    (fun s => s.tasks 0 = none ∧ s.tasks 1 = none ∧ s.server.subscribed 1 = true ∧
      s.server.applied 1 = (s.server.inbox 1).length ∧ (s.node 1).get? "rate" = none ∧
      redis_entry s.server.store "rate" = some ("5", 1))
    (by decide)
  obtain ⟨hwriter, hstarted, hsubscribed, hdelivered, hcached, hentry⟩ := of_decide_eq_true htest
  have hdone : ∀ t n C, ¬ s.TaskAt t n C := by
    rintro t n C ⟨task, htask, _⟩
    obtain ⟨rfl, _⟩ | ⟨rfl, _⟩ := two_tasks_slots hreach t task htask
    · cases hwriter.symm.trans htask
    · cases hstarted.symm.trans htask
  have hagree := hclaim s (hreach.mono fun _ _ hs hok => two_tasks_single hs hok) (fun t n => hdone t n _) 1
    ⟨.inr hsubscribed, fun t => hdone t 1 _⟩ hdelivered "rate" rfl
  rw [hcached, hentry] at hagree
  cases hagree

end gateway.config_sync
