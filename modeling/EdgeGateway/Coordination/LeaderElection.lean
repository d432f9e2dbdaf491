import Mathlib.Data.Set.Subsingleton
import EdgeGateway.Library.AsyncClients

namespace gateway.leader_election

/-- The commands a node sends about the one key `LOCK_KEY`. -/
inductive Command (ν : Type) where
  | set_nx (value : ν)
  | get
  | set (value : ν)
  | delete
  deriving DecidableEq

/-- Redis replies: OK, nil, a bulk string or an integer. -/
inductive Reply (ν : Type) where
  | ok
  | nil
  | bulk (value : ν)
  | integer (count : ℕ)
  deriving DecidableEq

/-- One Redis command on `LOCK_KEY`, whose entry is the stored node id. Every
write carries `ex=ttl`, so an entry may expire at any later moment. -/
def execute {ν : Type} (lock : Option ν) : Command ν → Option ν × Reply ν
  | .set_nx value =>
    match lock with
    | none => (some value, .ok)
    | some _ => (lock, .nil)
  | .get =>
    match lock with
    | none => (lock, .nil)
    | some value => (lock, .bulk value)
  | .set value => (some value, .ok)
  | .delete =>
    match lock with
    | none => (none, .integer 0)
    | some _ => (none, .integer 1)

/-- An entry found after a command was there before or is what the command wrote. -/
theorem execute_stored {ν : Type} {lock : Option ν} {command : Command ν} {owner : ν}
    (h : (execute lock command).1 = some owner) :
    lock = some owner ∨ (lock = none ∧ command = .set_nx owner) ∨ command = .set owner := by
  cases command with
  | set_nx value =>
    cases lock with
    | none =>
      simp only [execute, Option.some.injEq] at h
      exact .inr (.inl ⟨rfl, by rw [h]⟩)
    | some current => exact .inl h
  | get =>
    cases lock with
    | none => cases h
    | some current => exact .inl h
  | set value =>
    simp only [execute, Option.some.injEq] at h
    exact .inr (.inr (by rw [h]))
  | delete => cases lock <;> cases h

/-- A bulk reply repeats the entry, which the command left in place. -/
theorem execute_bulk {ν : Type} {lock : Option ν} {command : Command ν} {owner : ν}
    (h : (execute lock command).2 = .bulk owner) : lock = some owner := by
  cases command <;> cases lock <;> simp_all [execute]

/-- Only a SET NX that finds no entry, or a plain SET, is answered OK. -/
theorem execute_ok {ν : Type} {lock : Option ν} {command : Command ν}
    (h : (execute lock command).2 = .ok) :
    (lock = none ∧ ∃ value, command = .set_nx value) ∨ ∃ value, command = .set value := by
  cases command <;> cases lock <;> simp_all [execute]

inductive Call where
  | try_acquire
  | release
  deriving DecidableEq

/-- The `await`s of `try_acquire` and `release`. -/
inductive Pc where
  | acquire_set_nx
  | acquire_get
  | acquire_renew
  | release_get
  | release_delete
  deriving DecidableEq

def Pc.command {ν : Type} (node_id : ν) : Pc → Command ν
  | .acquire_set_nx => .set_nx node_id
  | .acquire_get => .get
  | .acquire_renew => .set node_id
  | .release_get => .get
  | .release_delete => .delete

/-- A call up to its first `await`. `release` returns at once on a node that
does not believe it is the leader. -/
def start (is_leader : Bool) : Call → Option Pc
  | .try_acquire => some .acquire_set_nx
  | .release => if is_leader then some .release_get else none

theorem start_pc {is_leader : Bool} {call : Call} {pc : Pc} (h : start is_leader call = some pc) :
    pc = .acquire_set_nx ∨ pc = .release_get := by
  cases call <;> simp only [start, Option.some.injEq, Option.ite_none_right_eq_some] at h
  · exact .inl h.symm
  · exact .inr h.2.symm

/-- What a suspended call does with the reply: the new `_is_leader` and the next
`await`, if any. -/
def resume {ν : Type} [DecidableEq ν] (node_id : ν) (is_leader : Bool) (pc : Pc)
    (reply : Reply ν) : Bool × Option Pc :=
  match pc with
  | .acquire_set_nx =>
    if reply = .ok then (true, none) else (is_leader, some .acquire_get)
  | .acquire_get =>
    if reply = .bulk node_id then (is_leader, some .acquire_renew) else (false, none)
  | .acquire_renew => (true, none)
  | .release_get =>
    if reply = .bulk node_id then (is_leader, some .release_delete) else (false, none)
  | .release_delete => (false, none)

/-- A call goes on to a second command after a SET NX that found an entry, or after
a GET that returned the caller's own id. -/
theorem resume_next {ν : Type} [DecidableEq ν] {node_id : ν} {is_leader : Bool} {pc next : Pc}
    {reply : Reply ν} (h : (resume node_id is_leader pc reply).2 = some next) :
    (pc = .acquire_set_nx ∧ next = .acquire_get) ∨
      (reply = .bulk node_id ∧
        (pc = .acquire_get ∧ next = .acquire_renew ∨ pc = .release_get ∧ next = .release_delete)) := by
  cases pc <;> simp only [resume] at h
  case acquire_set_nx =>
    split at h <;> cases h
    exact .inl ⟨rfl, rfl⟩
  case acquire_get =>
    split at h <;> cases h
    exact .inr ⟨by assumption, .inl ⟨rfl, rfl⟩⟩
  case release_get =>
    split at h <;> cases h
    exact .inr ⟨by assumption, .inr ⟨rfl, rfl⟩⟩
  all_goals cases h

/-- `_is_leader` is set by a SET NX that took the lock and by a finished renewal. -/
theorem resume_is_leader {ν : Type} [DecidableEq ν] {node_id : ν} {is_leader : Bool} {pc : Pc}
    {reply : Reply ν} (h : (resume node_id is_leader pc reply).1 = true) :
    is_leader = true ∨ (pc = .acquire_set_nx ∧ reply = .ok) ∨ pc = .acquire_renew := by
  cases pc <;> simp only [resume] at h
  case acquire_set_nx =>
    split at h
    · exact .inr (.inl ⟨rfl, by assumption⟩)
    · exact .inl h
  case acquire_renew => exact .inr (.inr rfl)
  case acquire_get =>
    split at h
    · exact .inl h
    · cases h
  case release_get =>
    split at h
    · exact .inl h
    · cases h
  all_goals cases h

/-- The `node_id` of the current leader. -/
def get_leader {ν : Type} (lock : Option ν) : Option ν :=
  match (execute lock .get).2 with
  | .bulk value => some value
  | _ => none

theorem get_leader_eq {ν : Type} (lock : Option ν) : get_leader lock = lock := by
  cases lock <;> rfl

/-- The TTL of the lock runs out. -/
def expire {ν : Type} (lock : Option ν) (is_leader : ν → Bool) : Option (Option ν × (ν → Bool)) :=
  if lock.isSome then some (none, is_leader) else none

variable {ν : Type} [DecidableEq ν]

/-- Any number of nodes calling `try_acquire` and `release` at will, among them
the iterations of `run_election_loop`, whose handler only logs the exception of a
failed command and so leaves `_is_leader` as it is. -/
def protocol : AsyncProtocol ν (Option ν) Bool Call Pc Unit (Reply ν) Unit where
  start _ is_leader call := (is_leader, start is_leader call)
  exec lock node_id pc _ := some (execute lock (pc.command node_id))
  resume := resume
  event lock is_leader _ := expire lock is_leader
  faulty := true

abbrev State (ν : Type) := AsyncProtocol.State ν (Option ν) Bool Pc (Reply ν)
abbrev Action (ν : Type) := AsyncProtocol.Action ν Call Unit Unit
abbrev Task (ν : Type) := AsyncProtocol.Task ν Pc (Reply ν)

/-- Runs start with no lock entry and every `_is_leader` False. -/
def system : TransitionSystem (State ν) (Action ν) :=
  protocol.system (· = none) fun _ is_leader => is_leader = false

/-- No lock, no belief and no call under way. -/
def idle : State ν := { server := none, node := fun _ => false, tasks := fun _ => none }

theorem idle_initial : system.initial (idle : State ν) :=
  ⟨rfl, fun _ => rfl, fun _ => rfl⟩

variable {s s' : State ν} {t : ℕ}

/-- A call that starts leaves the lock and every belief as they are. -/
theorem step_call {n : ν} {c : Call} (h : protocol.step s (.call t n c) = some s') :
    s' = { s with
      tasks := Function.update s.tasks t ((start (s.node n) c).map fun pc => { node := n, pc }) } := by
  obtain ⟨_, rfl⟩ := AsyncProtocol.step_call h
  simp [protocol]

theorem step_exec {choice : Unit} (h : protocol.step s (.exec t choice) = some s') :
    ∃ n pc orphan, s.tasks t = some { node := n, pc, orphan } ∧
      s' = { s with
        server := (execute s.server (pc.command n)).1
        tasks := Function.update s.tasks t
          (if orphan then none
            else some { node := n, pc, reply := some (execute s.server (pc.command n)).2 }) } := by
  obtain ⟨n, pc, orphan, server, reply, htask, hexec, rfl⟩ := AsyncProtocol.step_exec h
  have hexec : execute s.server (pc.command n) = (server, reply) := Option.some.inj hexec
  exact ⟨n, pc, orphan, htask, by rw [hexec]⟩

theorem step_event {e : Unit} (h : protocol.step s (.event e) = some s') :
    s' = { s with server := none } := by
  obtain ⟨server, node, hevent, rfl⟩ := AsyncProtocol.step_event h
  simp only [protocol, expire] at hevent
  split at hevent
  · cases hevent
    rfl
  · cases hevent

/-- The step executes a SET NX of node `n` that finds no entry and takes the lock. -/
def Takes (s : State ν) (a : Action ν) (n : ν) : Prop :=
  ∃ t choice task, a = .exec t choice ∧ s.tasks t = some task ∧ task.pc = .acquire_set_nx ∧
    task.node = n ∧ s.server = none

omit [DecidableEq ν] in
theorem Takes.unique {s : State ν} {a : Action ν} {n m : ν} (hn : Takes s a n) (hm : Takes s a m) :
    n = m := by
  obtain ⟨t, choice, task, rfl, htask, _, rfl, _⟩ := hn
  obtain ⟨t', choice', task', heq, htask', _, rfl, _⟩ := hm
  cases heq
  rw [htask] at htask'
  cases htask'
  rfl

/-- A set of nodes that only a taken lock can add to, and only its taker, has at
most one member when every taker finds no other node in the set. -/
theorem subsingleton_of_takes {ok : State ν → Action ν → Prop} {D : State ν → Set ν}
    (hinit : ∀ s, system.initial s → D s = ∅)
    (hstep : ∀ s a s', protocol.step s a = some s' → ∀ m ∈ D s', m ∈ D s ∨ Takes s a m)
    (hok : ∀ s a n, ok s a → Takes s a n → ∀ m ∈ D s, m = n)
    {s : State ν} (h : system.ReachableWhere ok s) : (D s).Subsingleton := by
  refine TransitionSystem.ReachableWhere.invariant (P := fun s => (D s).Subsingleton) ?_ ?_ h
  · intro s hs
    rw [hinit s hs]
    exact Set.subsingleton_empty
  · intro s a s' hsub hoka hs n hn m hm
    rcases hstep s a s' hs n hn with hn | hn <;> rcases hstep s a s' hs m hm with hm | hm
    · exact hsub hn hm
    · exact hok s a m hoka hm n hn
    · exact (hok s a n hoka hn m hm).symm
    · exact hn.unique hm

/-- The call, if the action is one, is of node 0. -/
def by_node_zero : Action ℕ → Bool
  | .call _ n _ => n == 0
  | _ => true

/-- Node 0 alone is at work: it is elected, and its renewal is under way. -/
theorem exists_renewing : ∃ s : State ℕ, system.ReachableWhere (fun _ a => ∀ t n c, a = .call t n c → n = 0) s ∧
    s.server = some 0 ∧ s.node 0 = true ∧ s.tasks 0 = some ⟨0, .acquire_renew, none, false⟩ := by
  obtain ⟨s, hreach, htest⟩ := TransitionSystem.exists_of_replay (fun _ a => ∀ t n c, a = .call t n c → n = 0)
    (fun _ a => by_node_zero a) (by rintro s a h t n c rfl; exact eq_of_beq h) (s := (idle : State ℕ)) idle_initial
    [.call 0 0 .try_acquire, .exec 0 (), .resume 0,
      .call 0 0 .try_acquire, .exec 0 (), .resume 0, .exec 0 (), .resume 0]
    (fun s => s.server = some 0 ∧ s.node 0 = true ∧ s.tasks 0 = some ⟨0, .acquire_renew, none, false⟩)
    (by decide)
  exact ⟨s, hreach, of_decide_eq_true htest⟩

end gateway.leader_election
