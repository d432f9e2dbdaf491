import Mathlib.Data.Option.Basic
import Mathlib.Logic.Function.Basic
import EdgeGateway.Library.Transition

/-- Coroutines of many nodes against one server that executes commands one at a
time. A suspended coroutine is a program counter `π` whose command the server
has yet to execute or whose reply `ρ` has yet to be delivered. `start` and
`resume` run a node up to its next suspension, `none` meaning that the coroutine
returned. The choice `χ` resolves what the server leaves open, and an event `ε`
is anything that happens outside the coroutines. -/
structure AsyncProtocol (ν S L κ π χ ρ ε : Type*) where
  start : ν → L → κ → L × Option π
  exec : S → ν → π → χ → Option (S × ρ)
  resume : ν → L → π → ρ → L × Option π
  event : S → (ν → L) → ε → Option (S × (ν → L))
  /-- Whether a command may raise in its caller. -/
  faulty : Bool

namespace AsyncProtocol

/-- A suspended coroutine. An orphan is a command whose caller has been thrown
out by an exception while the server may still execute the command. -/
structure Task (ν π ρ : Type*) where
  node : ν
  pc : π
  reply : Option ρ := none
  orphan : Bool := false
  deriving DecidableEq

structure State (ν S L π ρ : Type*) where
  server : S
  node : ν → L
  tasks : ℕ → Option (Task ν π ρ)

inductive Action (ν κ χ ε : Type*) where
  /-- A node starts a call in the unused task slot `t`. -/
  | call (t : ℕ) (n : ν) (c : κ)
  /-- The server executes the command that the task awaits. -/
  | exec (t : ℕ) (choice : χ)
  /-- The reply reaches the task, which runs to its next suspension. -/
  | resume (t : ℕ)
  /-- The awaited command raises in the task. -/
  | fail (t : ℕ)
  /-- An orphaned command is lost before it reaches the server. -/
  | drop (t : ℕ)
  | event (e : ε)

variable {ν S L κ π χ ρ ε : Type*}

/-- The task found after a slot was overwritten is the one written there, or an
old task in another slot. -/
theorem update_tasks_cases {tasks : ℕ → Option (Task ν π ρ)} {new : Option (Task ν π ρ)}
    {slot t : ℕ} {task : Task ν π ρ} (h : Function.update tasks slot new t = some task) :
    (t = slot ∧ new = some task) ∨ (t ≠ slot ∧ tasks t = some task) := by
  by_cases heq : t = slot
  · subst heq
    exact .inl ⟨rfl, by simpa using h⟩
  · exact .inr ⟨heq, by simpa [heq] using h⟩

/-- Some task of the node is at a point described by `C`. -/
def State.HasTask (s : State ν S L π ρ) (C : ν → π → Option ρ → Prop) (n : ν) : Prop :=
  ∃ t task, s.tasks t = some task ∧ task.node = n ∧ C n task.pc task.reply

theorem State.HasTask.of_update {s : State ν S L π ρ} {server : S} {node : ν → L} {slot : ℕ}
    {new : Option (Task ν π ρ)} {C : ν → π → Option ρ → Prop} {n : ν}
    (h : State.HasTask { server, node, tasks := Function.update s.tasks slot new } C n) :
    (∃ task, new = some task ∧ task.node = n ∧ C n task.pc task.reply) ∨ s.HasTask C n := by
  obtain ⟨t, task, htask, hnode, hpc⟩ := h
  obtain ⟨rfl, hnew⟩ | ⟨_, hold⟩ := update_tasks_cases htask
  · exact .inl ⟨task, hnew, hnode, hpc⟩
  · exact .inr ⟨t, task, hold, hnode, hpc⟩

/-- The task in slot `t` belongs to node `n` and is at a point described by `C`. -/
def State.TaskAt (s : State ν S L π ρ) (t : ℕ) (n : ν) (C : π → Option ρ → Prop) : Prop :=
  ∃ task, s.tasks t = some task ∧ task.node = n ∧ C task.pc task.reply

theorem State.taskAt_iff {s : State ν S L π ρ} {t : ℕ} {m n : ν} {pc : π} {reply : Option ρ} {orphan : Bool}
    {C : π → Option ρ → Prop} (htask : s.tasks t = some { node := m, pc, reply, orphan }) :
    s.TaskAt t n C ↔ m = n ∧ C pc reply := by
  constructor
  · rintro ⟨task, heq, hnode, hC⟩
    rw [htask] at heq
    cases heq
    exact ⟨hnode, hC⟩
  · rintro ⟨hnode, hC⟩
    exact ⟨_, htask, hnode, hC⟩

/-- What a task says after its slot was rewritten, it said before, if the new task
says nothing that the old one did not. -/
theorem State.TaskAt.of_update {s s' : State ν S L π ρ} {slot t : ℕ} {n : ν} {C : π → Option ρ → Prop}
    {new : Option (Task ν π ρ)} (htasks : s'.tasks = Function.update s.tasks slot new)
    (hnew : ∀ task, new = some task → C task.pc task.reply → s.TaskAt slot task.node C)
    (h : s'.TaskAt t n C) : s.TaskAt t n C := by
  obtain ⟨task, htask, rfl, hC⟩ := h
  rw [htasks] at htask
  obtain ⟨rfl, hwrite⟩ | ⟨_, hold⟩ := update_tasks_cases htask
  · exact hnew task hwrite hC
  · exact ⟨task, hold, rfl, hC⟩

theorem State.TaskAt.update_cases {s s' : State ν S L π ρ} {slot t : ℕ} {n : ν} {C : π → Option ρ → Prop}
    {task : Task ν π ρ} (htasks : s'.tasks = Function.update s.tasks slot (some task)) (h : s'.TaskAt t n C) :
    (t = slot ∧ task.node = n ∧ C task.pc task.reply) ∨ (t ≠ slot ∧ s.TaskAt t n C) := by
  obtain ⟨task', htask, hnode, hC⟩ := h
  rw [htasks] at htask
  obtain ⟨heq, hwrite⟩ | ⟨hne, hold⟩ := update_tasks_cases htask
  · cases hwrite
    exact .inl ⟨heq, hnode, hC⟩
  · exact .inr ⟨hne, task', hold, hnode, hC⟩

/-- What a task said, it still says, if the task in the rewritten slot does. -/
theorem State.TaskAt.update {s s' : State ν S L π ρ} {slot t : ℕ} {n : ν} {C : π → Option ρ → Prop}
    {new : Option (Task ν π ρ)} (htasks : s'.tasks = Function.update s.tasks slot new)
    (hkeep : s.TaskAt slot n C → ∃ task, new = some task ∧ task.node = n ∧ C task.pc task.reply)
    (h : s.TaskAt t n C) : s'.TaskAt t n C := by
  by_cases heq : t = slot
  · subst heq
    obtain ⟨task, hnew, hnode, hC⟩ := hkeep h
    exact ⟨task, by rw [htasks, Function.update_self, hnew], hnode, hC⟩
  · obtain ⟨task, htask, hnode, hC⟩ := h
    exact ⟨task, by rw [htasks, Function.update_of_ne heq, htask], hnode, hC⟩

variable [DecidableEq ν] (P : AsyncProtocol ν S L κ π χ ρ ε)

def step (s : State ν S L π ρ) : Action ν κ χ ε → Option (State ν S L π ρ)
  | .call t n c =>
    match s.tasks t with
    | some _ => none
    | none =>
      let (l, pc) := P.start n (s.node n) c
      some { s with
        node := Function.update s.node n l
        tasks := Function.update s.tasks t (pc.map fun pc => { node := n, pc }) }
  | .exec t choice =>
    match s.tasks t with
    | some { node := n, pc, reply := none, orphan } =>
      (P.exec s.server n pc choice).map fun (server, reply) =>
        { s with
          server
          tasks := Function.update s.tasks t
            (if orphan then none else some { node := n, pc, reply := some reply }) }
    | _ => none
  | .resume t =>
    match s.tasks t with
    | some { node := n, pc, reply := some reply, orphan := _ } =>
      let (l, next) := P.resume n (s.node n) pc reply
      some { s with
        node := Function.update s.node n l
        tasks := Function.update s.tasks t (next.map fun pc => { node := n, pc }) }
    | _ => none
  | .fail t =>
    match s.tasks t with
    | some { node := n, pc, reply, orphan := false } =>
      if P.faulty then
        some { s with
          tasks := Function.update s.tasks t
            (if reply.isSome then none else some { node := n, pc, orphan := true }) }
      else none
    | _ => none
  | .drop t =>
    match s.tasks t with
    | some { orphan := true, .. } => some { s with tasks := Function.update s.tasks t none }
    | _ => none
  | .event e =>
    (P.event s.server s.node e).map fun (server, node) => { s with server, node }

variable {P} {s s' : State ν S L π ρ} {t : ℕ}

theorem step_call {n : ν} {c : κ} (h : P.step s (.call t n c) = some s') :
    s.tasks t = none ∧
      s' = { s with
        node := Function.update s.node n (P.start n (s.node n) c).1
        tasks := Function.update s.tasks t
          ((P.start n (s.node n) c).2.map fun pc => { node := n, pc }) } := by
  simp only [step] at h
  split at h
  · cases h
  · rename_i hfree
    exact ⟨hfree, (Option.some.inj h).symm⟩

theorem step_exec {choice : χ} (h : P.step s (.exec t choice) = some s') :
    ∃ n pc orphan server reply,
      s.tasks t = some { node := n, pc, orphan } ∧
      P.exec s.server n pc choice = some (server, reply) ∧
      s' = { s with
        server
        tasks := Function.update s.tasks t
          (if orphan then none else some { node := n, pc, reply := some reply }) } := by
  simp only [step] at h
  split at h
  · rename_i n pc orphan htask
    obtain ⟨⟨server, reply⟩, hexec, rfl⟩ := Option.map_eq_some_iff.mp h
    exact ⟨n, pc, orphan, server, reply, htask, hexec, rfl⟩
  · cases h

theorem step_resume (h : P.step s (.resume t : Action ν κ χ ε) = some s') :
    ∃ n pc reply orphan,
      s.tasks t = some { node := n, pc, reply := some reply, orphan } ∧
      s' = { s with
        node := Function.update s.node n (P.resume n (s.node n) pc reply).1
        tasks := Function.update s.tasks t
          ((P.resume n (s.node n) pc reply).2.map fun pc => { node := n, pc }) } := by
  simp only [step] at h
  split at h
  · rename_i n pc reply orphan htask
    exact ⟨n, pc, reply, orphan, htask, (Option.some.inj h).symm⟩
  · cases h

theorem step_fail (h : P.step s (.fail t : Action ν κ χ ε) = some s') :
    P.faulty = true ∧ ∃ n pc reply,
      s.tasks t = some { node := n, pc, reply } ∧
      s' = { s with
        tasks := Function.update s.tasks t
          (if reply.isSome then none else some { node := n, pc, orphan := true }) } := by
  simp only [step] at h
  split at h
  · rename_i n pc reply htask
    split at h
    · rename_i hfaulty
      exact ⟨hfaulty, n, pc, reply, htask, (Option.some.inj h).symm⟩
    · cases h
  · cases h

theorem step_drop (h : P.step s (.drop t : Action ν κ χ ε) = some s') :
    (∃ task, s.tasks t = some task ∧ task.orphan = true) ∧
      s' = { s with tasks := Function.update s.tasks t none } := by
  simp only [step] at h
  split at h
  · rename_i htask
    exact ⟨⟨_, htask, rfl⟩, (Option.some.inj h).symm⟩
  · cases h

theorem step_event {e : ε} (h : P.step s (.event e) = some s') :
    ∃ server node, P.event s.server s.node e = some (server, node) ∧
      s' = { s with server, node } := by
  obtain ⟨⟨server, node⟩, hevent, rfl⟩ := Option.map_eq_some_iff.mp h
  exact ⟨server, node, hevent, rfl⟩

/-- What a task says after a step, it said before, or a call made it start so, when
neither replies nor resumption add to what is said. -/
theorem State.TaskAt.of_step {C : π → Option ρ → Prop} {a : Action ν κ χ ε} {u : ℕ} {n : ν}
    (hexec : ∀ pc reply, C pc (some reply) → C pc none)
    (hresume : ∀ n l pc reply next, (P.resume n l pc reply).2 = some next → C next none → C pc (some reply))
    (h : P.step s a = some s') (hC : s'.TaskAt u n C) :
    s.TaskAt u n C ∨ ∃ c pc, a = .call u n c ∧ s.tasks u = none ∧ (P.start n (s.node n) c).2 = some pc ∧
      C pc none := by
  cases a with
  | call t m c =>
    obtain ⟨hfree, rfl⟩ := step_call h
    obtain ⟨task, htask, rfl, hC⟩ := hC
    obtain ⟨rfl, hnew⟩ | ⟨_, hold⟩ := update_tasks_cases htask
    · obtain ⟨pc, hstart, rfl⟩ := Option.map_eq_some_iff.mp hnew
      exact .inr ⟨c, pc, rfl, hfree, hstart, hC⟩
    · exact .inl ⟨task, hold, rfl, hC⟩
  | exec t choice =>
    obtain ⟨m, pc, orphan, server, reply, hslot, _, rfl⟩ := step_exec h
    refine .inl (hC.of_update rfl fun task hnew hC => ?_)
    split at hnew
    · cases hnew
    · cases hnew
      exact ⟨_, hslot, rfl, hexec pc reply hC⟩
  | resume t =>
    obtain ⟨m, pc, reply, orphan, hslot, rfl⟩ := step_resume h
    refine .inl (hC.of_update rfl fun task hnew hC => ?_)
    obtain ⟨next, hnext, rfl⟩ := Option.map_eq_some_iff.mp hnew
    exact ⟨_, hslot, rfl, hresume m _ pc reply next hnext hC⟩
  | fail t =>
    obtain ⟨_, m, pc, reply, hslot, rfl⟩ := step_fail h
    refine .inl (hC.of_update rfl fun task hnew hC => ?_)
    cases reply with
    | some reply => cases hnew
    | none =>
      cases hnew
      exact ⟨_, hslot, rfl, hC⟩
  | drop t =>
    obtain ⟨_, rfl⟩ := step_drop h
    exact .inl (hC.of_update rfl fun task hnew _ => by cases hnew)
  | event e =>
    obtain ⟨server, node, _, rfl⟩ := step_event h
    exact .inl hC

/-- What a task says goes on being said until its command is executed, when no command
raises and resumption goes on saying it. -/
theorem State.TaskAt.persists {C : π → Option ρ → Prop} {a : Action ν κ χ ε} {u : ℕ} {n : ν}
    (hfaulty : P.faulty = false) (hclean : ∀ t task, s.tasks t = some task → task.orphan = false)
    (hresume : ∀ pc reply, s.tasks u = some { node := n, pc, reply := some reply } → C pc (some reply) →
      ∃ next, (P.resume n (s.node n) pc reply).2 = some next ∧ C next none)
    (h : P.step s a = some s') (hC : s.TaskAt u n C) :
    s'.TaskAt u n C ∨ ∃ choice pc server reply, a = .exec u choice ∧ s.tasks u = some { node := n, pc } ∧
      P.exec s.server n pc choice = some (server, reply) ∧ C pc none ∧
      s' = { s with server, tasks := Function.update s.tasks u (some { node := n, pc, reply := some reply }) } := by
  cases a with
  | call t m c =>
    obtain ⟨hfree, rfl⟩ := step_call h
    refine .inl (hC.update rfl ?_)
    rintro ⟨task, hslot, _⟩
    rw [hfree] at hslot
    cases hslot
  | exec t choice =>
    obtain ⟨m, pc, orphan, server, reply, htask, hexec, rfl⟩ := step_exec h
    obtain rfl : orphan = false := hclean t _ htask
    by_cases hslot : u = t
    · subst hslot
      obtain ⟨rfl, hold⟩ := (taskAt_iff htask).mp hC
      exact .inr ⟨choice, pc, server, reply, rfl, htask, hexec, hold, rfl⟩
    · obtain ⟨task, hkept, hnode, hold⟩ := hC
      exact .inl ⟨task, (Function.update_of_ne hslot _ _).trans hkept, hnode, hold⟩
  | resume t =>
    obtain ⟨m, pc, reply, orphan, htask, rfl⟩ := step_resume h
    obtain rfl : orphan = false := hclean t _ htask
    by_cases hslot : u = t
    · subst hslot
      obtain ⟨rfl, hold⟩ := (taskAt_iff htask).mp hC
      obtain ⟨next, hnext, hnew⟩ := hresume pc reply htask hold
      exact .inl ⟨_, (Function.update_self _ _ _).trans (by rw [hnext]; rfl), rfl, hnew⟩
    · obtain ⟨task, hkept, hnode, hold⟩ := hC
      exact .inl ⟨task, (Function.update_of_ne hslot _ _).trans hkept, hnode, hold⟩
  | fail t =>
    obtain ⟨hfail, _⟩ := step_fail h
    rw [hfaulty] at hfail
    cases hfail
  | drop t =>
    obtain ⟨⟨task, htask, horphan⟩, _⟩ := step_drop h
    rw [hclean t task htask] at horphan
    cases horphan
  | event e =>
    obtain ⟨server, node, _, rfl⟩ := step_event h
    exact .inl hC

variable (P)

/-- The runs of a protocol from idle nodes, as a transition system. -/
def system (server : S → Prop) (node : ν → L → Prop) :
    TransitionSystem (State ν S L π ρ) (Action ν κ χ ε) where
  initial s := server s.server ∧ (∀ n, node n (s.node n)) ∧ ∀ t, s.tasks t = none
  step := P.step

variable {P}

/-- A property of single tasks that a call starts with, and that its own steps keep,
holds of every task. -/
theorem tasks_invariant {Q : ℕ → Task ν π ρ → Prop} {server : S → Prop} {node : ν → L → Prop}
    {ok : State ν S L π ρ → Action ν κ χ ε → Prop}
    (hcall : ∀ s t n c pc, ok s (.call t n c) → (P.start n (s.node n) c).2 = some pc →
      Q t { node := n, pc })
    (hexec : ∀ t n pc reply, Q t { node := n, pc } → Q t { node := n, pc, reply := some reply })
    (hresume : ∀ t n l pc reply orphan next, (P.resume n l pc reply).2 = some next →
      Q t { node := n, pc, reply := some reply, orphan } → Q t { node := n, pc := next })
    (hfail : P.faulty = true → ∀ t n pc, Q t { node := n, pc } → Q t { node := n, pc, orphan := true })
    (h : (P.system server node).ReachableWhere ok s) : ∀ t task, s.tasks t = some task → Q t task := by
  refine TransitionSystem.ReachableWhere.invariant
    (P := fun s => ∀ t task, s.tasks t = some task → Q t task) ?_ ?_ h
  · rintro s ⟨_, _, htasks⟩ t task htask
    rw [htasks] at htask
    cases htask
  · intro s a s' hinv hok hstep slot task htask
    change P.step s a = some s' at hstep
    have keep {t : ℕ} {new : Option (Task ν π ρ)} (hnew : ∀ task, new = some task → Q t task)
        (hupdate : Function.update s.tasks t new slot = some task) : Q slot task := by
      obtain ⟨rfl, hwrite⟩ | ⟨_, hold⟩ := update_tasks_cases hupdate
      · exact hnew task hwrite
      · exact hinv slot task hold
    cases a with
    | call t n c =>
      obtain ⟨_, rfl⟩ := step_call hstep
      refine keep (fun task hnew => ?_) htask
      obtain ⟨pc, hstart, rfl⟩ := Option.map_eq_some_iff.mp hnew
      exact hcall s t n c pc hok hstart
    | exec t choice =>
      obtain ⟨n, pc, orphan, server, reply, hold, _, rfl⟩ := step_exec hstep
      refine keep (fun task hnew => ?_) htask
      cases orphan with
      | true => cases hnew
      | false =>
        cases hnew
        exact hexec t n pc reply (hinv t _ hold)
    | resume t =>
      obtain ⟨n, pc, reply, orphan, hold, rfl⟩ := step_resume hstep
      refine keep (fun task hnew => ?_) htask
      obtain ⟨next, hnext, rfl⟩ := Option.map_eq_some_iff.mp hnew
      exact hresume t n (s.node n) pc reply orphan next hnext (hinv t _ hold)
    | fail t =>
      obtain ⟨hfaulty, n, pc, reply, hold, rfl⟩ := step_fail hstep
      refine keep (fun task hnew => ?_) htask
      cases reply with
      | some reply => cases hnew
      | none =>
        cases hnew
        exact hfail hfaulty t n pc (hinv t _ hold)
    | drop t =>
      obtain ⟨_, rfl⟩ := step_drop hstep
      exact keep (fun task hnew => by cases hnew) htask
    | event e =>
      obtain ⟨server, node, _, rfl⟩ := step_event hstep
      exact hinv slot task htask

/-- Tasks only ever belong to nodes that made a call. -/
theorem tasks_node {server : S → Prop} {node : ν → L → Prop} {N : ν → Prop}
    (h : (P.system server node).ReachableWhere (fun _ a => ∀ t n c, a = .call t n c → N n) s) :
    ∀ t task, s.tasks t = some task → N task.node := by
  refine tasks_invariant (Q := fun _ task => N task.node) ?_ ?_ ?_ ?_ h
  · exact fun s t n c pc hok _ => hok t n c rfl
  · exact fun t n pc reply hnode => hnode
  · exact fun t n l pc reply orphan next _ hnode => hnode
  · exact fun _ t n pc hnode => hnode

/-- Tasks only ever run in slots that a call was given. -/
theorem tasks_slot {server : S → Prop} {node : ν → L → Prop} {T : ℕ → Prop}
    (h : (P.system server node).ReachableWhere (fun _ a => ∀ t n c, a = .call t n c → T t) s) :
    ∀ t task, s.tasks t = some task → T t := by
  refine tasks_invariant (Q := fun t _ => T t) ?_ ?_ ?_ ?_ h
  · exact fun s t n c pc hok _ => hok t n c rfl
  · exact fun t n pc reply hslot => hslot
  · exact fun t n l pc reply orphan next _ hslot => hslot
  · exact fun _ t n pc hslot => hslot

/-- Where no command raises there are no orphans. -/
theorem no_orphans (hfaulty : P.faulty = false) {server : S → Prop} {node : ν → L → Prop}
    {ok : State ν S L π ρ → Action ν κ χ ε → Prop} (h : (P.system server node).ReachableWhere ok s) :
    ∀ t task, s.tasks t = some task → task.orphan = false := by
  refine tasks_invariant (Q := fun _ task => task.orphan = false) ?_ ?_ ?_ ?_ h
  · exact fun s t n c pc _ _ => rfl
  · exact fun t n pc reply _ => rfl
  · exact fun t n l pc reply orphan next _ _ => rfl
  · intro hfail
    rw [hfaulty] at hfail
    cases hfail

end AsyncProtocol
