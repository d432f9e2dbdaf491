import EdgeGateway.Coordination.LeaderElection

open AsyncProtocol

namespace gateway.leader_election

variable {ν : Type} [DecidableEq ν]

/-- A call between a GET that returned the caller's own id and the execution of
the SET or DEL that the call decided on. -/
def Poised (node_id : ν) : Pc → Option (Reply ν) → Prop
  | .acquire_get, some reply => reply = .bulk node_id
  | .release_get, some reply => reply = .bulk node_id
  | .acquire_renew, none => True
  | .release_delete, none => True
  | _, _ => False

/-- Executing the awaited command of a call changes an entry that holds the id of
another node. -/
def Tramples (lock : Option ν) (task : Task ν) : Prop :=
  ∃ owner, lock = some owner ∧ owner ≠ task.node ∧
    (execute lock (task.pc.command task.node)).1 ≠ lock

/-- A SET NX takes the lock only while no call of another node is poised. -/
def TakesUndisputed (s : State ν) (a : Action ν) : Prop :=
  ∀ n, Takes s a n → ∀ m, s.HasTask Poised m → m = n

/-- The nodes with a say in the lock: its holder and the nodes poised to write it. -/
def Disputants (s : State ν) : Set ν :=
  { n | s.server = some n ∨ s.HasTask Poised n }

/-- Only a SET NX that takes the free lock adds a disputant, its own node. -/
theorem disputants_step {s s' : State ν} {a : Action ν} (h : protocol.step s a = some s')
    {m : ν} (hm : m ∈ Disputants s') : m ∈ Disputants s ∨ Takes s a m := by
  cases a with
  | call t n c =>
    obtain rfl := step_call h
    refine .inl (hm.imp id fun hm => ?_)
    obtain ⟨task, hnew, _, hpoised⟩ | hold := hm.of_update
    · obtain ⟨pc, hpc, rfl⟩ := Option.map_eq_some_iff.mp hnew
      obtain rfl | rfl := start_pc hpc <;> cases hpoised
    · exact hold
  | exec t choice =>
    obtain ⟨n, pc, orphan, htask, rfl⟩ := step_exec h
    rcases hm with hlock | hm
    · obtain hsame | ⟨hfree, hnx⟩ | hset := execute_stored hlock
      · exact .inl (.inl hsame)
      · cases pc <;> cases hnx
        exact .inr ⟨t, choice, _, rfl, htask, rfl, rfl, hfree⟩
      · cases pc <;> cases hset
        exact .inl (.inr ⟨t, _, htask, rfl, trivial⟩)
    · obtain ⟨task, hnew, rfl, hpoised⟩ | hold := hm.of_update
      · cases orphan with
        | true => cases hnew
        | false =>
          cases hnew
          -- only the reply of one of the two GETs can make the call poised
          cases pc
          case acquire_get => exact .inl (.inl (execute_bulk hpoised))
          case release_get => exact .inl (.inl (execute_bulk hpoised))
          all_goals cases hpoised
      · exact .inl (.inr hold)
  | resume t =>
    obtain ⟨n, pc, reply, orphan, htask, rfl⟩ := step_resume h
    refine .inl (hm.imp id fun hm => ?_)
    obtain ⟨task, hnew, rfl, hpoised⟩ | hold := hm.of_update
    · obtain ⟨next, hnext, rfl⟩ := Option.map_eq_some_iff.mp hnew
      refine ⟨t, _, htask, rfl, ?_⟩
      obtain ⟨_, rfl⟩ | ⟨hown, ⟨rfl, rfl⟩ | ⟨rfl, rfl⟩⟩ := resume_next hnext
      · cases hpoised
      · exact hown
      · exact hown
    · exact hold
  | fail t =>
    obtain ⟨_, n, pc, reply, htask, rfl⟩ := step_fail h
    refine .inl (hm.imp id fun hm => ?_)
    obtain ⟨task, hnew, rfl, hpoised⟩ | hold := hm.of_update
    · cases reply with
      | some reply => cases hnew
      | none =>
        cases hnew
        exact ⟨t, _, htask, rfl, hpoised⟩
    · exact hold
  | drop t =>
    obtain ⟨_, rfl⟩ := step_drop h
    refine .inl (hm.imp id fun hm => ?_)
    obtain ⟨task, hnew, _⟩ | hold := hm.of_update
    · cases hnew
    · exact hold
  | event e =>
    obtain rfl := step_event h
    exact .inl (.inr (hm.resolve_left (by simp)))

/-- Under the condition, everybody with a say in the lock is one and the same node. -/
theorem disputants_subsingleton {s : State ν} (h : system.ReachableWhere TakesUndisputed s) :
    (Disputants s).Subsingleton := by
  refine subsingleton_of_takes ?_ (fun _ _ _ hstep _ => disputants_step hstep) ?_ h
  · rintro s ⟨hserver, _, htasks⟩
    refine Set.eq_empty_iff_forall_notMem.mpr ?_
    rintro n (hlock | ⟨t, task, htask, _⟩)
    · rw [hserver] at hlock
      cases hlock
    · rw [htasks] at htask
      cases htask
  · rintro s a n hok htakes m (hlock | hpoised)
    · obtain ⟨_, _, _, _, _, _, _, hfree⟩ := htakes
      rw [hfree] at hlock
      cases hlock
    · exact hok n htakes m hpoised

/-- In every run in which a SET NX takes the lock only while no call of another
node is poised, no command ever overwrites or deletes another node's entry. -/
theorem lock_touched_by_owner_only {s s' : State ν} {t : ℕ} {choice : Unit} {task : Task ν}
    (h : system.ReachableWhere TakesUndisputed s) (hstep : system.step s (.exec t choice) = some s')
    (htask : s.tasks t = some task) : ¬ Tramples s.server task := by
  rintro ⟨owner, hlock, hother, hchange⟩
  obtain ⟨n, pc, orphan, htask', rfl⟩ := step_exec hstep
  rw [htask'] at htask
  cases htask
  refine hother (disputants_subsingleton h (.inl hlock) (.inr ⟨t, _, htask', rfl, ?_⟩))
  cases pc
  case acquire_renew => trivial
  case release_delete => trivial
  all_goals simp [hlock, Pc.command, execute] at hchange

/-- Node 0 renews its own lock. -/
theorem lock_touched_by_owner_only_renewal :
    ∃ s s' : State ℕ, s.server = some 0 ∧ system.step s (.exec 0 ()) = some s' ∧
      ¬ Tramples s.server ⟨0, .acquire_renew, none, false⟩ := by
  obtain ⟨s, hreach, hlock, _, htask⟩ := exists_renewing
  have hundisputed : system.ReachableWhere TakesUndisputed s := by
    refine hreach.mono fun s a hs _ => ?_
    rintro n ⟨t, _, task, _, htask, _, rfl, _⟩ m ⟨slot, other, hother, rfl, _⟩
    rw [tasks_node hs slot other hother, tasks_node hs t task htask]
  obtain ⟨s', hstep⟩ : ∃ s', system.step s (.exec 0 ()) = some s' := by
    simp [system, AsyncProtocol.system, AsyncProtocol.step, htask, protocol]
  exact ⟨s, s', hlock, hstep, lock_touched_by_owner_only hundisputed hstep htask⟩

/-- Node 0 reads its own id, its lock expires, node 1 takes the lock, and the
renewal of node 0 overwrites it. -/
theorem renewal_tramples_new_owner :
    ¬ ∀ (s s' : State ℕ) (t : ℕ) (choice : Unit) (task : Task ℕ), system.Reachable s →
      system.step s (.exec t choice) = some s' → s.tasks t = some task →
      ¬ Tramples s.server task := by
  intro hclaim
  obtain ⟨s, hreach, htest⟩ := TransitionSystem.exists_of_replay (fun _ _ => True)
    (fun _ _ => true) (fun _ _ _ => trivial) (s := (idle : State ℕ)) idle_initial
    [.call 0 0 .try_acquire, .exec 0 (), .resume 0,
      .call 0 0 .try_acquire, .exec 0 (), .resume 0, .exec 0 (), .resume 0,
      .event (), .call 1 1 .try_acquire, .exec 1 ()]
    (fun s => s.server = some 1 ∧ s.tasks 0 = some ⟨0, .acquire_renew, none, false⟩)
    (by decide)
  obtain ⟨hlock, htask⟩ := of_decide_eq_true htest
  obtain ⟨s', hstep⟩ : ∃ s', system.step s (.exec 0 ()) = some s' := by
    simp [system, AsyncProtocol.system, AsyncProtocol.step, htask, protocol]
  refine hclaim s s' 0 () _ hreach hstep htask ⟨1, hlock, by decide, ?_⟩
  rw [hlock]
  decide

/-- The condition leaves nothing out: once a SET NX takes the lock while a call of
another node is poised, that call can go on to overwrite or delete the new entry. -/
theorem disputed_take_tramples {s s₁ : State ν} {a : Action ν} {n m : ν}
    (hreach : system.Reachable s) (htakes : Takes s a n) (hstep : system.step s a = some s₁)
    (hpoised : s.HasTask Poised m) (hother : m ≠ n) :
    ∃ (s₂ : State ν) (slot : ℕ) (other : Task ν), system.Reachable s₂ ∧ s₂.tasks slot = some other ∧ other.reply = none ∧
      Tramples s₂.server other := by
  obtain ⟨slot, other, hslot, rfl, hother_pc⟩ := hpoised
  obtain ⟨t, choice, task, rfl, htask, hpc, rfl, hfree⟩ := htakes
  obtain ⟨n, pc, orphan, htask', rfl⟩ := step_exec hstep
  rw [htask'] at htask
  cases htask
  cases hpc
  have hne : slot ≠ t := by
    rintro rfl
    rw [htask'] at hslot
    cases hslot
    cases hother_pc
  have hreach₁ : system.Reachable _ := .step hreach trivial hstep
  have hkept : Function.update s.tasks t
      (if orphan then none
        else some { node := n, pc := .acquire_set_nx, reply := some (execute s.server (Pc.acquire_set_nx.command n)).2 })
      slot = some other := by
    rw [Function.update_of_ne hne, hslot]
  have htaken : (execute s.server (Pc.acquire_set_nx.command n)).1 = some n := by
    rw [hfree]
    rfl
  have hown : some n ≠ some other.node := fun h => hother (Option.some.inj h).symm
  obtain ⟨m, pc, reply, orphan'⟩ := other
  cases reply with
  | none =>
    refine ⟨_, slot, _, hreach₁, hkept, rfl, n, htaken, fun h => hother h.symm, ?_⟩
    rw [htaken]
    cases pc
    case acquire_renew => simpa [Pc.command, execute] using hown.symm
    case release_delete => simp [Pc.command, execute]
    all_goals cases hother_pc
  | some reply =>
    -- the reply turns the matching GET into the SET or DEL that follows it
    cases pc
    case acquire_get =>
      refine ⟨_, slot, { node := m, pc := .acquire_renew }, hreach₁.step (a := .resume slot) trivial
        (by simp only [system, AsyncProtocol.system, AsyncProtocol.step, hkept]; rfl), ?_, rfl,
        n, htaken, fun h => hother h.symm, ?_⟩
      · simp [protocol, resume, show reply = .bulk m from hother_pc]
      · rw [htaken]
        simpa [Pc.command, execute] using hown.symm
    case release_get =>
      refine ⟨_, slot, { node := m, pc := .release_delete }, hreach₁.step (a := .resume slot) trivial
        (by simp only [system, AsyncProtocol.system, AsyncProtocol.step, hkept]; rfl), ?_, rfl,
        n, htaken, fun h => hother h.symm, ?_⟩
      · simp [protocol, resume, show reply = .bulk m from hother_pc]
      · rw [htaken]
        simp [Pc.command, execute]
    all_goals cases hother_pc

end gateway.leader_election
