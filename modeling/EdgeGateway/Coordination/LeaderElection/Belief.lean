import EdgeGateway.Coordination.LeaderElection

open AsyncProtocol

namespace gateway.leader_election

variable {ν : Type} [DecidableEq ν]

/-- A call that will set `_is_leader` when it goes on undisturbed: its SET NX took
the lock, its GET returned the caller's own id, or its renewal is under way. -/
def Conferring (node_id : ν) : Pc → Option (Reply ν) → Prop
  | .acquire_set_nx, some reply => reply = .ok
  | .acquire_get, some reply => reply = .bulk node_id
  | .acquire_renew, _ => True
  | _, _ => False

/-- The nodes that hold the lock, believe to be the leader or are about to. -/
def Claimants (s : State ν) : Set ν :=
  { n | s.server = some n ∨ s.node n = true ∨ s.HasTask Conferring n }

/-- A SET NX takes the lock only when every other node has `is_leader` False and
no call under way that will set it. -/
def TakesUnclaimed (s : State ν) (a : Action ν) : Prop :=
  ∀ n, Takes s a n → ∀ m, s.node m = true ∨ s.HasTask Conferring m → m = n

/-- Of the commands only a SET NX that takes the free lock adds a claimant. -/
theorem claimants_exec {s s' : State ν} {t : ℕ} {choice : Unit} (h : protocol.step s (.exec t choice) = some s')
    {m : ν} (hm : m ∈ Claimants s') : m ∈ Claimants s ∨ Takes s (.exec t choice) m := by
  obtain ⟨n, pc, orphan, htask, rfl⟩ := step_exec h
  rcases hm with hlock | hbelief | hm
  · obtain hsame | ⟨hfree, hnx⟩ | hset := execute_stored hlock
    · exact .inl (.inl hsame)
    · cases pc <;> cases hnx
      exact .inr ⟨t, choice, _, rfl, htask, rfl, rfl, hfree⟩
    · cases pc <;> cases hset
      exact .inl (.inr (.inr ⟨t, _, htask, rfl, trivial⟩))
  · exact .inl (.inr (.inl hbelief))
  · obtain ⟨task, hnew, rfl, hconf⟩ | hold := hm.of_update
    · cases orphan with
      | true => cases hnew
      | false =>
        cases hnew
        cases pc
        case acquire_set_nx =>
          obtain ⟨hfree, _⟩ | ⟨_, hset⟩ := execute_ok hconf
          · exact .inr ⟨t, choice, _, rfl, htask, rfl, rfl, hfree⟩
          · cases hset
        case acquire_get => exact .inl (.inl (execute_bulk hconf))
        case acquire_renew => exact .inl (.inr (.inr ⟨t, _, htask, rfl, trivial⟩))
        all_goals cases hconf
    · exact .inl (.inr (.inr hold))

/-- A call that goes on sets `_is_leader` for a claimant only. -/
theorem claimants_resume {s s' : State ν} {t : ℕ} (h : protocol.step s (.resume t) = some s') {m : ν}
    (hm : m ∈ Claimants s') : m ∈ Claimants s := by
  obtain ⟨n, pc, reply, orphan, htask, rfl⟩ := step_resume h
  refine hm.imp id fun hm => ?_
  rcases hm with hbelief | hm
  · by_cases hnode : m = n
    · subst hnode
      simp only [Function.update_self] at hbelief
      obtain hold | ⟨rfl, hok⟩ | rfl := resume_is_leader hbelief
      · exact .inl hold
      · exact .inr ⟨t, _, htask, rfl, hok⟩
      · exact .inr ⟨t, _, htask, rfl, trivial⟩
    · simp only [Function.update_of_ne hnode] at hbelief
      exact .inl hbelief
  · obtain ⟨task, hnew, rfl, hconf⟩ | hold := hm.of_update
    · obtain ⟨next, hnext, rfl⟩ := Option.map_eq_some_iff.mp hnew
      obtain ⟨_, rfl⟩ | ⟨hown, ⟨rfl, rfl⟩ | ⟨rfl, rfl⟩⟩ := resume_next hnext
      · cases hconf
      · exact .inr ⟨t, _, htask, rfl, hown⟩
      · cases hconf
    · exact .inr hold

/-- Only a SET NX that takes the free lock adds a claimant, its own node. A belief
is set by calls whose node was a claimant all along. -/
theorem claimants_step {s s' : State ν} {a : Action ν} (h : protocol.step s a = some s')
    {m : ν} (hm : m ∈ Claimants s') : m ∈ Claimants s ∨ Takes s a m := by
  cases a with
  | call t n c =>
    obtain rfl := step_call h
    refine .inl (hm.imp id (Or.imp id fun hm => ?_))
    obtain ⟨task, hnew, _, hconf⟩ | hold := hm.of_update
    · obtain ⟨pc, hpc, rfl⟩ := Option.map_eq_some_iff.mp hnew
      obtain rfl | rfl := start_pc hpc <;> cases hconf
    · exact hold
  | exec t choice => exact claimants_exec h hm
  | resume t => exact .inl (claimants_resume h hm)
  | fail t =>
    obtain ⟨_, n, pc, reply, htask, rfl⟩ := step_fail h
    refine .inl (hm.imp id (Or.imp id fun hm => ?_))
    obtain ⟨task, hnew, rfl, hconf⟩ | hold := hm.of_update
    · cases reply with
      | some reply => cases hnew
      | none =>
        cases hnew
        exact ⟨t, _, htask, rfl, hconf⟩
    · exact hold
  | drop t =>
    obtain ⟨_, rfl⟩ := step_drop h
    refine .inl (hm.imp id (Or.imp id fun hm => ?_))
    obtain ⟨task, hnew, _⟩ | hold := hm.of_update
    · cases hnew
    · exact hold
  | event e =>
    obtain rfl := step_event h
    exact .inl (.inr (hm.resolve_left (by simp)))

theorem claimants_of_initial {s : State ν} (h : system.initial s) : Claimants s = ∅ := by
  obtain ⟨hserver, hnode, htasks⟩ := h
  refine Set.eq_empty_iff_forall_notMem.mpr ?_
  rintro n (hlock | hbelief | ⟨t, task, htask, _⟩)
  · rw [hserver] at hlock
    cases hlock
  · rw [hnode n] at hbelief
    cases hbelief
  · rw [htasks] at htask
    cases htask

/-- Every claimant made a call. -/
theorem claimants_of_calls {N : ν → Prop} {s : State ν}
    (h : system.ReachableWhere (fun _ a => ∀ t n c, a = .call t n c → N n) s) :
    ∀ m ∈ Claimants s, N m := by
  refine TransitionSystem.ReachableWhere.invariant_of (P := fun s => ∀ m ∈ Claimants s, N m)
    (fun s hs => tasks_node hs) ?_ ?_ h
  · intro s hs m hm
    rw [claimants_of_initial hs] at hm
    cases hm
  · intro s a s' hcalls hclaim _ hstep m hm
    obtain hold | ⟨t, _, task, _, htask, _, rfl, _⟩ := claimants_step hstep hm
    · exact hclaim m hold
    · exact hcalls t task htask

theorem claimants_subsingleton {s : State ν} (h : system.ReachableWhere TakesUnclaimed s) :
    (Claimants s).Subsingleton := by
  refine subsingleton_of_takes (fun _ => claimants_of_initial)
    (fun _ _ _ hstep _ => claimants_step hstep) ?_ h
  rintro s a n hok htakes m (hlock | hclaim)
  · obtain ⟨_, _, _, _, _, _, _, hfree⟩ := htakes
    rw [hfree] at hlock
    cases hlock
  · exact hok n htakes m hclaim

end gateway.leader_election
