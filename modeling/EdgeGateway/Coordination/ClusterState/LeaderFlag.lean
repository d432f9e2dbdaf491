import EdgeGateway.Coordination.ClusterState
import EdgeGateway.Library.Transition

namespace gateway.cluster_state

/-- Any sequence of operations, `add_node` being given nodes without the flag. -/
def operations (local_node_id : String) : TransitionSystem ClusterState Operation where
  initial state := state = { local_node_id }
  step state
    | .add_node node => if node.is_leader then none else some (state.add_node node)
    | operation => some (state.apply operation)

theorem step_operations {local_node_id : String} {state state' : ClusterState} {operation : Operation}
    (h : (operations local_node_id).step state operation = some state') :
    state' = state.apply operation ∧ ∀ node, operation = .add_node node → node.is_leader = false := by
  cases operation with
  | add_node node =>
    simp only [operations, Option.ite_none_left_eq_some, Option.some.injEq] at h
    obtain ⟨hflag, rfl⟩ := h
    refine ⟨rfl, ?_⟩
    rintro node' ⟨⟩
    exact Bool.eq_false_iff.mpr hflag
  | _ =>
    cases h
    exact ⟨rfl, fun node h => nomatch h⟩

namespace ClusterState

/-- At most one node has the flag, and it is not DEAD. -/
structure OneLeader (state : ClusterState) : Prop where
  unique : ∀ id id' node node', state.get_node id = some node → state.get_node id' = some node' →
    node.is_leader = true → node'.is_leader = true → id = id'
  not_dead : ∀ id node, state.get_node id = some node → node.is_leader = true → node.status ≠ .DEAD

/-- `OneLeader`, and what `get_leader` answers then: the same in every order of the nodes, and
no DEAD node. -/
structure LeaderSound (state : ClusterState) : Prop extends OneLeader state where
  order : ∀ nodes : Dict String ClusterNode, nodes.items.Perm state.nodes.items →
    get_leader { state with nodes } = state.get_leader
  get_leader_not_dead : ∀ node, state.get_leader = some node → node.status ≠ .DEAD

variable {state : ClusterState}

theorem OneLeader.get_leader_eq_some_iff (h : state.OneLeader) {node : ClusterNode} :
    state.get_leader = some node ↔ node ∈ state.get_all_nodes ∧ node.is_leader = true := by
  constructor
  · intro hleader
    exact ⟨List.mem_of_find?_eq_some hleader, List.find?_some (p := ClusterNode.is_leader) hleader⟩
  · rintro ⟨hmem, hflag⟩
    cases hleader : state.get_leader with
    | none => exact absurd hflag (List.find?_eq_none.mp hleader node hmem)
    | some found =>
      have hfound := List.find?_some (p := ClusterNode.is_leader) hleader
      obtain ⟨⟨id, node⟩, hitem, rfl⟩ := List.mem_map.mp hmem
      obtain ⟨⟨id', found⟩, hitem', rfl⟩ := List.mem_map.mp (List.mem_of_find?_eq_some hleader)
      have hnode : state.get_node id = some node := Dict.get?_eq_some_iff.mpr hitem
      have hfound' : state.get_node id' = some found := Dict.get?_eq_some_iff.mpr hitem'
      cases h.unique id id' node found hnode hfound' hflag hfound
      cases hnode.symm.trans hfound'
      rfl

theorem OneLeader.permute (h : state.OneLeader) {nodes : Dict String ClusterNode}
    (hperm : nodes.items.Perm state.nodes.items) : OneLeader { state with nodes } := by
  have hsame : ∀ id node, get_node { state with nodes } id = some node → state.get_node id = some node := by
    intro id node hnode
    apply Dict.get?_eq_some_iff.mpr
    exact hperm.mem_iff.mp (Dict.get?_eq_some_iff.mp hnode)
  constructor
  · intro id id' node node' hnode hnode'
    exact h.unique id id' node node' (hsame id node hnode) (hsame id' node' hnode')
  · intro id node hnode
    exact h.not_dead id node (hsame id node hnode)

theorem OneLeader.sound (h : state.OneLeader) : state.LeaderSound where
  toOneLeader := h
  order := by
    intro nodes hperm
    apply Option.ext
    intro node
    rw [(h.permute hperm).get_leader_eq_some_iff, h.get_leader_eq_some_iff]
    exact and_congr_left' (hperm.map Prod.snd).mem_iff
  get_leader_not_dead := by
    intro node hleader
    obtain ⟨hmem, hflag⟩ := h.get_leader_eq_some_iff.mp hleader
    obtain ⟨⟨id, node⟩, hitem, rfl⟩ := List.mem_map.mp hmem
    exact h.not_dead id node (Dict.get?_eq_some_iff.mpr hitem) hflag

theorem OneLeader.add_node (h : state.OneLeader) {node : ClusterNode} (hnode : node.is_leader = false) :
    (state.add_node node).OneLeader := by
  have hold : ∀ id found, (state.add_node node).get_node id = some found → found.is_leader = true →
      state.get_node id = some found := by
    intro id found hfound hflag
    rw [get_node_add_node] at hfound
    split at hfound
    · cases hfound
      rw [hnode] at hflag
      cases hflag
    · exact hfound
  constructor
  · intro id id' found found' hfound hfound' hflag hflag'
    exact h.unique id id' found found' (hold id found hfound hflag) (hold id' found' hfound' hflag') hflag hflag'
  · intro id found hfound hflag
    exact h.not_dead id found (hold id found hfound hflag) hflag

theorem OneLeader.remove_node (h : state.OneLeader) (node_id : String) : (state.remove_node node_id).OneLeader := by
  have hold : ∀ id node, (state.remove_node node_id).get_node id = some node → state.get_node id = some node := by
    intro id node hnode
    rw [get_node_remove_node] at hnode
    split at hnode
    · cases hnode
    · exact hnode
  constructor
  · intro id id' node node' hnode hnode'
    exact h.unique id id' node node' (hold id node hnode) (hold id' node' hnode')
  · intro id node hnode
    exact h.not_dead id node (hold id node hnode)

/-- A method that gives nobody the flag and does not bury who keeps it. -/
theorem OneLeader.change (h : state.OneLeader) {node_id : String} {f : ClusterNode → Option ClusterNode} {bump : ℕ}
    (hf : ∀ node node', f node = some node' → node'.is_leader = true →
      node.is_leader = true ∧ (node.status ≠ .DEAD → node'.status ≠ .DEAD)) :
    (state.change node_id f bump).OneLeader := by
  have hold : ∀ id found, (state.change node_id f bump).get_node id = some found → found.is_leader = true →
      ∃ node, state.get_node id = some node ∧ node.is_leader = true ∧ (node.status ≠ .DEAD → found.status ≠ .DEAD) := by
    intro id found hfound hflag
    rw [get_node_change] at hfound
    split at hfound
    · rename_i heq
      subst heq
      obtain ⟨node, hnode, rfl⟩ := Option.map_eq_some_iff.mp hfound
      refine ⟨node, hnode, ?_⟩
      cases hchanged : f node with
      | none =>
        rw [hchanged, Option.getD_none] at hflag
        exact ⟨hflag, fun hdead => hdead⟩
      | some node' =>
        rw [hchanged, Option.getD_some] at hflag
        exact hf node node' hchanged hflag
    · exact ⟨found, hfound, hflag, fun hdead => hdead⟩
  constructor
  · intro id id' found found' hfound hfound' hflag hflag'
    obtain ⟨node, hnode, hleader, _⟩ := hold id found hfound hflag
    obtain ⟨node', hnode', hleader', _⟩ := hold id' found' hfound' hflag'
    exact h.unique id id' node node' hnode hnode' hleader hleader'
  · intro id found hfound hflag
    obtain ⟨node, hnode, hleader, hkept⟩ := hold id found hfound hflag
    exact hkept (h.not_dead id node hnode hleader)

/-- The flag goes where it is told to, so that it must not be told to a DEAD node. -/
theorem oneLeader_set_leader_iff (hfiled : state.Filed) {node_id : String} :
    (state.set_leader node_id).OneLeader ↔ ∀ node, state.get_node node_id = some node → node.status ≠ .DEAD := by
  have hflagged : ∀ id found, (state.set_leader node_id).get_node id = some found → found.is_leader = true →
      id = node_id ∧ ∃ node, state.get_node id = some node ∧ found.status = node.status := by
    intro id found hfound hflag
    rw [get_node_set_leader] at hfound
    obtain ⟨node, hnode, rfl⟩ := Option.map_eq_some_iff.mp hfound
    exact ⟨(hfiled id node hnode).symm.trans (of_decide_eq_true hflag), node, hnode, rfl⟩
  constructor
  · intro h node hnode
    refine h.not_dead node_id { node with is_leader := node.node_id = node_id } ?_ ?_
    · rw [get_node_set_leader, hnode]
      rfl
    · exact decide_eq_true (hfiled node_id node hnode)
  · intro halive
    constructor
    · intro id id' found found' hfound hfound' hflag hflag'
      exact (hflagged id found hfound hflag).1.trans (hflagged id' found' hfound' hflag').1.symm
    · intro id found hfound hflag
      obtain ⟨rfl, node, hnode, hstatus⟩ := hflagged id found hfound hflag
      rw [hstatus]
      exact halive node hnode

end ClusterState

/-- The operation does not give the flag to a DEAD node. -/
def SparesDead (state : ClusterState) (operation : Operation) : Prop :=
  ∀ node_id, operation = .set_leader node_id → ∀ node, state.get_node node_id = some node → node.status ≠ .DEAD

variable {local_node_id : String} {state state' : ClusterState}

theorem filed_of_reachable (h : (operations local_node_id).Reachable state) : state.Filed := by
  apply h.invariant (P := ClusterState.Filed)
  · rintro state rfl
    exact ClusterState.filed_new local_node_id
  · intro state operation state' ih _ hstep
    rw [(step_operations hstep).1]
    exact ih.apply operation

/-- What one operation does to the flag. -/
theorem oneLeader_step_iff {operation : Operation} (hfiled : state.Filed) (h : state.OneLeader)
    (hstep : (operations local_node_id).step state operation = some state') :
    SparesDead state operation ↔ state'.OneLeader := by
  obtain ⟨rfl, hflag⟩ := step_operations hstep
  have hspared : (∀ node_id, operation ≠ .set_leader node_id) → (state.apply operation).OneLeader →
      (SparesDead state operation ↔ (state.apply operation).OneLeader) :=
    fun hother hsound => ⟨fun _ => hsound, fun _ node_id heq => absurd heq (hother node_id)⟩
  cases operation with
  | add_node node => exact hspared nofun (h.add_node (hflag node rfl))
  | remove_node node_id => exact hspared nofun (h.remove_node node_id)
  | set_leader node_id =>
    refine Iff.trans ?_ (ClusterState.oneLeader_set_leader_iff hfiled).symm
    exact ⟨fun hspares => hspares node_id rfl, fun halive _ heq => by cases heq; exact halive⟩
  | set_config key value => exact hspared nofun ⟨h.unique, h.not_dead⟩
  | update_node_heartbeat now node_id =>
    apply hspared nofun
    apply h.change
    rintro node node' ⟨⟩ hleader
    refine ⟨hleader, fun hdead => ?_⟩
    simp only
    split
    · exact nofun
    · exact hdead
  | mark_suspect node_id =>
    apply hspared nofun
    apply h.change
    intro node node' hchanged hleader
    obtain ⟨_, ⟨⟩⟩ := Option.ite_none_right_eq_some.mp hchanged
    exact ⟨hleader, fun _ => nofun⟩
  | mark_dead node_id =>
    apply hspared nofun
    apply h.change
    rintro node node' ⟨⟩ hleader
    cases hleader
  | mark_alive now node_id =>
    apply hspared nofun
    apply h.change
    rintro node node' ⟨⟩ hleader
    exact ⟨hleader, fun _ => nofun⟩
  | mark_leaving node_id =>
    apply hspared nofun
    apply h.change
    rintro node node' ⟨⟩ hleader
    exact ⟨hleader, fun _ => nofun⟩

/-- In a run the leader stays unique and not DEAD exactly if no `set_leader` names a DEAD node. -/
theorem leader_sound_iff {trace : List (TransitionSystem.Transition ClusterState Operation)}
    (hrun : (operations local_node_id).Run trace state) :
    (∀ t ∈ trace, SparesDead t.source t.action) ↔ ∀ t ∈ trace, t.target.LeaderSound := by
  refine hrun.all_ok_iff_all_good ?_ ?_
  · rintro state rfl
    have hnone : ClusterState.OneLeader { local_node_id } := by constructor <;> simp
    exact hnone.sound
  · intro state operation state' hreach hsound hstep
    rw [oneLeader_step_iff (filed_of_reachable hreach) hsound.toOneLeader hstep]
    exact ⟨ClusterState.OneLeader.sound, ClusterState.LeaderSound.toOneLeader⟩

def sample_node : ClusterNode :=
  { node_id := "edge-2", node_address := "10.0.0.2:50051", status := .ALIVE, last_heartbeat := 0 }

/-- A node is made the leader after it was declared DEAD. -/
theorem leader_not_sound : ∃ state, (operations "edge-1").Reachable state ∧ ¬ state.LeaderSound := by
  obtain ⟨state, hreach, htest⟩ := TransitionSystem.exists_of_replay (fun _ _ => True) (fun _ _ => true)
    (fun _ _ _ => trivial) (show (operations "edge-1").initial { local_node_id := "edge-1" } from rfl)
    [.add_node sample_node, .mark_dead "edge-2", .set_leader "edge-2"]
    (fun state => state.get_leader.any fun node => node.status = .DEAD) (by decide)
  obtain ⟨node, hleader, hdead⟩ := (Option.any_eq_true _ _).mp htest
  exact ⟨state, hreach, fun hsound => hsound.get_leader_not_dead node hleader (of_decide_eq_true hdead)⟩

/-- `SparesDead`, decided. -/
def spares_dead (state : ClusterState) : Operation → Bool
  | .set_leader node_id => (state.get_node node_id).all fun node => node.status ≠ .DEAD
  | _ => true

theorem sparesDead_of_decided {operation : Operation} (h : spares_dead state operation = true) :
    SparesDead state operation := by
  rintro node_id rfl node hnode
  simpa [spares_dead, hnode] using h

/-- A node is made the leader and declared DEAD, and another one follows it. -/
theorem leader_sound_after_death :
    ∃ trace state, (operations "edge-1").Run trace state ∧ (∀ t ∈ trace, t.target.LeaderSound) ∧
      (state.get_leader.any fun node => node.node_id = "edge-3") = true := by
  obtain ⟨trace, state, hrun, hall, htest⟩ := TransitionSystem.exists_run_of_replay spares_dead
    (show (operations "edge-1").initial { local_node_id := "edge-1" } from rfl)
    [.add_node sample_node, .add_node { sample_node with node_id := "edge-3" }, .set_leader "edge-2",
      .mark_dead "edge-2", .set_leader "edge-3"]
    (fun state => state.get_leader.any fun node => node.node_id = "edge-3") (by decide)
  exact ⟨trace, state, hrun, (leader_sound_iff hrun).mp fun t ht => sparesDead_of_decided (hall t ht), htest⟩

end gateway.cluster_state
