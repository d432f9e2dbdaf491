import EdgeGateway.Coordination.CoordinationServicer
import EdgeGateway.Library.Transition

open gateway.cluster_state

namespace gateway.coordination_servicer

/-- What writes the cluster state of a node: a mutator called as it is, or an RPC. -/
inductive Call where
  | mutator (operation : Operation)
  | Heartbeat (now : ℤ) (request : HeartbeatRequest)
  | JoinCluster (now : ℤ) (request : JoinRequest)
  | LeaveCluster (node_id : String)

def Call.run (state : ClusterState) : Call → ClusterState
  | .mutator operation => state.apply operation
  | .Heartbeat now request => coordination_servicer.Heartbeat now request state
  | .JoinCluster now request => (coordination_servicer.JoinCluster now request state).1
  | .LeaveCluster node_id => (coordination_servicer.LeaveCluster node_id state).1

def calls (local_node_id : String) : TransitionSystem ClusterState Call where
  initial state := state = { local_node_id }
  step state call := some (call.run state)

/-- The two states have the same nodes with the same statuses and flags, and the same config map. -/
structure SameCluster (state state' : ClusterState) : Prop where
  nodes : ∀ id, (state'.get_node id).map (fun node => (node.status, node.is_leader)) =
    (state.get_node id).map fun node => (node.status, node.is_leader)
  config : ∀ key, state'.config.get? key = state.config.get? key

/-- The version does not decrease, and increases with every change. -/
def Versioned (state state' : ClusterState) : Prop :=
  state.cluster_version ≤ state'.cluster_version ∧
    (¬ SameCluster state state' → state.cluster_version < state'.cluster_version)

/-- A heartbeat of the node leaves its status as it is. -/
def Settled (state : ClusterState) (node_id : String) : Prop :=
  ∀ node, state.get_node node_id = some node → node.status ≠ .JOINING ∧ node.status ≠ .SUSPECT

/-- The call does not change the state behind the version's back. -/
def Call.Announced (state : ClusterState) : Call → Prop
  | .mutator (.update_node_heartbeat _ node_id) => Settled state node_id
  | .mutator (.set_config key value) => state.config.get? key = some value
  | .Heartbeat _ request => Settled state request.node_id
  | _ => True

variable {state state' : ClusterState}

theorem SameCluster.refl (state : ClusterState) : SameCluster state state := ⟨fun _ => rfl, fun _ => rfl⟩

theorem Versioned.of_lt (h : state.cluster_version < state'.cluster_version) : Versioned state state' :=
  ⟨Nat.le_of_lt h, fun _ => h⟩

theorem Versioned.refl (state : ClusterState) : Versioned state state :=
  ⟨Nat.le_refl _, fun hchanged => absurd (SameCluster.refl state) hchanged⟩

theorem versioned_iff_of_eq (h : state'.cluster_version = state.cluster_version) :
    Versioned state state' ↔ SameCluster state state' := by
  constructor
  · intro hversioned
    by_contra hchanged
    have hlt := hversioned.2 hchanged
    omega
  · intro hsame
    exact ⟨Nat.le_of_eq h.symm, fun hchanged => absurd hsame hchanged⟩

theorem versioned_add_node (state : ClusterState) (node : ClusterNode) : Versioned state (state.add_node node) :=
  .of_lt (Nat.lt_succ_self _)

/-- A mutator that adds to the version whenever it changes a node. -/
theorem versioned_change (state : ClusterState) (node_id : String) (f : ClusterNode → Option ClusterNode) :
    Versioned state (state.change node_id f 1) := by
  unfold ClusterState.change
  split
  · apply Versioned.of_lt
    exact Nat.lt_succ_self _
  · exact .refl state

theorem versioned_remove_node (state : ClusterState) (node_id : String) : Versioned state (state.remove_node node_id) := by
  unfold ClusterState.remove_node
  split
  · apply Versioned.of_lt
    exact Nat.lt_succ_self _
  · exact .refl state

/-- A heartbeat that ends JOINING or SUSPECT goes unnoticed. -/
theorem versioned_update_node_heartbeat_iff (state : ClusterState) (now : ℤ) (node_id : String) :
    Versioned state (state.update_node_heartbeat now node_id) ↔ Settled state node_id := by
  have hversion : (state.update_node_heartbeat now node_id).cluster_version = state.cluster_version := by
    unfold ClusterState.update_node_heartbeat ClusterState.change
    split <;> rfl
  rw [versioned_iff_of_eq hversion]
  constructor
  · intro hsame node hnode
    have hstatus := hsame.nodes node_id
    rw [ClusterState.update_node_heartbeat, ClusterState.get_node_change, if_pos rfl, hnode] at hstatus
    by_contra hunsettled
    cases hwas : node.status <;> simp_all
  · intro hsettled
    refine ⟨fun id => ?_, fun key => ?_⟩
    · rw [ClusterState.update_node_heartbeat, ClusterState.get_node_change]
      split
      · rename_i heq
        subst heq
        cases hnode : state.get_node id with
        | none => rfl
        | some node =>
          obtain ⟨hjoining, hsuspect⟩ := hsettled node hnode
          simp [hjoining, hsuspect]
      · rfl
    · unfold ClusterState.update_node_heartbeat ClusterState.change
      split <;> rfl

theorem versioned_set_config_iff (state : ClusterState) (key value : String) :
    Versioned state (state.set_config key value) ↔ state.config.get? key = some value := by
  have hversion : (state.set_config key value).cluster_version = state.cluster_version := rfl
  rw [versioned_iff_of_eq hversion]
  constructor
  · intro hsame
    have hvalue := hsame.config key
    rw [ClusterState.set_config, Dict.get?_set_self] at hvalue
    exact hvalue.symm
  · intro hvalue
    refine ⟨fun _ => rfl, fun other => ?_⟩
    rw [ClusterState.set_config, Dict.get?_set]
    split
    · rename_i heq
      rw [heq, hvalue]
    · rfl

theorem versioned_heartbeat_iff (state : ClusterState) (now : ℤ) (request : HeartbeatRequest) :
    Versioned state (Heartbeat now request state) ↔ Settled state request.node_id := by
  cases hnode : state.get_node request.node_id with
  | none =>
    rw [heartbeat_of_unknown hnode]
    refine ⟨fun _ node hknown => ?_, fun _ => versioned_add_node state _⟩
    rw [hnode] at hknown
    cases hknown
  | some old =>
    rw [heartbeat_of_known hnode]
    exact versioned_update_node_heartbeat_iff state now request.node_id

theorem versioned_run_iff (state : ClusterState) (call : Call) : Versioned state (call.run state) ↔ call.Announced state := by
  cases call with
  | Heartbeat now request => exact versioned_heartbeat_iff state now request
  | JoinCluster now request => exact iff_of_true (versioned_add_node state _) trivial
  | LeaveCluster node_id =>
    refine iff_of_true ?_ trivial
    simp only [Call.run, LeaveCluster]
    split
    · exact versioned_change state node_id _
    · exact .refl state
  | mutator operation =>
    cases operation with
    | update_node_heartbeat now node_id => exact versioned_update_node_heartbeat_iff state now node_id
    | set_config key value => exact versioned_set_config_iff state key value
    | add_node node => exact iff_of_true (versioned_add_node state node) trivial
    | remove_node node_id => exact iff_of_true (versioned_remove_node state node_id) trivial
    | set_leader node_id => exact iff_of_true (.of_lt (Nat.lt_succ_self _)) trivial
    | mark_suspect node_id => exact iff_of_true (versioned_change state node_id _) trivial
    | mark_dead node_id => exact iff_of_true (versioned_change state node_id _) trivial
    | mark_alive now node_id => exact iff_of_true (versioned_change state node_id _) trivial
    | mark_leaving node_id => exact iff_of_true (versioned_change state node_id _) trivial

/-- In every run the version tracks exactly the calls that are no heartbeat of a JOINING or
SUSPECT node and no `set_config` to a new value. -/
theorem cluster_version_tracks_iff {local_node_id : String}
    {trace : List (TransitionSystem.Transition ClusterState Call)} (hrun : (calls local_node_id).Run trace state) :
    ∀ t ∈ trace, Versioned t.source t.target ↔ t.action.Announced t.source := by
  induction hrun with
  | initial _ => simp
  | @step trace state state' call _ hstep ih =>
    cases hstep
    exact List.forall_mem_cons.mpr ⟨versioned_run_iff state call, ih⟩

/-- A SUSPECT node is heard of again. -/
theorem cluster_version_untracked :
    ∃ state, (calls "edge-1").Reachable state ∧
      ¬ Versioned state ((Call.Heartbeat 1 { node_id := "edge-2", node_address := "10.0.0.2:50051" }).run state) := by
  obtain ⟨state, hreach, htest⟩ := TransitionSystem.exists_of_replay (fun _ _ => True) (fun _ _ => true)
    (fun _ _ _ => trivial) (show (calls "edge-1").initial { local_node_id := "edge-1" } from rfl)
    [.JoinCluster 0 { node_id := "edge-2", node_address := "10.0.0.2:50051", capabilities := [] },
      .mutator (.mark_suspect "edge-2")]
    (fun state => (state.get_node "edge-2").any fun node => node.status = .SUSPECT) (by decide)
  obtain ⟨node, hnode, hsuspect⟩ := (Option.any_eq_true _ _).mp htest
  refine ⟨state, hreach, fun hversioned => ?_⟩
  have hsettled := (versioned_heartbeat_iff state 1 { node_id := "edge-2", node_address := "10.0.0.2:50051" }).mp hversioned
  exact (hsettled node hnode).2 (of_decide_eq_true hsuspect)

/-- A node joins, keeps up its heartbeats and leaves. -/
theorem cluster_version_tracks_member :
    ∃ trace state, (calls "edge-1").Run trace state ∧ state.cluster_version = 2 ∧
      ∀ t ∈ trace, Versioned t.source t.target := by
  obtain ⟨trace, state, hrun, hall, htest⟩ := TransitionSystem.exists_run_of_replay
    (fun state call => match call with
      | .JoinCluster .. | .LeaveCluster .. => true
      | .Heartbeat _ request => (state.get_node request.node_id).any fun node => node.status = .ALIVE
      | .mutator _ => false)
    (show (calls "edge-1").initial { local_node_id := "edge-1" } from rfl)
    [.JoinCluster 0 { node_id := "edge-2", node_address := "10.0.0.2:50051", capabilities := [] },
      .Heartbeat 2 { node_id := "edge-2", node_address := "10.0.0.2:50051" }, .LeaveCluster "edge-2"]
    (fun state => state.cluster_version = 2) (by decide)
  refine ⟨trace, state, hrun, of_decide_eq_true htest, fun t ht => (cluster_version_tracks_iff hrun t ht).mpr ?_⟩
  have hallowed := hall t ht
  cases hcall : t.action with
  | JoinCluster now request => trivial
  | LeaveCluster node_id => trivial
  | mutator operation =>
    rw [hcall] at hallowed
    cases hallowed
  | Heartbeat now request =>
    rw [hcall] at hallowed
    intro node hnode
    simp only [hnode, Option.any_some, decide_eq_true_eq] at hallowed
    simp [hallowed]

end gateway.coordination_servicer
