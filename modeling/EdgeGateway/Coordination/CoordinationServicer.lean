import EdgeGateway.Coordination.ClusterState

open gateway.cluster_state

namespace gateway.coordination_servicer

structure HeartbeatRequest where
  node_id : String
  node_address : String

structure HeartbeatResponse where
  leader_id : String
  cluster_version : ℕ
  ack : Bool

/-- Update a node's last-seen timestamp, up to the call of `get_leader`. -/
def Heartbeat (now : ℤ) (request : HeartbeatRequest) (state : ClusterState) : ClusterState :=
  match state.get_node request.node_id with
  | none =>
    state.add_node {
      node_id := request.node_id
      node_address := request.node_address
      status := .ALIVE
      last_heartbeat := now }
  | some _ =>
    let state := state.update_node_heartbeat now request.node_id
    -- `existing` is the node in the cluster, so that its status is the one just set.
    match state.get_node request.node_id with
    | some existing =>
      if existing.status = .SUSPECT ∨ existing.status = .JOINING then state.mark_alive now request.node_id else state
    | none => state

/-- What `Heartbeat` answers once it knows the leader. -/
def heartbeat_response (leader : Option String) (state : ClusterState) : HeartbeatResponse where
  leader_id := leader.getD ""
  cluster_version := state.cluster_version
  ack := true

/-- The whole RPC, with what the call of `get_leader` comes to. -/
def serve_heartbeat {ε : Type} (now : ℤ) (request : HeartbeatRequest) (get_leader : Except ε (Option String))
    (state : ClusterState) : Except ε HeartbeatResponse × ClusterState :=
  let state := Heartbeat now request state
  (get_leader.map fun leader => heartbeat_response leader state, state)

structure JoinRequest where
  node_id : String
  node_address : String
  capabilities : List String

structure Member where
  node_id : String
  node_address : String
  status : NodeStatus
  is_leader : Bool

structure JoinResponse where
  members : List Member
  config : Dict String String
  cluster_version : ℕ

/-- Register a new node in the cluster. -/
def JoinCluster (now : ℤ) (request : JoinRequest) (state : ClusterState) : ClusterState × JoinResponse :=
  let state := state.add_node {
    node_id := request.node_id
    node_address := request.node_address
    status := .ALIVE
    last_heartbeat := now
    capabilities := request.capabilities }
  let members := state.get_all_nodes.map fun n =>
    { node_id := n.node_id, node_address := n.node_address, status := n.status, is_leader := n.is_leader }
  (state, { members, config := state.config, cluster_version := state.cluster_version })

structure LeaveResponse where
  ack : Bool
  error : Option String := none

/-- Mark a node as LEAVING so it is excluded from future gossip rounds. -/
def LeaveCluster (node_id : String) (state : ClusterState) : ClusterState × LeaveResponse :=
  match state.get_node node_id with
  | some _ => (state.mark_leaving node_id, { ack := true })
  | none => (state, { ack := false, error := some "unknown node" })

/-- The nodes with all their fields. -/
structure ClusterStateResponse where
  nodes : List ClusterNode
  leader_id : String
  cluster_version : ℕ
  config : Dict String String

/-- Return the full cluster state snapshot. -/
def GetClusterState (state : ClusterState) : ClusterStateResponse :=
  let leader_id := match state.get_leader with
    | some leader => leader.node_id
    | none => ""
  { nodes := state.get_all_nodes, leader_id, cluster_version := state.cluster_version, config := state.config }

variable {state : ClusterState}

theorem heartbeat_of_unknown {now : ℤ} {request : HeartbeatRequest} (h : state.get_node request.node_id = none) :
    Heartbeat now request state = state.add_node {
      node_id := request.node_id
      node_address := request.node_address
      status := .ALIVE
      last_heartbeat := now } := by
  rw [Heartbeat, h]

/-- The status that `update_node_heartbeat` leaves is never one for which `mark_alive` is called. -/
theorem heartbeat_of_known {now : ℤ} {request : HeartbeatRequest} {old : ClusterNode}
    (h : state.get_node request.node_id = some old) :
    Heartbeat now request state = state.update_node_heartbeat now request.node_id := by
  have hrefreshed : (state.update_node_heartbeat now request.node_id).get_node request.node_id =
      some { old with
        last_heartbeat := now
        status := if old.status = .JOINING ∨ old.status = .SUSPECT then .ALIVE else old.status } := by
    rw [ClusterState.update_node_heartbeat, ClusterState.get_node_change, if_pos rfl, h]
    rfl
  simp only [Heartbeat, h, hrefreshed]
  apply if_neg
  split <;> simp_all

theorem filed_heartbeat (h : state.Filed) (now : ℤ) (request : HeartbeatRequest) : (Heartbeat now request state).Filed := by
  cases hnode : state.get_node request.node_id with
  | none =>
    rw [heartbeat_of_unknown hnode]
    exact h.add_node _
  | some old =>
    rw [heartbeat_of_known hnode]
    refine h.change ?_
    rintro node node' ⟨⟩
    rfl

/-- Whoever sends a heartbeat is known from then on, with the time of that heartbeat. -/
theorem get_node_heartbeat {now : ℤ} {request : HeartbeatRequest} {id : String} {node : ClusterNode}
    (h : (Heartbeat now request state).get_node id = some node) :
    (id = request.node_id ∧ node.last_heartbeat = now) ∨ (id ≠ request.node_id ∧ state.get_node id = some node) := by
  cases hnode : state.get_node request.node_id with
  | none =>
    rw [heartbeat_of_unknown hnode, ClusterState.get_node_add_node] at h
    split at h
    · rename_i heq
      cases h
      exact .inl ⟨heq, rfl⟩
    · rename_i hne
      exact .inr ⟨hne, h⟩
  | some old =>
    rw [heartbeat_of_known hnode, ClusterState.update_node_heartbeat, ClusterState.get_node_change] at h
    split at h
    · rename_i heq
      obtain ⟨old, _, rfl⟩ := Option.map_eq_some_iff.mp h
      exact .inl ⟨heq, rfl⟩
    · rename_i hne
      exact .inr ⟨hne, h⟩

end gateway.coordination_servicer
