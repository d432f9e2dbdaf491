import Mathlib.Data.Int.Notation
import EdgeGateway.Library.Dict

namespace gateway.cluster_state

/-- Lifecycle states for a cluster node. -/
inductive NodeStatus where
  | JOINING
  | ALIVE
  | SUSPECT
  | DEAD
  | LEAVING
  deriving DecidableEq

/-- A node of the edge cluster. Times are in microseconds, as datetimes have them. -/
structure ClusterNode where
  node_id : String
  node_address : String
  status : NodeStatus := .JOINING
  is_leader : Bool := false
  last_heartbeat : ℤ
  capabilities : List String := []
  metadata : Dict String String := .empty

structure ClusterState where
  local_node_id : String
  nodes : Dict String ClusterNode := .empty
  cluster_version : ℕ := 0
  config : Dict String String := .empty

namespace ClusterState

variable (state : ClusterState)

/-- Add or replace a node in the cluster. -/
def add_node (node : ClusterNode) : ClusterState :=
  { state with nodes := state.nodes.set node.node_id node, cluster_version := state.cluster_version + 1 }

def get_node (node_id : String) : Option ClusterNode := state.nodes.get? node_id

/-- Change a known node in place, unless `f` leaves it alone, and add `bump` to the version. -/
def change (node_id : String) (f : ClusterNode → Option ClusterNode) (bump : ℕ) : ClusterState :=
  match (state.get_node node_id).bind f with
  | some node =>
    { state with nodes := state.nodes.set node_id node, cluster_version := state.cluster_version + bump }
  | none => state

/-- Refresh a node's heartbeat timestamp and set it ALIVE. -/
def update_node_heartbeat (now : ℤ) (node_id : String) : ClusterState :=
  state.change node_id (fun node =>
    some { node with
      last_heartbeat := now
      status := if node.status = .JOINING ∨ node.status = .SUSPECT then .ALIVE else node.status }) 0

/-- Transition a node to SUSPECT. -/
def mark_suspect (node_id : String) : ClusterState :=
  state.change node_id (fun node =>
    if node.status ≠ .DEAD ∧ node.status ≠ .LEAVING then some { node with status := .SUSPECT } else none) 1

/-- Transition a node to DEAD. -/
def mark_dead (node_id : String) : ClusterState :=
  state.change node_id (fun node => some { node with status := .DEAD, is_leader := false }) 1

/-- Transition a node back to ALIVE. -/
def mark_alive (now : ℤ) (node_id : String) : ClusterState :=
  state.change node_id (fun node => some { node with status := .ALIVE, last_heartbeat := now }) 1

/-- Transition a node to LEAVING. -/
def mark_leaving (node_id : String) : ClusterState :=
  state.change node_id (fun node => some { node with status := .LEAVING }) 1

def get_all_nodes : List ClusterNode := state.nodes.items.map Prod.snd

/-- Remove a node entirely from the cluster state. -/
def remove_node (node_id : String) : ClusterState :=
  if node_id ∈ state.nodes.keys then
    { state with nodes := state.nodes.erase node_id, cluster_version := state.cluster_version + 1 }
  else state

/-- All ALIVE nodes, optionally excluding one node_id. -/
def get_alive_peers (exclude : Option String := none) : List ClusterNode :=
  state.get_all_nodes.filter fun n => n.status = .ALIVE ∧ some n.node_id ≠ exclude

/-- The node currently marked as leader. -/
def get_leader : Option ClusterNode := state.get_all_nodes.find? ClusterNode.is_leader

/-- Mark a node as the leader and clear the flag on all others. -/
def set_leader (node_id : String) : ClusterState :=
  { state with
    nodes := state.nodes.mapValues fun node => { node with is_leader := node.node_id = node_id }
    cluster_version := state.cluster_version + 1 }

/-- Store a config key/value pair in the cluster-wide map. -/
def set_config (key value : String) : ClusterState := { state with config := state.config.set key value }

variable {state}

theorem get_node_add_node {node : ClusterNode} {id : String} :
    (state.add_node node).get_node id = if id = node.node_id then some node else state.get_node id :=
  state.nodes.get?_set _ _ _

theorem get_node_change {node_id id : String} {f : ClusterNode → Option ClusterNode} {bump : ℕ} :
    (state.change node_id f bump).get_node id =
      if id = node_id then (state.get_node node_id).map fun node => (f node).getD node else state.get_node id := by
  unfold change
  split
  · rename_i node hnode
    obtain ⟨old, hold, hf⟩ := Option.bind_eq_some_iff.mp hnode
    change (state.nodes.set node_id node).get? id = _
    rw [Dict.get?_set, hold, Option.map_some, hf, Option.getD_some]
    rfl
  · rename_i hnone
    split
    · rename_i heq
      subst heq
      cases hold : state.get_node id with
      | none => rfl
      | some old =>
        rw [hold, Option.bind_some] at hnone
        rw [Option.map_some, hnone, Option.getD_none]
    · rfl

theorem get_node_remove_node {node_id id : String} :
    (state.remove_node node_id).get_node id = if id = node_id then none else state.get_node id := by
  unfold remove_node
  split
  · exact state.nodes.get?_erase _ _
  · rename_i hunknown
    split
    · rename_i heq
      subst heq
      apply Option.eq_none_iff_forall_ne_some.mpr
      intro node hnode
      exact hunknown (Dict.mem_keys_iff.mpr ⟨node, hnode⟩)
    · rfl

theorem get_node_set_leader {node_id id : String} :
    (state.set_leader node_id).get_node id =
      (state.get_node id).map fun node => { node with is_leader := node.node_id = node_id } :=
  state.nodes.get?_mapValues _ _

/-- A method that does not write the time leaves it as it was. -/
theorem last_heartbeat_change {node_id id : String} {f : ClusterNode → Option ClusterNode} {bump : ℕ}
    (hf : ∀ node node', f node = some node' → node'.last_heartbeat = node.last_heartbeat) {node : ClusterNode}
    (h : (state.change node_id f bump).get_node id = some node) :
    ∃ old, state.get_node id = some old ∧ node.last_heartbeat = old.last_heartbeat := by
  rw [get_node_change] at h
  split at h
  · rename_i heq
    subst heq
    obtain ⟨old, hold, rfl⟩ := Option.map_eq_some_iff.mp h
    refine ⟨old, hold, ?_⟩
    cases hchanged : f old with
    | none => rfl
    | some changed => exact hf old changed hchanged
  · exact ⟨node, h, rfl⟩

/-- Every node is filed under its own id. -/
def Filed (state : ClusterState) : Prop := ∀ id node, state.get_node id = some node → node.node_id = id

@[simp] theorem get_node_new (local_node_id id : String) : get_node { local_node_id } id = none := rfl

theorem filed_new (local_node_id : String) : Filed { local_node_id } := by
  simp [Filed]

/-- What holds of every node, and of the new one. -/
theorem forall_get_node_add_node {P : String → ClusterNode → Prop} (h : ∀ id node, state.get_node id = some node → P id node)
    {node : ClusterNode} (hnode : P node.node_id node) (id : String) (found : ClusterNode)
    (hfound : (state.add_node node).get_node id = some found) : P id found := by
  rw [get_node_add_node] at hfound
  split at hfound
  · rename_i heq
    cases hfound
    rw [heq]
    exact hnode
  · exact h id found hfound

/-- What holds of every node, and of a node that is changed. -/
theorem forall_get_node_change {P : String → ClusterNode → Prop} (h : ∀ id node, state.get_node id = some node → P id node)
    {node_id : String} {f : ClusterNode → Option ClusterNode} {bump : ℕ}
    (hf : ∀ node node', f node = some node' → P node_id node → P node_id node') (id : String) (found : ClusterNode)
    (hfound : (state.change node_id f bump).get_node id = some found) : P id found := by
  rw [get_node_change] at hfound
  split at hfound
  · rename_i heq
    subst heq
    obtain ⟨node, hnode, rfl⟩ := Option.map_eq_some_iff.mp hfound
    cases hchanged : f node with
    | none => exact h id node hnode
    | some node' => exact hf node node' hchanged (h id node hnode)
  · exact h id found hfound

theorem Filed.add_node (h : Filed state) (node : ClusterNode) : Filed (state.add_node node) :=
  forall_get_node_add_node h rfl

theorem Filed.change (h : Filed state) {node_id : String} {f : ClusterNode → Option ClusterNode} {bump : ℕ}
    (hf : ∀ node node', f node = some node' → node'.node_id = node.node_id) : Filed (state.change node_id f bump) := by
  apply forall_get_node_change h
  intro node node' hchanged hfiled
  exact (hf node node' hchanged).trans hfiled

theorem mem_get_all_nodes {node : ClusterNode} (h : Filed state) (hmem : node ∈ state.get_all_nodes) :
    state.get_node node.node_id = some node := by
  obtain ⟨⟨id, node'⟩, hitem, rfl⟩ := List.mem_map.mp hmem
  have hfound : state.get_node id = some node' := Dict.get?_eq_some_iff.mpr hitem
  rw [h id node' hfound]
  exact hfound

theorem mem_get_all_nodes_of_get_node {id : String} {node : ClusterNode} (h : state.get_node id = some node) :
    node ∈ state.get_all_nodes :=
  List.mem_map.mpr ⟨(id, node), Dict.get?_eq_some_iff.mp h, rfl⟩

theorem get_node_of_mem_get_alive_peers {node : ClusterNode} {exclude : Option String} (h : Filed state)
    (hmem : node ∈ state.get_alive_peers exclude) : state.get_node node.node_id = some node ∧ node.status = .ALIVE := by
  obtain ⟨hmem, halive⟩ := List.mem_filter.mp hmem
  exact ⟨mem_get_all_nodes h hmem, (of_decide_eq_true halive).1⟩

theorem nodup_get_all_nodes (h : Filed state) : (state.get_all_nodes.map ClusterNode.node_id).Nodup := by
  have hids : state.get_all_nodes.map ClusterNode.node_id = state.nodes.items.map Prod.fst := by
    rw [get_all_nodes, List.map_map]
    refine List.map_congr_left ?_
    rintro ⟨id, node⟩ hitem
    exact h id node (Dict.get?_eq_some_iff.mpr hitem)
  rw [hids]
  exact state.nodes.nodup

theorem Filed.remove_node (h : Filed state) (node_id : String) : Filed (state.remove_node node_id) := by
  intro id node hnode
  rw [get_node_remove_node] at hnode
  split at hnode
  · cases hnode
  · exact h id node hnode

theorem Filed.set_leader (h : Filed state) (node_id : String) : Filed (state.set_leader node_id) := by
  intro id node hnode
  rw [get_node_set_leader] at hnode
  obtain ⟨old, hold, rfl⟩ := Option.map_eq_some_iff.mp hnode
  exact h id old hold

end ClusterState

/-- A call of a mutator, with the clock where it is read. -/
inductive Operation where
  | add_node (node : ClusterNode)
  | remove_node (node_id : String)
  | update_node_heartbeat (now : ℤ) (node_id : String)
  | mark_suspect (node_id : String)
  | mark_dead (node_id : String)
  | mark_alive (now : ℤ) (node_id : String)
  | mark_leaving (node_id : String)
  | set_leader (node_id : String)
  | set_config (key value : String)

def ClusterState.apply (state : ClusterState) : Operation → ClusterState
  | .add_node node => state.add_node node
  | .remove_node node_id => state.remove_node node_id
  | .update_node_heartbeat now node_id => state.update_node_heartbeat now node_id
  | .mark_suspect node_id => state.mark_suspect node_id
  | .mark_dead node_id => state.mark_dead node_id
  | .mark_alive now node_id => state.mark_alive now node_id
  | .mark_leaving node_id => state.mark_leaving node_id
  | .set_leader node_id => state.set_leader node_id
  | .set_config key value => state.set_config key value

theorem ClusterState.Filed.apply {state : ClusterState} (h : state.Filed) (operation : Operation) :
    (state.apply operation).Filed := by
  cases operation with
  | add_node node => exact h.add_node node
  | remove_node node_id => exact h.remove_node node_id
  | set_leader node_id => exact h.set_leader node_id
  | set_config key value => exact h
  | mark_suspect node_id =>
    apply h.change
    intro node node' hchanged
    obtain ⟨_, ⟨⟩⟩ := Option.ite_none_right_eq_some.mp hchanged
    rfl
  | _ =>
    apply h.change
    rintro node node' ⟨⟩
    rfl

end gateway.cluster_state
