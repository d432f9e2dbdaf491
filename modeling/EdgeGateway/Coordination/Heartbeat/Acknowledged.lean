import EdgeGateway.Coordination.Heartbeat

open gateway.cluster_state gateway.coordination_servicer

namespace gateway.heartbeat

/-- The node is among the ALIVE peers, or LEAVING. -/
def Counted (id : String) (cluster : ClusterState) : Prop :=
  (∃ node ∈ cluster.get_alive_peers, node.node_id = id) ∨ ∃ node, cluster.get_node id = some node ∧ node.status = .LEAVING

/-- The node has been declared DEAD. -/
def Buried (id : String) (cluster : ClusterState) : Prop := ∃ node, cluster.get_node id = some node ∧ node.status = .DEAD

variable {service : HeartbeatService} {cluster : ClusterState} {id : String}

theorem counted_iff {node : ClusterNode} (hfiled : cluster.Filed) (hnode : cluster.get_node id = some node) :
    Counted id cluster ↔ node.status = .ALIVE ∨ node.status = .LEAVING := by
  constructor
  · rintro (⟨peer, hmem, rfl⟩ | ⟨node', hnode', hleaving⟩)
    · obtain ⟨hpeer, halive⟩ := ClusterState.get_node_of_mem_get_alive_peers hfiled hmem
      cases hnode.symm.trans hpeer
      exact .inl halive
    · cases hnode.symm.trans hnode'
      exact .inr hleaving
  · rintro (halive | hleaving)
    · refine .inl ⟨node, ?_, hfiled id node hnode⟩
      apply List.mem_filter.mpr
      simp [ClusterState.mem_get_all_nodes_of_get_node hnode, halive]
    · exact .inr ⟨node, hnode, hleaving⟩

/-- A heartbeat brings its sender back from every status but DEAD and LEAVING. -/
theorem counted_heartbeat_iff (hfiled : cluster.Filed) (now : ℤ) (request : HeartbeatRequest) :
    Counted request.node_id (Heartbeat now request cluster) ↔ ¬ Buried request.node_id cluster := by
  have hfiled' := filed_heartbeat hfiled now request
  cases hnode : cluster.get_node request.node_id with
  | none =>
    have hnew : (Heartbeat now request cluster).get_node request.node_id = some {
        node_id := request.node_id
        node_address := request.node_address
        status := .ALIVE
        last_heartbeat := now } := by
      rw [heartbeat_of_unknown hnode, ClusterState.get_node_add_node, if_pos rfl]
    rw [counted_iff hfiled' hnew]
    simp [Buried, hnode]
  | some old =>
    have hrefreshed : (Heartbeat now request cluster).get_node request.node_id = some { old with
        last_heartbeat := now
        status := if old.status = .JOINING ∨ old.status = .SUSPECT then .ALIVE else old.status } := by
      rw [heartbeat_of_known hnode, ClusterState.update_node_heartbeat, ClusterState.get_node_change, if_pos rfl, hnode]
      rfl
    rw [counted_iff hfiled' hrefreshed]
    have hburied : Buried request.node_id cluster ↔ old.status = .DEAD := by simp [Buried, hnode]
    rw [hburied]
    cases hstatus : old.status <;> simp

/-- A heartbeat that is acknowledged makes its sender count exactly if the sender was not DEAD. -/
theorem acknowledged_counted_iff {ε : Type} {s : State} (hreach : (system service).Reachable s) (now : ℤ)
    (request : HeartbeatRequest) (get_leader : Except ε (Option String)) :
    (∀ response, (serve_heartbeat now request get_leader s.cluster).1 = .ok response → response.ack = true →
        Counted request.node_id (serve_heartbeat now request get_leader s.cluster).2) ↔
      (∃ e, get_leader = .error e) ∨ ¬ Buried request.node_id s.cluster := by
  have hcounted : Counted request.node_id (serve_heartbeat now request get_leader s.cluster).2 ↔
      ¬ Buried request.node_id s.cluster := counted_heartbeat_iff (filed_of_reachable hreach) now request
  rw [hcounted]
  cases get_leader with
  | error e => exact ⟨fun _ => .inl ⟨e, rfl⟩, fun _ response h => nomatch h⟩
  | ok leader =>
    constructor
    · intro h
      exact .inr (h _ rfl rfl)
    · rintro (⟨e, ⟨⟩⟩ | halive) response _ _
      exact halive

/-- A node joins, is silent for 30 seconds, the timeout being 10, and is heard of again. -/
theorem acknowledged_not_counted :
    ∃ s, (system sample_service).Reachable s ∧
      ¬ ∀ response,
        (serve_heartbeat 31000000 { node_id := "edge-2", node_address := "10.0.0.2:50051" }
          (.ok (some "edge-1") : Except String (Option String)) s.cluster).1 = .ok response → response.ack = true →
        Counted "edge-2" (serve_heartbeat 31000000 { node_id := "edge-2", node_address := "10.0.0.2:50051" }
          (.ok (some "edge-1") : Except String (Option String)) s.cluster).2 := by
  obtain ⟨s, hreach, htest⟩ := TransitionSystem.exists_of_replay (fun _ _ => True) (fun _ _ => true)
    (fun _ _ _ => trivial) (s := started) (show (system sample_service).initial started from ⟨_, rfl⟩)
    [.JoinCluster 0 { node_id := "edge-2", node_address := "10.0.0.2:50051", capabilities := [] },
      .check_timeouts 30000000]
    (fun s => (s.cluster.get_node "edge-2").any fun node => node.status = .DEAD) (by decide +kernel)
  obtain ⟨node, hnode, hdead⟩ := (Option.any_eq_true _ _).mp htest
  refine ⟨s, hreach, fun hcounted => ?_⟩
  have halive := (counted_heartbeat_iff (filed_of_reachable hreach) 31000000
    { node_id := "edge-2", node_address := "10.0.0.2:50051" }).mp (hcounted _ rfl rfl)
  exact halive ⟨node, hnode, of_decide_eq_true hdead⟩

/-- A SUSPECT node is heard of again. -/
theorem acknowledged_counted_suspect :
    ∃ s, (system sample_service).Reachable s ∧
      ((s.cluster.get_node "edge-2").any fun node => node.status = .SUSPECT) = true ∧
        Counted "edge-2" (serve_heartbeat 16000000 { node_id := "edge-2", node_address := "10.0.0.2:50051" }
          (.ok (some "edge-1") : Except String (Option String)) s.cluster).2 := by
  obtain ⟨s, hreach, htest⟩ := TransitionSystem.exists_of_replay (fun _ _ => True) (fun _ _ => true)
    (fun _ _ _ => trivial) (s := started) (show (system sample_service).initial started from ⟨_, rfl⟩)
    [.JoinCluster 0 { node_id := "edge-2", node_address := "10.0.0.2:50051", capabilities := [] },
      .check_timeouts 15000000]
    (fun s => (s.cluster.get_node "edge-2").any fun node => node.status = .SUSPECT) (by decide +kernel)
  obtain ⟨node, hnode, hsuspect⟩ := (Option.any_eq_true _ _).mp htest
  refine ⟨s, hreach, htest, ?_⟩
  refine (acknowledged_counted_iff hreach 16000000 { node_id := "edge-2", node_address := "10.0.0.2:50051" }
    (.ok (some "edge-1") : Except String (Option String))).mpr (.inr ?_) _ rfl rfl
  rintro ⟨node', hnode', hdead⟩
  have hsame : some node = some node' := hnode.symm.trans hnode'
  cases hsame
  rw [of_decide_eq_true hsuspect] at hdead
  cases hdead

end gateway.heartbeat
