import EdgeGateway.Coordination.Heartbeat
import EdgeGateway.Coordination.LeaderElection

open gateway.cluster_state gateway.heartbeat

namespace gateway.coordination_servicer

/-- The election among all nodes, and what happens to the cluster state of one of them. -/
abbrev Coordination := leader_election.State String × heartbeat.State

def coordination (service : HeartbeatService) :
    TransitionSystem Coordination (leader_election.Action String ⊕ heartbeat.Action) :=
  leader_election.system.prod (heartbeat.system service)

/-- All that the RPCs of the node report about the leader names `leader`. -/
structure Reports (leader : String) (s : Coordination) : Prop where
  heartbeat : ∀ now request, (heartbeat_response (leader_election.get_leader s.1.server)
    (Heartbeat now request s.2.cluster)).leader_id = leader
  leader_id : (GetClusterState s.2.cluster).leader_id = leader
  nodes : ∀ node ∈ (GetClusterState s.2.cluster).nodes, node.is_leader = true ↔ node.node_id = leader
  members : ∀ now request, request.node_id ≠ leader →
    ∀ member ∈ (JoinCluster now request s.2.cluster).2.members, member.is_leader = true ↔ member.node_id = leader

/-- No node has the leader flag. -/
def Unflagged (cluster : ClusterState) : Prop := ∀ id node, cluster.get_node id = some node → node.is_leader = false

variable {service : HeartbeatService} {cluster : ClusterState} {s : Coordination}

theorem Unflagged.add_node (h : Unflagged cluster) {node : ClusterNode} (hnode : node.is_leader = false) :
    Unflagged (cluster.add_node node) := ClusterState.forall_get_node_add_node h hnode

theorem Unflagged.change (h : Unflagged cluster) {node_id : String} {f : ClusterNode → Option ClusterNode} {bump : ℕ}
    (hf : ∀ node node', f node = some node' → node.is_leader = false → node'.is_leader = false) :
    Unflagged (cluster.change node_id f bump) := ClusterState.forall_get_node_change h hf

theorem Unflagged.check_timeouts (h : Unflagged cluster) (hfiled : cluster.Filed) (now : ℤ) :
    Unflagged (check_timeouts service now cluster) := by
  intro id found hfound
  rw [get_node_check_timeouts hfiled] at hfound
  obtain ⟨node, hnode, rfl⟩ := Option.map_eq_some_iff.mp hfound
  have hunflagged := h id node hnode
  unfold checked
  split
  · exact hunflagged
  · split
    · rfl
    · split <;> exact hunflagged

/-- No operation of a running node sets the flag. -/
theorem Unflagged.perform (h : Unflagged cluster) (hfiled : cluster.Filed) (a : heartbeat.Action) :
    Unflagged (perform service cluster a) := by
  cases a with
  | JoinCluster now request => exact h.add_node rfl
  | Heartbeat now request =>
    change Unflagged (Heartbeat now request cluster)
    cases hnode : cluster.get_node request.node_id with
    | none =>
      rw [heartbeat_of_unknown hnode]
      exact h.add_node rfl
    | some old =>
      rw [heartbeat_of_known hnode]
      apply h.change
      rintro node node' ⟨⟩ hunflagged
      exact hunflagged
  | LeaveCluster node_id =>
    simp only [heartbeat.perform, LeaveCluster]
    split
    · apply h.change
      rintro node node' ⟨⟩ hunflagged
      exact hunflagged
    · exact h
  | handle_ping now from_node_id =>
    apply h.change
    rintro node node' ⟨⟩ hunflagged
    exact hunflagged
  | gossip_suspect node_id =>
    apply h.change
    intro node node' hchanged hunflagged
    obtain ⟨_, ⟨⟩⟩ := Option.ite_none_right_eq_some.mp hchanged
    exact hunflagged
  | check_timeouts now => exact h.check_timeouts hfiled now

theorem unflagged_of_reachable {s : heartbeat.State} (h : (heartbeat.system service).Reachable s) :
    Unflagged s.cluster := by
  have hboth : s.cluster.Filed ∧ Unflagged s.cluster := by
    apply h.invariant (P := fun s => s.cluster.Filed ∧ Unflagged s.cluster)
    · rintro s ⟨node_address, hcluster⟩
      rw [hcluster]
      have hunflagged : Unflagged { local_node_id := service.node_id } := by simp [Unflagged]
      exact ⟨(ClusterState.filed_new _).add_node _, hunflagged.add_node rfl⟩
    · rintro s a s' ⟨hfiled, hunflagged⟩ _ hstep
      obtain ⟨_, rfl⟩ := step_perform hstep
      exact ⟨filed_perform hfiled service a, hunflagged.perform hfiled a⟩
  exact hboth.2

/-- Without flags `GetClusterState` names nobody. -/
theorem leader_id_of_unflagged (h : Unflagged cluster) (hfiled : cluster.Filed) : (GetClusterState cluster).leader_id = "" := by
  have hnone : cluster.get_leader = none := by
    apply List.find?_eq_none.mpr
    intro node hmem
    rw [h node.node_id node (ClusterState.mem_get_all_nodes hfiled hmem)]
    exact Bool.false_ne_true
  simp [GetClusterState, hnone]

/-- A holder of the lock that is known to the node is named by `Heartbeat` and flagged nowhere. -/
theorem not_reports_of_unflagged {holder : String} {node : ClusterNode} (h : Unflagged s.2.cluster)
    (hfiled : s.2.cluster.Filed) (hlock : s.1.server = some holder)
    (hknown : s.2.cluster.get_node holder = some node) (leader : String) : ¬ Reports leader s := by
  intro hreports
  have hnamed : holder = leader := by
    have hheartbeat := hreports.heartbeat 0 { node_id := "", node_address := "" }
    rwa [leader_election.get_leader_eq, hlock] at hheartbeat
  have hflag := (hreports.nodes node (ClusterState.mem_get_all_nodes_of_get_node hknown)).mpr
    ((hfiled holder node hknown).trans hnamed)
  rw [h holder node hknown] at hflag
  cases hflag

/-- Whenever the holder of the lock is a known node, the RPCs do not name the same leader. -/
theorem reports_disagree (hreach : (coordination service).Reachable s) {holder : String}
    (hlock : s.1.server = some holder) (hknown : (s.2.cluster.get_node holder).isSome) : ¬ ∃ leader, Reports leader s := by
  rintro ⟨leader, hreports⟩
  obtain ⟨node, hnode⟩ := Option.isSome_iff_exists.mp hknown
  exact not_reports_of_unflagged (unflagged_of_reachable hreach.snd) (filed_of_reachable hreach.snd) hlock hnode leader
    hreports

/-- The local node has taken the lock, and no call is under way. -/
theorem exists_elected :
    ∃ s, (coordination sample_service).Reachable s ∧ s.1.server = some "edge-1" ∧ (∀ t, s.1.tasks t = none) ∧
      (s.2.cluster.get_node "edge-1").isSome := by
  have hinit : (coordination sample_service).Reachable (leader_election.idle, heartbeat.started) :=
    .initial ⟨leader_election.idle_initial, ⟨_, rfl⟩⟩
  refine ⟨_, ((hinit.step (a := .inl (.call 0 "edge-1" .try_acquire)) trivial rfl).step (a := .inl (.exec 0 ())) trivial
    rfl).step (a := .inl (.resume 0)) trivial rfl, rfl, fun t => ?_, by decide⟩
  cases t <;> rfl

theorem reports_disagree_elected :
    ∃ s, (coordination sample_service).Reachable s ∧ s.1.server = some "edge-1" ∧ ¬ ∃ leader, Reports leader s := by
  obtain ⟨s, hreach, hlock, _, hknown⟩ := exists_elected
  exact ⟨s, hreach, hlock, reports_disagree hreach hlock hknown⟩

/-- It is so with no election step in progress. -/
theorem reports_disagree_at_rest :
    ∃ s, (coordination sample_service).Reachable s ∧ s.1.server = some "edge-1" ∧ (∀ t, s.1.tasks t = none) ∧
      (s.2.cluster.get_node "edge-1").isSome ∧ ¬ ∃ leader, Reports leader s := by
  obtain ⟨s, hreach, hlock, hidle, hknown⟩ := exists_elected
  refine ⟨s, hreach, hlock, hidle, hknown, ?_⟩
  rintro ⟨leader, hreports⟩
  obtain ⟨node, hnode⟩ := Option.isSome_iff_exists.mp hknown
  exact not_reports_of_unflagged (unflagged_of_reachable hreach.snd) (filed_of_reachable hreach.snd) hlock hnode leader
    hreports

end gateway.coordination_servicer
