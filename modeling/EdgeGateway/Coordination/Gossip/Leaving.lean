import EdgeGateway.Coordination.Gossip

open gateway.cluster_state gateway.coordination_servicer gateway.heartbeat

namespace gateway.gossip

variable {service : HeartbeatService} {gossip : GossipProtocol} {cluster : ClusterState} {id : String} {s s' : State}

/-- The node is known and on its way out. -/
def Leaving (id : String) (cluster : ClusterState) : Prop :=
  ∃ node, cluster.get_node id = some node ∧ node.status = .LEAVING

/-- The action registers the node anew. -/
def Action.Rejoins (id : String) : Action → Prop
  | .service (.JoinCluster _ request) => request.node_id = id
  | _ => False

theorem Leaving.add_node (h : Leaving id cluster) {node : ClusterNode} (hne : node.node_id ≠ id) :
    Leaving id (cluster.add_node node) := by
  obtain ⟨old, hold, hleaving⟩ := h
  refine ⟨old, ?_, hleaving⟩
  rw [ClusterState.get_node_add_node, if_neg hne.symm]
  exact hold

/-- A method that writes no other status over LEAVING keeps every leaving node. -/
theorem Leaving.change (h : Leaving id cluster) {node_id : String} {f : ClusterNode → Option ClusterNode} {bump : ℕ}
    (hf : ∀ node node', f node = some node' → node.status = .LEAVING → node'.status = .LEAVING) :
    Leaving id (cluster.change node_id f bump) := by
  obtain ⟨old, hold, hleaving⟩ := h
  rw [Leaving, ClusterState.get_node_change]
  split
  · rename_i heq
    subst heq
    rw [hold]
    cases hchanged : f old with
    | none => exact ⟨old, by simp [hchanged], hleaving⟩
    | some node' => exact ⟨node', by simp [hchanged], hf old node' hchanged hleaving⟩
  · exact ⟨old, hold, hleaving⟩

theorem Leaving.update_node_heartbeat (h : Leaving id cluster) (now : ℤ) (node_id : String) :
    Leaving id (cluster.update_node_heartbeat now node_id) := by
  apply h.change
  rintro node node' ⟨⟩ hleaving
  simp [hleaving]

/-- The guard of `mark_suspect`. -/
theorem Leaving.mark_suspect (h : Leaving id cluster) (node_id : String) : Leaving id (cluster.mark_suspect node_id) := by
  apply h.change
  intro node node' hchanged hleaving
  simp [hleaving] at hchanged

theorem Leaving.mark_leaving (h : Leaving id cluster) (node_id : String) : Leaving id (cluster.mark_leaving node_id) := by
  apply h.change
  rintro node node' ⟨⟩ _
  rfl

/-- The answer to a heartbeat does not call a leaving node back. -/
theorem Leaving.heartbeat (h : Leaving id cluster) (now : ℤ) (request : HeartbeatRequest) :
    Leaving id (Heartbeat now request cluster) := by
  cases hnode : cluster.get_node request.node_id with
  | none =>
    rw [heartbeat_of_unknown hnode]
    apply h.add_node
    rintro rfl
    obtain ⟨old, hold, _⟩ := h
    rw [hold] at hnode
    cases hnode
  | some old =>
    rw [heartbeat_of_known hnode]
    exact h.update_node_heartbeat now _

/-- A heartbeat check leaves a leaving node alone. -/
theorem Leaving.check_timeouts (h : Leaving id cluster) (hfiled : cluster.Filed) (now : ℤ) :
    Leaving id (check_timeouts service now cluster) := by
  obtain ⟨old, hold, hleaving⟩ := h
  refine ⟨old, ?_, hleaving⟩
  have hchecked : checked service now old = old := if_pos (.inr (.inr hleaving))
  rw [get_node_check_timeouts hfiled, hold, Option.map_some, hchecked]

theorem Leaving.perform (h : Leaving id cluster) (hfiled : cluster.Filed) {a : heartbeat.Action}
    (hstays : ¬ (Action.service a).Rejoins id) : Leaving id (perform service cluster a) := by
  cases a with
  | JoinCluster now request => exact h.add_node hstays
  | Heartbeat now request => exact h.heartbeat now request
  | LeaveCluster node_id =>
    simp only [heartbeat.perform, LeaveCluster]
    split
    · exact h.mark_leaving node_id
    · exact h
  | handle_ping now from_node_id => exact h.update_node_heartbeat now from_node_id
  | gossip_suspect node_id => exact h.mark_suspect node_id
  | check_timeouts now => exact h.check_timeouts hfiled now

theorem Leaving.step (h : Leaving id s.cluster) (hfiled : s.cluster.Filed) {a : Action} (hstays : ¬ a.Rejoins id)
    (hstep : step service s a = some s') : Leaving id s'.cluster := by
  cases a with
  | service a =>
    obtain ⟨_, rfl⟩ := step_service hstep
    exact h.perform hfiled hstays
  | message now ping =>
    rw [step_message hstep]
    simp only [handle_message]
    split
    · exact h.update_node_heartbeat now _
    · exact h
  | select places =>
    obtain ⟨targets, rfl⟩ := step_select hstep
    exact h
  | probe now published =>
    -- The peer may have left since the round selected it.
    obtain ⟨peer, rest, _, rfl⟩ := step_probe hstep
    simp only [probe_peer]
    split
    · exact h
    · exact h.mark_suspect peer.node_id

theorem filed_step (h : s.cluster.Filed) {a : Action} (hstep : step service s a = some s') : s'.cluster.Filed := by
  cases a with
  | service a =>
    obtain ⟨_, rfl⟩ := step_service hstep
    exact filed_perform h service a
  | message now ping =>
    rw [step_message hstep]
    simp only [handle_message]
    split
    · exact filed_perform h service (.handle_ping now ping.from_node_id)
    · exact h
  | select places =>
    obtain ⟨targets, rfl⟩ := step_select hstep
    exact h
  | probe now published =>
    obtain ⟨peer, rest, _, rfl⟩ := step_probe hstep
    simp only [probe_peer]
    split
    · exact h
    · exact filed_perform h service (.gossip_suspect peer.node_id)

theorem filed_of_reachable {ok : State → Action → Prop} (h : (system service gossip).ReachableWhere ok s) :
    s.cluster.Filed := by
  apply h.invariant (P := fun s => s.cluster.Filed)
  · rintro s ⟨⟨node_address, hcluster⟩, _, _⟩
    change s.cluster = _ at hcluster
    rw [hcluster]
    exact (ClusterState.filed_new _).add_node _
  · intro s a s' ih _ hstep
    exact filed_step ih hstep

/-- A leaving node is no peer. -/
theorem Leaving.not_mem_get_alive_peers (h : Leaving id cluster) (hfiled : cluster.Filed) {exclude : Option String}
    {node : ClusterNode} (hmem : node ∈ cluster.get_alive_peers exclude) : node.node_id ≠ id := by
  rintro rfl
  obtain ⟨old, hold, hleaving⟩ := h
  obtain ⟨hnode, halive⟩ := ClusterState.get_node_of_mem_get_alive_peers hfiled hmem
  cases hold.symm.trans hnode
  rw [halive] at hleaving
  cases hleaving

/-- Once LEAVING a node stays LEAVING and no peer until it joins again, whatever the RPCs, the
pings, the heartbeat checks and the probes of a round under way do. -/
theorem leaving_until_rejoin (hreach : (system service gossip).Reachable s) (hleaving : Leaving id s.cluster)
    (hsteps : (system service gossip).StepsWhere (fun _ a => ¬ a.Rejoins id) s s') :
    Leaving id s'.cluster ∧ ∀ exclude, ∀ node ∈ s'.cluster.get_alive_peers exclude, node.node_id ≠ id := by
  have hkept : s'.cluster.Filed ∧ Leaving id s'.cluster := by
    apply hsteps.invariant (P := fun s => s.cluster.Filed ∧ Leaving id s.cluster)
    · rintro s a s' hstays hstep ⟨hfiled, hleaving⟩
      exact ⟨filed_step hfiled hstep, hleaving.step hfiled hstays hstep⟩
    · exact ⟨filed_of_reachable hreach, hleaving⟩
  exact ⟨hkept.2, fun exclude node hmem => hkept.2.not_mem_get_alive_peers hkept.1 hmem⟩

/-- `sample_service` with a client, a round of which has selected a node that then leaves. -/
def bound_gossip : GossipProtocol := { node_id := sample_service.node_id, fanout := 3, redis := true }

def started_bound : State where
  cluster := heartbeat.started.cluster
  clock := 0
  protocol := bound_gossip
  targets := []

theorem started_bound_initial : (system sample_service bound_gossip).initial started_bound := ⟨⟨_, rfl⟩, rfl, rfl⟩

/-- `Action.Rejoins`, decided. -/
def rejoins (id : String) : Action → Bool
  | .service (.JoinCluster _ request) => request.node_id = id
  | _ => false

theorem not_rejoins_of_decided {a : Action} (h : rejoins id a = false) : ¬ a.Rejoins id := by
  intro hrejoins
  cases a with
  | service a =>
    cases a with
    | JoinCluster now request => exact of_decide_eq_false h hrejoins
    | _ => exact hrejoins
  | _ => exact hrejoins

/-- The probe under way fails, the node is heard of once more and falls silent. -/
theorem leaving_until_rejoin_probed :
    ∃ s s', (system sample_service bound_gossip).StepsWhere (fun _ a => ¬ a.Rejoins "edge-2") s s' ∧
      Leaving "edge-2" s'.cluster ∧
        ∀ exclude, ∀ node ∈ s'.cluster.get_alive_peers exclude, node.node_id ≠ "edge-2" := by
  have hprobed : ∃ s s', (system sample_service bound_gossip).Reachable s ∧ Leaving "edge-2" s.cluster ∧
      (system sample_service bound_gossip).StepsWhere (fun _ a => ¬ a.Rejoins "edge-2") s s' := by
    obtain ⟨_, s, hrun, _, htest⟩ := TransitionSystem.exists_run_of_replay (fun _ _ => true) started_bound_initial
      [.service (.JoinCluster 0 { node_id := "edge-2", node_address := "10.0.0.2:50051", capabilities := [] }), .select [0],
        .service (.LeaveCluster "edge-2")]
      (fun s => ((s.cluster.get_node "edge-2").any fun node => node.status = .LEAVING) &&
        ((system sample_service bound_gossip).replay (fun _ a => !rejoins "edge-2" a) s
          [.probe 1000000 false, .service (.Heartbeat 2000000 { node_id := "edge-2", node_address := "10.0.0.2:50051" }),
            .service (.check_timeouts 60000000)]).isSome) (by decide +kernel)
    obtain ⟨hleaving, hreplay⟩ := (Bool.and_eq_true _ _).mp htest
    obtain ⟨node, hnode, hstatus⟩ := (Option.any_eq_true _ _).mp hleaving
    obtain ⟨s', hreplay⟩ := Option.isSome_iff_exists.mp hreplay
    refine ⟨s, s', hrun.reachable, ⟨node, hnode, of_decide_eq_true hstatus⟩,
      TransitionSystem.replay_steps (fun _ a ha => ?_) .refl hreplay⟩
    apply not_rejoins_of_decided
    simpa using ha
  obtain ⟨s, s', hreach, hleaving, hsteps⟩ := hprobed
  exact ⟨s, s', hsteps, leaving_until_rejoin hreach hleaving hsteps⟩

end gateway.gossip
