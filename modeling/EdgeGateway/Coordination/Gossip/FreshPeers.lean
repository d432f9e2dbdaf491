import EdgeGateway.Coordination.Gossip

open gateway.cluster_state gateway.heartbeat

namespace gateway.gossip

/-- The last heartbeat of the node is fresher than the timeout. -/
def fresh (service : HeartbeatService) (now : ℤ) (node : ClusterNode) : Bool :=
  PyFloat.lt (total_seconds (now - node.last_heartbeat)) service.timeout

/-- A probe turns no fresh ALIVE node into a SUSPECT one. -/
def SparesFresh (service : HeartbeatService) (t : TransitionSystem.Transition State Action) : Prop :=
  ∀ now published, t.action = .probe now published →
    ∀ id node node', t.source.cluster.get_node id = some node → node.status = .ALIVE → fresh service now node = true →
      t.target.cluster.get_node id = some node' → node'.status ≠ .SUSPECT

/-- The peer that is probed next is not both ALIVE and fresh. -/
def ProbesStale (service : HeartbeatService) (t : TransitionSystem.Transition State Action) : Prop :=
  ∀ now published, t.action = .probe now published →
    ∀ peer rest node, t.source.targets = peer :: rest → t.source.cluster.get_node peer.node_id = some node →
      node.status = .ALIVE → fresh service now node = false

variable {service : HeartbeatService} {gossip : GossipProtocol} {s s' : State}

/-- A probe that fails turns an ALIVE peer into a SUSPECT one and touches no other node. -/
theorem get_node_mark_suspect_of_alive {cluster : ClusterState} {node_id id : String} {node : ClusterNode}
    (hnode : cluster.get_node id = some node) (halive : node.status = .ALIVE) :
    (cluster.mark_suspect node_id).get_node id =
      some (if id = node_id then { node with status := .SUSPECT } else node) := by
  rw [ClusterState.mark_suspect, ClusterState.get_node_change]
  by_cases heq : id = node_id
  · subst heq
    simp [hnode, halive]
  · rw [if_neg heq, if_neg heq, hnode]

theorem sparesFresh_iff_probesStale {a : Action} (hredis : s.protocol.redis = false) (hstep : step service s a = some s') :
    SparesFresh service ⟨s, a, s'⟩ ↔ ProbesStale service ⟨s, a, s'⟩ := by
  constructor
  · rintro hspares now published rfl peer rest node htargets hnode halive
    obtain ⟨peer', rest', htargets', rfl⟩ := step_probe hstep
    cases htargets.symm.trans htargets'
    apply Bool.eq_false_iff.mpr
    intro hfresh
    refine hspares now published rfl peer.node_id node { node with status := .SUSPECT } hnode halive hfresh ?_ rfl
    simp [probe_peer_of_not_redis hredis, get_node_mark_suspect_of_alive hnode halive]
  · rintro hstale now published rfl id node node' hnode halive hfresh hnode' hsuspect
    obtain ⟨peer, rest, htargets, rfl⟩ := step_probe hstep
    simp only [probe_peer_of_not_redis hredis, get_node_mark_suspect_of_alive hnode halive, Option.some.injEq] at hnode'
    split at hnode'
    · rename_i heq
      subst heq
      rw [hstale now published rfl peer rest node htargets hnode halive] at hfresh
      cases hfresh
    · subst hnode'
      rw [halive] at hsuspect
      cases hsuspect

/-- With a client and a Redis that takes every message, no probe suspects anyone. -/
theorem sparesFresh_of_published {a : Action} (hredis : s.protocol.redis = true)
    (hpublished : ∀ now published, a = .probe now published → published = true) (hstep : step service s a = some s') :
    SparesFresh service ⟨s, a, s'⟩ := by
  rintro now published rfl id node node' hnode halive _ hnode' hsuspect
  obtain ⟨peer, rest, _, rfl⟩ := step_probe hstep
  cases hpublished now published rfl
  change (probe_peer s.protocol true peer s.cluster).1.get_node id = some node' at hnode'
  rw [probe_peer_of_published hredis, hnode] at hnode'
  cases hnode'
  rw [halive] at hsuspect
  cases hsuspect

/-- As `main` makes it the gossip protocol has no client, and its rounds leave the fresh peers
ALIVE exactly if they probe none. -/
theorem rounds_spare_fresh_iff {fanout : ℤ} {trace : List (TransitionSystem.Transition State Action)}
    (hrun : (system service (main_gossip service fanout)).Run trace s) :
    (∀ t ∈ trace, SparesFresh service t) ↔ ∀ t ∈ trace, ProbesStale service t := by
  induction hrun with
  | initial _ => simp
  | @step trace s s' a hrun hstep ih =>
    have hredis : s.protocol.redis = false := redis_of_reachable hrun.reachable
    rw [List.forall_mem_cons, List.forall_mem_cons, ih, sparesFresh_iff_probesStale hredis hstep]

/-- The local node has started at time 0. -/
def started : State where
  cluster := heartbeat.started.cluster
  clock := 0
  protocol := main_gossip sample_service 3
  targets := []

theorem started_initial : (system sample_service (main_gossip sample_service 3)).initial started :=
  ⟨⟨_, rfl⟩, rfl, rfl⟩

/-- The round is about to probe a peer that is fresh after a second, and can do so. -/
def targets_fresh (s : State) : Bool :=
  match s.targets with
  | [peer] => (s.cluster.get_node peer.node_id).any fun node =>
      node.status = .ALIVE && fresh sample_service 1000000 node && !s.protocol.redis &&
        (step sample_service s (.probe 1000000 true)).isSome
  | _ => false

/-- A node joins, and a second later the only gossip round suspects it, the timeout being 10. -/
theorem rounds_suspect_fresh :
    ∃ trace s, (system sample_service (main_gossip sample_service 3)).Run trace s ∧
      ¬ ∀ t ∈ trace, SparesFresh sample_service t := by
  obtain ⟨trace, s, hrun, _, htest⟩ := TransitionSystem.exists_run_of_replay (fun _ _ => true) started_initial
    [.service (.JoinCluster 0 { node_id := "edge-2", node_address := "10.0.0.2:50051", capabilities := [] }), .select [0]]
    targets_fresh (by decide +kernel)
  unfold targets_fresh at htest
  split at htest
  · rename_i peer htargets
    obtain ⟨node, hnode, htest⟩ := (Option.any_eq_true _ _).mp htest
    simp only [Bool.and_eq_true, Bool.not_eq_true', decide_eq_true_eq] at htest
    obtain ⟨⟨⟨halive, hfresh⟩, hredis⟩, hprobe⟩ := htest
    obtain ⟨s', hstep⟩ := Option.isSome_iff_exists.mp hprobe
    have hrun' : (system sample_service (main_gossip sample_service 3)).Run (⟨s, .probe 1000000 true, s'⟩ :: trace) s' :=
      .step hrun hstep
    refine ⟨_, s', hrun', fun hspares => ?_⟩
    have hstale := (sparesFresh_iff_probesStale hredis hstep).mp (hspares _ List.mem_cons_self)
    rw [hstale 1000000 true rfl peer [] node htargets hnode halive] at hfresh
    cases hfresh
  · cases htest

/-- `ProbesStale`, decided. -/
def probes_stale (service : HeartbeatService) (s : State) : Action → Bool
  | .probe now _ =>
    match s.targets with
    | peer :: _ => (s.cluster.get_node peer.node_id).all fun node => !(node.status = .ALIVE && fresh service now node)
    | [] => true
  | _ => true

theorem probesStale_of_decided {a : Action} (h : probes_stale service s a = true) : ProbesStale service ⟨s, a, s'⟩ := by
  rintro now published rfl peer rest node htargets hnode halive
  change s.targets = peer :: rest at htargets
  change s.cluster.get_node peer.node_id = some node at hnode
  simpa [probes_stale, htargets, hnode, halive] using h

/-- A round that probes a node 11 seconds after its last heartbeat. -/
theorem rounds_spare_fresh_silent_node :
    ∃ trace s, (system sample_service (main_gossip sample_service 3)).Run trace s ∧
      (∀ t ∈ trace, SparesFresh sample_service t) ∧
        ((s.cluster.get_node "edge-2").any fun node => node.status = .SUSPECT) = true := by
  obtain ⟨trace, s, hrun, hall, htest⟩ := TransitionSystem.exists_run_of_replay (probes_stale sample_service)
    started_initial
    [.service (.JoinCluster 0 { node_id := "edge-2", node_address := "10.0.0.2:50051", capabilities := [] }), .select [0],
      .probe 11000000 true]
    (fun s => (s.cluster.get_node "edge-2").any fun node => node.status = .SUSPECT) (by decide +kernel)
  exact ⟨trace, s, hrun, (rounds_spare_fresh_iff hrun).mpr fun t ht => probesStale_of_decided (hall t ht), htest⟩

end gateway.gossip
