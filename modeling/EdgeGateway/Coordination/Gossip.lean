import EdgeGateway.Coordination.Heartbeat

open gateway.cluster_state gateway.coordination_servicer gateway.heartbeat

namespace gateway.gossip

structure GossipProtocol where
  node_id : String
  fanout : ℤ
  /-- Whether a Redis client was given to `__init__` or `set_redis`. -/
  redis : Bool := false
  sequence : ℕ := 0

/-- What is published on the gossip channel. -/
structure Ping where
  from_node_id : String
  target_node_id : String
  sequence : ℕ

variable (gossip : GossipProtocol)

/-- Send a lightweight probe to a peer, which succeeds if Redis takes the message. -/
def ping_peer (published : Bool) (peer : ClusterNode) : Bool × Option Ping × GossipProtocol :=
  if gossip.redis then
    let sequence := gossip.sequence + 1
    (published, some { from_node_id := gossip.node_id, target_node_id := peer.node_id, sequence },
      { gossip with sequence })
  else (false, none, gossip)

/-- The turn of the loop of `_gossip_round` that probes the peer. -/
def probe_peer (published : Bool) (peer : ClusterNode) (cluster : ClusterState) : ClusterState × GossipProtocol :=
  let (success, _, gossip) := ping_peer gossip published peer
  (if success then cluster else cluster.mark_suspect peer.node_id, gossip)

/-- `random.sample(peers, min(self._fanout, len(peers)))` that picks the given places;
a negative size raises. -/
def sample (peers : List ClusterNode) (places : List ℕ) : Option (List ClusterNode) :=
  if places.Nodup ∧ (∀ i ∈ places, i < peers.length) ∧ (places.length : ℤ) = min gossip.fanout peers.length then
    some (places.filterMap fun i => peers[i]?)
  else none

/-- Handle an incoming ping, if it is for this node. -/
def handle_message (now : ℤ) (ping : Ping) (cluster : ClusterState) : ClusterState :=
  if ping.target_node_id = gossip.node_id then cluster.update_node_heartbeat now ping.from_node_id else cluster

structure State where
  cluster : ClusterState
  /-- The time last read. -/
  clock : ℤ
  protocol : GossipProtocol
  /-- The targets of the gossip round under way that are still to be probed. -/
  targets : List ClusterNode

inductive Action where
  /-- An RPC or a heartbeat check. -/
  | service (a : heartbeat.Action)
  /-- The listener takes a message from the channel. -/
  | message (now : ℤ) (ping : Ping)
  /-- A gossip round selects its targets. -/
  | select (places : List ℕ)
  /-- The round probes the next target, at the given time. -/
  | probe (now : ℤ) (published : Bool)

/-- The pings and the suspicions of the gossip protocol are actions of their own. -/
def serves : heartbeat.Action → Bool
  | .handle_ping .. | .gossip_suspect .. => false
  | _ => true

/-- A round that has no client never suspends before it ends. -/
def State.uninterrupted (s : State) : Bool := !s.protocol.redis && !s.targets.isEmpty

def step (service : HeartbeatService) (s : State) : Action → Option State
  | .service a =>
    let now := a.clock.getD s.clock
    if serves a ∧ s.uninterrupted = false ∧ s.clock ≤ now then
      some { s with cluster := perform service s.cluster a, clock := now }
    else none
  | .message now ping =>
    if s.protocol.redis ∧ s.clock ≤ now then
      some { s with cluster := handle_message s.protocol now ping s.cluster, clock := now }
    else none
  | .select places =>
    if s.targets = [] then
      (sample s.protocol (s.cluster.get_alive_peers (some s.protocol.node_id)) places).map fun targets => { s with targets }
    else none
  | .probe now published =>
    match s.targets with
    | peer :: rest =>
      if s.clock ≤ now then
        let (cluster, protocol) := probe_peer s.protocol published peer s.cluster
        some { cluster, clock := now, protocol, targets := rest }
      else none
    | [] => none

/-- Runs start with the local node alone and the gossip protocol as it is given. -/
def system (service : HeartbeatService) (gossip : GossipProtocol) : TransitionSystem State Action where
  initial s := (heartbeat.system service).initial { cluster := s.cluster, clock := s.clock } ∧
    s.protocol = gossip ∧ s.targets = []
  step := step service

/-- The gossip protocol as `main` makes it. -/
def main_gossip (service : HeartbeatService) (fanout : ℤ) : GossipProtocol := { node_id := service.node_id, fanout }

variable {gossip} {service : HeartbeatService} {s s' : State}

theorem step_service {a : heartbeat.Action} (h : step service s (.service a) = some s') :
    serves a = true ∧ s' = { s with cluster := perform service s.cluster a, clock := a.clock.getD s.clock } := by
  simp only [step, Option.ite_none_right_eq_some, Option.some.injEq] at h
  obtain ⟨⟨hserves, _⟩, rfl⟩ := h
  exact ⟨hserves, rfl⟩

theorem step_message {now : ℤ} {ping : Ping} (h : step service s (.message now ping) = some s') :
    s' = { s with cluster := handle_message s.protocol now ping s.cluster, clock := now } := by
  simp only [step, Option.ite_none_right_eq_some, Option.some.injEq] at h
  exact h.2.symm

theorem step_select {places : List ℕ} (h : step service s (.select places) = some s') :
    ∃ targets, s' = { s with targets } := by
  simp only [step, Option.ite_none_right_eq_some, Option.map_eq_some_iff] at h
  obtain ⟨_, targets, _, rfl⟩ := h
  exact ⟨targets, rfl⟩

theorem step_probe {now : ℤ} {published : Bool} (h : step service s (.probe now published) = some s') :
    ∃ peer rest, s.targets = peer :: rest ∧
      s' = {
        cluster := (probe_peer s.protocol published peer s.cluster).1
        clock := now
        protocol := (probe_peer s.protocol published peer s.cluster).2
        targets := rest } := by
  simp only [step] at h
  split at h
  · rename_i peer rest htargets
    simp only [Option.ite_none_right_eq_some, Option.some.injEq] at h
    exact ⟨peer, rest, htargets, h.2.symm⟩
  · cases h

/-- Without a client every probe fails. -/
theorem probe_peer_of_not_redis (h : gossip.redis = false) (published : Bool) (peer : ClusterNode)
    (cluster : ClusterState) : probe_peer gossip published peer cluster = (cluster.mark_suspect peer.node_id, gossip) := by
  simp [probe_peer, ping_peer, h]

/-- With a client a probe fails only if Redis does. -/
theorem probe_peer_of_published (h : gossip.redis = true) (peer : ClusterNode) (cluster : ClusterState) :
    (probe_peer gossip true peer cluster).1 = cluster := by
  simp [probe_peer, ping_peer, h]

theorem redis_probe_peer (published : Bool) (peer : ClusterNode) (cluster : ClusterState) :
    (probe_peer gossip published peer cluster).2.redis = gossip.redis := by
  simp only [probe_peer, ping_peer]
  split <;> rfl

/-- No step binds a client. -/
theorem redis_step {a : Action} (h : step service s a = some s') : s'.protocol.redis = s.protocol.redis := by
  cases a with
  | service a =>
    obtain ⟨_, rfl⟩ := step_service h
    rfl
  | message now ping =>
    rw [step_message h]
  | select places =>
    obtain ⟨targets, rfl⟩ := step_select h
    rfl
  | probe now published =>
    obtain ⟨peer, rest, _, rfl⟩ := step_probe h
    exact redis_probe_peer published peer s.cluster

theorem redis_of_reachable (h : (system service gossip).Reachable s) : s.protocol.redis = gossip.redis := by
  refine TransitionSystem.ReachableWhere.invariant (P := fun s => s.protocol.redis = gossip.redis) ?_ ?_ h
  · rintro s ⟨_, hprotocol, _⟩
    rw [hprotocol]
  · intro s a s' ih _ hstep
    exact (redis_step hstep).trans ih

end gateway.gossip
