import EdgeGateway.Coordination.CoordinationServicer
import EdgeGateway.Library.PyFloat
import EdgeGateway.Library.Transition

open gateway.cluster_state gateway.coordination_servicer

namespace gateway.heartbeat

structure HeartbeatService where
  node_id : String
  timeout : PyFloat

/-- `timedelta.total_seconds()` of that many microseconds. -/
def total_seconds (elapsed : ℤ) : PyFloat := PyFloat.ofRat PyFloat.binary64 (elapsed / 10 ^ 6)

/-- `elapsed > threshold`. -/
def exceeds (elapsed : ℤ) (threshold : PyFloat) : Bool := PyFloat.lt threshold (total_seconds elapsed)

/-- `self._timeout * 2`. -/
def HeartbeatService.twice (service : HeartbeatService) : PyFloat := PyFloat.mul service.timeout (.finite 2)

variable (service : HeartbeatService)

/-- What `_check_timeouts` does with one of the nodes. -/
def check_node (now : ℤ) (state : ClusterState) (node : ClusterNode) : ClusterState :=
  if node.node_id = service.node_id then state
  else if node.status = .DEAD ∨ node.status = .LEAVING then state
  else
    let elapsed := now - node.last_heartbeat
    if exceeds elapsed service.twice then
      if node.status ≠ .DEAD then state.mark_dead node.node_id else state
    else if exceeds elapsed service.timeout then
      if node.status ≠ .SUSPECT then state.mark_suspect node.node_id else state
    else state

/-- Mark nodes as SUSPECT or DEAD if their heartbeat is stale. -/
def check_timeouts (now : ℤ) (state : ClusterState) : ClusterState :=
  state.get_all_nodes.foldl (check_node service now) state

/-- A node after the pass. -/
def checked (now : ℤ) (node : ClusterNode) : ClusterNode :=
  if node.node_id = service.node_id ∨ node.status = .DEAD ∨ node.status = .LEAVING then node
  else if exceeds (now - node.last_heartbeat) service.twice then { node with status := .DEAD, is_leader := false }
  else if exceeds (now - node.last_heartbeat) service.timeout then { node with status := .SUSPECT }
  else node

variable {service} {state : ClusterState} {now : ℤ}

theorem checked_node_id {node : ClusterNode} : (checked service now node).node_id = node.node_id := by
  unfold checked
  split
  · rfl
  · split
    · rfl
    · split <;> rfl

theorem checked_last_heartbeat {node : ClusterNode} :
    (checked service now node).last_heartbeat = node.last_heartbeat := by
  unfold checked
  split
  · rfl
  · split
    · rfl
    · split <;> rfl

/-- One turn of the loop treats one node. -/
theorem get_node_check_node (service : HeartbeatService) (now : ℤ) {node : ClusterNode}
    (hnode : state.get_node node.node_id = some node) (id : String) :
    (check_node service now state node).get_node id =
      if id = node.node_id then some (checked service now node) else state.get_node id := by
  have hsame : state.get_node id = if id = node.node_id then some node else state.get_node id := by
    split
    · rename_i heq
      rw [heq, hnode]
    · rfl
  unfold check_node
  by_cases hlocal : node.node_id = service.node_id
  · have hchecked : checked service now node = node := if_pos (Or.inl hlocal)
    rw [if_pos hlocal, hchecked]
    exact hsame
  · rw [if_neg hlocal]
    by_cases hgone : node.status = .DEAD ∨ node.status = .LEAVING
    · have hchecked : checked service now node = node := if_pos (Or.inr hgone)
      rw [if_pos hgone, hchecked]
      exact hsame
    · obtain ⟨hdead, hleaving⟩ := not_or.mp hgone
      rw [if_neg hgone, checked, if_neg (not_or.mpr ⟨hlocal, hgone⟩)]
      by_cases htwice : exceeds (now - node.last_heartbeat) service.twice = true
      · simp only [if_pos htwice, if_pos hdead, ClusterState.mark_dead, ClusterState.get_node_change, hnode]
        rfl
      · by_cases honce : exceeds (now - node.last_heartbeat) service.timeout = true
        · simp only [if_neg htwice, if_pos honce]
          by_cases hsuspect : node.status = .SUSPECT
          · rw [if_neg (not_not.mpr hsuspect), ← hsuspect]
            exact hsame
          · have hguard : node.status ≠ .DEAD ∧ node.status ≠ .LEAVING := ⟨hdead, hleaving⟩
            simp only [if_pos hsuspect, ClusterState.mark_suspect, ClusterState.get_node_change, hnode, Option.map_some,
              if_pos hguard, Option.getD_some]
        · simp only [if_neg htwice, if_neg honce]
          exact hsame

/-- The loop treats every node of the snapshot once, and no other. -/
theorem get_node_foldl (service : HeartbeatService) (now : ℤ) {nodes : List ClusterNode}
    (hnodup : (nodes.map ClusterNode.node_id).Nodup)
    (hnodes : ∀ node ∈ nodes, state.get_node node.node_id = some node) (id : String) :
    (id ∉ nodes.map ClusterNode.node_id → (nodes.foldl (check_node service now) state).get_node id = state.get_node id) ∧
      ∀ node ∈ nodes, node.node_id = id →
        (nodes.foldl (check_node service now) state).get_node id = some (checked service now node) := by
  induction nodes generalizing state with
  | nil => exact ⟨fun _ => rfl, nofun⟩
  | cons first rest ih =>
    obtain ⟨hfirst, hrest⟩ := List.forall_mem_cons.mp hnodes
    obtain ⟨hapart, hnodup⟩ := List.nodup_cons.mp hnodup
    have hstep := get_node_check_node service now hfirst
    have hrest' : ∀ node ∈ rest, (check_node service now state first).get_node node.node_id = some node := by
      intro node hmem
      have hne : node.node_id ≠ first.node_id := fun heq => hapart (heq ▸ List.mem_map_of_mem hmem)
      rw [hstep, if_neg hne]
      exact hrest node hmem
    obtain ⟨hothers, hthese⟩ := ih hnodup hrest'
    rw [List.foldl_cons]
    constructor
    · intro hid
      rw [List.map_cons, List.mem_cons, not_or] at hid
      rw [hothers hid.2, hstep, if_neg hid.1]
    · intro node hmem heq
      obtain rfl | hmem := List.mem_cons.mp hmem
      · rw [hothers (heq ▸ hapart), hstep, if_pos heq.symm]
      · exact hthese node hmem heq

/-- A pass treats every node by its status and its last heartbeat alone. -/
theorem get_node_check_timeouts (hfiled : state.Filed) {id : String} :
    (check_timeouts service now state).get_node id = (state.get_node id).map (checked service now) := by
  obtain ⟨hothers, hthese⟩ := get_node_foldl service now (ClusterState.nodup_get_all_nodes hfiled)
    (fun node hmem => ClusterState.mem_get_all_nodes hfiled hmem) id
  cases hnode : state.get_node id with
  | some node => exact hthese node (ClusterState.mem_get_all_nodes_of_get_node hnode) (hfiled id node hnode)
  | none =>
    refine (hothers fun hid => ?_).trans hnode
    obtain ⟨node, hmem, rfl⟩ := List.mem_map.mp hid
    rw [ClusterState.mem_get_all_nodes hfiled hmem] at hnode
    cases hnode

/-- What happens to the cluster state of a node, with the clock where it is read. -/
inductive Action where
  | JoinCluster (now : ℤ) (request : JoinRequest)
  | Heartbeat (now : ℤ) (request : HeartbeatRequest)
  | LeaveCluster (node_id : String)
  /-- `handle_ping` of the gossip protocol. -/
  | handle_ping (now : ℤ) (from_node_id : String)
  /-- A gossip round that does not reach the peer. -/
  | gossip_suspect (node_id : String)
  | check_timeouts (now : ℤ)

def Action.clock : Action → Option ℤ
  | .JoinCluster now _ | .Heartbeat now _ | .handle_ping now _ | .check_timeouts now => some now
  | .LeaveCluster _ | .gossip_suspect _ => none

structure State where
  cluster : ClusterState
  /-- The time last read. -/
  clock : ℤ

def perform (service : HeartbeatService) (cluster : ClusterState) : Action → ClusterState
  | .JoinCluster now request => (JoinCluster now request cluster).1
  | .Heartbeat now request => Heartbeat now request cluster
  | .LeaveCluster node_id => (LeaveCluster node_id cluster).1
  | .handle_ping now from_node_id => cluster.update_node_heartbeat now from_node_id
  | .gossip_suspect node_id => cluster.mark_suspect node_id
  | .check_timeouts now => check_timeouts service now cluster

/-- Runs start with the local node alone, and the clock never goes back. -/
def system (service : HeartbeatService) : TransitionSystem State Action where
  initial s := ∃ node_address,
    s.cluster = ClusterState.add_node { local_node_id := service.node_id }
      { node_id := service.node_id, node_address, status := .ALIVE, last_heartbeat := s.clock }
  step s a :=
    let now := a.clock.getD s.clock
    if s.clock ≤ now then some { cluster := perform service s.cluster a, clock := now } else none

/-- The time at which the node joins or is heard of, if the action is about that. -/
def Action.contact (node_id : String) : Action → Option ℤ
  | .JoinCluster now request => if request.node_id = node_id then some now else none
  | .Heartbeat now request => if request.node_id = node_id then some now else none
  | .handle_ping now from_node_id => if from_node_id = node_id then some now else none
  | _ => none

/-- The latest join, heartbeat or ping of the node. -/
def latest_contact (trace : List (TransitionSystem.Transition State Action)) (node_id : String) : Option ℤ :=
  trace.findSome? fun t => t.action.contact node_id

theorem latest_contact_cons {trace : List (TransitionSystem.Transition State Action)} {s s' : State} {a : Action}
    {node_id : String} :
    latest_contact (⟨s, a, s'⟩ :: trace) node_id = (a.contact node_id).or (latest_contact trace node_id) := by
  rw [latest_contact, List.findSome?_cons]
  cases a.contact node_id <;> rfl

theorem filed_perform {cluster : ClusterState} (h : cluster.Filed) (service : HeartbeatService) (a : Action) :
    (perform service cluster a).Filed := by
  cases a with
  | JoinCluster now request => exact h.add_node _
  | Heartbeat now request => exact filed_heartbeat h now request
  | LeaveCluster node_id =>
    simp only [perform, LeaveCluster]
    split
    · refine h.change ?_
      rintro node node' ⟨⟩
      rfl
    · exact h
  | handle_ping now from_node_id =>
    refine h.change ?_
    rintro node node' ⟨⟩
    rfl
  | gossip_suspect node_id =>
    refine h.change fun node node' hchanged => ?_
    obtain ⟨_, ⟨⟩⟩ := Option.ite_none_right_eq_some.mp hchanged
    rfl
  | check_timeouts now =>
    intro id node hnode
    change (check_timeouts service now cluster).get_node id = some node at hnode
    rw [get_node_check_timeouts h] at hnode
    obtain ⟨old, hold, rfl⟩ := Option.map_eq_some_iff.mp hnode
    rw [checked_node_id]
    exact h id old hold

/-- A node has the time of the contact, or the one it had. -/
theorem last_heartbeat_perform {cluster : ClusterState} {a : Action} (hfiled : cluster.Filed) {id : String}
    {node : ClusterNode} (h : (perform service cluster a).get_node id = some node) :
    a.contact id = some node.last_heartbeat ∨
      (a.contact id = none ∧ ∃ old, cluster.get_node id = some old ∧ node.last_heartbeat = old.last_heartbeat) := by
  cases a with
  | JoinCluster now request =>
    have hjoined : (if id = request.node_id then _ else cluster.get_node id) = some node :=
      ClusterState.get_node_add_node.symm.trans h
    simp only [Action.contact]
    split at hjoined
    · rename_i heq
      cases hjoined
      exact .inl (if_pos heq.symm)
    · rename_i hne
      exact .inr ⟨if_neg fun heq => hne heq.symm, node, hjoined, rfl⟩
  | Heartbeat now request =>
    simp only [Action.contact]
    obtain ⟨heq, hlast⟩ | ⟨hne, hold⟩ := get_node_heartbeat h
    · exact .inl (by rw [if_pos heq.symm, hlast])
    · exact .inr ⟨if_neg fun heq => hne heq.symm, node, hold, rfl⟩
  | LeaveCluster node_id =>
    refine .inr ⟨rfl, ?_⟩
    simp only [perform, LeaveCluster] at h
    split at h
    · refine ClusterState.last_heartbeat_change ?_ h
      rintro node node' ⟨⟩
      rfl
    · exact ⟨node, h, rfl⟩
  | handle_ping now from_node_id =>
    have hpinged : (if id = from_node_id then _ else cluster.get_node id) = some node :=
      ClusterState.get_node_change.symm.trans h
    simp only [Action.contact]
    split at hpinged
    · rename_i heq
      obtain ⟨old, _, rfl⟩ := Option.map_eq_some_iff.mp hpinged
      exact .inl (if_pos heq.symm)
    · rename_i hne
      exact .inr ⟨if_neg fun heq => hne heq.symm, node, hpinged, rfl⟩
  | gossip_suspect node_id =>
    refine .inr ⟨rfl, ClusterState.last_heartbeat_change (fun node node' hchanged => ?_) h⟩
    obtain ⟨_, ⟨⟩⟩ := Option.ite_none_right_eq_some.mp hchanged
    rfl
  | check_timeouts now =>
    change (check_timeouts service now cluster).get_node id = some node at h
    rw [get_node_check_timeouts hfiled] at h
    obtain ⟨old, hold, rfl⟩ := Option.map_eq_some_iff.mp h
    exact .inr ⟨rfl, old, hold, checked_last_heartbeat⟩

variable {trace : List (TransitionSystem.Transition State Action)} {s s' : State}

theorem step_perform {a : Action} (h : (system service).step s a = some s') :
    s.clock ≤ s'.clock ∧ s' = { cluster := perform service s.cluster a, clock := a.clock.getD s.clock } := by
  simp only [system, Option.ite_none_right_eq_some, Option.some.injEq] at h
  obtain ⟨hle, rfl⟩ := h
  exact ⟨hle, rfl⟩

theorem filed_of_reachable (h : (system service).Reachable s) : s.cluster.Filed := by
  apply h.invariant (P := fun s => s.cluster.Filed)
  · rintro s ⟨node_address, hcluster⟩
    rw [hcluster]
    exact (ClusterState.filed_new _).add_node _
  · intro s a s' ih _ hstep
    obtain ⟨_, rfl⟩ := step_perform hstep
    exact filed_perform ih service a

/-- In every run a node other than the local one has the time of its latest contact. -/
theorem run_last_heartbeat (h : (system service).Run trace s) :
    s.cluster.Filed ∧ ∀ id node, id ≠ service.node_id → s.cluster.get_node id = some node →
      latest_contact trace id = some node.last_heartbeat := by
  induction h with
  | @initial s hinit =>
    obtain ⟨node_address, hcluster⟩ := hinit
    rw [hcluster]
    refine ⟨(ClusterState.filed_new _).add_node _, fun id node hid hnode => ?_⟩
    rw [ClusterState.get_node_add_node, if_neg hid] at hnode
    cases hnode
  | @step trace s s' a hrun hstep ih =>
    obtain ⟨hfiled, hlast⟩ := ih
    obtain ⟨_, rfl⟩ := step_perform hstep
    refine ⟨filed_perform hfiled service a, fun id node hid hnode => ?_⟩
    rw [latest_contact_cons]
    obtain hcontact | ⟨hnone, old, hold, heq⟩ := last_heartbeat_perform hfiled hnode
    · rw [hcontact]
      rfl
    · rw [hnone, heq, Option.none_or]
      exact hlast id old hid hold

/-- A pass moves a node to DEAD only if it is not the local one and has been silent for more
than twice the timeout, and what it leaves ALIVE, JOINING or SUSPECT is as its silence says. -/
theorem failure_detector_exact {now : ℤ} (hrun : (system service).Run trace s)
    (hstep : (system service).step s (.check_timeouts now) = some s') :
    (∀ id node node', s.cluster.get_node id = some node → node.status ≠ .DEAD → s'.cluster.get_node id = some node' →
        node'.status = .DEAD →
          id ≠ service.node_id ∧
            ∃ last, latest_contact trace id = some last ∧ exceeds (now - last) service.twice = true) ∧
      ∀ id node', s'.cluster.get_node id = some node' → id ≠ service.node_id → node'.status ≠ .DEAD →
        node'.status ≠ .LEAVING →
          ∃ last, latest_contact trace id = some last ∧ exceeds (now - last) service.twice = false ∧
            (exceeds (now - last) service.timeout = true → node'.status = .SUSPECT) := by
  obtain ⟨hfiled, hlast⟩ := run_last_heartbeat hrun
  obtain ⟨_, rfl⟩ := step_perform hstep
  have hpass : ∀ id, (perform service s.cluster (.check_timeouts now)).get_node id =
      (s.cluster.get_node id).map (checked service now) := fun _ => get_node_check_timeouts hfiled
  constructor
  · intro id node node' hnode halive hnode' hdead
    rw [hpass, hnode] at hnode'
    cases hnode'
    have hid := hfiled id node hnode
    unfold checked at hdead
    split at hdead
    · exact absurd hdead halive
    · rename_i hkept
      obtain ⟨hlocal, _⟩ := not_or.mp hkept
      rw [hid] at hlocal
      split at hdead
      · rename_i htwice
        exact ⟨hlocal, node.last_heartbeat, hlast id node hlocal hnode, htwice⟩
      · split at hdead
        · cases hdead
        · exact absurd hdead halive
  · intro id node' hnode' hlocal hdead hleaving
    rw [hpass] at hnode'
    obtain ⟨node, hnode, rfl⟩ := Option.map_eq_some_iff.mp hnode'
    refine ⟨node.last_heartbeat, hlast id node hlocal hnode, ?_⟩
    have hid := hfiled id node hnode
    unfold checked at hdead hleaving ⊢
    split at hdead
    · rename_i hkept
      rw [if_pos hkept] at hleaving
      obtain heq | hdead' | hleaving' := hkept
      · exact absurd (hid.symm.trans heq) hlocal
      · exact absurd hdead' hdead
      · exact absurd hleaving' hleaving
    · rename_i hkept
      rw [if_neg hkept]
      split at hdead
      · exact absurd rfl hdead
      · rename_i htwice
        refine ⟨Bool.not_eq_true _ ▸ htwice, fun honce => ?_⟩
        rw [if_neg htwice, if_pos honce]

def sample_service : HeartbeatService := { node_id := "edge-1", timeout := .finite 10 }

/-- The local node has started at time 0. -/
def started : State where
  cluster := ClusterState.add_node { local_node_id := "edge-1" }
    { node_id := "edge-1", node_address := "10.0.0.1:50051", status := .ALIVE, last_heartbeat := 0 }
  clock := 0

/-- A node joins and is silent for 30 seconds, the timeout being 10. -/
theorem failure_detector_exact_silent_node :
    ∃ (trace : List (TransitionSystem.Transition State Action)) (s s' : State), (system sample_service).Run trace s ∧
      (system sample_service).step s (.check_timeouts 30000000) = some s' ∧
        ((s'.cluster.get_node "edge-2").any fun node => node.status = .DEAD) = true ∧
          ∃ last, latest_contact trace "edge-2" = some last ∧ exceeds (30000000 - last) sample_service.twice = true := by
  obtain ⟨trace, s, hrun, _, htest⟩ := TransitionSystem.exists_run_of_replay (fun _ _ => true) (s := started)
    (show (system sample_service).initial started from ⟨_, rfl⟩)
    [.JoinCluster 0 { node_id := "edge-2", node_address := "10.0.0.2:50051", capabilities := [] }]
    (fun s => ((s.cluster.get_node "edge-2").any fun node => node.status = .ALIVE) &&
      ((system sample_service).step s (.check_timeouts 30000000)).any fun s' =>
        (s'.cluster.get_node "edge-2").any fun node => node.status = .DEAD) (by decide +kernel)
  obtain ⟨hbefore, hafter⟩ := (Bool.and_eq_true _ _).mp htest
  obtain ⟨node, hnode, halive⟩ := (Option.any_eq_true _ _).mp hbefore
  obtain ⟨s', hstep, hdead⟩ := (Option.any_eq_true _ _).mp hafter
  obtain ⟨node', hnode', hstatus⟩ := (Option.any_eq_true _ _).mp hdead
  have hwas : node.status ≠ .DEAD := by
    rw [of_decide_eq_true halive]
    exact nofun
  exact ⟨trace, s, s', hrun, hstep, hdead,
    ((failure_detector_exact hrun hstep).1 "edge-2" node node' hnode hwas hnode' (of_decide_eq_true hstatus)).2⟩

end gateway.heartbeat
