import EdgeGateway.Coordination.Heartbeat
import EdgeGateway.Library.Transition
import EdgeGateway.Library.Raising

open gateway.cluster_state

namespace gateway.ota_coordinator

inductive Exc where
  | RuntimeError (message : String)
  | Exception (message : String)

/-- How a call ends that does not return: with an exception, or not at all. -/
inductive Stop where
  | raised (e : Exc)
  | pending

/-- What a Redis command comes to: it is executed, it raises without having been
executed, or its reply is lost. -/
inductive Outcome where
  | done
  | refused (e : Exc)
  | lost (e : Exc)

def Outcome.executed : Outcome → Bool
  | .done | .lost _ => true
  | .refused _ => false

def Outcome.result : Outcome → Except Stop Unit
  | .done => .ok ()
  | .refused e | .lost e => .error (.raised e)

/-- A `ClusterNode` object. -/
structure Node (Ref : Type) where
  ref : Ref
  node_id : String

structure OtaEvent where
  firmware_version : String
  event : String
  node_ids : List String

/-- What a rollout has done: the update of a node has begun, with what the node had before and
the state of the others; a command on its key has come back; it has passed a health wait; the
watch period is over; its rollback has begun. -/
inductive Happening (κ Ref : Type) where
  | attempted (node : Node Ref) (metadata : Dict String String) (target_version : Option String) (others : κ)
  | written (node : Node Ref) (outcome : Outcome)
  | healthy (node : Node Ref) (others : κ)
  | watched
  | rolling_back (node : Node Ref)
  | deleted (node : Node Ref) (outcome : Outcome)

/-- The tasks that run beside a rollout, and what it sees of them: the cluster state, and the
object that the cluster holds under an id. -/
structure Environment (κ α Ref : Type) where
  system : TransitionSystem κ α
  cluster : κ → ClusterState
  object : κ → String → Ref

/-- A state of the heartbeat system with the record of its steps. -/
abbrev Recorded := heartbeat.State × List (TransitionSystem.Transition heartbeat.State heartbeat.Action)

/-- The coordination service of the node, with the record of what has happened to it. -/
def service_environment {Ref : Type} (service : heartbeat.HeartbeatService) (object : Recorded → String → Ref) :
    Environment Recorded heartbeat.Action Ref where
  system := (heartbeat.system service).recorded
  cluster k := k.1.cluster
  object := object

/-- The others, the metadata of the node objects, the keys and the event list in Redis, and
the history of the rollout. Nothing else writes the metadata or the keys. -/
structure World (κ α Ref : Type) where
  scene : Scene κ α Outcome
  metadata : Ref → Dict String String
  redis : Dict String String
  events : List OtaEvent
  history : List (Happening κ Ref)

abbrev Rollout (κ α Ref : Type) := Raising (World κ α Ref) Stop

/-- `f"{_OTA_PREFIX}node:{node_id}:target_version"`. -/
def target_version_key (node_id : String) : String := "iot-gateway:ota:node:" ++ node_id ++ ":target_version"

variable {κ α Ref : Type}

def World.target_version (w : World κ α Ref) (node_id : String) : Option String :=
  w.redis.get? (target_version_key node_id)

/-- What is added to the history. -/
def note (happenings : List (Happening κ Ref)) : Rollout κ α Ref Unit :=
  modify fun w => { w with history := w.history ++ happenings }

variable (env : Environment κ α Ref)

/-- Wait until Redis or a timer answers. -/
def await : Rollout κ α Ref Outcome := fun w =>
  match w.scene.next env.system with
  | some (outcome, scene) => (.ok outcome, { w with scene })
  | none => (.error .pending, w)

/-- `await asyncio.sleep(seconds)`. -/
def sleep (_seconds : PyFloat) : Rollout κ α Ref Unit := do
  let _ ← await env

/-- A Redis command, and what its coming back adds to the history. -/
def command (execute : World κ α Ref → World κ α Ref) (happened : Outcome → List (Happening κ Ref)) :
    Rollout κ α Ref Unit := do
  let outcome ← await env
  if outcome.executed then modify execute
  note (happened outcome)
  outcome.result

/-- Persist an OTA event to Redis for audit / observability. -/
def record_ota_event (firmware_version event : String) (node_ids : List String) : Rollout κ α Ref Unit :=
  command env (fun w => { w with events := w.events ++ [{ firmware_version, event, node_ids }] }) fun _ => []

variable [DecidableEq Ref]

def write_metadata (node : Node Ref) (f : Dict String String → Dict String String) (w : World κ α Ref) : World κ α Ref :=
  { w with metadata := fun ref => if ref = node.ref then f (w.metadata ref) else w.metadata ref }

/-- Instruct a node to apply a firmware update. -/
def update_node (node : Node Ref) (firmware_version : String) : Rollout κ α Ref Unit := do
  let w ← get
  note [.attempted node (w.metadata node.ref) (w.target_version node.node_id) w.scene.others]
  modify (write_metadata node fun metadata => metadata.set "pending_firmware" firmware_version)
  command env (fun w => { w with redis := w.redis.set (target_version_key node.node_id) firmware_version })
    fun outcome => [.written node outcome]

/-- The test that ends the loop of `_wait_for_health`. -/
def is_healthy (node_id : String) (others : κ) : Bool :=
  ((env.cluster others).get_node node_id).any fun cluster_node => cluster_node.status = .ALIVE

/-- The loop of `_wait_for_health`, which goes on only after a sleep, so that it takes no more
turns than there are awaits that come back. -/
def poll_health (node : Node Ref) (timeout poll_interval : PyFloat) : ℕ → PyFloat → Rollout κ α Ref Bool
  | 0, _ => throw .pending
  | turns + 1, elapsed =>
    if PyFloat.lt elapsed timeout then do
      let w ← get
      if is_healthy env node.node_id w.scene.others then
        note [.healthy node w.scene.others]
        return true
      sleep env poll_interval
      poll_health node timeout poll_interval turns (PyFloat.add elapsed poll_interval)
    else return false

/-- Wait up to `timeout` seconds for the node to report healthy. -/
def wait_for_health (node : Node Ref) (timeout : PyFloat := .finite 60) (poll_interval : PyFloat := .finite 2) :
    Rollout κ α Ref Bool := do
  let w ← get
  poll_health env node timeout poll_interval (w.scene.future.length + 1) (.finite 0)

/-- Instruct a node to roll back to its previous firmware version. -/
def rollback_node (node : Node Ref) : Rollout κ α Ref Unit := do
  note [.rolling_back node]
  modify (write_metadata node fun metadata => metadata.erase "pending_firmware")
  command env (fun w => { w with redis := w.redis.erase (target_version_key node.node_id) })
    fun outcome => [.deleted node outcome]

/-- The node objects that `get_alive_peers` returns. -/
def get_alive_peers (others : κ) : List (Node Ref) :=
  (env.cluster others).get_alive_peers.map fun n => { ref := env.object others n.node_id, node_id := n.node_id }

/-- The body of the loop of `start_rolling_update`, in its `try`. Both `except` clauses raise
again, and what they write to `results` is lost with it. -/
def update_and_verify (firmware_version : String) (health_timeout : PyFloat) (results : Dict String String)
    (node : Node Ref) : Rollout κ α Ref (Dict String String) :=
  tryCatch
    (do
      update_node env node firmware_version
      let healthy ← wait_for_health env node health_timeout
      if !healthy then
        rollback_node env node
        record_ota_event env firmware_version "rolling_update_failed" [node.node_id]
        throw (.raised (.RuntimeError
          ("Node " ++ node.node_id ++ " failed health check after update to firmware " ++ firmware_version)))
      return results.set node.node_id "updated")
    throw

/-- `nodes or self._cluster_state.get_alive_peers()`. -/
def effective_targets (nodes : Option (List (Node Ref))) (others : κ) : List (Node Ref) :=
  match nodes with
  | none | some [] => get_alive_peers env others
  | some nodes => nodes

/-- Rolling update: update one node at a time, verify health, continue. -/
def start_rolling_update (firmware_version : String) (nodes : Option (List (Node Ref)) := none)
    (health_timeout : PyFloat := .finite 60) : Rollout κ α Ref (Dict String String) := do
  let w ← get
  let target_nodes := effective_targets env nodes w.scene.others
  record_ota_event env firmware_version "rolling_update_started" (target_nodes.map Node.node_id)
  let results ← target_nodes.foldlM (update_and_verify env firmware_version health_timeout) .empty
  record_ota_event env firmware_version "rolling_update_completed" []
  return results

/-- The body of the last loop of `start_canary_update`. -/
def update_remaining (firmware_version : String) (health_timeout : PyFloat) (results : Dict String String)
    (node : Node Ref) : Rollout κ α Ref (Dict String String) := do
  update_node env node firmware_version
  let node_healthy ← wait_for_health env node health_timeout
  if !node_healthy then
    rollback_node env node
    throw (.raised (.RuntimeError ("Node " ++ node.node_id ++ " failed health check after update")))
  return results.set node.node_id "updated"

/-- Canary: update 1 node, monitor for `canary_watch_seconds`, then update the rest. -/
def start_canary_update (firmware_version : String) (canary_watch_seconds : PyFloat := .finite 120)
    (health_timeout : PyFloat := .finite 60) : Rollout κ α Ref (Dict String String) := do
  let w ← get
  match get_alive_peers env w.scene.others with
  | [] => return .empty
  | canary :: remaining =>
    record_ota_event env firmware_version "canary_update_started" [canary.node_id]
    update_node env canary firmware_version
    let healthy ← wait_for_health env canary health_timeout
    if !healthy then
      rollback_node env canary
      throw (.raised (.RuntimeError
        ("Canary node " ++ canary.node_id ++ " failed health check for firmware " ++ firmware_version)))
    let results := Dict.empty.set canary.node_id "canary_updated"
    sleep env canary_watch_seconds
    note [.watched]
    let healthy ← wait_for_health env canary health_timeout
    if !healthy then
      rollback_node env canary
      throw (.raised (.RuntimeError ("Canary node " ++ canary.node_id ++ " degraded during watch period")))
    let results ← remaining.foldlM (update_remaining env firmware_version health_timeout) results
    record_ota_event env firmware_version "canary_update_completed" []
    return results

end gateway.ota_coordinator
