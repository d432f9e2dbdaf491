import EdgeGateway.Coordination.ConfigSync
import EdgeGateway.Coordination.Gossip
import EdgeGateway.Library.JsonText

open gateway.cluster_state gateway.config_sync

namespace gateway.subscribers

/-- What a handler raises: a JSONDecodeError, or an exception of another class. -/
inductive MessageError where
  | JSONDecodeError
  | raised (e : PyExc)
  deriving DecidableEq

/-- `except (json.JSONDecodeError, KeyError)`. -/
def MessageError.caught : MessageError → Bool
  | .JSONDecodeError | .raised .KeyError => true
  | _ => false

/-- A key of a dict, up to `==`: numbers of any class are equal when their values are. -/
inductive Key where
  | null
  | nan
  | inf (negative : Bool)
  | number (value : ℚ)
  | text (s : String)
  deriving DecidableEq

namespace Key

theorem text_injective : Function.Injective Key.text := by
  intro a b h
  cases h
  rfl

/-- The key that a value is; lists and dicts cannot be hashed. -/
def of? : JsonValue → Option Key
  | .null => some .null
  | .bool b => some (.number (if b then 1 else 0))
  | .int n => some (.number n)
  | .float .nan => some .nan
  | .float (.inf negative) => some (.inf negative)
  | .float (.finite value) => some (.number value)
  | .str s => some (.text s)
  | .list _ | .dict _ => none

end Key

/-- The number that a value is, a bool being an int. Numbers are as floats without a bound. -/
def number? : JsonValue → Option PyFloat
  | .bool b => some (.finite (if b then 1 else 0))
  | .int n => some (.finite n)
  | .float x => some x
  | _ => none

/-- A node as its subscribers find it. Its dicts take whatever a message has: the config
cache has values and versions, and the config of the cluster state is apart from the rest. -/
structure Node where
  local_config : Dict Key (JsonValue × PyFloat)
  cluster_config : Dict Key JsonValue
  /-- Everything but `_config`. -/
  cluster : ClusterState

/-- `json.loads`, to which a text with a lone surrogate is a string as any other. -/
abbrev Loads := String → Except MessageError JsonValue

section Source

variable (loads : Loads)

/-- `value[name]`. -/
def item (value : JsonValue) (name : String) : Except MessageError JsonValue :=
  match value.getItem name with
  | .ok item => .ok item
  | .error e => .error (.raised e)

/-- `value.get(name, "")`. -/
def get (value : JsonValue) (name : String) : Except MessageError JsonValue :=
  match value.get name (.str "") with
  | .ok item => .ok item
  | .error e => .error (.raised e)

/-- What TypeError stands for when it is not there. -/
def typed {α : Type} : Option α → Except MessageError α
  | some a => .ok a
  | none => .error (.raised .TypeError)

def get_local (node : Node) (key : JsonValue) : Except MessageError (JsonValue × PyFloat) := do
  let key ← typed (Key.of? key)
  return node.local_config.getD key (.str "", .finite 0)

def set_local (node : Node) (key value : JsonValue) (version : PyFloat) : Except MessageError Node := do
  let key ← typed (Key.of? key)
  return { node with
    local_config := node.local_config.set key (value, version)
    cluster_config := node.cluster_config.set key value }

/-- What `run_sync_loop` does with a message, inside of its try block. -/
def apply_update (node : Node) (payload : String) : Except MessageError Node := do
  let data ← loads payload
  let key ← item data "key"
  let value ← item data "value"
  let version ← item data "version"
  let _updated_by ← get data "updated_by"
  -- Only apply if the incoming version is newer
  let (_, local_version) ← get_local node key
  let version ← typed (number? version)
  if PyFloat.lt local_version version then set_local node key value version else return node

/-- Update the sender's last-seen time. The nodes are filed under texts. -/
def handle_ping (now : ℤ) (node : Node) (from_node_id : JsonValue) : Except MessageError Node := do
  match ← typed (Key.of? from_node_id) with
  | .text node_id => return { node with cluster := node.cluster.update_node_heartbeat now node_id }
  | _ => return node

/-- What `_listen_for_pings` does with a message, inside of its try block. -/
def receive_ping (node_id : String) (now : ℤ) (node : Node) (payload : String) : Except MessageError Node := do
  let data ← loads payload
  let target ← get data "target_node_id"
  if Key.of? target = some (.text node_id) then handle_ping now node (← item data "from_node_id") else return node

/-- The handlers of both loops, which log what they catch. -/
def guarded (node : Node) : Except MessageError Node → Except MessageError Node
  | .error e => if e.caught then .ok node else .error e
  | result => result

end Source

/-- The two subscribers, each with the exception that has ended it, if any. -/
structure State where
  node : Node
  run_sync_loop : Option MessageError := none
  listen_for_pings : Option MessageError := none

/-- A node as the rest of the service has it: a cache and a cluster state of the types that
they are declared with. -/
structure Held where
  local_config : LocalConfig
  cluster : ClusterState

def Held.node (held : Held) : Node where
  local_config := held.local_config.mapKeys Key.text_injective fun (value, version) => (.str value, .finite version)
  cluster_config := held.cluster.config.mapKeys Key.text_injective JsonValue.str
  cluster := { held.cluster with config := .empty }

inductive Event where
  | config_update (payload : String)
  | gossip (now : ℤ) (payload : String)
  /-- Whatever the rest of the service does between two messages. -/
  | meanwhile (held : Held)

section Run

variable (loads : Loads) (node_id : String)

/-- A turn of the loops: a subscriber that was ended takes no message any more. -/
def step (s : State) : Event → State
  | .config_update payload =>
    if s.run_sync_loop = none then
      match guarded s.node (apply_update loads s.node payload) with
      | .ok node => { s with node }
      | .error e => { s with run_sync_loop := some e }
    else s
  | .gossip now payload =>
    if s.listen_for_pings = none then
      match guarded s.node (receive_ping loads node_id now s.node payload) with
      | .ok node => { s with node }
      | .error e => { s with listen_for_pings := some e }
    else s
  | .meanwhile held => { s with node := held.node }

def run (s : State) (events : List Event) : State := events.foldl (step loads node_id) s

end Run

end gateway.subscribers
