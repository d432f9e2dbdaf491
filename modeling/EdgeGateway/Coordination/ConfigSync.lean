import EdgeGateway.Library.AsyncClients
import EdgeGateway.Library.RedisKeyspace

namespace gateway.config_sync

def CONFIG_PREFIX : String := "iot-gateway:config:"

def VERSION_PREFIX : String := CONFIG_PREFIX ++ "version:"

def config_key (key : String) : String := CONFIG_PREFIX ++ key

def version_key (key : String) : String := VERSION_PREFIX ++ key

/-- `key.startswith(prefix)`. -/
def starts_with (head key : String) : Bool := head.toList.isPrefixOf key.toList

/-- `key[len(CONFIG_PREFIX):]`. -/
def short_key (key : String) : String := String.ofList (key.toList.drop CONFIG_PREFIX.length)

/-- `_local_config`: the value and the version of every key the node has cached. -/
abbrev LocalConfig := Dict String (String × ℤ)

/-- A `config_updates` notification, and an entry of a `SyncConfig` stream. -/
structure Entry where
  key : String
  value : String
  version : ℤ
  deriving DecidableEq

def get_local (config : LocalConfig) (key : String) : String × ℤ := config.getD key ("", 0)

def set_local (config : LocalConfig) (entry : Entry) : LocalConfig :=
  config.set entry.key (entry.value, entry.version)

theorem get?_set_local (config : LocalConfig) (entry : Entry) (key : String) :
    (set_local config entry).get? key =
      if key = entry.key then some (entry.value, entry.version) else config.get? key :=
  Dict.get?_set config entry.key key (entry.value, entry.version)

/-- What `run_sync_loop` does with a notification: "Only apply if the incoming
version is newer". -/
def apply_notification (config : LocalConfig) (entry : Entry) : LocalConfig :=
  if entry.version > (get_local config entry.key).2 then set_local config entry else config

/-- What `SyncConfig` does with one entry of the caller, and what it yields. -/
def sync_entry (config : LocalConfig) (entry : Entry) : LocalConfig × Option Entry :=
  let (local_value, local_version) := get_local config entry.key
  if local_version > entry.version then
    (config, some { key := entry.key, value := local_value, version := local_version })
  else if entry.version > local_version then (set_local config entry, none)
  else (config, none)

/-- Redis and the network. The inbox of a node is every message published while it
was subscribed, of which the first `applied` were handed to it in order. -/
structure Redis (ν : Type) where
  store : RedisKeyspace
  subscribed : ν → Bool
  inbox : ν → List Entry
  applied : ν → ℕ
  /-- The entries that callers streamed to `SyncConfig`. -/
  sent : List Entry

/-- A SCAN cursor: 0, or the keys found at the start that remain to be returned. -/
abbrev Cursor := Option (List String)

/-- What is left of a reply to SCAN; `serve` tells `run_sync_loop` from a bare
`sync_from_leader`. -/
structure Batch where
  cursor : Cursor
  keys : List String
  serve : Bool
  deriving DecidableEq

/-- The `await`s of `set_config`, of `sync_from_leader` and of `run_sync_loop` up to
its subscription. -/
inductive Pc where
  | incr (key value : String)
  | set (entry : Entry)
  | publish (entry : Entry)
  | scan (cursor : Cursor) (serve : Bool)
  | get_value (key : String) (batch : Batch)
  | get_version (key value : String) (batch : Batch)
  | subscribe
  deriving DecidableEq

inductive Reply where
  | ok
  | error
  | nil
  | bulk (text : String)
  | integer (n : ℤ)
  | scanned (cursor : Cursor) (keys : List String)
  deriving DecidableEq

/-- What a SCAN returns, and whether it is the last one of its iteration. -/
structure ScanChoice where
  keys : List String
  last : Bool

variable {ν : Type}

/-- SCAN may return a key twice and in any order, but an iteration returns every key
that was there when it began. No key is ever deleted. -/
def scan (store : RedisKeyspace) (cursor : Cursor) (choice : ScanChoice) : Option Reply :=
  let wanted := match cursor with
    | none => store.keys.filter (starts_with CONFIG_PREFIX)
    | some keys => keys
  let remaining := wanted.filter (· ∉ choice.keys)
  if choice.keys.all (fun key => key ∈ store.keys && starts_with CONFIG_PREFIX key) then
    if choice.last then
      if remaining = [] then some (.scanned none choice.keys) else none
    else some (.scanned (some remaining) choice.keys)
  else none

def get (store : RedisKeyspace) (key : String) : Reply :=
  match store.get? key with
  | none => .nil
  | some text => .bulk text

def publish (redis : Redis ν) (entry : Entry) : Redis ν :=
  { redis with inbox := fun m => if redis.subscribed m then redis.inbox m ++ [entry] else redis.inbox m }

def execute [DecidableEq ν] (redis : Redis ν) (n : ν) (choice : ScanChoice) : Pc → Option (Redis ν × Reply)
  | .incr key _ =>
    match redis.store.incr (version_key key) with
    | none => some (redis, .error)
    | some (store, version) => some ({ redis with store }, .integer version)
  | .set entry => some ({ redis with store := redis.store.set (config_key entry.key) entry.value }, .ok)
  | .publish entry => some (publish redis entry, .ok)
  | .scan cursor _ => (scan redis.store cursor choice).map fun reply => (redis, reply)
  | .get_value key _ => some (redis, get redis.store key)
  | .get_version key _ _ => some (redis, get redis.store (version_key (short_key key)))
  | .subscribe => some ({ redis with subscribed := Function.update redis.subscribed n true }, .ok)

inductive Call where
  | set_config (key value : String)
  | sync_from_leader
  | run_sync_loop

def start : Call → Pc
  | .set_config key value => .incr key value
  | .sync_from_leader => .scan none false
  | .run_sync_loop => .scan none true

/-- Where the loop over the keys of a batch goes next, skipping version trackers. -/
def next_key (cursor : Cursor) (serve : Bool) : List String → Option Pc
  | [] =>
    match cursor with
    | some _ => some (.scan cursor serve)
    | none => if serve then some .subscribe else none
  | key :: keys =>
    if starts_with VERSION_PREFIX key then next_key cursor serve keys
    else some (.get_value key { cursor, keys, serve })

def Batch.next (batch : Batch) : Option Pc := next_key batch.cursor batch.serve batch.keys

/-- `int(raw_ver) if raw_ver else 1`; `none` stands for ValueError. -/
def read_version : Reply → Option ℤ
  | .bulk raw_ver => if raw_ver = "" then some 1 else PyDecimal.toInt raw_ver
  | _ => some 1

/-- What a suspended call does with the reply. A failing `sync_from_leader` ends
the call, except that `run_sync_loop` logs the exception and subscribes. -/
def resume (config : LocalConfig) : Pc → Reply → LocalConfig × Option Pc
  | .incr key value, .integer version => (config, some (.set { key, value, version }))
  | .incr _ _, _ => (config, none)
  | .set entry, _ => (set_local config entry, some (.publish entry))
  | .publish _, _ => (config, none)
  | .scan _ serve, .scanned cursor keys => (config, next_key cursor serve keys)
  | .scan _ serve, _ => (config, if serve then some .subscribe else none)
  | .get_value key batch, .bulk value => (config, some (.get_version key value batch))
  | .get_value _ batch, _ => (config, batch.next)
  | .get_version key value batch, reply =>
    match read_version reply with
    | some version => (set_local config { key := short_key key, value, version }, batch.next)
    | none => (config, if batch.serve then some .subscribe else none)
  | .subscribe, _ => (config, none)

inductive Event (ν : Type) where
  /-- The subscribed node `n` handles the `i`-th message of its inbox. -/
  | deliver (n : ν) (i : ℕ)
  /-- The node `n` streams its entry for the key to some servicer. -/
  | send (n : ν) (key : String)
  /-- The servicer of node `n` handles the `i`-th streamed entry. -/
  | SyncConfig (n : ν) (i : ℕ)

def occur [DecidableEq ν] (redis : Redis ν) (config : ν → LocalConfig) :
    Event ν → Option (Redis ν × (ν → LocalConfig))
  | .deliver n i =>
    (redis.inbox n)[i]?.map fun entry =>
      ({ redis with
          applied := if i = redis.applied n then Function.update redis.applied n (i + 1) else redis.applied },
        Function.update config n (apply_notification (config n) entry))
  | .send n key =>
    ((config n).get? key).map fun (value, version) =>
      ({ redis with sent := redis.sent ++ [{ key, value, version }] }, config)
  | .SyncConfig n i =>
    redis.sent[i]?.map fun entry =>
      (redis, Function.update config n (sync_entry (config n) entry).1)

variable [DecidableEq ν]

/-- Any number of nodes sharing one Redis that answers every command. -/
def protocol : AsyncProtocol ν (Redis ν) LocalConfig Call Pc ScanChoice Reply (Event ν) where
  start _ config call := (config, some (start call))
  exec redis n pc choice := execute redis n choice pc
  resume _ := resume
  event := occur
  faulty := false

abbrev State (ν : Type) := AsyncProtocol.State ν (Redis ν) LocalConfig Pc Reply
abbrev Action (ν : Type) := AsyncProtocol.Action ν Call ScanChoice (Event ν)
abbrev Task (ν : Type) := AsyncProtocol.Task ν Pc Reply

def Redis.empty : Redis ν :=
  { store := .empty, subscribed := fun _ => false, inbox := fun _ => [], applied := fun _ => 0, sent := [] }

/-- Runs start with an empty Redis and empty caches. -/
def system : TransitionSystem (State ν) (Action ν) :=
  protocol.system (· = .empty) fun _ config => config = .empty

/-- Nothing stored, nothing cached and no call under way. -/
def idle : State ν := { server := .empty, node := fun _ => .empty, tasks := fun _ => none }

theorem idle_initial : system.initial (idle : State ν) :=
  ⟨rfl, fun _ => rfl, fun _ => rfl⟩

end gateway.config_sync
