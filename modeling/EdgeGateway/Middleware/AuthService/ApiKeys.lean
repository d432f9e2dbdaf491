import EdgeGateway.Library.JsonText.Dumps
import EdgeGateway.Library.RedisKeyspace
import EdgeGateway.Library.Threads
import EdgeGateway.Middleware.Authentication

/-! API keys in Redis, at the granularity of Redis commands. -/

open gateway.middleware

namespace gateway.api_keys

/-- A command that the service sends to Redis. -/
inductive Command where
  | get (key : String)
  | set (key value : String)
  | delete (keys : List String)

/-- What a command returns, as far as it is read. -/
abbrev Command.Reply : Command → Type
  | .get _ => Option String
  | .set _ _ | .delete _ => Unit

/-- A command returns its reply, or raises. -/
abbrev Command.Outcome (command : Command) : Type := Except PyBaseException command.Reply

def Command.execute (redis : RedisKeyspace) : (command : Command) → RedisKeyspace × command.Reply
  | .get key => (redis, redis.get? key)
  | .set key value => (redis.set key value, ())
  | .delete keys => (keys.foldl Dict.erase redis, ())

abbrev Operation (α : Type) := ExceptT PyBaseException (Program Command Command.Outcome) α

namespace redis

abbrev get (key : String) : Operation (Option String) := ExceptT.mk (Program.op (Command.get key))

abbrev set (key value : String) : Operation Unit := ExceptT.mk (Program.op (Command.set key value))

abbrev delete (keys : List String) : Operation Unit := ExceptT.mk (Program.op (Command.delete keys))

end redis

/-- `json.loads`. -/
def loads (text : String) : Except PyExc JsonValue :=
  match JsonText.loads text with
  | some value => .ok value
  | none => .error .ValueError

/-- Where the metadata of a raw key is stored. -/
def api_key_entry (raw_key : String) : String := "apikey:" ++ raw_key

/-- Where the raw key of a key id is stored. -/
def index_entry (key_id : String) : String := "apikey_id:" ++ key_id

structure ApiKey where
  key_id : String
  api_key : String
  name : String
  role : String

def metadata (key_id name role : String) : String := JsonText.dumps [("key_id", key_id), ("name", name), ("role", role)]

/-- Generate a new API key and store its metadata in Redis. What is generated are the key
id and the raw key. -/
def create_api_key (name role key_id raw_key : String) : Operation ApiKey := do
  redis.set (api_key_entry raw_key) (metadata key_id name role)
  redis.set (index_entry key_id) raw_key
  return { key_id, api_key := raw_key, name, role }

/-- Look up an API key in Redis and return its metadata. -/
def verify_api_key (api_key : String) : Operation (Option JsonValue) := do
  match ← redis.get (api_key_entry api_key) with
  | none => return none
  | some data =>
    match loads data with
    | .ok value => return some value
    | .error e => throw (.exception e)

/-- Delete an API key by its key id. -/
def revoke_api_key (key_id : String) : Operation Bool := do
  match ← redis.get (index_entry key_id) with
  | none => return false
  | some raw_key =>
    redis.delete [api_key_entry raw_key, index_entry key_id]
    return true

variable (env : authentication.Env)

/-- The middleware reads this from Redis. -/
def reading (redis_get : String → Except PyBaseException (Option String)) : authentication.Env :=
  { env with redis_get, loads }

/-- What `_validate_api_key` makes of an API key when Redis answers. -/
def accepted (redis : RedisKeyspace) (api_key : String) : Option Identity :=
  (authentication.validate_api_key (reading env fun key => .ok (redis.get? key)) api_key).toOption.join

/-- `_validate_api_key`, which sends one command. -/
def validate_api_key (api_key : String) : Operation (Option Identity) :=
  .perform (.get (api_key_entry api_key)) fun outcome =>
    .ret (authentication.validate_api_key (reading env fun _ => outcome) api_key)

inductive Call where
  | create_api_key (name role key_id raw_key : String)
  | verify_api_key (api_key : String)
  | revoke_api_key (key_id : String)
  | validate_api_key (api_key : String)

/-- What a call returns. -/
inductive Result where
  | created (api_key : ApiKey)
  | verified (metadata : Option JsonValue)
  | revoked (key_id : String) (deleted : Bool)
  | validated (identity : Option Identity)

def Call.operation : Call → Operation Result
  | .create_api_key name role key_id raw_key => return .created (← api_keys.create_api_key name role key_id raw_key)
  | .verify_api_key api_key => return .verified (← api_keys.verify_api_key api_key)
  | .revoke_api_key key_id => return .revoked key_id (← api_keys.revoke_api_key key_id)
  | .validate_api_key api_key => return .validated (← api_keys.validate_api_key env api_key)

/-- A command is carried out, or raises before or after Redis has carried it out. -/
inductive Fate where
  | done
  | refused (e : PyBaseException)
  | lost (e : PyBaseException)

structure Shared where
  redis : RedisKeyspace
  /-- The key ids and raw keys that have been generated. -/
  issued : List (String × String)

/-- No key with this key id or this raw key has been generated. -/
def Shared.fresh (shared : Shared) (key_id raw_key : String) : Bool :=
  shared.issued.all fun issued => issued.1 != key_id && issued.2 != raw_key

def Shared.start (shared : Shared) : Call → Option (Shared × Program Command Command.Outcome (Except PyBaseException Result))
  | .create_api_key name role key_id raw_key =>
    if shared.fresh key_id raw_key then
      some ({ shared with issued := (key_id, raw_key) :: shared.issued },
        (Call.create_api_key name role key_id raw_key).operation env)
    else none
  | call => some (shared, call.operation env)

def Shared.perform (shared : Shared) (command : Command) : Fate → Shared × command.Outcome
  | .done => ({ shared with redis := (command.execute shared.redis).1 }, .ok (command.execute shared.redis).2)
  | .refused e => (shared, .error e)
  | .lost e => ({ shared with redis := (command.execute shared.redis).1 }, .error e)

/-- Any number of calls, whose commands Redis carries out one at a time. -/
def threads : Threads ℕ Call Shared Command Command.Outcome (Except PyBaseException Result) Fate where
  start shared _ call := shared.start env call
  perform shared _ command fate := some (shared.perform command fate)
  finish shared _ := shared
  abort _ _ := none

abbrev State := Threads.State ℕ Shared Command Command.Outcome (Except PyBaseException Result)
abbrev Action := Threads.Action ℕ Call Fate

end gateway.api_keys
