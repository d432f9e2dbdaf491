import EdgeGateway.DeviceManager.Lifecycle.Sessions
import EdgeGateway.Library.ReadCommitted
import EdgeGateway.Library.Threads

/-! Provisioning operations that run at the same time, each in a transaction at the isolation
level READ COMMITTED. -/

namespace gateway.device_manager.lifecycle

variable {Id : Type} [DecidableEq Id]

/-- What the operations share. -/
structure Database (Id : Type) where
  devices : Table Id Device
  requests : Table Id (ProvisioningRequest Id)
  /-- The stream `device_events`. -/
  events : List Event

namespace Database

/-- The pending requests for a device that the transaction sees. -/
def pending (db : Database Id) (tx : ℕ) (device_id : Id) : List (ProvisioningRequest Id) :=
  db.requests.selectWhere tx fun request => decide (request.device_id = device_id) && decide (request.status = .PENDING)

/-- Carry out a statement of the transaction, unless that waits for a lock. What raises ends
the operation, which rolls the transaction back. -/
def execute (db : Database Id) (tx : ℕ) : (op : Op Id) → Option (Database Id × op.Outcome)
  | .select_device device_id => some (db, .ok (db.devices.select tx device_id))
  | .select_request request_id => some (db, .ok (db.requests.select tx request_id))
  | .select_pending device_id => some (db, .ok (db.pending tx device_id))
  | .insert_device device_id device =>
    match db.devices.insert tx device_id device with
    | some devices => some ({ db with devices }, .ok ())
    | none => some (db, .error .IntegrityError)
  | .insert_request request_id request =>
    match db.requests.insert tx request_id request with
    | some requests => some ({ db with requests }, .ok ())
    | none => some (db, .error .IntegrityError)
  | .update_device device_id updates updated_at =>
    (db.devices.update tx device_id (updates.apply updated_at)).map fun (devices, found) =>
      if found && updates.violates then (db, .error .IntegrityError) else ({ db with devices }, .ok found)
  | .update_request request_id status approved_at approved_by =>
    (db.requests.update tx request_id fun request =>
      { request with status, approved_at := some approved_at, approved_by := some approved_by }).map
      fun (requests, found) => if found then ({ db with requests }, .ok ()) else (db, .error .StaleDataError)
  | .commit => some ({ db with devices := db.devices.commit tx, requests := db.requests.commit tx }, .ok ())
  | .stream_add event => some ({ db with events := db.events ++ [event] }, .ok ())
  | .gauge_inc _ _ => some (db, .ok ())

/-- A call to the database or to Redis meets its fate. A statement that is lost is rolled back
with its transaction. -/
def perform (db : Database Id) (tx : ℕ) : (op : Op Id) → Fate → Option (Database Id × op.Outcome)
  | op, .done => db.execute tx op
  | _, .refused => some (db, .error .CallError)
  | .commit, .lost =>
    some ({ db with devices := db.devices.commit tx, requests := db.requests.commit tx }, .error .CallError)
  | .stream_add event, .lost => some ({ db with events := db.events ++ [event] }, .error .CallError)
  | _, .lost => some (db, .error .CallError)

def rollback (db : Database Id) (tx : ℕ) : Database Id :=
  { db with devices := db.devices.rollback tx, requests := db.requests.rollback tx }

end Database

variable [ToString Id]

/-- A call of an operation, with the id that it generates and the times that it reads. -/
inductive ProvisioningCall (Id : Type) where
  | request_provisioning (request_id device_id : Id) (requested_at : ℤ) (timestamp : String)
  | approve_provisioning (request_id : Id) (approved_by : String) (approved_at updated_at : ℤ) (timestamp : String)

omit [DecidableEq Id] in
def ProvisioningCall.operation : ProvisioningCall Id → Operation Id (ProvisioningRequest Id)
  | .request_provisioning request_id device_id requested_at timestamp =>
    provision_service.request_provisioning request_id device_id requested_at timestamp
  | .approve_provisioning request_id approved_by approved_at updated_at timestamp =>
    provision_service.approve_provisioning request_id approved_by approved_at updated_at timestamp

/-- Any number of operations, each in a session whose transaction is rolled back when the
operation ends without a COMMIT or is thrown out. -/
def threads : Threads ℕ (ProvisioningCall Id) (Database Id) (Op Id) Op.Outcome
    (Except Raised (ProvisioningRequest Id)) Fate where
  start db _ call := some (db, call.operation)
  perform db tx op fate := db.perform tx op fate
  finish db tx := db.rollback tx
  abort db tx := some (db.rollback tx)

abbrev State (Id : Type) :=
  Threads.State ℕ (Database Id) (Op Id) Op.Outcome (Except Raised (ProvisioningRequest Id))

abbrev Action (Id : Type) := Threads.Action ℕ (ProvisioningCall Id) Fate

namespace Database

/-- A device has at most one pending request. -/
def OnePending (db : Database Id) : Prop :=
  ∀ request_id other_id request other, db.requests.committed request_id = some request → request.status = .PENDING →
    db.requests.committed other_id = some other → other.status = .PENDING → request.device_id = other.device_id →
      request_id = other_id

/-- The status of a request. -/
def status (db : Database Id) (request_id : Id) : Option ProvisioningStatusEnum :=
  (db.requests.committed request_id).map ProvisioningRequest.status

/-- The event says that the request was approved. -/
def approves (request_id : Id) (event : Event) : Bool :=
  decide (event.lookup "event_type" = some "provisioning_approved") &&
    decide (event.lookup "request_id" = some (toString request_id))

/-- The number of `provisioning_approved` events of a request. -/
def approvals (db : Database Id) (request_id : Id) : ℕ := db.events.countP (approves request_id)

/-- There is no transaction, a device has at most one pending request, and a request at most one
`provisioning_approved` event, once it is approved. -/
structure Settled (db : Database Id) : Prop where
  devices : ∀ device_id, db.devices.written device_id = none
  requests : ∀ request_id, db.requests.written request_id = none
  one_pending : db.OnePending
  approved_once : ∀ request_id, db.approvals request_id ≤ 1
  approved : ∀ request_id, db.approvals request_id ≠ 0 → db.status request_id = some .APPROVED

end Database

/-- Runs start without transactions, where the past has left everything in order. -/
def system : TransitionSystem (State Id) (Action Id) := threads.system Database.Settled

end gateway.device_manager.lifecycle
