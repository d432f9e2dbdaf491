import EdgeGateway.Library.ReadCommitted
import EdgeGateway.Library.Threads

namespace gateway.device_manager

/-- Device lifecycle status. -/
inductive DeviceStatusEnum where
  | REGISTERED
  | PROVISIONED
  | ACTIVE
  | INACTIVE
  | DECOMMISSIONED
  deriving DecidableEq

def DeviceStatusEnum.value : DeviceStatusEnum → String
  | .REGISTERED => "registered"
  | .PROVISIONED => "provisioned"
  | .ACTIVE => "active"
  | .INACTIVE => "inactive"
  | .DECOMMISSIONED => "decommissioned"

/-- Provisioning request status. -/
inductive ProvisioningStatusEnum where
  | PENDING
  | APPROVED
  | REJECTED
  deriving DecidableEq

def ProvisioningStatusEnum.value : ProvisioningStatusEnum → String
  | .PENDING => "pending"
  | .APPROVED => "approved"
  | .REJECTED => "rejected"

structure ProvisioningRequest (Id : Type) where
  device_id : Id
  status : ProvisioningStatusEnum

/-- The fields that a request changes. A field that is set may be set to None. -/
structure Updates where
  status : Option (Option DeviceStatusEnum) := none
  /-- Another field that must not be null is set to None. -/
  nulls : Bool := false

/-- The row would violate a NOT NULL constraint. -/
def Updates.violates (updates : Updates) : Bool := updates.nulls || updates.status == some none

inductive DeviceError where
  | ValueError (message : String)
  | IntegrityError
  | MultipleResultsFound

variable {Id : Type} [DecidableEq Id] [ToString Id]

/-- The statements that the operations send. Of a device the status matters. -/
inductive Statement (Id : Type) where
  | select_device (device_id : Id)
  | select_request (request_id : Id)
  | select_pending (device_id : Id)
  | insert_device (device_id : Id)
  | insert_request (request_id device_id : Id)
  | update_device (device_id : Id) (updates : Updates)
  | update_request (request_id : Id) (status : ProvisioningStatusEnum)
  | commit

abbrev Statement.Reply : Statement Id → Type
  | .select_device _ => Option DeviceStatusEnum
  | .select_request _ => Option (ProvisioningRequest Id)
  | .select_pending _ => List (ProvisioningRequest Id)
  | .update_device _ _ => Except DeviceError Bool
  | .insert_device _ | .insert_request _ _ | .update_request _ _ | .commit => Unit

/-- What an operation does in a session of its own. -/
abbrev Operation (Id α : Type) := Program (Statement Id) Statement.Reply α

structure Database (Id : Type) where
  devices : Table Id DeviceStatusEnum
  requests : Table Id (ProvisioningRequest Id)

namespace Database

/-- The server executes a statement of the transaction, unless that waits for a lock. -/
def execute (db : Database Id) (tx : ℕ) : (statement : Statement Id) → Option (Database Id × statement.Reply)
  | .select_device device_id => some (db, db.devices.select tx device_id)
  | .select_request request_id => some (db, db.requests.select tx request_id)
  | .select_pending device_id =>
    some (db, db.requests.selectWhere tx fun request =>
      decide (request.device_id = device_id) && decide (request.status = .PENDING))
  | .insert_device device_id =>
    (db.devices.insert tx device_id .REGISTERED).map fun devices => ({ db with devices }, ())
  | .insert_request request_id device_id =>
    (db.requests.insert tx request_id { device_id, status := .PENDING }).map fun requests =>
      ({ db with requests }, ())
  | .update_device device_id updates =>
    (db.devices.update tx device_id fun status => updates.status.join.getD status).map fun (devices, found) =>
      if found && updates.violates then (db, .error .IntegrityError) else ({ db with devices }, .ok found)
  | .update_request request_id status =>
    (db.requests.update tx request_id fun request => { request with status }).map fun (requests, _) =>
      ({ db with requests }, ())
  | .commit => some ({ devices := db.devices.commit tx, requests := db.requests.commit tx }, ())

def rollback (db : Database Id) (tx : ℕ) : Database Id :=
  { devices := db.devices.rollback tx, requests := db.requests.rollback tx }

end Database

namespace session

/-- Send a statement. -/
abbrev execute (statement : Statement Id) : Operation Id statement.Reply := Program.op statement

abbrev commit : Operation Id Unit := Program.op (.commit : Statement Id)

end session

namespace device_repo

def get_device (device_id : Id) : Operation Id (Option DeviceStatusEnum) := session.execute (.select_device device_id)

/-- Insert a new device row. -/
def create_device (device_id : Id) : Operation Id (Option DeviceStatusEnum) := do
  session.execute (.insert_device device_id)
  session.commit
  session.execute (.select_device device_id)

/-- Apply partial updates to an existing device. -/
def update_device (device_id : Id) (updates : Updates) : Operation Id (Except DeviceError (Option DeviceStatusEnum)) :=
  do
    match ← session.execute (.update_device device_id updates) with
    | .error e => return .error e
    | .ok found =>
      session.commit
      if found then return .ok (← session.execute (.select_device device_id))
      else return .ok none

/-- Soft-delete a device by setting its status to DECOMMISSIONED. -/
def delete_device (device_id : Id) : Operation Id (Except DeviceError Bool) := do
  match ← session.execute (.update_device device_id { status := some (some .DECOMMISSIONED) }) with
  | .error e => return .error e
  | .ok found =>
    session.commit
    return .ok found

end device_repo

namespace device_service

def create_device (device_id : Id) : Operation Id (Option DeviceStatusEnum) := device_repo.create_device device_id

/-- Update device fields. A decommissioned device cannot be updated. -/
def update_device (device_id : Id) (updates : Updates) : Operation Id (Except DeviceError (Option DeviceStatusEnum)) :=
  do
    match ← device_repo.get_device device_id with
    | none => return .ok none
    | some existing =>
      if existing = .DECOMMISSIONED then return .error (.ValueError "Cannot update a decommissioned device.")
      else device_repo.update_device device_id updates

/-- Soft-delete a device, which must not be active. -/
def delete_device (device_id : Id) : Operation Id (Except DeviceError Bool) := do
  match ← device_repo.get_device device_id with
  | none => return .ok false
  | some existing =>
    if existing = .ACTIVE then
      return .error (.ValueError "Cannot decommission an active device. Set status to INACTIVE first.")
    else if existing = .DECOMMISSIONED then return .error (.ValueError "Device is already decommissioned.")
    else device_repo.delete_device device_id

end device_service

namespace provision_service

/-- Create a new provisioning request for a device in REGISTERED status. -/
def request_provisioning (request_id device_id : Id) : Operation Id (Except DeviceError (Option (ProvisioningRequest Id))) :=
  do
    match ← session.execute (.select_device device_id) with
    | none => return .error (.ValueError ("Device " ++ toString device_id ++ " not found."))
    | some status =>
      if status ≠ .REGISTERED then
        return .error (.ValueError
          ("Device must be in REGISTERED status to request provisioning. Current status: " ++ status.value))
      else
        match ← session.execute (.select_pending device_id) with
        | [] =>
          session.execute (.insert_request request_id device_id)
          session.commit
          return .ok (← session.execute (.select_request request_id))
        | [_] =>
          return .error (.ValueError ("Device " ++ toString device_id ++ " already has a pending provisioning request."))
        | _ => return .error .MultipleResultsFound

/-- Approve a pending provisioning request and update device status. The request is
written before the device is read, and the device only when its status changes. -/
def approve_provisioning (request_id : Id) : Operation Id (Except DeviceError (Option (ProvisioningRequest Id))) := do
  match ← session.execute (.select_request request_id) with
  | none => return .error (.ValueError ("Provisioning request " ++ toString request_id ++ " not found."))
  | some request =>
    if request.status ≠ .PENDING then
      return .error (.ValueError
        ("Provisioning request is not pending. Current status: " ++ request.status.value))
    else
      session.execute (.update_request request_id .APPROVED)
      match ← session.execute (.select_device request.device_id) with
      | none =>
        session.commit
        return .ok (← session.execute (.select_request request_id))
      | some status =>
        if status = .PROVISIONED then
          session.commit
          return .ok (← session.execute (.select_request request_id))
        else
          match ← session.execute (.update_device request.device_id { status := some (some .PROVISIONED) }) with
          | .error e => return .error e
          | .ok _ =>
            session.commit
            return .ok (← session.execute (.select_request request_id))

end provision_service

inductive Call (Id : Type) where
  | create_device (device_id : Id)
  | update_device (device_id : Id) (updates : Updates)
  | delete_device (device_id : Id)
  | request_provisioning (request_id device_id : Id)
  | approve_provisioning (request_id : Id)

def Call.operation : Call Id → Operation Id Unit
  | .create_device device_id => do
    let _ ← device_service.create_device device_id
  | .update_device device_id updates => do
    let _ ← device_service.update_device device_id updates
  | .delete_device device_id => do
    let _ ← device_service.delete_device device_id
  | .request_provisioning request_id device_id => do
    let _ ← provision_service.request_provisioning request_id device_id
  | .approve_provisioning request_id => do
    let _ ← provision_service.approve_provisioning request_id

/-- Any number of operations, each in a session whose transaction is rolled back when the
operation returns without a commit or is thrown out. -/
def threads : Threads ℕ (Call Id) (Database Id) (Statement Id) Statement.Reply Unit Unit where
  start db _ call := some (db, call.operation)
  perform db tx statement _ := db.execute tx statement
  finish db tx := db.rollback tx
  abort db tx := some (db.rollback tx)

abbrev State (Id : Type) := Threads.State ℕ (Database Id) (Statement Id) Statement.Reply Unit
abbrev Action (Id : Type) := Threads.Action ℕ (Call Id) Unit

/-- Runs start with any devices and requests, and without transactions. -/
def system : TransitionSystem (State Id) (Action Id) :=
  threads.system fun db => ∀ device_id, db.devices.written device_id = none

end gateway.device_manager
