import EdgeGateway.DeviceManager.Services
import EdgeGateway.Library.JsonValue

/-! The operations on devices and provisioning requests with all that they read and write:
rows, events and the gauge. -/

namespace gateway.device_manager.lifecycle

/-- An IoT device registered in the gateway. Times are in microseconds. -/
structure Device where
  name : String
  device_type : String
  status : DeviceStatusEnum := .REGISTERED
  firmware_version : String
  last_seen_at : Option ℤ := none
  metadata_ : JsonValue
  created_at : ℤ
  updated_at : ℤ

/-- Record of a device provisioning request and its approval workflow. -/
structure ProvisioningRequest (Id : Type) where
  device_id : Id
  status : ProvisioningStatusEnum := .PENDING
  requested_at : ℤ
  approved_at : Option ℤ := none
  approved_by : Option String := none

/-- What a device is created with. -/
structure DeviceData where
  name : String
  device_type : String
  firmware_version : String
  metadata_ : JsonValue

/-- The fields that a PUT changes. A field that is set may be set to None. -/
structure Updates where
  name : Option (Option String) := none
  device_type : Option (Option String) := none
  status : Option (Option DeviceStatusEnum) := none
  firmware_version : Option (Option String) := none
  metadata_ : Option (Option JsonValue) := none

namespace Updates

/-- The row would violate a NOT NULL constraint. None as metadata is the JSON value null. -/
def violates (updates : Updates) : Bool :=
  updates.name == some none || updates.device_type == some none || updates.status == some none ||
    updates.firmware_version == some none

/-- The row after an UPDATE, which also sets `updated_at`. -/
def apply (updates : Updates) (updated_at : ℤ) (device : Device) : Device :=
  { device with
    name := updates.name.join.getD device.name
    device_type := updates.device_type.join.getD device.device_type
    status := updates.status.join.getD device.status
    firmware_version := updates.firmware_version.join.getD device.firmware_version
    metadata_ := (updates.metadata_.map (·.getD .null)).getD device.metadata_
    updated_at }

/-- An item of the dict that the updates arrive as, if the field is set. -/
def item (field : String) (value : Option (Option String)) : List (String × JsonValue) :=
  value.toList.map fun value => (field, (value.map JsonValue.str).getD .null)

/-- The dict that the updates arrive as. -/
def payload (updates : Updates) : List (String × JsonValue) :=
  item "name" updates.name ++ item "device_type" updates.device_type ++
    item "status" (updates.status.map (·.map DeviceStatusEnum.value)) ++
    item "firmware_version" updates.firmware_version ++
    updates.metadata_.toList.map fun value => ("metadata_", value.getD .null)

end Updates

/-- The fields of an entry of the stream `device_events`. -/
abbrev Event := List (String × String)

inductive Raised where
  | ValueError (message : String)
  | IntegrityError
  | InvalidRequestError
  | MultipleResultsFound
  | StaleDataError
  /-- A call to the database or to Redis has failed. -/
  | CallError

variable {Id : Type}

/-- What the operations do to the database, to Redis and to the gauge. -/
inductive Op (Id : Type) where
  | select_device (device_id : Id)
  | select_request (request_id : Id)
  | select_pending (device_id : Id)
  | insert_device (device_id : Id) (device : Device)
  | insert_request (request_id : Id) (request : ProvisioningRequest Id)
  | update_device (device_id : Id) (updates : Updates) (updated_at : ℤ)
  | update_request (request_id : Id) (status : ProvisioningStatusEnum) (approved_at : ℤ) (approved_by : String)
  | commit
  | stream_add (event : Event)
  | gauge_inc (device_type : String) (amount : ℤ)

abbrev Op.Reply : Op Id → Type
  | .select_device _ => Option Device
  | .select_request _ => Option (ProvisioningRequest Id)
  | .select_pending _ => List (ProvisioningRequest Id)
  | .update_device _ _ _ => Bool
  | .insert_device _ _ | .insert_request _ _ | .update_request _ _ _ _ | .commit | .stream_add _ | .gauge_inc _ _ => Unit

abbrev Op.Outcome (op : Op Id) : Type := Except Raised op.Reply

/-- What an operation does in a session of its own. -/
abbrev Operation (Id α : Type) := ExceptT Raised (Program (Op Id) Op.Outcome) α

/-- Send a statement, add to a stream, or change the gauge. -/
abbrev execute (op : Op Id) : Operation Id op.Reply := ExceptT.mk (Program.op op)

namespace session

abbrev commit : Operation Id Unit := execute .commit

/-- `session.refresh(device)`. -/
def refresh_device (device_id : Id) : Operation Id Device := do
  match ← execute (.select_device device_id) with
  | some device => return device
  | none => throw .InvalidRequestError

/-- `session.refresh(request)`. -/
def refresh_request (request_id : Id) : Operation Id (ProvisioningRequest Id) := do
  match ← execute (.select_request request_id) with
  | some request => return request
  | none => throw .InvalidRequestError

end session

namespace device_repo

def get_device (device_id : Id) : Operation Id (Option Device) := execute (.select_device device_id)

/-- Insert a new device row. -/
def create_device (device_id : Id) (device_data : DeviceData) (created_at updated_at : ℤ) : Operation Id Device := do
  execute (.insert_device device_id
    { name := device_data.name, device_type := device_data.device_type, firmware_version := device_data.firmware_version,
      metadata_ := device_data.metadata_, created_at, updated_at })
  session.commit
  session.refresh_device device_id

/-- Apply partial updates to an existing device. -/
def update_device (device_id : Id) (updates : Updates) (updated_at : ℤ) : Operation Id (Option Device) := do
  let found ← execute (.update_device device_id updates updated_at)
  session.commit
  if found then return some (← session.refresh_device device_id)
  else return none

/-- Soft-delete a device by setting its status to DECOMMISSIONED. -/
def delete_device (device_id : Id) (updated_at : ℤ) : Operation Id Bool := do
  let found ← execute (.update_device device_id { status := some (some .DECOMMISSIONED) } updated_at)
  session.commit
  return found

end device_repo

section Services

-- `json.dumps`, and the text of an id.
variable (dumps : JsonValue → String) [ToString Id]

namespace device_service

def device_event (event_type : String) (device_id : Id) (timestamp : String) (payload : List (String × JsonValue)) : Event :=
  [("event_type", event_type), ("device_id", toString device_id), ("timestamp", timestamp)] ++
    if payload = [] then [] else [("payload", dumps (.dict payload))]

/-- Publish a device lifecycle event. -/
def emit_device_event (event_type : String) (device_id : Id) (timestamp : String) (payload : List (String × JsonValue)) :
    Operation Id Unit :=
  execute (.stream_add (device_event dumps event_type device_id timestamp payload))

/-- Register a new device, emit a creation event, and update metrics. -/
def create_device (device_id : Id) (device_data : DeviceData) (created_at updated_at : ℤ) (timestamp : String) :
    Operation Id Device := do
  let device ← device_repo.create_device device_id device_data created_at updated_at
  emit_device_event dumps "device_created" device_id timestamp
    [("name", .str device.name), ("device_type", .str device.device_type)]
  execute (.gauge_inc device.device_type 0)
  return device

omit [ToString Id] in
/-- If status changed to active, increment gauge; if changed away, decrement. -/
def count_update (updates : Updates) (existing device : Device) : Operation Id Unit :=
  match updates.status.join with
  | none => return ()
  | some new_status =>
    if new_status = .ACTIVE then execute (.gauge_inc device.device_type 1)
    else if existing.status = .ACTIVE then execute (.gauge_inc device.device_type (-1))
    else return ()

/-- Update device fields and emit an update event. -/
def update_device (device_id : Id) (updates : Updates) (updated_at : ℤ) (timestamp : String) :
    Operation Id (Option Device) := do
  match ← device_repo.get_device device_id with
  | none => return none
  | some existing =>
    if existing.status = .DECOMMISSIONED then throw (.ValueError "Cannot update a decommissioned device.")
    else
      match ← device_repo.update_device device_id updates updated_at with
      | none => return none
      | some device =>
        emit_device_event dumps "device_updated" device_id timestamp updates.payload
        -- Of one row a session has one instance, whose attributes are now the new ones.
        count_update updates device device
        return some device

/-- Soft-delete (decommission) a device. -/
def delete_device (device_id : Id) (updated_at : ℤ) (timestamp : String) : Operation Id Bool := do
  match ← device_repo.get_device device_id with
  | none => return false
  | some existing =>
    if existing.status = .ACTIVE then
      throw (.ValueError "Cannot decommission an active device. Set status to INACTIVE first.")
    else if existing.status = .DECOMMISSIONED then throw (.ValueError "Device is already decommissioned.")
    else
      let success ← device_repo.delete_device device_id updated_at
      if success then
        emit_device_event dumps "device_decommissioned" device_id timestamp []
        if existing.status = .ACTIVE then
          execute (.gauge_inc existing.device_type (-1))
          return true
        else return true
      else return false

end device_service

namespace provision_service

def requested_event (request_id device_id : Id) (timestamp : String) : Event :=
  [("event_type", "provisioning_requested"), ("device_id", toString device_id), ("request_id", toString request_id),
    ("timestamp", timestamp)]

def approved_event (request_id device_id : Id) (approved_by timestamp : String) : Event :=
  [("event_type", "provisioning_approved"), ("device_id", toString device_id), ("request_id", toString request_id),
    ("approved_by", approved_by), ("timestamp", timestamp)]

/-- Create a new provisioning request for a device in REGISTERED status. -/
def request_provisioning (request_id device_id : Id) (requested_at : ℤ) (timestamp : String) :
    Operation Id (ProvisioningRequest Id) := do
  match ← execute (.select_device device_id) with
  | none => throw (.ValueError ("Device " ++ toString device_id ++ " not found."))
  | some device =>
    if device.status ≠ .REGISTERED then
      throw (.ValueError
        ("Device must be in REGISTERED status to request provisioning. Current status: " ++ device.status.value))
    else
      match ← execute (.select_pending device_id) with
      | [] =>
        execute (.insert_request request_id { device_id, requested_at })
        session.commit
        let request ← session.refresh_request request_id
        execute (.stream_add (requested_event request_id device_id timestamp))
        return request
      | [_] => throw (.ValueError ("Device " ++ toString device_id ++ " already has a pending provisioning request."))
      | _ => throw .MultipleResultsFound

/-- The rest of an approval, which ends with the event. -/
def announce_approval (request_id : Id) (approved_by timestamp : String) : Operation Id (ProvisioningRequest Id) := do
  session.commit
  let prov_request ← session.refresh_request request_id
  execute (.stream_add (approved_event request_id prov_request.device_id approved_by timestamp))
  return prov_request

/-- Approve a pending provisioning request and update device status. The request is written
before the device is read, and the device only when its status changes. -/
def approve_provisioning (request_id : Id) (approved_by : String) (approved_at updated_at : ℤ) (timestamp : String) :
    Operation Id (ProvisioningRequest Id) := do
  match ← execute (.select_request request_id) with
  | none => throw (.ValueError ("Provisioning request " ++ toString request_id ++ " not found."))
  | some prov_request =>
    if prov_request.status ≠ .PENDING then
      throw (.ValueError ("Provisioning request is not pending. Current status: " ++ prov_request.status.value))
    else
      execute (.update_request request_id .APPROVED approved_at approved_by)
      match ← execute (.select_device prov_request.device_id) with
      | none => announce_approval request_id approved_by timestamp
      | some device =>
        if device.status = .PROVISIONED then announce_approval request_id approved_by timestamp
        else
          let _ ← execute (.update_device prov_request.device_id { status := some (some .PROVISIONED) } updated_at)
          announce_approval request_id approved_by timestamp

end provision_service

/-- A call of an operation, with the ids that it generates and the times that it reads. -/
inductive Call (Id : Type) where
  | create_device (device_id : Id) (device_data : DeviceData) (created_at updated_at : ℤ) (timestamp : String)
  | update_device (device_id : Id) (updates : Updates) (updated_at : ℤ) (timestamp : String)
  | delete_device (device_id : Id) (updated_at : ℤ) (timestamp : String)
  | request_provisioning (request_id device_id : Id) (requested_at : ℤ) (timestamp : String)
  | approve_provisioning (request_id : Id) (approved_by : String) (approved_at updated_at : ℤ) (timestamp : String)

inductive Returned (Id : Type) where
  | device (device : Option Device)
  | deleted (success : Bool)
  | request (request : ProvisioningRequest Id)

/-- The operation has done what it was called for. -/
def Returned.success : Returned Id → Bool
  | .device found => found.isSome
  | .deleted success => success
  | .request _ => true

def Call.operation : Call Id → Operation Id (Returned Id)
  | .create_device device_id device_data created_at updated_at timestamp =>
    return .device (some (← device_service.create_device dumps device_id device_data created_at updated_at timestamp))
  | .update_device device_id updates updated_at timestamp =>
    return .device (← device_service.update_device dumps device_id updates updated_at timestamp)
  | .delete_device device_id updated_at timestamp =>
    return .deleted (← device_service.delete_device dumps device_id updated_at timestamp)
  | .request_provisioning request_id device_id requested_at timestamp =>
    return .request (← provision_service.request_provisioning request_id device_id requested_at timestamp)
  | .approve_provisioning request_id approved_by approved_at updated_at timestamp =>
    return .request (← provision_service.approve_provisioning request_id approved_by approved_at updated_at timestamp)

end Services

end gateway.device_manager.lifecycle
