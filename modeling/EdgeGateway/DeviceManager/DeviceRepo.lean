import EdgeGateway.DeviceManager.Lifecycle
import EdgeGateway.Library.Dict
import EdgeGateway.Library.Paging
import EdgeGateway.Library.Uuid

open Paging

namespace gateway.device_manager

/-- The name of a member, which is also its value in the database. -/
def DeviceStatusEnum.name : DeviceStatusEnum → String
  | .REGISTERED => "REGISTERED"
  | .PROVISIONED => "PROVISIONED"
  | .ACTIVE => "ACTIVE"
  | .INACTIVE => "INACTIVE"
  | .DECOMMISSIONED => "DECOMMISSIONED"

/-- The members in the order of the class. -/
def DeviceStatusEnum.members : List DeviceStatusEnum := [.REGISTERED, .PROVISIONED, .ACTIVE, .INACTIVE, .DECOMMISSIONED]

/-- What a text in the place of a status stands for: a member is equal to its value, and names
are looked up as well. PostgreSQL refuses the others. -/
def DeviceStatusEnum.lookup (text : String) : Option DeviceStatusEnum :=
  DeviceStatusEnum.members.find? fun status => status.value = text ∨ status.name = text

namespace device_repo

open lifecycle (Device)

/-- The rows of `devices` by their primary key. -/
abbrev Devices := Dict Uuid Device

abbrev created_at (row : Uuid × Device) : ℤ := row.2.created_at

/-- The WHERE clauses. -/
def where_clause (device_type : Option String) (status : Option DeviceStatusEnum) (row : Uuid × Device) : Bool :=
  device_type.all (row.2.device_type = ·) && status.all (row.2.status = ·)

/-- The status in the WHERE clauses, if it is one that the database takes. -/
def status_filter : Option String → Except PyExc (Option DeviceStatusEnum)
  | none => .ok none
  | some text =>
    match DeviceStatusEnum.lookup text with
    | some status => .ok (some status)
    | none => .error .LibraryError

/-- Return a paginated list of devices with optional filters, and the total count. -/
def list_devices (order_by : OrderBy created_at) (table : Devices) (device_type status : Option String)
    (limit offset : ℕ) : Except PyExc (List (Uuid × Device) × ℕ) := do
  let status ← status_filter status
  let total_count := table.items.countP (where_clause device_type status)
  let devices := page (order_by.sort (table.items.filter (where_clause device_type status))) limit offset
  return (devices, total_count)

/-- The pages at offsets 0, `limit`, 2 * `limit`, up to the reported total. -/
def list_all (orders : ℕ → OrderBy created_at) (table : Devices) (device_type status : Option String) (limit : ℕ) :
    Except PyExc (List (Uuid × Device)) := do
  let (_, total_count) ← list_devices (orders 0) table device_type status limit 0
  let pages ← (List.range (pageCount total_count limit)).mapM fun k =>
    list_devices (orders k) table device_type status limit (k * limit)
  return pages.flatMap (·.1)

variable {table : Devices} {device_type : Option String} {text : Option String} {status : Option DeviceStatusEnum}

theorem list_devices_eq (hstatus : status_filter text = .ok status) (order_by : OrderBy created_at) (limit offset : ℕ) :
    list_devices order_by table device_type text limit offset =
      .ok (page (order_by.sort (table.items.filter (where_clause device_type status))) limit offset,
        (table.items.filter (where_clause device_type status)).length) := by
  rw [list_devices, hstatus, ← List.countP_eq_length_filter]
  rfl

/-- Without an error the pages are those of the rows that match. -/
theorem list_all_eq (hstatus : status_filter text = .ok status) (orders : ℕ → OrderBy created_at) (limit : ℕ) :
    list_all orders table device_type text limit =
      .ok (pages created_at orders (table.items.filter (where_clause device_type status)) limit) := by
  have hpages : ∀ ks : List ℕ, (ks.mapM fun k => list_devices (orders k) table device_type text limit (k * limit)) =
      .ok (ks.map fun k => (page ((orders k).sort (table.items.filter (where_clause device_type status))) limit (k * limit),
        (table.items.filter (where_clause device_type status)).length)) := by
    intro ks
    simp only [list_devices_eq hstatus]
    exact List.mapM_pure (m := Except PyExc)
  calc list_all orders table device_type text limit
      = (do
          let pages ← (List.range (pageCount (table.items.filter (where_clause device_type status)).length limit)).mapM
            fun k => list_devices (orders k) table device_type text limit (k * limit)
          return pages.flatMap (·.1)) := by
        rw [list_all, list_devices_eq hstatus]
        rfl
    _ = .ok (pages created_at orders (table.items.filter (where_clause device_type status)) limit) := by
        rw [hpages]
        exact congrArg Except.ok (List.flatMap_map _ _ _)

end device_repo

end gateway.device_manager
