import EdgeGateway.CloudApi.TelemetryService
import EdgeGateway.DeviceManager.DeviceRepo

open Paging
open gateway.telemetry_service gateway.device_manager.device_repo

namespace gateway.database_paging

/-- The rows of a query that come under one key are on one page. -/
def GroupsOnOnePage {α : Type} (key : α → ℤ) (rows : List α) (limit : ℕ) : Prop :=
  ∀ row ∈ rows, OnOnePage key rows limit (key row)

/-- Whatever orders the queries have the rows in, all pages together show each matching
reading once. -/
def TelemetryOnce (isoformat : ℤ → String) (table : TelemetryReadings) (filters : Filters) (limit : ℕ) : Prop :=
  ∀ orders, (query_all isoformat orders table filters limit).Perm ((table.rows.filter filters.where).map (reading isoformat))

/-- The devices that match the filters, if the status is one. -/
def matching (table : Devices) (device_type status : Option String) :
    Except PyExc (List (Uuid × device_manager.lifecycle.Device)) := do
  return table.items.filter (where_clause device_type (← status_filter status))

/-- Whatever orders the queries have the rows in, all pages together show each matching
device once. -/
def DevicesOnce (table : Devices) (device_type status : Option String) (limit : ℕ) : Prop :=
  ∀ orders, ∃ rows devices, matching table device_type status = .ok rows ∧
    list_all orders table device_type status limit = .ok devices ∧ devices.Perm rows

theorem telemetryOnce_iff (isoformat : ℤ → String) (table : TelemetryReadings) (filters : Filters) {limit : ℕ}
    (hlimit : 0 < limit) :
    TelemetryOnce isoformat table filters limit ↔
      GroupsOnOnePage TelemetryRow.timestamp (table.rows.filter filters.where) limit := by
  unfold TelemetryOnce
  simp only [query_all_eq]
  exact map_pages_perm_iff hlimit (nodup_readings table filters)

theorem device_pages_iff (table : Devices) (device_type : Option String) (status : Option device_manager.DeviceStatusEnum)
    {limit : ℕ} (hlimit : 0 < limit) :
    (∀ orders : ℕ → OrderBy created_at, (pages created_at orders (table.items.filter (where_clause device_type status)) limit).Perm
        (table.items.filter (where_clause device_type status))) ↔
      GroupsOnOnePage created_at (table.items.filter (where_clause device_type status)) limit := by
  generalize hrows : table.items.filter (where_clause device_type status) = rows
  have hnodup : (rows.map id).Nodup := by
    rw [List.map_id, ← hrows]
    exact (List.Nodup.of_map Prod.fst table.nodup).filter _
  have hpages : (∀ orders : ℕ → OrderBy created_at, ((pages created_at orders rows limit).map id).Perm (rows.map id)) ↔
      GroupsOnOnePage created_at rows limit := map_pages_perm_iff hlimit hnodup
  simp only [List.map_id] at hpages
  exact hpages

theorem devicesOnce_iff (table : Devices) (device_type status : Option String) {limit : ℕ} (hlimit : 0 < limit) :
    DevicesOnce table device_type status limit ↔
      ∃ rows, matching table device_type status = .ok rows ∧ GroupsOnOnePage created_at rows limit := by
  unfold DevicesOnce matching
  cases hstatus : status_filter status with
  | error e =>
    constructor
    · intro h
      obtain ⟨rows, devices, hrows, _⟩ := h fun _ => OrderBy.stable created_at
      cases hrows
    · rintro ⟨rows, hrows, _⟩
      cases hrows
  | ok status =>
    have hpages := device_pages_iff table device_type status hlimit
    constructor
    · intro h
      refine ⟨_, rfl, hpages.mp fun orders => ?_⟩
      obtain ⟨rows, devices, hrows, hdevices, hperm⟩ := h orders
      rw [list_all_eq hstatus] at hdevices
      cases hrows
      cases hdevices
      exact hperm
    · rintro ⟨rows, hrows, hgroups⟩ orders
      cases hrows
      exact ⟨_, _, rfl, list_all_eq hstatus orders limit, hpages.mpr hgroups orders⟩

/-- Paging through either table neither repeats nor skips a matching row exactly if all rows of
one time are on one page. -/
theorem paging_once_iff (isoformat : ℤ → String) (readings : TelemetryReadings) (filters : Filters) (devices : Devices)
    (device_type status : Option String) {limit : ℕ} (hlimit : 0 < limit) :
    (TelemetryOnce isoformat readings filters limit ↔
        GroupsOnOnePage TelemetryRow.timestamp (readings.rows.filter filters.where) limit) ∧
      (DevicesOnce devices device_type status limit ↔
        ∃ rows, matching devices device_type status = .ok rows ∧ GroupsOnOnePage created_at rows limit) :=
  ⟨telemetryOnce_iff isoformat readings filters hlimit, devicesOnce_iff devices device_type status hlimit⟩

/-- A reading of a fleet that reports every full minute. -/
def sample_reading (id : Uuid) (minute : ℤ) : TelemetryRow where
  id
  device_id := 7
  device_type := "temperature_sensor"
  timestamp := 1735689600000000 + 60000000 * minute
  payload := .dict []
  metadata_ := .dict []

/-- The two readings of the first minute are on the first page. -/
theorem paging_once_two_of_three :
    TelemetryOnce (fun _ => "") ⟨[sample_reading 1 0, sample_reading 2 1, sample_reading 3 1], by decide⟩ {} 2 :=
  (paging_once_iff _ _ _ .empty none none Nat.two_pos).1.mpr (by unfold GroupsOnOnePage OnOnePage; decide +kernel)

/-- Two readings of one time, each on a page of its own. -/
theorem paging_shows_twice :
    ¬ ∀ (isoformat : ℤ → String) (table : TelemetryReadings) (filters : Filters) (limit : ℕ), 0 < limit →
      TelemetryOnce isoformat table filters limit := by
  intro h
  have hsplit : ¬ OnOnePage TelemetryRow.timestamp [sample_reading 1 0, sample_reading 2 0] 1 (sample_reading 1 0).timestamp := by
    unfold OnOnePage
    decide +kernel
  obtain ⟨orders, htwice⟩ := exists_not_nodup Nat.one_pos List.mem_cons_self hsplit
  have hperm := h (fun _ => "") ⟨[sample_reading 1 0, sample_reading 2 0], by decide⟩ {} 1 Nat.one_pos orders
  rw [query_all_eq] at hperm
  exact htwice (hperm.nodup_iff.mpr (nodup_readings _ _)).of_map

end gateway.database_paging
