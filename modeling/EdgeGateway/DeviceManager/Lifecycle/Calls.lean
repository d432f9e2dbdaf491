import EdgeGateway.DeviceManager.Lifecycle.Plan

/-! The plans of the calls, which the operations carry out. -/

namespace gateway.device_manager.lifecycle

variable {Id : Type} [DecidableEq Id]
/-- The gauge after an update. -/
def Updates.gauge (updates : Updates) (device : Device) : Option (String × ℤ) :=
  if updates.status.join = some .ACTIVE then some (device.device_type, 1) else none

/-- The device that an approval has to write. -/
def Tables.unprovisioned (tables : Tables Id) (device_id : Id) : Option Device :=
  (tables.devices.get? device_id).filter (·.status ≠ .PROVISIONED)

theorem unprovisioned_eq_none {tables : Tables Id} {device_id : Id} (h : tables.unprovisioned device_id = none) :
    tables.devices.get? device_id = none ∨
      ∃ device, tables.devices.get? device_id = some device ∧ device.status = .PROVISIONED := by
  cases hdevice : tables.devices.get? device_id with
  | none => exact .inl rfl
  | some device =>
    rw [Tables.unprovisioned, hdevice, Option.filter_eq_none_iff] at h
    exact .inr ⟨device, rfl, by simpa using h⟩

theorem unprovisioned_eq_some {tables : Tables Id} {device_id : Id} {device : Device}
    (h : tables.unprovisioned device_id = some device) :
    tables.devices.get? device_id = some device ∧ device.status ≠ .PROVISIONED := by
  rw [Tables.unprovisioned, Option.filter_eq_some_iff] at h
  exact ⟨h.1, by simpa using h.2⟩

variable (dumps : JsonValue → String) [ToString Id]

namespace Plan

def create_device (tables : Tables Id) (device_id : Id) (data : DeviceData) (created_at updated_at : ℤ)
    (timestamp : String) : Plan Id :=
  let device : Device :=
    { name := data.name, device_type := data.device_type, firmware_version := data.firmware_version,
      metadata_ := data.metadata_, created_at, updated_at }
  { before := 1
    reads := 1
    tables := { tables with devices := tables.devices.set device_id device }
    event := device_service.device_event dumps "device_created" device_id timestamp
      [("name", .str device.name), ("device_type", .str device.device_type)]
    gauge := some (device.device_type, 0)
    returned := .device (some device) }

def update_device (tables : Tables Id) (device_id : Id) (updates : Updates) (updated_at : ℤ) (timestamp : String)
    (existing : Device) : Plan Id :=
  let device := updates.apply updated_at existing
  { before := 2
    reads := 1
    tables := { tables with devices := tables.devices.set device_id device }
    event := device_service.device_event dumps "device_updated" device_id timestamp updates.payload
    gauge := updates.gauge device
    returned := .device (some device) }

def delete_device (tables : Tables Id) (device_id : Id) (updated_at : ℤ) (timestamp : String) (existing : Device) : Plan Id :=
  let device := Updates.apply { status := some (some .DECOMMISSIONED) } updated_at existing
  { before := 2
    reads := 0
    tables := { tables with devices := tables.devices.set device_id device }
    event := device_service.device_event dumps "device_decommissioned" device_id timestamp []
    gauge := none
    returned := .deleted true }

omit dumps in
def request_provisioning (tables : Tables Id) (request_id device_id : Id) (requested_at : ℤ) (timestamp : String) : Plan Id :=
  let request : ProvisioningRequest Id := { device_id, requested_at }
  { before := 3
    reads := 1
    tables := { tables with requests := tables.requests.set request_id request }
    event := provision_service.requested_event request_id device_id timestamp
    gauge := none
    returned := .request request }

omit dumps in
def approve_provisioning (tables : Tables Id) (request_id : Id) (approved_by : String) (approved_at updated_at : ℤ)
    (timestamp : String) (prov_request : ProvisioningRequest Id) : Plan Id :=
  let request := { prov_request with
    status := .APPROVED, approved_at := some approved_at, approved_by := some approved_by }
  { before := if (tables.unprovisioned prov_request.device_id).isSome then 4 else 3
    reads := 1
    tables := {
      devices := match tables.unprovisioned prov_request.device_id with
        | none => tables.devices
        | some device => tables.devices.set prov_request.device_id
            (Updates.apply { status := some (some .PROVISIONED) } updated_at device)
      requests := tables.requests.set request_id request }
    event := provision_service.approved_event request_id prov_request.device_id approved_by timestamp
    gauge := none
    returned := .request request }

end Plan

/-- What the call does, unless its rules end it before a COMMIT. -/
def Call.plan (tables : Tables Id) : Call Id → Option (Plan Id)
  | .create_device device_id data created_at updated_at timestamp =>
    match tables.devices.get? device_id with
    | some _ => none
    | none => some (Plan.create_device dumps tables device_id data created_at updated_at timestamp)
  | .update_device device_id updates updated_at timestamp =>
    match tables.devices.get? device_id with
    | none => none
    | some existing =>
      if existing.status = .DECOMMISSIONED ∨ updates.violates then none
      else some (Plan.update_device dumps tables device_id updates updated_at timestamp existing)
  | .delete_device device_id updated_at timestamp =>
    match tables.devices.get? device_id with
    | none => none
    | some existing =>
      if existing.status = .ACTIVE ∨ existing.status = .DECOMMISSIONED then none
      else some (Plan.delete_device dumps tables device_id updated_at timestamp existing)
  | .request_provisioning request_id device_id requested_at timestamp =>
    match tables.devices.get? device_id with
    | none => none
    | some device =>
      if device.status ≠ .REGISTERED ∨ tables.pending device_id ≠ [] ∨ (tables.requests.get? request_id).isSome then none
      else some (Plan.request_provisioning tables request_id device_id requested_at timestamp)
  | .approve_provisioning request_id approved_by approved_at updated_at timestamp =>
    match tables.requests.get? request_id with
    | none => none
    | some prov_request =>
      if prov_request.status ≠ .PENDING then none
      else some (Plan.approve_provisioning tables request_id approved_by approved_at updated_at timestamp prov_request)

/-- The rules that a call passes, and its plan. -/
inductive Planned (tables : Tables Id) : Call Id → Plan Id → Prop where
  | create_device {device_id : Id} {data : DeviceData} {created_at updated_at : ℤ} {timestamp : String}
      (habsent : tables.devices.get? device_id = none) :
      Planned tables (.create_device device_id data created_at updated_at timestamp)
        (Plan.create_device dumps tables device_id data created_at updated_at timestamp)
  | update_device {device_id : Id} {updates : Updates} {updated_at : ℤ} {timestamp : String} {existing : Device}
      (hdevice : tables.devices.get? device_id = some existing) (hstatus : existing.status ≠ .DECOMMISSIONED)
      (hviolates : ¬ updates.violates) :
      Planned tables (.update_device device_id updates updated_at timestamp)
        (Plan.update_device dumps tables device_id updates updated_at timestamp existing)
  | delete_device {device_id : Id} {updated_at : ℤ} {timestamp : String} {existing : Device}
      (hdevice : tables.devices.get? device_id = some existing) (hinactive : existing.status ≠ .ACTIVE)
      (hstatus : existing.status ≠ .DECOMMISSIONED) :
      Planned tables (.delete_device device_id updated_at timestamp)
        (Plan.delete_device dumps tables device_id updated_at timestamp existing)
  | request_provisioning {request_id device_id : Id} {requested_at : ℤ} {timestamp : String} {device : Device}
      (hdevice : tables.devices.get? device_id = some device) (hstatus : device.status = .REGISTERED)
      (hpending : tables.pending device_id = []) (habsent : tables.requests.get? request_id = none) :
      Planned tables (.request_provisioning request_id device_id requested_at timestamp)
        (Plan.request_provisioning tables request_id device_id requested_at timestamp)
  | approve_provisioning {request_id : Id} {approved_by : String} {approved_at updated_at : ℤ} {timestamp : String}
      {prov_request : ProvisioningRequest Id} (hrequest : tables.requests.get? request_id = some prov_request)
      (hstatus : prov_request.status = .PENDING) :
      Planned tables (.approve_provisioning request_id approved_by approved_at updated_at timestamp)
        (Plan.approve_provisioning tables request_id approved_by approved_at updated_at timestamp prov_request)

section Refinement

variable {dumps} {tables : Tables Id} {plan : Plan Id}

theorem Call.planned {call : Call Id} (h : call.plan dumps tables = some plan) : Planned dumps tables call plan := by
  cases call with
  | create_device device_id data created_at updated_at timestamp =>
    cases hdevice : tables.devices.get? device_id with
    | some device => simp only [Call.plan, hdevice, reduceCtorEq] at h
    | none =>
      simp only [Call.plan, hdevice, Option.some.injEq] at h
      exact h ▸ .create_device hdevice
  | update_device device_id updates updated_at timestamp =>
    cases hdevice : tables.devices.get? device_id with
    | none => simp only [Call.plan, hdevice, reduceCtorEq] at h
    | some device =>
      by_cases hpasses : device.status = .DECOMMISSIONED ∨ updates.violates
      · simp only [Call.plan, hdevice, if_pos hpasses, reduceCtorEq] at h
      · simp only [Call.plan, hdevice, if_neg hpasses, Option.some.injEq] at h
        obtain ⟨hstatus, hviolates⟩ := not_or.1 hpasses
        exact h ▸ .update_device hdevice hstatus hviolates
  | delete_device device_id updated_at timestamp =>
    cases hdevice : tables.devices.get? device_id with
    | none => simp only [Call.plan, hdevice, reduceCtorEq] at h
    | some device =>
      by_cases hpasses : device.status = .ACTIVE ∨ device.status = .DECOMMISSIONED
      · simp only [Call.plan, hdevice, if_pos hpasses, reduceCtorEq] at h
      · simp only [Call.plan, hdevice, if_neg hpasses, Option.some.injEq] at h
        obtain ⟨hinactive, hstatus⟩ := not_or.1 hpasses
        exact h ▸ .delete_device hdevice hinactive hstatus
  | request_provisioning request_id device_id requested_at timestamp =>
    cases hdevice : tables.devices.get? device_id with
    | none => simp only [Call.plan, hdevice, reduceCtorEq] at h
    | some device =>
      by_cases hpasses : device.status ≠ .REGISTERED ∨ tables.pending device_id ≠ [] ∨ (tables.requests.get? request_id).isSome
      · simp only [Call.plan, hdevice, if_pos hpasses, reduceCtorEq] at h
      · simp only [Call.plan, hdevice, if_neg hpasses, Option.some.injEq] at h
        simp only [not_or, not_not, Option.not_isSome_iff_eq_none] at hpasses
        obtain ⟨hstatus, hpending, habsent⟩ := hpasses
        exact h ▸ .request_provisioning hdevice hstatus hpending habsent
  | approve_provisioning request_id approved_by approved_at updated_at timestamp =>
    cases hrequest : tables.requests.get? request_id with
    | none => simp only [Call.plan, hrequest, reduceCtorEq] at h
    | some prov_request =>
      by_cases hpasses : prov_request.status ≠ .PENDING
      · simp only [Call.plan, hrequest, if_pos hpasses, reduceCtorEq] at h
      · simp only [Call.plan, hrequest, if_neg hpasses, Option.some.injEq] at h
        exact h ▸ .approve_provisioning hrequest (not_not.1 hpasses)

theorem passes_create_device {device_id : Id} {data : DeviceData} {created_at updated_at : ℤ} {timestamp : String}
    (habsent : tables.devices.get? device_id = none) :
    Passes (Plan.create_device dumps tables device_id data created_at updated_at timestamp) tables
      ((Call.create_device device_id data created_at updated_at timestamp).operation dumps) 1 := by
  refine .query rfl (by simp only [Tables.execute, habsent]; rfl) (fun _ => rfl) ?_
  refine .commit (fun _ => rfl) ?_
  refine .query rfl (by simp only [Plan.create_device, Tables.execute, Dict.get?_set_self]; rfl) (fun _ => rfl) ?_
  exact .stream_add (fun _ => rfl) (.gauge_inc rfl)

theorem passes_update_device {device_id : Id} {updates : Updates} {updated_at : ℤ} {timestamp : String} {existing : Device}
    (hdevice : tables.devices.get? device_id = some existing) (hstatus : existing.status ≠ .DECOMMISSIONED)
    (hviolates : ¬ updates.violates) :
    Passes (Plan.update_device dumps tables device_id updates updated_at timestamp existing) tables
      ((Call.update_device device_id updates updated_at timestamp).operation dumps) 2 := by
  refine .query rfl (by simp only [Tables.execute, hdevice]; rfl) (fun _ => rfl) ?_
  simp only [Program.bind, ExceptT.bindCont, if_neg hstatus]
  refine .query rfl (by simp only [Tables.execute, hdevice, hviolates]; rfl) (fun _ => rfl) ?_
  refine .commit (fun _ => rfl) ?_
  refine .query rfl (by simp only [Plan.update_device, Tables.execute, Dict.get?_set_self]; rfl) (fun _ => rfl) ?_
  refine .stream_add (fun _ => rfl) ?_
  rcases updates with ⟨_, _, updated_status, _⟩
  rcases updated_status with _ | _ | new_status
  · exact .ret _
  · exact .ret _
  · cases new_status
    case ACTIVE => exact .gauge_inc rfl
    all_goals exact .ret _

theorem passes_delete_device {device_id : Id} {updated_at : ℤ} {timestamp : String} {existing : Device}
    (hdevice : tables.devices.get? device_id = some existing) (hinactive : existing.status ≠ .ACTIVE)
    (hstatus : existing.status ≠ .DECOMMISSIONED) :
    Passes (Plan.delete_device dumps tables device_id updated_at timestamp existing) tables
      ((Call.delete_device device_id updated_at timestamp).operation dumps) 2 := by
  refine .query rfl (by simp only [Tables.execute, hdevice]; rfl) (fun _ => rfl) ?_
  simp only [Program.bind, ExceptT.bindCont, if_neg hinactive, if_neg hstatus]
  refine .query rfl (by simp only [Tables.execute, hdevice]; rfl) (fun _ => rfl) ?_
  exact .commit (fun _ => rfl) (.stream_add (fun _ => rfl) (.ret _))

theorem passes_request_provisioning {request_id device_id : Id} {requested_at : ℤ} {timestamp : String} {device : Device}
    (hdevice : tables.devices.get? device_id = some device) (hstatus : device.status = .REGISTERED)
    (hpending : tables.pending device_id = []) (habsent : tables.requests.get? request_id = none) :
    Passes (Plan.request_provisioning tables request_id device_id requested_at timestamp) tables
      ((Call.request_provisioning request_id device_id requested_at timestamp).operation dumps) 3 := by
  refine .query rfl (by simp only [Tables.execute, hdevice]; rfl) (fun _ => rfl) ?_
  rcases device with ⟨_, _, status, _⟩
  subst hstatus
  refine .query rfl (by simp only [Tables.execute, hpending]; rfl) (fun _ => rfl) ?_
  refine .query rfl (by simp only [Tables.execute, habsent]; rfl) (fun _ => rfl) ?_
  refine .commit (fun _ => rfl) ?_
  refine .query rfl (by simp only [Plan.request_provisioning, Tables.execute, Dict.get?_set_self]; rfl) (fun _ => rfl) ?_
  exact .stream_add (fun _ => rfl) (.ret _)

/-- An approval writes the device unless it is gone or provisioned already. -/
theorem passes_approve_provisioning {request_id : Id} {approved_by : String} {approved_at updated_at : ℤ}
    {timestamp : String} {prov_request : ProvisioningRequest Id}
    (hrequest : tables.requests.get? request_id = some prov_request) (hstatus : prov_request.status = .PENDING) :
    Passes (Plan.approve_provisioning tables request_id approved_by approved_at updated_at timestamp prov_request) tables
      ((Call.approve_provisioning request_id approved_by approved_at updated_at timestamp).operation dumps)
      (Plan.approve_provisioning tables request_id approved_by approved_at updated_at timestamp prov_request).before := by
  rcases prov_request with ⟨device_id, status, _⟩
  subst hstatus
  simp only [Plan.approve_provisioning]
  cases hunprovisioned : tables.unprovisioned device_id with
  | none =>
    refine .query rfl (by simp only [Tables.execute, hrequest]; rfl) (fun _ => rfl) ?_
    refine .query rfl (by simp only [Tables.execute, hrequest]; rfl) (fun _ => rfl) ?_
    refine .query rfl rfl (fun _ => rfl) ?_
    rcases unprovisioned_eq_none hunprovisioned with hdevice | ⟨device, hdevice, hprovisioned⟩
    · rw [hdevice]
      refine .commit (fun _ => rfl) ?_
      refine .query rfl (by simp only [Tables.execute, Dict.get?_set_self]; rfl) (fun _ => rfl) ?_
      exact .stream_add (fun _ => rfl) (.ret _)
    · rcases device with ⟨_, _, status, _⟩
      subst hprovisioned
      rw [hdevice]
      refine .commit (fun _ => rfl) ?_
      refine .query rfl (by simp only [Tables.execute, Dict.get?_set_self]; rfl) (fun _ => rfl) ?_
      exact .stream_add (fun _ => rfl) (.ret _)
  | some device =>
    obtain ⟨hdevice, hprovisioned⟩ := unprovisioned_eq_some hunprovisioned
    refine .query rfl (by simp only [Tables.execute, hrequest]; rfl) (fun _ => rfl) ?_
    refine .query rfl (by simp only [Tables.execute, hrequest]; rfl) (fun _ => rfl) ?_
    refine .query rfl (by simp only [Tables.execute, hdevice]; rfl) (fun _ => rfl) ?_
    rcases device with ⟨_, _, status, _⟩
    cases status
    case PROVISIONED => exact absurd rfl hprovisioned
    all_goals
      refine .query rfl (by simp only [Tables.execute, hdevice]; rfl) (fun _ => rfl) ?_
      refine .commit (fun _ => rfl) ?_
      refine .query rfl (by simp only [Tables.execute, Dict.get?_set_self]; rfl) (fun _ => rfl) ?_
      exact .stream_add (fun _ => rfl) (.ret _)

theorem Planned.passes {call : Call Id} (h : Planned dumps tables call plan) :
    Passes plan tables (call.operation dumps) plan.before := by
  cases h with
  | create_device habsent => exact passes_create_device habsent
  | update_device hdevice hstatus hviolates => exact passes_update_device hdevice hstatus hviolates
  | delete_device hdevice hinactive hstatus => exact passes_delete_device hdevice hinactive hstatus
  | request_provisioning hdevice hstatus hpending habsent => exact passes_request_provisioning hdevice hstatus hpending habsent
  | approve_provisioning hrequest hstatus => exact passes_approve_provisioning hrequest hstatus

/-- A call that its rules end commits nothing and does not succeed. -/
theorem Call.ends {call : Call Id} (h : call.plan dumps tables = none) : Ends tables (call.operation dumps) := by
  cases call with
  | create_device device_id data created_at updated_at timestamp =>
    cases hdevice : tables.devices.get? device_id with
    | some device =>
      exact .raises (e := .IntegrityError) rfl (by simp only [Tables.execute, hdevice]) (fun _ => rfl)
    | none => simp only [Call.plan, hdevice, reduceCtorEq] at h
  | update_device device_id updates updated_at timestamp =>
    cases hdevice : tables.devices.get? device_id with
    | none =>
      refine .query rfl (by simp only [Tables.execute, hdevice]; rfl) (fun _ => rfl) ?_
      exact .ret fun returned hreturned => by cases hreturned; rfl
    | some device =>
      refine .query rfl (by simp only [Tables.execute, hdevice]; rfl) (fun _ => rfl) ?_
      rcases device with ⟨_, _, status, _⟩
      cases status
      case DECOMMISSIONED => exact .throws _
      all_goals
        have hviolates : updates.violates := by simpa [Call.plan, hdevice] using h
        exact .raises (e := .IntegrityError) rfl (by simp only [Tables.execute, hdevice, hviolates, if_true]) (fun _ => rfl)
  | delete_device device_id updated_at timestamp =>
    cases hdevice : tables.devices.get? device_id with
    | none =>
      refine .query rfl (by simp only [Tables.execute, hdevice]; rfl) (fun _ => rfl) ?_
      exact .ret fun returned hreturned => by cases hreturned; rfl
    | some device =>
      refine .query rfl (by simp only [Tables.execute, hdevice]; rfl) (fun _ => rfl) ?_
      rcases device with ⟨_, _, status, _⟩
      cases status
      case ACTIVE => exact .throws _
      case DECOMMISSIONED => exact .throws _
      all_goals simp [Call.plan, hdevice] at h
  | request_provisioning request_id device_id requested_at timestamp =>
    cases hdevice : tables.devices.get? device_id with
    | none =>
      refine .query rfl (by simp only [Tables.execute, hdevice]; rfl) (fun _ => rfl) ?_
      exact .throws _
    | some device =>
      refine .query rfl (by simp only [Tables.execute, hdevice]; rfl) (fun _ => rfl) ?_
      rcases device with ⟨_, _, status, _⟩
      cases status
      case REGISTERED =>
        rcases hpending : tables.pending device_id with _ | ⟨request, _ | ⟨other, rest⟩⟩
        · refine .query rfl (by simp only [Tables.execute, hpending]; rfl) (fun _ => rfl) ?_
          have hexists : tables.requests.get? request_id ≠ none := by simpa [Call.plan, hdevice, hpending] using h
          obtain ⟨request, hrequest⟩ := Option.ne_none_iff_exists'.1 hexists
          exact .raises (e := .IntegrityError) rfl (by simp only [Tables.execute, hrequest]) (fun _ => rfl)
        · refine .query rfl (by simp only [Tables.execute, hpending]; rfl) (fun _ => rfl) ?_
          exact .throws _
        · refine .query rfl (by simp only [Tables.execute, hpending]; rfl) (fun _ => rfl) ?_
          exact .throws _
      all_goals exact .throws _
  | approve_provisioning request_id approved_by approved_at updated_at timestamp =>
    cases hrequest : tables.requests.get? request_id with
    | none =>
      refine .query rfl (by simp only [Tables.execute, hrequest]; rfl) (fun _ => rfl) ?_
      exact .throws _
    | some prov_request =>
      refine .query rfl (by simp only [Tables.execute, hrequest]; rfl) (fun _ => rfl) ?_
      rcases prov_request with ⟨_, status, _⟩
      cases status
      case PENDING => simp [Call.plan, hrequest] at h
      all_goals exact .throws _

/-- The operations carry out the plans of their calls. -/
theorem World.call_eq_carry_out {world : World Id} {call : Call Id} (h : call.plan dumps world.tables = some plan)
    (fates : ℕ → Fate) : world.call fates (call.operation dumps) = plan.carry_out fates 0 plan.before world :=
  (Call.planned h).passes.run rfl

theorem World.call_eq_self {world : World Id} {call : Call Id} (h : call.plan dumps world.tables = none) (fates : ℕ → Fate) :
    (world.call fates (call.operation dumps)).2 = world ∧
      ∀ returned, (world.call fates (call.operation dumps)).1 = .ok returned → returned.success = false :=
  (Call.ends h).run rfl

theorem Planned.success {call : Call Id} (h : Planned dumps tables call plan) : plan.returned.success = true := by
  cases h with
  | create_device | update_device | delete_device | request_provisioning | approve_provisioning => rfl

end Refinement

end gateway.device_manager.lifecycle
