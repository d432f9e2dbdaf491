import EdgeGateway.DeviceManager.Lifecycle.Calls
import EdgeGateway.Library.Transition

/-! The gauge of the active devices, and the devices that it is to count. -/

namespace gateway.device_manager.lifecycle

variable {Id : Type} [DecidableEq Id]

/-- The device is one of those that the gauge of the type counts. -/
def Device.active (device_type : String) (device : Device) : Bool :=
  decide (device.status = .ACTIVE) && decide (device.device_type = device_type)

/-- The number of devices of the type that are ACTIVE. -/
def Tables.active (tables : Tables Id) (device_type : String) : ℕ := tables.devices.values.countP (Device.active device_type)

/-- The gauge counts the active devices. -/
def World.Counted (world : World Id) : Prop := ∀ device_type, world.gauges device_type = world.tables.active device_type

/-- What is added to the gauge of a type. -/
def Plan.amount (plan : Plan Id) (device_type : String) : ℤ :=
  plan.gauge.elim 0 fun (label, amount) => if device_type = label then amount else 0

omit [DecidableEq Id] in
theorem Plan.completed_gauges (plan : Plan Id) (world : World Id) (device_type : String) :
    (plan.completed world).gauges device_type = world.gauges device_type + plan.amount device_type := by
  rw [Plan.completed, Plan.amount]
  cases plan.gauge with
  | none => exact (Int.add_zero _).symm
  | some gauge =>
    obtain ⟨label, amount⟩ := gauge
    by_cases hlabel : device_type = label
    · subst hlabel
      simp only [Option.elim_some, Function.update_self, if_true]
    · simp only [Option.elim_some, Function.update_of_ne hlabel, if_neg hlabel, Int.add_zero]

/-- What a device adds to the count of a type. -/
def Device.counted (device : Device) (device_type : String) : ℤ := if device.active device_type then 1 else 0

theorem Device.counted_eq_zero {device : Device} (h : device.status ≠ .ACTIVE) (device_type : String) :
    device.counted device_type = 0 := by
  rw [Device.counted, Device.active, decide_eq_false h, Bool.false_and, if_neg Bool.false_ne_true]

theorem Device.counted_of_active {device : Device} (h : device.status = .ACTIVE) (device_type : String) :
    device.counted device_type = if device.device_type = device_type then 1 else 0 := by
  simp only [Device.counted, Device.active, h, decide_true, Bool.true_and, decide_eq_true_iff]

theorem Device.counted_self {device : Device} (h : device.status = .ACTIVE) : device.counted device.device_type = 1 := by
  rw [Device.counted_of_active h, if_pos rfl]

theorem Device.forall_counted_eq_zero_iff {device : Device} :
    (∀ device_type, device.counted device_type = 0) ↔ device.status ≠ .ACTIVE := by
  refine ⟨fun h hactive => ?_, Device.counted_eq_zero⟩
  have hself := Device.counted_self hactive
  rw [h] at hself
  cases hself

/-- Two devices are counted alike if neither is ACTIVE, or both are and have one type. -/
theorem Device.forall_counted_eq_iff {device other : Device} :
    (∀ device_type, device.counted device_type = other.counted device_type) ↔
      if other.status = .ACTIVE then device.status = .ACTIVE ∧ device.device_type = other.device_type
      else device.status ≠ .ACTIVE := by
  by_cases hother : other.status = .ACTIVE
  · rw [if_pos hother]
    constructor
    · intro h
      by_cases hdevice : device.status = .ACTIVE
      · have hself := h device.device_type
        rw [Device.counted_self hdevice, Device.counted_of_active hother] at hself
        split at hself
        · exact ⟨hdevice, Eq.symm ‹_›⟩
        · cases hself
      · have hself := h other.device_type
        rw [Device.counted_eq_zero hdevice, Device.counted_self hother] at hself
        cases hself
    · rintro ⟨hdevice, htype⟩ device_type
      rw [Device.counted_of_active hdevice, Device.counted_of_active hother, htype]
  · rw [if_neg hother, ← Device.forall_counted_eq_zero_iff]
    simp only [Device.counted_eq_zero hother]

/-- Writing a device counts it as it is now, and no longer as it was. -/
theorem Tables.active_set (tables : Tables Id) (requests : Dict Id (ProvisioningRequest Id)) (device_id : Id) (device : Device)
    (device_type : String) :
    (Tables.active { devices := tables.devices.set device_id device, requests } device_type : ℤ) =
      tables.active device_type + (device.counted device_type -
        (tables.devices.get? device_id).elim 0 fun existing => existing.counted device_type) := by
  have hset := congrArg (Nat.cast : ℕ → ℤ)
    (Dict.countP_values_set (Device.active device_type) tables.devices device_id device)
  rw [Tables.active, Tables.active, Device.counted]
  cases hdevice : tables.devices.get? device_id with
  | none =>
    rw [hdevice, Option.toList_none, List.countP_nil, List.countP_singleton] at hset
    push_cast at hset
    rw [Option.elim_none]
    linarith
  | some existing =>
    rw [hdevice, Option.toList_some, List.countP_singleton, List.countP_singleton] at hset
    push_cast at hset
    rw [Option.elim_some, Device.counted]
    linarith

section Updates

variable {updates : Updates} {existing : Device}

/-- The update of a device leaves the gauge as right as it was: an ACTIVE device keeps its type
and is not set ACTIVE again by a call that completes, and one that is not is set ACTIVE by such
a call only. -/
def Updates.KeepsCount (updates : Updates) (existing : Device) (completed : Prop) : Prop :=
  if existing.status = .ACTIVE then
    updates.device_type.join.getD existing.device_type = existing.device_type ∧
      (updates.status.join = none ∨ updates.status.join = some .ACTIVE ∧ ¬ completed)
  else updates.status.join = some .ACTIVE → completed

omit [DecidableEq Id] in
theorem Updates.amount {updated_at : ℤ} {plan : Plan Id}
    (hgauge : plan.gauge = updates.gauge (updates.apply updated_at existing)) (device_type : String) :
    plan.amount device_type =
      if updates.status.join = some .ACTIVE then (updates.apply updated_at existing).counted device_type else 0 := by
  rw [Plan.amount, hgauge, Updates.gauge]
  by_cases hset : updates.status.join = some .ACTIVE
  · have hactive : (updates.apply updated_at existing).status = .ACTIVE := by simp only [Updates.apply, hset, Option.getD_some]
    simp only [if_pos hset, Option.elim_some, Device.counted_of_active hactive, eq_comm]
  · simp only [if_neg hset, Option.elim_none]

omit [DecidableEq Id] in
theorem Updates.keepsCount_iff {updated_at : ℤ} {plan : Plan Id} {completed : Prop} [Decidable completed]
    (hgauge : plan.gauge = updates.gauge (updates.apply updated_at existing)) :
    updates.KeepsCount existing completed ↔ ∀ device_type, (if completed then plan.amount device_type else 0) =
      (updates.apply updated_at existing).counted device_type - existing.counted device_type := by
  simp only [Updates.amount hgauge, Updates.KeepsCount]
  by_cases hcounted : completed ∧ updates.status.join = some .ACTIVE
  · obtain ⟨hcompleted, hset⟩ := hcounted
    have hself : ∀ new old : ℤ, new = new - old ↔ old = 0 := by omega
    simp only [if_pos hcompleted, if_pos hset, hself]
    rw [Device.forall_counted_eq_zero_iff]
    by_cases hactive : existing.status = .ACTIVE
    · simp [hactive, hset, hcompleted]
    · simp [hactive, hcompleted]
  · have hzero : ∀ device_type, (if completed then if updates.status.join = some .ACTIVE then
        (updates.apply updated_at existing).counted device_type else 0 else 0) = 0 := by
      intro device_type
      split
      · exact if_neg fun hset => hcounted ⟨‹_›, hset⟩
      · rfl
    have hsub : ∀ new old : ℤ, 0 = new - old ↔ new = old := by omega
    simp only [hzero, hsub]
    rw [Device.forall_counted_eq_iff]
    by_cases hactive : existing.status = .ACTIVE
    · rw [if_pos hactive, if_pos hactive, and_comm]
      cases hset : updates.status.join with
      | none => simp [Updates.apply, hset, hactive]
      | some status =>
        have hcompleted : status = .ACTIVE → ¬ completed := fun hstatus hcompleted => hcounted ⟨hcompleted, hstatus ▸ hset⟩
        simpa [Updates.apply, hset] using fun _ => hcompleted
    · rw [if_neg hactive, if_neg hactive]
      cases hset : updates.status.join with
      | none => simp [Updates.apply, hset, hactive]
      | some status =>
        have hcompleted : completed → status ≠ .ACTIVE := fun hcompleted hstatus => hcounted ⟨hcompleted, hstatus ▸ hset⟩
        simp only [Updates.apply, hset, Option.getD_some, Option.some.injEq]
        exact ⟨fun h hstatus => hcompleted (h hstatus) hstatus, fun h hstatus => absurd hstatus h⟩

end Updates

section Steps

variable (dumps : JsonValue → String) [ToString Id]

omit [ToString Id] in
/-- The call that commits leaves the gauge as right as it was. An approval does so if the device
is not ACTIVE. -/
def Call.Recounts (tables : Tables Id) (completed : Prop) : Call Id → Prop
  | .update_device device_id updates _ _ =>
    ∀ existing, tables.devices.get? device_id = some existing → updates.KeepsCount existing completed
  | .approve_provisioning request_id _ _ _ _ =>
    ∀ request, tables.requests.get? request_id = some request →
      ∀ device, tables.devices.get? request.device_id = some device → device.status ≠ .ACTIVE
  | _ => True

/-- If the COMMIT of the call takes effect, the call leaves the gauge as right as it was. -/
def KeepsCount (world : World Id) (action : Call Id × (ℕ → Fate)) : Prop :=
  ∀ plan, action.1.plan dumps world.tables = some plan → plan.Committed action.2 →
    action.1.Recounts world.tables (plan.Completed action.2)

variable {dumps}

omit [DecidableEq Id] [ToString Id] in
theorem Plan.amount_eq_zero {plan : Plan Id} (h : plan.gauge = none) (device_type : String) : plan.amount device_type = 0 := by
  rw [Plan.amount, h, Option.elim_none]

theorem Planned.recounts_iff {tables : Tables Id} {plan : Plan Id} {call : Call Id} (h : Planned dumps tables call plan)
    {completed : Prop} [Decidable completed] : call.Recounts tables completed ↔ ∀ device_type,
      (if completed then plan.amount device_type else 0) = plan.tables.active device_type - tables.active device_type := by
  cases h with
  | create_device habsent =>
    refine iff_of_true trivial fun device_type => ?_
    simp only [Plan.create_device]
    rw [Tables.active_set, habsent, Option.elim_none, Device.counted_eq_zero]
    · simp [Plan.amount]
    · rintro ⟨⟩
  | @update_device device_id updates updated_at timestamp existing hdevice hstatus hviolates =>
    have hgauge : (Plan.update_device dumps tables device_id updates updated_at timestamp existing).gauge =
        updates.gauge (updates.apply updated_at existing) := rfl
    simp only [Call.Recounts, hdevice, Option.some.injEq, forall_eq']
    rw [Updates.keepsCount_iff hgauge]
    refine forall_congr' fun device_type => ?_
    have hset := tables.active_set tables.requests device_id (updates.apply updated_at existing) device_type
    rw [hdevice, Option.elim_some] at hset
    rw [Plan.update_device, hset, add_sub_cancel_left]
  | delete_device hdevice hinactive hstatus =>
    refine iff_of_true trivial fun device_type => ?_
    rw [Plan.amount_eq_zero rfl, ite_self]
    simp only [Plan.delete_device]
    rw [Tables.active_set, hdevice, Option.elim_some, Device.counted_eq_zero hinactive, Device.counted_eq_zero]
    · omega
    · rintro ⟨⟩
  | request_provisioning hdevice hstatus hpending habsent =>
    refine iff_of_true trivial fun device_type => ?_
    rw [Plan.amount_eq_zero rfl, ite_self]
    exact (Int.sub_self _).symm
  | @approve_provisioning request_id approved_by approved_at updated_at timestamp prov_request hrequest hstatus =>
    simp only [Call.Recounts, hrequest, Option.some.injEq, forall_eq', Plan.approve_provisioning]
    cases hunprovisioned : tables.unprovisioned prov_request.device_id with
    | none =>
      refine iff_of_true (fun device hdevice => ?_) fun device_type => ?_
      · rcases unprovisioned_eq_none hunprovisioned with hnone | ⟨provisioned, hprovisioned, hstatus⟩
        · rw [hnone] at hdevice
          cases hdevice
        · rw [hprovisioned, Option.some.injEq] at hdevice
          rw [← hdevice, hstatus]
          rintro ⟨⟩
      · rw [Plan.amount_eq_zero rfl, ite_self]
        exact (Int.sub_self _).symm
    | some device =>
      obtain ⟨hdevice, -⟩ := unprovisioned_eq_some hunprovisioned
      simp only [hdevice, Option.some.injEq, forall_eq', ← Device.forall_counted_eq_zero_iff]
      refine forall_congr' fun device_type => ?_
      have hprovisioned : (Updates.apply { status := some (some .PROVISIONED) } updated_at device).counted device_type = 0 :=
        Device.counted_eq_zero (by simp [Updates.apply]) device_type
      rw [Plan.amount_eq_zero rfl, ite_self, Tables.active_set, hdevice, Option.elim_some, hprovisioned]
      omega

/-- The calls one after the other, from a gauge that is right. -/
def operations (dumps : JsonValue → String) : TransitionSystem (World Id) (Call Id × (ℕ → Fate)) where
  initial := World.Counted
  step world action := some (world.call action.2 (action.1.operation dumps)).2

omit [DecidableEq Id] [ToString Id] in
theorem World.Counted.iff {world : World Id} (h : world.Counted) (after : World Id) {amount : String → ℤ}
    (hgauges : ∀ device_type, after.gauges device_type = world.gauges device_type + amount device_type) :
    after.Counted ↔
      ∀ device_type, amount device_type = after.tables.active device_type - world.tables.active device_type := by
  refine forall_congr' fun device_type => ?_
  rw [hgauges, h device_type]
  omega

/-- The operation returns a device, a request or True. -/
def Succeeds (dumps : JsonValue → String) (world : World Id) (action : Call Id × (ℕ → Fate)) : Prop :=
  ∃ returned, (world.call action.2 (action.1.operation dumps)).1 = .ok returned ∧ returned.success = true

theorem counted_call_iff {world : World Id} (h : world.Counted) (call : Call Id) (fates : ℕ → Fate) :
    KeepsCount dumps world (call, fates) ↔ (world.call fates (call.operation dumps)).2.Counted := by
  cases hplan : call.plan dumps world.tables with
  | none =>
    rw [(World.call_eq_self hplan fates).1]
    refine iff_of_true (fun plan hsome => ?_) h
    rw [hplan] at hsome
    cases hsome
  | some plan =>
    rw [World.call_eq_carry_out hplan]
    simp only [KeepsCount, hplan, Option.some.injEq, forall_eq']
    by_cases hcommitted : plan.Committed fates
    · simp only [hcommitted, forall_const]
      rw [(Call.planned hplan).recounts_iff]
      by_cases hcompleted : plan.Completed fates
      · rw [Plan.carry_out_completed hcommitted hcompleted, h.iff _ (plan.completed_gauges world)]
        simp only [hcompleted, if_true]
        exact Iff.rfl
      · obtain ⟨events, hcarry⟩ := Plan.carry_out_interrupted hcommitted hcompleted world
        rw [hcarry]
        simp only [hcompleted, if_false]
        exact (h.iff { world with tables := plan.tables, events } fun _ => (Int.add_zero _).symm).symm
    · rw [Plan.carry_out_not_committed hcommitted]
      exact iff_of_true (fun hpos => absurd hpos hcommitted) h

/-- The gauge stays right in a run exactly if every call of it leaves the gauge right. -/
theorem active_gauge_iff {trace : List (TransitionSystem.Transition (World Id) (Call Id × (ℕ → Fate)))} {world : World Id}
    (hrun : (operations dumps).Run trace world) :
    (∀ t ∈ trace, KeepsCount dumps t.source t.action) ↔ ∀ t ∈ trace, t.target.Counted := by
  have hinitial : ∀ world : World Id, (operations dumps).initial world → world.Counted := fun _ hcounted => hcounted
  refine hrun.all_ok_iff_all_good hinitial ?_
  rintro world ⟨call, fates⟩ world' _ hcounted hstep
  cases hstep
  exact counted_call_iff hcounted call fates

end Steps

section Samples

def no_devices : World String := { tables := { devices := .empty, requests := .empty }, events := [], gauges := 0 }

def sample_dumps : JsonValue → String
  | .dict [("status", .str status)] => "\x7b\"status\": \"" ++ status ++ "\"\x7d"
  | _ => "\x7b\"name\": \"Sensor\", \"device_type\": \"sensor\"\x7d"

def sample_create : Call String :=
  .create_device "d" { name := "Sensor", device_type := "sensor", firmware_version := "1.0.0", metadata_ := .dict [] } 0 0
    "1970-01-01T00:00:00+00:00"

def sample_update (status : DeviceStatusEnum) : Call String :=
  .update_device "d" { status := some (some status) } 1 "1970-01-01T00:00:01+00:00"

theorem no_devices_counted : (operations sample_dumps).initial no_devices := fun _ => rfl

/-- A device is created and set ACTIVE. -/
theorem active_gauge_activated : ∃ (trace : List (TransitionSystem.Transition (World String) _)) (world : World String),
    (operations sample_dumps).Run trace world ∧ trace ≠ [] ∧
      ((∀ t ∈ trace, KeepsCount sample_dumps t.source t.action) ↔ ∀ t ∈ trace, t.target.Counted) := by
  have hrun := ((TransitionSystem.Run.initial no_devices_counted).step
    (a := (sample_create, fun _ => .done)) rfl).step (a := (sample_update .ACTIVE, fun _ => .done)) rfl
  exact ⟨_, _, hrun, List.cons_ne_nil _ _, active_gauge_iff hrun⟩

/-- A device is created, set ACTIVE, and set INACTIVE. -/
theorem inactive_still_counted : ¬ ∀ (trace : List (TransitionSystem.Transition (World String) (Call String × (ℕ → Fate))))
    (world : World String), (operations sample_dumps).Run trace world → ∀ t ∈ trace,
      Succeeds sample_dumps t.source t.action → t.target.Counted := by
  intro h
  have hrun := (((TransitionSystem.Run.initial no_devices_counted).step
    (a := (sample_create, fun _ => .done)) rfl).step (a := (sample_update .ACTIVE, fun _ => .done)) rfl).step
    (a := (sample_update .INACTIVE, fun _ => .done)) rfl
  have hcounted := h _ _ hrun _ List.mem_cons_self ⟨_, rfl, rfl⟩ "sensor"
  exact absurd hcounted (by decide)

end Samples

end gateway.device_manager.lifecycle
