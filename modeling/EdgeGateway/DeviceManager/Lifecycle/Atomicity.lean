import EdgeGateway.DeviceManager.Lifecycle.Calls

/-! What an operation leaves behind when one of its own calls to the database or to Redis
fails. -/

namespace gateway.device_manager.lifecycle

variable {Id : Type} [DecidableEq Id] (dumps : JsonValue → String) [ToString Id]

omit [DecidableEq Id] in
/-- The fields by which the event of a call that has returned is known. -/
def Call.announcement (returned : Returned Id) : Call Id → List (String × String)
  | .create_device device_id _ _ _ _ => [("event_type", "device_created"), ("device_id", toString device_id)]
  | .update_device device_id _ _ _ => [("event_type", "device_updated"), ("device_id", toString device_id)]
  | .delete_device device_id _ _ => [("event_type", "device_decommissioned"), ("device_id", toString device_id)]
  | .request_provisioning request_id device_id _ _ =>
    [("event_type", "provisioning_requested"), ("device_id", toString device_id), ("request_id", toString request_id)]
  | .approve_provisioning request_id _ _ _ _ =>
    [("event_type", "provisioning_approved"), ("request_id", toString request_id)] ++
      match returned with
      | .request request => [("device_id", toString request.device_id)]
      | _ => []

omit [DecidableEq Id] in
/-- A call that raises leaves the tables unchanged, and one that succeeds appends one event,
which is its own. -/
def Call.Atomic (call : Call Id) (world : World Id) : Except Raised (Returned Id) × World Id → Prop
  | (.error _, after) => after.tables = world.tables
  | (.ok returned, after) => returned.success = true →
    ∃ event, call.announcement returned ⊆ event ∧ after.events = world.events ++ [event]

/-- The COMMIT of the call takes effect, and from the COMMIT on a call of it fails. -/
def Call.Interrupted (call : Call Id) (tables : Tables Id) (fates : ℕ → Fate) : Prop :=
  ∃ plan, call.plan dumps tables = some plan ∧ plan.Committed fates ∧ ¬ plan.Completed fates

/-- The call is an update that writes the row as it is. -/
def Call.Idle (tables : Tables Id) : Call Id → Prop
  | .update_device device_id updates updated_at _ =>
    (tables.devices.get? device_id).map (updates.apply updated_at) = tables.devices.get? device_id
  | _ => False

variable {dumps}

theorem Planned.tables_eq_iff {call : Call Id} {tables : Tables Id} {plan : Plan Id}
    (h : Planned dumps tables call plan) : plan.tables = tables ↔ call.Idle tables := by
  cases h with
  | create_device habsent =>
    refine ⟨fun heq => ?_, False.elim⟩
    have hset := Dict.set_eq_self_iff.1 (congrArg Tables.devices heq)
    rw [habsent] at hset
    cases hset
  | @update_device device_id updates updated_at timestamp existing hdevice hstatus hviolates =>
    have hset : (Plan.update_device dumps tables device_id updates updated_at timestamp existing).tables = tables ↔
        tables.devices.set device_id (updates.apply updated_at existing) = tables.devices :=
      ⟨congrArg Tables.devices, fun heq => by rw [Plan.update_device, heq]⟩
    rw [hset, Dict.set_eq_self_iff, Call.Idle, hdevice, Option.map_some, eq_comm]
  | delete_device hdevice hinactive hstatus =>
    refine ⟨fun heq => ?_, False.elim⟩
    have hset := Dict.set_eq_self_iff.1 (congrArg Tables.devices heq)
    rw [hdevice, Option.some.injEq] at hset
    exact absurd (congrArg Device.status hset) hstatus
  | request_provisioning hdevice hstatus hpending habsent =>
    refine ⟨fun heq => ?_, False.elim⟩
    have hset := Dict.set_eq_self_iff.1 (congrArg Tables.requests heq)
    rw [habsent] at hset
    cases hset
  | approve_provisioning hrequest hstatus =>
    refine ⟨fun heq => ?_, False.elim⟩
    have hset := Dict.set_eq_self_iff.1 (congrArg Tables.requests heq)
    rw [hrequest, Option.some.injEq] at hset
    have happroved := congrArg ProvisioningRequest.status hset
    rw [hstatus] at happroved
    cases happroved

theorem Planned.announcement_subset {call : Call Id} {tables : Tables Id} {plan : Plan Id}
    (h : Planned dumps tables call plan) : call.announcement plan.returned ⊆ plan.event := by
  cases h with
  | create_device => simp [Call.announcement, Plan.create_device, device_service.device_event]
  | update_device => simp [Call.announcement, Plan.update_device, device_service.device_event]
  | delete_device => simp [Call.announcement, Plan.delete_device, device_service.device_event]
  | request_provisioning => simp [Call.announcement, Plan.request_provisioning, provision_service.requested_event]
  | approve_provisioning => simp [Call.announcement, Plan.approve_provisioning, provision_service.approved_event]

theorem Call.interrupted_iff {call : Call Id} {tables : Tables Id} {plan : Plan Id} (h : call.plan dumps tables = some plan)
    {fates : ℕ → Fate} : call.Interrupted dumps tables fates ↔ plan.Committed fates ∧ ¬ plan.Completed fates := by
  simp only [Call.Interrupted, h, Option.some.injEq, exists_eq_left']

/-- A call is atomic unless a call of it fails once its COMMIT has taken effect. -/
theorem call_atomic_iff (world : World Id) (call : Call Id) (fates : ℕ → Fate) :
    call.Atomic world (world.call fates (call.operation dumps)) ↔
      (call.Interrupted dumps world.tables fates → call.Idle world.tables) := by
  cases hplan : call.plan dumps world.tables with
  | none =>
    obtain ⟨hworld, hfailed⟩ := World.call_eq_self hplan fates
    have hinterrupted : ¬ call.Interrupted dumps world.tables fates := by
      rintro ⟨plan, hsome, -⟩
      rw [hplan] at hsome
      cases hsome
    rw [iff_true_right fun h => absurd h hinterrupted]
    rcases hcall : world.call fates (call.operation dumps) with ⟨e | returned, after⟩
    · rw [hcall] at hworld
      exact congrArg World.tables hworld
    · intro hsuccess
      rw [hfailed returned (congrArg Prod.fst hcall)] at hsuccess
      cases hsuccess
  | some plan =>
    have hplanned := Call.planned hplan
    rw [World.call_eq_carry_out hplan, Call.interrupted_iff hplan, ← hplanned.tables_eq_iff]
    by_cases hcommitted : plan.Committed fates
    · by_cases hcompleted : plan.Completed fates
      · rw [Plan.carry_out_completed hcommitted hcompleted, iff_true_right fun h => absurd hcompleted h.2]
        exact fun _ => ⟨plan.event, hplanned.announcement_subset, rfl⟩
      · obtain ⟨events, hcarry⟩ := Plan.carry_out_interrupted hcommitted hcompleted world
        rw [hcarry]
        exact ⟨fun htables _ => htables, fun h => h ⟨hcommitted, hcompleted⟩⟩
    · rw [Plan.carry_out_not_committed hcommitted, iff_true_right fun h => absurd h.1 hcommitted]
      exact rfl

/-- A device is created, and the XADD is refused. -/
theorem created_unannounced : ¬ ∀ (dumps : JsonValue → String) (world : World String) (call : Call String) (fates : ℕ → Fate),
    call.Atomic world (world.call fates (call.operation dumps)) := by
  intro h
  let world : World String := { tables := { devices := .empty, requests := .empty }, events := [], gauges := 0 }
  let data : DeviceData := { name := "Sensor", device_type := "sensor", firmware_version := "1.0.0", metadata_ := .dict [] }
  have hatomic := h (fun _ => "{}") world (.create_device "d" data 0 0 "1970-01-01T00:00:00+00:00")
    fun i => if i = 3 then .refused else .done
  have hdevice := congrArg (fun tables : Tables String => (tables.devices.get? "d").isSome) hatomic
  exact absurd hdevice (by decide)

end gateway.device_manager.lifecycle
