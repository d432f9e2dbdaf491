import EdgeGateway.DeviceManager.StatusGuard

namespace gateway.device_manager

variable {Id : Type}

/-- The next statement of the operation gives the device another status than DECOMMISSIONED. -/
def Overwrites (device_id : Id) : Operation Id Unit → Prop
  | .perform (.update_device id updates) _ =>
    id = device_id ∧ ∃ status, updates.status = some (some status) ∧ status ≠ .DECOMMISSIONED
  | _ => False

theorem overwrites_iff {device_id : Id} {p : Operation Id Unit} :
    Overwrites device_id p ↔ Writes (· ≠ .DECOMMISSIONED) device_id p := by
  cases p with
  | ret a => exact Iff.rfl
  | perform statement next => cases statement <;> exact Iff.rfl

variable [DecidableEq Id] [ToString Id]

/-- No approval finds its device decommissioned, and a device is not decommissioned while
another operation is about to overwrite the status that it has read. -/
def KeepsDecommissioned (s : State Id) : Action Id → Prop
  | .perform t _ =>
    match s.threads t with
    | some (.perform (.select_device device_id) next) =>
      s.shared.devices.committed device_id = some .DECOMMISSIONED →
        ¬ Overwrites device_id (next (some .DECOMMISSIONED))
    | some (.perform .commit _) =>
      ∀ device_id, s.shared.devices.written device_id = some (t, .DECOMMISSIONED) →
        ∀ u p, s.threads u = some p → ¬ Overwrites device_id p
    | _ => True
  | _ => True

variable {s s' : State Id}

omit [ToString Id] in
theorem respects_of_keeps {a : Action Id} (h : KeepsDecommissioned s a) :
    Respects .DECOMMISSIONED (· ≠ .DECOMMISSIONED) s a := by
  cases a with
  | start t call => trivial
  | abort t => trivial
  | perform t choice =>
    simp only [KeepsDecommissioned, overwrites_iff] at h
    exact h

/-- A decommissioned device stays decommissioned in every run in which no approval finds
its device decommissioned, and no device is decommissioned while another operation is
about to overwrite the status that it has read. -/
theorem decommissioned_is_terminal {device_id : Id} (h : system.ReachableWhere KeepsDecommissioned s)
    (hsteps : system.StepsWhere KeepsDecommissioned s s')
    (hcommitted : s.shared.devices.committed device_id = some .DECOMMISSIONED) :
    s'.shared.devices.committed device_id = some .DECOMMISSIONED := by
  refine hsteps.keeps (P := fun s => s.shared.devices.committed device_id = some .DECOMMISSIONED) ?_ h hcommitted
  intro s a s' hreach hok hstep hcommitted
  obtain ⟨status, hstatus, hkept⟩ := respects_step .DECOMMISSIONED (· ≠ .DECOMMISSIONED) (fun hne => hne rfl)
    (hreach.mono fun s a _ => respects_of_keeps) (respects_of_keeps hok) hstep hcommitted
  rw [hstatus, not_not.mp hkept]

/-- A database with one decommissioned device. -/
def one_decommissioned : State ℕ where
  shared := { devices := Dict.empty.set 7 { committed := some .DECOMMISSIONED }, requests := .empty }
  threads _ := none

def no_devices : State ℕ where
  shared := { devices := .empty, requests := .empty }
  threads _ := none

theorem one_decommissioned_initial : system.initial one_decommissioned := by
  refine ⟨fun device_id => ?_, fun _ => rfl⟩
  simp only [one_decommissioned, Table.written, Dict.get?_set]
  split <;> rfl

theorem no_devices_initial : system.initial no_devices := ⟨fun _ => rfl, fun _ => rfl⟩

/-- The statement is not a COMMIT, and ends the operation if it finds its device
decommissioned. -/
def harmless_statement : Operation ℕ Unit → Bool
  | .perform (.select_device _) next =>
    match next (some .DECOMMISSIONED) with
    | .ret _ => true
    | .perform _ _ => false
  | .perform .commit _ => false
  | _ => true

def harmless (s : State ℕ) : Action ℕ → Bool
  | .perform t _ => (s.threads t).all harmless_statement
  | _ => true

theorem keepsDecommissioned_of_harmless (s : State ℕ) (a : Action ℕ) (h : harmless s a = true) :
    KeepsDecommissioned s a := by
  cases a with
  | start t call => trivial
  | abort t => trivial
  | perform t choice =>
    simp only [harmless] at h
    simp only [KeepsDecommissioned]
    cases hthread : s.threads t with
    | none => trivial
    | some p =>
      rw [hthread, Option.all_some] at h
      cases p with
      | ret a => trivial
      | perform statement next =>
        cases statement with
        | select_device device_id =>
          intro _ hoverwrites
          simp only [harmless_statement] at h
          split at h
          · rename_i hret
            rw [hret] at hoverwrites
            cases hoverwrites
          · cases h
        | commit => cases h
        | _ => trivial

/-- An update of a decommissioned device, and another one that a cancellation ends. -/
theorem decommissioned_is_terminal_update :
    ∃ s s' : State ℕ, system.StepsWhere KeepsDecommissioned s s' ∧ s'.shared.devices.committed 7 = some .DECOMMISSIONED := by
  have hreplay : ((system.replay harmless one_decommissioned [.start 0 (.update_device 7 { status := some (some .ACTIVE) })]).bind
      fun mid => (system.replay harmless mid [.start 1 (.delete_device 7), .perform 0 (), .abort 1]).map
        fun _ => decide (mid.shared.devices.committed 7 = some .DECOMMISSIONED)) = some true := by decide +kernel
  obtain ⟨s, s', hreach, hsteps, hcommitted⟩ := TransitionSystem.exists_steps_of_replay KeepsDecommissioned harmless
    keepsDecommissioned_of_harmless one_decommissioned_initial _ _ (fun mid _ => _) hreplay
  exact ⟨s, s', hsteps, decommissioned_is_terminal hreach hsteps (of_decide_eq_true hcommitted)⟩

/-- A request that was opened before its device was decommissioned is approved. -/
def late_approval : List (Action ℕ) :=
  [.start 0 (.approve_provisioning 1), .perform 0 (), .perform 0 (), .perform 0 (), .perform 0 (), .perform 0 ()]

def decommissioning : List (Action ℕ) :=
  [.start 0 (.create_device 7), .perform 0 (), .perform 0 (), .perform 0 (),
    .start 0 (.request_provisioning 1 7), .perform 0 (), .perform 0 (), .perform 0 (), .perform 0 (), .perform 0 (),
    .start 0 (.delete_device 7), .perform 0 (), .perform 0 (), .perform 0 ()]

theorem decommissioned_device_provisioned :
    ¬ ∀ (s s' : State ℕ) (device_id : ℕ), system.Reachable s → system.StepsWhere (fun _ _ => True) s s' →
      s.shared.devices.committed device_id = some .DECOMMISSIONED →
        s'.shared.devices.committed device_id = some .DECOMMISSIONED := by
  intro hclaim
  have hreplay : ((system.replay (fun _ _ => true) no_devices decommissioning).bind fun mid =>
      (system.replay (fun _ _ => true) mid late_approval).map fun s' =>
        decide (mid.shared.devices.committed 7 = some .DECOMMISSIONED) &&
          decide (s'.shared.devices.committed 7 = some .PROVISIONED)) = some true := by decide +kernel
  obtain ⟨s, s', hreach, hsteps, htest⟩ := TransitionSystem.exists_steps_of_replay (fun _ _ => True) (fun _ _ => true)
    (fun _ _ _ => trivial) no_devices_initial _ _ (fun mid s' => _) hreplay
  obtain ⟨hbefore, hafter⟩ := Bool.and_eq_true_iff.mp htest
  have hkept := hclaim s s' 7 hreach hsteps (of_decide_eq_true hbefore)
  rw [of_decide_eq_true hafter] at hkept
  cases hkept

end gateway.device_manager

namespace gateway.device_manager

variable {Id : Type} [DecidableEq Id] [ToString Id] {s s' : State Id}

/-- No single operation decommissions an active device in a run in which no operation that
finds its device active goes on to decommission it, and no device is activated while another
operation is about to decommission it. -/
theorem active_not_decommissioned {a : Action Id} {device_id : Id}
    (h : system.ReachableWhere (Respects .ACTIVE (· = .DECOMMISSIONED)) s)
    (hok : Respects .ACTIVE (· = .DECOMMISSIONED) s a) (hstep : system.step s a = some s')
    (hactive : s.shared.devices.committed device_id = some .ACTIVE) :
    s'.shared.devices.committed device_id ≠ some .DECOMMISSIONED := by
  have hheld : ¬ DeviceStatusEnum.ACTIVE = .DECOMMISSIONED := by decide
  obtain ⟨status, hstatus, hne⟩ := respects_step .ACTIVE (· = .DECOMMISSIONED) hheld h hok hstep hactive
  rw [hstatus]
  exact fun heq => hne (Option.some.inj heq)

/-- A database with one active device. -/
def one_active : State ℕ where
  shared := { devices := Dict.empty.set 7 { committed := some .ACTIVE }, requests := .empty }
  threads _ := none

theorem one_active_initial : system.initial one_active := by
  refine ⟨fun device_id => ?_, fun _ => rfl⟩
  simp only [one_active, Table.written, Dict.get?_set]
  split <;> rfl

/-- The DELETE of an active device begins. -/
def deleting : State ℕ :=
  { one_active with threads := Function.update one_active.threads 0 (some (Call.delete_device 7).operation) }

theorem active_not_decommissioned_delete :
    ∃ s' : State ℕ, system.step deleting (.perform 0 ()) = some s' ∧
      s'.shared.devices.committed 7 ≠ some .DECOMMISSIONED := by
  have hok : Respects .ACTIVE (· = .DECOMMISSIONED) one_active (.start 0 (.delete_device 7)) := trivial
  have hreach : system.ReachableWhere (Respects .ACTIVE (· = .DECOMMISSIONED)) deleting :=
    .step (.initial one_active_initial) hok rfl
  have hread : Respects .ACTIVE (· = .DECOMMISSIONED) deleting (.perform 0 ()) := fun _ => id
  exact ⟨_, rfl, active_not_decommissioned hreach hread rfl rfl⟩

/-- A device is created, activated and decommissioned by an update. -/
def direct_update : List (Action ℕ) :=
  [.start 0 (.create_device 7), .perform 0 (), .perform 0 (), .perform 0 (),
    .start 0 (.update_device 7 { status := some (some .ACTIVE) }), .perform 0 (), .perform 0 (), .perform 0 (), .perform 0 (),
    .start 0 (.update_device 7 { status := some (some .DECOMMISSIONED) }), .perform 0 (), .perform 0 ()]

theorem active_device_decommissioned :
    ¬ ∀ (s s' : State ℕ) (a : Action ℕ) (device_id : ℕ), system.Reachable s → system.step s a = some s' →
      s.shared.devices.committed device_id = some .ACTIVE → s'.shared.devices.committed device_id ≠ some .DECOMMISSIONED := by
  intro hclaim
  have hreplay : ((system.replay (fun _ _ => true) no_devices direct_update).bind fun mid =>
      (system.replay (fun _ _ => true) mid [.perform 0 ()]).map fun s' =>
        decide (mid.shared.devices.committed 7 = some .ACTIVE) &&
          decide (s'.shared.devices.committed 7 = some .DECOMMISSIONED)) = some true := by decide +kernel
  obtain ⟨mid, hmid, hlater⟩ := Option.bind_eq_some_iff.mp hreplay
  obtain ⟨s', hstep, htest⟩ := Option.map_eq_some_iff.mp hlater
  obtain ⟨hactive, hdecommissioned⟩ := Bool.and_eq_true_iff.mp htest
  have hreach : system.Reachable mid := TransitionSystem.replay_reachable (fun _ _ _ => trivial) (.initial no_devices_initial) hmid
  obtain ⟨next, hnext, heq⟩ := Option.bind_eq_some_iff.mp hstep
  cases heq
  exact hclaim mid s' (.perform 0 ()) 7 hreach hnext (of_decide_eq_true hactive) (of_decide_eq_true hdecommissioned)

end gateway.device_manager
