import EdgeGateway.DeviceManager.Lifecycle.Flights
import EdgeGateway.Library.Uuid

/-! That provisioning is single-flight and approved once while the checks of its operations do
not overlap. -/

namespace gateway.device_manager.lifecycle

variable {Id : Type} [DecidableEq Id] [ToString Id]

/-- The call of the thread is to write, or has written, a pending request for the device. -/
def Requests (s : State Id) (t : ℕ) (device_id : Id) : Prop :=
  (∃ request_id request next, s.threads t = some (.perform (.insert_request request_id request) next) ∧
      request.device_id = device_id) ∨
    ∃ request_id request, s.shared.requests.written request_id = some (t, request) ∧ request.device_id = device_id ∧
      request.status = .PENDING

omit [DecidableEq Id] [ToString Id] in
/-- The next statement of the call approves the request. -/
def Approval (request_id : Id) (p : Operation Id (ProvisioningRequest Id)) : Prop :=
  ∃ status approved_at approved_by next, p = .perform (.update_request request_id status approved_at approved_by) next

/-- The call of the thread is to approve the request, or has done so and not committed it. -/
def Approves (s : State Id) (t : ℕ) (request_id : Id) : Prop :=
  (∃ p, s.threads t = some p ∧ Approval request_id p) ∨
    ∃ request, s.shared.requests.written request_id = some (t, request) ∧ request.status = .APPROVED

/-- A call that finds no pending request for the device is the only one to write one, and a call
that goes on to approve a request is the only one to approve it. -/
def Serial (s : State Id) : Action Id → Prop
  | .perform t .done =>
    (∀ device_id next, s.threads t = some (.perform (.select_pending device_id) next) →
      s.shared.pending t device_id = [] → ∀ u, u ≠ t → ¬ Requests s u device_id) ∧
    ∀ request_id next request, s.threads t = some (.perform (.select_request request_id) next) →
      s.shared.requests.select t request_id = some request → Approval request_id (next (.ok (some request))) →
        ∀ u, u ≠ t → ¬ Approves s u request_id
  | _ => True

omit [ToString Id] in
/-- A call that runs alone is serial. -/
theorem serial_of_alone {s : State Id} {t : ℕ} (hthreads : ∀ u, u ≠ t → s.threads u = none)
    (hwritten : ∀ request_id, s.shared.requests.written request_id = none) : Serial s (.perform t .done) := by
  constructor
  · rintro device_id next - - u hu (⟨request_id, request, next, hthread, -⟩ | ⟨request_id, request, hrequest, -⟩)
    · rw [hthreads u hu] at hthread
      cases hthread
    · rw [hwritten] at hrequest
      cases hrequest
  · rintro request_id next request - - - u hu (⟨p, hthread, -⟩ | ⟨request, hrequest, -⟩)
    · rw [hthreads u hu] at hthread
      cases hthread
    · rw [hwritten] at hrequest
      cases hrequest

section Links

variable {s : State Id} {stages : ℕ → Option (Stage Id)} {t : ℕ} {a : Action Id}

theorem Follows.requests (hf : Follows s stages) (ho : Owned s.shared stages) {device_id : Id}
    (h : (stages t).bind Stage.claims = some device_id) : Requests s t device_id := by
  obtain ⟨stage, hstage, hclaims⟩ := Option.bind_eq_some_iff.mp h
  cases stage with
  | requesting request_id device requested_at timestamp step =>
    cases step <;> cases hclaims
    · obtain ⟨p, hthread, hat⟩ := hf.running hstage
      cases hat
      exact .inl ⟨_, _, _, hthread, rfl⟩
    · obtain ⟨request, hwritten⟩ := ho.locked hstage rfl
      obtain ⟨stage, hstage', -, ⟨hclaims, hstatus, -⟩ | ⟨hclaims, -⟩⟩ := ho.written hwritten
      · cases hstage.symm.trans hstage'
        exact .inr ⟨_, request, hwritten, (Option.some.inj hclaims).symm, hstatus⟩
      · cases hstage.symm.trans hstage'
        cases hclaims
  | approving request_id approved_by approved_at updated_at timestamp step => cases hclaims

theorem Follows.approves (hf : Follows s stages) (ho : Owned s.shared stages) {request_id : Id}
    (h : (stages t).bind Stage.works = some (request_id, .PENDING)) : Approves s t request_id := by
  have hlocked : ∀ {stage : Stage Id}, stages t = some stage → stage.locks = some request_id → stage.claims = none →
      Approves s t request_id := by
    intro stage hstage hlocks hnone
    obtain ⟨request, hwritten⟩ := ho.locked hstage hlocks
    obtain ⟨stage', hstage', -, ⟨hclaims, -⟩ | ⟨-, hstatus⟩⟩ := ho.written hwritten
    · cases hstage.symm.trans hstage'
      cases hnone.symm.trans hclaims
    · exact .inr ⟨request, hwritten, hstatus⟩
  obtain ⟨stage, hstage, hworks⟩ := Option.bind_eq_some_iff.mp h
  cases stage with
  | requesting request_id device requested_at timestamp step => cases hworks
  | approving request_id approved_by approved_at updated_at timestamp step =>
    cases step <;> cases hworks
    · obtain ⟨p, hthread, hat⟩ := hf.running hstage
      cases hat
      exact .inl ⟨_, hthread, _, _, _, _, rfl⟩
    · exact hlocked hstage rfl rfl
    · exact hlocked hstage rfl rfl
    · exact hlocked hstage rfl rfl

theorem Follows.serialized (hf : Follows s stages) (ho : Owned s.shared stages) (h : Serial s a) :
    Serialized s.shared stages a := by
  constructor
  · rintro t request_id device_id requested_at timestamp rfl hstage hnone u hu hclaims
    obtain ⟨p, hthread, hat⟩ := hf.running hstage
    cases hat
    exact h.1 _ _ hthread hnone u hu (hf.requests ho hclaims)
  · rintro t request_id approved_by approved_at updated_at timestamp request rfl hstage hselect hpending u hu hworks
    obtain ⟨p, hthread, hat⟩ := hf.running hstage
    cases hat with
    | @intro _ rest herror hnext hlast =>
      have hlater := hnext (some request)
        (.approving request_id approved_by approved_at updated_at timestamp (.updating request.device_id)) (if_pos hpending)
      have hupdates : Approval request_id (rest (.ok (some request))) := by
        generalize rest (.ok (some request)) = p at hlater
        cases hlater
        exact ⟨_, _, _, _, rfl⟩
      exact h.2 _ _ request hthread hselect hupdates u hu (hf.approves ho hworks)

end Links

/-- The step approves the request. -/
def approving (request_id : Id) (step : TransitionSystem.Transition (State Id) (Action Id)) : Bool :=
  decide (step.source.shared.status request_id = some .PENDING) &&
    decide (step.target.shared.status request_id = some .APPROVED)

section Runs

variable {trace : List (TransitionSystem.Transition (State Id) (Action Id))} {s : State Id}

theorem Database.Settled.follows (h : system.initial s) :
    Follows s (fun _ => none) ∧ Owned s.shared fun _ => (none : Option (Stage Id)) := by
  obtain ⟨hsettled, hthreads⟩ := h
  refine ⟨⟨fun {t} _ => hthreads t, nofun⟩, ⟨nofun, fun {request_id t request} hwritten => ?_⟩⟩
  rw [hsettled.requests] at hwritten
  cases hwritten

/-- In a run the stages of the calls are known, and what they own. -/
theorem exists_stages (hreach : system.Reachable s) : ∃ stages, Follows s stages ∧ Owned s.shared stages := by
  refine hreach.invariant (P := fun s => ∃ stages, Follows s stages ∧ Owned s.shared stages)
    (fun s hinit => ⟨_, Database.Settled.follows hinit⟩) ?_
  rintro s a s' ⟨stages, hf, ho⟩ - hstep
  change threads.step s a = some s' at hstep
  obtain ⟨stages', hf', hmoves⟩ := hf.step hstep
  exact ⟨stages', hf', hmoves.owned ho⟩

/-- In a run of serial steps the calls keep what they share. -/
theorem exists_flights (hid : Function.Injective (toString : Id → String)) (hrun : system.Run trace s) :
    ∃ stages, Follows s stages ∧ Owned s.shared stages ∧
      ((∀ step ∈ trace, Serial step.source step.action) → OneRequest s.shared stages ∧ OneApproval s.shared stages) := by
  induction hrun with
  | @initial s hinit =>
    obtain ⟨hf, ho⟩ := Database.Settled.follows hinit
    exact ⟨_, hf, ho, fun _ => ⟨⟨hinit.1.one_pending, nofun, nofun⟩, ⟨nofun, nofun, hinit.1.approved_once, hinit.1.approved _⟩⟩⟩
  | @step trace s s' a hrun hstep ih =>
    obtain ⟨stages, hf, ho, hserial⟩ := ih
    change threads.step s a = some s' at hstep
    obtain ⟨stages', hf', hmoves⟩ := hf.step hstep
    refine ⟨stages', hf', hmoves.owned ho, fun hall => ?_⟩
    obtain ⟨hlast, hrest⟩ := List.forall_mem_cons.mp hall
    obtain ⟨hrequest, happroval⟩ := hserial hrest
    have hserialized := hf.serialized ho hlast
    exact ⟨hmoves.oneRequest ho hrequest hserialized, hmoves.oneApproval hid ho happroval hserialized⟩

/-- A request is approved once, and stays so. -/
theorem approving_once (hrun : system.Run trace s) (request_id : Id) :
    trace.countP (approving request_id) ≤ 1 ∧
      (trace.countP (approving request_id) ≠ 0 → s.shared.status request_id = some .APPROVED) := by
  induction hrun with
  | initial hinit => exact ⟨Nat.zero_le 1, fun h => absurd rfl h⟩
  | @step trace s s' a hrun hstep ih =>
    obtain ⟨hle, happroved⟩ := ih
    obtain ⟨stages, hf, ho⟩ := exists_stages hrun.reachable
    change threads.step s a = some s' at hstep
    obtain ⟨stages', -, hmoves⟩ := hf.step hstep
    rw [List.countP_cons]
    by_cases hcount : trace.countP (approving request_id) = 0
    · rw [hcount]
      split
      · rename_i hnow
        rw [approving, Bool.and_eq_true, decide_eq_true_iff, decide_eq_true_iff] at hnow
        exact ⟨le_refl 1, fun _ => hnow.2⟩
      · exact ⟨Nat.zero_le 1, fun h => absurd rfl h⟩
    · have hstatus := happroved hcount
      have hnot : approving request_id ⟨s, a, s'⟩ = false := by simp [approving, hstatus]
      rw [hnot]
      exact ⟨hle, fun _ => hmoves.approved ho hstatus⟩

end Runs

section Uuids

local instance : ToString Uuid := ⟨Uuid.str⟩

theorem toString_injective : Function.Injective (toString : Uuid → String) := by
  intro first second h
  have hparse : Uuid.parse first.str = Uuid.parse second.str := congrArg Uuid.parse h
  rw [Uuid.parse_str, Uuid.parse_str] at hparse
  exact Option.some.inj hparse

/-- In every run a request is approved at most once. If the steps of the run are serial, a device
has at most one pending request, and a request at most one `provisioning_approved` event. -/
theorem provisioning_single_flight {trace : List (TransitionSystem.Transition (State Uuid) (Action Uuid))} {s : State Uuid}
    (hrun : system.Run trace s) :
    (∀ request_id, trace.countP (approving request_id) ≤ 1) ∧
      ((∀ step ∈ trace, Serial step.source step.action) →
        s.shared.OnePending ∧ ∀ request_id, s.shared.approvals request_id ≤ 1) := by
  refine ⟨fun request_id => (approving_once hrun request_id).1, fun hserial => ?_⟩
  obtain ⟨stages, -, -, hflights⟩ := exists_flights toString_injective hrun
  obtain ⟨hrequest, happroval⟩ := hflights hserial
  exact ⟨hrequest.one_pending, happroval.approved_once⟩

/-- A database with one device and no request. -/
def one_registered : State Uuid where
  shared := {
    devices := Dict.empty.set 7 { committed := some {
      name := "Sensor", device_type := "sensor", firmware_version := "1.0.0", metadata_ := .dict [], created_at := 0,
      updated_at := 0 } }
    requests := .empty
    events := [] }
  threads _ := none

theorem one_registered_initial : system.initial one_registered := by
  refine ⟨{ devices := fun device_id => ?_, requests := fun _ => rfl, one_pending := ?_, approved_once := fun _ => Nat.zero_le 1,
            approved := fun _ h => absurd rfl h }, fun _ => rfl⟩
  · simp only [one_registered, Table.written, Dict.get?_set]
    split <;> rfl
  · intro request_id other_id request other hrequest
    cases hrequest

def first_request : ProvisioningCall Uuid := .request_provisioning 1 7 0 "1970-01-01T00:00:00+00:00"

def second_request : ProvisioningCall Uuid := .request_provisioning 2 7 0 "1970-01-01T00:00:00+00:00"

def approval (approved_by : String) : ProvisioningCall Uuid :=
  .approve_provisioning 1 approved_by 1 1 "1970-01-01T00:00:00.000001+00:00"

/-- Two requests for the device are made at the same time. -/
def two_requests : List (Action Uuid) :=
  [.start 0 first_request, .start 1 second_request, .perform 0 .done, .perform 0 .done, .perform 1 .done, .perform 1 .done,
    .perform 0 .done, .perform 0 .done, .perform 1 .done, .perform 1 .done]

/-- A request is made, and is approved by two calls at the same time. -/
def two_approvals : List (Action Uuid) :=
  [.start 0 first_request, .perform 0 .done, .perform 0 .done, .perform 0 .done, .perform 0 .done,
    .start 1 (approval "alice"), .start 2 (approval "bob"), .perform 1 .done, .perform 2 .done,
    .perform 1 .done, .perform 1 .done, .perform 1 .done, .perform 1 .done, .perform 1 .done, .perform 1 .done,
    .perform 2 .done, .perform 2 .done, .perform 2 .done, .perform 2 .done, .perform 2 .done]

/-- A request is made, up to its INSERT. -/
theorem provisioning_single_flight_request :
    ∃ (trace : List (TransitionSystem.Transition (State Uuid) (Action Uuid))) (s : State Uuid), system.Run trace s ∧
      trace.length = 3 ∧ s.shared.OnePending ∧ ∀ request_id, s.shared.approvals request_id ≤ 1 := by
  have hrun := (((TransitionSystem.Run.initial one_registered_initial).step (a := .start 0 first_request) rfl).step
    (a := .perform 0 .done) rfl).step (a := .perform 0 .done) rfl
  obtain ⟨-, hflights⟩ := provisioning_single_flight hrun
  obtain ⟨hpending, happrovals⟩ := hflights (by
    refine List.forall_mem_cons.mpr ⟨?_, List.forall_mem_cons.mpr ⟨?_, List.forall_mem_cons.mpr ⟨trivial, nofun⟩⟩⟩
    · exact serial_of_alone (fun u hu => (Function.update_of_ne hu ..).trans (Function.update_of_ne hu ..)) fun _ => rfl
    · exact serial_of_alone (fun u hu => Function.update_of_ne hu ..) fun _ => rfl)
  exact ⟨_, _, hrun, rfl, hpending, happrovals⟩

theorem provisioning_not_single_flight :
    (¬ ∀ s : State Uuid, system.Reachable s → s.shared.OnePending) ∧
      ¬ ∀ s : State Uuid, system.Reachable s → ∀ request_id, s.shared.approvals request_id ≤ 1 := by
  constructor
  · intro hclaim
    obtain ⟨s, hreach, htest⟩ := TransitionSystem.exists_of_replay (fun _ _ => True) (fun _ _ => true) (fun _ _ _ => trivial)
      one_registered_initial two_requests (fun s =>
        decide ((s.shared.requests.committed 1).map (fun request => (request.device_id, request.status)) = some (7, .PENDING)) &&
          decide ((s.shared.requests.committed 2).map (fun request => (request.device_id, request.status)) =
            some (7, .PENDING))) (by decide +kernel)
    rw [Bool.and_eq_true, decide_eq_true_iff, decide_eq_true_iff, Option.map_eq_some_iff, Option.map_eq_some_iff] at htest
    obtain ⟨⟨first, hfirst, hfirst_eq⟩, second, hsecond, hsecond_eq⟩ := htest
    obtain ⟨hfirst_device, hfirst_status⟩ := Prod.mk.inj hfirst_eq
    obtain ⟨hsecond_device, hsecond_status⟩ := Prod.mk.inj hsecond_eq
    have hsame := hclaim s hreach 1 2 first second hfirst hfirst_status hsecond hsecond_status
      (hfirst_device.trans hsecond_device.symm)
    exact absurd hsame (by decide)
  · intro hclaim
    obtain ⟨s, hreach, htest⟩ := TransitionSystem.exists_of_replay (fun _ _ => True) (fun _ _ => true) (fun _ _ _ => trivial)
      one_registered_initial two_approvals (fun s => decide (s.shared.approvals 1 = 2)) (by decide +kernel)
    have hle := hclaim s hreach 1
    rw [of_decide_eq_true htest] at hle
    exact absurd hle (by decide)

end Uuids

end gateway.device_manager.lifecycle
