import EdgeGateway.DeviceManager.Lifecycle.Concurrent

/-! How far the provisioning operations have come, and what a step of a run can do. -/

namespace gateway.device_manager.lifecycle

variable {Id : Type}

inductive RequestStep (Id : Type) where
  | finding
  | checking
  | inserting
  | committing
  | refreshing
  | announcing (request : ProvisioningRequest Id)

inductive ApproveStep (Id : Type) where
  | reading
  | updating (device_id : Id)
  | locating (device_id : Id)
  | provisioning (device_id : Id)
  | committing
  | refreshing
  | announcing (request : ProvisioningRequest Id)

/-- How far a call has come. -/
inductive Stage (Id : Type) where
  | requesting (request_id device_id : Id) (requested_at : ℤ) (timestamp : String) (step : RequestStep Id)
  | approving (request_id : Id) (approved_by : String) (approved_at updated_at : ℤ) (timestamp : String)
      (step : ApproveStep Id)

def ProvisioningCall.stage : ProvisioningCall Id → Stage Id
  | .request_provisioning request_id device_id requested_at timestamp =>
    .requesting request_id device_id requested_at timestamp .finding
  | .approve_provisioning request_id approved_by approved_at updated_at timestamp =>
    .approving request_id approved_by approved_at updated_at timestamp .reading

namespace Stage

variable [ToString Id]

/-- What the call does next. -/
def op : Stage Id → Op Id
  | .requesting request_id device_id requested_at timestamp step =>
    match step with
    | .finding => .select_device device_id
    | .checking => .select_pending device_id
    | .inserting => .insert_request request_id { device_id, requested_at }
    | .committing => .commit
    | .refreshing => .select_request request_id
    | .announcing _ => .stream_add (provision_service.requested_event request_id device_id timestamp)
  | .approving request_id approved_by approved_at updated_at timestamp step =>
    match step with
    | .reading => .select_request request_id
    | .updating _ => .update_request request_id .APPROVED approved_at approved_by
    | .locating device_id => .select_device device_id
    | .provisioning device_id => .update_device device_id { status := some (some .PROVISIONED) } updated_at
    | .committing => .commit
    | .refreshing => .select_request request_id
    | .announcing request =>
      .stream_add (provision_service.approved_event request_id request.device_id approved_by timestamp)

/-- Where the call is after this was answered. -/
def next : (stage : Stage Id) → stage.op.Reply → Option (Stage Id)
  | .requesting request_id device_id requested_at timestamp step =>
    match step with
    | .finding => fun (found : Option Device) =>
      match found with
      | some device =>
        if device.status = .REGISTERED then some (.requesting request_id device_id requested_at timestamp .checking)
        else none
      | none => none
    | .checking => fun (pending : List (ProvisioningRequest Id)) =>
      match pending with
      | [] => some (.requesting request_id device_id requested_at timestamp .inserting)
      | _ => none
    | .inserting => fun _ => some (.requesting request_id device_id requested_at timestamp .committing)
    | .committing => fun _ => some (.requesting request_id device_id requested_at timestamp .refreshing)
    | .refreshing => fun (found : Option (ProvisioningRequest Id)) =>
      found.map fun request => .requesting request_id device_id requested_at timestamp (.announcing request)
    | .announcing _ => fun _ => none
  | .approving request_id approved_by approved_at updated_at timestamp step =>
    let goes (step : ApproveStep Id) : Option (Stage Id) :=
      some (.approving request_id approved_by approved_at updated_at timestamp step)
    match step with
    | .reading => fun (found : Option (ProvisioningRequest Id)) =>
      match found with
      | some request => if request.status = .PENDING then goes (.updating request.device_id) else none
      | none => none
    | .updating device_id => fun _ => goes (.locating device_id)
    | .locating device_id => fun (found : Option Device) =>
      match found with
      | some device => if device.status = .PROVISIONED then goes .committing else goes (.provisioning device_id)
      | none => goes .committing
    | .provisioning _ => fun _ => goes .committing
    | .committing => fun _ => goes .refreshing
    | .refreshing => fun (found : Option (ProvisioningRequest Id)) =>
      found.bind fun request => goes (.announcing request)
    | .announcing _ => fun _ => none

/-- The operation is at the stage: it ends if this raises, and goes on to the next stage if it is
answered. -/
inductive At : Stage Id → Operation Id (ProvisioningRequest Id) → Prop where
  | intro {stage : Stage Id} {rest : stage.op.Outcome → Operation Id (ProvisioningRequest Id)}
      (herror : ∀ e, ∃ a, rest (.error e) = .ret a)
      (hnext : ∀ reply later, stage.next reply = some later → At later (rest (.ok reply)))
      (hlast : ∀ reply, stage.next reply = none → ∃ a, rest (.ok reply) = .ret a) :
      At stage (.perform stage.op rest)

/-- A statement after which the call goes on, whatever the answer. -/
theorem At.goes {stage later : Stage Id} {rest : stage.op.Outcome → Operation Id (ProvisioningRequest Id)}
    (herror : ∀ e, ∃ a, rest (.error e) = .ret a) (hnext : ∀ reply, stage.next reply = some later)
    (hlater : ∀ reply, At later (rest (.ok reply))) : At stage (.perform stage.op rest) := by
  refine .intro herror (fun reply later' h => ?_) fun reply h => ?_
  · cases (hnext reply).symm.trans h
    exact hlater reply
  · cases (hnext reply).symm.trans h

/-- What is left of a request after its INSERT. -/
theorem at_committing_request (request_id device_id : Id) (requested_at : ℤ) (timestamp : String) :
    At (.requesting request_id device_id requested_at timestamp .committing) (do
      session.commit
      let request ← session.refresh_request request_id
      execute (.stream_add (provision_service.requested_event request_id device_id timestamp))
      return request) := by
  refine .goes (fun _ => ⟨_, rfl⟩) (fun _ => rfl) fun _ => ?_
  refine .intro (fun _ => ⟨_, rfl⟩) (fun (found : Option (ProvisioningRequest Id)) later hlater => ?_)
    (fun (found : Option (ProvisioningRequest Id)) hlast => ?_)
  · cases found with
    | none => cases hlater
    | some request =>
      cases hlater
      exact .intro (fun _ => ⟨_, rfl⟩) (fun _ _ => nofun) (fun _ _ => ⟨_, rfl⟩)
  · cases found with
    | none => exact ⟨_, rfl⟩
    | some request => cases hlast

theorem at_request_provisioning (request_id device_id : Id) (requested_at : ℤ) (timestamp : String) :
    At (.requesting request_id device_id requested_at timestamp .finding)
      (provision_service.request_provisioning request_id device_id requested_at timestamp) := by
  refine .intro (fun _ => ⟨_, rfl⟩) (fun (found : Option Device) later hlater => ?_) (fun (found : Option Device) hlast => ?_)
  · rcases found with _ | ⟨_, _, status, _⟩
    · cases hlater
    · cases status
      case REGISTERED =>
        cases hlater
        refine .intro (fun _ => ⟨_, rfl⟩) (fun (pending : List (ProvisioningRequest Id)) later hlater => ?_)
          (fun (pending : List (ProvisioningRequest Id)) hlast => ?_)
        · rcases pending with _ | ⟨request, rest⟩
          · cases hlater
            refine .goes (fun _ => ⟨_, rfl⟩) (fun _ => rfl) fun _ => ?_
            exact at_committing_request request_id device_id requested_at timestamp
          · cases hlater
        · rcases pending with _ | ⟨request, _ | ⟨other, rest⟩⟩
          · cases hlast
          · exact ⟨_, rfl⟩
          · exact ⟨_, rfl⟩
      all_goals cases hlater
  · rcases found with _ | ⟨_, _, status, _⟩
    · exact ⟨_, rfl⟩
    · cases status
      case REGISTERED => cases hlast
      all_goals exact ⟨_, rfl⟩

/-- What is left of an approval after its UPDATEs. -/
theorem at_announce_approval (request_id : Id) (approved_by : String) (approved_at updated_at : ℤ) (timestamp : String) :
    At (.approving request_id approved_by approved_at updated_at timestamp .committing)
      (provision_service.announce_approval request_id approved_by timestamp) := by
  refine .goes (fun _ => ⟨_, rfl⟩) (fun _ => rfl) fun _ => ?_
  refine .intro (fun _ => ⟨_, rfl⟩) (fun (found : Option (ProvisioningRequest Id)) later hlater => ?_)
    (fun (found : Option (ProvisioningRequest Id)) hlast => ?_)
  · cases found with
    | none => cases hlater
    | some request =>
      cases hlater
      exact .intro (fun _ => ⟨_, rfl⟩) (fun _ _ => nofun) (fun _ _ => ⟨_, rfl⟩)
  · cases found with
    | none => exact ⟨_, rfl⟩
    | some request => cases hlast

theorem at_approve_provisioning (request_id : Id) (approved_by : String) (approved_at updated_at : ℤ) (timestamp : String) :
    At (.approving request_id approved_by approved_at updated_at timestamp .reading)
      (provision_service.approve_provisioning request_id approved_by approved_at updated_at timestamp) := by
  have hcommitting := at_announce_approval request_id approved_by approved_at updated_at timestamp
  refine .intro (fun _ => ⟨_, rfl⟩) (fun (found : Option (ProvisioningRequest Id)) later hlater => ?_)
    (fun (found : Option (ProvisioningRequest Id)) hlast => ?_)
  · rcases found with _ | ⟨device_id, status, _⟩
    · cases hlater
    · cases status
      case PENDING =>
        cases hlater
        refine .goes (fun _ => ⟨_, rfl⟩) (fun _ => rfl) fun _ => ?_
        refine .intro (fun _ => ⟨_, rfl⟩) (fun (found : Option Device) later hlater => ?_)
          (fun (found : Option Device) hlast => ?_)
        · rcases found with _ | ⟨_, _, status, _⟩
          · cases hlater
            exact hcommitting
          · cases status
            case PROVISIONED =>
              cases hlater
              exact hcommitting
            all_goals
              cases hlater
              refine .goes (fun _ => ⟨_, rfl⟩) (fun _ => rfl) fun _ => ?_
              exact hcommitting
        · rcases found with _ | ⟨_, _, status, _⟩
          · cases hlast
          · cases status <;> cases hlast
      all_goals cases hlater
  · rcases found with _ | ⟨device_id, status, _⟩
    · exact ⟨_, rfl⟩
    · cases status
      case PENDING => cases hlast
      all_goals exact ⟨_, rfl⟩

theorem at_operation (call : ProvisioningCall Id) : At call.stage call.operation := by
  cases call with
  | request_provisioning request_id device_id requested_at timestamp => exact at_request_provisioning ..
  | approve_provisioning request_id approved_by approved_at updated_at timestamp => exact at_approve_provisioning ..

/-- Where the call is after its statement. -/
def after (stage : Stage Id) : stage.op.Outcome → Option (Stage Id)
  | .ok reply => stage.next reply
  | .error _ => none

omit [ToString Id] in
/-- Where the call is after its COMMIT was answered. -/
def refreshed : Stage Id → Option (Stage Id)
  | .requesting request_id device_id requested_at timestamp .committing =>
    some (.requesting request_id device_id requested_at timestamp .refreshing)
  | .approving request_id approved_by approved_at updated_at timestamp .committing =>
    some (.approving request_id approved_by approved_at updated_at timestamp .refreshing)
  | _ => none

omit [ToString Id] in
/-- A statement after which the call goes on, and which leaves requests and events as they are. -/
inductive Reads [DecidableEq Id] (db : Database Id) (t : ℕ) : Stage Id → Stage Id → Prop where
  | finding {request_id device_id : Id} {requested_at : ℤ} {timestamp : String} :
      Reads db t (.requesting request_id device_id requested_at timestamp .finding)
        (.requesting request_id device_id requested_at timestamp .checking)
  | checking {request_id device_id : Id} {requested_at : ℤ} {timestamp : String} (hnone : db.pending t device_id = []) :
      Reads db t (.requesting request_id device_id requested_at timestamp .checking)
        (.requesting request_id device_id requested_at timestamp .inserting)
  | refreshing_request {request_id device_id : Id} {requested_at : ℤ} {timestamp : String}
      (request : ProvisioningRequest Id) :
      Reads db t (.requesting request_id device_id requested_at timestamp .refreshing)
        (.requesting request_id device_id requested_at timestamp (.announcing request))
  | reading {request_id : Id} {approved_by : String} {approved_at updated_at : ℤ} {timestamp : String}
      {request : ProvisioningRequest Id} (hselect : db.requests.select t request_id = some request)
      (hpending : request.status = .PENDING) :
      Reads db t (.approving request_id approved_by approved_at updated_at timestamp .reading)
        (.approving request_id approved_by approved_at updated_at timestamp (.updating request.device_id))
  | locating {request_id device_id : Id} {approved_by : String} {approved_at updated_at : ℤ} {timestamp : String}
      {step : ApproveStep Id} (hstep : step = .committing ∨ step = .provisioning device_id) :
      Reads db t (.approving request_id approved_by approved_at updated_at timestamp (.locating device_id))
        (.approving request_id approved_by approved_at updated_at timestamp step)
  | provisioning {request_id device_id : Id} {approved_by : String} {approved_at updated_at : ℤ} {timestamp : String} :
      Reads db t (.approving request_id approved_by approved_at updated_at timestamp (.provisioning device_id))
        (.approving request_id approved_by approved_at updated_at timestamp .committing)
  | refreshing {request_id : Id} {approved_by : String} {approved_at updated_at : ℤ} {timestamp : String}
      (request : ProvisioningRequest Id) :
      Reads db t (.approving request_id approved_by approved_at updated_at timestamp .refreshing)
        (.approving request_id approved_by approved_at updated_at timestamp (.announcing request))

end Stage

variable [DecidableEq Id] [ToString Id]

/-- The stages of the threads, which tell what they have still to do. -/
structure Follows (s : State Id) (stages : ℕ → Option (Stage Id)) : Prop where
  idle : ∀ {t}, stages t = none → s.threads t = none
  running : ∀ {t stage}, stages t = some stage → ∃ p, s.threads t = some p ∧ Stage.At stage p

/-- What a step makes of the requests, the events and the stages. -/
inductive Moves (db : Database Id) (stages : ℕ → Option (Stage Id)) :
    Action Id → Database Id → (ℕ → Option (Stage Id)) → Prop where
  | start {t : ℕ} {call : ProvisioningCall Id} (hfree : stages t = none) :
      Moves db stages (.start t call) db (Function.update stages t (some call.stage))
  | ends {t : ℕ} {stage : Stage Id} (a : Action Id) (hstage : stages t = some stage) :
      Moves db stages a (db.rollback t) (Function.update stages t none)
  | reads {t : ℕ} {stage later : Stage Id} {db' : Database Id} (hstage : stages t = some stage)
      (hreads : Stage.Reads db t stage later) (hrequests : db'.requests = db.requests) (hevents : db'.events = db.events) :
      Moves db stages (.perform t .done) db' (Function.update stages t (some later))
  | inserts {t : ℕ} {request_id device_id : Id} {requested_at : ℤ} {timestamp : String}
      {requests : Table Id (ProvisioningRequest Id)}
      (hstage : stages t = some (.requesting request_id device_id requested_at timestamp .inserting))
      (hinsert : db.requests.insert t request_id { device_id, requested_at } = some requests) :
      Moves db stages (.perform t .done) { db with requests }
        (Function.update stages t (some (.requesting request_id device_id requested_at timestamp .committing)))
  | updates {t : ℕ} {request_id device_id : Id} {approved_by : String} {approved_at updated_at : ℤ} {timestamp : String}
      {requests : Table Id (ProvisioningRequest Id)}
      (hstage : stages t = some (.approving request_id approved_by approved_at updated_at timestamp (.updating device_id)))
      (hupdate : db.requests.update t request_id (fun request =>
        { request with status := .APPROVED, approved_at := some approved_at, approved_by := some approved_by }) =
          some (requests, true)) :
      Moves db stages (.perform t .done) { db with requests }
        (Function.update stages t
          (some (.approving request_id approved_by approved_at updated_at timestamp (.locating device_id))))
  | commits {t : ℕ} {fate : Fate} {stage later : Stage Id} {settled : Option (Stage Id)} {db' : Database Id}
      (hstage : stages t = some stage) (hlater : stage.refreshed = some later) (hsettled : settled = none ∨ settled = some later)
      (hcommitted : ∀ request_id, db'.requests.committed request_id = (db.requests.commit t).committed request_id)
      (hwritten : ∀ request_id owner request, db'.requests.written request_id = some (owner, request) ↔
        owner ≠ t ∧ db.requests.written request_id = some (owner, request))
      (hevents : db'.events = db.events) : Moves db stages (.perform t fate) db' (Function.update stages t settled)
  | announces {t : ℕ} {fate : Fate} {stage : Stage Id} {event : Event} (hstage : stages t = some stage)
      (hannounces : stage.op = .stream_add event) :
      Moves db stages (.perform t fate) { db.rollback t with events := db.events ++ [event] } (Function.update stages t none)

omit [ToString Id] in
/-- The database after a call has gone on, or has ended. -/
def Database.settled (db : Database Id) (t : ℕ) : Option (Stage Id) → Database Id
  | some _ => db
  | none => db.rollback t

section Steps

variable {s s' : State Id} {stages : ℕ → Option (Stage Id)} {t : ℕ}

omit [DecidableEq Id] in
/-- One thread goes on, and the others stay where they are. -/
theorem Follows.update (hf : Follows s stages) {db : Database Id} {program : Option (Operation Id (ProvisioningRequest Id))}
    {later : Option (Stage Id)} (hidle : later = none → program = none)
    (hrunning : ∀ stage, later = some stage → ∃ p, program = some p ∧ Stage.At stage p) :
    Follows { shared := db, threads := Function.update s.threads t program } (Function.update stages t later) := by
  constructor
  · intro u hnone
    by_cases hu : u = t
    · subst hu
      simp only [Function.update_self] at hnone ⊢
      exact hidle hnone
    · simp only [Function.update_of_ne hu] at hnone ⊢
      exact hf.idle hnone
  · intro u stage hstage
    by_cases hu : u = t
    · subst hu
      simp only [Function.update_self] at hstage ⊢
      exact hrunning stage hstage
    · simp only [Function.update_of_ne hu] at hstage ⊢
      exact hf.running hstage

theorem Follows.settle (hf : Follows s stages) (db : Database Id) {stage : Stage Id}
    {p : Operation Id (ProvisioningRequest Id)} (hat : Stage.At stage p) :
    (threads.settle s t db p).shared = db ∧ Follows (threads.settle s t db p) (Function.update stages t (some stage)) := by
  cases hat with
  | intro herror hnext hlast =>
    refine ⟨rfl, hf.update nofun ?_⟩
    rintro stage ⟨⟩
    exact ⟨_, rfl, .intro herror hnext hlast⟩

omit [DecidableEq Id] in
/-- A call that is over has no stage. -/
theorem Follows.over (hf : Follows s stages) (t : ℕ) (db : Database Id) :
    Follows { shared := db, threads := Function.update s.threads t none } (Function.update stages t none) := by
  apply hf.update (fun _ => rfl)
  intro stage hstage
  cases hstage

theorem Follows.settle_ret (hf : Follows s stages) (db : Database Id) (a : Except Raised (ProvisioningRequest Id)) :
    Follows (threads.settle s t db (.ret a)) (Function.update stages t none) := hf.over t _

/-- A call that fails leaves the database as it is, but for a COMMIT or an XADD that is lost. -/
theorem perform_fate (db : Database Id) (stage : Stage Id) {fate : Fate} (hfate : fate ≠ .done) :
    db.perform t stage.op fate = some (db, .error .CallError) ∨
      (∃ later, stage.refreshed = some later ∧ db.perform t stage.op fate =
        some ({ db with devices := db.devices.commit t, requests := db.requests.commit t }, .error .CallError)) ∨
      ∃ event, stage.op = .stream_add event ∧
        db.perform t stage.op fate = some ({ db with events := db.events ++ [event] }, .error .CallError) := by
  cases fate with
  | done => exact absurd rfl hfate
  | refused => exact .inl (by cases stage.op <;> rfl)
  | lost =>
    cases stage with
    | requesting request_id device_id requested_at timestamp step =>
      cases step with
      | committing => exact .inr (.inl ⟨_, rfl, rfl⟩)
      | announcing request => exact .inr (.inr ⟨_, rfl, rfl⟩)
      | _ => exact .inl rfl
    | approving request_id approved_by approved_at updated_at timestamp step =>
      cases step with
      | committing => exact .inr (.inl ⟨_, rfl, rfl⟩)
      | announcing request => exact .inr (.inr ⟨_, rfl, rfl⟩)
      | _ => exact .inl rfl

/-- What an answer makes of the database and the stage. -/
theorem perform_done {db db' : Database Id} {stage : Stage Id} {outcome : stage.op.Outcome} (hstage : stages t = some stage)
    (h : db.perform t stage.op .done = some (db', outcome)) :
    Moves db stages (.perform t .done) (db'.settled t (stage.after outcome)) (Function.update stages t (stage.after outcome)) := by
  cases stage with
  | requesting request_id device_id requested_at timestamp step =>
    cases step with
    | finding =>
      cases h
      rcases db.devices.select t device_id with _ | ⟨_, _, status, _⟩
      · exact .ends _ hstage
      · cases status
        case REGISTERED => exact .reads hstage .finding rfl rfl
        all_goals exact .ends _ hstage
    | checking =>
      cases h
      cases hpending : db.pending t device_id with
      | nil => exact .reads hstage (.checking hpending) rfl rfl
      | cons request rest => exact .ends _ hstage
    | inserting =>
      simp only [Database.perform, Stage.op, Database.execute] at h
      split at h
      · rename_i requests hinsert
        cases h
        exact .inserts hstage hinsert
      · cases h
        exact .ends _ hstage
    | committing =>
      cases h
      exact .commits hstage rfl (.inr rfl) (fun _ => rfl) (fun _ _ _ => Table.written_commit_iff) rfl
    | refreshing =>
      cases h
      cases db.requests.select t request_id with
      | none => exact .ends _ hstage
      | some request => exact .reads hstage (.refreshing_request request) rfl rfl
    | announcing request =>
      cases h
      exact .announces hstage rfl
  | approving request_id approved_by approved_at updated_at timestamp step =>
    cases step with
    | reading =>
      cases h
      rcases hselect : db.requests.select t request_id with _ | ⟨device_id, status, _⟩
      · exact .ends _ hstage
      · cases status
        case PENDING => exact .reads hstage (.reading hselect rfl) rfl rfl
        all_goals exact .ends _ hstage
    | updating device_id =>
      obtain ⟨⟨requests, found⟩, hupdate, heq⟩ := Option.map_eq_some_iff.mp h
      cases found with
      | false =>
        cases heq
        exact .ends _ hstage
      | true =>
        cases heq
        exact .updates hstage hupdate
    | locating device_id =>
      cases h
      rcases db.devices.select t device_id with _ | ⟨_, _, status, _⟩
      · exact .reads hstage (.locating (.inl rfl)) rfl rfl
      · cases status
        case PROVISIONED => exact .reads hstage (.locating (.inl rfl)) rfl rfl
        all_goals exact .reads hstage (.locating (.inr rfl)) rfl rfl
    | provisioning device_id =>
      obtain ⟨⟨devices, found⟩, -, heq⟩ := Option.map_eq_some_iff.mp h
      cases found with
      | false =>
        cases heq
        exact .reads hstage .provisioning rfl rfl
      | true =>
        cases heq
        exact .reads hstage .provisioning rfl rfl
    | committing =>
      cases h
      exact .commits hstage rfl (.inr rfl) (fun _ => rfl) (fun _ _ _ => Table.written_commit_iff) rfl
    | refreshing =>
      cases h
      cases db.requests.select t request_id with
      | none => exact .ends _ hstage
      | some request => exact .reads hstage (.refreshing request) rfl rfl
    | announcing request =>
      cases h
      exact .announces hstage rfl

omit [DecidableEq Id] in
theorem Follows.stage (hf : Follows s stages) {p : Operation Id (ProvisioningRequest Id)} (hthread : s.threads t = some p) :
    ∃ stage, stages t = some stage ∧ Stage.At stage p := by
  cases hstage : stages t with
  | none =>
    rw [hf.idle hstage] at hthread
    cases hthread
  | some stage =>
    obtain ⟨q, hq, hat⟩ := hf.running hstage
    rw [hthread] at hq
    cases hq
    exact ⟨stage, rfl, hat⟩

/-- What a step can do. -/
theorem Follows.step (hf : Follows s stages) {a : Action Id} (h : threads.step s a = some s') :
    ∃ stages', Follows s' stages' ∧ Moves s.shared stages a s'.shared stages' := by
  cases a with
  | start t call =>
    obtain ⟨hfree, db, p, hstart, rfl⟩ := Threads.step_start h
    cases hstart
    obtain ⟨hshared, hfollows⟩ := hf.settle s.shared (Stage.at_operation call)
    have hnone : stages t = none := by
      cases hstage : stages t with
      | none => rfl
      | some stage =>
        obtain ⟨q, hq, -⟩ := hf.running hstage
        rw [hfree] at hq
        cases hq
    rw [hshared]
    exact ⟨_, hfollows, .start hnone⟩
  | perform t fate =>
    obtain ⟨op, next, db, outcome, hthread, hperform, rfl⟩ := Threads.step_perform h
    obtain ⟨stage, hstage, hat⟩ := hf.stage hthread
    cases hat with
    | @intro _ rest herror hnext hlast =>
      have herror_settle : ∀ e, Follows (threads.settle s t db (rest (.error e))) (Function.update stages t none) ∧
          (threads.settle s t db (rest (.error e))).shared = db.rollback t := by
        intro e
        obtain ⟨a, hret⟩ := herror e
        rw [hret]
        exact ⟨hf.settle_ret db a, rfl⟩
      by_cases hfate : fate = .done
      · subst hfate
        have hmoves := perform_done hstage hperform
        cases outcome with
        | ok reply =>
          simp only [Stage.after] at hmoves
          cases hlater : stage.next reply with
          | some later =>
            obtain ⟨hshared, hfollows⟩ := hf.settle db (hnext reply later hlater)
            rw [hlater] at hmoves
            rw [hshared]
            exact ⟨_, hfollows, hmoves⟩
          | none =>
            obtain ⟨a, hret⟩ := hlast reply hlater
            rw [hlater] at hmoves
            rw [hret]
            exact ⟨_, hf.settle_ret db a, hmoves⟩
        | error e =>
          obtain ⟨hfollows, hshared⟩ := herror_settle e
          rw [hshared]
          exact ⟨_, hfollows, hmoves⟩
      · obtain hquiet | ⟨later, hlater, hcommit⟩ | ⟨event, hevent, hadd⟩ := perform_fate s.shared stage hfate
        · cases hquiet.symm.trans hperform
          obtain ⟨hfollows, hshared⟩ := herror_settle .CallError
          rw [hshared]
          exact ⟨_, hfollows, .ends _ hstage⟩
        · cases hcommit.symm.trans hperform
          obtain ⟨hfollows, hshared⟩ := herror_settle .CallError
          rw [hshared]
          refine ⟨_, hfollows, .commits hstage hlater (.inl rfl) (fun request_id => ?_) (fun request_id owner request => ?_) rfl⟩
          · exact Table.committed_rollback t _ request_id
          · rw [Database.rollback, Table.written_rollback_iff, Table.written_commit_iff, ← and_assoc, and_self]
        · cases hadd.symm.trans hperform
          obtain ⟨hfollows, hshared⟩ := herror_settle .CallError
          rw [hshared]
          exact ⟨_, hfollows, .announces hstage hevent⟩
  | abort t =>
    obtain ⟨p, db, hthread, habort, rfl⟩ := Threads.step_abort h
    obtain ⟨stage, hstage, -⟩ := hf.stage hthread
    cases habort
    have hfollows : Follows { shared := s.shared.rollback t, threads := Function.update s.threads t none }
        (Function.update stages t none) := hf.over t _
    exact ⟨_, hfollows, .ends _ hstage⟩

end Steps

end gateway.device_manager.lifecycle
