import EdgeGateway.MlTraining.Trainer

open gateway.experiment_tracker

namespace gateway.trainer

/-- How far the worker of a job is, and whether it looks at the cancelled jobs before it writes a status
again, if nothing raises. -/
inductive Phase where
  | loading
  | started (checks : Bool)
  | training (checks : Bool)
  | ended (status : Status)
  | through

namespace Phase

/-- A computation goes on, unless it raises. -/
def Computes {α : Type} (phase phase' : Phase) (reply : Except Exc α) : Prop :=
  (∃ checks, phase = .training checks) ∧
    match reply with
    | .ok _ => phase' = phase
    | .error _ => phase' = .training false

/-- What the worker of a job does in its phases. -/
def step (job_id : String) (phase : Phase) : (o : Op) → o.Reply → Phase → Prop
  | .load_training_data .., .error .cancelled, phase' => phase = .loading ∧ phase' = .through
  | .load_training_data .., _, phase' => phase = .loading ∧ phase' = .loading
  | .assign id (.status status), _, phase' =>
    id = job_id ∧
      ((phase = .loading ∧ status = .running ∧ ∃ checks, phase' = .started checks) ∨
        phase = .training false ∧ (status = .completed ∨ status = .failed) ∧ phase' = .ended status)
  | .assign id .completed_at, _, phase' => id = job_id ∧ phase' = phase ∧ ∃ status, phase = .ended status
  | .assign id (.error_message _), _, phase' => id = job_id ∧ phase' = phase ∧ ∃ status, phase = .ended status
  | .assign id _, _, phase' => id = job_id ∧ phase' = phase ∧ ∃ checks, phase = .training checks
  | .in_cancelled id, reply, phase' =>
    id = job_id ∧ phase = .training true ∧ if reply then phase' = .through else ∃ checks, phase' = .training checks
  | .update_status id status, _, phase' =>
    id = job_id ∧
      ((∃ checks, phase = .started checks ∧ status = .running ∧ phase' = .training checks) ∨
        phase = .ended status ∧ phase' = .through)
  | .log_metric id _ _ _, _, phase' => id = job_id ∧ phase' = phase ∧ ∃ checks, phase = .training checks
  | .prepare .., reply, phase' => phase.Computes phase' reply
  | .train_epoch _, reply, phase' => phase.Computes phase' reply
  | .export_to_onnx .., reply, phase' => phase.Computes phase' reply
  | .get_job _, _, _ | .status _, _, _ | .add_cancelled _, _, _ => False

end Phase

/-- The program does the rest of what the worker of a job does from a phase on. -/
def Works {α : Type} (job_id : String) (p : Operation α) (phase : Phase) : Prop :=
  p.Conforms (Phase.step job_id) (fun phase _ => phase = .through) phase

theorem Works.bind_ret {α β : Type} {job_id : String} {p : Operation α} {phase : Phase} (f : α → β)
    (h : Works job_id p phase) : Works job_id (p.bind fun a => .ret (f a)) phase :=
  Program.Conforms.bind h fun _ _ hover => hover

section Works

variable (job_id model_output_dir : String) (job_config : TrainingJobCreate) (arrays : Arrays)

theorem fail_training_works (exc : Exc) : Works job_id (fail_training job_id exc) (.training false) := by
  intro _
  refine ⟨.ended .failed, ⟨rfl, .inr ⟨rfl, .inr rfl, rfl⟩⟩, fun _ => ?_⟩
  refine ⟨_, ⟨rfl, rfl, _, rfl⟩, fun _ => ?_⟩
  refine ⟨_, ⟨rfl, rfl, _, rfl⟩, fun _ => ?_⟩
  exact ⟨.through, ⟨rfl, .inr ⟨rfl, rfl⟩⟩, rfl⟩

theorem finish_training_works :
    Works job_id (finish_training job_id model_output_dir job_config arrays) (.training false) := by
  intro reply
  cases reply with
  | error exc => exact ⟨_, ⟨⟨_, rfl⟩, rfl⟩, fail_training_works job_id exc⟩
  | ok _ =>
    refine ⟨.training false, ⟨⟨_, rfl⟩, rfl⟩, fun _ => ?_⟩
    refine ⟨_, ⟨rfl, rfl, _, rfl⟩, fun _ => ?_⟩
    refine ⟨.ended .completed, ⟨rfl, .inr ⟨rfl, .inl rfl, rfl⟩⟩, fun _ => ?_⟩
    refine ⟨_, ⟨rfl, rfl, _, rfl⟩, fun _ => ?_⟩
    exact ⟨.through, ⟨rfl, .inr ⟨rfl, rfl⟩⟩, rfl⟩

theorem train_epochs_works (epochs : List ℕ) :
    Works job_id (train_epochs job_id model_output_dir job_config arrays epochs) (.training (!epochs.isEmpty)) := by
  induction epochs with
  | nil => exact finish_training_works job_id model_output_dir job_config arrays
  | cons epoch epochs ih =>
    intro cancelled
    cases cancelled with
    | true => exact ⟨.through, ⟨rfl, rfl, rfl⟩, rfl⟩
    | false =>
      refine ⟨.training (!epochs.isEmpty), ⟨rfl, rfl, _, rfl⟩, fun reply => ?_⟩
      cases reply with
      | error exc => exact ⟨_, ⟨⟨_, rfl⟩, rfl⟩, fail_training_works job_id exc⟩
      | ok losses =>
        refine ⟨.training (!epochs.isEmpty), ⟨⟨_, rfl⟩, rfl⟩, fun _ => ?_⟩
        refine ⟨_, ⟨rfl, rfl, _, rfl⟩, fun _ => ?_⟩
        refine ⟨_, ⟨rfl, rfl, _, rfl⟩, fun _ => ?_⟩
        refine ⟨_, ⟨rfl, rfl, _, rfl⟩, fun _ => ?_⟩
        refine ⟨_, ⟨rfl, rfl, _, rfl⟩, fun _ => ?_⟩
        exact ⟨_, ⟨rfl, rfl, _, rfl⟩, ih⟩

theorem train_works : Works job_id (train job_id model_output_dir job_config arrays) .loading := by
  intro _
  cases create_model job_config.model_type arrays.x_train.2 with
  | error exc =>
    refine ⟨.started false, ⟨rfl, .inl ⟨rfl, rfl, _, rfl⟩⟩, fun _ => ?_⟩
    exact ⟨.training false, ⟨rfl, .inl ⟨_, rfl, rfl, rfl⟩⟩, fail_training_works job_id exc⟩
  | ok model =>
    let epochs := List.range job_config.epochs.toNat
    refine ⟨.started (!epochs.isEmpty), ⟨rfl, .inl ⟨rfl, rfl, _, rfl⟩⟩, fun _ => ?_⟩
    refine ⟨.training (!epochs.isEmpty), ⟨rfl, .inl ⟨_, rfl, rfl, rfl⟩⟩, fun reply => ?_⟩
    cases reply with
    | error exc => exact ⟨_, ⟨⟨_, rfl⟩, rfl⟩, fail_training_works job_id exc⟩
    | ok _ => exact ⟨_, ⟨⟨_, rfl⟩, rfl⟩, train_epochs_works job_id model_output_dir job_config arrays epochs⟩

theorem run_works : Works job_id (run job_id model_output_dir job_config) .loading := by
  intro reply
  cases reply with
  | error e =>
    cases e with
    | cancelled => exact ⟨.through, ⟨rfl, rfl⟩, rfl⟩
    | exception e => exact ⟨.loading, ⟨rfl, rfl⟩, train_works job_id model_output_dir job_config synthetic⟩
  | ok arrays => exact ⟨.loading, ⟨rfl, rfl⟩, train_works job_id model_output_dir job_config arrays⟩

end Works

/-- How far a request to cancel a job is. -/
inductive Stage where
  | reading
  | added
  | marked
  | done

/-- What a request to cancel a job does in its stages. -/
def Stage.step (job_id : String) (stage : Stage) : (o : Op) → o.Reply → Stage → Prop
  | .get_job _, _, stage' | .status _, _, stage' => stage = .reading ∧ stage' = .reading
  | .add_cancelled id, _, stage' => id = job_id ∧ stage = .reading ∧ stage' = .added
  | .assign id (.status status), _, stage' => id = job_id ∧ status = .cancelled ∧ stage = .added ∧ stage' = .marked
  | .assign id .completed_at, _, stage' => id = job_id ∧ stage = .marked ∧ stage' = .marked
  | .update_status id status, _, stage' => id = job_id ∧ status = .cancelled ∧ stage = .marked ∧ stage' = .done
  | _, _, _ => False

/-- The program does the rest of what a request does from a stage on. -/
def Asks (job_id : String) (p : Operation (Option Bool)) (stage : Stage) : Prop :=
  p.Conforms (Stage.step job_id) (fun stage answer => stage = .done ∨ stage = .reading ∧ answer ≠ some true) stage

theorem cancel_job_asks (job_id : String) :
    Asks job_id ((cancel_job job_id).bind fun answer => .ret (some answer)) .reading := by
  intro found
  refine ⟨.reading, ⟨rfl, rfl⟩, ?_⟩
  cases found with
  | false => exact .inr ⟨rfl, nofun⟩
  | true =>
    intro status
    refine ⟨.reading, ⟨rfl, rfl⟩, ?_⟩
    have hgoes : Asks job_id ((do
        Program.op (Op.add_cancelled job_id)
        assign job_id (.status .cancelled)
        assign job_id .completed_at
        update_status job_id .cancelled
        return true : Operation Bool).bind fun answer => .ret (some answer)) .reading := by
      intro _
      refine ⟨.added, ⟨rfl, rfl, rfl⟩, fun _ => ?_⟩
      refine ⟨.marked, ⟨rfl, rfl, rfl, rfl⟩, fun _ => ?_⟩
      refine ⟨.marked, ⟨rfl, rfl, rfl⟩, fun _ => ?_⟩
      exact ⟨.done, ⟨rfl, rfl, rfl, rfl⟩, .inl rfl⟩
    cases status with
    | pending => exact hgoes
    | running => exact hgoes
    | _ => exact .inr ⟨rfl, nofun⟩

namespace Trainer

def record (trainer : Trainer) (job_id : String) : Option Status := (trainer.jobs.get? job_id).map TrainingJob.status

def tracked (trainer : Trainer) (job_id : String) : Option Status := trainer.experiment_tracker.status job_id

/-- Only assignments to the status of a job change it. -/
def record_after (trainer : Trainer) (other : String) : Op → Option Status
  | .assign job_id (.status status) => if other = job_id then some status else trainer.record other
  | _ => trainer.record other

/-- Only `update_status` changes the status that the tracker has. -/
def tracked_after (trainer : Trainer) (other : String) : Op → Option Status
  | .update_status job_id status =>
    if other = job_id then (trainer.tracked job_id).map fun _ => status else trainer.tracked other
  | _ => trainer.tracked other

def cancelled_after (trainer : Trainer) : Op → Finset String
  | .add_cancelled job_id => insert job_id trainer.cancelled
  | _ => trainer.cancelled

variable {trainer trainer' : Trainer} {choice : Choice} {o : Op} {reply : o.Reply}

theorem record_set (jobs : Dict String TrainingJob) (cancelled : Finset String) (tracker : ExperimentTracker)
    (job_id other : String) (job : TrainingJob) :
    ({ jobs := jobs.set job_id job, cancelled, experiment_tracker := tracker } : Trainer).record other =
      if other = job_id then some job.status else (jobs.get? other).map TrainingJob.status := by
  unfold record
  rw [Dict.get?_set]
  split <;> rfl

theorem record_perform (h : trainer.perform choice o = some (trainer', reply)) (other : String) :
    trainer'.record other = trainer.record_after other o := by
  cases o with
  | status job_id =>
    obtain ⟨job, -, heq⟩ := Option.map_eq_some_iff.mp h
    cases heq
    rfl
  | assign job_id assignment =>
    obtain ⟨job, hjob, heq⟩ := Option.map_eq_some_iff.mp h
    cases heq
    rw [record_set]
    cases assignment with
    | status status => rfl
    | _ =>
      split
      · rename_i hsame
        simp only [record_after, record, hsame, hjob]
        rfl
      · rfl
  | _ =>
    cases h
    rfl

theorem tracked_perform (h : trainer.perform choice o = some (trainer', reply)) (other : String) :
    trainer'.tracked other = trainer.tracked_after other o := by
  cases o with
  | status job_id | assign job_id assignment =>
    obtain ⟨job, -, heq⟩ := Option.map_eq_some_iff.mp h
    cases heq
    rfl
  | update_status job_id status =>
    cases h
    exact ExperimentTracker.status_update_status _ _ _ _
  | log_metric job_id epoch metric_name value =>
    cases h
    exact ExperimentTracker.status_log_metric _ _ _ _ _ _ _
  | _ =>
    cases h
    rfl

theorem cancelled_perform (h : trainer.perform choice o = some (trainer', reply)) :
    trainer'.cancelled = trainer.cancelled_after o := by
  cases o with
  | status job_id | assign job_id assignment =>
    obtain ⟨job, -, heq⟩ := Option.map_eq_some_iff.mp h
    cases heq
    rfl
  | _ =>
    cases h
    rfl

end Trainer

/-- What the record and the tracker can have in the phase. -/
def Phase.Allows : Phase → Status → Status → Prop
  | .loading, record, tracked => record = .pending ∧ tracked = .pending
  | .started checks, record, tracked => (record = .running ∨ record = .cancelled ∧ checks = true) ∧ tracked = .pending
  | .training checks, record, tracked =>
    (record = .running ∧ tracked = .running) ∨ record = .cancelled ∧ checks = true
  | .ended status, record, tracked => (record = status ∨ record = .cancelled) ∧ tracked = .running
  | .through, record, tracked => record = .cancelled ∨ record = tracked

/-- The results with which the worker goes on. -/
def usual : (o : Op) → o.Reply
  | .load_training_data .. => .ok synthetic
  | .get_job _ => true
  | .in_cancelled _ => false
  | .status _ => .running
  | .assign .. | .add_cancelled _ | .update_status .. | .log_metric .. => ()
  | .prepare .. | .export_to_onnx .. => .ok ()
  | .train_epoch _ => .ok (.nan, .nan)

def looks_at_cancelled : Op → Bool
  | .in_cancelled _ => true
  | _ => false

def writes_status : Op → Bool
  | .assign _ (.status _) => true
  | _ => false

def updates_tracker : Op → Bool
  | .update_status .. => true
  | _ => false

/-- The computations, which can raise. -/
def computes : Op → Bool
  | .prepare .. | .train_epoch _ | .export_to_onnx .. => true
  | _ => false

/-- The worker makes no operation of the kind before it looks at the cancelled jobs, unless something raises. -/
def looks_before (kind : Op → Bool) (p : Operation (Option Bool)) : Bool :=
  (p.first usual fun o => looks_at_cancelled o || kind o).all looks_at_cancelled

/-- A request marks the job as cancelled, in the record and in the tracker, only while the worker makes no
such write before it looks at the cancelled jobs; and nothing raises in a worker whose job is cancelled. -/
def in_time (s : State) : Action → Bool
  | .perform (.request job_id n) _ =>
    match s.threads (.request job_id n) with
    | some (.perform o _) =>
      (!writes_status o || (s.threads (.worker job_id)).all (looks_before writes_status)) &&
        (!updates_tracker o || (s.threads (.worker job_id)).all (looks_before updates_tracker))
    | _ => true
  | .perform (.worker job_id) choice =>
    match s.threads (.worker job_id) with
    | some (.perform o _) => !(computes o && choice.raised.isSome && s.shared.record job_id = some .cancelled)
    | _ => true
  | _ => true

/-- In these phases the worker writes a status before it looks at the cancelled jobs. -/
def Phase.Writes : Phase → Prop
  | .loading | .started false | .training false => True
  | _ => False

/-- In these phases the worker updates the tracker before it looks at the cancelled jobs. -/
def Phase.Updates : Phase → Prop
  | .loading | .started _ | .training false | .ended _ => True
  | _ => False

section Worker

variable {job_id : String} {phase phase' : Phase}

theorem writes_step {o : Op} (hwrites : phase.Writes) (h : phase.step job_id o (usual o) phase') :
    if (looks_at_cancelled o || writes_status o) = true then looks_at_cancelled o = false else phase'.Writes := by
  cases o with
  | load_training_data =>
    obtain ⟨-, rfl⟩ := h
    trivial
  | in_cancelled id =>
    obtain ⟨-, rfl, -⟩ := h
    cases hwrites
  | assign id assignment =>
    cases assignment with
    | status status => rfl
    | _ =>
      obtain ⟨-, rfl, -⟩ := h
      exact hwrites
  | update_status id status =>
    obtain ⟨-, ⟨checks, rfl, -, rfl⟩ | ⟨rfl, -⟩⟩ := h
    · cases checks with
      | false => trivial
      | true => cases hwrites
    · cases hwrites
  | log_metric id epoch metric_name value =>
    obtain ⟨-, rfl, -⟩ := h
    exact hwrites
  | prepare | train_epoch | export_to_onnx =>
    obtain ⟨-, rfl⟩ := h
    exact hwrites
  | _ => cases h

theorem updates_step {o : Op} (hupdates : phase.Updates) (h : phase.step job_id o (usual o) phase') :
    if (looks_at_cancelled o || updates_tracker o) = true then looks_at_cancelled o = false else phase'.Updates := by
  cases o with
  | load_training_data =>
    obtain ⟨-, rfl⟩ := h
    trivial
  | in_cancelled id =>
    obtain ⟨-, rfl, -⟩ := h
    cases hupdates
  | assign id assignment =>
    cases assignment with
    | status status =>
      obtain ⟨-, ⟨-, -, checks, rfl⟩ | ⟨-, -, rfl⟩⟩ := h
      · trivial
      · trivial
    | _ =>
      obtain ⟨-, rfl, -⟩ := h
      exact hupdates
  | update_status id status => rfl
  | log_metric id epoch metric_name value =>
    obtain ⟨-, rfl, -⟩ := h
    exact hupdates
  | prepare | train_epoch | export_to_onnx =>
    obtain ⟨-, rfl⟩ := h
    exact hupdates
  | _ => cases h

variable {p : Operation (Option Bool)} {record tracked : Status}

/-- A worker that looks before it makes an operation of a kind is in no phase from which it makes one without
looking. -/
theorem phase_of_looks {kind : Op → Bool} {P : Phase → Prop} (hover : ¬ P .through)
    (hstep : ∀ phase o phase', P phase → phase.step job_id o (usual o) phase' →
      if (looks_at_cancelled o || kind o) = true then looks_at_cancelled o = false else P phase')
    (hworks : Works job_id p phase) (hlooks : looks_before kind p = true) : ¬ P phase := by
  intro hphase
  have hexists : ∃ o, p.first usual (fun o => looks_at_cancelled o || kind o) = some o ∧
      looks_at_cancelled o = false := by
    refine Program.Conforms.exists_first (fun phase answer hphase hfinal => ?_) hstep hworks hphase
    exact hover (hfinal ▸ hphase)
  obtain ⟨o, hfirst, hlate⟩ := hexists
  rw [looks_before, hfirst, Option.all_some, hlate] at hlooks
  cases hlooks

/-- A worker that looks before it writes the record can find it marked. -/
theorem allows_mark (hworks : Works job_id p phase) (hallows : phase.Allows record tracked)
    (hlooks : looks_before writes_status p = true) : phase.Allows .cancelled tracked := by
  have hphase : ¬ phase.Writes := phase_of_looks id (fun _ _ _ => writes_step) hworks hlooks
  cases phase with
  | loading => exact absurd trivial hphase
  | started checks =>
    cases checks with
    | false => exact absurd trivial hphase
    | true => exact ⟨.inr ⟨rfl, rfl⟩, hallows.2⟩
  | training checks =>
    cases checks with
    | false => exact absurd trivial hphase
    | true => exact .inr ⟨rfl, rfl⟩
  | ended status => exact ⟨.inr rfl, hallows.2⟩
  | through => exact .inl rfl

/-- A worker that looks before it updates the tracker can find both marked. -/
theorem allows_done (hworks : Works job_id p phase) (hlooks : looks_before updates_tracker p = true) :
    phase.Allows .cancelled .cancelled := by
  have hphase : ¬ phase.Updates := phase_of_looks id (fun _ _ _ => updates_step) hworks hlooks
  cases phase with
  | training checks =>
    cases checks with
    | false => exact absurd trivial hphase
    | true => exact .inr ⟨rfl, rfl⟩
  | through => exact .inl rfl
  | _ => exact absurd trivial hphase

variable {trainer trainer' : Trainer} {choice : Choice} {o : Op} {reply : o.Reply}

/-- A step of the worker of a job touches no other job. -/
theorem step_frame (hstep : phase.step job_id o reply phase') (h : trainer.perform choice o = some (trainer', reply)) :
    trainer'.cancelled = trainer.cancelled ∧
      ∀ other, other ≠ job_id → trainer'.record other = trainer.record other ∧
        trainer'.tracked other = trainer.tracked other := by
  have hcancelled := Trainer.cancelled_perform h
  refine ⟨?_, fun other hother => ?_⟩
  · cases o with
    | add_cancelled id => cases hstep
    | _ => exact hcancelled
  · have hrecord := Trainer.record_perform h other
    have htracked := Trainer.tracked_perform h other
    cases o with
    | assign id assignment =>
      cases assignment with
      | status status =>
        obtain ⟨rfl, -⟩ := hstep
        exact ⟨hrecord.trans (if_neg hother), htracked⟩
      | _ => exact ⟨hrecord, htracked⟩
    | update_status id status =>
      obtain ⟨rfl, -⟩ := hstep
      exact ⟨hrecord, htracked.trans (if_neg hother)⟩
    | _ => exact ⟨hrecord, htracked⟩

/-- A computation in a phase that allows the two statuses, if it does not raise in a cancelled job. -/
theorem computes_step {α : Type} {a : α} (hcomputes : phase.Computes phase' (choice.computed a))
    (hallows : phase.Allows record tracked) (hraises : record = .cancelled → choice.raised = none) :
    phase'.Allows record tracked := by
  obtain ⟨⟨checks, rfl⟩, hresult⟩ := hcomputes
  unfold Choice.computed at hresult
  cases hraised : choice.raised with
  | none =>
    rw [hraised] at hresult
    cases hresult
    exact hallows
  | some exc =>
    rw [hraised] at hresult hraises
    cases hresult
    obtain ⟨rfl, rfl⟩ | ⟨rfl, -⟩ := hallows
    · exact .inl ⟨rfl, rfl⟩
    · cases hraises rfl

/-- A step of the worker of a job. It neither cancels the job nor takes that back. -/
theorem phase_step (hstep : phase.step job_id o reply phase') (hrecord : trainer.record job_id = some record)
    (htracked : trainer.tracked job_id = some tracked) (hallows : phase.Allows record tracked)
    (hadded : record = .cancelled → job_id ∈ trainer.cancelled)
    (hraises : record = .cancelled → computes o = true → choice.raised = none)
    (h : trainer.perform choice o = some (trainer', reply)) :
    ∃ record' tracked', trainer'.record job_id = some record' ∧ trainer'.tracked job_id = some tracked' ∧
      phase'.Allows record' tracked' ∧ (record' = .cancelled ↔ record = .cancelled) ∧
      (record = .cancelled → tracked = .cancelled → tracked' = .cancelled) := by
  have hrecord' := Trainer.record_perform h job_id
  have htracked' := Trainer.tracked_perform h job_id
  cases o with
  | load_training_data =>
    refine ⟨record, tracked, hrecord'.trans hrecord, htracked'.trans htracked, ?_, Iff.rfl, fun _ htr => htr⟩
    cases reply with
    | ok arrays =>
      obtain ⟨rfl, rfl⟩ := hstep
      exact hallows
    | error e =>
      cases e with
      | exception e =>
        obtain ⟨rfl, rfl⟩ := hstep
        exact hallows
      | cancelled =>
        obtain ⟨rfl, rfl⟩ := hstep
        obtain ⟨rfl, rfl⟩ := hallows
        exact .inr rfl
  | assign id assignment =>
    cases assignment with
    | status status =>
      obtain ⟨rfl, ⟨rfl, rfl, checks, rfl⟩ | ⟨rfl, hended, rfl⟩⟩ := hstep
      · obtain ⟨rfl, rfl⟩ := hallows
        exact ⟨.running, .pending, hrecord'.trans (if_pos rfl), htracked'.trans htracked, ⟨.inl rfl, rfl⟩,
          ⟨nofun, nofun⟩, nofun⟩
      · obtain ⟨rfl, rfl⟩ | ⟨-, hchecks⟩ := hallows
        · refine ⟨status, .running, hrecord'.trans (if_pos rfl), htracked'.trans htracked, ⟨.inl rfl, rfl⟩, ?_, nofun⟩
          obtain rfl | rfl := hended
          · exact ⟨nofun, nofun⟩
          · exact ⟨nofun, nofun⟩
        · cases hchecks
    | _ =>
      obtain ⟨-, rfl, -⟩ := hstep
      exact ⟨record, tracked, hrecord'.trans hrecord, htracked'.trans htracked, hallows, Iff.rfl, fun _ htr => htr⟩
  | in_cancelled id =>
    obtain ⟨rfl, rfl, hlooked⟩ := hstep
    refine ⟨record, tracked, hrecord'.trans hrecord, htracked'.trans htracked, ?_, Iff.rfl, fun _ htr => htr⟩
    cases h
    by_cases hcancelled : id ∈ trainer.cancelled
    · rw [if_pos (decide_eq_true hcancelled)] at hlooked
      subst hlooked
      obtain ⟨rfl, rfl⟩ | ⟨rfl, -⟩ := hallows
      · exact .inr rfl
      · exact .inl rfl
    · rw [if_neg (fun hfound => hcancelled (of_decide_eq_true hfound))] at hlooked
      obtain ⟨checks, rfl⟩ := hlooked
      obtain hrunning | ⟨rfl, -⟩ := hallows
      · exact .inl hrunning
      · exact absurd (hadded rfl) hcancelled
  | update_status id status =>
    obtain ⟨rfl, hupdate⟩ := hstep
    refine ⟨record, status, hrecord'.trans hrecord, ?_, ?_, Iff.rfl, ?_⟩
    · rw [htracked', Trainer.tracked_after, if_pos rfl, htracked]
      rfl
    · obtain ⟨checks, rfl, rfl, rfl⟩ | ⟨rfl, rfl⟩ := hupdate
      · obtain ⟨rfl | hcancelled, -⟩ := hallows
        · exact .inl ⟨rfl, rfl⟩
        · exact .inr hcancelled
      · exact hallows.1.symm
    · rintro - rfl
      obtain ⟨checks, rfl, -, -⟩ | ⟨rfl, -⟩ := hupdate
      · cases hallows.2
      · cases hallows.2
  | log_metric id epoch metric_name value =>
    obtain ⟨-, rfl, -⟩ := hstep
    exact ⟨record, tracked, hrecord'.trans hrecord, htracked'.trans htracked, hallows, Iff.rfl, fun _ htr => htr⟩
  | prepare | train_epoch | export_to_onnx =>
    refine ⟨record, tracked, hrecord'.trans hrecord, htracked'.trans htracked, ?_, Iff.rfl, fun _ htr => htr⟩
    cases h
    exact computes_step hstep hallows fun hcancelled => hraises hcancelled rfl
  | _ => cases hstep

end Worker

/-- The program is between a write to the record of the job and the update of the tracker. -/
def updating (job_id : String) : Operation (Option Bool) → Bool
  | .perform (.update_status id _) _ | .perform (.assign id .completed_at) _ | .perform (.assign id (.error_message _)) _ =>
    id = job_id
  | _ => false

theorem updating_of_marked {job_id : String} {p : Operation (Option Bool)} (h : Asks job_id p .marked) :
    updating job_id p = true := by
  cases p with
  | ret answer => obtain h | ⟨h, -⟩ := h <;> cases h
  | perform o next =>
    obtain ⟨stage', hstep, -⟩ := h (usual o)
    cases o with
    | assign id assignment =>
      cases assignment with
      | completed_at => exact decide_eq_true hstep.1
      | status status =>
        obtain ⟨-, -, h, -⟩ := hstep
        cases h
      | _ => cases hstep
    | update_status id status => exact decide_eq_true hstep.1
    | add_cancelled id =>
      obtain ⟨-, h, -⟩ := hstep
      cases h
    | get_job id | status id =>
      obtain ⟨h, -⟩ := hstep
      cases h
    | _ => cases hstep

/-- What a worker, or its absence, makes of the two statuses of its job. -/
def Fits (job_id : String) : Option (Operation (Option Bool)) → Status → Status → Prop
  | none, record, tracked => Phase.through.Allows record tracked
  | some p, record, tracked => ∃ phase, Works job_id p phase ∧ phase.Allows record tracked

/-- A job with its two statuses. If it is cancelled in the record only, a request has still to update the
tracker. -/
structure JobFits (s : State) (job_id : String) (record tracked : Status) : Prop where
  has_record : s.shared.record job_id = some record
  has_tracked : s.shared.tracked job_id = some tracked
  worker : Fits job_id (s.threads (.worker job_id)) record tracked
  added : record = .cancelled → job_id ∈ s.shared.cancelled
  marked : record = .cancelled →
    tracked = .cancelled ∨ ∃ n, (s.threads (.request job_id n)).any (updating job_id) = true

def Stage.Holds (trainer : Trainer) (job_id : String) : Stage → Prop
  | .reading | .done => True
  | .added => job_id ∈ trainer.cancelled
  | .marked => trainer.record job_id = some .cancelled

structure Consistent (s : State) : Prop where
  jobs : ∀ job_id, (s.shared.record job_id = none ∧ s.shared.tracked job_id = none ∧ s.threads (.worker job_id) = none) ∨
    ∃ record tracked, JobFits s job_id record tracked
  requests : ∀ job_id n p, s.threads (.request job_id n) = some p → ∃ stage, Asks job_id p stage ∧ stage.Holds s.shared job_id

section Steps

variable {model_output_dir : String} {s s' : State} {trainer : Trainer} {job_id : String} {p : Operation (Option Bool)}

theorem shared_settle (s : State) (t : Thread) (trainer : Trainer) (p : Operation (Option Bool)) :
    ((threads model_output_dir).settle s t trainer p).shared = trainer := by
  cases p <;> rfl

/-- A job fits after a step of another thread than its worker and the requests that are about to update the
tracker. -/
theorem JobFits.frame {record tracked : Status} {t : Thread} (hfits : JobFits s job_id record tracked)
    (hworker : t ≠ .worker job_id)
    (hrequest : ∀ n, (s.threads (.request job_id n)).any (updating job_id) = true → t ≠ .request job_id n)
    (hrecord : trainer.record job_id = s.shared.record job_id)
    (htracked : trainer.tracked job_id = s.shared.tracked job_id) (hcancelled : s.shared.cancelled ⊆ trainer.cancelled) :
    JobFits ((threads model_output_dir).settle s t trainer p) job_id record tracked := by
  refine ⟨?_, ?_, ?_, fun hmarked => ?_, fun hmarked => ?_⟩
  · rw [shared_settle, hrecord, hfits.has_record]
  · rw [shared_settle, htracked, hfits.has_tracked]
  · rw [Threads.threads_settle_of_ne hworker.symm]
    exact hfits.worker
  · rw [shared_settle]
    exact hcancelled (hfits.added hmarked)
  · obtain htracked | ⟨n, hn⟩ := hfits.marked hmarked
    · exact .inl htracked
    · refine .inr ⟨n, ?_⟩
      rw [Threads.threads_settle_of_ne (hrequest n hn).symm]
      exact hn

/-- A stage of a request holds after the step of another thread. -/
theorem Stage.Holds.mono {trainer trainer' : Trainer} {stage : Stage} (h : stage.Holds trainer job_id)
    (hcancelled : trainer.cancelled ⊆ trainer'.cancelled)
    (hrecord : trainer.record job_id = some .cancelled → trainer'.record job_id = some .cancelled) :
    stage.Holds trainer' job_id := by
  cases stage with
  | reading | done => trivial
  | added => exact hcancelled h
  | marked => exact hrecord h

theorem fits_settle {phase : Phase} {record tracked : Status} (hworks : Works job_id p phase)
    (hallows : phase.Allows record tracked) :
    Fits job_id (((threads model_output_dir).settle s (.worker job_id) trainer p).threads (.worker job_id)) record
      tracked := by
  obtain ⟨⟨_, rfl⟩, hnone⟩ | hsome :=
    Threads.threads_settle_self (threads model_output_dir) s (.worker job_id) trainer p
  · rw [hnone]
    cases (hworks : phase = .through)
    exact hallows
  · rw [hsome]
    exact ⟨phase, hworks, hallows⟩

/-- The worker of a job goes on, and neither cancels the job nor takes that back. -/
theorem consistent_worker {phase : Phase} {record tracked : Status} (hc : Consistent s) (hworks : Works job_id p phase)
    (hrecord : trainer.record job_id = some record) (htracked : trainer.tracked job_id = some tracked)
    (hallows : phase.Allows record tracked) (hcancelled : trainer.cancelled = s.shared.cancelled)
    (hothers : ∀ other, other ≠ job_id → trainer.record other = s.shared.record other ∧
      trainer.tracked other = s.shared.tracked other)
    (hkept : s.shared.record job_id = some .cancelled → record = .cancelled)
    (hadded : record = .cancelled → job_id ∈ s.shared.cancelled)
    (hmarked : record = .cancelled →
      tracked = .cancelled ∨ ∃ n, (s.threads (.request job_id n)).any (updating job_id) = true) :
    Consistent ((threads model_output_dir).settle s (.worker job_id) trainer p) := by
  refine ⟨fun other => ?_, fun other n q hq => ?_⟩
  · by_cases hsame : other = job_id
    · subst hsame
      refine .inr ⟨record, tracked, ?_, ?_, fits_settle hworks hallows, fun h => ?_, fun h => ?_⟩
      · rw [shared_settle, hrecord]
      · rw [shared_settle, htracked]
      · rw [shared_settle, hcancelled]
        exact hadded h
      · obtain htr | ⟨n, hn⟩ := hmarked h
        · exact .inl htr
        · refine .inr ⟨n, ?_⟩
          have hne : Thread.request other n ≠ .worker other := nofun
          rw [Threads.threads_settle_of_ne hne]
          exact hn
    · have hne : Thread.worker other ≠ .worker job_id := fun heq => hsame (Thread.worker.inj heq)
      obtain ⟨hnorecord, hnotracked, hidle⟩ | ⟨record', tracked', hfits⟩ := hc.jobs other
      · rw [shared_settle, Threads.threads_settle_of_ne hne, (hothers other hsame).1, (hothers other hsame).2]
        exact .inl ⟨hnorecord, hnotracked, hidle⟩
      · exact .inr ⟨record', tracked', hfits.frame hne.symm (fun _ _ => nofun) (hothers other hsame).1
          (hothers other hsame).2 hcancelled.ge⟩
  · have hne : Thread.request other n ≠ .worker job_id := nofun
    rw [Threads.threads_settle_of_ne hne] at hq
    obtain ⟨stage, hasks, hholds⟩ := hc.requests other n q hq
    refine ⟨stage, hasks, ?_⟩
    rw [shared_settle]
    refine hholds.mono hcancelled.ge fun hbefore => ?_
    by_cases hsame : other = job_id
    · subst hsame
      rw [hrecord, hkept hbefore]
    · rw [(hothers other hsame).1, hbefore]

/-- A request has marked a job whose worker can find it marked, and has still to update the tracker. -/
theorem JobFits.mark {n : ℕ} {record tracked : Status} (hfits : JobFits s job_id record tracked)
    (hasks : Asks job_id p .marked) (hworker : Fits job_id (s.threads (.worker job_id)) .cancelled tracked)
    (hadded : job_id ∈ trainer.cancelled) (hrecord : trainer.record job_id = some .cancelled)
    (htracked : trainer.tracked job_id = s.shared.tracked job_id) :
    JobFits ((threads model_output_dir).settle s (.request job_id n) trainer p) job_id .cancelled tracked := by
  refine ⟨?_, ?_, ?_, fun _ => ?_, fun _ => .inr ⟨n, ?_⟩⟩
  · rw [shared_settle, hrecord]
  · rw [shared_settle, htracked, hfits.has_tracked]
  · have hne : Thread.worker job_id ≠ .request job_id n := nofun
    rw [Threads.threads_settle_of_ne hne]
    exact hworker
  · rw [shared_settle]
    exact hadded
  · obtain ⟨⟨_, rfl⟩, -⟩ | hsome :=
      Threads.threads_settle_self (threads model_output_dir) s (.request job_id n) trainer p
    · cases updating_of_marked hasks
    · rw [hsome]
      exact updating_of_marked hasks

/-- A request has updated the tracker. -/
theorem JobFits.done {n : ℕ} {record tracked : Status} (hfits : JobFits s job_id record tracked)
    (hworker : Fits job_id (s.threads (.worker job_id)) .cancelled .cancelled)
    (hcancelled : trainer.cancelled = s.shared.cancelled) (hmarked : record = .cancelled)
    (hrecord : trainer.record job_id = some .cancelled) (htracked : trainer.tracked job_id = some .cancelled) :
    JobFits ((threads model_output_dir).settle s (.request job_id n) trainer p) job_id .cancelled .cancelled := by
  refine ⟨?_, ?_, ?_, fun _ => ?_, fun _ => .inl rfl⟩
  · rw [shared_settle, hrecord]
  · rw [shared_settle, htracked]
  · have hne : Thread.worker job_id ≠ .request job_id n := nofun
    rw [Threads.threads_settle_of_ne hne]
    exact hworker
  · rw [shared_settle, hcancelled]
    exact hfits.added hmarked

theorem fits_mark {worker : Option (Operation (Option Bool))} {record tracked : Status}
    (hfits : Fits job_id worker record tracked) (hlooks : worker.all (looks_before writes_status) = true) :
    Fits job_id worker .cancelled tracked := by
  cases worker with
  | none => exact .inl rfl
  | some p =>
    obtain ⟨phase, hworks, hallows⟩ := hfits
    exact ⟨phase, hworks, allows_mark hworks hallows hlooks⟩

theorem fits_done {worker : Option (Operation (Option Bool))} {record tracked : Status}
    (hfits : Fits job_id worker record tracked) (hlooks : worker.all (looks_before updates_tracker) = true) :
    Fits job_id worker .cancelled .cancelled := by
  cases worker with
  | none => exact .inl rfl
  | some p =>
    obtain ⟨phase, hworks, -⟩ := hfits
    exact ⟨phase, hworks, allows_done hworks hlooks⟩

/-- A request for a job goes on. -/
theorem consistent_request {n : ℕ} {stage : Stage} (hc : Consistent s) (hasks : Asks job_id p stage)
    (hholds : stage.Holds trainer job_id) (hcancelled : s.shared.cancelled ⊆ trainer.cancelled)
    (hothers : ∀ other, other ≠ job_id → trainer.record other = s.shared.record other ∧
      trainer.tracked other = s.shared.tracked other)
    (hkept : s.shared.record job_id = some .cancelled → trainer.record job_id = some .cancelled)
    (hnone : s.shared.record job_id = none → s.shared.tracked job_id = none →
      trainer.record job_id = none ∧ trainer.tracked job_id = none)
    (hjob : ∀ record tracked, JobFits s job_id record tracked →
      ∃ record' tracked', JobFits ((threads model_output_dir).settle s (.request job_id n) trainer p) job_id record' tracked') :
    Consistent ((threads model_output_dir).settle s (.request job_id n) trainer p) := by
  refine ⟨fun other => ?_, fun other m q hq => ?_⟩
  · have hne : Thread.worker other ≠ .request job_id n := nofun
    obtain ⟨hnorecord, hnotracked, hidle⟩ | ⟨record, tracked, hfits⟩ := hc.jobs other
    · rw [shared_settle, Threads.threads_settle_of_ne hne]
      by_cases hsame : other = job_id
      · subst hsame
        exact .inl ⟨(hnone hnorecord hnotracked).1, (hnone hnorecord hnotracked).2, hidle⟩
      · rw [(hothers other hsame).1, (hothers other hsame).2]
        exact .inl ⟨hnorecord, hnotracked, hidle⟩
    · by_cases hsame : other = job_id
      · subst hsame
        exact .inr (hjob record tracked hfits)
      · have hrequest : ∀ m, Thread.request job_id n ≠ .request other m :=
          fun m heq => hsame (Thread.request.inj heq).1.symm
        exact .inr ⟨record, tracked, hfits.frame nofun (fun m _ => hrequest m) (hothers other hsame).1
          (hothers other hsame).2 hcancelled⟩
  · rw [shared_settle]
    obtain ⟨hslot, rfl⟩ | ⟨-, hold⟩ := Threads.threads_settle hq
    · obtain ⟨rfl, rfl⟩ := Thread.request.inj hslot
      exact ⟨stage, hasks, hholds⟩
    · obtain ⟨stage', hasks', hholds'⟩ := hc.requests other m q hold
      refine ⟨stage', hasks', hholds'.mono hcancelled fun hbefore => ?_⟩
      by_cases hsame : other = job_id
      · subst hsame
        exact hkept hbefore
      · rw [(hothers other hsame).1, hbefore]

/-- No job that is cancelled in the record has another status there after the step. -/
def Kept (s s' : State) : Prop :=
  ∀ job_id, s.shared.record job_id = some .cancelled → s'.shared.record job_id = some .cancelled

/-- A request that changes no status, and is not about to update the tracker, takes one more step. -/
theorem consistent_request_quiet {n : ℕ} {stage : Stage} (hc : Consistent s) (hasks : Asks job_id p stage)
    (hholds : stage.Holds trainer job_id) (hcancelled : s.shared.cancelled ⊆ trainer.cancelled)
    (hrecord : ∀ other, trainer.record other = s.shared.record other)
    (htracked : ∀ other, trainer.tracked other = s.shared.tracked other)
    (hthread : (s.threads (.request job_id n)).any (updating job_id) = false) :
    Consistent ((threads model_output_dir).settle s (.request job_id n) trainer p) ∧
      Kept s ((threads model_output_dir).settle s (.request job_id n) trainer p) := by
  have hother : ∀ m, (s.threads (.request job_id m)).any (updating job_id) = true →
      Thread.request job_id n ≠ .request job_id m := by
    rintro m hm heq
    rw [← heq, hthread] at hm
    cases hm
  constructor
  · apply consistent_request hc hasks hholds hcancelled
    · exact fun other _ => ⟨hrecord other, htracked other⟩
    · exact (hrecord job_id).trans
    · exact fun hr ht => ⟨(hrecord job_id).trans hr, (htracked job_id).trans ht⟩
    · exact fun record tracked hfits =>
        ⟨record, tracked, hfits.frame nofun hother (hrecord job_id) (htracked job_id) hcancelled⟩
  · intro other hbefore
    rw [shared_settle]
    exact (hrecord other).trans hbefore

theorem consistent_start {t : Thread} {c : Call} (hc : Consistent s)
    (h : (threads model_output_dir).step s (.start t c) = some s') : Consistent s' ∧ Kept s s' := by
  obtain ⟨hfree, trainer, p, hstart, rfl⟩ := Threads.step_start h
  cases t with
  | worker job_id =>
    cases c with
    | cancel_job => cases hstart
    | start_training job_config created_at =>
      simp only [threads] at hstart
      split at hstart
      · cases hstart
      · rename_i hnew
        cases hstart
        have hnone : s.shared.record job_id = none := by
          unfold Trainer.record
          rw [Option.not_isSome_iff_eq_none.mp hnew]
          rfl
        have hrecord := Trainer.record_set s.shared.jobs s.shared.cancelled
          (s.shared.create created_at job_id job_config).experiment_tracker job_id
        have htracked := fun other => ExperimentTracker.status_create_experiment s.shared.experiment_tracker created_at
          job_id other job_config.model_type
        have hworks := (run_works job_id model_output_dir job_config).bind_ret fun _ => (none : Option Bool)
        refine ⟨consistent_worker hc hworks ((hrecord job_id _).trans (if_pos rfl)) ((htracked job_id _).trans (if_pos rfl))
          ⟨rfl, rfl⟩ rfl (fun other hother => ?_) ?_ (by rintro ⟨⟩) (by rintro ⟨⟩), fun other hbefore => ?_⟩
        · exact ⟨(hrecord other _).trans (if_neg hother), (htracked other _).trans (if_neg hother)⟩
        · rw [hnone]
          rintro ⟨⟩
        · rw [shared_settle]
          have hne : other ≠ job_id := by
            rintro rfl
            rw [hnone] at hbefore
            cases hbefore
          exact ((hrecord other _).trans (if_neg hne)).trans hbefore
  | request job_id n =>
    cases c with
    | start_training job_config created_at => cases hstart
    | cancel_job =>
      cases hstart
      apply consistent_request_quiet hc (cancel_job_asks job_id) trivial subset_rfl (fun _ => rfl) fun _ => rfl
      rw [hfree]
      rfl

theorem consistent_perform_worker {choice : Choice} (hc : Consistent s)
    (hok : in_time s (.perform (.worker job_id) choice) = true)
    (h : (threads model_output_dir).step s (.perform (.worker job_id) choice) = some s') :
    Consistent s' ∧ Kept s s' := by
  obtain ⟨o, next, trainer, reply, hthread, hperform, rfl⟩ := Threads.step_perform h
  obtain ⟨-, -, hidle⟩ | ⟨record, tracked, hfits⟩ := hc.jobs job_id
  · rw [hthread] at hidle
    cases hidle
  have hworker := hfits.worker
  rw [hthread] at hworker
  obtain ⟨phase, hworks, hallows⟩ := hworker
  obtain ⟨phase', hstep, hnext⟩ := hworks reply
  have hraises : record = .cancelled → computes o = true → choice.raised = none := by
    intro hmarked hcomputes
    have hrecord := hfits.has_record
    rw [hmarked] at hrecord
    simpa [in_time, hthread, hcomputes, hrecord] using hok
  obtain ⟨hcancelled, hothers⟩ := step_frame hstep hperform
  obtain ⟨record', tracked', hrecord', htracked', hallows', hiff, hagree⟩ :=
    phase_step hstep hfits.has_record hfits.has_tracked hallows hfits.added hraises hperform
  refine ⟨consistent_worker hc hnext hrecord' htracked' hallows' hcancelled hothers (fun hbefore => ?_)
    (fun hmarked => hfits.added (hiff.mp hmarked)) fun hmarked => ?_, fun other hbefore => ?_⟩
  · rw [hfits.has_record] at hbefore
    exact hiff.mpr (Option.some.inj hbefore)
  · obtain htracked | hrequest := hfits.marked (hiff.mp hmarked)
    · exact .inl (hagree (hiff.mp hmarked) htracked)
    · exact .inr hrequest
  · rw [shared_settle]
    by_cases hsame : other = job_id
    · subst hsame
      rw [hfits.has_record] at hbefore
      rw [hrecord', hiff.mpr (Option.some.inj hbefore)]
    · rw [(hothers other hsame).1, hbefore]

theorem consistent_perform_request {n : ℕ} {choice : Choice} (hc : Consistent s)
    (hok : in_time s (.perform (.request job_id n) choice) = true)
    (h : (threads model_output_dir).step s (.perform (.request job_id n) choice) = some s') :
    Consistent s' ∧ Kept s s' := by
  obtain ⟨o, next, trainer, reply, hthread, hperform, rfl⟩ := Threads.step_perform h
  obtain ⟨stage, hasks, hholds⟩ := hc.requests job_id n _ hthread
  obtain ⟨stage', hstep, hnext⟩ := hasks reply
  have hrecord := Trainer.record_perform hperform
  have htracked := Trainer.tracked_perform hperform
  have hcancelled := Trainer.cancelled_perform hperform
  simp only [in_time, hthread, Bool.and_eq_true] at hok
  cases o with
  | get_job id | status id =>
    obtain ⟨rfl, rfl⟩ := hstep
    apply consistent_request_quiet hc hnext trivial hcancelled.ge hrecord htracked
    rw [hthread]
    rfl
  | add_cancelled id =>
    obtain ⟨rfl, rfl, rfl⟩ := hstep
    have hsubset : s.shared.cancelled ⊆ trainer.cancelled := by
      rw [hcancelled]
      exact Finset.subset_insert _ _
    have hadded : id ∈ trainer.cancelled := by
      rw [hcancelled]
      exact Finset.mem_insert_self _ _
    apply consistent_request_quiet hc hnext hadded hsubset hrecord htracked
    rw [hthread]
    rfl
  | assign id assignment =>
    cases assignment with
    | status status =>
      obtain ⟨rfl, rfl, rfl, rfl⟩ := hstep
      have hmarked : trainer.record id = some .cancelled := (hrecord id).trans (if_pos rfl)
      have hothers : ∀ other, other ≠ id → trainer.record other = s.shared.record other :=
        fun other hother => (hrecord other).trans (if_neg hother)
      refine ⟨consistent_request hc hnext hmarked hcancelled.ge (fun other hother => ⟨hothers other hother, htracked other⟩)
        (fun _ => hmarked) (fun hr _ => ?_) fun record tracked hfits => ⟨.cancelled, tracked, ?_⟩, fun other hbefore => ?_⟩
      · obtain ⟨job, hjob, -⟩ := Option.map_eq_some_iff.mp hperform
        unfold Trainer.record at hr
        rw [hjob] at hr
        cases hr
      · refine hfits.mark hnext (fits_mark hfits.worker hok.1) ?_ hmarked (htracked id)
        rw [hcancelled]
        exact hholds
      · rw [shared_settle]
        by_cases hsame : other = id
        · rw [hsame, hmarked]
        · rw [hothers other hsame, hbefore]
    | completed_at =>
      obtain ⟨rfl, rfl, rfl⟩ := hstep
      have hmarked : trainer.record id = some .cancelled := (hrecord id).trans hholds
      refine ⟨consistent_request hc hnext hmarked hcancelled.ge (fun other _ => ⟨hrecord other, htracked other⟩)
        (fun _ => hmarked) (fun hr ht => ⟨(hrecord id).trans hr, (htracked id).trans ht⟩)
        fun record tracked hfits => ⟨.cancelled, tracked, ?_⟩, fun other hbefore => ?_⟩
      · cases hfits.has_record.symm.trans hholds
        refine hfits.mark hnext hfits.worker ?_ hmarked (htracked id)
        rw [hcancelled]
        exact hfits.added rfl
      · rw [shared_settle]
        exact (hrecord other).trans hbefore
    | _ => cases hstep
  | update_status id status =>
    obtain ⟨rfl, rfl, rfl, rfl⟩ := hstep
    have hmarked : trainer.record id = some .cancelled := (hrecord id).trans hholds
    refine ⟨consistent_request hc hnext trivial hcancelled.ge (fun other hother => ⟨hrecord other, ?_⟩) (fun _ => hmarked)
      (fun hr _ => ?_) fun record tracked hfits => ⟨.cancelled, .cancelled, ?_⟩, fun other hbefore => ?_⟩
    · exact (htracked other).trans (if_neg hother)
    · cases hr.symm.trans hholds
    · cases hfits.has_record.symm.trans hholds
      refine hfits.done (fits_done hfits.worker hok.2) hcancelled rfl hmarked ?_
      rw [htracked, Trainer.tracked_after, if_pos rfl, hfits.has_tracked]
      rfl
    · rw [shared_settle]
      exact (hrecord other).trans hbefore
  | _ => cases hstep

theorem consistent_step {a : Action} (hc : Consistent s) (hok : in_time s a = true)
    (h : (threads model_output_dir).step s a = some s') : Consistent s' ∧ Kept s s' := by
  cases a with
  | start t c => exact consistent_start hc h
  | perform t choice =>
    cases t with
    | worker job_id => exact consistent_perform_worker hc hok h
    | request job_id n => exact consistent_perform_request hc hok h
  | abort t =>
    obtain ⟨_, _, -, hnone, -⟩ := Threads.step_abort h
    cases hnone

theorem consistent_initial (h : (system model_output_dir).initial s) : Consistent s := by
  obtain ⟨hnew, hidle⟩ := h
  refine ⟨fun job_id => .inl ⟨?_, ?_, hidle _⟩, fun job_id n p hp => ?_⟩
  · rw [hnew]
    rfl
  · rw [hnew]
    rfl
  · rw [hidle] at hp
    cases hp

/-- The runs in which every job is cancelled in time. -/
def InTime (s : State) (a : Action) : Prop := in_time s a = true

theorem consistent_reachable (h : (system model_output_dir).ReachableWhere InTime s) : Consistent s := by
  refine TransitionSystem.ReachableWhere.invariant (P := Consistent) ?_ ?_ h
  · exact fun s hinit => consistent_initial hinit
  · intro s a s' hc hok hstep
    exact (consistent_step hc hok hstep).1

/-- In these phases the worker has written a status, and has still to update the tracker. -/
def Phase.Updating : Phase → Prop
  | .started _ | .ended _ => True
  | _ => False

theorem updating_of_works {phase : Phase} (hworks : Works job_id p phase) (hphase : phase.Updating) :
    updating job_id p = true := by
  cases p with
  | ret answer =>
    cases (hworks : phase = .through)
    cases hphase
  | perform o next =>
    obtain ⟨phase', hstep, -⟩ := hworks (usual o)
    cases o with
    | assign id assignment =>
      cases assignment with
      | completed_at | error_message text => exact decide_eq_true hstep.1
      | status status =>
        obtain ⟨-, ⟨rfl, -⟩ | ⟨rfl, -⟩⟩ := hstep
        · cases hphase
        · cases hphase
      | _ =>
        obtain ⟨-, -, checks, rfl⟩ := hstep
        cases hphase
    | update_status id status => exact decide_eq_true hstep.1
    | load_training_data =>
      obtain ⟨rfl, -⟩ := hstep
      cases hphase
    | in_cancelled id =>
      obtain ⟨-, rfl, -⟩ := hstep
      cases hphase
    | log_metric id epoch metric_name value =>
      obtain ⟨-, -, checks, rfl⟩ := hstep
      cases hphase
    | prepare | train_epoch | export_to_onnx =>
      obtain ⟨⟨checks, rfl⟩, -⟩ := hstep
      cases hphase
    | _ => cases hstep

/-- No thread is between a write to the record of the job and the update of the tracker. -/
def Quiet (s : State) (job_id : String) : Prop := ∀ t p, s.threads t = some p → updating job_id p = false

theorem agree_of_quiet (hc : Consistent s) (hquiet : Quiet s job_id) :
    s.shared.tracked job_id = s.shared.record job_id := by
  obtain ⟨hrecord, htracked, -⟩ | ⟨record, tracked, hfits⟩ := hc.jobs job_id
  · rw [hrecord, htracked]
  have hequal : tracked = record := by
    by_cases hmarked : record = .cancelled
    · obtain htracked | ⟨n, hn⟩ := hfits.marked hmarked
      · rw [htracked, hmarked]
      · obtain ⟨p, hp, hupdating⟩ := (Option.any_eq_true _ _).mp hn
        rw [hquiet _ p hp] at hupdating
        cases hupdating
    · have hworker := hfits.worker
      cases hthread : s.threads (.worker job_id) with
      | none =>
        rw [hthread] at hworker
        obtain hcancelled | hsame := hworker
        · exact absurd hcancelled hmarked
        · exact hsame.symm
      | some p =>
        rw [hthread] at hworker
        obtain ⟨phase, hworks, hallows⟩ := hworker
        have hidle : ¬ phase.Updating := by
          intro hphase
          have hupdating := updating_of_works hworks hphase
          rw [hquiet _ p hthread] at hupdating
          cases hupdating
        cases phase with
        | loading => rw [hallows.1, hallows.2]
        | started checks => exact absurd trivial hidle
        | training checks =>
          obtain ⟨rfl, rfl⟩ | ⟨hcancelled, -⟩ := hallows
          · rfl
          · exact absurd hcancelled hmarked
        | ended status => exact absurd trivial hidle
        | through =>
          obtain hcancelled | hsame := hallows
          · exact absurd hcancelled hmarked
          · exact hsame.symm
  rw [hfits.has_record, hfits.has_tracked, hequal]

/-- A call of `cancel_job` that is about to return `True` has marked the job. -/
theorem marked_of_returned {n : ℕ} {choice : Choice} (hc : Consistent s)
    (h : (threads model_output_dir).returned s (.request job_id n) choice = some (some true)) :
    s.shared.record job_id = some .cancelled := by
  obtain ⟨o, next, trainer, reply, hthread, -, hret⟩ := Threads.perform_of_returned h
  obtain ⟨stage, hasks, hholds⟩ := hc.requests job_id n _ hthread
  obtain ⟨stage', hstep, hnext⟩ := hasks reply
  rw [hret] at hnext
  have hdone : stage' = .done := by
    obtain hdone | ⟨-, hne⟩ := hnext
    · exact hdone
    · exact absurd rfl hne
  subst hdone
  cases o with
  | update_status id status =>
    obtain ⟨-, -, rfl, -⟩ := hstep
    exact hholds
  | get_job id | status id => cases hstep.2
  | add_cancelled id => cases hstep.2.2
  | assign id assignment =>
    cases assignment with
    | status status => cases hstep.2.2.2
    | completed_at => cases hstep.2.2
    | _ => cases hstep
  | _ => cases hstep

end Steps

/-- A job stays cancelled, in steps that meet a condition, once `cancel_job` returns `True` for it, and its
record and the tracker agree if no thread is updating them. -/
def CancellationHolds (model_output_dir : String) (ok : State → Action → Prop) (s : State) : Prop :=
  (∀ job_id n choice s' later, ok s (.perform (.request job_id n) choice) →
    (system model_output_dir).step s (.perform (.request job_id n) choice) = some s' →
    (threads model_output_dir).returned s (.request job_id n) choice = some (some true) →
    (system model_output_dir).StepsWhere ok s' later → later.shared.record job_id = some .cancelled) ∧
  ∀ job_id, Quiet s job_id → s.shared.tracked job_id = s.shared.record job_id

/-- Cancelled jobs stay cancelled, and the tracker agrees, if every cancellation is in time. -/
theorem cancelled_trainings_stay_cancelled {model_output_dir : String} {s : State}
    (hreach : (system model_output_dir).ReachableWhere InTime s) : CancellationHolds model_output_dir InTime s := by
  have hc := consistent_reachable hreach
  refine ⟨fun job_id n choice s' later hok hstep hreturned hsteps => ?_, fun job_id hquiet => agree_of_quiet hc hquiet⟩
  have hmarked := (consistent_step hc hok hstep).2 job_id (marked_of_returned hc hreturned)
  refine hsteps.keeps (P := fun s => s.shared.record job_id = some .cancelled) ?_ (.step hreach hok hstep) hmarked
  intro s₁ a s₂ hreach₁ hok₁ hstep₁ hmarked₁
  exact (consistent_step (consistent_reachable hreach₁) hok₁ hstep₁).2 job_id hmarked₁

def no_trainings : State where
  shared := { jobs := Dict.empty, cancelled := ∅, experiment_tracker := .empty }
  threads _ := none

theorem no_trainings_initial (model_output_dir : String) : (system model_output_dir).initial no_trainings :=
  ⟨rfl, fun _ => rfl⟩

def calm : Choice := { now := 1, loaded := .ok synthetic }

/-- The worker of the job, and a request that cancels it, make their next step. -/
def work : Action := .perform (.worker "a") calm
def cancel : Action := .perform (.request "a" 0) calm

def start_training : Action := .start (.worker "a") (.start_training { epochs := 1 } 0)

/-- A call of `cancel_job` up to the update of the tracker. -/
def cancellation : List Action := [.start (.request "a" 0) .cancel_job, cancel, cancel, cancel, cancel, cancel]

/-- A job is cancelled before its only epoch. -/
theorem cancelled_trainings_stay_cancelled_before_epoch :
    ∃ s s' later, (system "models").ReachableWhere InTime s ∧ (system "models").step s cancel = some s' ∧
      (threads "models").returned s (.request "a" 0) calm = some (some true) ∧
      (system "models").StepsWhere InTime s' later ∧ later.threads (.worker "a") = none ∧
      later.shared.record "a" = some .cancelled := by
  have hreplay : ((system "models").replay in_time no_trainings
      (start_training :: work :: work :: work :: work :: cancellation)).any (fun s =>
        decide ((threads "models").returned s (.request "a" 0) calm = some (some true)) && in_time s cancel &&
          ((system "models").step s cancel).any fun s' =>
            ((system "models").replay in_time s' [work]).any fun later => (later.threads (.worker "a")).isNone) = true := by
    decide +kernel
  obtain ⟨s, hreach, htest⟩ := TransitionSystem.exists_of_replay InTime in_time (fun _ _ h => h)
    (no_trainings_initial "models") _ _ hreplay
  simp only [Bool.and_eq_true, decide_eq_true_eq, Option.any_eq_true] at htest
  obtain ⟨⟨hreturned, hok⟩, s', hstep, later, hlater, hover⟩ := htest
  have hsteps : (system "models").StepsWhere InTime s' later :=
    TransitionSystem.replay_steps (fun _ _ h => h) .refl hlater
  refine ⟨s, s', later, hreach, hstep, hreturned, hsteps, Option.isNone_iff_eq_none.mp hover, ?_⟩
  exact (cancelled_trainings_stay_cancelled hreach).1 "a" 0 calm s' later hok hstep hreturned hsteps

/-- A job that is cancelled while its data is loaded runs all the same. -/
theorem cancelled_training_runs :
    ¬ ∀ model_output_dir s, (system model_output_dir).Reachable s →
      CancellationHolds model_output_dir (fun _ _ => True) s := by
  intro hclaim
  have hreplay : ((system "models").replay (fun _ _ => true) no_trainings (start_training :: cancellation)).any (fun s =>
        decide ((threads "models").returned s (.request "a" 0) calm = some (some true)) &&
          ((system "models").step s cancel).any fun s' =>
            ((system "models").replay (fun _ _ => true) s' [work, work]).any fun later =>
              decide (later.shared.record "a" = some .running)) = true := by
    decide +kernel
  obtain ⟨s, hreach, htest⟩ := TransitionSystem.exists_of_replay (fun _ _ => True) (fun _ _ => true)
    (fun _ _ _ => trivial) (no_trainings_initial "models") _ _ hreplay
  simp only [Bool.and_eq_true, decide_eq_true_eq, Option.any_eq_true] at htest
  obtain ⟨hreturned, s', hstep, later, hlater, hrunning⟩ := htest
  have hsteps : (system "models").StepsWhere (fun _ _ => True) s' later :=
    TransitionSystem.replay_steps (fun _ _ _ => trivial) .refl hlater
  have hmarked := (hclaim "models" s hreach).1 "a" 0 calm s' later trivial hstep hreturned hsteps
  rw [hrunning] at hmarked
  cases hmarked

end gateway.trainer
