import Mathlib.Data.Finset.Insert
import EdgeGateway.Library.FileSystem
import EdgeGateway.Library.Threads
import EdgeGateway.MlTraining.ExperimentTracker

open gateway.experiment_tracker

namespace gateway.trainer

/-- Payload to start a new training job. -/
structure TrainingJobCreate where
  model_type : String := "autoencoder"
  epochs : ℤ := 50
  batch_size : ℤ := 64
  learning_rate : PyFloat := .ofRat PyFloat.binary64 (1 / 1000)
  data_query : List (String × JsonValue) := []

/-- Full training job representation returned by the API. -/
structure TrainingJob where
  model_type : String
  status : Status
  epochs_completed : ℕ := 0
  total_epochs : ℤ := 50
  train_loss : Option PyFloat := none
  val_loss : Option PyFloat := none
  model_path : Option String := none
  /-- Microseconds since the epoch. -/
  created_at : ℤ
  completed_at : Option ℤ := none
  error_message : Option String := none

/-- An assignment to an attribute of a job record. -/
inductive Assignment where
  | status (status : Status)
  | epochs_completed (epochs_completed : ℕ)
  | train_loss (loss : PyFloat)
  | val_loss (loss : PyFloat)
  | model_path (path : String)
  /-- The time of the assignment. -/
  | completed_at
  | error_message (text : String)

def TrainingJob.assign (job : TrainingJob) (now : ℤ) : Assignment → TrainingJob
  | .status status => { job with status }
  | .epochs_completed epochs_completed => { job with epochs_completed }
  | .train_loss loss => { job with train_loss := some loss }
  | .val_loss loss => { job with val_loss := some loss }
  | .model_path path => { job with model_path := some path }
  | .completed_at => { job with completed_at := some now }
  | .error_message text => { job with error_message := some text }

/-- The shapes of the arrays that a model is trained and validated with. -/
structure Arrays where
  x_train : ℕ × ℕ
  x_val : ℕ × ℕ

/-- The synthetic data that replaces data which could not be loaded. -/
def synthetic : Arrays := { x_train := (1000, 8), x_val := (200, 8) }

/-- An exception, by the name of its type and its text. -/
structure Exc where
  type_name : String
  text : String

inductive Architecture where
  | Autoencoder (input_dim encoding_dim : ℕ)
  | LSTMPredictor (input_dim hidden_dim num_layers output_dim : ℕ)

/-- Instantiate a model architecture by name. -/
def create_model (model_type : String) (input_dim : ℕ) : Except Exc Architecture :=
  if model_type = "autoencoder" then .ok (.Autoencoder input_dim (max (input_dim / 2) 2))
  else if model_type = "lstm" then .ok (.LSTMPredictor input_dim 32 2 input_dim)
  else
    .error
      { type_name := "ValueError"
        text := "Unknown model type '" ++ model_type ++ "'. Supported types: ['autoencoder', 'lstm']" }

/-- What the threads do, one at a time: to the job records, to the set of cancelled jobs, to the tracker, and
with the model. -/
inductive Op where
  | load_training_data (device_type start_time end_time limit : JsonValue)
  | get_job (job_id : String)
  | status (job_id : String)
  | assign (job_id : String) (assignment : Assignment)
  | add_cancelled (job_id : String)
  | in_cancelled (job_id : String)
  | update_status (job_id : String) (status : Status)
  | log_metric (job_id : String) (epoch : ℕ) (metric_name : String) (value : PyFloat)
  /-- The optimizer and the tensors. -/
  | prepare (model : Architecture) (job_config : TrainingJobCreate) (arrays : Arrays)
  /-- The training step and the validation step of an epoch, up to the two losses. -/
  | train_epoch (job_config : TrainingJobCreate)
  | export_to_onnx (input_shape : List ℕ) (output_path : String)

abbrev Op.Reply : Op → Type
  | .load_training_data .. => Except PyBaseException Arrays
  | .get_job _ | .in_cancelled _ => Bool
  | .status _ => Status
  | .assign .. | .add_cancelled _ | .update_status .. | .log_metric .. => Unit
  | .prepare .. | .export_to_onnx .. => Except Exc Unit
  | .train_epoch _ => Except Exc (PyFloat × PyFloat)

abbrev Operation (α : Type) := Program Op Op.Reply α

section Train

variable (job_id : String)

def assign (assignment : Assignment) : Operation Unit := Program.op (Op.assign job_id assignment)

def update_status (status : Status) : Operation Unit := Program.op (Op.update_status job_id status)

/-- What follows an exception. -/
def fail_training (exc : Exc) : Operation Unit := do
  assign job_id (.status .failed)
  assign job_id (.error_message (exc.type_name ++ ": " ++ exc.text))
  assign job_id .completed_at
  update_status job_id .failed

variable (model_output_dir : String) (job_config : TrainingJobCreate) (arrays : Arrays)

/-- What follows the last epoch. -/
def finish_training : Operation Unit := do
  let output_path := path_join model_output_dir (job_id ++ ".onnx")
  let input_dim := arrays.x_train.2
  let input_shape := if job_config.model_type = "lstm" then [1, 1, input_dim] else [1, input_dim]
  match ← Program.op (Op.export_to_onnx input_shape output_path) with
  | .error exc => fail_training job_id exc
  | .ok () =>
    assign job_id (.model_path output_path)
    assign job_id (.status .completed)
    assign job_id .completed_at
    update_status job_id .completed

/-- The epochs from one on. -/
def train_epochs : List ℕ → Operation Unit
  | [] => finish_training job_id model_output_dir job_config arrays
  | epoch :: epochs => do
    if ← Program.op (Op.in_cancelled job_id) then return
    match ← Program.op (Op.train_epoch job_config) with
    | .error exc => fail_training job_id exc
    | .ok (avg_train_loss, val_loss) =>
      assign job_id (.epochs_completed (epoch + 1))
      assign job_id (.train_loss avg_train_loss)
      assign job_id (.val_loss val_loss)
      Program.op (Op.log_metric job_id (epoch + 1) "train_loss" avg_train_loss)
      Program.op (Op.log_metric job_id (epoch + 1) "val_loss" val_loss)
      train_epochs epochs

/-- Blocking training loop executed in a background thread. -/
def train : Operation Unit := do
  assign job_id (.status .running)
  update_status job_id .running
  match create_model job_config.model_type arrays.x_train.2 with
  | .error exc => fail_training job_id exc
  | .ok model =>
    match ← Program.op (Op.prepare model job_config arrays) with
    | .error exc => fail_training job_id exc
    | .ok () => train_epochs job_id model_output_dir job_config arrays (List.range job_config.epochs.toNat)

end Train

/-- Load the training data, then train in the pool. Only a cancellation of the task itself ends it here. -/
def run (job_id model_output_dir : String) (job_config : TrainingJobCreate) : Operation Unit := do
  let get (key : String) (default : JsonValue) := (job_config.data_query.lookup key).getD default
  match ← Program.op (Op.load_training_data (get "device_type" .null) (get "start_time" .null) (get "end_time" .null)
      (get "limit" (.int 50000))) with
  | .error .cancelled => return
  | .error (.exception _) => train job_id model_output_dir job_config synthetic
  | .ok arrays => train job_id model_output_dir job_config arrays

/-- Request cancellation for a running or pending job. -/
def cancel_job (job_id : String) : Operation Bool := do
  if !(← Program.op (Op.get_job job_id)) then return false
  if (← Program.op (Op.status job_id)) ∈ [Status.completed, .failed, .cancelled] then return false
  Program.op (Op.add_cancelled job_id)
  assign job_id (.status .cancelled)
  assign job_id .completed_at
  update_status job_id .cancelled
  return true

structure Trainer where
  jobs : Dict String TrainingJob
  cancelled : Finset String
  experiment_tracker : ExperimentTracker

/-- The time, and what the data base, the training and the export come to. -/
structure Choice where
  now : ℤ
  loaded : Except PyBaseException Arrays
  raised : Option Exc := none
  losses : PyFloat × PyFloat := (.nan, .nan)

/-- The result of a computation, unless it raises. -/
def Choice.computed {α : Type} (choice : Choice) (a : α) : Except Exc α :=
  match choice.raised with
  | some exc => .error exc
  | none => .ok a

namespace Trainer

/-- What `start_training` does before it returns. -/
def create (trainer : Trainer) (now : ℤ) (job_id : String) (job_config : TrainingJobCreate) : Trainer where
  jobs := trainer.jobs.set job_id
    { model_type := job_config.model_type, status := .pending, total_epochs := job_config.epochs, created_at := now }
  cancelled := trainer.cancelled
  experiment_tracker := trainer.experiment_tracker.create_experiment now job_id job_config.model_type
    [("epochs", .int job_config.epochs), ("batch_size", .int job_config.batch_size),
      ("learning_rate", .float job_config.learning_rate), ("data_query", .dict job_config.data_query)]

def perform (trainer : Trainer) (choice : Choice) : (op : Op) → Option (Trainer × op.Reply)
  | .load_training_data .. => some (trainer, choice.loaded)
  | .get_job job_id => some (trainer, (trainer.jobs.get? job_id).isSome)
  | .status job_id => (trainer.jobs.get? job_id).map fun job => (trainer, job.status)
  | .assign job_id assignment =>
    (trainer.jobs.get? job_id).map fun job =>
      ({ trainer with jobs := trainer.jobs.set job_id (job.assign choice.now assignment) }, ())
  | .add_cancelled job_id => some ({ trainer with cancelled := insert job_id trainer.cancelled }, ())
  | .in_cancelled job_id => some (trainer, decide (job_id ∈ trainer.cancelled))
  | .update_status job_id status =>
    some ({ trainer with experiment_tracker := trainer.experiment_tracker.update_status job_id status }, ())
  | .log_metric job_id epoch metric_name value =>
    some ({ trainer with
      experiment_tracker := trainer.experiment_tracker.log_metric choice.now job_id epoch metric_name value }, ())
  | .prepare .. | .export_to_onnx .. => some (trainer, choice.computed ())
  | .train_epoch _ => some (trainer, choice.computed choice.losses)

end Trainer

/-- The task and the pool thread that train for a job, or a request to cancel it. -/
inductive Thread where
  | worker (job_id : String)
  | request (job_id : String) (n : ℕ)
  deriving DecidableEq

inductive Call where
  | start_training (job_config : TrainingJobCreate) (created_at : ℤ)
  | cancel_job

/-- A job gets an id that no other job has. A thread returns `None` or what `cancel_job` answers. -/
def threads (model_output_dir : String) : Threads Thread Call Trainer Op Op.Reply (Option Bool) Choice where
  start trainer
    | .worker job_id, .start_training job_config created_at =>
      if (trainer.jobs.get? job_id).isSome then none
      else
        some (trainer.create created_at job_id job_config,
          (run job_id model_output_dir job_config).bind fun _ => .ret none)
    | .request job_id _, .cancel_job => some (trainer, (cancel_job job_id).bind fun answer => .ret (some answer))
    | _, _ => none
  perform trainer _ op choice := trainer.perform choice op
  finish trainer _ := trainer
  abort _ _ := none

abbrev State := Threads.State Thread Trainer Op Op.Reply (Option Bool)
abbrev Action := Threads.Action Thread Call Choice

/-- The runs of a new `Trainer`. -/
def system (model_output_dir : String) : TransitionSystem State Action :=
  (threads model_output_dir).system fun trainer =>
    trainer = { jobs := Dict.empty, cancelled := ∅, experiment_tracker := .empty }

end gateway.trainer
