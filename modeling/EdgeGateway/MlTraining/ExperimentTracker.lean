import EdgeGateway.Library.Dict
import EdgeGateway.Library.JsonValue

namespace gateway.experiment_tracker

inductive Status where
  | pending
  | running
  | completed
  | failed
  | cancelled
  deriving DecidableEq

/-- An observation of a metric. -/
structure Metric where
  epoch : ℕ
  metric_name : String
  value : PyFloat
  /-- Microseconds since the epoch. -/
  timestamp : ℤ

structure Experiment where
  model_type : String
  config : List (String × JsonValue)
  status : Status
  metrics : List Metric
  created_at : ℤ

/-- Track training experiments and their metrics. Every method holds the lock throughout. -/
structure ExperimentTracker where
  experiments : Dict String Experiment

namespace ExperimentTracker

def empty : ExperimentTracker := { experiments := Dict.empty }

/-- Create a new experiment entry. -/
def create_experiment (tracker : ExperimentTracker) (now : ℤ) (job_id model_type : String)
    (config : List (String × JsonValue)) : ExperimentTracker :=
  { experiments := tracker.experiments.set job_id { model_type, config, status := .pending, metrics := [], created_at := now } }

/-- Record a metric observation for a training epoch. -/
def log_metric (tracker : ExperimentTracker) (now : ℤ) (job_id : String) (epoch : ℕ) (metric_name : String)
    (value : PyFloat) : ExperimentTracker :=
  match tracker.experiments.get? job_id with
  | none => tracker
  | some experiment =>
    { experiments := tracker.experiments.set job_id
        { experiment with metrics := experiment.metrics ++ [{ epoch, metric_name, value, timestamp := now }] } }

/-- Update the status of an experiment. -/
def update_status (tracker : ExperimentTracker) (job_id : String) (status : Status) : ExperimentTracker :=
  match tracker.experiments.get? job_id with
  | none => tracker
  | some experiment => { experiments := tracker.experiments.set job_id { experiment with status } }

def status (tracker : ExperimentTracker) (job_id : String) : Option Status :=
  (tracker.experiments.get? job_id).map Experiment.status

variable (tracker : ExperimentTracker) (now : ℤ) (job_id other : String)

theorem status_set (experiment : Experiment) :
    ({ experiments := tracker.experiments.set job_id experiment } : ExperimentTracker).status other =
      if other = job_id then some experiment.status else tracker.status other := by
  unfold status
  rw [Dict.get?_set]
  split <;> rfl

theorem status_create_experiment (model_type : String) (config : List (String × JsonValue)) :
    (tracker.create_experiment now job_id model_type config).status other =
      if other = job_id then some .pending else tracker.status other := by
  unfold create_experiment
  rw [status_set]

theorem status_log_metric (epoch : ℕ) (metric_name : String) (value : PyFloat) :
    (tracker.log_metric now job_id epoch metric_name value).status other = tracker.status other := by
  unfold log_metric
  split
  · rfl
  · rename_i experiment hexperiment
    rw [status_set]
    split
    · rename_i heq
      unfold status
      rw [heq, hexperiment]
      rfl
    · rfl

theorem status_update_status (status : Status) :
    (tracker.update_status job_id status).status other =
      if other = job_id then (tracker.status job_id).map fun _ => status else tracker.status other := by
  unfold update_status
  split
  · rename_i hnone
    split
    · rename_i heq
      unfold ExperimentTracker.status
      rw [heq, hnone]
      rfl
    · rfl
  · rename_i experiment hexperiment
    rw [status_set]
    split
    · unfold ExperimentTracker.status
      rw [hexperiment]
      rfl
    · rfl

end ExperimentTracker

end gateway.experiment_tracker
