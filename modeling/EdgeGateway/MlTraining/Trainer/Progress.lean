import EdgeGateway.Library.Interference
import EdgeGateway.MlTraining.Trainer

open gateway.experiment_tracker

namespace gateway.trainer

/-- How far the training of a job is, as its record and its experiment have it. -/
structure Progress where
  epochs_completed : ℕ := 0
  train_loss : Option PyFloat := none
  val_loss : Option PyFloat := none
  metrics : List (ℕ × String × PyFloat) := []

/-- What an operation on a job makes of its progress. -/
def Progress.after (progress : Progress) : Op → Progress
  | .assign _ (.epochs_completed epochs_completed) => { progress with epochs_completed }
  | .assign _ (.train_loss loss) => { progress with train_loss := some loss }
  | .assign _ (.val_loss loss) => { progress with val_loss := some loss }
  | .log_metric _ epoch metric_name value => { progress with metrics := progress.metrics ++ [(epoch, metric_name, value)] }
  | _ => progress

/-- The metrics of an epoch with its two losses. -/
def epoch_metrics (epoch : ℕ) (losses : PyFloat × PyFloat) : List (ℕ × String × PyFloat) :=
  [(epoch, "train_loss", losses.1), (epoch, "val_loss", losses.2)]

/-- The metrics of the epochs, in order. -/
def metrics_of (losses : List (PyFloat × PyFloat)) : List (ℕ × String × PyFloat) :=
  (losses.zipIdx 1).flatMap fun (pair, epoch) => epoch_metrics epoch pair

/-- The progress after the epochs with these losses. -/
def progress_of (losses : List (PyFloat × PyFloat)) : Progress where
  epochs_completed := losses.length
  train_loss := losses.getLast?.map Prod.fst
  val_loss := losses.getLast?.map Prod.snd
  metrics := metrics_of losses

/-- The writes that record an epoch. -/
def writes (job_id : String) (epoch : ℕ) (losses : PyFloat × PyFloat) : List Op :=
  [.assign job_id (.epochs_completed epoch), .assign job_id (.train_loss losses.1), .assign job_id (.val_loss losses.2),
    .log_metric job_id epoch "train_loss" losses.1, .log_metric job_id epoch "val_loss" losses.2]

theorem metrics_of_concat (losses : List (PyFloat × PyFloat)) (pair : PyFloat × PyFloat) :
    metrics_of (losses ++ [pair]) = metrics_of losses ++ epoch_metrics (losses.length + 1) pair := by
  simp [metrics_of, List.zipIdx_append, Nat.add_comm]

theorem length_metrics_of (losses : List (PyFloat × PyFloat)) : (metrics_of losses).length = 2 * losses.length := by
  simp [metrics_of, epoch_metrics, List.length_flatMap, Nat.mul_comm]

/-- The writes bring the progress up to date. -/
theorem foldl_writes (job_id : String) (losses : List (PyFloat × PyFloat)) (pair : PyFloat × PyFloat) :
    (writes job_id (losses.length + 1) pair).foldl Progress.after (progress_of losses) = progress_of (losses ++ [pair]) := by
  simp only [writes, List.foldl_cons, List.foldl_nil, Progress.after, progress_of, metrics_of_concat, List.length_append,
    List.length_singleton, List.getLast?_concat, Option.map_some, epoch_metrics, List.append_assoc, List.cons_append,
    List.nil_append]

/-- Metrics are only added. -/
theorem metrics_prefix (ops : List Op) (progress : Progress) :
    progress.metrics <+: (ops.foldl Progress.after progress).metrics := by
  induction ops generalizing progress with
  | nil => exact List.prefix_refl _
  | cons o rest ih =>
    refine List.IsPrefix.trans ?_ (ih (progress.after o))
    cases o with
    | log_metric => exact List.prefix_append _ _
    | assign id assignment => cases assignment <;> exact List.prefix_refl _
    | _ => exact List.prefix_refl _

/-- What the service shows of a job. -/
structure View where
  progress : Progress
  status : Status
  model_path : Option String
  total_epochs : ℤ

def progress (job : TrainingJob) (experiment : Experiment) : Progress where
  epochs_completed := job.epochs_completed
  train_loss := job.train_loss
  val_loss := job.val_loss
  metrics := experiment.metrics.map fun metric => (metric.epoch, metric.metric_name, metric.value)

def view (job : TrainingJob) (experiment : Experiment) : View where
  progress := progress job experiment
  status := job.status
  model_path := job.model_path
  total_epochs := job.total_epochs

def Trainer.view (trainer : Trainer) (job_id : String) : Option View :=
  (trainer.jobs.get? job_id).bind fun job =>
    (trainer.experiment_tracker.experiments.get? job_id).map fun experiment => gateway.trainer.view job experiment

/-- The job that an operation writes to. -/
def Op.subject : Op → Option String
  | .assign job_id _ | .update_status job_id _ | .log_metric job_id _ _ _ => some job_id
  | _ => none

def View.after (view : View) (o : Op) : View :=
  match o with
  | .assign _ (.status status) => { view with status }
  | .assign _ (.model_path path) => { view with model_path := some path }
  | _ => { view with progress := view.progress.after o }

namespace Trainer

theorem view_eq {trainer : Trainer} {job_id : String} {job : TrainingJob} (hjob : trainer.jobs.get? job_id = some job) :
    trainer.view job_id = (trainer.experiment_tracker.experiments.get? job_id).map (gateway.trainer.view job) := by
  rw [view, hjob, Option.bind_some]

theorem view_eq_some_iff {trainer : Trainer} {job_id : String} {v : View} : trainer.view job_id = some v ↔
    ∃ job experiment, trainer.jobs.get? job_id = some job ∧
      trainer.experiment_tracker.experiments.get? job_id = some experiment ∧ gateway.trainer.view job experiment = v := by
  simp only [view, Option.bind_eq_some_iff, Option.map_eq_some_iff]
  constructor
  · rintro ⟨job, hjob, experiment, hexperiment, heq⟩
    exact ⟨job, experiment, hjob, hexperiment, heq⟩
  · rintro ⟨job, experiment, hjob, hexperiment, heq⟩
    exact ⟨job, hjob, experiment, hexperiment, heq⟩

/-- The view follows the experiment. -/
theorem view_tracker (trainer : Trainer) (tracker : ExperimentTracker) {other : String} {f : Experiment → Experiment}
    {g : View → View} (hget : tracker.experiments.get? other = (trainer.experiment_tracker.experiments.get? other).map f)
    (hview : ∀ job experiment, gateway.trainer.view job (f experiment) = g (gateway.trainer.view job experiment)) :
    ({ trainer with experiment_tracker := tracker } : Trainer).view other = (trainer.view other).map g := by
  unfold view
  cases trainer.jobs.get? other with
  | none => rfl
  | some job =>
    simp only [Option.bind_some, hget, Option.map_map]
    congr 1
    funext experiment
    exact hview job experiment

end Trainer

theorem view_assign (job : TrainingJob) (experiment : Experiment) (now : ℤ) (job_id : String) (assignment : Assignment) :
    view (job.assign now assignment) experiment = (view job experiment).after (.assign job_id assignment) := by
  cases assignment <;> rfl

/-- What the tracker makes of an experiment. -/
theorem get?_log_metric (tracker : ExperimentTracker) (now : ℤ) (job_id other : String) (epoch : ℕ) (metric_name : String)
    (value : PyFloat) : (tracker.log_metric now job_id epoch metric_name value).experiments.get? other =
      (tracker.experiments.get? other).map fun experiment =>
        if other = job_id then
          { experiment with metrics := experiment.metrics ++ [{ epoch, metric_name, value, timestamp := now }] }
        else experiment := by
  unfold ExperimentTracker.log_metric
  cases hexperiment : tracker.experiments.get? job_id with
  | none =>
    by_cases hsame : other = job_id
    · rw [hsame, hexperiment]
      rfl
    · simp [hsame]
  | some experiment =>
    by_cases hsame : other = job_id
    · subst hsame
      simp [hexperiment]
    · simp [Dict.get?_set, hsame]

theorem get?_update_status (tracker : ExperimentTracker) (job_id other : String) (status : Status) :
    (tracker.update_status job_id status).experiments.get? other =
      (tracker.experiments.get? other).map fun experiment =>
        if other = job_id then { experiment with status } else experiment := by
  unfold ExperimentTracker.update_status
  cases hexperiment : tracker.experiments.get? job_id with
  | none =>
    by_cases hsame : other = job_id
    · rw [hsame, hexperiment]
      rfl
    · simp [hsame]
  | some experiment =>
    by_cases hsame : other = job_id
    · subst hsame
      simp [hexperiment]
    · simp [Dict.get?_set, hsame]

section Perform

variable {trainer trainer' : Trainer} {choice : Choice} {o : Op} {reply : o.Reply}

theorem view_perform (h : trainer.perform choice o = some (trainer', reply)) (other : String) :
    trainer'.view other = (trainer.view other).map fun view => if o.subject = some other then view.after o else view := by
  cases o with
  | status job_id =>
    obtain ⟨job, -, heq⟩ := Option.map_eq_some_iff.mp h
    cases heq
    simp [Op.subject]
  | assign job_id assignment =>
    obtain ⟨job, hjob, heq⟩ := Option.map_eq_some_iff.mp h
    cases heq
    by_cases hsame : job_id = other
    · subst hsame
      have hassigned : (trainer.jobs.set job_id (job.assign choice.now assignment)).get? job_id =
          some (job.assign choice.now assignment) := by rw [Dict.get?_set, if_pos rfl]
      rw [Trainer.view_eq hassigned, Trainer.view_eq hjob]
      simp only [Op.subject, if_true, Option.map_map]
      congr 1
      funext experiment
      exact view_assign job experiment choice.now job_id assignment
    · simp [Trainer.view, Op.subject, Dict.get?_set, hsame, Ne.symm hsame]
  | log_metric job_id epoch metric_name value =>
    cases h
    refine trainer.view_tracker _ (get?_log_metric _ _ _ _ _ _ _) fun job experiment => ?_
    by_cases hsame : other = job_id
    · simp [Op.subject, hsame, view, progress, View.after, Progress.after]
    · simp [Op.subject, hsame, Ne.symm hsame]
  | update_status job_id status =>
    cases h
    refine trainer.view_tracker _ (get?_update_status _ _ _ _) fun job experiment => ?_
    by_cases hsame : other = job_id
    · simp [Op.subject, hsame, view, progress, View.after, Progress.after]
    · simp [Op.subject, hsame, Ne.symm hsame]
  | _ =>
    cases h
    exact Option.map_id'.symm

theorem isSome_jobs_perform (h : trainer.perform choice o = some (trainer', reply)) (other : String) :
    (trainer'.jobs.get? other).isSome = (trainer.jobs.get? other).isSome := by
  cases o with
  | status job_id =>
    obtain ⟨job, -, heq⟩ := Option.map_eq_some_iff.mp h
    cases heq
    rfl
  | assign job_id assignment =>
    obtain ⟨job, hjob, heq⟩ := Option.map_eq_some_iff.mp h
    cases heq
    by_cases hsame : other = job_id
    · subst hsame
      rw [Dict.get?_set, if_pos rfl, hjob]
      rfl
    · rw [Dict.get?_set, if_neg hsame]
  | _ =>
    cases h
    rfl

end Perform

/-- Where the worker of a job is: the epochs it is to train, the losses of those it has trained, what is still to be
written of the last one, and where it has exported the model. -/
structure Point where
  epochs : ℕ
  losses : List (PyFloat × PyFloat) := []
  pending : List Op := []
  model_path : Option String := none

/-- The path that the model of a job is exported to. -/
def onnx_path (model_output_dir job_id : String) : String := path_join model_output_dir (job_id ++ ".onnx")

/-- What the worker of a job does at a point. -/
inductive Point.Step (model_output_dir job_id : String) (point : Point) : (o : Op) → o.Reply → Point → Prop where
  | write (o : Op) (reply : o.Reply) (rest : List Op) (hpending : point.pending = o :: rest) :
    Step model_output_dir job_id point o reply { point with pending := rest }
  | train (job_config : TrainingJobCreate) (losses : PyFloat × PyFloat) (hpending : point.pending = [])
    (hpath : point.model_path = none) (hlength : point.losses.length < point.epochs) :
    Step model_output_dir job_id point (.train_epoch job_config) (.ok losses)
      { point with
        losses := point.losses ++ [losses]
        pending := writes job_id (point.losses.length + 1) losses }
  | save (hpending : point.pending = []) (hlength : point.losses.length = point.epochs) :
    Step model_output_dir job_id point (.assign job_id (.model_path (onnx_path model_output_dir job_id))) ()
      { point with model_path := some (onnx_path model_output_dir job_id) }
  | status (status : Status) (hpending : point.pending = []) (hpath : status = .completed → point.model_path.isSome) :
    Step model_output_dir job_id point (.assign job_id (.status status)) () point
  | settle (o : Op) (reply : o.Reply) (hpending : point.pending = []) (hsubject : o.subject = some job_id)
    (hafter : ∀ view : View, view.after o = view) : Step model_output_dir job_id point o reply point
  | read (o : Op) (reply : o.Reply) (hpending : point.pending = []) (hsubject : o.subject = none) :
    Step model_output_dir job_id point o reply point

/-- The program does the rest of what the worker of a job does from a point on. -/
def Trains {α : Type} (model_output_dir job_id : String) (p : Operation α) (point : Point) : Prop :=
  p.Conforms (Point.Step model_output_dir job_id) (fun point _ => point.pending = []) point

section Trains

variable {model_output_dir job_id : String} (job_config : TrainingJobCreate) (arrays : Arrays) {point : Point}

theorem fail_training_trains (exc : Exc) (hpending : point.pending = []) :
    Trains model_output_dir job_id (fail_training job_id exc) point := by
  intro _
  refine ⟨point, .status .failed hpending (by simp), fun _ => ?_⟩
  refine ⟨point, .settle _ _ hpending rfl fun _ => rfl, fun _ => ?_⟩
  refine ⟨point, .settle _ _ hpending rfl fun _ => rfl, fun _ => ?_⟩
  exact ⟨point, .settle _ _ hpending rfl fun _ => rfl, hpending⟩

theorem finish_training_trains (hpending : point.pending = []) (hlength : point.losses.length = point.epochs) :
    Trains model_output_dir job_id (finish_training job_id model_output_dir job_config arrays) point := by
  intro reply
  refine ⟨point, .read _ _ hpending rfl, ?_⟩
  cases reply with
  | error exc => exact fail_training_trains exc hpending
  | ok _ =>
    intro _
    refine ⟨_, .save hpending hlength, fun _ => ?_⟩
    refine ⟨_, .status .completed hpending fun _ => rfl, fun _ => ?_⟩
    refine ⟨_, .settle _ _ hpending rfl fun _ => rfl, fun _ => ?_⟩
    exact ⟨_, .settle _ _ hpending rfl fun _ => rfl, hpending⟩

/-- The loop over the epochs that are left. -/
theorem train_epochs_trains (left : ℕ) : ∀ {point : Point}, point.pending = [] → point.model_path = none →
    point.losses.length + left = point.epochs →
    Trains model_output_dir job_id (train_epochs job_id model_output_dir job_config arrays
      (List.range' point.losses.length left)) point := by
  induction left with
  | zero =>
    intro point hpending _ hlength
    exact finish_training_trains job_config arrays hpending hlength
  | succ left ih =>
    intro point hpending hpath hlength cancelled
    refine ⟨point, .read _ _ hpending rfl, ?_⟩
    cases cancelled with
    | true => exact hpending
    | false =>
      intro reply
      cases reply with
      | error exc => exact ⟨point, .read _ _ hpending rfl, fail_training_trains exc hpending⟩
      | ok losses =>
        refine ⟨_, .train job_config losses hpending hpath (by omega), fun _ => ?_⟩
        refine ⟨_, .write _ _ _ rfl, fun _ => ?_⟩
        refine ⟨_, .write _ _ _ rfl, fun _ => ?_⟩
        refine ⟨_, .write _ _ _ rfl, fun _ => ?_⟩
        refine ⟨_, .write _ _ _ rfl, fun _ => ?_⟩
        refine ⟨_, .write _ _ _ rfl, ?_⟩
        have hlength' : (point.losses ++ [losses]).length + left = point.epochs := by
          rw [List.length_append, List.length_singleton]
          omega
        have hnext := @ih { point with losses := point.losses ++ [losses], pending := [] } rfl hpath hlength'
        rw [List.length_append, List.length_singleton] at hnext
        exact hnext

theorem train_trains (hpending : point.pending = []) (hpath : point.model_path = none) (hlosses : point.losses = [])
    (hepochs : point.epochs = job_config.epochs.toNat) :
    Trains model_output_dir job_id (train job_id model_output_dir job_config arrays) point := by
  intro _
  refine ⟨point, .status .running hpending (by simp), fun _ => ?_⟩
  refine ⟨point, .settle _ _ hpending rfl fun _ => rfl, ?_⟩
  cases create_model job_config.model_type arrays.x_train.2 with
  | error exc => exact fail_training_trains exc hpending
  | ok model =>
    intro reply
    refine ⟨point, .read _ _ hpending rfl, ?_⟩
    cases reply with
    | error exc => exact fail_training_trains exc hpending
    | ok _ =>
      have hloop : Trains model_output_dir job_id (train_epochs job_id model_output_dir job_config arrays
          (List.range' point.losses.length point.epochs)) point :=
        train_epochs_trains job_config arrays point.epochs hpending hpath (by simp [hlosses])
      rw [hlosses, hepochs, List.length_nil, ← List.range_eq_range'] at hloop
      exact hloop

theorem run_trains (hpending : point.pending = []) (hpath : point.model_path = none) (hlosses : point.losses = [])
    (hepochs : point.epochs = job_config.epochs.toNat) :
    Trains model_output_dir job_id (run job_id model_output_dir job_config) point := by
  intro reply
  refine ⟨point, .read _ _ hpending rfl, ?_⟩
  cases reply with
  | error e =>
    cases e with
    | cancelled => exact hpending
    | exception e => exact train_trains job_config synthetic hpending hpath hlosses hepochs
  | ok arrays => exact train_trains job_config arrays hpending hpath hlosses hepochs

end Trains

/-- What a point says of the job: the pending writes are the last ones of the last epoch, and bring its progress up to
date. -/
structure Point.Shows (model_output_dir job_id : String) (point : Point) (view : View) : Prop where
  progress : point.pending.foldl Progress.after view.progress = progress_of point.losses
  pending : point.pending = [] ∨
    ∃ losses, point.losses.getLast? = some losses ∧ point.pending <:+ writes job_id point.losses.length losses
  total_epochs : view.total_epochs.toNat = point.epochs
  length_le : point.losses.length ≤ point.epochs
  model_path : view.model_path = point.model_path
  saved : ∀ path, point.model_path = some path →
    path = onnx_path model_output_dir job_id ∧ point.losses.length = point.epochs ∧ point.pending = []
  completed : view.status = .completed → point.model_path.isSome

namespace Point

variable {model_output_dir job_id : String} {point point' : Point} {v : View} {o : Op} {reply : o.Reply}

theorem Shows.mem_writes (h : point.Shows model_output_dir job_id v) (ho : o ∈ point.pending) :
    ∃ losses, o ∈ writes job_id point.losses.length losses := by
  obtain hnone | ⟨losses, -, hsuffix⟩ := h.pending
  · rw [hnone] at ho
    cases ho
  · exact ⟨losses, hsuffix.subset ho⟩

theorem subject_of_mem_writes {epoch : ℕ} {losses : PyFloat × PyFloat} (h : o ∈ writes job_id epoch losses) :
    o.subject = some job_id ∧ ∀ view : View, view.after o = { view with progress := view.progress.after o } := by
  simp only [writes, List.mem_cons, List.not_mem_nil, or_false] at h
  obtain rfl | rfl | rfl | rfl | rfl := h <;> exact ⟨rfl, fun _ => rfl⟩

/-- What the worker writes to. -/
theorem Step.subject (h : point.Step model_output_dir job_id o reply point') (hshows : point.Shows model_output_dir job_id v)
    {other : String} (hsubject : o.subject = some other) : other = job_id := by
  cases h with
  | write o reply rest hpending =>
    obtain ⟨losses, hwrites⟩ := hshows.mem_writes (hpending ▸ List.mem_cons_self)
    rw [(subject_of_mem_writes hwrites).1] at hsubject
    exact (Option.some.inj hsubject).symm
  | train => cases hsubject
  | save | status => exact (Option.some.inj hsubject).symm
  | settle _ _ _ hown =>
    rw [hown] at hsubject
    exact (Option.some.inj hsubject).symm
  | read _ _ _ hnone =>
    rw [hnone] at hsubject
    cases hsubject

/-- The job shows what its worker has done. -/
theorem Shows.step (h : point.Shows model_output_dir job_id v) (hstep : point.Step model_output_dir job_id o reply point') :
    point'.Shows model_output_dir job_id (if o.subject = some job_id then v.after o else v) := by
  cases hstep with
  | write o reply rest hpending =>
    obtain hnone | ⟨losses, hlast, hsuffix⟩ := h.pending
    · rw [hnone] at hpending
      cases hpending
    rw [hpending] at hsuffix
    obtain ⟨hsubject, hafter⟩ := subject_of_mem_writes (hsuffix.subset List.mem_cons_self)
    have hunsaved : point.model_path = none := by
      cases hpath : point.model_path with
      | none => rfl
      | some path =>
        have hsaved := (h.saved path hpath).2.2
        rw [hpending] at hsaved
        cases hsaved
    rw [if_pos hsubject, hafter]
    have hprogress := h.progress
    rw [hpending] at hprogress
    refine ⟨hprogress, .inr ⟨losses, hlast, (List.suffix_cons o rest).trans hsuffix⟩, h.total_epochs, h.length_le,
      h.model_path, fun path hpath => ?_, h.completed⟩
    rw [hunsaved] at hpath
    cases hpath
  | train job_config losses hpending hpath hlength =>
    have hprogress := h.progress
    rw [hpending] at hprogress
    change v.progress = progress_of point.losses at hprogress
    rw [if_neg (by simp [Op.subject])]
    refine ⟨?_, .inr ⟨losses, by simp, by simp⟩, h.total_epochs, by simpa using Nat.succ_le_of_lt hlength, h.model_path, fun path hsome => ?_,
      h.completed⟩
    · rw [hprogress]
      exact foldl_writes job_id point.losses losses
    · change point.model_path = some path at hsome
      rw [hpath] at hsome
      cases hsome
  | save hpending hlength =>
    rw [Op.subject, if_pos rfl]
    refine ⟨h.progress, h.pending, h.total_epochs, h.length_le, rfl, fun path hpath => ?_, fun _ => rfl⟩
    cases hpath
    exact ⟨rfl, hlength, hpending⟩
  | status status hpending hpath =>
    rw [Op.subject, if_pos rfl]
    exact ⟨h.progress, h.pending, h.total_epochs, h.length_le, h.model_path, h.saved, hpath⟩
  | settle _ _ _ hsubject hafter =>
    rw [if_pos hsubject, hafter]
    exact h
  | read _ _ _ hsubject =>
    rw [if_neg (by simp [hsubject])]
    exact h

/-- Only the worker of the job has a say in more than whether it is cancelled. -/
theorem Shows.cancelled (h : point.Shows model_output_dir job_id v) :
    point.Shows model_output_dir job_id { v with status := .cancelled } :=
  ⟨h.progress, h.pending, h.total_epochs, h.length_le, h.model_path, h.saved, by simp⟩

end Point

/-- What a request does to a job is to cancel it. -/
def Op.OnlyCancels (o : Op) : Prop := ∀ view : View, view.after o = view ∨ view.after o = { view with status := .cancelled }

theorem cancel_job_only_cancels {step : Thread → Point → (o : Op) → o.Reply → Point → Prop} {job_id : String} {n : ℕ}
    (hstep : ∀ point o reply, o.OnlyCancels → step (.request job_id n) point o reply point) (point : Point) :
    ((cancel_job job_id).bind fun answer => .ret (some answer)).Conforms (step (.request job_id n))
      (fun _ (_ : Option Bool) => True) point := by
  intro found
  refine ⟨point, hstep _ _ _ fun _ => .inl rfl, ?_⟩
  cases found with
  | false => trivial
  | true =>
    intro status
    refine ⟨point, hstep _ _ _ fun _ => .inl rfl, ?_⟩
    have hgoes : ((do
        Program.op (Op.add_cancelled job_id)
        assign job_id (.status .cancelled)
        assign job_id .completed_at
        update_status job_id .cancelled
        return true : Operation Bool).bind fun answer => .ret (some answer)).Conforms (step (.request job_id n))
          (fun _ (_ : Option Bool) => True) point := by
      intro _
      refine ⟨point, hstep _ _ _ fun _ => .inl rfl, fun _ => ?_⟩
      refine ⟨point, hstep _ _ _ fun _ => .inr rfl, fun _ => ?_⟩
      refine ⟨point, hstep _ _ _ fun _ => .inl rfl, fun _ => ?_⟩
      exact ⟨point, hstep _ _ _ fun _ => .inl rfl, trivial⟩
    cases status with
    | pending => exact hgoes
    | running => exact hgoes
    | _ => trivial

section Runs

variable (model_output_dir : String)

/-- The protocols of the threads. -/
def thread_step : Thread → Point → (o : Op) → o.Reply → Point → Prop
  | .worker job_id, point, o, reply, point' => point.Step model_output_dir job_id o reply point'
  | .request _ _, point, o, _, point' => o.OnlyCancels ∧ point' = point

def thread_final : Thread → Point → Option Bool → Prop
  | .worker _, point, _ => point.pending = []
  | .request _ _, _, _ => True

/-- The worker of a job holds a point that the job shows. -/
def thread_holds : Thread → Point → Trainer → Prop
  | .worker job_id, point, trainer => ∃ v, trainer.view job_id = some v ∧ point.Shows model_output_dir job_id v
  | .request _ _, _, _ => True

/-- A job without a worker is not known, or shows a point with nothing pending. -/
def thread_idle : Thread → Trainer → Prop
  | .worker job_id, trainer => trainer.jobs.get? job_id = none ∨
    ∃ v, ∃ point : Point, trainer.view job_id = some v ∧ point.Shows model_output_dir job_id v ∧ point.pending = []
  | .request _ _, _ => True

variable {model_output_dir} {trainer trainer' : Trainer}

/-- A job is shown as before, or as cancelled. -/
theorem undisturbed_of_view {u : Thread}
    (hjobs : ∀ job_id, u = .worker job_id → (trainer'.jobs.get? job_id).isSome = (trainer.jobs.get? job_id).isSome)
    (hview : ∀ job_id v, u = .worker job_id → trainer.view job_id = some v →
      trainer'.view job_id = some v ∨ trainer'.view job_id = some { v with status := .cancelled }) :
    Threads.Undisturbed (thread_holds model_output_dir) (thread_idle model_output_dir) u trainer trainer' := by
  cases u with
  | request job_id n => exact ⟨fun _ h => h, id⟩
  | worker job_id =>
    have hshows : ∀ v (point : Point), trainer.view job_id = some v → point.Shows model_output_dir job_id v →
        ∃ v', trainer'.view job_id = some v' ∧ point.Shows model_output_dir job_id v' := by
      intro v point hv hpoint
      obtain hv' | hv' := hview job_id v rfl hv
      · exact ⟨v, hv', hpoint⟩
      · exact ⟨_, hv', hpoint.cancelled⟩
    refine ⟨fun point => ?_, ?_⟩
    · rintro ⟨v, hv, hpoint⟩
      exact hshows v point hv hpoint
    · rintro (hnone | ⟨v, point, hv, hpoint, hpending⟩)
      · refine .inl ?_
        have hsame := hjobs job_id rfl
        rw [hnone] at hsame
        exact Option.isNone_iff_eq_none.mp (by simpa using hsame)
      · obtain ⟨v', hv', hpoint'⟩ := hshows v point hv hpoint
        exact .inr ⟨v', point, hv', hpoint', hpending⟩

theorem view_create (now : ℤ) (job_id other : String) (job_config : TrainingJobCreate) :
    (trainer.create now job_id job_config).view other =
      if other = job_id then
        some { progress := progress_of [], status := .pending, model_path := none, total_epochs := job_config.epochs }
      else trainer.view other := by
  unfold Trainer.view Trainer.create ExperimentTracker.create_experiment
  simp only [Dict.get?_set]
  split
  · rfl
  · rfl

theorem start_cases {t : Thread} {c : Call} {p : Operation (Option Bool)}
    (h : (threads model_output_dir).start trainer t c = some (trainer', p)) :
    (∃ job_id job_config created_at, t = .worker job_id ∧ trainer.jobs.get? job_id = none ∧
      trainer' = trainer.create created_at job_id job_config ∧
      p = (run job_id model_output_dir job_config).bind fun _ => .ret none) ∨
    ∃ job_id n, t = .request job_id n ∧ trainer' = trainer ∧
      p = (cancel_job job_id).bind fun answer => .ret (some answer) := by
  cases t with
  | worker job_id =>
    cases c with
    | cancel_job => cases h
    | start_training job_config created_at =>
      simp only [threads] at h
      split at h
      · cases h
      · rename_i hnew
        cases h
        exact .inl ⟨job_id, job_config, created_at, rfl, by simpa using hnew, rfl, rfl⟩
  | request job_id n =>
    cases c with
    | cancel_job =>
      cases h
      exact .inr ⟨job_id, n, rfl, rfl, rfl⟩
    | start_training => cases h

/-- Before its first epoch a job shows nothing. -/
theorem shows_created (job_id : String) (job_config : TrainingJobCreate) :
    ({ epochs := job_config.epochs.toNat } : Point).Shows model_output_dir job_id
      { progress := progress_of [], status := .pending, model_path := none, total_epochs := job_config.epochs } :=
  ⟨rfl, .inl rfl, rfl, Nat.zero_le _, rfl, by simp, by simp⟩

theorem protocols : Threads.Protocols (threads model_output_dir) (thread_step model_output_dir) thread_final
    (thread_holds model_output_dir) (thread_idle model_output_dir) where
  start := by
    intro trainer t c trainer' p hstart _
    obtain ⟨job_id, job_config, created_at, rfl, -, rfl, rfl⟩ | ⟨job_id, n, rfl, -, rfl⟩ := start_cases hstart
    · refine ⟨{ epochs := job_config.epochs.toNat }, ?_, _, ?_, shows_created job_id job_config⟩
      · exact Program.Conforms.bind (run_trains job_config rfl rfl rfl rfl) fun _ _ hpending => hpending
      · rw [view_create, if_pos rfl]
    · exact ⟨{ epochs := 0 }, cancel_job_only_cancels (fun _ _ _ hcancels => ⟨hcancels, rfl⟩) _, trivial⟩
  perform := by
    intro trainer t o choice trainer' reply point point' hperform hstep hholds
    cases t with
    | request => trivial
    | worker job_id =>
      obtain ⟨v, hv, hshows⟩ := hholds
      refine ⟨_, ?_, hshows.step hstep⟩
      rw [view_perform hperform, hv]
      rfl
  finish := by
    intro trainer t point a hfinal hholds
    cases t with
    | request => trivial
    | worker job_id =>
      obtain ⟨v, hv, hshows⟩ := hholds
      exact .inr ⟨v, point, hv, hshows, hfinal⟩
  abort := by
    intro trainer t trainer' point habort
    cases habort
  start_others := by
    intro trainer t c trainer' p u hstart hu
    obtain ⟨job_id, job_config, created_at, rfl, -, rfl, -⟩ | ⟨job_id, n, -, rfl, -⟩ := start_cases hstart
    · have hother : ∀ other, u = .worker other → other ≠ job_id := by
        rintro other rfl rfl
        exact hu rfl
      refine undisturbed_of_view (fun other heq => ?_) fun other v heq hv => .inl ?_
      · rw [Trainer.create, Dict.get?_set, if_neg (hother other heq)]
      · rw [view_create, if_neg (hother other heq), hv]
    · exact ⟨fun _ h => h, id⟩
  perform_others := by
    intro trainer t o choice trainer' reply point point' u hperform hstep hholds hu
    refine undisturbed_of_view (fun other _ => isSome_jobs_perform hperform other) fun other v heq hv => ?_
    have hview := view_perform hperform other
    rw [hv, Option.map_some] at hview
    by_cases hsubject : o.subject = some other
    · rw [if_pos hsubject] at hview
      cases t with
      | worker job_id =>
        obtain ⟨v', -, hshows⟩ := hholds
        obtain rfl := hstep.subject hshows hsubject
        exact absurd heq hu
      | request job_id n =>
        obtain hsame | hcancelled := hstep.1 v
        · exact .inl (hsame ▸ hview)
        · exact .inr (hcancelled ▸ hview)
    · rw [if_neg hsubject] at hview
      exact .inl hview
  finish_others := by
    intro trainer t u _
    exact ⟨fun _ h => h, id⟩
  abort_others := by
    intro trainer t trainer' u habort
    cases habort

/-- What is shown of a job, with the losses of the epochs that it has trained. -/
structure Tracks (model_output_dir job_id : String) (job : TrainingJob) (experiment : Experiment)
    (losses : List (PyFloat × PyFloat)) : Prop where
  epochs : losses.length ≤ job.total_epochs.toNat
  /-- No metric is lost, repeated or out of order. -/
  metrics : (progress job experiment).metrics <+: metrics_of losses
  /-- Nothing but the last writes of the last epoch is still to come. -/
  recorded : ∃ pending, pending.foldl Progress.after (progress job experiment) = progress_of losses ∧
    (pending = [] ∨ ∃ last, losses.getLast? = some last ∧ pending <:+ writes job_id losses.length last)
  saved : ∀ path, job.model_path = some path → path = onnx_path model_output_dir job_id ∧
    losses.length = job.total_epochs.toNat ∧ progress job experiment = progress_of losses
  completed : job.status = .completed → job.model_path.isSome

theorem tracks_of_shows {job_id : String} {point : Point} {job : TrainingJob} {experiment : Experiment}
    (h : point.Shows model_output_dir job_id (view job experiment)) :
    Tracks model_output_dir job_id job experiment point.losses := by
  have hepochs : job.total_epochs.toNat = point.epochs := h.total_epochs
  have hpath : job.model_path = point.model_path := h.model_path
  have hprogress : point.pending.foldl Progress.after (progress job experiment) = progress_of point.losses := h.progress
  refine ⟨hepochs ▸ h.length_le, ?_, ⟨point.pending, hprogress, h.pending⟩, fun path hsome => ?_, fun hcompleted => ?_⟩
  · have hprefix := metrics_prefix point.pending (progress job experiment)
    rwa [hprogress] at hprefix
  · obtain ⟨hsaved, hlength, hpending⟩ := h.saved path (hpath ▸ hsome)
    rw [hpending] at hprogress
    exact ⟨hsaved, hlength.trans hepochs.symm, hprogress⟩
  · rw [hpath]
    exact h.completed hcompleted

end Runs

section OneEpoch

def no_jobs : State where
  shared := { jobs := Dict.empty, cancelled := ∅, experiment_tracker := .empty }
  threads _ := none

theorem no_jobs_initial : (system "models").initial no_jobs := ⟨rfl, fun _ => rfl⟩

/-- The data is not there, and the only epoch has the losses 1/2 and 3/4. -/
def one_epoch : Choice where
  now := 1
  loaded := .error (.exception .ValueError)
  losses := (.ofRat PyFloat.binary64 (1 / 2), .ofRat PyFloat.binary64 (3 / 4))

end OneEpoch

end gateway.trainer
