import EdgeGateway.Library.Transition
import EdgeGateway.Scheduler.SchedulerEngine

open gateway.resource_monitor

namespace gateway.scheduler_engine

/-- What an evaluation finds: the clock, and what the policies then do, which may have a
state of their own. -/
structure Moment where
  now : ℤ
  policies : List PlacementPolicy

/-- A task that was evaluated, and whether it came from the queue. -/
structure Evaluation where
  task : InferenceTask
  queued : Bool
  placement : TaskPlacement

/-- The engine with the history of what was enqueued and evaluated. -/
structure History where
  engine : SchedulerEngine
  enqueued : List InferenceTask
  evaluations : List Evaluation

namespace History

variable (moments : ℕ → Moment) (s : History)

/-- The engine as the next evaluation finds it. -/
def current : SchedulerEngine := { s.engine with policies := (moments s.evaluations.length).policies }

/-- `submit_task`, called by a request or with a task of the queue. -/
def submit_task (queued : Bool) (task : InferenceTask) : History :=
  let (engine, placement) := (s.current moments).submit_task (moments s.evaluations.length).now task
  { s with engine := engine, evaluations := s.evaluations ++ [{ task, queued, placement }] }

def enqueue_task (task : InferenceTask) : History :=
  { s with engine := s.engine.enqueue_task task, enqueued := s.enqueued ++ [task] }

/-- `get_nowait` has taken the first task out of the queue. -/
def dequeued (rest : List InferenceTask) : History := { s with engine := { s.engine with task_queue := rest } }

/-- The loop of `drain_queue` with `processed`. -/
def drain_loop (s : History) (processed : ℕ) : History × ℕ :=
  match h : s.engine.task_queue with
  | [] => (s, processed)
  | task :: rest => drain_loop ((s.dequeued rest).submit_task moments true task) (processed + 1)
termination_by s.engine.task_queue.length
decreasing_by
  rw [h]
  exact Nat.lt_succ_self rest.length

/-- Process all tasks in the queue, and return how many these were. -/
def drain_queue : History × ℕ := s.drain_loop moments 0

/-- The placement of the latest evaluation of a task with the id. -/
def latest (task_id : String) : Option TaskPlacement :=
  (s.evaluations.reverse.find? fun evaluation => evaluation.task.task_id = task_id).map (·.placement)

/-- The tasks of the queue that were evaluated, in the order of their evaluation. -/
def evaluated : List InferenceTask := (s.evaluations.filter (·.queued)).map (·.task)

end History

inductive HistoryAction where
  | receive_resource_report (now : ℤ) (report : NodeResources)
  | submit_task (task : InferenceTask)
  | enqueue_task (task : InferenceTask)
  | drain_queue

/-- The engine from its start, whatever its policies do. -/
def histories (moments : ℕ → Moment) : TransitionSystem History HistoryAction where
  initial s := s.engine.task_queue = [] ∧ s.engine.results = .empty ∧ s.enqueued = [] ∧ s.evaluations = []
  step s
    | .receive_resource_report now report =>
      some { s with engine := { s.engine with resource_monitor := s.engine.resource_monitor.update now report } }
    | .submit_task task => some (s.submit_task moments false task)
    | .enqueue_task task => some (s.enqueue_task task)
    | .drain_queue => some (s.drain_queue moments).1

/-- The queue holds what was enqueued and is not evaluated yet, and the results the latest
placements. -/
structure Accounted (s : History) : Prop where
  enqueued : s.enqueued = s.evaluated ++ s.engine.task_queue
  results : ∀ task_id, s.engine.get_result task_id = s.latest task_id

section Lemmas

variable {moments : ℕ → Moment} {s s' : History} {task : InferenceTask} {rest : List InferenceTask}

@[simp] theorem submit_task_task_queue (queued : Bool) :
    (s.submit_task moments queued task).engine.task_queue = s.engine.task_queue := rfl

@[simp] theorem submit_task_enqueued (queued : Bool) : (s.submit_task moments queued task).enqueued = s.enqueued := rfl

theorem submit_task_evaluated (queued : Bool) :
    (s.submit_task moments queued task).evaluated = s.evaluated ++ if queued then [task] else [] := by
  unfold History.evaluated History.submit_task
  dsimp only
  rw [List.filter_append, List.map_append]
  cases queued <;> rfl

/-- An evaluation is the latest one of its task, and leaves the others as they are. -/
theorem submit_task_results (hresults : ∀ task_id, s.engine.get_result task_id = s.latest task_id) (queued : Bool)
    (task_id : String) :
    (s.submit_task moments queued task).engine.get_result task_id = (s.submit_task moments queued task).latest task_id := by
  unfold History.latest History.submit_task
  dsimp only
  rw [List.reverse_append, List.reverse_singleton, List.singleton_append, List.find?_cons]
  change (s.engine.results.set task.task_id _).get? task_id = _
  rw [Dict.get?_set]
  by_cases hsame : task_id = task.task_id
  · rw [if_pos hsame, hsame, decide_eq_true rfl]
    rfl
  · rw [if_neg hsame, decide_eq_false fun heq => hsame heq.symm]
    exact hresults task_id

theorem Accounted.submit_request (h : Accounted s) : Accounted (s.submit_task moments false task) where
  enqueued := by
    rw [submit_task_evaluated, submit_task_enqueued, submit_task_task_queue, if_neg Bool.false_ne_true, List.append_nil]
    exact h.enqueued
  results := submit_task_results h.results false

/-- The first task of the queue is the next one of those enqueued to be evaluated. -/
theorem Accounted.submit_queued (h : Accounted s) (hqueue : s.engine.task_queue = task :: rest) :
    Accounted ((s.dequeued rest).submit_task moments true task) where
  enqueued := by
    rw [submit_task_evaluated, submit_task_enqueued, submit_task_task_queue, if_pos rfl, List.append_assoc,
      List.singleton_append]
    change s.enqueued = s.evaluated ++ task :: rest
    rw [← hqueue]
    exact h.enqueued
  results := submit_task_results (s := s.dequeued rest) h.results true

theorem Accounted.enqueue_task (h : Accounted s) (task : InferenceTask) : Accounted (s.enqueue_task task) where
  enqueued := by
    change s.enqueued ++ [task] = s.evaluated ++ (s.engine.task_queue ++ [task])
    rw [h.enqueued, List.append_assoc]
  results := h.results

theorem drain_loop_nil (hqueue : s.engine.task_queue = []) (processed : ℕ) : s.drain_loop moments processed = (s, processed) := by
  rw [History.drain_loop]
  split
  · rfl
  · rename_i heq
    rw [hqueue] at heq
    cases heq

theorem drain_loop_cons (hqueue : s.engine.task_queue = task :: rest) (processed : ℕ) :
    s.drain_loop moments processed =
      ((s.dequeued rest).submit_task moments true task).drain_loop moments (processed + 1) := by
  rw [History.drain_loop]
  split
  · rename_i heq
    rw [hqueue] at heq
    cases heq
  · rename_i heq
    rw [hqueue] at heq
    cases heq
    rfl

/-- The loop ends with an empty queue, and has evaluated the tasks that were in it one by one. -/
theorem drain_loop_spec (h : Accounted s) (processed : ℕ) :
    (s.drain_loop moments processed).1.engine.task_queue = [] ∧
      (s.drain_loop moments processed).1.enqueued = s.enqueued ∧
      (s.drain_loop moments processed).2 = processed + s.engine.task_queue.length ∧
      (s.drain_loop moments processed).1.evaluations.length = s.evaluations.length + s.engine.task_queue.length ∧
      Accounted (s.drain_loop moments processed).1 := by
  generalize hqueue : s.engine.task_queue = queue
  induction queue generalizing s processed with
  | nil =>
    rw [drain_loop_nil hqueue]
    exact ⟨hqueue, rfl, rfl, rfl, h⟩
  | cons task rest ih =>
    rw [drain_loop_cons hqueue]
    obtain ⟨hempty, henqueued, hprocessed, hlength, haccounted⟩ := ih (h.submit_queued hqueue) (processed + 1) rfl
    have hone : ((s.dequeued rest).submit_task moments true task).evaluations.length = s.evaluations.length + 1 :=
      List.length_append
    refine ⟨hempty, henqueued, ?_, ?_, haccounted⟩
    · rw [hprocessed, List.length_cons]
      omega
    · rw [hlength, List.length_cons]
      omega

theorem Accounted.of_step (h : Accounted s) {a : HistoryAction} (hstep : (histories moments).step s a = some s') :
    Accounted s' := by
  cases a with
  | receive_resource_report now report =>
    cases hstep
    exact ⟨h.enqueued, h.results⟩
  | submit_task task =>
    cases hstep
    exact h.submit_request
  | enqueue_task task =>
    cases hstep
    exact h.enqueue_task task
  | drain_queue =>
    cases hstep
    exact (drain_loop_spec h 0).2.2.2.2

theorem accounted_of_reachable (h : (histories moments).Reachable s) : Accounted s := by
  refine TransitionSystem.ReachableWhere.invariant ?_ (fun s a s' haccounted _ hstep => haccounted.of_step hstep) h
  rintro s ⟨hqueue, hresults, henqueued, hevaluations⟩
  refine ⟨?_, fun task_id => ?_⟩
  · rw [hqueue, henqueued, History.evaluated, hevaluations]
    rfl
  · rw [SchedulerEngine.get_result, hresults, History.latest, hevaluations]
    rfl

/-- At one time and with policies that stay as they are, the loop does with the engine what
`drain_queue` was found to do. -/
theorem drain_loop_engine {now : ℤ} (hmoments : ∀ n, moments n = ⟨now, s.engine.policies⟩) (processed : ℕ) :
    (s.drain_loop moments processed).1.engine =
      s.engine.task_queue.foldl (fun engine task => (engine.submit_task now task).1) { s.engine with task_queue := [] } := by
  generalize hqueue : s.engine.task_queue = queue
  induction queue generalizing s processed with
  | nil => rw [drain_loop_nil hqueue, List.foldl_nil, ← hqueue]
  | cons task rest ih =>
    rw [drain_loop_cons hqueue, ih (s := (s.dequeued rest).submit_task moments true task), List.foldl_cons]
    · congr 1
      simp only [History.submit_task, History.current, History.dequeued, SchedulerEngine.submit_task, SchedulerEngine.place,
        hmoments]
    · intro n
      rw [hmoments, History.submit_task, History.current]
      simp only [hmoments, SchedulerEngine.submit_task]
    · rfl

theorem drain_queue_engine {now : ℤ} (hmoments : ∀ n, moments n = ⟨now, s.engine.policies⟩) :
    (s.drain_queue moments).1.engine = s.engine.drain_queue now :=
  drain_loop_engine hmoments 0

end Lemmas

/-- In every run the tasks from the queue are evaluated once each and in the order in which
they were enqueued, a result is the placement of the latest evaluation, and draining the
queue ends with all that was enqueued evaluated and returns the number of these evaluations. -/
theorem queue_accounted {moments : ℕ → Moment} {s : History} (h : (histories moments).Reachable s) :
    s.enqueued = s.evaluated ++ s.engine.task_queue ∧
      (∀ task_id, s.engine.get_result task_id = s.latest task_id) ∧
      (s.drain_queue moments).1.engine.task_queue = [] ∧ (s.drain_queue moments).1.evaluated = s.enqueued ∧
      (s.drain_queue moments).1.evaluations.length = s.evaluations.length + (s.drain_queue moments).2 := by
  have haccounted := accounted_of_reachable h
  obtain ⟨hempty, henqueued, hprocessed, hlength, hdrained⟩ := drain_loop_spec haccounted 0
  refine ⟨haccounted.enqueued, haccounted.results, hempty, ?_, ?_⟩
  · have hall := hdrained.enqueued
    rw [hempty, List.append_nil, henqueued] at hall
    exact hall.symm
  · rw [Nat.zero_add] at hprocessed
    exact hlength.trans (congrArg _ hprocessed.symm)

/-- The one policy raises for the first evaluation. -/
def sample_moments : ℕ → Moment
  | 0 => { now := 0, policies := [fun _ _ => .error .ValueError] }
  | n + 1 => { now := n, policies := [fun task _ => .ok { task_id := task.task_id, target := .cloud, score := 0.5 }] }

def sample_history : History := { engine := { resource_monitor := {}, policies := [] }, enqueued := [], evaluations := [] }

theorem sample_history_initial : (histories sample_moments).initial sample_history := ⟨rfl, rfl, rfl, rfl⟩

/-- A task is evaluated again under the id of the one for which the policy raised. -/
theorem queue_accounted_raising :
    ∃ s, (histories sample_moments).Reachable s ∧ s.evaluated.length = 2 ∧ s.enqueued = s.evaluated ++ s.engine.task_queue := by
  obtain ⟨s, hreach, htest⟩ := TransitionSystem.exists_of_replay (fun _ _ => True) (fun _ _ => true)
    (fun _ _ _ => trivial) sample_history_initial
    [.enqueue_task { task_id := "task-1" }, .enqueue_task { task_id := "task-1" }, .drain_queue,
      .enqueue_task { task_id := "task-2" }]
    (fun s => s.evaluated.length = 2) (by decide +kernel)
  exact ⟨s, hreach, of_decide_eq_true htest, (queue_accounted hreach).1⟩

end gateway.scheduler_engine
