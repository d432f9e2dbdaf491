import Mathlib.Data.String.Basic
import EdgeGateway.Library.Paging
import EdgeGateway.Scheduler.ScoreContract

open gateway.resource_monitor gateway.scheduler_engine gateway.policies

namespace gateway.scheduler_main

/-- Paginated list of recent task placements. -/
structure TaskListResponse where
  total : ℕ
  tasks : List TaskPlacement

/-- List recent task placements with optional pagination. -/
def list_tasks (scheduler_engine : SchedulerEngine) (limit offset : ℕ) : TaskListResponse :=
  let all_results := scheduler_engine.results.values
  -- "Sort by task_id descending (newest first)"
  let sorted := all_results.insertionSort fun p q => q.task_id ≤ p.task_id
  { total := all_results.length, tasks := Paging.page sorted limit offset }

/-- The pages at offsets 0, `limit`, 2 * `limit`, up to the total, one after the other. -/
def all_pages (scheduler_engine : SchedulerEngine) (limit : ℕ) : List TaskPlacement :=
  (List.range (Paging.pageCount (list_tasks scheduler_engine limit 0).total limit)).flatMap fun k =>
    (list_tasks scheduler_engine limit (k * limit)).tasks

/-- The tasks that a step submits. -/
def submitted (t : TransitionSystem.Transition State Action) : List InferenceTask :=
  match t.action with
  | .submit_task task => [task]
  | .drain_queue => t.source.engine.task_queue
  | _ => []

/-- The ids of the tasks of a run, in the order of their submission. -/
def task_ids (trace : Trace) : List String := (trace.reverse.flatMap submitted).map (·.task_id)

/-- The placements of a run, in the order of the submissions. -/
def placements (trace : Trace) : List TaskPlacement :=
  trace.reverse.flatMap fun t => (submitted t).map (t.source.engine.place t.source.now)

section Results

variable {settings : Settings} {engine : SchedulerEngine} {trace : Trace} {s s' : State} {limit : ℕ}

theorem task_ids_cons (t : TransitionSystem.Transition State Action) :
    task_ids (t :: trace) = task_ids trace ++ (submitted t).map (·.task_id) := by
  rw [task_ids, task_ids, List.reverse_cons, List.flatMap_append, List.map_append, List.flatMap_singleton]

theorem placements_cons (t : TransitionSystem.Transition State Action) :
    placements (t :: trace) = placements trace ++ (submitted t).map (t.source.engine.place t.source.now) := by
  rw [placements, placements, List.reverse_cons, List.flatMap_append, List.flatMap_singleton]

/-- The policies of the lifespan place the task they are given. -/
theorem place_task_id (hpolicies : engine.policies = policies settings) (now : ℤ) (task : InferenceTask) :
    (engine.place now task).task_id = task.task_id := by
  have hplace : engine.place now task =
      select_placement task (engine.resource_monitor.get_resource_map now) (policies settings) := by
    rw [SchedulerEngine.place, hpolicies]
  rw [hplace]
  generalize engine.resource_monitor.get_resource_map now = resources
  obtain ⟨policy, hpolicy, hplacement⟩ := (highestScore_select_placement settings task resources).1
  have hcontract : ∃ placement, policy task resources = .ok placement ∧ placement.task_id = task.task_id := by
    simp only [policies, List.mem_cons, List.not_mem_nil, or_false] at hpolicy
    obtain rfl | rfl | rfl := hpolicy
    · obtain ⟨placement, hok, htask, _⟩ := honoursContract_latency_first task resources
      exact ⟨placement, hok, htask⟩
    · obtain ⟨placement, hok, htask, _⟩ := honoursContract_cost_aware settings.cloud_endpoint task resources
      exact ⟨placement, hok, htask⟩
    · obtain ⟨placement, hok, htask, _⟩ := honoursContract_balanced task resources
      exact ⟨placement, (BalancedPolicy.checked_evaluate_eq resources).symm.trans hok, htask⟩
  obtain ⟨placement, hok, htask⟩ := hcontract
  rw [hplacement] at hok
  cases hok
  exact htask

/-- Tasks with new ids get their results at the end, in the order of their submission. -/
theorem submit_tasks_items (now : ℤ) (tasks : List InferenceTask)
    (hnew : (engine.results.keys ++ tasks.map (·.task_id)).Nodup) :
    (tasks.foldl (fun engine task => (engine.submit_task now task).1) engine).results.items =
      engine.results.items ++ tasks.map fun task => (task.task_id, engine.place now task) := by
  induction tasks generalizing engine with
  | nil => exact (List.append_nil _).symm
  | cons task rest ih =>
    have hfresh : task.task_id ∉ engine.results.keys := by
      rw [List.nodup_append] at hnew
      exact fun hmem => hnew.2.2 _ hmem _ List.mem_cons_self rfl
    have hitems : (engine.submit_task now task).1.results.items =
        engine.results.items ++ [(task.task_id, engine.place now task)] :=
      Dict.setItem_of_not_mem _ hfresh
    rw [List.foldl_cons, ih, hitems, List.append_assoc]
    · rfl
    · rw [Dict.keys, hitems, List.map_append, List.append_assoc]
      exact hnew

/-- The results are the placements of the run, under the ids of its tasks. -/
structure Listed (trace : Trace) (engine : SchedulerEngine) : Prop where
  items : engine.results.items = (placements trace).map fun placement => (placement.task_id, placement)
  task_ids : (placements trace).map (·.task_id) = task_ids trace

theorem Listed.keys (h : Listed trace engine) : engine.results.keys = scheduler_main.task_ids trace := by
  rw [Dict.keys, h.items, List.map_map]
  exact h.task_ids

theorem Listed.values (h : Listed trace engine) : engine.results.values = placements trace := by
  rw [Dict.values, h.items, List.map_map]
  exact List.map_id _

theorem Listed.submit_tasks {t : TransitionSystem.Transition State Action} (h : Listed trace t.source.engine)
    (hpolicies : t.source.engine.policies = policies settings) (hdistinct : (scheduler_main.task_ids (t :: trace)).Nodup)
    (queue : List InferenceTask) :
    Listed (t :: trace) ((submitted t).foldl (fun engine task => (engine.submit_task t.source.now task).1)
      { t.source.engine with task_queue := queue }) := by
  have hitems := @submit_tasks_items { t.source.engine with task_queue := queue } t.source.now (submitted t)
  have hplaced : ∀ task, (t.source.engine.place t.source.now task).task_id = task.task_id :=
    place_task_id hpolicies t.source.now
  rw [task_ids_cons, ← h.keys] at hdistinct
  constructor
  · rw [hitems hdistinct, placements_cons, List.map_append, List.map_map, h.items]
    exact congrArg _ (List.map_congr_left fun task _ => Prod.ext (hplaced task).symm rfl)
  · rw [placements_cons, task_ids_cons, List.map_append, List.map_map, h.task_ids]
    exact congrArg _ (List.map_congr_left fun task _ => hplaced task)

theorem listed_of_run (h : (system settings).Run trace s) (hdistinct : (task_ids trace).Nodup) : Listed trace s.engine := by
  induction h with
  | @initial s hinit =>
    have hengine : s.engine = lifespan settings := hinit
    rw [hengine]
    exact ⟨rfl, rfl⟩
  | @step trace s s' a hrun hstep ih =>
    have hbefore : (task_ids trace).Nodup := by
      rw [task_ids_cons] at hdistinct
      exact (List.nodup_append.mp hdistinct).1
    have hafter := (ih hbefore).submit_tasks (tracks_of_run hrun).policies hdistinct
    cases hstep
    cases a with
    | drain_queue => exact hafter []
    | submit_task task => exact hafter s.engine.task_queue
    | receive_resource_report report =>
      have hsame := hafter s.engine.task_queue
      exact ⟨hsame.items, hsame.task_ids⟩
    | enqueue_task task =>
      have hsame := hafter s.engine.task_queue
      exact ⟨hsame.items, hsame.task_ids⟩
    | advance microseconds => exact hafter s.engine.task_queue

/-- The pages make up the sorted results. -/
theorem all_pages_eq (hlimit : 0 < limit) :
    all_pages engine limit = engine.results.values.insertionSort fun p q => q.task_id ≤ p.task_id := by
  have hpages := Paging.flatMap_page hlimit (engine.results.values.insertionSort fun p q => q.task_id ≤ p.task_id)
  rw [List.length_insertionSort] at hpages
  exact hpages

/-- Every placement is on one page. -/
theorem all_pages_perm (h : (system settings).Run trace s) (hdistinct : (task_ids trace).Nodup) (hlimit : 0 < limit) :
    (all_pages s.engine limit).Perm (placements trace) := by
  rw [all_pages_eq hlimit, (listed_of_run h hdistinct).values]
  exact List.perm_insertionSort _ _

/-- Sorting by descending id reverses a list exactly if its ids ascend. -/
theorem insertionSort_eq_reverse_iff {l : List TaskPlacement} (hdistinct : (l.map (·.task_id)).Nodup) :
    (l.insertionSort fun p q => q.task_id ≤ p.task_id) = l.reverse ↔ (l.map (·.task_id)).Pairwise (· < ·) := by
  have : Std.Total fun p q : TaskPlacement => q.task_id ≤ p.task_id := ⟨fun p q => le_total q.task_id p.task_id⟩
  have : IsTrans TaskPlacement fun p q => q.task_id ≤ p.task_id := ⟨fun p q r hqp hrq => hrq.trans hqp⟩
  have hsorted := List.pairwise_insertionSort (fun p q : TaskPlacement => q.task_id ≤ p.task_id) l
  constructor
  · intro heq
    rw [heq, List.pairwise_reverse] at hsorted
    have hle : (l.map (·.task_id)).Pairwise (· ≤ ·) := List.pairwise_map.mpr hsorted
    exact hle.imp₂ (fun _ _ hle hne => lt_of_le_of_ne hle hne) hdistinct
  · intro hlt
    have hreverse : l.reverse.Pairwise fun p q => q.task_id ≤ p.task_id :=
      List.pairwise_reverse.mpr ((List.pairwise_map.mp hlt).imp le_of_lt)
    refine List.Perm.eq_of_pairwise ?_ hsorted hreverse ((List.perm_insertionSort _ l).trans l.reverse_perm.symm)
    intro p q hp hq hqp hpq
    exact List.inj_on_of_nodup_map hdistinct ((List.mem_insertionSort _).mp hp) (List.mem_reverse.mp hq) (le_antisymm hpq hqp)

end Results

/-- In every run with distinct ids the pages are the placements with the newest first exactly
if each task has a greater id than those before it. -/
theorem list_tasks_newest_first_iff {settings : Settings} {trace : Trace} {s : State} {limit : ℕ}
    (h : (system settings).Run trace s) (hdistinct : (task_ids trace).Nodup) (hlimit : 0 < limit) :
    all_pages s.engine limit = (placements trace).reverse ↔ (task_ids trace).Pairwise (· < ·) := by
  have hlisted := listed_of_run h hdistinct
  rw [all_pages_eq hlimit, hlisted.values, ← hlisted.task_ids]
  rw [← hlisted.task_ids] at hdistinct
  exact insertionSort_eq_reverse_iff hdistinct

/-- Two submissions one after the other, without any node. -/
def sample_submissions (first second : String) : Trace :=
  let between := step sample_start (.submit_task { task_id := first })
  [⟨between, .submit_task { task_id := second }, step between (.submit_task { task_id := second })⟩,
    ⟨sample_start, .submit_task { task_id := first }, between⟩]

theorem run_sample_submissions (first second : String) :
    (system {}).Run (sample_submissions first second)
      (step (step sample_start (.submit_task { task_id := first })) (.submit_task { task_id := second })) :=
  .step (.step (.initial rfl) rfl) rfl

theorem list_tasks_newest_first_ascending :
    all_pages (step (step sample_start (.submit_task { task_id := "task-1" })) (.submit_task { task_id := "task-2" })).engine 1 =
      (placements (sample_submissions "task-1" "task-2")).reverse :=
  (list_tasks_newest_first_iff (run_sample_submissions "task-1" "task-2") (by decide +kernel) Nat.one_pos).mpr
    (by decide +kernel)

/-- The task that was submitted last has the smaller id and is listed last. -/
theorem list_tasks_newest_last :
    ¬ ∀ (settings : Settings) (trace : Trace) (s : State) (limit : ℕ), (system settings).Run trace s →
      (task_ids trace).Nodup → 0 < limit → all_pages s.engine limit = (placements trace).reverse := by
  intro h
  have hpages := h {} _ _ 50 (run_sample_submissions "task-2" "task-1") (by decide +kernel) (by decide)
  have hids := congrArg (List.map fun placement => placement.task_id) hpages
  revert hids
  decide +kernel

end gateway.scheduler_main
