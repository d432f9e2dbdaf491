import Mathlib.Algebra.Order.Floor.Semiring
import Mathlib.Data.Rat.Floor
import EdgeGateway.Library.Dict
import EdgeGateway.Library.JsonValue
import EdgeGateway.Library.Preference

namespace gateway.resource_monitor

/-- Snapshot of a single edge node's resource utilization. -/
structure NodeResources where
  node_id : String
  node_address : String := ""
  cpu_usage_percent : ℚ := 0
  memory_usage_percent : ℚ := 0
  avg_inference_latency_ms : ℚ := 0
  /-- In microseconds, UTC. -/
  last_reported : ℤ

/-- The store of the latest resource report for each edge node. -/
structure ResourceMonitor where
  nodes : Dict String NodeResources := .empty
  /-- In seconds. -/
  stale_threshold : ℚ := 30

variable (self : ResourceMonitor) (now : ℤ)

/-- Accept a new resource report from an edge node, with a timestamp that is current. -/
def ResourceMonitor.update (report : NodeResources) : ResourceMonitor :=
  { self with nodes := self.nodes.set report.node_id { report with last_reported := now } }

/-- `(now - reported_at).total_seconds()`. -/
def age_seconds (reported_at : ℤ) : ℚ := ((now - reported_at : ℤ) : ℚ) / 1000000

/-- The nodes by their ids, excluding stale ones. -/
def ResourceMonitor.get_resource_map : Dict String NodeResources :=
  self.nodes.filter fun _ node => age_seconds now node.last_reported ≤ self.stale_threshold

variable {self now} {node_id : String} {node : NodeResources}

theorem get?_update (report : NodeResources) :
    (self.update now report).nodes.get? node_id =
      if node_id = report.node_id then some { report with last_reported := now } else self.nodes.get? node_id :=
  Dict.get?_set _ _ _ _

theorem get?_resource_map_iff :
    (self.get_resource_map now).get? node_id = some node ↔
      self.nodes.get? node_id = some node ∧ age_seconds now node.last_reported ≤ self.stale_threshold := by
  rw [ResourceMonitor.get_resource_map, Dict.get?_filter, Option.filter_eq_some_iff, decide_eq_true_eq]

/-- A node that reports is seen at once, unless the monitor excludes every node. -/
theorem age_seconds_self : age_seconds now now = 0 := by
  rw [age_seconds, sub_self, Int.cast_zero, zero_div]

/-- No time is saved by waiting. -/
theorem age_seconds_nonneg {reported_at : ℤ} (h : reported_at ≤ now) : 0 ≤ age_seconds now reported_at :=
  div_nonneg (Int.cast_nonneg (sub_nonneg.mpr h)) (by decide)

end gateway.resource_monitor

open gateway.resource_monitor

namespace gateway.scheduler_engine

/-- An ML inference task submitted for placement. -/
structure InferenceTask where
  task_id : String
  input_size_bytes : ℤ := 0
  max_latency_ms : ℚ := 100
  requesting_node_id : String := ""

inductive Target where
  | edge_local
  | edge_remote
  | cloud
  deriving DecidableEq

/-- Result of the placement decision for a single task. -/
structure TaskPlacement where
  task_id : String
  target : Target
  target_node_id : String := ""
  target_endpoint : String := ""
  estimated_latency_ms : ℚ := 0
  score : ℚ := 0

/-- A policy evaluates the task against the current resource map. -/
abbrev PlacementPolicy := InferenceTask → Dict String NodeResources → Except PyExc TaskPlacement

section Select

variable (task : InferenceTask) (resources : Dict String NodeResources)

/-- The loop over the policies, with `best_placement` and `best_score`. -/
def select_loop : List PlacementPolicy → Option TaskPlacement × ℚ → Option TaskPlacement × ℚ
  | [], best => best
  | policy :: rest, (best_placement, best_score) =>
    match policy task resources with
    | .ok placement =>
      if placement.score > best_score then select_loop rest (some placement, placement.score)
      else select_loop rest (best_placement, best_score)
    -- "policy evaluation failed"
    | .error _ => select_loop rest (best_placement, best_score)

/-- The placement with the highest score, or the cloud if no policy returned a result. -/
def select_placement (policies : List PlacementPolicy) : TaskPlacement :=
  (select_loop task resources policies (none, -1)).1.getD { task_id := task.task_id, target := .cloud }

end Select

/-- Evaluate placement policies and pick the best target for each task. -/
structure SchedulerEngine where
  resource_monitor : ResourceMonitor
  policies : List PlacementPolicy
  task_queue : List InferenceTask := []
  results : Dict String TaskPlacement := .empty

namespace SchedulerEngine

variable (self : SchedulerEngine) (now : ℤ)

/-- The placement for the task. -/
def place (task : InferenceTask) : TaskPlacement :=
  select_placement task (self.resource_monitor.get_resource_map now) self.policies

def submit_task (task : InferenceTask) : SchedulerEngine × TaskPlacement :=
  ({ self with results := self.results.set task.task_id (self.place now task) }, self.place now task)

/-- Add a task to the internal queue for background processing. -/
def enqueue_task (task : InferenceTask) : SchedulerEngine := { self with task_queue := self.task_queue ++ [task] }

/-- Process all tasks in the queue. -/
def drain_queue : SchedulerEngine :=
  self.task_queue.foldl (fun engine task => (engine.submit_task now task).1) { self with task_queue := [] }

def get_result (task_id : String) : Option TaskPlacement := self.results.get? task_id

end SchedulerEngine

variable {task : InferenceTask} {resources : Dict String NodeResources}

/-- The loop scans the placements of the policies that do not fail. -/
theorem select_loop_eq (policies : List PlacementPolicy) (best : Option TaskPlacement × ℚ) :
    select_loop task resources policies best =
      RunningMax.scan TaskPlacement.score (policies.filterMap fun policy => (policy task resources).toOption) best := by
  induction policies generalizing best with
  | nil => rfl
  | cons policy rest ih =>
    rw [select_loop]
    cases hplacement : policy task resources with
    | error e =>
      rw [List.filterMap_cons_none (by rw [hplacement]; rfl)]
      exact ih _
    | ok placement =>
      rw [List.filterMap_cons_some (by rw [hplacement]; rfl), RunningMax.scan]
      dsimp only
      split <;> exact ih _

end gateway.scheduler_engine
