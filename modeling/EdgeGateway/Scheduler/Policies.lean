import Mathlib.Data.List.Sort
import EdgeGateway.Library.PyRound
import EdgeGateway.Scheduler.SchedulerEngine

open gateway.resource_monitor gateway.scheduler_engine

namespace gateway.policies

/-! What the policies have in common. -/

section Common

variable (task : InferenceTask) (node : NodeResources)

/-- The requesting node if it is among the healthy ones, otherwise the least loaded one. -/
def preferred (healthy : List NodeResources) : Option NodeResources :=
  match healthy.find? fun node => node.node_id = task.requesting_node_id with
  | some node => some node
  | none => (healthy.insertionSort fun n m => n.cpu_usage_percent ≤ m.cpu_usage_percent).head?

def is_local : Bool := node.node_id = task.requesting_node_id

/-- The average latency of the node, if it has one. -/
def estimated (default : ℚ) : ℚ := if node.avg_inference_latency_ms > 0 then node.avg_inference_latency_ms else default

def edge_placement (estimated score : ℚ) : TaskPlacement where
  task_id := task.task_id
  target := if is_local task node then .edge_local else .edge_remote
  target_node_id := node.node_id
  target_endpoint := node.node_address
  estimated_latency_ms := estimated
  score := score

def SMALL_MODEL_SIZE_BYTES : ℤ := 10 * 1024 * 1024

def CPU_OVERLOAD_PERCENT : ℚ := 85

def MEMORY_OVERLOAD_PERCENT : ℚ := 90

def overloaded : Bool := node.cpu_usage_percent > CPU_OVERLOAD_PERCENT || node.memory_usage_percent > MEMORY_OVERLOAD_PERCENT

end Common

/-- Always prefer edge placement, unless every known edge node is overloaded. -/
def latency_first (task : InferenceTask) (resources : Dict String NodeResources) : TaskPlacement :=
  if resources.values.isEmpty then
    { task_id := task.task_id, target := .cloud, estimated_latency_ms := 50, score := 0.3 }
  else
    match preferred task (resources.values.filter (!overloaded ·)) with
    -- No node is healthy.
    | none => { task_id := task.task_id, target := .cloud, estimated_latency_ms := 50, score := 0.35 }
    | some best => edge_placement task best (estimated best 10) (if is_local task best then 0.9 else 0.8)

structure CostAwarePolicy where
  cloud_endpoint : String := "http://cloud-api:8080"
  cloud_cost_factor : ℚ := 0.15
  small_model_threshold : ℤ := SMALL_MODEL_SIZE_BYTES

namespace CostAwarePolicy

variable (self : CostAwarePolicy) (task : InferenceTask) (resources : Dict String NodeResources)

def is_small_model : Bool := task.input_size_bytes < self.small_model_threshold

def healthy_nodes : List NodeResources :=
  resources.values.filter fun n => n.cpu_usage_percent ≤ CPU_OVERLOAD_PERCENT && n.memory_usage_percent ≤ MEMORY_OVERLOAD_PERCENT

/-- Large model or no healthy edge nodes. -/
def cloud_placement : TaskPlacement where
  task_id := task.task_id
  target := .cloud
  target_endpoint := self.cloud_endpoint
  estimated_latency_ms := 40
  score := max 0.1 (if resources.values.isEmpty then 0.6 else 0.7 - self.cloud_cost_factor)

/-- Prefer cheap edge inference for small models, cloud for large ones. -/
def evaluate : TaskPlacement :=
  if self.is_small_model task then
    match preferred task (healthy_nodes resources) with
    | some best => edge_placement task best (estimated best 15) (if is_local task best then 0.85 else 0.75)
    | none => self.cloud_placement task resources
  else self.cloud_placement task resources

end CostAwarePolicy

structure BalancedPolicy where
  latency_weight : ℚ := 0.6
  cost_weight : ℚ := 0.4

namespace BalancedPolicy

variable (self : BalancedPolicy) (task : InferenceTask)

/-- Latency score for an edge placement. It divides by a positive number only. -/
def latency_score_edge (node : NodeResources) : ℚ :=
  if estimated node 10 ≥ task.max_latency_ms then 0 else max 0 (1 - estimated node 10 / task.max_latency_ms)

def latency_score_cloud : ℚ := if 50 ≥ task.max_latency_ms then 0 else max 0 (1 - 50 / task.max_latency_ms)

def cost_score_edge : ℚ := if task.input_size_bytes < SMALL_MODEL_SIZE_BYTES then 0.9 else 0.5

def cost_score_cloud : ℚ := if task.input_size_bytes < SMALL_MODEL_SIZE_BYTES then 0.3 else 0.7

def edge_score (node : NodeResources) : ℚ :=
  self.latency_weight * latency_score_edge task node + self.cost_weight * cost_score_edge task

def cloud_score : ℚ := self.latency_weight * latency_score_cloud task + self.cost_weight * cost_score_cloud task

/-- The loop over the nodes, with `best_edge_node` and `best_edge_score`. -/
def edge_loop : List NodeResources → Option NodeResources × ℚ → Option NodeResources × ℚ
  | [], best => best
  | node :: rest, (best_edge_node, best_edge_score) =>
    if overloaded node then edge_loop rest (best_edge_node, best_edge_score)
    else if self.edge_score task node > best_edge_score then edge_loop rest (some node, self.edge_score task node)
    else edge_loop rest (best_edge_node, best_edge_score)

def cloud_placement : TaskPlacement where
  task_id := task.task_id
  target := .cloud
  estimated_latency_ms := 50
  score := PyRound.round (self.cloud_score task) 4

/-- The candidate with the highest weighted total. -/
def evaluate (resources : Dict String NodeResources) : TaskPlacement :=
  match self.edge_loop task resources.values (none, -1) with
  | (some best_edge_node, best_edge_score) =>
    if best_edge_score ≥ self.cloud_score task then
      edge_placement task best_edge_node (estimated best_edge_node 10) (PyRound.round best_edge_score 4)
    else self.cloud_placement task
  | (none, _) => self.cloud_placement task

end BalancedPolicy

section Lemmas

variable {task : InferenceTask} {node best : NodeResources} {healthy : List NodeResources}
  {resources : Dict String NodeResources}

theorem mem_of_preferred (h : preferred task healthy = some best) : best ∈ healthy := by
  unfold preferred at h
  split at h
  · rename_i node hfind
    cases h
    exact List.mem_of_find?_eq_some hfind
  · exact (List.mem_insertionSort _).mp (List.mem_of_head? h)

theorem preferred_eq_none_iff : preferred task healthy = none ↔ healthy = [] := by
  unfold preferred
  constructor
  · intro h
    split at h
    · cases h
    · rw [List.head?_eq_none_iff, ← List.length_eq_zero_iff, List.length_insertionSort] at h
      exact List.length_eq_zero_iff.mp h
  · rintro rfl
    rfl

/-- The node is within the limits on CPU and memory. -/
def Healthy (node : NodeResources) : Prop := node.cpu_usage_percent ≤ 85 ∧ node.memory_usage_percent ≤ 90

theorem not_overloaded_iff : overloaded node = false ↔ Healthy node := by
  simp [overloaded, Healthy, CPU_OVERLOAD_PERCENT, MEMORY_OVERLOAD_PERCENT]

theorem mem_not_overloaded_iff : node ∈ resources.values.filter (!overloaded ·) ↔ node ∈ resources.values ∧ Healthy node := by
  rw [List.mem_filter, Bool.not_eq_true', not_overloaded_iff]

/-- The first policy scores more than the loop over the policies starts with. -/
theorem start_lt_latency_first : -1 < (latency_first task resources).score := by
  unfold latency_first
  split
  · norm_num
  · split
    · norm_num
    · simp only [edge_placement]
      split <;> norm_num

/-- The policies agree on which nodes are healthy. -/
theorem healthy_nodes_eq : CostAwarePolicy.healthy_nodes resources = resources.values.filter (!overloaded ·) := by
  refine List.filter_congr fun node _ => Bool.eq_iff_iff.mpr ?_
  rw [Bool.not_eq_true', not_overloaded_iff, Bool.and_eq_true, decide_eq_true_eq, decide_eq_true_eq]
  rfl

/-- The loop scans the nodes that are not overloaded. -/
theorem edge_loop_eq (self : BalancedPolicy) (nodes : List NodeResources) (best : Option NodeResources × ℚ) :
    self.edge_loop task nodes best = RunningMax.scan (self.edge_score task) (nodes.filter (!overloaded ·)) best := by
  induction nodes generalizing best with
  | nil => rfl
  | cons node rest ih =>
    rw [BalancedPolicy.edge_loop]
    cases hoverloaded : overloaded node with
    | true =>
      rw [if_pos rfl, List.filter_cons_of_neg (by simp [hoverloaded])]
      exact ih _
    | false =>
      rw [if_neg Bool.false_ne_true, List.filter_cons_of_pos (by simp [hoverloaded]), RunningMax.scan]
      split <;> exact ih _

end Lemmas

end gateway.policies
