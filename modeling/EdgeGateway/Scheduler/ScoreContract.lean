import EdgeGateway.Scheduler.AdaptiveScheduler
import EdgeGateway.Scheduler.LatencyConstraint

/-! The policies with the divisions that raise. -/

open gateway.resource_monitor gateway.scheduler_engine

namespace gateway

/-- `x / y`. -/
def divide (x y : ℚ) : Except PyExc ℚ := if y = 0 then .error .ZeroDivisionError else .ok (x / y)

theorem divide_of_ne_zero {x y : ℚ} (h : y ≠ 0) : divide x y = .ok (x / y) := if_neg h

namespace policies

/-- A policy returns a placement of the task with a score between 0 and 1. -/
def HonoursContract (policy : PlacementPolicy) : Prop :=
  ∀ task resources, ∃ placement, policy task resources = .ok placement ∧ placement.task_id = task.task_id ∧
    placement.score ∈ Set.Icc 0 1

namespace BalancedPolicy

open scheduler_main (estimated_pos)

variable (self : BalancedPolicy) (task : InferenceTask)

def checked_latency_score_edge (node : NodeResources) : Except PyExc ℚ :=
  if estimated node 10 ≥ task.max_latency_ms then .ok 0
  else do
    let ratio ← divide (estimated node 10) task.max_latency_ms
    return max 0 (1 - ratio)

def checked_latency_score_cloud : Except PyExc ℚ :=
  if 50 ≥ task.max_latency_ms then .ok 0
  else do
    let ratio ← divide 50 task.max_latency_ms
    return max 0 (1 - ratio)

def checked_edge_loop : List NodeResources → Option NodeResources × ℚ → Except PyExc (Option NodeResources × ℚ)
  | [], best => .ok best
  | node :: rest, (best_edge_node, best_edge_score) =>
    if overloaded node then checked_edge_loop rest (best_edge_node, best_edge_score)
    else do
      let lat_score ← checked_latency_score_edge task node
      let combined := self.latency_weight * lat_score + self.cost_weight * cost_score_edge task
      if combined > best_edge_score then checked_edge_loop rest (some node, combined)
      else checked_edge_loop rest (best_edge_node, best_edge_score)

def checked_evaluate : PlacementPolicy := fun task resources => do
  let (best_edge_node, best_edge_score) ← self.checked_edge_loop task resources.values (none, -1)
  let cloud_lat_score ← checked_latency_score_cloud task
  let cloud_score := self.latency_weight * cloud_lat_score + self.cost_weight * cost_score_cloud task
  let cloud : TaskPlacement :=
    { task_id := task.task_id, target := .cloud, estimated_latency_ms := 50, score := PyRound.round cloud_score 4 }
  match best_edge_node with
  | some best_edge_node =>
    if best_edge_score ≥ cloud_score then
      return edge_placement task best_edge_node (estimated best_edge_node 10) (PyRound.round best_edge_score 4)
    else return cloud
  | none => return cloud

variable {self task}

theorem checked_latency_score_edge_eq (node : NodeResources) :
    checked_latency_score_edge task node = .ok (latency_score_edge task node) := by
  unfold checked_latency_score_edge latency_score_edge
  split
  · rfl
  · rename_i hunder
    have hpos : 0 < estimated node 10 := estimated_pos (by norm_num)
    rw [divide_of_ne_zero (hpos.trans (not_le.mp hunder)).ne']
    rfl

theorem checked_latency_score_cloud_eq : checked_latency_score_cloud task = .ok (latency_score_cloud task) := by
  unfold checked_latency_score_cloud latency_score_cloud
  split
  · rfl
  · rename_i hunder
    have hpos : (0 : ℚ) < 50 := by norm_num
    rw [divide_of_ne_zero (hpos.trans (not_le.mp hunder)).ne']
    rfl

theorem checked_edge_loop_eq (nodes : List NodeResources) (best : Option NodeResources × ℚ) :
    self.checked_edge_loop task nodes best = .ok (self.edge_loop task nodes best) := by
  induction nodes generalizing best with
  | nil => rfl
  | cons node rest ih =>
    obtain ⟨best_edge_node, best_edge_score⟩ := best
    rw [checked_edge_loop, edge_loop]
    split
    · exact ih _
    · rw [checked_latency_score_edge_eq]
      change (if self.edge_score task node > best_edge_score then _ else _) = _
      split <;> exact ih _

theorem checked_evaluate_eq (resources : Dict String NodeResources) :
    self.checked_evaluate task resources = .ok (self.evaluate task resources) := by
  unfold checked_evaluate evaluate
  rw [checked_edge_loop_eq, checked_latency_score_cloud_eq]
  rcases self.edge_loop task resources.values (none, -1) with ⟨_ | best_edge_node, best_edge_score⟩
  · rfl
  · change (if best_edge_score ≥ self.cloud_score task then _ else _) = _
    dsimp only
    split <;> rfl

end BalancedPolicy

end policies

namespace adaptive_scheduler.AdaptiveScheduler

variable (self : AdaptiveScheduler)

def checked_adjust_thresholds : Except PyExc AdaptiveScheduler :=
  if self.ema_latency ≤ 0 then .ok self
  else do
    let ratio ← divide self.ema_latency self.edge_latency_sla_ms
    if ratio < 0.5 then return { self with dynamic_cpu_threshold := min 90 (self.dynamic_cpu_threshold + 1) }
    else if ratio > 0.9 then return { self with dynamic_cpu_threshold := max 60 (self.dynamic_cpu_threshold - 2) }
    else return self

def checked_record_latency (latency_ms : ℚ) : Except PyExc AdaptiveScheduler :=
  let ema_latency :=
    if self.ema_latency = 0 then latency_ms else EMA_ALPHA * latency_ms + (1 - EMA_ALPHA) * self.ema_latency
  { self with ema_latency := ema_latency }.checked_adjust_thresholds

def checked_sla_ratio : Except PyExc ℚ :=
  if self.ema_latency > 0 then divide self.ema_latency self.edge_latency_sla_ms else .ok 0.3

def checked_evaluate : PlacementPolicy := fun task resources =>
  let cloud (score : ℚ) : TaskPlacement :=
    { task_id := task.task_id, target := .cloud, target_endpoint := self.cloud_endpoint, estimated_latency_ms := 50, score }
  if resources.values.isEmpty then .ok (cloud 0.5)
  else
    match self.best_node_loop task resources.values none, self.latency_ok with
    | some best_node, true => do
      let sla_ratio ← self.checked_sla_ratio
      return {
        task_id := task.task_id
        target := if best_node.node_id = task.requesting_node_id then .edge_local else .edge_remote
        target_node_id := best_node.node_id
        target_endpoint := best_node.node_address
        estimated_latency_ms :=
          if best_node.avg_inference_latency_ms = 0 then self.ema_latency else best_node.avg_inference_latency_ms
        score := max 0 (min 1 (1 - sla_ratio * 0.5)) }
    | _, _ => .ok (cloud 0.4)

variable {self}

theorem checked_adjust_thresholds_eq : self.checked_adjust_thresholds = .ok self.adjust_thresholds := by
  unfold checked_adjust_thresholds adjust_thresholds
  split
  · rfl
  · rw [divide_of_ne_zero self.sla_pos.ne']
    dsimp only
    change (if self.ema_latency / self.edge_latency_sla_ms < 0.5 then _ else _) = _
    split
    · rfl
    · split <;> rfl

theorem checked_record_latency_eq (latency_ms : ℚ) :
    self.checked_record_latency latency_ms = .ok (self.record_latency latency_ms) :=
  checked_adjust_thresholds_eq

theorem checked_evaluate_eq (task : InferenceTask) (resources : Dict String NodeResources) :
    self.checked_evaluate task resources = .ok (self.evaluate task resources) := by
  have hratio : self.checked_sla_ratio =
      .ok (if self.ema_latency > 0 then self.ema_latency / self.edge_latency_sla_ms else 0.3) := by
    rw [checked_sla_ratio, divide_of_ne_zero self.sla_pos.ne']
    split <;> rfl
  unfold checked_evaluate evaluate
  split
  · rfl
  · dsimp only
    rw [hratio]
    cases self.best_node_loop task resources.values none with
    | none => rfl
    | some best_node => cases self.latency_ok <;> rfl

/-- Recording latencies divides by no zero, whatever they are. -/
theorem checked_record_latencies (latencies : List ℚ) :
    latencies.foldlM checked_record_latency self = .ok (latencies.foldl record_latency self) := by
  induction latencies generalizing self with
  | nil => rfl
  | cons latency_ms rest ih =>
    rw [List.foldlM_cons, checked_record_latency_eq]
    exact ih

end adaptive_scheduler.AdaptiveScheduler

namespace policies

open scheduler_main adaptive_scheduler

variable {task : InferenceTask} {resources : Dict String NodeResources}

theorem latency_score_nonneg {x m : ℚ} : 0 ≤ (if x ≥ m then 0 else max 0 (1 - x / m)) := by
  split
  · exact le_refl _
  · exact le_max_left _ _

theorem edge_score_mem_Icc (node : NodeResources) : ({} : BalancedPolicy).edge_score task node ∈ Set.Icc 0 1 := by
  have hpos : 0 < estimated node 10 := estimated_pos (by norm_num)
  have hnonneg : 0 ≤ BalancedPolicy.latency_score_edge task node := latency_score_nonneg
  have hle : BalancedPolicy.latency_score_edge task node ≤ 1 := latency_score_le_one hpos
  rw [edge_score_eq]
  split
  · constructor <;> linarith
  · constructor <;> linarith

theorem honoursContract_latency_first :
    HonoursContract fun task resources => .ok (latency_first task resources) := by
  intro task resources
  refine ⟨_, rfl, ?_, ?_⟩
  · unfold latency_first
    split
    · rfl
    · split <;> rfl
  · unfold latency_first
    split
    · constructor <;> norm_num
    · split
      · constructor <;> norm_num
      · rename_i best _
        rw [edge_placement]
        split <;> constructor <;> norm_num

theorem honoursContract_cost_aware (cloud_endpoint : String) :
    HonoursContract fun task resources => .ok (({ cloud_endpoint } : CostAwarePolicy).evaluate task resources) := by
  intro task resources
  have hcloud : (({ cloud_endpoint } : CostAwarePolicy).cloud_placement task resources).score ∈ Set.Icc 0 1 := by
    rw [CostAwarePolicy.cloud_placement]
    dsimp only
    split <;> constructor <;> norm_num
  refine ⟨_, rfl, ?_, ?_⟩
  · unfold CostAwarePolicy.evaluate
    split
    · split <;> rfl
    · rfl
  · unfold CostAwarePolicy.evaluate
    split
    · split
      · rw [edge_placement]
        split <;> constructor <;> norm_num
      · exact hcloud
    · exact hcloud

theorem honoursContract_balanced : HonoursContract ({} : BalancedPolicy).checked_evaluate := by
  intro task resources
  refine ⟨_, BalancedPolicy.checked_evaluate_eq resources, ?_⟩
  obtain ⟨node, _, hplacement, _⟩ | ⟨hplacement, _⟩ := balanced_cases task resources
  · rw [hplacement]
    exact ⟨rfl, PyRound.round_mem_Icc (edge_score_mem_Icc node) 4⟩
  · rw [hplacement]
    have hle : ({} : BalancedPolicy).cloud_score task ≤ 1 := cloud_score_le.trans (by norm_num)
    exact ⟨rfl, PyRound.round_mem_Icc ⟨cloud_score_pos.le, hle⟩ 4⟩

/-- The score on the edge is clamped, and the others are fixed. -/
theorem honoursContract_adaptive (self : AdaptiveScheduler) : HonoursContract self.checked_evaluate := by
  intro task resources
  refine ⟨_, AdaptiveScheduler.checked_evaluate_eq task resources, ?_, ?_⟩
  · unfold AdaptiveScheduler.evaluate
    split
    · rfl
    · split <;> rfl
  · unfold AdaptiveScheduler.evaluate
    split
    · constructor <;> norm_num
    · split
      · exact ⟨le_max_left _ _, max_le zero_le_one (min_le_left _ _)⟩
      · constructor <;> norm_num

end policies

end gateway
