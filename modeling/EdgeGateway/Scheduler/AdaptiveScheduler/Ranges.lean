import Mathlib.Data.List.MinMax
import EdgeGateway.Scheduler.AdaptiveScheduler

open gateway.resource_monitor gateway.scheduler_engine

namespace gateway.adaptive_scheduler

namespace AdaptiveScheduler

/-- A scheduler that has seen nothing. -/
def init (edge_latency_sla_ms : ℚ) (sla_pos : 0 < edge_latency_sla_ms) (cloud_endpoint : String) : AdaptiveScheduler where
  edge_latency_sla_ms := edge_latency_sla_ms
  sla_pos := sla_pos
  cloud_endpoint := cloud_endpoint

/-- The latencies are recorded one after the other. -/
def record_all (self : AdaptiveScheduler) (latencies : List ℚ) : AdaptiveScheduler := latencies.foldl record_latency self

end AdaptiveScheduler

open AdaptiveScheduler

/-- The average is among the recorded latencies, and the threshold within its caps. -/
structure InRange (latencies : List ℚ) (scheduler : AdaptiveScheduler) : Prop where
  minimum_le : latencies ≠ [] → latencies.minimum ≤ scheduler.ema_latency
  le_maximum : latencies ≠ [] → scheduler.ema_latency ≤ latencies.maximum
  initial : latencies = [] → scheduler.ema_latency = 0
  threshold_ge : 60 ≤ scheduler.dynamic_cpu_threshold
  threshold_le : scheduler.dynamic_cpu_threshold ≤ 90

/-- A placement on an edge node has taken one within these limits on CPU and memory. -/
def PlacedWithin (cpu memory : ℚ) (resources : Dict String NodeResources) (placement : TaskPlacement) : Prop :=
  placement.target = .cloud ∨
    ∃ node ∈ resources.values, placement.target_node_id = node.node_id ∧ placement.target_endpoint = node.node_address ∧
      node.cpu_usage_percent ≤ cpu ∧ node.memory_usage_percent ≤ memory

section Placement

variable {self : AdaptiveScheduler} {task : InferenceTask} {resources : Dict String NodeResources}

theorem is_overloaded_eq_false_iff {node : NodeResources} :
    self.is_overloaded node = false ↔
      node.cpu_usage_percent ≤ self.dynamic_cpu_threshold ∧ node.memory_usage_percent ≤ MEMORY_OVERLOAD_THRESHOLD := by
  simp [is_overloaded]

/-- The loop ends with what it started with, or with a node that is not overloaded. -/
theorem mem_of_best_node_loop {nodes : List NodeResources} {best_node : Option NodeResources} {node : NodeResources}
    (h : self.best_node_loop task nodes best_node = some node) :
    best_node = some node ∨ node ∈ nodes ∧ self.is_overloaded node = false := by
  induction nodes generalizing best_node with
  | nil => exact .inl h
  | cons first rest ih =>
    rw [best_node_loop] at h
    have hrest : ∀ {best_node : Option NodeResources}, self.best_node_loop task rest best_node = some node →
        best_node = some node ∨ node ∈ first :: rest ∧ self.is_overloaded node = false :=
      fun hloop => (ih hloop).imp_right fun hmem => ⟨List.mem_cons_of_mem _ hmem.1, hmem.2⟩
    cases hoverloaded : self.is_overloaded first with
    | true =>
      rw [hoverloaded, if_pos rfl] at h
      exact hrest h
    | false =>
      rw [hoverloaded, if_neg Bool.false_ne_true] at h
      split at h
      · cases h
        exact .inr ⟨List.mem_cons_self, hoverloaded⟩
      · split at h
        · obtain heq | hmem := hrest h
          · cases heq
            exact .inr ⟨List.mem_cons_self, hoverloaded⟩
          · exact .inr hmem
        · exact hrest h

theorem evaluate_placedWithin :
    PlacedWithin self.dynamic_cpu_threshold MEMORY_OVERLOAD_THRESHOLD resources (self.evaluate task resources) := by
  unfold evaluate
  split
  · exact .inl rfl
  · split
    · rename_i best_node hbest hok
      obtain hnone | ⟨hmem, hoverloaded⟩ := mem_of_best_node_loop hbest
      · cases hnone
      · obtain ⟨hcpu, hmemory⟩ := is_overloaded_eq_false_iff.mp hoverloaded
        exact .inr ⟨best_node, hmem, rfl, rfl, hcpu, hmemory⟩
    · exact .inl rfl

theorem PlacedWithin.mono {cpu cpu' memory memory' : ℚ} {placement : TaskPlacement}
    (h : PlacedWithin cpu memory resources placement) (hcpu : cpu ≤ cpu') (hmemory : memory ≤ memory') :
    PlacedWithin cpu' memory' resources placement := by
  obtain hcloud | ⟨node, hmem, hid, hendpoint, hle, hle'⟩ := h
  · exact .inl hcloud
  · exact .inr ⟨node, hmem, hid, hendpoint, hle.trans hcpu, hle'.trans hmemory⟩

end Placement

section Record

variable {self : AdaptiveScheduler} {latencies : List ℚ}

theorem record_latency_threshold_le (latency_ms : ℚ) (h : self.dynamic_cpu_threshold ≤ 90) :
    (self.record_latency latency_ms).dynamic_cpu_threshold ≤ 90 := by
  simp only [record_latency, adjust_thresholds]
  split_ifs
  all_goals first
    | exact h
    | exact min_le_left _ _
    | exact max_le (by norm_num) (by linarith)

/-- A mean of two numbers with these weights is between any bounds of the two. -/
theorem ema_mem_Icc {lo hi latency_ms ema : ℚ} (hlatency : latency_ms ∈ Set.Icc lo hi) (hema : ema ∈ Set.Icc lo hi) :
    EMA_ALPHA * latency_ms + (1 - EMA_ALPHA) * ema ∈ Set.Icc lo hi := by
  obtain ⟨hlo, hhi⟩ := hlatency
  obtain ⟨hlo', hhi'⟩ := hema
  unfold EMA_ALPHA
  constructor <;> linarith

/-- The average restarts only where it is zero, with a latency that has just been recorded. -/
theorem record_latency_mem_Icc {lo hi latency_ms : ℚ} (hlatency : latency_ms ∈ Set.Icc lo hi)
    (hema : self.ema_latency ≠ 0 → self.ema_latency ∈ Set.Icc lo hi) :
    (self.record_latency latency_ms).ema_latency ∈ Set.Icc lo hi := by
  rw [record_latency_ema]
  split
  · exact hlatency
  · rename_i hne
    exact ema_mem_Icc hlatency (hema hne)

theorem inRange_init (edge_latency_sla_ms : ℚ) (sla_pos : 0 < edge_latency_sla_ms) (cloud_endpoint : String) :
    InRange [] (init edge_latency_sla_ms sla_pos cloud_endpoint) where
  minimum_le h := absurd rfl h
  le_maximum h := absurd rfl h
  initial _ := rfl
  threshold_ge := by
    change 60 ≤ CPU_OVERLOAD_THRESHOLD
    norm_num [CPU_OVERLOAD_THRESHOLD]
  threshold_le := by
    change CPU_OVERLOAD_THRESHOLD ≤ 90
    norm_num [CPU_OVERLOAD_THRESHOLD]

/-- One more recorded latency keeps the ranges. -/
theorem InRange.record_latency (h : InRange latencies self) (latency_ms : ℚ) :
    InRange (latencies ++ [latency_ms]) (self.record_latency latency_ms) := by
  have hmem : latency_ms ∈ latencies ++ [latency_ms] := List.mem_append_right _ List.mem_cons_self
  have hbounds : ∃ lo ∈ latencies ++ [latency_ms], ∃ hi ∈ latencies ++ [latency_ms],
      (self.record_latency latency_ms).ema_latency ∈ Set.Icc lo hi := by
    by_cases hnil : latencies = []
    · exact ⟨latency_ms, hmem, latency_ms, hmem,
        record_latency_mem_Icc ⟨le_refl _, le_refl _⟩ fun hne => absurd (h.initial hnil) hne⟩
    · obtain ⟨lo, hlo, hle⟩ := List.minimum_le_coe_iff.mp (h.minimum_le hnil)
      obtain ⟨hi, hhi, hge⟩ := List.coe_le_maximum_iff.mp (h.le_maximum hnil)
      have hold : ∀ {a}, a ∈ latencies → a ∈ latencies ++ [latency_ms] := fun ha => List.mem_append_left _ ha
      refine ⟨min lo latency_ms, ?_, max hi latency_ms, ?_, record_latency_mem_Icc ⟨min_le_right _ _, le_max_right _ _⟩
        fun _ => ⟨(min_le_left _ _).trans hle, hge.trans (le_max_left _ _)⟩⟩
      · obtain heq | heq := min_choice lo latency_ms <;> rw [heq]
        · exact hold hlo
        · exact hmem
      · obtain heq | heq := max_choice hi latency_ms <;> rw [heq]
        · exact hold hhi
        · exact hmem
  obtain ⟨lo, hlo, hi, hhi, hle, hge⟩ := hbounds
  exact
    { minimum_le := fun _ => List.minimum_le_coe_iff.mpr ⟨lo, hlo, hle⟩
      le_maximum := fun _ => List.coe_le_maximum_iff.mpr ⟨hi, hhi, hge⟩
      initial := fun hnil => absurd hnil (List.append_ne_nil_of_right_ne_nil _ (List.cons_ne_nil _ _))
      threshold_ge := record_latency_threshold latency_ms h.threshold_ge
      threshold_le := record_latency_threshold_le latency_ms h.threshold_le }

theorem inRange_record_all (edge_latency_sla_ms : ℚ) (sla_pos : 0 < edge_latency_sla_ms) (cloud_endpoint : String)
    (latencies : List ℚ) : InRange latencies ((init edge_latency_sla_ms sla_pos cloud_endpoint).record_all latencies) := by
  induction latencies using List.reverseRecOn with
  | nil => exact inRange_init edge_latency_sla_ms sla_pos cloud_endpoint
  | append_singleton latencies latency_ms ih =>
    rw [record_all, List.foldl_concat]
    exact ih.record_latency latency_ms

theorem record_all_sla (self : AdaptiveScheduler) (latencies : List ℚ) :
    (self.record_all latencies).edge_latency_sla_ms = self.edge_latency_sla_ms := by
  induction latencies generalizing self with
  | nil => rfl
  | cons latency_ms rest ih => exact (ih (self.record_latency latency_ms)).trans (record_latency_sla latency_ms)

/-- With an average over the SLA every task goes to the cloud. -/
theorem evaluate_cloud_of_lt {task : InferenceTask} {resources : Dict String NodeResources}
    (h : self.edge_latency_sla_ms < self.ema_latency) : (self.evaluate task resources).target = .cloud := by
  by_contra hedge
  exact absurd (latency_ok_iff.mp (evaluate_edge_iff.mp hedge).1) (not_le.mpr h)

end Record

/-- Whatever latencies are recorded, the average stays between the least and the greatest of
them and the threshold between its caps. No task is placed on a node beyond 90 percent of CPU
or memory, and none on the edge if every latency was over the SLA. -/
theorem record_latency_ranges (edge_latency_sla_ms : ℚ) (sla_pos : 0 < edge_latency_sla_ms) (cloud_endpoint : String)
    (latencies : List ℚ) (task : InferenceTask) (resources : Dict String NodeResources) :
    let self := (init edge_latency_sla_ms sla_pos cloud_endpoint).record_all latencies
    (latencies ≠ [] → latencies.minimum ≤ self.ema_latency ∧ self.ema_latency ≤ latencies.maximum) ∧
      60 ≤ self.dynamic_cpu_threshold ∧ self.dynamic_cpu_threshold ≤ 90 ∧
      PlacedWithin 90 90 resources (self.evaluate task resources) ∧
      (latencies ≠ [] → (∀ latency_ms ∈ latencies, edge_latency_sla_ms < latency_ms) →
        (self.evaluate task resources).target = .cloud) := by
  intro self
  have hrange : InRange latencies self := inRange_record_all edge_latency_sla_ms sla_pos cloud_endpoint latencies
  refine ⟨fun hne => ⟨hrange.minimum_le hne, hrange.le_maximum hne⟩, hrange.threshold_ge, hrange.threshold_le,
    evaluate_placedWithin.mono hrange.threshold_le (le_refl _), fun hne hover => ?_⟩
  obtain ⟨lo, hlo, hle⟩ := List.minimum_le_coe_iff.mp (hrange.minimum_le hne)
  refine evaluate_cloud_of_lt ?_
  have hsla : self.edge_latency_sla_ms = edge_latency_sla_ms := record_all_sla _ latencies
  rw [hsla]
  exact (hover lo hlo).trans_le hle

/-- Two latencies over an SLA of 100 ms keep a task off an idle node. -/
theorem record_latency_ranges_over :
    let self := (init 100 (by decide) "http://cloud-api:8080").record_all [120, 300]
    self.ema_latency ≤ [(120 : ℚ), 300].maximum ∧
      (self.evaluate { task_id := "task-1" } (Dict.empty.set "edge-1" idle_report)).target = .cloud := by
  obtain ⟨hema, _, _, _, hcloud⟩ := record_latency_ranges 100 (by decide) "http://cloud-api:8080" [120, 300]
    { task_id := "task-1" } (Dict.empty.set "edge-1" idle_report)
  have hover : ∀ latency_ms ∈ [(120 : ℚ), 300], 100 < latency_ms := by
    intro latency_ms hmem
    simp only [List.mem_cons, List.not_mem_nil, or_false] at hmem
    obtain rfl | rfl := hmem <;> norm_num
  exact ⟨(hema (List.cons_ne_nil _ _)).2, hcloud (List.cons_ne_nil _ _) hover⟩

end gateway.adaptive_scheduler
