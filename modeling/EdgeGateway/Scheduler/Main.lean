import EdgeGateway.Library.Transition
import EdgeGateway.Scheduler.Policies

open gateway.resource_monitor gateway.scheduler_engine gateway.policies

namespace gateway.scheduler_main

structure Settings where
  cloud_endpoint : String := "http://cloud-api:8080"
  resource_stale_threshold_seconds : ℚ := 30

/-- The placement policies that the lifespan assembles. -/
def policies (settings : Settings) : List PlacementPolicy :=
  [fun task resources => .ok (latency_first task resources),
    fun task resources =>
      .ok (({ cloud_endpoint := settings.cloud_endpoint } : CostAwarePolicy).evaluate task resources),
    fun task resources => .ok (({} : BalancedPolicy).evaluate task resources)]

/-- The engine with its monitor at startup. -/
def lifespan (settings : Settings) : SchedulerEngine where
  resource_monitor := { stale_threshold := settings.resource_stale_threshold_seconds }
  policies := policies settings

/-- The scheduler, and the clock in microseconds. -/
structure State where
  now : ℤ
  engine : SchedulerEngine

inductive Action where
  | receive_resource_report (report : NodeResources)
  | submit_task (task : InferenceTask)
  | enqueue_task (task : InferenceTask)
  | drain_queue
  /-- The clock advances. -/
  | advance (microseconds : ℕ)

def step (s : State) : Action → State
  | .receive_resource_report report =>
    { s with engine := { s.engine with resource_monitor := s.engine.resource_monitor.update s.now report } }
  | .submit_task task => { s with engine := (s.engine.submit_task s.now task).1 }
  | .enqueue_task task => { s with engine := s.engine.enqueue_task task }
  | .drain_queue => { s with engine := s.engine.drain_queue s.now }
  | .advance microseconds => { s with now := s.now + microseconds }

def system (settings : Settings) : TransitionSystem State Action where
  initial s := s.engine = lifespan settings
  step s a := some (step s a)

abbrev Trace := List (TransitionSystem.Transition State Action)

/-- The report of the node in this step, with the time at which it comes. -/
def reported (node_id : String) (t : TransitionSystem.Transition State Action) : Option (ℤ × NodeResources) :=
  match t.action with
  | .receive_resource_report report => if node_id = report.node_id then some (t.source.now, report) else none
  | _ => none

/-- The latest report of the node in a run. -/
def latest_report (trace : Trace) (node_id : String) : Option (ℤ × NodeResources) := trace.findSome? (reported node_id)

/-- A placement in the cloud, or on a node that has reported lately and was not overloaded,
under the address it gave, and as a local one exactly for its own requests. -/
def Safe (settings : Settings) (trace : Trace) (now : ℤ) (task : InferenceTask) (placement : TaskPlacement) : Prop :=
  placement.target = .cloud ∨
    ∃ reported_at report, latest_report trace placement.target_node_id = some (reported_at, report) ∧
      age_seconds now reported_at ≤ settings.resource_stale_threshold_seconds ∧ report.cpu_usage_percent ≤ 85 ∧
      report.memory_usage_percent ≤ 90 ∧ placement.target_endpoint = report.node_address ∧
      (placement.target = .edge_local ↔ placement.target_node_id = task.requesting_node_id)

/-- The placement is the one of some policy, and none of them returns a higher score. -/
def HighestScore (policies : List PlacementPolicy) (task : InferenceTask) (resources : Dict String NodeResources)
    (placement : TaskPlacement) : Prop :=
  (∃ policy ∈ policies, policy task resources = .ok placement) ∧
    ∀ policy ∈ policies, ∃ other, policy task resources = .ok other ∧ other.score ≤ placement.score

section Policies

variable {task : InferenceTask} {resources : Dict String NodeResources}

/-- A placement in the cloud or on a healthy node of the map. -/
def SafeOn (task : InferenceTask) (resources : Dict String NodeResources) (placement : TaskPlacement) : Prop :=
  placement.target = .cloud ∨
    ∃ node ∈ resources.values, Healthy node ∧ placement.target_node_id = node.node_id ∧
      placement.target_endpoint = node.node_address ∧
      (placement.target = .edge_local ↔ placement.target_node_id = task.requesting_node_id)

theorem safeOn_edge_placement {node : NodeResources} {estimated score : ℚ}
    (h : node ∈ resources.values.filter (!overloaded ·)) :
    SafeOn task resources (edge_placement task node estimated score) := by
  obtain ⟨hmem, hhealthy⟩ := mem_not_overloaded_iff.mp h
  refine .inr ⟨node, hmem, hhealthy, rfl, rfl, ?_⟩
  simp only [edge_placement, is_local, decide_eq_true_eq, ite_eq_left_iff, reduceCtorEq, imp_false, not_not]

theorem latency_first_safeOn : SafeOn task resources (latency_first task resources) := by
  unfold latency_first
  split
  · exact .inl rfl
  · split
    · exact .inl rfl
    · rename_i best hbest
      exact safeOn_edge_placement (mem_of_preferred hbest)

theorem cost_aware_safeOn (self : CostAwarePolicy) : SafeOn task resources (self.evaluate task resources) := by
  unfold CostAwarePolicy.evaluate
  split
  · split
    · rename_i best hbest
      rw [healthy_nodes_eq] at hbest
      exact safeOn_edge_placement (mem_of_preferred hbest)
    · exact .inl rfl
  · exact .inl rfl

/-- The loop ends with no node, or with a healthy one and its score. -/
theorem edge_loop_cases (task : InferenceTask) (self : BalancedPolicy) (nodes : List NodeResources) :
    self.edge_loop task nodes (none, -1) = (none, -1) ∨
      ∃ node ∈ nodes.filter (!overloaded ·), self.edge_loop task nodes (none, -1) = (some node, self.edge_score task node) := by
  rw [edge_loop_eq]
  obtain ⟨hnone, _⟩ | ⟨before, node, after, hsplit, hscan, _⟩ :=
    RunningMax.scan_cases (self.edge_score task) (nodes.filter (!overloaded ·)) (none, -1)
  · exact .inl hnone
  · exact .inr ⟨node, hsplit ▸ List.mem_append_right _ List.mem_cons_self, hscan⟩

theorem balanced_safeOn (self : BalancedPolicy) : SafeOn task resources (self.evaluate task resources) := by
  unfold BalancedPolicy.evaluate
  obtain hnone | ⟨node, hnode, hbest⟩ := edge_loop_cases task self resources.values
  · rw [hnone]
    exact .inl rfl
  · rw [hbest]
    dsimp only
    split
    · exact safeOn_edge_placement hnode
    · exact .inl rfl

theorem policies_safeOn {settings : Settings} {policy : PlacementPolicy} {placement : TaskPlacement}
    (hpolicy : policy ∈ policies settings) (h : policy task resources = .ok placement) :
    SafeOn task resources placement := by
  simp only [policies, List.mem_cons, List.not_mem_nil, or_false] at hpolicy
  obtain rfl | rfl | rfl := hpolicy
  · cases h
    exact latency_first_safeOn
  · cases h
    exact cost_aware_safeOn _
  · cases h
    exact balanced_safeOn _

/-- No policy of the lifespan fails, and the first one scores above the start of the loop. -/
theorem highestScore_select_placement (settings : Settings) (task : InferenceTask)
    (resources : Dict String NodeResources) :
    HighestScore (policies settings) task resources (select_placement task resources (policies settings)) := by
  obtain ⟨placement, hmem, hscan, hmax⟩ := RunningMax.exists_scan TaskPlacement.score (none, -1)
    (l := (policies settings).filterMap fun policy => (policy task resources).toOption)
    (List.mem_filterMap.mpr ⟨_, List.mem_cons_self, rfl⟩) start_lt_latency_first
  have hselected : select_placement task resources (policies settings) = placement := by
    rw [select_placement, select_loop_eq, hscan, Option.getD_some]
  rw [hselected]
  have hok : ∀ policy ∈ policies settings, ∃ other, policy task resources = .ok other := by
    intro policy hpolicy
    simp only [policies, List.mem_cons, List.not_mem_nil, or_false] at hpolicy
    obtain rfl | rfl | rfl := hpolicy <;> exact ⟨_, rfl⟩
  constructor
  · obtain ⟨policy, hpolicy, hplacement⟩ := List.mem_filterMap.mp hmem
    obtain ⟨other, hother⟩ := hok policy hpolicy
    rw [hother] at hplacement
    cases hplacement
    exact ⟨policy, hpolicy, hother⟩
  · intro policy hpolicy
    obtain ⟨other, hother⟩ := hok policy hpolicy
    exact ⟨other, hother, hmax other (List.mem_filterMap.mpr ⟨policy, hpolicy, by rw [hother]; rfl⟩)⟩

end Policies

section Run

variable {settings : Settings} {trace : Trace} {s : State}

/-- The monitor holds the latest report of every node, and the engine the policies of the
lifespan. -/
structure Tracks (settings : Settings) (trace : Trace) (s : State) : Prop where
  policies : s.engine.policies = policies settings
  threshold : s.engine.resource_monitor.stale_threshold = settings.resource_stale_threshold_seconds
  nodes : ∀ node_id, s.engine.resource_monitor.nodes.get? node_id =
    (latest_report trace node_id).map fun latest => { latest.2 with last_reported := latest.1 }

/-- Draining the queue concerns the queue and the results alone. -/
theorem drain_queue_keeps (engine : SchedulerEngine) (now : ℤ) :
    (engine.drain_queue now).policies = engine.policies ∧
      (engine.drain_queue now).resource_monitor = engine.resource_monitor := by
  have hfold : ∀ (tasks : List InferenceTask) (engine : SchedulerEngine),
      (tasks.foldl (fun engine task => (engine.submit_task now task).1) engine).policies = engine.policies ∧
        (tasks.foldl (fun engine task => (engine.submit_task now task).1) engine).resource_monitor =
          engine.resource_monitor := by
    intro tasks
    induction tasks with
    | nil => exact fun engine => ⟨rfl, rfl⟩
    | cons task rest ih =>
      intro engine
      exact ih (engine.submit_task now task).1
  exact hfold engine.task_queue { engine with task_queue := [] }

theorem Tracks.of_engine {s' : State} {t : TransitionSystem.Transition State Action} (h : Tracks settings trace s)
    (hpolicies : s'.engine.policies = s.engine.policies)
    (hmonitor : s'.engine.resource_monitor = s.engine.resource_monitor) (hreported : ∀ node_id, reported node_id t = none) :
    Tracks settings (t :: trace) s' := by
  refine ⟨hpolicies.trans h.policies, hmonitor ▸ h.threshold, fun node_id => ?_⟩
  rw [hmonitor, h.nodes node_id, latest_report, latest_report, List.findSome?_cons, hreported]

theorem tracks_of_run (h : (system settings).Run trace s) : Tracks settings trace s := by
  induction h with
  | @initial s hinit =>
    have hengine : s.engine = lifespan settings := hinit
    refine ⟨?_, ?_, fun node_id => ?_⟩ <;> rw [hengine] <;> rfl
  | @step trace s s' a hrun hstep ih =>
    cases hstep
    cases a with
    | receive_resource_report report =>
      refine ⟨ih.policies, ih.threshold, fun node_id => ?_⟩
      rw [latest_report, List.findSome?_cons]
      simp only [step, get?_update, reported]
      by_cases hsame : node_id = report.node_id
      · rw [if_pos hsame, if_pos hsame]
        rfl
      · rw [if_neg hsame, if_neg hsame]
        exact ih.nodes node_id
    | submit_task task => exact ih.of_engine rfl rfl fun _ => rfl
    | enqueue_task task => exact ih.of_engine rfl rfl fun _ => rfl
    | drain_queue =>
      obtain ⟨hpolicies, hmonitor⟩ := drain_queue_keeps s.engine s.now
      exact ih.of_engine hpolicies hmonitor fun _ => rfl
    | advance microseconds => exact ih.of_engine rfl rfl fun _ => rfl

theorem node_id_of_latest_report {node_id : String} {reported_at : ℤ} {report : NodeResources}
    (h : latest_report trace node_id = some (reported_at, report)) : report.node_id = node_id := by
  obtain ⟨t, _, hreported⟩ := List.exists_of_findSome?_eq_some h
  unfold reported at hreported
  split at hreported
  · obtain ⟨hsame, heq⟩ := Option.ite_none_right_eq_some.mp hreported
    cases heq
    exact hsame.symm
  · cases hreported

/-- What is safe on the resource map is safe by what the nodes have reported. -/
theorem SafeOn.safe {task : InferenceTask} {placement : TaskPlacement} (htracks : Tracks settings trace s)
    (h : SafeOn task (s.engine.resource_monitor.get_resource_map s.now) placement) :
    Safe settings trace s.now task placement := by
  obtain hcloud | ⟨node, hnode, ⟨hcpu, hmemory⟩, hid, hendpoint, hlocal⟩ := h
  · exact .inl hcloud
  · obtain ⟨node_id, hget⟩ := Dict.mem_values_iff.mp hnode
    obtain ⟨hlatest, hage⟩ := get?_resource_map_iff.mp hget
    rw [htracks.nodes, Option.map_eq_some_iff] at hlatest
    obtain ⟨⟨reported_at, report⟩, hreport, rfl⟩ := hlatest
    have hreporter : report.node_id = node_id := node_id_of_latest_report hreport
    have hsame : placement.target_node_id = node_id := hid.trans hreporter
    rw [htracks.threshold] at hage
    exact .inr ⟨reported_at, report, hsame ▸ hreport, hage, hcpu, hmemory, hendpoint, hlocal⟩

/-- In every run a task is placed safely, and with the highest score of the policies. -/
theorem submit_task_safe (h : (system settings).Run trace s) (task : InferenceTask) :
    Safe settings trace s.now task (s.engine.submit_task s.now task).2 ∧
      HighestScore (policies settings) task (s.engine.resource_monitor.get_resource_map s.now)
        (s.engine.submit_task s.now task).2 := by
  have htracks := tracks_of_run h
  have hplaced : (s.engine.submit_task s.now task).2 =
      select_placement task (s.engine.resource_monitor.get_resource_map s.now) (policies settings) := by
    rw [← htracks.policies]
    rfl
  have hhighest := highestScore_select_placement settings task (s.engine.resource_monitor.get_resource_map s.now)
  rw [hplaced]
  obtain ⟨policy, hpolicy, hplacement⟩ := hhighest.1
  exact ⟨(policies_safeOn hpolicy hplacement).safe htracks, hhighest⟩

end Run

/-- An edge node that is half busy. -/
def sample_report : NodeResources :=
  { node_id := "edge-1", node_address := "10.0.0.1:50051", cpu_usage_percent := 50, memory_usage_percent := 40,
    avg_inference_latency_ms := 20, last_reported := 0 }

def sample_task : InferenceTask := { task_id := "task-1", requesting_node_id := "edge-1" }

def sample_start : State := { now := 1735689600000000, engine := lifespan {} }

/-- A node that has reported ten seconds before gets its own task. -/
theorem submit_task_safe_local :
    ∃ trace s, (system {}).Run trace s ∧ (s.engine.submit_task s.now sample_task).2.target = .edge_local ∧
      Safe {} trace s.now sample_task (s.engine.submit_task s.now sample_task).2 := by
  have hrun : (system {}).Run [⟨step sample_start (.receive_resource_report sample_report), .advance 10000000,
      step (step sample_start (.receive_resource_report sample_report)) (.advance 10000000)⟩,
      ⟨sample_start, .receive_resource_report sample_report, step sample_start (.receive_resource_report sample_report)⟩]
      (step (step sample_start (.receive_resource_report sample_report)) (.advance 10000000)) :=
    .step (.step (.initial rfl) rfl) rfl
  exact ⟨_, _, hrun, by decide +kernel, (submit_task_safe hrun sample_task).1⟩

end gateway.scheduler_main
