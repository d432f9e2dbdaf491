import Mathlib.Data.Finset.Card
import Mathlib.Tactic.Ring
import EdgeGateway.Library.Transition
import EdgeGateway.Scheduler.SchedulerEngine

open gateway.resource_monitor gateway.scheduler_engine

namespace gateway.adaptive_scheduler

def CPU_OVERLOAD_THRESHOLD : ℚ := 80

def MEMORY_OVERLOAD_THRESHOLD : ℚ := 90

/-- Smoothing factor for the exponential moving average. -/
def EMA_ALPHA : ℚ := 0.3

/-- Placement policy that adapts based on a latency feedback loop. -/
structure AdaptiveScheduler where
  edge_latency_sla_ms : ℚ := 100
  sla_pos : 0 < edge_latency_sla_ms := by decide
  cloud_endpoint : String := "http://cloud-api:8080"
  ema_latency : ℚ := 0
  dynamic_cpu_threshold : ℚ := CPU_OVERLOAD_THRESHOLD

namespace AdaptiveScheduler

variable (self : AdaptiveScheduler)

/-- Dynamically adjust the CPU overload threshold based on the latency trend. -/
def adjust_thresholds : AdaptiveScheduler :=
  if self.ema_latency ≤ 0 then self
  else
    let ratio := self.ema_latency / self.edge_latency_sla_ms
    if ratio < 0.5 then { self with dynamic_cpu_threshold := min 90 (self.dynamic_cpu_threshold + 1) }
    else if ratio > 0.9 then { self with dynamic_cpu_threshold := max 60 (self.dynamic_cpu_threshold - 2) }
    else self

/-- Feed an observed edge inference latency back into the scheduler. -/
def record_latency (latency_ms : ℚ) : AdaptiveScheduler :=
  let ema_latency :=
    if self.ema_latency = 0 then latency_ms else EMA_ALPHA * latency_ms + (1 - EMA_ALPHA) * self.ema_latency
  { self with ema_latency := ema_latency }.adjust_thresholds

/-- The moving average is within the SLA, or there are no observations yet. -/
def latency_ok : Bool := self.ema_latency ≤ self.edge_latency_sla_ms || self.ema_latency = 0

def is_overloaded (node : NodeResources) : Bool :=
  node.cpu_usage_percent > self.dynamic_cpu_threshold || node.memory_usage_percent > MEMORY_OVERLOAD_THRESHOLD

/-- The loop that finds a suitable edge node. -/
def best_node_loop (task : InferenceTask) : List NodeResources → Option NodeResources → Option NodeResources
  | [], best_node => best_node
  | node :: rest, best_node =>
    if self.is_overloaded node then best_node_loop task rest best_node
    -- "Prefer the requesting node if it has capacity."
    else if node.node_id = task.requesting_node_id then some node
    else if best_node.all fun best => node.cpu_usage_percent < best.cpu_usage_percent then
      best_node_loop task rest (some node)
    else best_node_loop task rest best_node

/-- Prefer edge if latency is within SLA and nodes are not overloaded. -/
def evaluate (task : InferenceTask) (resources : Dict String NodeResources) : TaskPlacement :=
  if resources.values.isEmpty then
    { task_id := task.task_id, target := .cloud, target_endpoint := self.cloud_endpoint, estimated_latency_ms := 50
      score := 0.5 }
  else
    match self.best_node_loop task resources.values none, self.latency_ok with
    | some best_node, true =>
      let sla_ratio := if self.ema_latency > 0 then self.ema_latency / self.edge_latency_sla_ms else 0.3
      { task_id := task.task_id
        target := if best_node.node_id = task.requesting_node_id then .edge_local else .edge_remote
        target_node_id := best_node.node_id
        target_endpoint := best_node.node_address
        estimated_latency_ms :=
          if best_node.avg_inference_latency_ms = 0 then self.ema_latency else best_node.avg_inference_latency_ms
        score := max 0 (min 1 (1 - sla_ratio * 0.5)) }
    | _, _ =>
      { task_id := task.task_id, target := .cloud, target_endpoint := self.cloud_endpoint, estimated_latency_ms := 50
        score := 0.4 }

end AdaptiveScheduler

/-- The scheduler in its closed loop, with the tasks that were placed on an edge node and those
whose latency was recorded. -/
structure State where
  /-- In microseconds. -/
  now : ℤ
  resource_monitor : ResourceMonitor
  scheduler : AdaptiveScheduler
  placed : Finset String
  recorded : Finset String

/-- The edge tasks whose latency is not recorded yet. -/
def State.outstanding (s : State) : Finset String := s.placed \ s.recorded

def State.evaluate (s : State) (task : InferenceTask) : TaskPlacement :=
  s.scheduler.evaluate task (s.resource_monitor.get_resource_map s.now)

inductive Action where
  | receive_resource_report (report : NodeResources)
  | evaluate (task : InferenceTask)
  | record_latency (task_id : String) (latency_ms : ℚ)
  | advance (microseconds : ℕ)

def step (s : State) : Action → Option State
  | .receive_resource_report report => some { s with resource_monitor := s.resource_monitor.update s.now report }
  | .evaluate task =>
    some (if (s.evaluate task).target = .cloud then s else { s with placed := insert task.task_id s.placed })
  | .record_latency task_id latency_ms =>
    if task_id ∈ s.outstanding ∧ 0 ≤ latency_ms then
      some { s with scheduler := s.scheduler.record_latency latency_ms, recorded := insert task_id s.recorded }
    else none
  | .advance microseconds => some { s with now := s.now + microseconds }

/-- A run starts with a scheduler, under any SLA, that has seen nothing. -/
def system (stale_threshold : ℚ) : TransitionSystem State Action where
  initial s := s.resource_monitor = { stale_threshold := stale_threshold } ∧ s.scheduler.ema_latency = 0 ∧
    s.scheduler.dynamic_cpu_threshold = CPU_OVERLOAD_THRESHOLD ∧ s.placed = ∅ ∧ s.recorded = ∅
  step := step

/-- A continuation leads to the placement of a task on an edge node. -/
def CanReturn (stale_threshold : ℚ) (s : State) : Prop :=
  ∃ s' task, (system stale_threshold).StepsWhere (fun _ _ => True) s s' ∧ (s'.evaluate task).target ≠ .cloud

section Placement

variable {self : AdaptiveScheduler} {task : InferenceTask} {resources : Dict String NodeResources}

/-- The loop finds no node exactly if there is none to be found. -/
theorem best_node_loop_eq_none_iff {nodes : List NodeResources} {best_node : Option NodeResources} :
    self.best_node_loop task nodes best_node = none ↔
      best_node = none ∧ ∀ node ∈ nodes, self.is_overloaded node = true := by
  induction nodes generalizing best_node with
  | nil => simp [AdaptiveScheduler.best_node_loop]
  | cons node rest ih =>
    rw [AdaptiveScheduler.best_node_loop, List.forall_mem_cons]
    cases hoverloaded : self.is_overloaded node with
    | true =>
      rw [if_pos rfl, ih]
      simp
    | false =>
      rw [if_neg Bool.false_ne_true]
      refine iff_of_false ?_ fun h => Bool.false_ne_true h.2.1
      split
      · exact Option.some_ne_none _
      · split
        · rw [ih]
          exact fun h => Option.some_ne_none _ h.1
        · rename_i hall
          rw [ih]
          rintro ⟨rfl, _⟩
          exact hall rfl

/-- A task goes to an edge node if the average allows it and some node has capacity. -/
theorem evaluate_edge_iff :
    (self.evaluate task resources).target ≠ .cloud ↔
      self.latency_ok = true ∧ ∃ node ∈ resources.values, self.is_overloaded node = false := by
  have hnone : self.best_node_loop task resources.values none = none ↔
      ¬ ∃ node ∈ resources.values, self.is_overloaded node = false := by
    rw [best_node_loop_eq_none_iff]
    simp
  unfold AdaptiveScheduler.evaluate
  cases hempty : resources.values.isEmpty with
  | true =>
    rw [List.isEmpty_iff] at hempty
    simp [hempty]
  | false =>
    rw [if_neg Bool.false_ne_true]
    cases hbest : self.best_node_loop task resources.values none with
    | none =>
      simp only [ne_eq, not_true_eq_false, false_iff, not_and]
      exact fun _ => hnone.mp hbest
    | some best_node =>
      have hsome : ∃ node ∈ resources.values, self.is_overloaded node = false := by
        by_contra hnot
        rw [hnone.mpr hnot] at hbest
        cases hbest
      cases self.latency_ok with
      | true =>
        refine iff_of_true ?_ ⟨rfl, hsome⟩
        dsimp only
        split <;> simp
      | false => simp

theorem latency_ok_iff : self.latency_ok = true ↔ self.ema_latency ≤ self.edge_latency_sla_ms := by
  simp only [AdaptiveScheduler.latency_ok, Bool.or_eq_true, decide_eq_true_eq, or_iff_left_iff_imp]
  intro hzero
  rw [hzero]
  exact self.sla_pos.le

theorem record_latency_sla (latency_ms : ℚ) :
    (self.record_latency latency_ms).edge_latency_sla_ms = self.edge_latency_sla_ms := by
  simp only [AdaptiveScheduler.record_latency, AdaptiveScheduler.adjust_thresholds]
  split_ifs <;> rfl

theorem record_latency_ema (latency_ms : ℚ) :
    (self.record_latency latency_ms).ema_latency =
      if self.ema_latency = 0 then latency_ms else EMA_ALPHA * latency_ms + (1 - EMA_ALPHA) * self.ema_latency := by
  simp only [AdaptiveScheduler.record_latency, AdaptiveScheduler.adjust_thresholds]
  split_ifs <;> rfl

theorem record_latency_threshold (latency_ms : ℚ) (h : 60 ≤ self.dynamic_cpu_threshold) :
    60 ≤ (self.record_latency latency_ms).dynamic_cpu_threshold := by
  simp only [AdaptiveScheduler.record_latency, AdaptiveScheduler.adjust_thresholds]
  split_ifs
  all_goals first
    | exact h
    | exact le_min (by norm_num) (by linarith)
    | exact le_max_left _ _

end Placement

/-- Once the latency of every outstanding edge task is recorded as nothing, the average is
within the SLA; and the monitor shows the nodes that have just reported. -/
def Recoverable (stale_threshold : ℚ) (s : State) : Prop :=
  0 ≤ stale_threshold ∧
    (1 - EMA_ALPHA) ^ s.outstanding.card * s.scheduler.ema_latency ≤ s.scheduler.edge_latency_sla_ms

section Loop

variable {stale_threshold : ℚ} {s s' : State} {a : Action}

/-- What holds in every state of the loop. -/
structure Valid (stale_threshold : ℚ) (s : State) : Prop where
  stale_threshold : s.resource_monitor.stale_threshold = stale_threshold
  ema_latency : 0 ≤ s.scheduler.ema_latency
  cpu_threshold : 60 ≤ s.scheduler.dynamic_cpu_threshold
  past : ∀ node_id node, s.resource_monitor.nodes.get? node_id = some node → node.last_reported ≤ s.now

theorem Valid.of_step (h : Valid stale_threshold s) (hstep : step s a = some s') : Valid stale_threshold s' := by
  cases a with
  | receive_resource_report report =>
    cases hstep
    refine ⟨h.stale_threshold, h.ema_latency, h.cpu_threshold, fun node_id node hget => ?_⟩
    rw [get?_update] at hget
    split at hget
    · cases hget
      exact le_refl _
    · exact h.past node_id node hget
  | evaluate task =>
    cases hstep
    split <;> exact ⟨h.stale_threshold, h.ema_latency, h.cpu_threshold, h.past⟩
  | record_latency task_id latency_ms =>
    obtain ⟨⟨_, hlatency⟩, hs'⟩ := Option.ite_none_right_eq_some.mp hstep
    cases hs'
    refine ⟨h.stale_threshold, ?_, record_latency_threshold latency_ms h.cpu_threshold, h.past⟩
    have hema := h.ema_latency
    rw [record_latency_ema, EMA_ALPHA]
    split
    · exact hlatency
    · linarith
  | advance microseconds =>
    cases hstep
    exact ⟨h.stale_threshold, h.ema_latency, h.cpu_threshold, fun node_id node hget =>
      (h.past node_id node hget).trans (by simp)⟩

theorem valid_of_reachable (h : (system stale_threshold).Reachable s) : Valid stale_threshold s := by
  refine TransitionSystem.ReachableWhere.invariant ?_ (fun s a s' hvalid _ hstep => hvalid.of_step hstep) h
  rintro s ⟨hmonitor, hema, hcpu, _⟩
  refine ⟨by rw [hmonitor], hema.ge, ?_, fun node_id node hget => ?_⟩
  · rw [hcpu, CPU_OVERLOAD_THRESHOLD]
    norm_num
  · rw [hmonitor] at hget
    cases hget

theorem decay_pos : (0 : ℚ) < 1 - EMA_ALPHA := by
  rw [EMA_ALPHA]
  norm_num

theorem decay_le_one : 1 - EMA_ALPHA ≤ (1 : ℚ) := by
  rw [EMA_ALPHA]
  norm_num

/-- A task is placed on an edge node only from where the loop can recover. -/
theorem Valid.recoverable_of_edge {task : InferenceTask} (h : Valid stale_threshold s)
    (hedge : (s.evaluate task).target ≠ .cloud) : Recoverable stale_threshold s := by
  obtain ⟨hok, node, hnode, _⟩ := evaluate_edge_iff.mp hedge
  constructor
  · obtain ⟨node_id, hget⟩ := Dict.mem_values_iff.mp hnode
    obtain ⟨hlatest, hage⟩ := get?_resource_map_iff.mp hget
    rw [h.stale_threshold] at hage
    exact (age_seconds_nonneg (h.past node_id node hlatest)).trans hage
  · have hpow : (1 - EMA_ALPHA) ^ s.outstanding.card ≤ 1 := pow_le_one₀ decay_pos.le decay_le_one
    exact (mul_le_of_le_one_left h.ema_latency hpow).trans (latency_ok_iff.mp hok)

theorem outstanding_record (task_id : String) (latency_ms : ℚ) :
    ({ s with scheduler := s.scheduler.record_latency latency_ms, recorded := insert task_id s.recorded } :
      State).outstanding = s.outstanding.erase task_id := by
  ext other
  simp only [State.outstanding, Finset.mem_sdiff, Finset.mem_insert, Finset.mem_erase]
  tauto

/-- From where the loop cannot recover, no step leads to where it can. -/
theorem Valid.recoverable_of_step (h : Valid stale_threshold s) (hstep : step s a = some s')
    (hrecoverable : Recoverable stale_threshold s') : Recoverable stale_threshold s := by
  obtain ⟨hthreshold, hwithin⟩ := hrecoverable
  refine ⟨hthreshold, ?_⟩
  cases a with
  | receive_resource_report report =>
    cases hstep
    exact hwithin
  | evaluate task =>
    by_cases hcloud : (s.evaluate task).target = .cloud
    · simp only [step, if_pos hcloud] at hstep
      cases hstep
      exact hwithin
    · exact (h.recoverable_of_edge hcloud).2
  | record_latency task_id latency_ms =>
    obtain ⟨⟨hmem, hlatency⟩, hs'⟩ := Option.ite_none_right_eq_some.mp hstep
    cases hs'
    rw [outstanding_record, Finset.card_erase_of_mem hmem, record_latency_sla, record_latency_ema] at hwithin
    obtain hzero | hpos := eq_or_lt_of_le h.ema_latency
    · rw [← hzero, mul_zero]
      exact s.scheduler.sla_pos.le
    · -- One recorded latency takes at most the decay off the average.
      rw [if_neg hpos.ne'] at hwithin
      have hcard : s.outstanding.card = s.outstanding.card - 1 + 1 :=
        (Nat.sub_add_cancel (Finset.card_pos.mpr ⟨task_id, hmem⟩)).symm
      have hdecay : (1 - EMA_ALPHA) * s.scheduler.ema_latency ≤
          EMA_ALPHA * latency_ms + (1 - EMA_ALPHA) * s.scheduler.ema_latency :=
        le_add_of_nonneg_left (mul_nonneg (by rw [EMA_ALPHA]; norm_num) hlatency)
      calc (1 - EMA_ALPHA) ^ s.outstanding.card * s.scheduler.ema_latency
          = (1 - EMA_ALPHA) ^ (s.outstanding.card - 1) * ((1 - EMA_ALPHA) * s.scheduler.ema_latency) := by
            rw [hcard, pow_succ, Nat.add_sub_cancel, mul_assoc]
        _ ≤ _ := mul_le_mul_of_nonneg_left hdecay (pow_nonneg decay_pos.le _)
        _ ≤ _ := hwithin
  | advance microseconds =>
    cases hstep
    exact hwithin

/-- A node that is idle. -/
def idle_report : NodeResources := { node_id := "edge-1", last_reported := 0 }

/-- With the average within the SLA, a report of an idle node is enough. -/
theorem Valid.canReturn_of_within (h : Valid stale_threshold s) (hthreshold : 0 ≤ stale_threshold)
    (hwithin : s.scheduler.ema_latency ≤ s.scheduler.edge_latency_sla_ms) (task : InferenceTask) :
    ∃ s', (system stale_threshold).StepsWhere (fun _ _ => True) s s' ∧ (s'.evaluate task).target ≠ .cloud := by
  refine ⟨_, .step .refl trivial (a := .receive_resource_report idle_report) rfl, ?_⟩
  refine evaluate_edge_iff.mpr ⟨latency_ok_iff.mpr hwithin, { idle_report with last_reported := s.now }, ?_, ?_⟩
  · refine Dict.mem_values_iff.mpr ⟨"edge-1", get?_resource_map_iff.mpr ⟨?_, ?_⟩⟩
    · exact Dict.get?_set_self _ _ _
    · change age_seconds s.now s.now ≤ s.resource_monitor.stale_threshold
      rw [age_seconds_self, h.stale_threshold]
      exact hthreshold
  · have hcpu : (0 : ℚ) ≤ s.scheduler.dynamic_cpu_threshold := le_trans (by norm_num) h.cpu_threshold
    simp only [AdaptiveScheduler.is_overloaded, idle_report, MEMORY_OVERLOAD_THRESHOLD]
    simp [hcpu]

/-- Recording the outstanding tasks one by one brings the average down. -/
theorem Valid.canReturn (h : Valid stale_threshold s) (hrecoverable : Recoverable stale_threshold s) :
    CanReturn stale_threshold s := by
  obtain ⟨hthreshold, hwithin⟩ := hrecoverable
  generalize hcard : s.outstanding.card = outstanding at hwithin
  induction outstanding generalizing s with
  | zero =>
    rw [pow_zero, one_mul] at hwithin
    obtain ⟨s', hsteps, hedge⟩ := h.canReturn_of_within hthreshold hwithin { task_id := "task-1" }
    exact ⟨s', _, hsteps, hedge⟩
  | succ outstanding ih =>
    by_cases hnow : s.scheduler.ema_latency ≤ s.scheduler.edge_latency_sla_ms
    · obtain ⟨s', hsteps, hedge⟩ := h.canReturn_of_within hthreshold hnow { task_id := "task-1" }
      exact ⟨s', _, hsteps, hedge⟩
    · have hne : s.scheduler.ema_latency ≠ 0 := by
        rintro hzero
        rw [hzero] at hnow
        exact hnow s.scheduler.sla_pos.le
      obtain ⟨task_id, hmem⟩ := Finset.card_pos.mp (by rw [hcard]; exact Nat.succ_pos outstanding)
      have hstep : step s (.record_latency task_id 0) =
          some { s with scheduler := s.scheduler.record_latency 0, recorded := insert task_id s.recorded } :=
        if_pos ⟨hmem, le_refl _⟩
      obtain ⟨s', task, hsteps, hedge⟩ := ih (h.of_step hstep)
        (by rw [outstanding_record, Finset.card_erase_of_mem hmem, hcard, Nat.add_sub_cancel]) (by
          rw [record_latency_sla, record_latency_ema, if_neg hne, mul_zero, zero_add, ← mul_assoc, ← pow_succ]
          exact hwithin)
      have hrecord : (system stale_threshold).StepsWhere (fun _ _ => True) s _ :=
        .step (a := .record_latency task_id 0) .refl trivial hstep
      exact ⟨s', task, hrecord.trans hsteps, hedge⟩

theorem recoverable_of_canReturn (h : (system stale_threshold).Reachable s) (hreturn : CanReturn stale_threshold s) :
    Recoverable stale_threshold s := by
  obtain ⟨s', task, hsteps, hedge⟩ := hreturn
  have hback : Recoverable stale_threshold s' → Recoverable stale_threshold s := by
    clear hedge
    induction hsteps with
    | refl => exact id
    | step hbefore _ hstep ih =>
      exact fun hlater => ih ((valid_of_reachable (hbefore.reachable h)).recoverable_of_step hstep hlater)
  exact hback ((valid_of_reachable (hsteps.reachable h)).recoverable_of_edge hedge)

end Loop

/-- A scheduler that has seen nothing, with an SLA of 100 ms. -/
def sample_start : State :=
  { now := 1735689600000000, resource_monitor := {}, scheduler := {}, placed := ∅, recorded := ∅ }

theorem sample_start_initial : (system 30).initial sample_start := ⟨rfl, rfl, rfl, rfl, rfl⟩

end gateway.adaptive_scheduler
