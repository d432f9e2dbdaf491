import Mathlib.Tactic.Ring
import EdgeGateway.Scheduler.Main

open gateway.resource_monitor gateway.scheduler_engine gateway.policies

namespace gateway.scheduler_main

/-- The estimated latencies of the candidates that the policies choose from. -/
inductive Candidate (settings : Settings) (task : InferenceTask) (resources : Dict String NodeResources) : ℚ → Prop where
  | edge {node : NodeResources} (hmem : node ∈ resources.values) (hhealthy : Healthy node) :
    Candidate settings task resources (estimated node 10)
  | cloud : Candidate settings task resources 50
  /-- The cost-aware policy has estimates of its own, and a single candidate. -/
  | cost_aware : Candidate settings task resources
    (({ cloud_endpoint := settings.cloud_endpoint } : CostAwarePolicy).evaluate task resources).estimated_latency_ms

/-- If some candidate is within the latency constraint, then the selected one is. -/
def Honours (settings : Settings) (task : InferenceTask) (resources : Dict String NodeResources) : Prop :=
  (∃ latency, Candidate settings task resources latency ∧ latency ≤ task.max_latency_ms) →
    (select_placement task resources (policies settings)).estimated_latency_ms ≤ task.max_latency_ms

/-- A candidate whose latency is such a small part of what the task allows that the balanced
policy scores more than the preference for the node: 0.9 for a local one, 0.8 for another. -/
def Outscored (task : InferenceTask) (resources : Dict String NodeResources) (best : NodeResources) : Prop :=
  if is_local task best then
    task.input_size_bytes < SMALL_MODEL_SIZE_BYTES ∧
      ∃ node ∈ resources.values, Healthy node ∧ 12000 * estimated node 10 < 1199 * task.max_latency_ms
  else if task.input_size_bytes < SMALL_MODEL_SIZE_BYTES then
    ∃ node ∈ resources.values, Healthy node ∧ 12000 * estimated node 10 < 3199 * task.max_latency_ms
  else 600000 < 1599 * task.max_latency_ms

section Scores

variable {task : InferenceTask} {resources : Dict String NodeResources} {node best : NodeResources}

theorem estimated_pos {default : ℚ} (h : 0 < default) : 0 < estimated node default := by
  unfold estimated
  split
  · assumption
  · exact h

/-- A latency scores more than `r` if it is below that part of the maximum. -/
theorem lt_latency_score_iff {x r m : ℚ} (hx : 0 < x) (h0 : 0 ≤ r) (h1 : r ≤ 1) :
    r < (if x ≥ m then 0 else max 0 (1 - x / m)) ↔ x < (1 - r) * m := by
  by_cases hover : x ≥ m
  · rw [if_pos hover]
    refine iff_of_false (not_lt.mpr h0) (not_lt.mpr ?_)
    obtain hneg | hpos := le_or_gt m 0
    · exact (mul_nonpos_of_nonneg_of_nonpos (sub_nonneg.mpr h1) hneg).trans hx.le
    · exact (mul_le_of_le_one_left hpos.le (sub_le_self 1 h0)).trans hover
  · rw [if_neg hover]
    have hm : 0 < m := hx.trans (not_le.mp hover)
    rw [lt_max_iff, or_iff_right (not_lt.mpr h0), lt_sub_comm, div_lt_iff₀ hm]

theorem latency_score_le_one {x m : ℚ} (hx : 0 < x) : (if x ≥ m then 0 else max 0 (1 - x / m)) ≤ 1 := by
  split
  · norm_num
  · rename_i hover
    have hm : 0 < m := hx.trans (not_le.mp hover)
    exact max_le zero_le_one (sub_le_self 1 (div_pos hx hm).le)

/-- The same of a latency score with its weight, and of what the cost adds to it. -/
theorem lt_weighted_score_iff {x c k m : ℚ} (hx : 0 < x) (h0 : c ≤ k) (h1 : k ≤ c + 0.6) :
    k < 0.6 * (if x ≥ m then 0 else max 0 (1 - x / m)) + c ↔ 0.6 * x < (c + 0.6 - k) * m := by
  have hweight : (1 - (k - c) / 0.6) * m = (c + 0.6 - k) * m / 0.6 := by
    ring
  rw [← sub_lt_iff_lt_add, ← div_lt_iff₀' (by norm_num),
    lt_latency_score_iff hx (div_nonneg (sub_nonneg.mpr h0) (by norm_num)) ((div_le_one (by norm_num)).mpr (by linarith)),
    hweight, lt_div_iff₀ (by norm_num), mul_comm]

variable (task node)

theorem edge_score_eq :
    ({} : BalancedPolicy).edge_score task node =
      0.6 * BalancedPolicy.latency_score_edge task node +
        if task.input_size_bytes < SMALL_MODEL_SIZE_BYTES then 0.36 else 0.2 := by
  unfold BalancedPolicy.edge_score BalancedPolicy.cost_score_edge
  split <;> norm_num

theorem cloud_score_eq :
    ({} : BalancedPolicy).cloud_score task =
      0.6 * BalancedPolicy.latency_score_cloud task +
        if task.input_size_bytes < SMALL_MODEL_SIZE_BYTES then 0.12 else 0.28 := by
  unfold BalancedPolicy.cloud_score BalancedPolicy.cost_score_cloud
  split <;> norm_num

variable {task node}

/-- An edge node scores that much with a small model and a short latency only. -/
theorem lt_edge_score_iff {k : ℚ} (h0 : 0.8 ≤ k) (h1 : k ≤ 0.96) :
    k < ({} : BalancedPolicy).edge_score task node ↔
      task.input_size_bytes < SMALL_MODEL_SIZE_BYTES ∧ 0.6 * estimated node 10 < (0.96 - k) * task.max_latency_ms := by
  have hpos : 0 < estimated node 10 := estimated_pos (by norm_num)
  rw [edge_score_eq]
  by_cases hsmall : task.input_size_bytes < SMALL_MODEL_SIZE_BYTES
  · have hiff := lt_weighted_score_iff (c := 0.36) (k := k) (m := task.max_latency_ms) hpos (by linarith) (by linarith)
    rw [if_pos hsmall, and_iff_right hsmall, BalancedPolicy.latency_score_edge, hiff]
    norm_num
  · have hle := latency_score_le_one (m := task.max_latency_ms) hpos
    rw [if_neg hsmall, BalancedPolicy.latency_score_edge]
    refine iff_of_false (not_lt.mpr (by linarith)) ?_
    rintro ⟨hless, _⟩
    exact hsmall hless

/-- The cloud scores that much with a large model and a long time to answer only. -/
theorem lt_cloud_score_iff {k : ℚ} (h0 : 0.72 ≤ k) (h1 : k ≤ 0.88) :
    k < ({} : BalancedPolicy).cloud_score task ↔
      ¬ task.input_size_bytes < SMALL_MODEL_SIZE_BYTES ∧ 30 < (0.88 - k) * task.max_latency_ms := by
  rw [cloud_score_eq]
  by_cases hsmall : task.input_size_bytes < SMALL_MODEL_SIZE_BYTES
  · have hle := latency_score_le_one (x := 50) (m := task.max_latency_ms) (by norm_num)
    rw [if_pos hsmall, BalancedPolicy.latency_score_cloud]
    exact iff_of_false (not_lt.mpr (by linarith)) fun h => h.1 hsmall
  · have hiff := lt_weighted_score_iff (x := 50) (c := 0.28) (k := k) (m := task.max_latency_ms) (by norm_num)
      (by linarith) (by linarith)
    rw [if_neg hsmall, and_iff_right hsmall, BalancedPolicy.latency_score_cloud, hiff]
    norm_num

theorem cloud_score_le : ({} : BalancedPolicy).cloud_score task ≤ 0.88 := by
  by_contra hmore
  obtain ⟨_, hless⟩ := (lt_cloud_score_iff (by norm_num) (le_refl _)).mp (not_le.mp hmore)
  norm_num at hless

theorem cloud_score_pos : 0 < ({} : BalancedPolicy).cloud_score task := by
  have hscore : 0 ≤ BalancedPolicy.latency_score_cloud task := by
    unfold BalancedPolicy.latency_score_cloud
    split
    · exact le_refl _
    · exact le_max_left _ _
  rw [cloud_score_eq]
  split <;> linarith

/-- The balanced policy places on a node that scores most, or in the cloud, which then scores
more than every node. -/
theorem balanced_cases (task : InferenceTask) (resources : Dict String NodeResources) :
    (∃ node ∈ resources.values.filter (!overloaded ·),
      ({} : BalancedPolicy).evaluate task resources = edge_placement task node (estimated node 10)
        (PyRound.round (({} : BalancedPolicy).edge_score task node) 4) ∧
      ({} : BalancedPolicy).cloud_score task ≤ ({} : BalancedPolicy).edge_score task node ∧
      ∀ other ∈ resources.values.filter (!overloaded ·),
        ({} : BalancedPolicy).edge_score task other ≤ ({} : BalancedPolicy).edge_score task node) ∨
    (({} : BalancedPolicy).evaluate task resources = ({} : BalancedPolicy).cloud_placement task ∧
      ∀ other ∈ resources.values.filter (!overloaded ·),
        ({} : BalancedPolicy).edge_score task other < ({} : BalancedPolicy).cloud_score task) := by
  unfold BalancedPolicy.evaluate
  rw [edge_loop_eq]
  obtain ⟨hnone, hall⟩ | ⟨before, node, after, hsplit, hscan, -, hbefore, hafter⟩ :=
    RunningMax.scan_cases (({} : BalancedPolicy).edge_score task) (resources.values.filter (!overloaded ·)) (none, -1)
  · rw [hnone]
    refine .inr ⟨rfl, fun other hother => ?_⟩
    have hless := hall other hother
    have hpos : 0 < ({} : BalancedPolicy).cloud_score task := cloud_score_pos
    linarith
  · rw [hscan]
    have hmax : ∀ other ∈ resources.values.filter (!overloaded ·),
        ({} : BalancedPolicy).edge_score task other ≤ ({} : BalancedPolicy).edge_score task node := by
      intro other hother
      rw [hsplit] at hother
      exact RunningMax.le_of_mem_append_cons _ hbefore hafter hother
    have hmem : node ∈ resources.values.filter (!overloaded ·) := hsplit ▸ List.mem_append_right _ List.mem_cons_self
    dsimp only
    split
    · rename_i hedge
      exact .inl ⟨node, hmem, rfl, hedge, hmax⟩
    · rename_i hcloud
      exact .inr ⟨rfl, fun other hother => lt_of_le_of_lt (hmax other hother) (not_le.mp hcloud)⟩

/-- What the balanced policy scores, rounded, is more than an even number of ten thousandths
if some candidate scores more than half of another one. -/
theorem lt_balanced_score_iff (task : InferenceTask) (resources : Dict String NodeResources) {n : ℤ} (heven : n % 2 = 0) :
    (n : ℚ) / 10 ^ 4 < (({} : BalancedPolicy).evaluate task resources).score ↔
      (∃ node ∈ resources.values.filter (!overloaded ·),
        ((n : ℚ) + 1 / 2) / 10 ^ 4 < ({} : BalancedPolicy).edge_score task node) ∨
      ((n : ℚ) + 1 / 2) / 10 ^ 4 < ({} : BalancedPolicy).cloud_score task := by
  have hround : ∀ v : ℚ, (n : ℚ) / 10 ^ 4 < PyRound.round v 4 ↔ ((n : ℚ) + 1 / 2) / 10 ^ 4 < v := fun v => by
    rw [PyRound.lt_round_iff heven, div_lt_iff₀ (by norm_num)]
  obtain ⟨node, hnode, hplacement, hcloud, hmax⟩ | ⟨hplacement, hall⟩ := balanced_cases task resources
  · rw [hplacement, edge_placement, hround]
    constructor
    · exact fun h => .inl ⟨node, hnode, h⟩
    · rintro (⟨other, hother, hless⟩ | hless)
      · exact hless.trans_le (hmax other hother)
      · exact hless.trans_le hcloud
  · rw [hplacement, BalancedPolicy.cloud_placement, hround]
    constructor
    · exact .inr
    · rintro (⟨other, hother, hless⟩ | hless)
      · exact hless.trans (hall other hother)
      · exact hless

/-- What the latency-first policy scores for its node. -/
def preference (task : InferenceTask) (best : NodeResources) : ℚ := if is_local task best then 0.9 else 0.8

theorem outscored_iff :
    preference task best < (({} : BalancedPolicy).evaluate task resources).score ↔ Outscored task resources best := by
  have hedge : ∀ k : ℚ, 0.8 ≤ k → k ≤ 0.96 →
      ((∃ node ∈ resources.values.filter (!overloaded ·), k < ({} : BalancedPolicy).edge_score task node) ↔
        task.input_size_bytes < SMALL_MODEL_SIZE_BYTES ∧ ∃ node ∈ resources.values, Healthy node ∧
          0.6 * estimated node 10 < (0.96 - k) * task.max_latency_ms) := by
    intro k h0 h1
    simp only [lt_edge_score_iff h0 h1, mem_not_overloaded_iff]
    constructor
    · rintro ⟨node, ⟨hmem, hhealthy⟩, hsmall, hless⟩
      exact ⟨hsmall, node, hmem, hhealthy, hless⟩
    · rintro ⟨hsmall, node, hmem, hhealthy, hless⟩
      exact ⟨node, ⟨hmem, hhealthy⟩, hsmall, hless⟩
  unfold preference Outscored
  cases is_local task best with
  | true =>
    have hscore := lt_balanced_score_iff task resources (n := 9000) rfl
    have hcloud : ¬ (((9000 : ℤ) : ℚ) + 1 / 2) / 10 ^ 4 < ({} : BalancedPolicy).cloud_score task := by
      refine not_lt.mpr (cloud_score_le.trans ?_)
      norm_num
    rw [or_iff_left hcloud, hedge _ (by norm_num) (by norm_num)] at hscore
    rw [if_pos rfl, if_pos rfl, show (0.9 : ℚ) = ((9000 : ℤ) : ℚ) / 10 ^ 4 by norm_num, hscore]
    refine and_congr_right fun _ => exists_congr fun node => and_congr_right fun _ => and_congr_right fun _ => ?_
    constructor <;> intro hless <;> norm_num at hless ⊢ <;> linarith
  | false =>
    have hscore := lt_balanced_score_iff task resources (n := 8000) rfl
    rw [hedge _ (by norm_num) (by norm_num), lt_cloud_score_iff (by norm_num) (by norm_num)] at hscore
    rw [if_neg Bool.false_ne_true, if_neg Bool.false_ne_true, show (0.8 : ℚ) = ((8000 : ℤ) : ℚ) / 10 ^ 4 by norm_num, hscore]
    by_cases hsmall : task.input_size_bytes < SMALL_MODEL_SIZE_BYTES
    · rw [if_pos hsmall, and_iff_right hsmall, or_iff_left fun h => h.1 hsmall]
      refine exists_congr fun node => and_congr_right fun _ => and_congr_right fun _ => ?_
      constructor <;> intro hless <;> norm_num at hless ⊢ <;> linarith
    · rw [if_neg hsmall, or_iff_right fun h => hsmall h.1, and_iff_right hsmall]
      constructor <;> intro hless <;> norm_num at hless ⊢ <;> linarith

end Scores

section Selection

variable {settings : Settings} {task : InferenceTask} {resources : Dict String NodeResources} {best : NodeResources}

/-- What the loop over the three policies ends with. -/
theorem select_placement_eq (settings : Settings) (task : InferenceTask) (resources : Dict String NodeResources) :
    let cost_aware := ({ cloud_endpoint := settings.cloud_endpoint } : CostAwarePolicy).evaluate task resources
    let balanced := ({} : BalancedPolicy).evaluate task resources
    let first := latency_first task resources
    let second := if first.score < cost_aware.score then cost_aware else first
    select_placement task resources (policies settings) = if second.score < balanced.score then balanced else second := by
  have hfirst : (latency_first task resources).score > -1 := start_lt_latency_first
  simp only [select_placement, policies, select_loop, if_pos hfirst]
  split_ifs <;> rfl

theorem not_isEmpty_of_preferred (h : preferred task (resources.values.filter (!overloaded ·)) = some best) :
    resources.values.isEmpty = false := by
  have hmem := (List.mem_filter.mp (mem_of_preferred h)).1
  exact List.isEmpty_eq_false_iff.mpr (List.ne_nil_of_mem hmem)

theorem latency_first_of_preferred (h : preferred task (resources.values.filter (!overloaded ·)) = some best) :
    latency_first task resources = edge_placement task best (estimated best 10) (preference task best) := by
  rw [latency_first, not_isEmpty_of_preferred h, if_neg Bool.false_ne_true, h]
  rfl

/-- With a healthy node the cost-aware policy does not score more than the latency-first one. -/
theorem cost_aware_score_le (h : preferred task (resources.values.filter (!overloaded ·)) = some best) :
    (({ cloud_endpoint := settings.cloud_endpoint } : CostAwarePolicy).evaluate task resources).score ≤
      (latency_first task resources).score := by
  have hcloud : (({ cloud_endpoint := settings.cloud_endpoint } : CostAwarePolicy).cloud_placement task resources).score =
      0.55 := by
    rw [CostAwarePolicy.cloud_placement, not_isEmpty_of_preferred h, if_neg Bool.false_ne_true]
    norm_num
  rw [latency_first_of_preferred h, edge_placement, preference, CostAwarePolicy.evaluate, healthy_nodes_eq, h]
  dsimp only
  split
  · rw [edge_placement]
    split <;> norm_num
  · rw [hcloud]
    split <;> norm_num

theorem select_placement_of_preferred (h : preferred task (resources.values.filter (!overloaded ·)) = some best) :
    select_placement task resources (policies settings) =
      if preference task best < (({} : BalancedPolicy).evaluate task resources).score then
        ({} : BalancedPolicy).evaluate task resources
      else edge_placement task best (estimated best 10) (preference task best) := by
  rw [select_placement_eq, if_neg (not_lt.mpr (cost_aware_score_le h)), latency_first_of_preferred h]
  rfl

/-- When the balanced policy beats the preference, its placement is within the constraint. -/
theorem balanced_within (h : preference task best < (({} : BalancedPolicy).evaluate task resources).score) :
    (({} : BalancedPolicy).evaluate task resources).estimated_latency_ms ≤ task.max_latency_ms := by
  have hpreference : (0.8 : ℚ) ≤ preference task best := by
    unfold preference
    split <;> norm_num
  have hscore : ((8000 : ℤ) : ℚ) / 10 ^ 4 < (({} : BalancedPolicy).evaluate task resources).score := by
    refine lt_of_le_of_lt ?_ h
    norm_num at hpreference ⊢
    exact hpreference
  have hround : ∀ v : ℚ, ((8000 : ℤ) : ℚ) / 10 ^ 4 < PyRound.round v 4 → 0.8 ≤ v ∧ 0.8 < v := by
    intro v hv
    rw [PyRound.lt_round_iff rfl] at hv
    norm_num at hv ⊢
    constructor <;> linarith
  obtain ⟨node, _, hplacement, _⟩ | ⟨hplacement, _⟩ := balanced_cases task resources
  · rw [hplacement] at hscore ⊢
    obtain ⟨_, hless⟩ := (lt_edge_score_iff (le_refl _) (by norm_num)).mp (hround _ hscore).2
    have hpos : 0 < estimated node 10 := estimated_pos (by norm_num)
    change estimated node 10 ≤ task.max_latency_ms
    norm_num at hless
    linarith
  · rw [hplacement] at hscore ⊢
    obtain ⟨_, hless⟩ := (lt_cloud_score_iff (by norm_num) (by norm_num)).mp (hround _ hscore).2
    change 50 ≤ task.max_latency_ms
    norm_num at hless
    linarith

/-- Without a healthy node the cost-aware policy offers the cloud, and scores more than the
latency-first one. -/
theorem cost_aware_of_no_preferred (settings : Settings)
    (h : preferred task (resources.values.filter (!overloaded ·)) = none) :
    (({ cloud_endpoint := settings.cloud_endpoint } : CostAwarePolicy).evaluate task resources).estimated_latency_ms = 40 ∧
      (latency_first task resources).score <
        (({ cloud_endpoint := settings.cloud_endpoint } : CostAwarePolicy).evaluate task resources).score ∧
      0.55 ≤ (({ cloud_endpoint := settings.cloud_endpoint } : CostAwarePolicy).evaluate task resources).score := by
  have hevaluate : ({ cloud_endpoint := settings.cloud_endpoint } : CostAwarePolicy).evaluate task resources =
      ({ cloud_endpoint := settings.cloud_endpoint } : CostAwarePolicy).cloud_placement task resources := by
    unfold CostAwarePolicy.evaluate
    rw [healthy_nodes_eq, h]
    split <;> rfl
  have hscore : (0.55 : ℚ) ≤
      (({ cloud_endpoint := settings.cloud_endpoint } : CostAwarePolicy).cloud_placement task resources).score := by
    refine le_trans ?_ (le_max_right _ _)
    split <;> norm_num
  have hfirst : (latency_first task resources).score ≤ 0.35 := by
    rw [latency_first, h]
    split <;> norm_num
  rw [hevaluate]
  exact ⟨rfl, lt_of_le_of_lt hfirst (lt_of_lt_of_le (by norm_num) hscore), hscore⟩

/-- The cloud scores little if it takes longer than the task allows. -/
theorem cloud_within (h : 0.55 < (({} : BalancedPolicy).cloud_placement task).score) : 50 ≤ task.max_latency_ms := by
  by_contra hover
  have hscore : BalancedPolicy.latency_score_cloud task = 0 := if_pos (not_le.mp hover).le
  have hcloud : ({} : BalancedPolicy).cloud_score task ≤ 0.28 := by
    rw [cloud_score_eq, hscore]
    split <;> norm_num
  rw [BalancedPolicy.cloud_placement, show (0.55 : ℚ) = ((5500 : ℤ) : ℚ) / 10 ^ 4 by norm_num,
    PyRound.lt_round_iff rfl] at h
  norm_num at h hcloud
  linarith

/-- Without a healthy node the placement is in the cloud, and within the constraint if any is. -/
theorem honours_of_no_preferred (h : preferred task (resources.values.filter (!overloaded ·)) = none) :
    Honours settings task resources := by
  have hnone : ∀ node, node ∉ resources.values.filter (!overloaded ·) := by
    intro node
    rw [preferred_eq_none_iff.mp h]
    exact List.not_mem_nil
  obtain ⟨hestimated, hfirst, hscore⟩ := cost_aware_of_no_preferred settings h
  rintro ⟨latency, hcandidate, hwithin⟩
  have hcloud : 40 ≤ task.max_latency_ms := by
    cases hcandidate with
    | edge hmem hhealthy => exact absurd (mem_not_overloaded_iff.mpr ⟨hmem, hhealthy⟩) (hnone _)
    | cloud => linarith
    | cost_aware => exact hestimated ▸ hwithin
  rw [select_placement_eq, if_pos hfirst]
  split
  · rename_i hbalanced
    obtain ⟨node, hnode, _⟩ | ⟨hplacement, _⟩ := balanced_cases task resources
    · exact absurd hnode (hnone node)
    · rw [hplacement] at hbalanced ⊢
      exact cloud_within (hscore.trans_lt hbalanced)
  · exact hestimated.trans_le hcloud

end Selection

/-- A node that is healthy and slow. -/
def slow_report : NodeResources :=
  { node_id := "edge-1", node_address := "10.0.0.1:50051", cpu_usage_percent := 50, memory_usage_percent := 40,
    avg_inference_latency_ms := 200, last_reported := 0 }

section Small

variable {task : InferenceTask} {resources : Dict String NodeResources} {best : NodeResources}

theorem edge_placement_not_cloud (node : NodeResources) (estimated score : ℚ) :
    (edge_placement task node estimated score).target ≠ .cloud := by
  rw [edge_placement]
  dsimp only
  split
  · intro h
    cases h
  · intro h
    cases h

/-- The cost of the cloud leaves a small model there less than what any healthy node is
preferred for. -/
theorem cloud_score_le_of_small (hsmall : task.input_size_bytes < SMALL_MODEL_SIZE_BYTES) :
    PyRound.round (({} : BalancedPolicy).cloud_score task) 4 ≤ 0.72 := by
  have hscore : ({} : BalancedPolicy).cloud_score task ≤ ((7200 : ℤ) : ℚ) / 10 ^ 4 := by
    have hle := latency_score_le_one (x := 50) (m := task.max_latency_ms) (by norm_num)
    have hbound : ((7200 : ℤ) : ℚ) / 10 ^ 4 = 0.72 := by norm_num
    rw [cloud_score_eq, if_pos hsmall, BalancedPolicy.latency_score_cloud, hbound]
    linarith
  have hround := PyRound.round_le hscore
  norm_num at hround ⊢
  exact hround

theorem preference_ge : 0.8 ≤ preference task best := by
  unfold preference
  split <;> norm_num

/-- When the balanced policy beats the preference for a node, it has not chosen the cloud. -/
theorem balanced_not_cloud (hsmall : task.input_size_bytes < SMALL_MODEL_SIZE_BYTES)
    (h : preference task best < (({} : BalancedPolicy).evaluate task resources).score) :
    (({} : BalancedPolicy).evaluate task resources).target ≠ .cloud := by
  obtain ⟨node, _, hplacement, _⟩ | ⟨hplacement, _⟩ := balanced_cases task resources
  · rw [hplacement]
    exact edge_placement_not_cloud node _ _
  · rw [hplacement, BalancedPolicy.cloud_placement] at h
    have hle := cloud_score_le_of_small hsmall
    have hge : 0.8 ≤ preference task best := preference_ge
    dsimp only at h
    norm_num at hle hge
    linarith

/-- With a healthy node in the map a small task is not placed in the cloud. -/
theorem select_placement_not_cloud (settings : Settings) (hsmall : task.input_size_bytes < SMALL_MODEL_SIZE_BYTES)
    (hhealthy : ∃ node ∈ resources.values, Healthy node) :
    (select_placement task resources (policies settings)).target ≠ .cloud := by
  cases hpreferred : preferred task (resources.values.filter (!overloaded ·)) with
  | none =>
    obtain ⟨node, hmem, hlimits⟩ := hhealthy
    have hnode := mem_not_overloaded_iff.mpr ⟨hmem, hlimits⟩
    rw [preferred_eq_none_iff.mp hpreferred] at hnode
    cases hnode
  | some best =>
    rw [select_placement_of_preferred hpreferred]
    split
    · rename_i hbeaten
      exact balanced_not_cloud hsmall hbeaten
    · exact edge_placement_not_cloud best _ _

end Small

/-- An engine with the policies of the lifespan places no small task in the cloud while some
node that has reported lately is healthy. -/
theorem small_task_stays_on_edge {settings : Settings} {engine : SchedulerEngine} {now : ℤ} {task : InferenceTask}
    {node_id : String} {node : NodeResources} (hpolicies : engine.policies = policies settings)
    (hsmall : task.input_size_bytes < SMALL_MODEL_SIZE_BYTES)
    (hreported : engine.resource_monitor.nodes.get? node_id = some node)
    (hfresh : age_seconds now node.last_reported ≤ engine.resource_monitor.stale_threshold)
    (hcpu : node.cpu_usage_percent ≤ 85) (hmemory : node.memory_usage_percent ≤ 90) :
    (engine.submit_task now task).2.target ≠ .cloud := by
  have hvalue : node ∈ (engine.resource_monitor.get_resource_map now).values :=
    Dict.mem_values_iff.mpr ⟨node_id, get?_resource_map_iff.mpr ⟨hreported, hfresh⟩⟩
  change (select_placement task (engine.resource_monitor.get_resource_map now) engine.policies).target ≠ .cloud
  rw [hpolicies]
  exact select_placement_not_cloud settings hsmall ⟨node, hvalue, hcpu, hmemory⟩

/-- A task of a node that has not reported goes to the half busy one, however long it may take. -/
theorem small_task_stays_on_edge_remote :
    (((lifespan {}).submit_task 1735689600000000 { task_id := "task-1" }).2.target = .cloud) ∧
      ({ lifespan {} with
          resource_monitor := (lifespan {}).resource_monitor.update 1735689600000000 sample_report }.submit_task
        1735689610000000 { task_id := "task-1", max_latency_ms := 1000000 }).2.target ≠ .cloud := by
  have hpolicies : (lifespan {}).policies = policies {} := rfl
  have hreported : ((lifespan {}).resource_monitor.update 1735689600000000 sample_report).nodes.get? "edge-1" =
      some { sample_report with last_reported := 1735689600000000 } := rfl
  exact ⟨by decide +kernel, small_task_stays_on_edge hpolicies (by decide) hreported (by decide +kernel) (by decide +kernel)
    (by decide +kernel)⟩

end gateway.scheduler_main
