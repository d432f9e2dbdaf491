import EdgeGateway.Library.Preference
import EdgeGateway.Scheduler.Policies
import EdgeGateway.Scheduler.AdaptiveScheduler

open gateway.resource_monitor gateway.scheduler_engine gateway.policies gateway.adaptive_scheduler

namespace gateway.node_selection

/-- The requesting node if it passes, and otherwise a node of least CPU usage among those that pass. -/
structure Selects (passes : NodeResources → Prop) (task : InferenceTask) (nodes : List NodeResources)
    (considered : Option NodeResources) : Prop where
  requesting : ∀ node ∈ nodes, passes node → node.node_id = task.requesting_node_id → considered = some node
  least : (∀ node ∈ nodes, passes node → node.node_id ≠ task.requesting_node_id) → ∀ best, considered = some best →
    best ∈ nodes ∧ passes best ∧ ∀ node ∈ nodes, passes node → best.cpu_usage_percent ≤ node.cpu_usage_percent
  none_iff : considered = none ↔ ∀ node ∈ nodes, ¬ passes node

/-- The task goes to the considered node, or to the cloud if there is none. -/
def Places (task : InferenceTask) (placement : TaskPlacement) : Option NodeResources → Prop
  | none => placement.target = .cloud
  | some node =>
    placement.target = (if node.node_id = task.requesting_node_id then .edge_local else .edge_remote) ∧
      placement.target_node_id = node.node_id ∧ placement.target_endpoint = node.node_address

/-- One node at most costs least among those that pass. -/
def UniqueLeast (passes : NodeResources → Prop) (nodes : List NodeResources) : Prop :=
  ∀ a ∈ nodes, ∀ b ∈ nodes, passes a → passes b → a.cpu_usage_percent = b.cpu_usage_percent →
    (∀ node ∈ nodes, passes node → a.cpu_usage_percent ≤ node.cpu_usage_percent) → a = b

section Nodes

variable (task : InferenceTask) (resources : Dict String NodeResources)

/-- `best_node` of the adaptive scheduler after its loop. -/
def adaptive_node (self : AdaptiveScheduler) : Option NodeResources := self.best_node_loop task resources.values none

/-- `best` of the latency-first policy. -/
def latency_first_node : Option NodeResources := preferred task (resources.values.filter (!overloaded ·))

/-- `best` of the cost-aware policy for a small model. -/
def cost_aware_node : Option NodeResources := preferred task (CostAwarePolicy.healthy_nodes resources)

theorem cost_aware_node_eq : cost_aware_node task resources = latency_first_node task resources := by
  rw [cost_aware_node, latency_first_node, healthy_nodes_eq]

end Nodes

/-- What a policy considers, with the requesting node as the wanted one. -/
abbrev Considers (passes : NodeResources → Prop) (task : InferenceTask) : List NodeResources → Option NodeResources → Prop :=
  Preference.Chosen passes (fun node => node.node_id = task.requesting_node_id) NodeResources.cpu_usage_percent

section Lemmas

variable {passes : NodeResources → Prop} {task : InferenceTask} {nodes : List NodeResources}
  {considered : Option NodeResources} {resources : Dict String NodeResources}

theorem Considers.selects (h : Considers passes task nodes considered) (hids : (nodes.map NodeResources.node_id).Nodup) :
    Selects passes task nodes considered where
  requesting node hnode hpasses hid :=
    h.eq_of_wanted hnode hpasses hid fun other hother hid' =>
      List.inj_on_of_nodup_map hids hother hnode (hid'.trans hid.symm)
  least hnone best hbest := by
    subst hbest
    obtain ⟨hmem, hpasses, hid | hall⟩ := h
    · exact absurd hid (hnone best hmem hpasses)
    · exact ⟨hmem, hpasses, fun node hnode hpasses' => (hall node hnode hpasses').2⟩
  none_iff := h.eq_none_iff

/-- A node is passed over that does not pass, or costs no less than the best one so far. -/
theorem Considers.keep {best_node : Option NodeResources} {node : NodeResources} {rest : List NodeResources}
    (h : Considers passes task (best_node.toList ++ rest) considered)
    (hnode : passes node → node.node_id ≠ task.requesting_node_id ∧
      ∃ best ∈ best_node, passes best ∧ best.cpu_usage_percent ≤ node.cpu_usage_percent) :
    Considers passes task (best_node.toList ++ node :: rest) considered := by
  refine h.of_dominated (fun other hmem => ?_) fun other hmem hpasses => ?_
  · exact (List.Sublist.append_left (List.sublist_cons_self node rest) _).subset hmem
  · obtain rfl | hmem := List.mem_cons.mp (List.perm_middle.mem_iff.mp hmem)
    · obtain ⟨hid, best, hbest, hpasses', hle⟩ := hnode hpasses
      exact .inr ⟨hid, best, List.mem_append_left _ (Option.mem_toList.mpr hbest), hpasses', hle⟩
    · exact .inl hmem

/-- A node takes the place of the best one so far, which costs more. -/
theorem Considers.replace {best_node : Option NodeResources} {node : NodeResources} {rest : List NodeResources}
    (h : Considers passes task ((some node).toList ++ rest) considered) (hpasses : passes node)
    (hbest : ∀ best ∈ best_node, best.node_id ≠ task.requesting_node_id ∧ node.cpu_usage_percent < best.cpu_usage_percent) :
    Considers passes task (best_node.toList ++ node :: rest) considered := by
  refine h.of_dominated (fun other hmem => List.mem_append_right _ hmem) fun other hmem _ => ?_
  obtain hmem | hmem := List.mem_append.mp hmem
  · obtain ⟨hid, hless⟩ := hbest other (Option.mem_toList.mp hmem)
    exact .inr ⟨hid, node, List.mem_cons_self, hpasses, hless.le⟩
  · exact .inl hmem

/-- The loop over the nodes, started with one that passes and is not the requesting one. -/
theorem best_node_loop_considers {self : AdaptiveScheduler} {best_node : Option NodeResources}
    (hbest : ∀ best ∈ best_node, self.is_overloaded best = false ∧ best.node_id ≠ task.requesting_node_id) :
    Considers (fun node => self.is_overloaded node = false) task (best_node.toList ++ nodes)
      (self.best_node_loop task nodes best_node) := by
  induction nodes generalizing best_node with
  | nil =>
    rw [List.append_nil]
    cases best_node with
    | none => exact List.forall_mem_nil _
    | some best =>
      obtain ⟨hpasses, hid⟩ := hbest best rfl
      refine ⟨List.mem_singleton_self best, hpasses, .inr fun node hnode _ => ?_⟩
      rw [List.mem_singleton.mp hnode]
      exact ⟨hid, le_refl _⟩
  | cons node rest ih =>
    rw [AdaptiveScheduler.best_node_loop]
    cases hoverloaded : self.is_overloaded node with
    | true =>
      rw [if_pos rfl]
      refine (ih hbest).keep fun hpasses => ?_
      rw [hoverloaded] at hpasses
      cases hpasses
    | false =>
      rw [if_neg Bool.false_ne_true]
      split_ifs with hid hbetter
      · exact ⟨List.mem_append_right _ List.mem_cons_self, hoverloaded, .inl hid⟩
      · have hnode : ∀ best ∈ some node, self.is_overloaded best = false ∧ best.node_id ≠ task.requesting_node_id := by
          intro best hmem
          cases hmem
          exact ⟨hoverloaded, hid⟩
        refine (ih hnode).replace hoverloaded fun best hmem => ⟨(hbest best hmem).2, ?_⟩
        rw [hmem] at hbetter
        exact of_decide_eq_true hbetter
      · refine (ih hbest).keep fun _ => ⟨hid, ?_⟩
        cases best_node with
        | none => exact absurd rfl hbetter
        | some best => exact ⟨best, rfl, (hbest best rfl).1, not_lt.mp fun hless => hbetter (decide_eq_true hless)⟩

theorem adaptive_node_considers (self : AdaptiveScheduler) :
    Considers (fun node => self.is_overloaded node = false) task resources.values (adaptive_node task resources self) :=
  best_node_loop_considers fun _ hbest => absurd hbest (Option.not_mem_none _)

theorem UniqueLeast.of_nodup (h : (nodes.map NodeResources.cpu_usage_percent).Nodup) : UniqueLeast passes nodes :=
  fun _ ha _ hb _ _ heq _ => List.inj_on_of_nodup_map h ha hb heq

theorem preferred_eq_or (healthy : List NodeResources) :
    preferred task healthy = (healthy.find? fun node => node.node_id = task.requesting_node_id).or
      (healthy.insertionSort fun n m => n.cpu_usage_percent ≤ m.cpu_usage_percent).head? := by
  unfold preferred
  split
  · rename_i node hfind
    rw [hfind, Option.some_or]
  · rename_i hfind
    rw [hfind, Option.none_or]

theorem latency_first_node_considers : Considers Healthy task resources.values (latency_first_node task resources) := by
  rw [latency_first_node, preferred_eq_or]
  refine Preference.chosen_of_search NodeResources.cpu_usage_percent resources.values (fun node => ?_) fun node => ?_
  · rw [Bool.not_eq_true', not_overloaded_iff]
  · exact decide_eq_true_iff

theorem adaptive_places (self : AdaptiveScheduler) :
    Places task (self.evaluate task resources) (if self.latency_ok then adaptive_node task resources self else none) := by
  unfold AdaptiveScheduler.evaluate adaptive_node
  cases hempty : resources.values.isEmpty with
  | true =>
    rw [List.isEmpty_iff] at hempty
    rw [hempty, if_pos rfl]
    cases self.latency_ok <;> rfl
  | false =>
    rw [if_neg Bool.false_ne_true]
    cases self.best_node_loop task resources.values none with
    | none => cases self.latency_ok <;> rfl
    | some best_node =>
      cases self.latency_ok with
      | true => exact ⟨rfl, rfl, rfl⟩
      | false => rfl

theorem edge_placement_places (best : NodeResources) (estimated score : ℚ) :
    Places task (edge_placement task best estimated score) (some best) := by
  refine ⟨?_, rfl, rfl⟩
  simp only [edge_placement, is_local, decide_eq_true_eq]

theorem latency_first_places : Places task (latency_first task resources) (latency_first_node task resources) := by
  unfold latency_first latency_first_node
  cases hempty : resources.values.isEmpty with
  | true =>
    rw [List.isEmpty_iff] at hempty
    rw [hempty, if_pos rfl]
    rfl
  | false =>
    rw [if_neg Bool.false_ne_true]
    cases preferred task (resources.values.filter (!overloaded ·)) with
    | none => rfl
    | some best => exact edge_placement_places best _ _

theorem cost_aware_places (self : CostAwarePolicy) (hsmall : self.is_small_model task = true) :
    Places task (self.evaluate task resources) (cost_aware_node task resources) := by
  rw [CostAwarePolicy.evaluate, if_pos hsmall, cost_aware_node]
  cases preferred task (CostAwarePolicy.healthy_nodes resources) with
  | none => rfl
  | some best => exact edge_placement_places best _ _

variable {resources' : Dict String NodeResources}

/-- No order of the map makes a difference to whether a node is found. -/
theorem latency_first_node_eq_none_iff (hperm : resources.items.Perm resources'.items) :
    latency_first_node task resources = none ↔ latency_first_node task resources' = none := by
  have h' : Considers Healthy task resources'.values (latency_first_node task resources') := latency_first_node_considers
  exact latency_first_node_considers.eq_none_iff.trans (h'.perm (hperm.map Prod.snd).symm).eq_none_iff.symm

/-- Nor does it to which one, if one node at most costs least. -/
theorem latency_first_node_eq (hperm : resources.items.Perm resources'.items)
    (hids : (resources.values.map NodeResources.node_id).Nodup) (hleast : UniqueLeast Healthy resources.values) :
    latency_first_node task resources = latency_first_node task resources' := by
  have h' : Considers Healthy task resources'.values (latency_first_node task resources') := latency_first_node_considers
  refine latency_first_node_considers.unique (h'.perm (hperm.map Prod.snd).symm) ?_ hleast
  intro a ha b hb hid hid'
  exact List.inj_on_of_nodup_map hids ha hb (hid.trans hid'.symm)

end Lemmas

/-- Two idle nodes and a busy one. -/
def sample_resources : Dict String NodeResources where
  items := [("edge-1", { node_id := "edge-1", cpu_usage_percent := 20, last_reported := 0 }),
    ("edge-2", { node_id := "edge-2", cpu_usage_percent := 95, last_reported := 0 }),
    ("edge-3", { node_id := "edge-3", cpu_usage_percent := 10, last_reported := 0 })]
  nodup := by decide

/-- The same nodes in the reverse order. -/
def sample_resources_reversed : Dict String NodeResources where
  items := sample_resources.items.reverse
  nodup := by decide

end gateway.node_selection
