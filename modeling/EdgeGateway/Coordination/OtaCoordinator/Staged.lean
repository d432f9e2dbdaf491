import EdgeGateway.Coordination.OtaCoordinator.Effects

namespace gateway.ota_coordinator

/-- What shows how far a rollout has come: a node is attempted, a node passes its health
wait, the watch period is over. -/
inductive Stage (Ref : Type) where
  | attempted (node : Node Ref)
  | passed (node : Node Ref)
  | watched

variable {κ α Ref : Type}

def Happening.stage : Happening κ Ref → Option (Stage Ref)
  | .attempted node _ _ _ => some (.attempted node)
  | .healthy node _ => some (.passed node)
  | .watched => some .watched
  | .written _ _ | .rolling_back _ | .deleted _ _ => none

def stages (history : List (Happening κ Ref)) : List (Stage Ref) := history.filterMap Happening.stage

theorem stages_append (history added : List (Happening κ Ref)) :
    stages (history ++ added) = stages history ++ stages added := List.filterMap_append

/-- The stages of an update of the nodes that goes through: each is attempted when the one
before it has passed. -/
def rolling_schedule (nodes : List (Node Ref)) : List (Stage Ref) :=
  nodes.flatMap fun node => [.attempted node, .passed node]

/-- The canary passes before and after the watch period, and the others follow. -/
def canary_schedule : List (Node Ref) → List (Stage Ref)
  | [] => []
  | canary :: remaining => [.attempted canary, .passed canary, .watched, .passed canary] ++ rolling_schedule remaining

/-- The stages of the history, as the log of a rollout. -/
def World.stages (w : World κ α Ref) : List (Stage Ref) := ota_coordinator.stages w.history

theorem World.stages_of_history {w w' : World κ α Ref} {added : List (Happening κ Ref)} {more : List (Stage Ref)}
    (h : w'.history = w.history ++ added) (hmore : ota_coordinator.stages added = more) :
    w'.stages = w.stages ++ more := by
  rw [World.stages, h, stages_append, hmore]
  rfl

theorem World.stages_of_unstaged {w w' : World κ α Ref} {happening : Happening κ Ref}
    (h : w'.history = w.history ++ [happening]) (hunstaged : happening.stage = none) : w'.stages = w.stages := by
  have hmore : ota_coordinator.stages [happening] = [] := List.filterMap_cons_none hunstaged
  rw [stages_of_history h hmore, List.append_nil]

variable {env : Environment κ α Ref} {node : Node Ref}

theorem record_ota_event_follows (firmware_version event : String) (node_ids : List String) :
    (record_ota_event env firmware_version event node_ids).Follows World.stages [] := by
  apply Raising.Follows.of_silent
  intro w
  rcases hcall : (record_ota_event env firmware_version event node_ids).call w with ⟨r, w'⟩
  obtain ⟨scene, events, _, rfl⟩ := call_record_ota_event_cases hcall
  rfl

theorem sleep_follows (seconds : PyFloat) : (sleep env seconds).Follows World.stages [] := by
  apply Raising.Follows.of_silent
  intro w
  rcases hcall : (sleep env seconds).call w with ⟨r, w'⟩
  obtain ⟨scene, _, _, rfl⟩ := call_sleep_cases hcall
  rfl

theorem watched_follows : (note [.watched] : Rollout κ α Ref Unit).Follows World.stages [.watched] := by
  intro w
  have hwatched : ((note [.watched] : Rollout κ α Ref Unit).call w).2.stages = w.stages ++ [.watched] :=
    World.stages_of_history rfl rfl
  exact ⟨[.watched], hwatched, List.prefix_rfl, fun _ _ => rfl⟩

/-- What comes after a health wait comes after the node has passed it, if it is on a schedule at all. -/
theorem wait_for_health_follows {β : Type} {timeout poll_interval : PyFloat} {f : Bool → Rollout κ α Ref β}
    {rest : List (Stage Ref)} (hpassed : (f true).Follows World.stages rest)
    (hfailed : ∀ schedule, (f false).Follows World.stages schedule) :
    (wait_for_health env node timeout poll_interval >>= f).Follows World.stages (.passed node :: rest) := by
  intro w
  rcases hcall : (wait_for_health env node timeout poll_interval).call w with ⟨r, w'⟩
  obtain ⟨scene, _, ⟨rfl, _, hw'⟩ | ⟨rfl | rfl, hw'⟩⟩ := call_wait_for_health_cases hcall
  · have hhistory : w'.history = w.history ++ [.healthy node scene.others] := by rw [hw']
    have hstages : w'.stages = w.stages ++ [.passed node] := World.stages_of_history hhistory rfl
    obtain ⟨added, hlog, hprefix, hall⟩ := hpassed w'
    rw [Raising.FollowsFrom, Raising.call_bind_ok hcall]
    refine ⟨.passed node :: added, ?_, List.cons_prefix_cons.mpr ⟨rfl, hprefix⟩, fun b hb => ?_⟩
    · rw [hlog, hstages, List.append_assoc, List.singleton_append]
    · rw [hall b hb]
  · have hstages : w'.stages = w.stages := by rw [hw']; rfl
    rw [Raising.FollowsFrom, Raising.call_bind_ok hcall, ← hstages]
    exact hfailed _ w'
  · have hstages : w'.stages = w.stages := by rw [hw']; rfl
    rw [Raising.FollowsFrom, Raising.call_bind_error hcall]
    refine ⟨[], ?_, List.nil_prefix, fun b hb => by cases hb⟩
    rw [List.append_nil, hstages]

variable [DecidableEq Ref]

theorem update_node_follows (firmware_version : String) :
    (update_node env node firmware_version).Follows World.stages [.attempted node] := by
  intro w
  refine ⟨[.attempted node], ?_, List.prefix_rfl, fun _ _ => rfl⟩
  rcases hcall : (update_node env node firmware_version).call w with ⟨r, w'⟩
  have hbegun : (begun node firmware_version w).stages = w.stages ++ [.attempted node] :=
    World.stages_of_history rfl rfl
  obtain ⟨_, rfl⟩ | ⟨outcome, scene, _, _, hw'⟩ := call_update_node_cases hcall
  · exact hbegun
  · have hhistory : w'.history = (begun node firmware_version w).history ++ [.written node outcome] := by rw [hw']
    rw [World.stages_of_unstaged hhistory rfl, hbegun]

theorem rollback_node_follows : (rollback_node env node).Follows World.stages [] := by
  apply Raising.Follows.of_silent
  intro w
  rcases hcall : (rollback_node env node).call w with ⟨r, w'⟩
  have hrolling : (rolling_back node w).history = w.history ++ [.rolling_back node] := rfl
  obtain ⟨_, rfl⟩ | ⟨outcome, scene, _, _, hw'⟩ := call_rollback_node_cases hcall
  · exact World.stages_of_unstaged hrolling rfl
  · have hhistory : w'.history = (rolling_back node w).history ++ [.deleted node outcome] := by rw [hw']
    rw [World.stages_of_unstaged hhistory rfl, World.stages_of_unstaged hrolling rfl]

/-- Where a rollback is followed by an exception the rollout is over. -/
theorem rollback_node_raises {β : Type} {f : Unit → Rollout κ α Ref β}
    (hf : ∀ schedule, (f ()).Follows World.stages schedule) (schedule : List (Stage Ref)) :
    (rollback_node env node >>= f).Follows World.stages schedule :=
  rollback_node_follows.bind fun _ => hf schedule

theorem update_and_verify_follows (firmware_version : String) (health_timeout : PyFloat) (results : Dict String String)
    (node : Node Ref) :
    (update_and_verify env firmware_version health_timeout results node).Follows World.stages
      [.attempted node, .passed node] := by
  intro w
  rw [update_and_verify, Raising.FollowsFrom, Raising.call_tryCatch_throw]
  refine Raising.Follows.bind (update_node_follows firmware_version) (fun _ => ?_) w
  apply wait_for_health_follows
  · exact .pure _
  · apply rollback_node_raises
    intro schedule
    exact (record_ota_event_follows firmware_version _ _).bind fun _ => .throw _ schedule

theorem update_remaining_follows (firmware_version : String) (health_timeout : PyFloat) (results : Dict String String)
    (node : Node Ref) :
    (update_remaining env firmware_version health_timeout results node).Follows World.stages
      [.attempted node, .passed node] := by
  refine Raising.Follows.bind (update_node_follows firmware_version) fun _ => ?_
  apply wait_for_health_follows
  · exact .pure _
  · apply rollback_node_raises
    exact fun schedule => .throw _ schedule

/-- A rolling update goes along its schedule, and so does a canary update, up to where it ends;
one that returns has come to the end of it. -/
theorem rollouts_follow_schedules (env : Environment κ α Ref) (w : World κ α Ref) (firmware_version : String)
    (nodes : Option (List (Node Ref))) (watch timeout : PyFloat) :
    (start_rolling_update env firmware_version nodes timeout).FollowsFrom World.stages w
        (rolling_schedule (effective_targets env nodes w.scene.others)) ∧
      (start_canary_update env firmware_version watch timeout).FollowsFrom World.stages w
        (canary_schedule (get_alive_peers env w.scene.others)) := by
  have hrecord : ∀ event node_ids, (record_ota_event env firmware_version event node_ids).Follows World.stages [] :=
    record_ota_event_follows firmware_version
  constructor
  · have hloop : ∀ targets : List (Node Ref),
        (targets.foldlM (update_and_verify env firmware_version timeout) .empty).Follows World.stages
          (rolling_schedule targets) :=
      fun targets => .foldlM (fun results node => update_and_verify_follows firmware_version timeout results node) _
    rw [start_rolling_update, Raising.FollowsFrom, Raising.call_bind, Raising.call_get]
    dsimp only
    refine Raising.Follows.bind_silent (hrecord _ _) (fun _ => ?_) w
    apply (hloop _).bind_of_silent
    intro results
    exact (hrecord _ _).bind_silent fun _ => .pure results
  · have hloop : ∀ (remaining : List (Node Ref)) (results : Dict String String),
        (remaining.foldlM (update_remaining env firmware_version timeout) results).Follows World.stages
          (rolling_schedule remaining) :=
      fun remaining => .foldlM (fun results node => update_remaining_follows firmware_version timeout results node)
    rw [start_canary_update, Raising.FollowsFrom, Raising.call_bind, Raising.call_get]
    dsimp only
    cases get_alive_peers env w.scene.others with
    | nil => exact Raising.Follows.pure _ w
    | cons canary remaining =>
      refine Raising.Follows.bind_silent (hrecord _ _) (fun _ => ?_) w
      refine (update_node_follows firmware_version).bind fun _ => ?_
      apply wait_for_health_follows
      · apply (sleep_follows watch).bind_silent
        intro _
        refine watched_follows.bind fun _ => ?_
        apply wait_for_health_follows
        · apply (hloop remaining _).bind_of_silent
          intro results
          exact (hrecord _ _).bind_silent fun _ => .pure results
        · exact rollback_node_raises fun schedule => .throw _ schedule
      · exact rollback_node_raises fun schedule => .throw _ schedule

end gateway.ota_coordinator
