import EdgeGateway.Coordination.OtaCoordinator

namespace gateway.ota_coordinator

/-- The world with other things to come. -/
def World.facing {κ α Ref : Type} (w : World κ α Ref) (future : List (Turn α Outcome)) : World κ α Ref :=
  { w with scene := { w.scene with future } }

/-- The local node alone, facing the given awaits. -/
def sample_world (future : List (Turn heartbeat.Action Outcome)) : World Recorded heartbeat.Action String where
  scene := { others := (heartbeat.started, []), future }
  metadata _ := .empty
  redis := .empty
  events := []
  history := []

variable {κ α Ref : Type} {env : Environment κ α Ref} {w w' : World κ α Ref} {node : Node Ref}

theorem call_await (env : Environment κ α Ref) (w : World κ α Ref) :
    (await env).call w =
      match w.scene.next env.system with
      | some (outcome, scene) => (.ok outcome, { w with scene })
      | none => (.error .pending, w) := rfl

theorem call_command (execute : World κ α Ref → World κ α Ref) (happened : Outcome → List (Happening κ Ref)) :
    (command env execute happened).call w =
      match w.scene.next env.system with
      | some (outcome, scene) =>
        let answered := if outcome.executed then execute { w with scene } else { w with scene }
        (outcome.result, { answered with history := answered.history ++ happened outcome })
      | none => (.error .pending, w) := by
  unfold command
  rw [Raising.call_bind, call_await]
  cases w.scene.next env.system with
  | none => rfl
  | some reply =>
    obtain ⟨outcome, scene⟩ := reply
    cases outcome <;> rfl

theorem call_sleep (seconds : PyFloat) :
    (sleep env seconds).call w =
      match w.scene.next env.system with
      | some (_, scene) => (.ok (), { w with scene })
      | none => (.error .pending, w) := by
  unfold sleep
  rw [Raising.call_bind, call_await]
  cases w.scene.next env.system <;> rfl

theorem call_sleep_cases {seconds : PyFloat} {r : Except Stop Unit} (h : (sleep env seconds).call w = (r, w')) :
    ∃ scene, env.system.StepsWhere (fun _ _ => True) w.scene.others scene.others ∧
      (r = .ok () ∨ r = .error .pending) ∧ w' = { w with scene } := by
  rw [call_sleep] at h
  cases hnext : w.scene.next env.system with
  | none =>
    rw [hnext] at h
    cases h
    exact ⟨_, .refl, .inr rfl, rfl⟩
  | some reply =>
    obtain ⟨outcome, scene⟩ := reply
    rw [hnext] at h
    cases h
    exact ⟨scene, Scene.next_steps hnext, .inl rfl, rfl⟩

/-- One turn of the loop. -/
theorem call_poll_health_succ {timeout poll_interval : PyFloat} {turns : ℕ} {elapsed : PyFloat} :
    (poll_health env node timeout poll_interval (turns + 1) elapsed).call w =
      if PyFloat.lt elapsed timeout then
        if is_healthy env node.node_id w.scene.others then
          (.ok true, { w with history := w.history ++ [.healthy node w.scene.others] })
        else
          match w.scene.next env.system with
          | some (_, scene) =>
            (poll_health env node timeout poll_interval turns (PyFloat.add elapsed poll_interval)).call { w with scene }
          | none => (.error .pending, w)
      else (.ok false, w) := by
  rw [poll_health]
  split
  · rw [Raising.call_bind, Raising.call_get]
    dsimp only
    split
    · rfl
    · rw [Raising.call_bind, call_sleep]
      cases w.scene.next env.system <;> rfl
  · rfl

/-- The number of turns that the loop is given does not matter once there are enough of them. -/
theorem call_poll_health_turns {timeout poll_interval : PyFloat} {turns : ℕ} {elapsed : PyFloat}
    (h : w.scene.future.length < turns) :
    (poll_health env node timeout poll_interval turns elapsed).call w =
      (poll_health env node timeout poll_interval (w.scene.future.length + 1) elapsed).call w := by
  induction turns generalizing w elapsed with
  | zero => exact absurd h (Nat.not_lt_zero _)
  | succ turns ih =>
    rw [call_poll_health_succ, call_poll_health_succ]
    cases hnext : w.scene.next env.system with
    | none => rfl
    | some reply =>
      obtain ⟨_, scene⟩ := reply
      have hlength := Scene.length_next hnext
      have hrest := @ih { w with scene } (PyFloat.add elapsed poll_interval)
        (show scene.future.length < turns by omega)
      dsimp only at hrest ⊢
      rw [hrest, ← hlength]

/-- A health wait sees the node ALIVE at its end, or leaves no trace. -/
theorem call_poll_health_cases {timeout poll_interval : PyFloat} {turns : ℕ} {elapsed : PyFloat} {r : Except Stop Bool}
    (h : (poll_health env node timeout poll_interval turns elapsed).call w = (r, w')) :
    ∃ scene, env.system.StepsWhere (fun _ _ => True) w.scene.others scene.others ∧
      ((r = .ok true ∧ is_healthy env node.node_id scene.others = true ∧
          w' = { w with scene, history := w.history ++ [.healthy node scene.others] }) ∨
        ((r = .ok false ∨ r = .error .pending) ∧ w' = { w with scene })) := by
  induction turns generalizing w elapsed with
  | zero =>
    cases h
    exact ⟨_, .refl, .inr ⟨.inr rfl, rfl⟩⟩
  | succ turns ih =>
    rw [call_poll_health_succ] at h
    split at h
    · split at h
      · rename_i hhealthy
        cases h
        exact ⟨_, .refl, .inl ⟨rfl, hhealthy, rfl⟩⟩
      · cases hnext : w.scene.next env.system with
        | none =>
          rw [hnext] at h
          cases h
          exact ⟨_, .refl, .inr ⟨.inr rfl, rfl⟩⟩
        | some reply =>
          obtain ⟨outcome, scene⟩ := reply
          rw [hnext] at h
          obtain ⟨scene', hsteps, hend⟩ := ih h
          exact ⟨scene', (Scene.next_steps hnext).trans hsteps, hend⟩
    · cases h
      exact ⟨_, .refl, .inr ⟨.inl rfl, rfl⟩⟩

theorem call_wait_for_health_cases {timeout poll_interval : PyFloat} {r : Except Stop Bool}
    (h : (wait_for_health env node timeout poll_interval).call w = (r, w')) :
    ∃ scene, env.system.StepsWhere (fun _ _ => True) w.scene.others scene.others ∧
      ((r = .ok true ∧ is_healthy env node.node_id scene.others = true ∧
          w' = { w with scene, history := w.history ++ [.healthy node scene.others] }) ∨
        ((r = .ok false ∨ r = .error .pending) ∧ w' = { w with scene })) := by
  apply call_poll_health_cases
  rw [← h, wait_for_health, Raising.call_bind, Raising.call_get]

theorem call_record_ota_event (firmware_version event : String) (node_ids : List String) :
    (record_ota_event env firmware_version event node_ids).call w =
      match w.scene.next env.system with
      | some (outcome, scene) =>
        (outcome.result, { w with
          scene, events := if outcome.executed then w.events ++ [.mk firmware_version event node_ids] else w.events })
      | none => (.error .pending, w) := by
  rw [record_ota_event, call_command]
  cases w.scene.next env.system with
  | none => rfl
  | some reply =>
    obtain ⟨outcome, scene⟩ := reply
    cases outcome <;> simp [Outcome.executed]

theorem call_record_ota_event_cases {firmware_version event : String} {node_ids : List String} {r : Except Stop Unit}
    (h : (record_ota_event env firmware_version event node_ids).call w = (r, w')) :
    ∃ scene events, env.system.StepsWhere (fun _ _ => True) w.scene.others scene.others ∧
      w' = { w with scene, events } := by
  rw [call_record_ota_event] at h
  split at h
  · rename_i outcome scene hnext
    cases h
    exact ⟨scene, _, Scene.next_steps hnext, rfl⟩
  · cases h
    exact ⟨_, _, .refl, rfl⟩

/-- Keys with a common prefix and a common suffix. -/
theorem append_append_inj {before after a b : String} : before ++ a ++ after = before ++ b ++ after ↔ a = b := by
  rw [String.append_left_inj, String.append_right_inj]

theorem target_version_key_inj {id id' : String} : target_version_key id = target_version_key id' ↔ id = id' :=
  append_append_inj

theorem target_version_set {redis : Dict String String} {node_id id firmware_version : String} :
    (redis.set (target_version_key node_id) firmware_version).get? (target_version_key id) =
      if id = node_id then some firmware_version else redis.get? (target_version_key id) := by
  simp only [Dict.get?_set, target_version_key_inj]

theorem target_version_erase {redis : Dict String String} {node_id id : String} :
    (redis.erase (target_version_key node_id)).get? (target_version_key id) =
      if id = node_id then none else redis.get? (target_version_key id) := by
  simp only [Dict.get?_erase, target_version_key_inj]

variable [DecidableEq Ref]

/-- The world in which `_update_node` has changed the metadata and not yet sent its command. -/
def begun (node : Node Ref) (firmware_version : String) (w : World κ α Ref) : World κ α Ref :=
  write_metadata node (fun metadata => metadata.set "pending_firmware" firmware_version)
    { w with history := w.history ++
      [.attempted node (w.metadata node.ref) (w.target_version node.node_id) w.scene.others] }

/-- The world in which `_rollback_node` has changed the metadata and not yet sent its command. -/
def rolling_back (node : Node Ref) (w : World κ α Ref) : World κ α Ref :=
  write_metadata node (fun metadata => metadata.erase "pending_firmware")
    { w with history := w.history ++ [.rolling_back node] }

theorem metadata_begun {firmware_version : String} (ref : Ref) :
    (begun node firmware_version w).metadata ref =
      if ref = node.ref then (w.metadata ref).set "pending_firmware" firmware_version else w.metadata ref := rfl

theorem metadata_rolling_back (ref : Ref) :
    (rolling_back node w).metadata ref =
      if ref = node.ref then (w.metadata ref).erase "pending_firmware" else w.metadata ref := rfl

theorem call_update_node (firmware_version : String) :
    (update_node env node firmware_version).call w =
      match w.scene.next env.system with
      | some (outcome, scene) =>
        (outcome.result, { begun node firmware_version w with
          scene
          redis := if outcome.executed then w.redis.set (target_version_key node.node_id) firmware_version else w.redis
          history := (begun node firmware_version w).history ++ [.written node outcome] })
      | none => (.error .pending, begun node firmware_version w) := by
  have hcommand : (update_node env node firmware_version).call w = (command env
      (fun w => { w with redis := w.redis.set (target_version_key node.node_id) firmware_version })
      fun outcome => [.written node outcome]).call (begun node firmware_version w) := rfl
  rw [hcommand, call_command]
  cases hnext : w.scene.next env.system with
  | none =>
    rw [show (begun node firmware_version w).scene = w.scene from rfl, hnext]
  | some reply =>
    rw [show (begun node firmware_version w).scene = w.scene from rfl, hnext]
    obtain ⟨outcome, scene⟩ := reply
    cases outcome <;> rfl

theorem call_rollback_node :
    (rollback_node env node).call w =
      match w.scene.next env.system with
      | some (outcome, scene) =>
        (outcome.result, { rolling_back node w with
          scene
          redis := if outcome.executed then w.redis.erase (target_version_key node.node_id) else w.redis
          history := (rolling_back node w).history ++ [.deleted node outcome] })
      | none => (.error .pending, rolling_back node w) := by
  have hcommand : (rollback_node env node).call w = (command env
      (fun w => { w with redis := w.redis.erase (target_version_key node.node_id) })
      fun outcome => [.deleted node outcome]).call (rolling_back node w) := rfl
  rw [hcommand, call_command]
  cases hnext : w.scene.next env.system with
  | none =>
    rw [show (rolling_back node w).scene = w.scene from rfl, hnext]
  | some reply =>
    rw [show (rolling_back node w).scene = w.scene from rfl, hnext]
    obtain ⟨outcome, scene⟩ := reply
    cases outcome <;> rfl

theorem call_update_node_cases {firmware_version : String} {r : Except Stop Unit}
    (h : (update_node env node firmware_version).call w = (r, w')) :
    (r = .error .pending ∧ w' = begun node firmware_version w) ∨
      ∃ outcome scene, env.system.StepsWhere (fun _ _ => True) w.scene.others scene.others ∧ r = outcome.result ∧
        w' = { begun node firmware_version w with
          scene
          redis := if outcome.executed then w.redis.set (target_version_key node.node_id) firmware_version else w.redis
          history := (begun node firmware_version w).history ++ [.written node outcome] } := by
  rw [call_update_node] at h
  split at h
  · rename_i outcome scene hnext
    cases h
    exact .inr ⟨outcome, scene, Scene.next_steps hnext, rfl, rfl⟩
  · cases h
    exact .inl ⟨rfl, rfl⟩

theorem call_rollback_node_cases {r : Except Stop Unit} (h : (rollback_node env node).call w = (r, w')) :
    (r = .error .pending ∧ w' = rolling_back node w) ∨
      ∃ outcome scene, env.system.StepsWhere (fun _ _ => True) w.scene.others scene.others ∧ r = outcome.result ∧
        w' = { rolling_back node w with
          scene
          redis := if outcome.executed then w.redis.erase (target_version_key node.node_id) else w.redis
          history := (rolling_back node w).history ++ [.deleted node outcome] } := by
  rw [call_rollback_node] at h
  split at h
  · rename_i outcome scene hnext
    cases h
    exact .inr ⟨outcome, scene, Scene.next_steps hnext, rfl, rfl⟩
  · cases h
    exact .inl ⟨rfl, rfl⟩

/-- What the parts of a rollout do to the world, between two awaits, keeps a relation. -/
structure EffectsKeep (env : Environment κ α Ref) (firmware_version : String) (targets : List (Node Ref))
    (R : World κ α Ref → World κ α Ref → Prop) : Prop where
  await : ∀ (w : World κ α Ref) scene events, env.system.StepsWhere (fun _ _ => True) w.scene.others scene.others →
    R w { w with scene, events }
  begun : ∀ node ∈ targets, ∀ w, R w (begun node firmware_version w)
  written : ∀ node ∈ targets, ∀ (w : World κ α Ref) outcome, R w { w with
    redis := if outcome.executed then w.redis.set (target_version_key node.node_id) firmware_version else w.redis
    history := w.history ++ [.written node outcome] }
  healthy : ∀ node ∈ targets, ∀ w : World κ α Ref, is_healthy env node.node_id w.scene.others = true →
    R w { w with history := w.history ++ [.healthy node w.scene.others] }
  watched : ∀ w : World κ α Ref, R w { w with history := w.history ++ [.watched] }
  rolling_back : ∀ node ∈ targets, ∀ w, R w (rolling_back node w)
  deleted : ∀ node ∈ targets, ∀ (w : World κ α Ref) outcome, R w { w with
    redis := if outcome.executed then w.redis.erase (target_version_key node.node_id) else w.redis
    history := w.history ++ [.deleted node outcome] }

/-- The parts of a rollout of the firmware to the targets keep a relation. -/
structure PartsKeep (env : Environment κ α Ref) (firmware_version : String) (targets : List (Node Ref))
    (R : World κ α Ref → World κ α Ref → Prop) : Prop where
  update : ∀ node ∈ targets, (update_node env node firmware_version).Within R
  wait : ∀ node ∈ targets, ∀ timeout poll_interval, (wait_for_health env node timeout poll_interval).Within R
  rollback : ∀ node ∈ targets, (rollback_node env node).Within R
  record : ∀ event node_ids, (record_ota_event env firmware_version event node_ids).Within R
  sleep : ∀ seconds, (sleep env seconds).Within R
  watched : (note [.watched] : Rollout κ α Ref Unit).Within R

section PartsKeep

variable {firmware_version : String} {targets : List (Node Ref)} {R : World κ α Ref → World κ α Ref → Prop}
  [Std.Refl R] [IsTrans (World κ α Ref) R]

omit [Std.Refl R] in
theorem EffectsKeep.parts (h : EffectsKeep env firmware_version targets R) :
    PartsKeep env firmware_version targets R where
  update node hnode w := by
    rcases hcall : (update_node env node firmware_version).call w with ⟨r, w'⟩
    have hbegun := h.begun node hnode w
    obtain ⟨_, rfl⟩ | ⟨outcome, scene, hsteps, _, rfl⟩ := call_update_node_cases hcall
    · exact hbegun
    · have hawaited := h.await (ota_coordinator.begun node firmware_version w) scene w.events hsteps
      have hwritten := h.written node hnode { ota_coordinator.begun node firmware_version w with scene } outcome
      exact IsTrans.trans _ _ _ hbegun (IsTrans.trans _ _ _ hawaited hwritten)
  rollback node hnode w := by
    rcases hcall : (rollback_node env node).call w with ⟨r, w'⟩
    have hrolling := h.rolling_back node hnode w
    obtain ⟨_, rfl⟩ | ⟨outcome, scene, hsteps, _, rfl⟩ := call_rollback_node_cases hcall
    · exact hrolling
    · have hawaited := h.await (ota_coordinator.rolling_back node w) scene w.events hsteps
      have hdeleted := h.deleted node hnode { ota_coordinator.rolling_back node w with scene } outcome
      exact IsTrans.trans _ _ _ hrolling (IsTrans.trans _ _ _ hawaited hdeleted)
  wait node hnode timeout poll_interval w := by
    rcases hcall : (wait_for_health env node timeout poll_interval).call w with ⟨r, w'⟩
    obtain ⟨scene, hsteps, ⟨_, hhealthy, rfl⟩ | ⟨_, rfl⟩⟩ := call_wait_for_health_cases hcall
    · exact IsTrans.trans _ _ _ (h.await w scene w.events hsteps) (h.healthy node hnode { w with scene } hhealthy)
    · exact h.await w scene w.events hsteps
  record event node_ids w := by
    rcases hcall : (record_ota_event env firmware_version event node_ids).call w with ⟨r, w'⟩
    obtain ⟨scene, events, hsteps, rfl⟩ := call_record_ota_event_cases hcall
    exact h.await w scene events hsteps
  sleep seconds w := by
    rcases hcall : (sleep env seconds).call w with ⟨r, w'⟩
    obtain ⟨scene, hsteps, _, rfl⟩ := call_sleep_cases hcall
    exact h.await w scene w.events hsteps
  watched w := h.watched w

theorem PartsKeep.update_and_verify (h : PartsKeep env firmware_version targets R) (timeout : PyFloat)
    (results : Dict String String) (hnode : node ∈ targets) :
    (update_and_verify env firmware_version timeout results node).Within R := by
  refine Raising.Within.tryCatch ?_ fun e => .throw e
  apply Raising.Within.bind (h.update node hnode)
  intro _
  apply Raising.Within.bind (h.wait node hnode _ _)
  intro healthy
  cases healthy with
  | true => exact .pure _
  | false =>
    apply Raising.Within.bind (h.rollback node hnode)
    intro _
    apply Raising.Within.bind (h.record _ _)
    intro _
    exact .throw _

theorem PartsKeep.update_remaining (h : PartsKeep env firmware_version targets R) (timeout : PyFloat)
    (results : Dict String String) (hnode : node ∈ targets) :
    (update_remaining env firmware_version timeout results node).Within R := by
  apply Raising.Within.bind (h.update node hnode)
  intro _
  apply Raising.Within.bind (h.wait node hnode _ _)
  intro healthy
  cases healthy with
  | true => exact .pure _
  | false =>
    apply Raising.Within.bind (h.rollback node hnode)
    intro _
    exact .throw _

/-- What the parts keep, a rolling update keeps. -/
theorem PartsKeep.rolling {nodes : Option (List (Node Ref))}
    (h : PartsKeep env firmware_version (effective_targets env nodes w.scene.others) R) (timeout : PyFloat) :
    R w ((start_rolling_update env firmware_version nodes timeout).call w).2 := by
  rw [start_rolling_update, Raising.call_bind, Raising.call_get]
  dsimp only
  refine Raising.Within.bind (R := R) (h.record _ _) (fun _ => ?_) w
  refine Raising.Within.bind (Raising.Within.foldlM ?_ _) fun results => ?_
  · intro results node hnode
    exact h.update_and_verify timeout results hnode
  · exact Raising.Within.bind (h.record _ _) fun _ => .pure _

/-- What the parts keep, a canary update keeps. -/
theorem PartsKeep.canary (h : PartsKeep env firmware_version (get_alive_peers env w.scene.others) R)
    (watch timeout : PyFloat) : R w ((start_canary_update env firmware_version watch timeout).call w).2 := by
  rw [start_canary_update, Raising.call_bind, Raising.call_get]
  dsimp only
  cases hpeers : get_alive_peers env w.scene.others with
  | nil => exact Std.Refl.refl w
  | cons canary remaining =>
    rw [hpeers] at h
    have hcanary : canary ∈ canary :: remaining := List.mem_cons_self
    refine Raising.Within.bind (R := R) (h.record _ _) (fun _ => ?_) w
    apply Raising.Within.bind (h.update canary hcanary)
    intro _
    apply Raising.Within.bind (h.wait canary hcanary _ _)
    intro healthy
    cases healthy with
    | false => exact Raising.Within.bind (h.rollback canary hcanary) fun _ => .throw _
    | true =>
      apply Raising.Within.bind (h.sleep watch)
      intro _
      apply Raising.Within.bind h.watched
      intro _
      apply Raising.Within.bind (h.wait canary hcanary _ _)
      intro healthy
      cases healthy with
      | false => exact Raising.Within.bind (h.rollback canary hcanary) fun _ => .throw _
      | true =>
        refine Raising.Within.bind (Raising.Within.foldlM ?_ _) fun results => ?_
        · intro results node hnode
          exact h.update_remaining timeout results (List.mem_cons_of_mem _ hnode)
        · exact Raising.Within.bind (h.record _ _) fun _ => .pure _

end PartsKeep

end gateway.ota_coordinator
