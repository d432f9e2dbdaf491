import EdgeGateway.Coordination.OtaCoordinator.Effects

namespace gateway.ota_coordinator

variable {κ α β Ref : Type} {P : β → World κ α Ref → Prop} {E : World κ α Ref → Prop}

/-- A call that returns ends as `P` says, and one that raises as `E` says. -/
def Outcomes (P : β → World κ α Ref → Prop) (E : World κ α Ref → Prop) : Except Stop β → World κ α Ref → Prop
  | .ok b, w => P b w
  | .error (.raised _), w => E w
  | .error .pending, _ => True

theorem Outcomes.bind {γ : Type} {Q : γ → World κ α Ref → Prop} {E' : World κ α Ref → Prop} {x : Rollout κ α Ref β}
    {f : β → Rollout κ α Ref γ} {w : World κ α Ref} (hx : x.Ensures w (Outcomes P E))
    (hok : ∀ b mid, P b mid → (f b).Ensures mid (Outcomes Q E')) (hraised : ∀ w', E w' → E' w') :
    (x >>= f).Ensures w (Outcomes Q E') := by
  apply hx.bind
  · exact hok
  · intro stop w' hstop
    cases stop with
    | raised e => exact hraised w' hstop
    | pending => trivial

def Happening.is_attempt : Happening κ Ref → Bool
  | .attempted _ _ _ _ => true
  | _ => false

def Happening.is_passed : Happening κ Ref → Bool
  | .healthy _ _ => true
  | _ => false

/-- The node was attempted in the world `before`, and no other since; `rest` has happened since. -/
structure Since (node : Node Ref) (before w : World κ α Ref) (rest : List (Happening κ Ref)) : Prop where
  history : w.history = before.history ++
    .attempted node (before.metadata node.ref) (before.target_version node.node_id) before.scene.others :: rest
  alone : ∀ happening ∈ rest, happening.is_attempt = false

/-- What a node has when its update has ended on the given command, `metadata` and
`target_version` being what it had before. -/
def LeftBy (firmware_version : String) (node : Node Ref) (metadata : Dict String String)
    (target_version : Option String) (w : World κ α Ref) : Happening κ Ref → Prop
  | .written _ outcome =>
    w.metadata node.ref = metadata.set "pending_firmware" firmware_version ∧
      w.target_version node.node_id = if outcome.executed then some firmware_version else target_version
  | .deleted _ outcome =>
    w.metadata node.ref = metadata.erase "pending_firmware" ∧
      w.target_version node.node_id = if outcome.executed then none else some firmware_version
  | _ => False

/-- The update of the node has been sent and not been taken back. -/
structure Issued (firmware_version : String) (node : Node Ref) (before w : World κ α Ref) : Prop where
  metadata : w.metadata node.ref = (before.metadata node.ref).set "pending_firmware" firmware_version
  target_version : w.target_version node.node_id = some firmware_version
  since : ∃ rest, Since node before w rest

/-- The update of the node has ended on a command. -/
def Ended (firmware_version : String) (node : Node Ref) (before w : World κ α Ref) : Prop :=
  ∃ rest last, Since node before w (rest ++ [last]) ∧
    LeftBy firmware_version node (before.metadata node.ref) (before.target_version node.node_id) w last

/-- Nobody has been attempted, or the last one has just passed. -/
def Settled (w : World κ α Ref) : Prop := ∀ last ∈ w.history.getLast?, last.is_passed = true

/-- Where a rollout may raise. -/
def Failed (firmware_version : String) (w : World κ α Ref) : Prop :=
  Settled w ∨ ∃ node before, Ended firmware_version node before w

variable {firmware_version : String} {node : Node Ref} {before w w' : World κ α Ref} {rest : List (Happening κ Ref)}

theorem Since.concat (h : Since node before w rest) {happening : Happening κ Ref}
    (hhistory : w'.history = w.history ++ [happening]) (hattempt : happening.is_attempt = false) :
    Since node before w' (rest ++ [happening]) where
  history := by
    rw [hhistory, h.history, List.append_assoc, List.cons_append]
  alone happening' hmem := by
    obtain hmem | hmem := List.mem_append.mp hmem
    · exact h.alone happening' hmem
    · rw [List.mem_singleton.mp hmem]
      exact hattempt

/-- Waiting changes nothing of an update that has been sent. -/
theorem Issued.of_eq (h : Issued firmware_version node before w) (hmetadata : w'.metadata = w.metadata)
    (hredis : w'.redis = w.redis) (hhistory : w'.history = w.history) : Issued firmware_version node before w' where
  metadata := by rw [hmetadata, h.metadata]
  target_version := by rw [World.target_version, hredis]; exact h.target_version
  since := by
    obtain ⟨rest, hsince⟩ := h.since
    exact ⟨rest, hhistory.trans hsince.history, hsince.alone⟩

theorem Issued.note (h : Issued firmware_version node before w) {happening : Happening κ Ref}
    (hattempt : happening.is_attempt = false) :
    Issued firmware_version node before { w with history := w.history ++ [happening] } where
  metadata := h.metadata
  target_version := h.target_version
  since := by
    obtain ⟨rest, hsince⟩ := h.since
    exact ⟨rest ++ [happening], hsince.concat rfl hattempt⟩

theorem settled_concat {history : List (Happening κ Ref)} {node' : Node Ref} {others : κ}
    (h : w.history = history ++ [.healthy node' others]) : Settled w := by
  intro last hlast
  rw [h, List.getLast?_concat] at hlast
  cases hlast
  rfl

variable {env : Environment κ α Ref}

/-- The event list plays no part in how an update ends. -/
theorem Ended.record (h : Ended firmware_version node before w) (scene : Scene κ α Outcome) (events : List OtaEvent) :
    Ended firmware_version node before { w with scene, events } := by
  obtain ⟨rest, last, hsince, hleft⟩ := h
  refine ⟨rest, last, ⟨hsince.history, hsince.alone⟩, ?_⟩
  cases last with
  | written node' outcome => exact hleft
  | deleted node' outcome => exact hleft
  | attempted _ _ _ _ => exact hleft
  | healthy _ _ => exact hleft
  | watched => exact hleft
  | rolling_back _ => exact hleft

theorem record_ota_event_ensures {F : World κ α Ref → Prop}
    (hF : ∀ w scene events, F w → F { w with scene, events }) (hw : F w) (event : String) (node_ids : List String) :
    (record_ota_event env firmware_version event node_ids).Ensures w (Outcomes (fun _ => F) F) := by
  rcases hcall : (record_ota_event env firmware_version event node_ids).call w with ⟨r, w'⟩
  obtain ⟨scene, events, _, rfl⟩ := call_record_ota_event_cases hcall
  have hF' := hF w scene events hw
  rw [Raising.Ensures, hcall]
  rcases r with (e | _) | _
  · exact hF'
  · trivial
  · exact hF'

/-- A health wait leaves an update as it is, and ends it if the node passes. -/
theorem wait_for_health_ensures (h : Issued firmware_version node before w) (timeout poll_interval : PyFloat) :
    (wait_for_health env node timeout poll_interval).Ensures w
      (Outcomes (fun healthy w' => Issued firmware_version node before w' ∧ (healthy = true → Settled w'))
        fun _ => False) := by
  rcases hcall : (wait_for_health env node timeout poll_interval).call w with ⟨r, w'⟩
  rw [Raising.Ensures, hcall]
  obtain ⟨scene, _, ⟨rfl, _, rfl⟩ | ⟨rfl | rfl, rfl⟩⟩ := call_wait_for_health_cases hcall
  · have hwaited : Issued firmware_version node before { w with scene } := h.of_eq rfl rfl rfl
    exact ⟨hwaited.note rfl, fun _ => settled_concat rfl⟩
  · exact ⟨h.of_eq rfl rfl rfl, nofun⟩
  · trivial

theorem sleep_ensures (h : Issued firmware_version node before w) (seconds : PyFloat) :
    (sleep env seconds).Ensures w (Outcomes (fun _ => Issued firmware_version node before) fun _ => False) := by
  rcases hcall : (sleep env seconds).call w with ⟨r, w'⟩
  rw [Raising.Ensures, hcall]
  obtain ⟨scene, _, rfl | rfl, rfl⟩ := call_sleep_cases hcall
  · exact h.of_eq rfl rfl rfl
  · trivial

variable {Q : β → World κ α Ref → Prop}

/-- What comes after a health wait finds the node passed, or has to take the update back. -/
theorem health_gate_ensures (h : Issued firmware_version node before w) {timeout poll_interval : PyFloat}
    {f : Bool → Rollout κ α Ref β}
    (hpassed : ∀ mid, Issued firmware_version node before mid → Settled mid →
      (f true).Ensures mid (Outcomes Q (Failed firmware_version)))
    (hfailed : ∀ mid, Issued firmware_version node before mid →
      (f false).Ensures mid (Outcomes Q (Failed firmware_version))) :
    (wait_for_health env node timeout poll_interval >>= f).Ensures w (Outcomes Q (Failed firmware_version)) := by
  apply Outcomes.bind (wait_for_health_ensures h timeout poll_interval)
  · rintro healthy mid ⟨hissued, hsettled⟩
    cases healthy with
    | true => exact hpassed mid hissued (hsettled rfl)
    | false => exact hfailed mid hissued
  · exact fun _ => False.elim

theorem throw_fails {e : Exc} (h : Ended firmware_version node before w) :
    (throw (.raised e) : Rollout κ α Ref β).Ensures w (Outcomes Q (Failed firmware_version)) :=
  .inr ⟨node, before, h⟩

/-- A loop that leaves the last node passed, and the event after it. -/
theorem loop_ensures {step : Dict String String → Node Ref → Rollout κ α Ref (Dict String String)}
    (hstep : ∀ results node w, (step results node).Ensures w (Outcomes (fun _ => Settled) (Failed firmware_version)))
    (hw : Settled w) (nodes : List (Node Ref)) (results : Dict String String) (event : String) :
    (do
      let results ← nodes.foldlM step results
      record_ota_event env firmware_version event []
      return results).Ensures w (Outcomes (fun _ => Settled) (Failed firmware_version)) := by
  have hloop : (nodes.foldlM step results).Ensures w (Outcomes (fun _ => Settled) (Failed firmware_version)) :=
    Raising.Ensures.foldlM (fun results node w _ => hstep results node w) hw
  apply Outcomes.bind hloop
  · intro results' mid hsettled
    apply Outcomes.bind (record_ota_event_ensures (F := Settled) (fun _ _ _ h => h) hsettled event [])
    · exact fun _ _ h => h
    · exact fun _ h => .inl h
  · exact fun _ h => h

variable [DecidableEq Ref]

theorem update_node_ensures (env : Environment κ α Ref) (node : Node Ref) (firmware_version : String)
    (w : World κ α Ref) :
    (update_node env node firmware_version).Ensures w
      (Outcomes (fun _ => Issued firmware_version node w) (Ended firmware_version node w)) := by
  have hmetadata : (begun node firmware_version w).metadata node.ref =
      (w.metadata node.ref).set "pending_firmware" firmware_version := (metadata_begun node.ref).trans (if_pos rfl)
  have hbegun : Since node w (begun node firmware_version w) [] := ⟨rfl, by simp⟩
  rcases hcall : (update_node env node firmware_version).call w with ⟨r, w'⟩
  rw [Raising.Ensures, hcall]
  obtain ⟨rfl, _⟩ | ⟨outcome, scene, _, rfl, hw'⟩ := call_update_node_cases hcall
  · trivial
  · have hsince : Since node w w' [.written node outcome] := hbegun.concat (by rw [hw']) rfl
    have hleft : LeftBy firmware_version node (w.metadata node.ref) (w.target_version node.node_id) w'
        (.written node outcome) := by
      rw [hw']
      refine ⟨hmetadata, ?_⟩
      cases outcome with
      | refused e => rfl
      | done => exact target_version_set.trans (if_pos rfl)
      | lost e => exact target_version_set.trans (if_pos rfl)
    cases outcome with
    | done => exact ⟨hleft.1, hleft.2, _, hsince⟩
    | refused e => exact ⟨[], _, hsince, hleft⟩
    | lost e => exact ⟨[], _, hsince, hleft⟩

theorem rollback_node_ensures (h : Issued firmware_version node before w) :
    (rollback_node env node).Ensures w
      (Outcomes (fun _ => Ended firmware_version node before) (Ended firmware_version node before)) := by
  have hmetadata : (rolling_back node w).metadata node.ref = (before.metadata node.ref).erase "pending_firmware" := by
    rw [metadata_rolling_back, if_pos rfl, h.metadata, Dict.erase_set]
  obtain ⟨rest, hsince⟩ := h.since
  have hrolling : Since node before (rolling_back node w) (rest ++ [.rolling_back node]) := hsince.concat rfl rfl
  rcases hcall : (rollback_node env node).call w with ⟨r, w'⟩
  rw [Raising.Ensures, hcall]
  obtain ⟨rfl, _⟩ | ⟨outcome, scene, _, rfl, hw'⟩ := call_rollback_node_cases hcall
  · trivial
  · have hended : Ended firmware_version node before w' := by
      refine ⟨rest ++ [.rolling_back node], .deleted node outcome, hrolling.concat (by rw [hw']) rfl, ?_⟩
      rw [hw']
      refine ⟨hmetadata, ?_⟩
      cases outcome with
      | refused e => exact h.target_version
      | done => exact target_version_erase.trans (if_pos rfl)
      | lost e => exact target_version_erase.trans (if_pos rfl)
    cases outcome with
    | done => exact hended
    | refused e => exact hended
    | lost e => exact hended

/-- A rollback after which the rollout raises. -/
theorem rollback_node_fails (h : Issued firmware_version node before w) {f : Unit → Rollout κ α Ref β}
    (hf : ∀ mid, Ended firmware_version node before mid → (f ()).Ensures mid (Outcomes Q (Failed firmware_version))) :
    (rollback_node env node >>= f).Ensures w (Outcomes Q (Failed firmware_version)) := by
  apply Outcomes.bind (rollback_node_ensures h)
  · exact fun _ mid hended => hf mid hended
  · exact fun _ hended => .inr ⟨node, before, hended⟩

/-- An update of a node and the health wait behind it. -/
theorem updated_node_ensures (node : Node Ref) (w : World κ α Ref) {timeout poll_interval : PyFloat}
    {f : Bool → Rollout κ α Ref β} (hpassed : ∀ mid, Settled mid → (f true).Ensures mid (Outcomes Q (Failed firmware_version)))
    (hfailed : ∀ mid, Issued firmware_version node w mid →
      (f false).Ensures mid (Outcomes Q (Failed firmware_version))) :
    (update_node env node firmware_version >>= fun _ => wait_for_health env node timeout poll_interval >>= f).Ensures w
      (Outcomes Q (Failed firmware_version)) := by
  apply Outcomes.bind (update_node_ensures env node firmware_version w)
  · intro _ mid hissued
    exact health_gate_ensures hissued (fun mid' _ hsettled => hpassed mid' hsettled) hfailed
  · exact fun _ hended => .inr ⟨node, w, hended⟩

theorem update_and_verify_ensures (timeout : PyFloat) (results : Dict String String) (node : Node Ref)
    (w : World κ α Ref) :
    (update_and_verify env firmware_version timeout results node).Ensures w
      (Outcomes (fun _ => Settled) (Failed firmware_version)) := by
  rw [update_and_verify, Raising.Ensures, Raising.call_tryCatch_throw]
  apply updated_node_ensures
  · exact fun _ hsettled => hsettled
  · intro mid hissued
    apply rollback_node_fails hissued
    intro mid' hended
    apply Outcomes.bind (record_ota_event_ensures (F := Ended firmware_version node w) (fun _ scene events h => h.record scene events) hended _ _)
    · exact fun _ _ hended' => throw_fails hended'
    · exact fun _ hended' => .inr ⟨node, w, hended'⟩

theorem update_remaining_ensures (timeout : PyFloat) (results : Dict String String) (node : Node Ref)
    (w : World κ α Ref) :
    (update_remaining env firmware_version timeout results node).Ensures w
      (Outcomes (fun _ => Settled) (Failed firmware_version)) := by
  apply updated_node_ensures
  · exact fun _ hsettled => hsettled
  · intro mid hissued
    apply rollback_node_fails hissued
    exact fun _ hended => throw_fails hended

theorem start_rolling_update_ensures (env : Environment κ α Ref) (firmware_version : String)
    (nodes : Option (List (Node Ref))) (timeout : PyFloat) (hw : Settled w) :
    (start_rolling_update env firmware_version nodes timeout).Ensures w
      (Outcomes (fun _ => Settled) (Failed firmware_version)) := by
  rw [start_rolling_update, Raising.Ensures, Raising.call_bind, Raising.call_get]
  dsimp only
  refine Outcomes.bind (record_ota_event_ensures (F := Settled) (fun _ _ _ h => h) hw _ _) (fun _ mid hmid => ?_)
    fun _ h => .inl h
  exact loop_ensures (update_and_verify_ensures timeout) hmid _ _ _

theorem start_canary_update_ensures (env : Environment κ α Ref) (firmware_version : String)
    (watch timeout : PyFloat) (hw : Settled w) :
    (start_canary_update env firmware_version watch timeout).Ensures w
      (Outcomes (fun _ => Settled) (Failed firmware_version)) := by
  rw [start_canary_update, Raising.Ensures, Raising.call_bind, Raising.call_get]
  dsimp only
  cases get_alive_peers env w.scene.others with
  | nil => exact hw
  | cons canary remaining =>
    refine Outcomes.bind (record_ota_event_ensures (F := Settled) (fun _ _ _ h => h) hw _ _) (fun _ begun hbegun => ?_)
      fun _ h => .inl h
    refine Outcomes.bind (update_node_ensures env canary firmware_version begun) (fun _ mid hissued => ?_)
      fun _ hended => .inr ⟨canary, begun, hended⟩
    apply health_gate_ensures hissued
    · intro mid hissued _
      apply Outcomes.bind (sleep_ensures hissued watch)
      · intro _ mid hissued
        have hwatched : (note [.watched] : Rollout κ α Ref Unit).Ensures mid
            (Outcomes (fun _ => Issued firmware_version canary begun) fun _ => False) := hissued.note rfl
        apply Outcomes.bind hwatched
        · intro _ mid hissued
          apply health_gate_ensures hissued
          · exact fun mid _ hsettled => loop_ensures (update_remaining_ensures timeout) hsettled _ _ _
          · exact fun mid hissued => rollback_node_fails hissued fun _ hended => throw_fails hended
        · exact fun _ => False.elim
      · exact fun _ => False.elim
    · exact fun mid hissued => rollback_node_fails hissued fun _ hended => throw_fails hended

/-- The last attempt of a history that has not come to a passed health wait: the node, what it
had before, and what has happened last. -/
def FailingStep (node : Node Ref) (metadata : Dict String String) (target_version : Option String)
    (last : Happening κ Ref) (history : List (Happening κ Ref)) : Prop :=
  ∃ past others rest, history = past ++ .attempted node metadata target_version others :: (rest ++ [last]) ∧
    (∀ happening ∈ rest ++ [last], happening.is_attempt = false) ∧ last.is_passed = false

/-- The node has the metadata and the target version. -/
def Restored (node : Node Ref) (metadata : Dict String String) (target_version : Option String)
    (w : World κ α Ref) : Prop :=
  w.metadata node.ref = metadata ∧ w.target_version node.node_id = target_version

/-- Where the write has failed, the firmware was pending already, and in Redis too if the write
has come through; where the node was rolled back, nothing was pending before, and there was the
target version that the deletion leaves. -/
def Restorable (firmware_version : String) (metadata : Dict String String) (target_version : Option String) :
    Happening κ Ref → Prop
  | .written _ outcome =>
    metadata.get? "pending_firmware" = some firmware_version ∧
      (outcome.executed = true → target_version = some firmware_version)
  | .deleted _ outcome =>
    metadata.get? "pending_firmware" = none ∧
      target_version = if outcome.executed then none else some firmware_version
  | _ => False

omit [DecidableEq Ref] in
theorem LeftBy.restored_iff {metadata : Dict String String} {target_version : Option String} {last : Happening κ Ref}
    (h : LeftBy firmware_version node metadata target_version w last) :
    Restored node metadata target_version w ↔ Restorable firmware_version metadata target_version last := by
  unfold Restored
  cases last with
  | written node' outcome =>
    rw [h.1, h.2, Dict.set_eq_self_iff, Restorable]
    cases hexecuted : outcome.executed
    · simp
    · simp [eq_comm]
  | deleted node' outcome =>
    rw [h.1, h.2, Dict.erase_eq_self_iff, Restorable]
    exact and_congr_right fun _ => eq_comm
  | attempted _ _ _ _ => exact h.elim
  | healthy _ _ => exact h.elim
  | watched => exact h.elim
  | rolling_back _ => exact h.elim

/-- There is one place where the last of a kind comes. -/
theorem append_cons_inj_of_last {η : Type} {kind : η → Bool} {l l' r r' : List η} {x x' : η}
    (h : l ++ x :: r = l' ++ x' :: r') (hx : kind x = true) (hx' : kind x' = true)
    (hr : ∀ y ∈ r, kind y = false) (hr' : ∀ y ∈ r', kind y = false) : x = x' ∧ r = r' := by
  obtain ⟨between, _, hrest⟩ | ⟨between, _, hrest⟩ := List.append_eq_append_iff.mp h
  · cases between with
    | nil => exact List.cons.inj hrest
    | cons first between =>
      have hmem : x' ∈ r := by
        rw [(List.cons.inj hrest).2]
        simp
      rw [hr x' hmem] at hx'
      cases hx'
  · cases between with
    | nil =>
      obtain ⟨hfirst, hlast⟩ := List.cons.inj hrest
      exact ⟨hfirst.symm, hlast.symm⟩
    | cons first between =>
      have hmem : x ∈ r' := by
        rw [(List.cons.inj hrest).2]
        simp
      rw [hr' x hmem] at hx
      cases hx

omit [DecidableEq Ref] in
/-- Where a rollout raises, the failing node is as the command has left it that the step ended on. -/
theorem Failed.restored_iff {metadata : Dict String String} {target_version : Option String}
    {last : Happening κ Ref} (h : Failed firmware_version w)
    (hstep : FailingStep node metadata target_version last w.history) :
    Restored node metadata target_version w ↔ Restorable firmware_version metadata target_version last := by
  obtain ⟨past, others, rest, hhistory, halone, hlast⟩ := hstep
  obtain hsettled | ⟨node', before, rest', last', hsince, hleft⟩ := h
  · have hgetLast : w.history.getLast? = some last := by
      rw [hhistory, ← List.cons_append, ← List.append_assoc, List.getLast?_concat]
    have hpassed := hsettled last hgetLast
    rw [hlast] at hpassed
    cases hpassed
  · obtain ⟨hattempt, htail⟩ :=
      append_cons_inj_of_last (hsince.history.symm.trans hhistory) rfl rfl hsince.alone halone
    obtain ⟨rfl, rfl, rfl, rfl⟩ := Happening.attempted.inj hattempt
    obtain ⟨_, hlast'⟩ := List.append_inj' htail rfl
    obtain rfl := List.singleton_inj.mp hlast'
    exact hleft.restored_iff

/-- A rollout that raises leaves the failing node as it was before the attempt exactly if there was
nothing to roll back but what `_rollback_node` deletes, or nothing to change. -/
theorem failed_step_restores_iff (hfresh : w.history = []) (env : Environment κ α Ref) (firmware_version : String)
    (nodes : Option (List (Node Ref))) (watch timeout : PyFloat) (e : Exc) (node : Node Ref)
    (metadata : Dict String String) (target_version : Option String) (last : Happening κ Ref) (w' : World κ α Ref) :
    ((start_rolling_update env firmware_version nodes timeout).call w = (.error (.raised e), w') →
      FailingStep node metadata target_version last w'.history →
        (Restored node metadata target_version w' ↔ Restorable firmware_version metadata target_version last)) ∧
    ((start_canary_update env firmware_version watch timeout).call w = (.error (.raised e), w') →
      FailingStep node metadata target_version last w'.history →
        (Restored node metadata target_version w' ↔ Restorable firmware_version metadata target_version last)) := by
  have hsettled : Settled w := by
    rw [Settled, hfresh]
    exact nofun
  constructor
  · intro hcall hstep
    have hended := start_rolling_update_ensures env firmware_version nodes timeout hsettled
    rw [Raising.Ensures, hcall] at hended
    exact Failed.restored_iff hended hstep
  · intro hcall hstep
    have hended := start_canary_update_ensures env firmware_version watch timeout hsettled
    rw [Raising.Ensures, hcall] at hended
    exact Failed.restored_iff hended hstep

/-- The local node. -/
def sample_node : Node String := { ref := "edge-1", node_id := "edge-1" }

/-- A rolling update of the local node, which Redis refuses when the metadata has been changed. -/
def sample_failure (metadata : Dict String String) :
    Except Stop (Dict String String) × World Recorded heartbeat.Action String :=
  (start_rolling_update (service_environment heartbeat.sample_service fun _ id => id) "2.0.0" (some [sample_node])).call
    { (sample_world []).facing [⟨[], .done⟩, ⟨[], .refused (.Exception "Connection refused")⟩] with
      metadata := fun _ => metadata }

theorem failingStep_sample_failure (metadata : Dict String String) :
    FailingStep sample_node metadata none (.written sample_node (.refused (.Exception "Connection refused")))
      (sample_failure metadata).2.history :=
  ⟨[], (heartbeat.started, []), [], rfl, by simp [Happening.is_attempt], rfl⟩

/-- The firmware was pending already, from a rollout that Redis refused as well. -/
theorem failed_step_restores_retried_node :
    Restored sample_node (Dict.empty.set "pending_firmware" "2.0.0") none
      (sample_failure (Dict.empty.set "pending_firmware" "2.0.0")).2 := by
  have hcall : sample_failure (Dict.empty.set "pending_firmware" "2.0.0") =
      (.error (.raised (.Exception "Connection refused")),
        (sample_failure (Dict.empty.set "pending_firmware" "2.0.0")).2) := rfl
  have hrestored := (failed_step_restores_iff rfl _ "2.0.0" (some [sample_node]) (.finite 120) (.finite 60) _ sample_node
    (Dict.empty.set "pending_firmware" "2.0.0") none _ _).1 hcall (failingStep_sample_failure _)
  exact hrestored.mpr ⟨Dict.get?_set_self _ _ _, nofun⟩

/-- The node had nothing pending, and the firmware stays pending. -/
theorem failed_step_leaves_pending_firmware :
    sample_failure .empty = (.error (.raised (.Exception "Connection refused")), (sample_failure .empty).2) ∧
      FailingStep sample_node .empty none (.written sample_node (.refused (.Exception "Connection refused")))
        (sample_failure .empty).2.history ∧
      ¬ Restored sample_node .empty none (sample_failure .empty).2 := by
  refine ⟨rfl, failingStep_sample_failure _, ?_⟩
  rintro ⟨hmetadata, _⟩
  have hpending : (Dict.empty.set "pending_firmware" "2.0.0").get? "pending_firmware" = none :=
    congrArg (fun metadata : Dict String String => metadata.get? "pending_firmware") hmetadata
  rw [Dict.get?_set_self] at hpending
  cases hpending

end gateway.ota_coordinator
