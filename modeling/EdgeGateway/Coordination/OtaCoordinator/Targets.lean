import EdgeGateway.Coordination.OtaCoordinator.Effects

namespace gateway.ota_coordinator

variable {κ α Ref : Type} {env : Environment κ α Ref} {w w' : World κ α Ref} {nodes : List (Node Ref)}

/-- Whatever node's metadata or target version is changed, the node is in the list. -/
structure TouchesOnly (nodes : List (Node Ref)) (w w' : World κ α Ref) : Prop where
  metadata : ∀ ref, w'.metadata ref ≠ w.metadata ref → ∃ node ∈ nodes, node.ref = ref
  target_version : ∀ node_id, w'.target_version node_id ≠ w.target_version node_id → ∃ node ∈ nodes, node.node_id = node_id

theorem TouchesOnly.of_eq (hmetadata : w'.metadata = w.metadata) (hredis : w'.redis = w.redis) : TouchesOnly nodes w w' where
  metadata ref hchanged := absurd (congrFun hmetadata ref) hchanged
  target_version node_id hchanged := by
    unfold World.target_version at hchanged
    exact absurd (by rw [hredis]) hchanged

instance : Std.Refl (TouchesOnly (κ := κ) (α := α) nodes) := ⟨fun _ => .of_eq rfl rfl⟩

instance : IsTrans (World κ α Ref) (TouchesOnly nodes) where
  trans w w' w'' h h' := by
    constructor
    · intro ref hchanged
      by_cases hfirst : w'.metadata ref = w.metadata ref
      · exact h'.metadata ref (hfirst ▸ hchanged)
      · exact h.metadata ref hfirst
    · intro node_id hchanged
      by_cases hfirst : w'.target_version node_id = w.target_version node_id
      · exact h'.target_version node_id (hfirst ▸ hchanged)
      · exact h.target_version node_id hfirst

/-- Writing the metadata and the key of one node touches that node. -/
theorem TouchesOnly.of_writes {node : Node Ref} (hnode : node ∈ nodes)
    (hmetadata : ∀ ref, ref ≠ node.ref → w'.metadata ref = w.metadata ref)
    (hversion : ∀ node_id, node_id ≠ node.node_id → w'.target_version node_id = w.target_version node_id) :
    TouchesOnly nodes w w' where
  metadata ref hchanged := ⟨node, hnode, by_contra fun hne => hchanged (hmetadata ref (Ne.symm hne))⟩
  target_version node_id hchanged := ⟨node, hnode, by_contra fun hne => hchanged (hversion node_id (Ne.symm hne))⟩

variable [DecidableEq Ref]

theorem effects_touch_only_targets (env : Environment κ α Ref) (firmware_version : String) (nodes : List (Node Ref)) :
    EffectsKeep env firmware_version nodes (TouchesOnly nodes) where
  await _ _ _ _ := .of_eq rfl rfl
  healthy _ _ _ _ := .of_eq rfl rfl
  watched _ := .of_eq rfl rfl
  begun node hnode w := by
    refine .of_writes hnode (fun ref hne => ?_) fun node_id _ => rfl
    rw [metadata_begun, if_neg hne]
  rolling_back node hnode w := by
    refine .of_writes hnode (fun ref hne => ?_) fun node_id _ => rfl
    rw [metadata_rolling_back, if_neg hne]
  written node hnode w outcome := by
    refine .of_writes hnode (fun ref _ => rfl) fun node_id hne => ?_
    simp only [World.target_version]
    split
    · rw [target_version_set, if_neg hne]
    · rfl
  deleted node hnode w outcome := by
    refine .of_writes hnode (fun ref _ => rfl) fun node_id hne => ?_
    simp only [World.target_version]
    split
    · rw [target_version_erase, if_neg hne]
    · rfl

/-- A firmware version that a node does not have pending. -/
def other_firmware (metadata : Dict String String) : String :=
  if metadata.get? "pending_firmware" = some "1.0.0" then "1.0.1" else "1.0.0"

theorem get?_ne_other_firmware (metadata : Dict String String) :
    metadata.get? "pending_firmware" ≠ some (other_firmware metadata) := by
  unfold other_firmware
  split
  · rename_i heq
    rw [heq]
    decide
  · assumption

/-- Without targets the first peer is updated, and its metadata stays when Redis refuses the command. -/
theorem metadata_rolling_update_nil {peer : Node Ref} {rest : List (Node Ref)} (firmware_version : String)
    (timeout : PyFloat) (e : Exc) (hpeers : get_alive_peers env w.scene.others = peer :: rest) :
    ((start_rolling_update env firmware_version (some []) timeout).call
        (w.facing [⟨[], .done⟩, ⟨[], .refused e⟩])).2.metadata peer.ref =
      (w.metadata peer.ref).set "pending_firmware" firmware_version := by
  have htargets : effective_targets env (some []) (w.facing [⟨[], .done⟩, ⟨[], .refused e⟩]).scene.others = peer :: rest :=
    hpeers
  have hrecorded : ∀ event node_ids, ∃ events, (record_ota_event env firmware_version event node_ids).call
      (w.facing [⟨[], .done⟩, ⟨[], .refused e⟩]) = (.ok (), { w.facing [⟨[], .refused e⟩] with events }) :=
    fun event node_ids => ⟨_, call_record_ota_event firmware_version event node_ids⟩
  rw [start_rolling_update, Raising.call_bind, Raising.call_get]
  dsimp only
  obtain ⟨events, hevents⟩ := hrecorded "rolling_update_started" ((peer :: rest).map Node.node_id)
  obtain ⟨w', hupdate, hmetadata⟩ : ∃ w', (update_node env peer firmware_version).call
      { w.facing [⟨[], .refused e⟩] with events } = (.error (.raised e), w') ∧
        w'.metadata peer.ref = (w.metadata peer.ref).set "pending_firmware" firmware_version :=
    ⟨_, call_update_node firmware_version, (metadata_begun peer.ref).trans (if_pos rfl)⟩
  have hfailed : (update_and_verify env firmware_version timeout .empty peer).call
      { w.facing [⟨[], .refused e⟩] with events } = (.error (.raised e), w') := by
    rw [update_and_verify, Raising.call_tryCatch_throw]
    exact Raising.call_bind_error hupdate
  rw [htargets, Raising.call_bind_ok hevents, List.foldlM_cons, Raising.call_bind_error
    (Raising.call_bind_error hfailed)]
  exact hmetadata

/-- A rolling update touches nothing but what it was given, whatever comes, exactly if it was
given a node or no node is ALIVE. -/
theorem rolling_update_touches_targets_iff (env : Environment κ α Ref) (w : World κ α Ref) (nodes : List (Node Ref)) :
    (∀ firmware_version timeout future,
      TouchesOnly nodes w
        ((start_rolling_update env firmware_version (some nodes) timeout).call (w.facing future)).2) ↔
      nodes ≠ [] ∨ get_alive_peers env w.scene.others = [] := by
  constructor
  · intro htouches
    by_contra hneither
    obtain ⟨hnodes, hpeers⟩ := not_or.mp hneither
    rw [not_not] at hnodes
    subst hnodes
    obtain ⟨peer, rest, hpeers⟩ := List.exists_cons_of_ne_nil hpeers
    have htouched := (htouches (other_firmware (w.metadata peer.ref)) (.finite 60)
      [⟨[], .done⟩, ⟨[], .refused (.Exception "")⟩]).metadata peer.ref
    rw [metadata_rolling_update_nil _ _ _ hpeers] at htouched
    have hchanged : (w.metadata peer.ref).set "pending_firmware" (other_firmware (w.metadata peer.ref)) ≠
        w.metadata peer.ref := by
      intro hsame
      have hpending := congrArg (fun metadata => metadata.get? "pending_firmware") hsame
      rw [Dict.get?_set_self] at hpending
      exact get?_ne_other_firmware (w.metadata peer.ref) hpending.symm
    obtain ⟨node, hnode, _⟩ := htouched hchanged
    cases hnode
  · intro hgiven firmware_version timeout future
    have htargets : effective_targets env (some nodes) (w.facing future).scene.others = nodes := by
      cases nodes with
      | nil => exact hgiven.resolve_left (fun h => h rfl)
      | cons node rest => rfl
    have hparts := (effects_touch_only_targets env firmware_version nodes).parts
    rw [← htargets] at hparts
    have htouches := hparts.rolling timeout
    rw [htargets] at htouches
    exact ⟨htouches.metadata, htouches.target_version⟩

/-- The node is ALIVE, no target is given, and Redis refuses the first update. -/
theorem rolling_update_touches_unlisted :
    ∃ future, ¬ TouchesOnly [] (sample_world [])
      ((start_rolling_update (service_environment heartbeat.sample_service fun _ id => id) "2.0.0" (some [])).call
        ((sample_world []).facing future)).2 := by
  refine ⟨[⟨[], .done⟩, ⟨[], .refused (.Exception "Connection refused")⟩], fun htouches => ?_⟩
  have hpeers : get_alive_peers (service_environment heartbeat.sample_service fun _ id => id)
      (sample_world []).scene.others = [{ ref := "edge-1", node_id := "edge-1" }] := rfl
  have hmetadata := metadata_rolling_update_nil "2.0.0" (.finite 60) (.Exception "Connection refused") hpeers
  obtain ⟨node, hnode, _⟩ := htouches.metadata "edge-1" (by
    rw [hmetadata]
    intro hsame
    have hpending := congrArg (fun metadata => metadata.get? "pending_firmware") hsame
    rw [Dict.get?_set_self] at hpending
    cases hpending)
  cases hnode

end gateway.ota_coordinator
