import EdgeGateway.Coordination.OtaCoordinator.Effects

open gateway.cluster_state gateway.heartbeat

namespace gateway.ota_coordinator

section Chronicle

variable {κ α Ref : Type} {env : Environment κ α Ref} {start others others' : κ} {history : List (Happening κ Ref)}
  {node : Node Ref}

/-- The states in a history were met in its order, from `start` to `others`, and whoever
passed a health wait was ALIVE then. -/
structure Chronicle (env : Environment κ α Ref) (start : κ) (history : List (Happening κ Ref)) (others : κ) : Prop where
  reached : env.system.StepsWhere (fun _ _ => True) start others
  attempted (i : ℕ) (node : Node Ref) (metadata : Dict String String) (target_version : Option String) (o : κ)
    (hi : history[i]? = some (.attempted node metadata target_version o)) :
    env.system.StepsWhere (fun _ _ => True) start o ∧ env.system.StepsWhere (fun _ _ => True) o others
  healthy (j : ℕ) (node : Node Ref) (o : κ) (hj : history[j]? = some (.healthy node o)) :
    is_healthy env node.node_id o = true
  ordered (i j : ℕ) (node : Node Ref) (metadata : Dict String String) (target_version : Option String) (o : κ)
    (node' : Node Ref) (o' : κ) (hlt : i < j)
    (hi : history[i]? = some (.attempted node metadata target_version o))
    (hj : history[j]? = some (.healthy node' o')) : env.system.StepsWhere (fun _ _ => True) o o'

theorem Chronicle.begin (env : Environment κ α Ref) (start : κ) : Chronicle env start [] start where
  reached := .refl
  attempted := by simp
  healthy := by simp
  ordered := by simp

theorem Chronicle.later (h : Chronicle env start history others)
    (hsteps : env.system.StepsWhere (fun _ _ => True) others others') : Chronicle env start history others' where
  reached := h.reached.trans hsteps
  attempted i node metadata target_version o hi :=
    ⟨(h.attempted i node metadata target_version o hi).1, (h.attempted i node metadata target_version o hi).2.trans hsteps⟩
  healthy := h.healthy
  ordered := h.ordered

/-- An entry of a history with one more at its end is an old one or the last one. -/
theorem getElem?_concat_cases {η : Type} {l : List η} {x y : η} {i : ℕ} (h : (l ++ [x])[i]? = some y) :
    (i < l.length ∧ l[i]? = some y) ∨ (i = l.length ∧ x = y) := by
  rw [List.getElem?_append] at h
  split at h
  · exact .inl ⟨‹_›, h⟩
  · refine .inr ?_
    have hlt := (List.getElem?_eq_some_iff.mp h).1
    simp only [List.length_singleton] at hlt
    have hi : i - l.length = 0 := by omega
    rw [hi] at h
    exact ⟨by omega, by simpa using h⟩

/-- What is added to a history when a state is not recorded. -/
theorem Chronicle.note (h : Chronicle env start history others) {x : Happening κ Ref}
    (hattempted : ∀ node metadata target_version o, x ≠ .attempted node metadata target_version o)
    (hhealthy : ∀ node o, x ≠ .healthy node o) : Chronicle env start (history ++ [x]) others where
  reached := h.reached
  attempted i node metadata target_version o hi := by
    obtain ⟨_, hi⟩ | ⟨_, hx⟩ := getElem?_concat_cases hi
    · exact h.attempted i node metadata target_version o hi
    · exact absurd hx (hattempted node metadata target_version o)
  healthy j node o hj := by
    obtain ⟨_, hj⟩ | ⟨_, hx⟩ := getElem?_concat_cases hj
    · exact h.healthy j node o hj
    · exact absurd hx (hhealthy node o)
  ordered i j node metadata target_version o node' o' hlt hi hj := by
    obtain ⟨_, hi⟩ | ⟨_, hx⟩ := getElem?_concat_cases hi
    · obtain ⟨_, hj⟩ | ⟨_, hx⟩ := getElem?_concat_cases hj
      · exact h.ordered i j node metadata target_version o node' o' hlt hi hj
      · exact absurd hx (hhealthy node' o')
    · exact absurd hx (hattempted node metadata target_version o)

theorem Chronicle.note_attempted (h : Chronicle env start history others) (node : Node Ref)
    (metadata : Dict String String) (target_version : Option String) :
    Chronicle env start (history ++ [.attempted node metadata target_version others]) others where
  reached := h.reached
  attempted i node' metadata' target_version' o hi := by
    obtain ⟨_, hi⟩ | ⟨_, ⟨⟩⟩ := getElem?_concat_cases hi
    · exact h.attempted i node' metadata' target_version' o hi
    · exact ⟨h.reached, .refl⟩
  healthy j node' o hj := by
    obtain ⟨_, hj⟩ | ⟨_, ⟨⟩⟩ := getElem?_concat_cases hj
    exact h.healthy j node' o hj
  ordered i j _ metadata' target_version' o node' o' hlt hi hj := by
    obtain ⟨hj', hj⟩ | ⟨_, ⟨⟩⟩ := getElem?_concat_cases hj
    obtain ⟨_, hi⟩ | ⟨rfl, _⟩ := getElem?_concat_cases hi
    · exact h.ordered i j _ metadata' target_version' o node' o' hlt hi hj
    · omega

theorem Chronicle.note_healthy (h : Chronicle env start history others)
    (hhealthy : is_healthy env node.node_id others = true) :
    Chronicle env start (history ++ [.healthy node others]) others where
  reached := h.reached
  attempted i node' metadata target_version o hi := by
    obtain ⟨_, hi⟩ | ⟨_, ⟨⟩⟩ := getElem?_concat_cases hi
    exact h.attempted i node' metadata target_version o hi
  healthy j node' o hj := by
    obtain ⟨_, hj⟩ | ⟨_, ⟨⟩⟩ := getElem?_concat_cases hj
    · exact h.healthy j node' o hj
    · exact hhealthy
  ordered i j node' metadata target_version o _ o' hlt hi hj := by
    obtain ⟨_, hi⟩ | ⟨_, ⟨⟩⟩ := getElem?_concat_cases hi
    obtain ⟨_, hj⟩ | ⟨_, ⟨⟩⟩ := getElem?_concat_cases hj
    · exact h.ordered i j node' metadata target_version o _ o' hlt hi hj
    · exact (h.attempted i node' metadata target_version o hi).2

/-- A part of a rollout that goes on with every chronicle. -/
def Chronicled (env : Environment κ α Ref) (w w' : World κ α Ref) : Prop :=
  ∀ start, Chronicle env start w.history w.scene.others → Chronicle env start w'.history w'.scene.others

instance : Std.Refl (Chronicled env) := ⟨fun _ _ h => h⟩

instance : IsTrans (World κ α Ref) (Chronicled env) := ⟨fun _ _ _ h h' start hw => h' start (h start hw)⟩

variable [DecidableEq Ref]

theorem effects_chronicled (env : Environment κ α Ref) (firmware_version : String) (targets : List (Node Ref)) :
    EffectsKeep env firmware_version targets (Chronicled env) where
  await _ _ _ hsteps _ h := h.later hsteps
  begun node _ w _ h := h.note_attempted node (w.metadata node.ref) (w.target_version node.node_id)
  written _ _ _ _ _ h := h.note nofun nofun
  healthy _ _ _ hhealthy _ h := h.note_healthy hhealthy
  watched _ _ h := h.note nofun nofun
  rolling_back _ _ _ _ h := h.note nofun nofun
  deleted _ _ _ _ _ h := h.note nofun nofun

end Chronicle

variable {Ref : Type} {service : HeartbeatService}

/-- In a recorded state every node has the time of its latest contact, or one from before `c`. -/
def Dated (c : ℤ) (k : Recorded) : Prop :=
  k.1.cluster.Filed ∧ ∀ id node, k.1.cluster.get_node id = some node →
    latest_contact k.2 id = some node.last_heartbeat ∨ (latest_contact k.2 id = none ∧ node.last_heartbeat ≤ c)

theorem Dated.step {c : ℤ} {k k' : Recorded} {a : heartbeat.Action} (h : Dated c k)
    (hstep : (heartbeat.system service).recorded.step k a = some k') : Dated c k' := by
  obtain ⟨s', hs', rfl⟩ := Option.map_eq_some_iff.mp hstep
  obtain ⟨_, rfl⟩ := step_perform hs'
  refine ⟨filed_perform h.1 service a, fun id node hnode => ?_⟩
  rw [latest_contact_cons]
  obtain hcontact | ⟨hnone, old, hold, heq⟩ := last_heartbeat_perform h.1 hnode
  · rw [hcontact]
    exact .inl rfl
  · rw [hnone, heq, Option.none_or]
    exact h.2 id old hold

/-- The times of the nodes that were never heard of are from before the run. -/
theorem dated_of_reachable {k : Recorded} (h : (heartbeat.system service).recorded.Reachable k) :
    ∃ c ≤ k.1.clock, Dated c k := by
  induction h with
  | @initial k hinit =>
    obtain ⟨⟨node_address, hcluster⟩, htrace⟩ := hinit
    refine ⟨k.1.clock, le_refl _, ?_⟩
    rw [Dated, hcluster, htrace]
    refine ⟨(ClusterState.filed_new _).add_node _, fun id node hnode => .inr ⟨rfl, ?_⟩⟩
    rw [ClusterState.get_node_add_node] at hnode
    split at hnode
    · cases hnode
      exact le_refl _
    · cases hnode
  | @step k k' a _ _ hstep ih =>
    obtain ⟨c, hc, hdated⟩ := ih
    refine ⟨c, ?_, hdated.step hstep⟩
    obtain ⟨s', hs', rfl⟩ := Option.map_eq_some_iff.mp hstep
    exact hc.trans (step_perform hs').1

/-- The node is ALIVE when it passes, with a heartbeat from after its update was issued. -/
def SawUpdate (node_id : String) (issued passed : Recorded) : Prop :=
  ∃ node, passed.1.cluster.get_node node_id = some node ∧ node.status = .ALIVE ∧ issued.1.clock < node.last_heartbeat

/-- The node has joined, sent a heartbeat or pinged since its update was issued. -/
def HeardSince (node_id : String) (issued passed : Recorded) : Prop :=
  ∃ last, latest_contact passed.2 node_id = some last ∧ issued.1.clock < last

theorem sawUpdate_iff_heardSince {node_id : String} {object : Recorded → String → Ref} {issued passed : Recorded}
    (hreach : (heartbeat.system service).recorded.Reachable issued)
    (hsteps : (heartbeat.system service).recorded.StepsWhere (fun _ _ => True) issued passed)
    (hhealthy : is_healthy (service_environment service object) node_id passed = true) :
    SawUpdate node_id issued passed ↔ HeardSince node_id issued passed := by
  obtain ⟨c, hc, hdated⟩ := dated_of_reachable hreach
  have hdated' : Dated c passed := by
    apply hsteps.invariant (P := Dated c)
    · exact fun k a k' _ hstep h => h.step hstep
    · exact hdated
  constructor
  · rintro ⟨node, hnode, _, hlater⟩
    obtain hcontact | ⟨_, hbefore⟩ := hdated'.2 node_id node hnode
    · exact ⟨node.last_heartbeat, hcontact, hlater⟩
    · omega
  · rintro ⟨last, hlast, hlater⟩
    obtain ⟨node, hnode, halive⟩ := (Option.any_eq_true _ _).mp hhealthy
    refine ⟨node, hnode, of_decide_eq_true halive, ?_⟩
    obtain hcontact | ⟨hnone, _⟩ := hdated'.2 node_id node hnode
    · cases hlast.symm.trans hcontact
      exact hlater
    · rw [hlast] at hnone
      cases hnone

/-- In the world the node has passed a health wait after an update that was issued to it. -/
def PassedAfter (node : Node Ref) (issued passed : Recorded) (w : World Recorded heartbeat.Action Ref) : Prop :=
  ∃ (i j : ℕ) (metadata : Dict String String) (target_version : Option String), i < j ∧
    w.history[i]? = some (Happening.attempted node metadata target_version issued) ∧
      w.history[j]? = some (Happening.healthy node passed)

theorem Chronicle.sawUpdate_iff {object : Recorded → String → Ref} {start issued passed : Recorded} {node : Node Ref}
    {w : World Recorded heartbeat.Action Ref}
    (h : Chronicle (service_environment service object) start w.history w.scene.others)
    (hreach : (heartbeat.system service).recorded.Reachable start) (hpassed : PassedAfter node issued passed w) :
    SawUpdate node.node_id issued passed ↔ HeardSince node.node_id issued passed := by
  obtain ⟨i, j, metadata, target_version, hlt, hi, hj⟩ := hpassed
  have hissued := (h.attempted i node metadata target_version issued hi).1.reachable hreach
  have hsteps := h.ordered i j node metadata target_version issued node passed hlt hi hj
  exact sawUpdate_iff_heardSince hissued hsteps (h.healthy j node passed hj)

variable [DecidableEq Ref]

/-- A node that joins. -/
def sample_peer : Node String := { ref := "edge-2", node_id := "edge-2" }

def sample_join : heartbeat.Action :=
  .JoinCluster 0 { node_id := "edge-2", node_address := "10.0.0.2:50051", capabilities := [] }

/-- A rolling update of the node, which joins at time 0, while the update is being sent. -/
def sample_rollout (meanwhile : List heartbeat.Action) : World Recorded heartbeat.Action String :=
  ((start_rolling_update (service_environment heartbeat.sample_service fun _ id => id) "2.0.0"
    (some [sample_peer])).call ((sample_world []).facing [⟨[sample_join], .done⟩, ⟨meanwhile, .done⟩])).2

/-- What the record is when the actions have come to the local node. -/
def sample_record (actions : List heartbeat.Action) : Recorded :=
  (heartbeat.system heartbeat.sample_service).recorded.perform (heartbeat.started, []) actions

def sample_heartbeat : heartbeat.Action := .Heartbeat 5 { node_id := "edge-2", node_address := "10.0.0.2:50051" }

end gateway.ota_coordinator
