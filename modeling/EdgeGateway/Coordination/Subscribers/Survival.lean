import EdgeGateway.Coordination.Subscribers

open gateway.cluster_state gateway.config_sync

namespace gateway.subscribers

/-- A well-formed notification: its fields are there and of the types they are declared with. -/
def notification : JsonValue → Option Entry
  | .dict items =>
    match items.lookup "key", items.lookup "value", items.lookup "version", (items.lookup "updated_by").getD (.str "") with
    | some (.str key), some (.str value), some (.int version), .str _ => some { key, value, version }
    | _, _, _, _ => none
  | _ => none

/-- A well-formed ping: its sender, and its target, which is "" where there is none. -/
def ping : JsonValue → Option (String × String)
  | .dict items =>
    match items.lookup "from_node_id", (items.lookup "target_node_id").getD (.str "") with
    | some (.str from_node_id), .str target_node_id => some (from_node_id, target_node_id)
    | _, _ => none
  | _ => none

namespace Held

/-- To apply a notification: the cache and the config of the cluster take an entry that is newer. -/
def apply_notification (held : Held) (entry : Entry) : Held :=
  if entry.version > (config_sync.get_local held.local_config entry.key).2 then
    { local_config := config_sync.set_local held.local_config entry
      cluster := held.cluster.set_config entry.key entry.value }
  else held

/-- To apply a ping: its sender was seen, where it is for this node. -/
def apply_ping (held : Held) (node_id : String) (now : ℤ) (from_node_id target_node_id : String) : Held :=
  if target_node_id = node_id then { held with cluster := held.cluster.update_node_heartbeat now from_node_id } else held

/-- The cache takes a notification as `run_sync_loop` was found to. -/
theorem local_config_apply_notification (held : Held) (entry : Entry) :
    (held.apply_notification entry).local_config = config_sync.apply_notification held.local_config entry := by
  unfold apply_notification config_sync.apply_notification
  split <;> rfl

/-- The cluster state takes a ping as the listener of the gossip protocol does. -/
theorem cluster_apply_ping (held : Held) (protocol : gossip.GossipProtocol) (now : ℤ) (message : gossip.Ping) :
    (held.apply_ping protocol.node_id now message.from_node_id message.target_node_id).cluster =
      gossip.handle_message protocol now message held.cluster := by
  unfold apply_ping gossip.handle_message
  split <;> rfl

end Held

section Run

variable (loads : Loads) (node_id : String)

/-- What an event should make of a node: a well-formed message is applied, and a malformed
one changes nothing. -/
def right (held : Held) : Event → Held
  | .config_update payload =>
    match loads payload with
    | .ok data => ((notification data).map held.apply_notification).getD held
    | .error _ => held
  | .gossip now payload =>
    match loads payload with
    | .ok data =>
      ((ping data).map fun (from_node_id, target_node_id) => held.apply_ping node_id now from_node_id target_node_id).getD held
    | .error _ => held
  | .meanwhile held => held

/-- Both subscribers are running all the time, and have made of the node what they should. -/
def Survives (held : Held) (events : List Event) : Prop :=
  ∀ before, before <+: events →
    run loads node_id { node := held.node } before = { node := (before.foldl (right loads node_id) held).node }

/-- The cached version under a key. -/
def Node.version (node : Node) (k : Key) : PyFloat := (node.local_config.getD k (.str "", .finite 0)).2

/-- A version, a number, that is not newer than what is cached under the key, which can be hashed. -/
def Stale (held : Held) (key version : JsonValue) : Prop :=
  ∃ k number, Key.of? key = some k ∧ number? version = some number ∧
    PyFloat.lt (held.node.version k) number = false

/-- A JSON object that lacks a field, is well-formed, or is stale. -/
def SafeUpdate (held : Held) : JsonValue → Prop
  | .dict items =>
    match items.lookup "key", items.lookup "value", items.lookup "version" with
    | some key, some _, some version => (notification (.dict items)).isSome ∨ Stale held key version
    | _, _, _ => True
  | _ => False

/-- A JSON object that is not for this node, or whose sender can be hashed. -/
def SafePing : JsonValue → Prop
  | .dict items =>
    Key.of? ((items.lookup "target_node_id").getD (.str "")) ≠ some (.text node_id) ∨
      ∀ from_node_id, items.lookup "from_node_id" = some from_node_id → (Key.of? from_node_id).isSome
  | _ => False

/-- The text of a message is no JSON, or it is a value that the handler can take. -/
def Safe (held : Held) : Event → Prop
  | .config_update payload =>
    match loads payload with
    | .ok data => SafeUpdate held data
    | .error e => e.caught
  | .gossip _ payload =>
    match loads payload with
    | .ok data => SafePing node_id data
    | .error e => e.caught
  | .meanwhile _ => True

/-- Every event is safe in the state in which it comes. -/
def SafeRun (held : Held) : List Event → Prop
  | [] => True
  | event :: rest => Safe loads node_id held event ∧ SafeRun (right loads node_id held event) rest

end Run

/-- A field that a notification must have is missing. -/
def Missing (items : List (String × JsonValue)) : Prop :=
  items.lookup "key" = none ∨ items.lookup "value" = none ∨ items.lookup "version" = none

section Update

variable {loads : Loads} {node : Node} {payload : String}

/-- The try block once the four fields are read. -/
def apply_fields (node : Node) (key value version : JsonValue) : Except MessageError Node := do
  let (_, local_version) ← subscribers.get_local node key
  let version ← typed (number? version)
  if PyFloat.lt local_version version then subscribers.set_local node key value version else return node

theorem apply_update_of_error {e : MessageError} (h : loads payload = .error e) :
    apply_update loads node payload = .error e := by
  rw [apply_update, h]
  rfl

theorem apply_update_of_ok {data : JsonValue} (h : loads payload = .ok data) :
    apply_update loads node payload = (do
      let key ← item data "key"
      let value ← item data "value"
      let version ← item data "version"
      let _updated_by ← get data "updated_by"
      apply_fields node key value version) := by
  rw [apply_update, h]
  rfl

theorem item_dict (items : List (String × JsonValue)) (name : String) :
    item (.dict items) name = match items.lookup name with
      | some value => .ok value
      | none => .error (.raised .KeyError) := by
  rw [item, JsonValue.getItem]
  cases items.lookup name with
  | none => rfl
  | some value => rfl

/-- A missing field raises what the handler catches. -/
theorem guarded_of_missing {items : List (String × JsonValue)} (h : loads payload = .ok (.dict items))
    (hmissing : Missing items) :
    guarded node (apply_update loads node payload) = .ok node := by
  rw [apply_update_of_ok h, item_dict, item_dict, item_dict]
  cases hkey : items.lookup "key" with
  | none => rfl
  | some key =>
    cases hvalue : items.lookup "value" with
    | none => rfl
    | some value =>
      cases hversion : items.lookup "version" with
      | none => rfl
      | some version => simp [Missing, hkey, hvalue, hversion] at hmissing

theorem apply_update_of_fields {items : List (String × JsonValue)} {key value version : JsonValue}
    (h : loads payload = .ok (.dict items)) (hkey : items.lookup "key" = some key)
    (hvalue : items.lookup "value" = some value) (hversion : items.lookup "version" = some version) :
    apply_update loads node payload = apply_fields node key value version := by
  rw [apply_update_of_ok h, item_dict, item_dict, item_dict, hkey, hvalue, hversion]
  rfl

/-- Neither a list nor a scalar can be subscripted with a text. -/
theorem apply_update_of_not_dict {data : JsonValue} (h : loads payload = .ok data) (hdict : ∀ items, data ≠ .dict items) :
    apply_update loads node payload = .error (.raised .TypeError) := by
  rw [apply_update_of_ok h]
  cases data with
  | dict items => exact absurd rfl (hdict items)
  | _ => rfl

theorem apply_fields_of_unhashable {key value version : JsonValue} (h : Key.of? key = none) :
    apply_fields node key value version = .error (.raised .TypeError) := by
  rw [apply_fields, subscribers.get_local, h]
  rfl

theorem apply_fields_of_not_number {key value version : JsonValue} {k : Key} (hkey : Key.of? key = some k)
    (h : number? version = none) : apply_fields node key value version = .error (.raised .TypeError) := by
  rw [apply_fields, subscribers.get_local, hkey, h]
  rfl

theorem apply_fields_of_number {key value version : JsonValue} {k : Key} {number : PyFloat} (hkey : Key.of? key = some k)
    (hversion : number? version = some number) :
    apply_fields node key value version =
      if PyFloat.lt (node.version k) number then
        .ok { node with
          local_config := node.local_config.set k (value, number)
          cluster_config := node.cluster_config.set k value }
      else .ok node := by
  rw [apply_fields, subscribers.get_local, hkey, hversion]
  change (if PyFloat.lt (node.version k) number then subscribers.set_local node key value number else .ok node) = _
  rw [subscribers.set_local, hkey]
  rfl

theorem not_lt_self (x : PyFloat) : PyFloat.lt x x = false := by
  cases x with
  | nan => rfl
  | inf negative => cases negative <;> rfl
  | finite value => exact decide_eq_false (lt_irrefl value)

/-- A newer version is a change of the cache. -/
theorem set_ne_of_newer {k : Key} {value : JsonValue} {number : PyFloat} (h : PyFloat.lt (node.version k) number = true) :
    node.local_config.set k (value, number) ≠ node.local_config := by
  intro hsame
  have hentry : node.local_config.get? k = some (value, number) := Dict.set_eq_self_iff.mp hsame
  rw [Node.version, Dict.getD, hentry, Option.getD_some, not_lt_self] at h
  cases h

end Update

section Held

variable {held : Held}

theorem version_text (key : String) :
    held.node.version (.text key) = .finite (config_sync.get_local held.local_config key).2 := by
  rw [Node.version, Dict.getD, Held.node, Dict.get?_mapKeys Key.text_injective, config_sync.get_local, Dict.getD]
  cases held.local_config.get? key with
  | none => simp
  | some entry => rfl

theorem lt_finite_iff (a b : ℤ) : PyFloat.lt (.finite a) (.finite b) = true ↔ a < b := by
  rw [PyFloat.lt, decide_eq_true_iff]
  exact Int.cast_lt

/-- To apply an entry is to write it into both dicts. -/
theorem node_apply_notification (entry : Entry) :
    (held.apply_notification entry).node =
      if PyFloat.lt (held.node.version (.text entry.key)) (.finite entry.version) then
        { held.node with
          local_config := held.node.local_config.set (.text entry.key) (.str entry.value, .finite entry.version)
          cluster_config := held.node.cluster_config.set (.text entry.key) (.str entry.value) }
      else held.node := by
  rw [version_text]
  unfold Held.apply_notification
  by_cases hnewer : entry.version > (config_sync.get_local held.local_config entry.key).2
  · rw [if_pos hnewer, if_pos ((lt_finite_iff _ _).mpr hnewer), Held.node]
    dsimp only
    rw [config_sync.set_local, Dict.mapKeys_set, ClusterState.set_config, Dict.mapKeys_set]
    rfl
  · rw [if_neg hnewer, if_neg (mt (lt_finite_iff _ _).mp hnewer)]

/-- The cluster state takes a heartbeat without a look at its config. -/
theorem node_update_node_heartbeat (now : ℤ) (id : String) :
    ({ held with cluster := held.cluster.update_node_heartbeat now id } : Held).node =
      { held.node with cluster := held.node.cluster.update_node_heartbeat now id } := by
  unfold Held.node ClusterState.update_node_heartbeat ClusterState.change ClusterState.get_node
  dsimp only
  split <;> rfl

end Held

theorem notification_dict {items : List (String × JsonValue)} {entry : Entry} (h : notification (.dict items) = some entry) :
    items.lookup "key" = some (.str entry.key) ∧ items.lookup "value" = some (.str entry.value) ∧
      items.lookup "version" = some (.int entry.version) := by
  rw [notification] at h
  split at h
  · rename_i key value version updated_by hkey hvalue hversion _
    cases h
    exact ⟨hkey, hvalue, hversion⟩
  · cases h

section Step

variable {loads : Loads} {node_id : String} {held : Held} {payload : String}

theorem step_config_update_eq_iff {node n : Node} :
    step loads node_id { node } (.config_update payload) = { node := n } ↔
      guarded node (apply_update loads node payload) = .ok n := by
  rw [step, if_pos rfl]
  cases guarded node (apply_update loads node payload) with
  | ok node' => simp
  | error e => simp

theorem step_gossip_eq_iff {node n : Node} {now : ℤ} :
    step loads node_id { node } (.gossip now payload) = { node := n } ↔
      guarded node (receive_ping loads node_id now node payload) = .ok n := by
  rw [step, if_pos rfl]
  cases guarded node (receive_ping loads node_id now node payload) with
  | ok node' => simp
  | error e => simp

/-- What the handler catches leaves the node as it is, and what it does not catch ends the loop. -/
theorem guarded_error_eq_iff {node : Node} {e : MessageError} : guarded node (.error e) = .ok node ↔ e.caught = true := by
  rw [guarded]
  split <;> simp [*]

section Fields

variable {items : List (String × JsonValue)} {key value version : JsonValue} (hkey : items.lookup "key" = some key)
  (hvalue : items.lookup "value" = some value) (hversion : items.lookup "version" = some version)

include hkey hvalue hversion

/-- A well-formed message has a key that can be hashed and a version that is a number. -/
theorem notification_typed {entry : Entry} (h : notification (.dict items) = some entry) :
    Key.of? key = some (.text entry.key) ∧ value = .str entry.value ∧ number? version = some (.finite entry.version) := by
  obtain ⟨hentrykey, hentryvalue, hentryversion⟩ := notification_dict h
  cases hkey.symm.trans hentrykey
  cases hvalue.symm.trans hentryvalue
  cases hversion.symm.trans hentryversion
  exact ⟨rfl, rfl, rfl⟩

theorem typed_of_safe (h : (notification (.dict items)).isSome ∨ Stale held key version) :
    (Key.of? key).isSome ∧ (number? version).isSome := by
  rcases h with hsome | ⟨k, number, hk, hnumber, _⟩
  · obtain ⟨entry, hentry⟩ := Option.isSome_iff_exists.mp hsome
    obtain ⟨hk, _, hnumber⟩ := notification_typed hkey hvalue hversion hentry
    rw [hk, hnumber]
    exact ⟨rfl, rfl⟩
  · rw [hk, hnumber]
    exact ⟨rfl, rfl⟩

variable {k : Key} {number : PyFloat} (hk : Key.of? key = some k) (hnumber : number? version = some number)

include hk hnumber

/-- What a well-formed message should make of the node, in terms of its fields. -/
theorem node_apply_typed {entry : Entry} (h : notification (.dict items) = some entry) :
    (held.apply_notification entry).node =
      if PyFloat.lt (held.node.version k) number then
        { held.node with
          local_config := held.node.local_config.set k (value, number)
          cluster_config := held.node.cluster_config.set k value }
      else held.node := by
  obtain ⟨hkeytext, hvaluetext, hversionint⟩ := notification_typed hkey hvalue hversion h
  cases hk.symm.trans hkeytext
  cases hnumber.symm.trans hversionint
  rw [hvaluetext]
  exact node_apply_notification entry

/-- A version that is not newer changes nothing, and should not. -/
theorem guarded_of_stale (hstale : PyFloat.lt (held.node.version k) number = false) :
    guarded held.node (apply_fields held.node key value version) =
      .ok (((notification (.dict items)).map held.apply_notification).getD held).node := by
  rw [apply_fields_of_number hk hnumber, hstale]
  cases hentry : notification (.dict items) with
  | none => rfl
  | some entry =>
    rw [Option.map_some, Option.getD_some, node_apply_typed hkey hvalue hversion hk hnumber hentry, hstale]
    rfl

/-- A newer version is written, which it should be if the message is well-formed. -/
theorem guarded_of_newer_iff (hnewer : PyFloat.lt (held.node.version k) number = true) :
    guarded held.node (apply_fields held.node key value version) =
        .ok (((notification (.dict items)).map held.apply_notification).getD held).node ↔
      (notification (.dict items)).isSome := by
  rw [apply_fields_of_number hk hnumber, hnewer]
  cases hentry : notification (.dict items) with
  | none =>
    refine iff_of_false ?_ nofun
    intro hsame
    exact set_ne_of_newer hnewer (congrArg Node.local_config (Except.ok.inj hsame))
  | some entry =>
    refine iff_of_true ?_ rfl
    rw [Option.map_some, Option.getD_some, node_apply_typed hkey hvalue hversion hk hnumber hentry, hnewer]
    rfl

omit hk hnumber

/-- A message that has all the fields. -/
theorem guarded_apply_fields_iff :
    guarded held.node (apply_fields held.node key value version) =
        .ok (((notification (.dict items)).map held.apply_notification).getD held).node ↔
      (notification (.dict items)).isSome ∨ Stale held key version := by
  cases hk : Key.of? key with
  | none =>
    rw [apply_fields_of_unhashable hk]
    refine iff_of_false nofun fun hsafe => ?_
    obtain ⟨hsome, _⟩ := typed_of_safe hkey hvalue hversion hsafe
    rw [hk] at hsome
    cases hsome
  | some k =>
    cases hnumber : number? version with
    | none =>
      rw [apply_fields_of_not_number hk hnumber]
      refine iff_of_false nofun fun hsafe => ?_
      obtain ⟨_, hsome⟩ := typed_of_safe hkey hvalue hversion hsafe
      rw [hnumber] at hsome
      cases hsome
    | some number =>
      cases hnewer : PyFloat.lt (held.node.version k) number with
      | false =>
        exact iff_of_true (guarded_of_stale hkey hvalue hversion hk hnumber hnewer) (.inr ⟨k, number, hk, hnumber, hnewer⟩)
      | true =>
        have hnot : ¬ Stale held key version := by
          rintro ⟨k', number', hk', hnumber', hstale⟩
          cases hk.symm.trans hk'
          cases hnumber.symm.trans hnumber'
          rw [hnewer] at hstale
          cases hstale
        rw [guarded_of_newer_iff hkey hvalue hversion hk hnumber hnewer, or_iff_left hnot]

end Fields

theorem notification_of_missing {items : List (String × JsonValue)} (h : Missing items) :
    notification (.dict items) = none := by
  apply Option.eq_none_iff_forall_ne_some.mpr
  intro entry hentry
  obtain ⟨hkey, hvalue, hversion⟩ := notification_dict hentry
  simp [Missing, hkey, hvalue, hversion] at h

theorem safeUpdate_of_missing {items : List (String × JsonValue)} (h : Missing items) : SafeUpdate held (.dict items) := by
  rw [SafeUpdate]
  split
  · rename_i key value version hkey hvalue hversion
    simp [Missing, hkey, hvalue, hversion] at h
  · trivial

theorem step_config_update_iff :
    step loads node_id { node := held.node } (.config_update payload) =
        { node := (right loads node_id held (.config_update payload)).node } ↔
      Safe loads node_id held (.config_update payload) := by
  rw [step_config_update_eq_iff, right, Safe]
  cases hloads : loads payload with
  | error e =>
    rw [apply_update_of_error hloads]
    exact guarded_error_eq_iff
  | ok data =>
    cases data with
    | dict items =>
      by_cases hmissing : Missing items
      · rw [guarded_of_missing hloads hmissing]
        refine iff_of_true ?_ (safeUpdate_of_missing hmissing)
        dsimp only
        rw [notification_of_missing hmissing]
        rfl
      · simp only [Missing, not_or, ← ne_eq, Option.ne_none_iff_exists'] at hmissing
        obtain ⟨⟨key, hkey⟩, ⟨value, hvalue⟩, ⟨version, hversion⟩⟩ := hmissing
        rw [apply_update_of_fields hloads hkey hvalue hversion]
        dsimp only
        rw [guarded_apply_fields_iff hkey hvalue hversion, SafeUpdate, hkey, hvalue, hversion]
    | _ =>
      rw [apply_update_of_not_dict hloads nofun]
      exact iff_of_false nofun id

theorem receive_ping_of_error {node : Node} {now : ℤ} {e : MessageError} (h : loads payload = .error e) :
    receive_ping loads node_id now node payload = .error e := by
  rw [receive_ping, h]
  rfl

/-- Neither a list nor a scalar has the method `get`. -/
theorem receive_ping_of_not_dict {node : Node} {now : ℤ} {data : JsonValue} (h : loads payload = .ok data)
    (hdict : ∀ items, data ≠ .dict items) : receive_ping loads node_id now node payload = .error (.raised .AttributeError) := by
  rw [receive_ping, h]
  cases data with
  | dict items => exact absurd rfl (hdict items)
  | _ => rfl

theorem receive_ping_of_dict {node : Node} {now : ℤ} {items : List (String × JsonValue)} (h : loads payload = .ok (.dict items)) :
    receive_ping loads node_id now node payload =
      if Key.of? ((items.lookup "target_node_id").getD (.str "")) = some (.text node_id) then do
        handle_ping now node (← item (.dict items) "from_node_id")
      else .ok node := by
  rw [receive_ping, h]
  rfl

theorem handle_ping_of_unhashable {node : Node} {now : ℤ} {sender : JsonValue} (h : Key.of? sender = none) :
    handle_ping now node sender = .error (.raised .TypeError) := by
  rw [handle_ping, h]
  rfl

theorem of?_eq_text_iff {value : JsonValue} {text : String} : Key.of? value = some (.text text) ↔ value = .str text := by
  cases value with
  | float x => cases x <;> simp [Key.of?]
  | _ => simp [Key.of?]

/-- A sender that is no text has no node. -/
theorem handle_ping_of_not_text {node : Node} {now : ℤ} {sender : JsonValue} (h : (Key.of? sender).isSome)
    (htext : ∀ text, sender ≠ .str text) : handle_ping now node sender = .ok node := by
  obtain ⟨k, hk⟩ := Option.isSome_iff_exists.mp h
  rw [handle_ping, hk]
  cases k with
  | text text => exact absurd (of?_eq_text_iff.mp hk) (htext text)
  | _ => rfl

section Ping

variable {items : List (String × JsonValue)} {now : ℤ}

/-- What a ping should make of the node that is for another one. -/
theorem right_of_other_target (h : Key.of? ((items.lookup "target_node_id").getD (.str "")) ≠ some (.text node_id)) :
    ((ping (.dict items)).map fun (from_node_id, target_node_id) =>
      held.apply_ping node_id now from_node_id target_node_id).getD held = held := by
  rw [ping]
  split
  · rename_i from_node_id target_node_id _ htarget
    rw [htarget] at h
    have hne : target_node_id ≠ node_id := by
      rintro rfl
      exact h rfl
    rw [Option.map_some, Option.getD_some]
    exact if_neg hne
  · rfl

theorem ping_of_missing (h : items.lookup "from_node_id" = none) : ping (.dict items) = none := by
  rw [ping, h]

theorem ping_of_not_text {sender : JsonValue} (h : items.lookup "from_node_id" = some sender)
    (htext : ∀ text, sender ≠ .str text) : ping (.dict items) = none := by
  rw [ping, h]
  cases sender with
  | str text => exact absurd rfl (htext text)
  | _ => rfl

theorem ping_of_text {sender target : String} (h : items.lookup "from_node_id" = some (.str sender))
    (htarget : (items.lookup "target_node_id").getD (.str "") = .str target) : ping (.dict items) = some (sender, target) := by
  rw [ping, h, htarget]

/-- A ping for this node. -/
theorem guarded_handle_ping_iff (htarget : (items.lookup "target_node_id").getD (.str "") = .str node_id) :
    guarded held.node (do handle_ping now held.node (← item (.dict items) "from_node_id")) =
        .ok (((ping (.dict items)).map fun (from_node_id, target_node_id) =>
          held.apply_ping node_id now from_node_id target_node_id).getD held).node ↔
      ∀ from_node_id, items.lookup "from_node_id" = some from_node_id → (Key.of? from_node_id).isSome := by
  rw [item_dict]
  cases hsender : items.lookup "from_node_id" with
  | none =>
    rw [ping_of_missing hsender]
    exact iff_of_true rfl nofun
  | some sender =>
    change guarded held.node (handle_ping now held.node sender) = _ ↔ _
    cases hk : Key.of? sender with
    | none =>
      rw [handle_ping_of_unhashable hk]
      refine iff_of_false nofun fun hall => ?_
      have hsome := hall sender rfl
      rw [hk] at hsome
      cases hsome
    | some k =>
      have hhashable : (Key.of? sender).isSome := by rw [hk]; rfl
      refine iff_of_true ?_ ?_
      · by_cases htext : ∃ text, sender = .str text
        · obtain ⟨text, rfl⟩ := htext
          rw [ping_of_text hsender htarget, Option.map_some, Option.getD_some]
          dsimp only
          rw [Held.apply_ping, if_pos rfl, node_update_node_heartbeat]
          rfl
        · have hnot : ∀ text, sender ≠ .str text := fun text h => htext ⟨text, h⟩
          rw [handle_ping_of_not_text hhashable hnot, ping_of_not_text hsender hnot]
          rfl
      · rintro _ ⟨⟩
        exact hhashable

end Ping

theorem step_gossip_iff {now : ℤ} :
    step loads node_id { node := held.node } (.gossip now payload) =
        { node := (right loads node_id held (.gossip now payload)).node } ↔
      Safe loads node_id held (.gossip now payload) := by
  rw [step_gossip_eq_iff, right, Safe]
  cases hloads : loads payload with
  | error e =>
    rw [receive_ping_of_error hloads]
    exact guarded_error_eq_iff
  | ok data =>
    cases data with
    | dict items =>
      rw [receive_ping_of_dict hloads]
      dsimp only
      by_cases htarget : Key.of? ((items.lookup "target_node_id").getD (.str "")) = some (.text node_id)
      · rw [if_pos htarget, guarded_handle_ping_iff (of?_eq_text_iff.mp htarget), SafePing, or_iff_right (not_not_intro htarget)]
      · rw [if_neg htarget, right_of_other_target htarget]
        exact iff_of_true rfl (.inl htarget)
    | _ =>
      rw [receive_ping_of_not_dict hloads nofun]
      exact iff_of_false nofun id

theorem step_iff (event : Event) :
    step loads node_id { node := held.node } event = { node := (right loads node_id held event).node } ↔
      Safe loads node_id held event := by
  cases event with
  | config_update payload => exact step_config_update_iff
  | gossip now payload => exact step_gossip_iff
  | meanwhile held => exact iff_of_true rfl trivial

end Step

/-- The subscribers survive exactly the runs of safe messages, whatever the order in which the
messages of the two channels come and whatever the service does in between. -/
theorem survives_iff (loads : Loads) (node_id : String) (held : Held) (events : List Event) :
    Survives loads node_id held events ↔ SafeRun loads node_id held events := by
  induction events generalizing held with
  | nil =>
    refine iff_of_true ?_ trivial
    intro before hbefore
    rw [List.prefix_nil.mp hbefore]
    rfl
  | cons event rest ih =>
    rw [SafeRun, ← ih, ← step_iff]
    constructor
    · intro hsurvives
      have hfirst := hsurvives [event] (List.cons_prefix_cons.mpr ⟨rfl, List.nil_prefix⟩)
      refine ⟨hfirst, fun before hbefore => ?_⟩
      have hrun := hsurvives (event :: before) (List.cons_prefix_cons.mpr ⟨rfl, hbefore⟩)
      rw [run, List.foldl_cons, List.foldl_cons] at hrun
      rw [← hrun]
      exact congrArg (fun s => run loads node_id s before) hfirst.symm
    · rintro ⟨hfirst, hrest⟩ before hbefore
      rcases List.prefix_cons_iff.mp hbefore with rfl | ⟨before, rfl, hprefix⟩
      · rfl
      · rw [run, List.foldl_cons, List.foldl_cons, hfirst]
        exact hrest before hprefix

/-- What `set_config` publishes. -/
def published_update (entry : Entry) (updated_by : String) : JsonValue :=
  .dict [("key", .str entry.key), ("value", .str entry.value), ("version", .int entry.version), ("updated_by", .str updated_by)]

/-- What `_ping_peer` publishes. -/
def published_ping (message : gossip.Ping) (timestamp : PyFloat) : JsonValue :=
  .dict [("type", .str "ping"), ("from_node_id", .str message.from_node_id), ("target_node_id", .str message.target_node_id),
    ("sequence", .int message.sequence), ("timestamp", .float timestamp)]

/-- What the nodes themselves publish is safe at any time. -/
theorem safe_of_published {loads : Loads} {payload : String} (node_id : String) (held : Held) :
    (∀ entry updated_by, loads payload = .ok (published_update entry updated_by) →
        Safe loads node_id held (.config_update payload)) ∧
      ∀ now message timestamp, loads payload = .ok (published_ping message timestamp) →
        Safe loads node_id held (.gossip now payload) := by
  constructor
  · intro entry updated_by h
    rw [Safe, h]
    exact .inl rfl
  · intro now message timestamp h
    rw [Safe, h]
    refine .inr fun from_node_id hfrom => ?_
    cases hfrom
    rfl

/-- `json.loads`, where every text that is no JSON has the same failure. -/
def json_loads (payload : String) : Except MessageError JsonValue :=
  match JsonText.loads payload with
  | some value => .ok value
  | none => .error .JSONDecodeError

def sample_held : Held where
  local_config := .empty
  cluster := { local_node_id := "node-1" }

/-- An empty array on a channel ends the subscriber to it. -/
theorem array_ends_subscribers :
    (run json_loads "node-1" { node := sample_held.node } [.config_update "[]"]).run_sync_loop = some (.raised .TypeError) ∧
      (run json_loads "node-1" { node := sample_held.node } [.gossip 0 "[]"]).listen_for_pings =
        some (.raised .AttributeError) ∧
      ¬ Survives json_loads "node-1" sample_held [.config_update "[]"] ∧
      ¬ Survives json_loads "node-1" sample_held [.gossip 0 "[]"] := by
  have hloads : json_loads "[]" = .ok (.list []) := rfl
  have hupdate : (run json_loads "node-1" { node := sample_held.node } [.config_update "[]"]).run_sync_loop =
      some (.raised .TypeError) := rfl
  have hping : (run json_loads "node-1" { node := sample_held.node } [.gossip 0 "[]"]).listen_for_pings =
      some (.raised .AttributeError) := rfl
  refine ⟨hupdate, hping, fun hsurvives => ?_, fun hsurvives => ?_⟩
  · rw [hsurvives _ List.prefix_rfl] at hupdate
    cases hupdate
  · rw [hsurvives _ List.prefix_rfl] at hping
    cases hping

-- A key that is a number is written into the cache.
example :
    (run json_loads "node-1" { node := sample_held.node }
      [.config_update "\x7b\"key\": 5, \"value\": \"x\", \"version\": 1\x7d"]).node.local_config.keys = [.number 5] := by
  decide +kernel

end gateway.subscribers
