import EdgeGateway.Coordination.CoordinationServicer
import EdgeGateway.Coordination.Subscribers
import EdgeGateway.Library.Raising

open gateway.cluster_state gateway.config_sync gateway.subscribers

namespace gateway.coordination_servicer.representation

/-- The fields that the handlers read, of which a request has some. -/
structure Fields where
  node_id : Option String := none
  node_address : Option String := none
  capabilities : Option (List String) := none
  key : Option String := none
  value : Option String := none
  version : Option ℤ := none

/-- A request with its fields as attributes, or as the items of a dict. A message has no
method `get`, and a dict none of the attributes that are read. -/
inductive Request where
  | object (fields : Fields)
  | dict (fields : Fields)

section Source

variable {α : Type}

def getattr (name : Fields → Option α) (default : α) : Request → α
  | .object fields => (name fields).getD default
  | .dict _ => default

def get (name : Fields → Option α) (default : α) : Request → Except PyExc α
  | .object _ => .error .AttributeError
  | .dict fields => .ok ((name fields).getD default)

/-- `getattr(request, name, default) or request.get(name, default)`, the default being the
falsy value of its type. -/
def field [DecidableEq α] (request : Request) (name : Fields → Option α) (default : α) : Except PyExc α :=
  let value := getattr name default request
  if value = default then get name default request else .ok value

def read_heartbeat (request : Request) : Except PyExc HeartbeatRequest := do
  let node_id ← field request Fields.node_id ""
  let node_address ← field request Fields.node_address ""
  return { node_id, node_address }

/-- `leader` is what `get_leader` finds. -/
def Heartbeat (now : ℤ) (leader : Option String) (request : Request) : Raising ClusterState PyExc HeartbeatResponse := do
  let request ← (read_heartbeat request : Except PyExc HeartbeatRequest)
  modify (coordination_servicer.Heartbeat now request)
  return heartbeat_response leader (← MonadState.get)

def read_join (request : Request) : Except PyExc JoinRequest := do
  let node_id ← field request Fields.node_id ""
  let node_address ← field request Fields.node_address ""
  let capabilities ← field request Fields.capabilities []
  return { node_id, node_address, capabilities }

def JoinCluster (now : ℤ) (request : Request) : Raising ClusterState PyExc JoinResponse := do
  let request ← (read_join request : Except PyExc JoinRequest)
  let (state, response) := coordination_servicer.JoinCluster now request (← MonadState.get)
  set state
  return response

def LeaveCluster (request : Request) : Raising ClusterState PyExc LeaveResponse := do
  let node_id ← (field request Fields.node_id "" : Except PyExc String)
  let (state, response) := coordination_servicer.LeaveCluster node_id (← MonadState.get)
  set state
  return response

def read_entry (request : Request) : Except PyExc Entry := do
  let key ← field request Fields.key ""
  let value ← field request Fields.value ""
  let version ← field request Fields.version 0
  return { key, value, version }

/-- The config cache and the cluster state of a node, and the entries that were yielded. -/
structure SyncState where
  held : Held
  yielded : List Entry := []

/-- What the stream does with an entry. -/
def exchange (entry : Entry) (s : SyncState) : SyncState :=
  let (local_value, local_version) := config_sync.get_local s.held.local_config entry.key
  if local_version > entry.version then
    -- We have a newer version: send it back
    { s with yielded := s.yielded ++ [{ key := entry.key, value := local_value, version := local_version }] }
  else if entry.version > local_version then
    -- Caller has a newer version: ingest it
    { s with held := {
        local_config := config_sync.set_local s.held.local_config entry
        cluster := s.held.cluster.set_config entry.key entry.value } }
  else s

def SyncConfig : List Request → Raising SyncState PyExc Unit
  | [] => pure ()
  | request :: requests => do
    let entry ← (read_entry request : Except PyExc Entry)
    modify (exchange entry)
    SyncConfig requests

end Source

/-- The fields of a message, as the handlers read them. -/
def heartbeat_fields (request : HeartbeatRequest) : Fields :=
  { node_id := some request.node_id, node_address := some request.node_address }

def join_fields (request : JoinRequest) : Fields where
  node_id := some request.node_id
  node_address := some request.node_address
  capabilities := some request.capabilities

def leave_fields (node_id : String) : Fields := { node_id := some node_id }

def entry_fields (entry : Entry) : Fields :=
  { key := some entry.key, value := some entry.value, version := some entry.version }

section Agree

variable {σ ρ α : Type}

/-- Both calls return the same answer and leave the same state, and neither raises. -/
def Agree (x y : Raising σ PyExc α) (s : σ) : Prop := x.call s = y.call s ∧ ∃ a, (x.call s).1 = .ok a

theorem field_dict [DecidableEq ρ] (fields : Fields) (name : Fields → Option ρ) (default : ρ) :
    field (.dict fields) name default = .ok ((name fields).getD default) := if_pos rfl

/-- A falsy attribute is looked up by a method that an object does not have. -/
theorem field_object [DecidableEq ρ] (fields : Fields) (name : Fields → Option ρ) (default : ρ) :
    field (.object fields) name default =
      if (name fields).getD default = default then .error .AttributeError else .ok ((name fields).getD default) := rfl

/-- Handlers that read a request and then return, whatever they read. -/
theorem agree_iff {object dict : Except PyExc ρ} {rest : ρ → Raising σ PyExc α} {s : σ} {r : ρ}
    (hdict : dict = .ok r) (hobject : object = .ok r ∨ object = .error .AttributeError)
    (hrest : ∃ a, ((rest r).call s).1 = .ok a) :
    Agree ((liftM object : Raising σ PyExc ρ) >>= rest) ((liftM dict : Raising σ PyExc ρ) >>= rest) s ↔ object = .ok r := by
  have hreturns : ((liftM (Except.ok r : Except PyExc ρ) : Raising σ PyExc ρ) >>= rest).call s = (rest r).call s :=
    Raising.call_bind_ok (Raising.call_lift _ s)
  rcases hobject with hok | herror
  · rw [hok, hdict, Agree, hreturns]
    exact iff_of_true ⟨rfl, hrest⟩ rfl
  · refine iff_of_false ?_ ?_
    · rintro ⟨_, a, ha⟩
      rw [herror, Raising.call_bind_error (Raising.call_lift _ s)] at ha
      cases ha
    · rw [herror]
      exact nofun

end Agree

section Read

/-- A reading that raises if one of the fields is falsy. -/
theorem eq_ok_iff {ρ : Type} {read : Except PyExc ρ} {r : ρ} {falsy : Prop} [Decidable falsy]
    (h : read = if falsy then .error .AttributeError else .ok r) :
    (read = .ok r ∨ read = .error .AttributeError) ∧ (read = .ok r ↔ ¬ falsy) := by
  rw [h]
  split
  · rename_i hfalsy
    exact ⟨.inr rfl, iff_of_false nofun (not_not_intro hfalsy)⟩
  · rename_i htruthy
    exact ⟨.inl rfl, iff_of_true rfl htruthy⟩

theorem read_heartbeat_dict (request : HeartbeatRequest) : read_heartbeat (.dict (heartbeat_fields request)) = .ok request := by
  rw [read_heartbeat, field_dict, field_dict]
  rfl

theorem read_heartbeat_object (request : HeartbeatRequest) :
    read_heartbeat (.object (heartbeat_fields request)) =
      if request.node_id = "" ∨ request.node_address = "" then .error .AttributeError else .ok request := by
  obtain ⟨node_id, node_address⟩ := request
  rw [read_heartbeat, field_object, field_object]
  by_cases hid : node_id = ""
  · simp [heartbeat_fields, hid, bind, Except.bind]
  · by_cases haddress : node_address = ""
    · simp [heartbeat_fields, hid, haddress, bind, Except.bind]
    · simp [heartbeat_fields, hid, haddress, bind, Except.bind, pure, Except.pure]

theorem read_join_dict (request : JoinRequest) : read_join (.dict (join_fields request)) = .ok request := by
  rw [read_join, field_dict, field_dict, field_dict]
  rfl

theorem read_join_object (request : JoinRequest) :
    read_join (.object (join_fields request)) =
      if request.node_id = "" ∨ request.node_address = "" ∨ request.capabilities = [] then .error .AttributeError
      else .ok request := by
  obtain ⟨node_id, node_address, capabilities⟩ := request
  rw [read_join, field_object, field_object, field_object]
  by_cases hid : node_id = ""
  · simp [join_fields, hid, bind, Except.bind]
  · by_cases haddress : node_address = ""
    · simp [join_fields, hid, haddress, bind, Except.bind]
    · by_cases hcapabilities : capabilities = []
      · simp [join_fields, hid, haddress, hcapabilities, bind, Except.bind]
      · simp [join_fields, hid, haddress, hcapabilities, bind, Except.bind, pure, Except.pure]

theorem read_leave_object (node_id : String) :
    field (.object (leave_fields node_id)) Fields.node_id "" =
      if node_id = "" then .error .AttributeError else .ok node_id := rfl

theorem read_entry_dict (entry : Entry) : read_entry (.dict (entry_fields entry)) = .ok entry := by
  rw [read_entry, field_dict, field_dict, field_dict]
  rfl

theorem read_entry_object (entry : Entry) :
    read_entry (.object (entry_fields entry)) =
      if entry.key = "" ∨ entry.value = "" ∨ entry.version = 0 then .error .AttributeError else .ok entry := by
  obtain ⟨key, value, version⟩ := entry
  rw [read_entry, field_object, field_object, field_object]
  by_cases hkey : key = ""
  · simp [entry_fields, hkey, bind, Except.bind]
  · by_cases hvalue : value = ""
    · simp [entry_fields, hkey, hvalue, bind, Except.bind]
    · by_cases hversion : version = 0
      · simp [entry_fields, hkey, hvalue, hversion, bind, Except.bind]
      · simp [entry_fields, hkey, hvalue, hversion, bind, Except.bind, pure, Except.pure]

end Read

section Sync

/-- The stream does with an entry what `SyncConfig` was found to. -/
theorem exchange_eq (entry : Entry) (s : SyncState) :
    (exchange entry s).held.local_config = (sync_entry s.held.local_config entry).1 ∧
      (exchange entry s).yielded = s.yielded ++ (sync_entry s.held.local_config entry).2.toList := by
  unfold exchange sync_entry
  dsimp only
  split
  · exact ⟨rfl, rfl⟩
  split
  · exact ⟨rfl, (List.append_nil _).symm⟩
  · exact ⟨rfl, (List.append_nil _).symm⟩

/-- A stream of dicts is worked off to its end. -/
theorem call_SyncConfig_dict (entries : List Entry) (s : SyncState) :
    (SyncConfig (entries.map fun entry => .dict (entry_fields entry))).call s =
      (.ok (), entries.foldl (fun s entry => exchange entry s) s) := by
  induction entries generalizing s with
  | nil => rfl
  | cons entry rest ih =>
    rw [List.map_cons, SyncConfig, read_entry_dict, Raising.call_bind_ok (Raising.call_lift _ s),
      Raising.call_bind_ok (Raising.call_modify _ s), ih, List.foldl_cons]

theorem syncConfig_agrees_iff (entries : List Entry) (s : SyncState) :
    Agree (SyncConfig (entries.map fun entry => .object (entry_fields entry)))
        (SyncConfig (entries.map fun entry => .dict (entry_fields entry))) s ↔
      ∀ entry ∈ entries, ¬ (entry.key = "" ∨ entry.value = "" ∨ entry.version = 0) := by
  induction entries generalizing s with
  | nil => exact iff_of_true ⟨rfl, (), rfl⟩ nofun
  | cons entry rest ih =>
    rw [List.forall_mem_cons]
    obtain ⟨hread, htruthy⟩ := eq_ok_iff (read_entry_object entry)
    rw [← htruthy]
    rcases hread with hok | herror
    · have hsame : Agree (SyncConfig ((entry :: rest).map fun entry => .object (entry_fields entry)))
          (SyncConfig ((entry :: rest).map fun entry => .dict (entry_fields entry))) s ↔
          Agree (SyncConfig (rest.map fun entry => .object (entry_fields entry)))
            (SyncConfig (rest.map fun entry => .dict (entry_fields entry))) (exchange entry s) := by
        rw [Agree, List.map_cons, List.map_cons, SyncConfig, SyncConfig, hok, read_entry_dict,
          Raising.call_bind_ok (Raising.call_lift _ s), Raising.call_bind_ok (Raising.call_lift _ s),
          Raising.call_bind_ok (Raising.call_modify _ s), Raising.call_bind_ok (Raising.call_modify _ s)]
        rfl
      rw [hsame, ih, hok]
      exact (and_iff_right rfl).symm
    · refine iff_of_false ?_ ?_
      · rintro ⟨_, a, ha⟩
        rw [List.map_cons, SyncConfig, herror, Raising.call_bind_error (Raising.call_lift _ s)] at ha
        cases ha
      · rw [herror]
        rintro ⟨hok, _⟩
        cases hok

end Sync

/-- The two representations of a request agree exactly if none of the fields that are
read has its default. -/
theorem representations_agree_iff (now : ℤ) (leader : Option String) (heartbeat : HeartbeatRequest) (join : JoinRequest)
    (node_id : String) (state : ClusterState) (entries : List Entry) (s : SyncState) :
    (Agree (Heartbeat now leader (.object (heartbeat_fields heartbeat)))
        (Heartbeat now leader (.dict (heartbeat_fields heartbeat))) state ↔
      ¬ (heartbeat.node_id = "" ∨ heartbeat.node_address = "")) ∧
    (Agree (JoinCluster now (.object (join_fields join))) (JoinCluster now (.dict (join_fields join))) state ↔
      ¬ (join.node_id = "" ∨ join.node_address = "" ∨ join.capabilities = [])) ∧
    (Agree (LeaveCluster (.object (leave_fields node_id))) (LeaveCluster (.dict (leave_fields node_id))) state ↔
      ¬ node_id = "") ∧
    (Agree (SyncConfig (entries.map fun entry => .object (entry_fields entry)))
        (SyncConfig (entries.map fun entry => .dict (entry_fields entry))) s ↔
      ∀ entry ∈ entries, ¬ (entry.key = "" ∨ entry.value = "" ∨ entry.version = 0)) := by
  refine ⟨?_, ?_, ?_, syncConfig_agrees_iff entries s⟩
  · obtain ⟨hread, htruthy⟩ := eq_ok_iff (read_heartbeat_object heartbeat)
    rw [← htruthy]
    exact agree_iff (read_heartbeat_dict heartbeat) hread ⟨_, rfl⟩
  · obtain ⟨hread, htruthy⟩ := eq_ok_iff (read_join_object join)
    rw [← htruthy]
    exact agree_iff (read_join_dict join) hread ⟨_, rfl⟩
  · obtain ⟨hread, htruthy⟩ := eq_ok_iff (read_leave_object node_id)
    rw [← htruthy]
    exact agree_iff (field_dict (leave_fields node_id) Fields.node_id "") hread ⟨_, rfl⟩

/-- A node without capabilities. -/
def sample_join : JoinRequest where
  node_id := "edge-2"
  node_address := "10.0.0.2:50051"
  capabilities := []

/-- The node cannot join with a message, and joins with a dict. -/
theorem join_without_capabilities_raises :
    ((JoinCluster 0 (.object (join_fields sample_join))).call { local_node_id := "edge-1" }).1 = .error .AttributeError ∧
      ((JoinCluster 0 (.dict (join_fields sample_join))).call { local_node_id := "edge-1" }).2.nodes.keys = ["edge-2"] ∧
      ¬ Agree (JoinCluster 0 (.object (join_fields sample_join))) (JoinCluster 0 (.dict (join_fields sample_join)))
        { local_node_id := "edge-1" } := by
  have hraises : ((JoinCluster 0 (.object (join_fields sample_join))).call { local_node_id := "edge-1" }).1 =
      .error .AttributeError := rfl
  refine ⟨hraises, rfl, ?_⟩
  rintro ⟨_, response, hresponse⟩
  cases hraises.symm.trans hresponse

end gateway.coordination_servicer.representation
