import EdgeGateway.DeviceManager.FirmwareService
import EdgeGateway.Library.JsonText.Dumps
import EdgeGateway.Library.PyDatetime

open JsonText

namespace gateway.device_manager.firmware_rollouts

open firmware_service (FirmwareVersion)

/-- A rollout record, which is also how the API shows it. -/
structure Rollout where
  rollout_id : String
  firmware_id : String
  firmware_version : String
  device_type : String
  target_devices : List String
  status : String
  started_at : String

namespace Rollout

def fields (rollout : Rollout) : List (String × TextField) :=
  [("rollout_id", .str rollout.rollout_id), ("firmware_id", .str rollout.firmware_id),
    ("firmware_version", .str rollout.firmware_version), ("device_type", .str rollout.device_type),
    ("target_devices", .strs rollout.target_devices), ("status", .str rollout.status), ("started_at", .str rollout.started_at)]

/-- The entry of `device_events` for the start of the rollout. -/
def event (rollout : Rollout) (timestamp : String) : List (String × String) :=
  [("event_type", "firmware_rollout_started"), ("rollout_id", rollout.rollout_id), ("firmware_id", rollout.firmware_id),
    ("firmware_version", rollout.firmware_version), ("device_type", rollout.device_type),
    ("target_devices", String.ofList (dumpsStrings rollout.target_devices)), ("timestamp", timestamp)]

end Rollout

def str? : JsonValue → Option String
  | .str s => some s
  | _ => none

def strs? : JsonValue → Option (List String)
  | .list items => items.mapM str?
  | _ => none

/-- `RolloutResponse(**rollout)`. -/
def response (rollout : JsonValue) : Option Rollout :=
  match rollout with
  | .dict items => do
    let rollout_id ← (items.lookup "rollout_id").bind str?
    let firmware_id ← (items.lookup "firmware_id").bind str?
    let firmware_version ← (items.lookup "firmware_version").bind str?
    let device_type ← (items.lookup "device_type").bind str?
    let target_devices ← (items.lookup "target_devices").bind strs?
    let status ← (items.lookup "status").bind str?
    let started_at ← (items.lookup "started_at").bind str?
    some { rollout_id, firmware_id, firmware_version, device_type, target_devices, status, started_at }
  | _ => none

theorem mapM_str (items : List String) : items.mapM (str? ∘ JsonValue.str) = some items := by
  induction items with
  | nil => rfl
  | cons item items ih => simp [ih, str?]

/-- A record is read back from its text. -/
theorem response_dumps (rollout : Rollout) : (loads (dumpsRecord rollout.fields)).bind response = some rollout := by
  have hnodup : (rollout.fields.map Prod.fst).Nodup := by simp [Rollout.fields]
  rw [loads_dumpsRecord (by simp [Rollout.fields]) hnodup, Option.bind_some]
  simp [Rollout.fields, response, TextField.value, strs?, mapM_str, str?, List.lookup_cons]

inductive Failure where
  | ValueError (message : String)
  | RedisError
  | JSONDecodeError
  | ValidationError

/-- What becomes of a command to Redis. -/
inductive Outcome where
  | done
  /-- It is carried out, but the connection is lost before the reply. -/
  | unanswered
  | failed
  deriving DecidableEq

/-- What the service does, one at a time. -/
inductive Op where
  /-- `select(FirmwareVersion).where(FirmwareVersion.id == firmware_id)`. -/
  | select (firmware_id : Uuid)
  | uuid4
  | now
  /-- SET of `json.dumps(rollout_record)`, for a day. -/
  | set (key : String) (rollout_record : Rollout)
  | stream_add (data : List (String × String))
  | get (key : String)

abbrev Op.Reply : Op → Type
  | .select _ => Option FirmwareVersion
  | .uuid4 => Uuid
  | .now => PyDatetime
  -- Whether Redis replies.
  | .set .. | .stream_add _ => Bool
  | .get _ => Option (Option String)

abbrev Operation (α : Type) := Program Op Op.Reply α

def rollout_key (rollout_id : String) : String := "firmware_rollout:" ++ rollout_id

/-- Initiate an OTA firmware rollout to a set of target devices. -/
def start_rollout (firmware_id : Uuid) (target_devices : List String) : Operation (Except Failure Rollout) := do
  match ← Program.op (Op.select firmware_id) with
  | none => return .error (.ValueError ("Firmware " ++ firmware_id.str ++ " not found."))
  | some firmware =>
    let rollout_id ← Program.op Op.uuid4
    let started_at ← Program.op Op.now
    let rollout_record : Rollout :=
      { rollout_id := rollout_id.str, firmware_id := firmware_id.str, firmware_version := firmware.version,
        device_type := firmware.device_type, target_devices, status := "in_progress", started_at := started_at.isoformat }
    if ← Program.op (Op.set (rollout_key rollout_id.str) rollout_record) then
      let timestamp ← Program.op Op.now
      if ← Program.op (Op.stream_add (rollout_record.event timestamp.isoformat)) then return .ok rollout_record
      else return .error .RedisError
    else return .error .RedisError

/-- The response for what Redis has of a rollout. -/
def shown (text : Option String) : Except Failure (Option Rollout) :=
  match text with
  | none => .ok none
  | some text =>
    match loads text with
    | none => .error .JSONDecodeError
    | some rollout =>
      match response rollout with
      | none => .error .ValidationError
      | some rollout => .ok (some rollout)

/-- Retrieve the current status of a firmware rollout. -/
def get_rollout_status (rollout_id : String) : Operation (Except Failure (Option Rollout)) := do
  match ← Program.op (Op.get (rollout_key rollout_id)) with
  | none => return .error .RedisError
  | some text => return shown text

/-- What PostgreSQL and Redis hold, with the ids that were given to calls and the records that were written. -/
structure Store where
  catalog : List FirmwareVersion
  keys : Dict String String
  device_events : List (List (String × String))
  issued : List (Uuid × ℕ)
  records : List Rollout

/-- What is open: the id that `uuid4` gives, the time, and what becomes of the command. -/
structure Choice where
  uuid : Uuid
  now : PyDatetime
  outcome : Outcome := .done

namespace Store

def perform (store : Store) (t : ℕ) (choice : Choice) : (op : Op) → Option (Store × op.Reply)
  | .select firmware_id => some (store, store.catalog.find? (·.id = firmware_id))
  -- `uuid4` gives no id twice.
  | .uuid4 =>
    if choice.uuid ∈ store.issued.map Prod.fst then none
    else some ({ store with issued := (choice.uuid, t) :: store.issued }, choice.uuid)
  | .now => some (store, choice.now)
  | .set key rollout_record =>
    if choice.outcome = .failed then some (store, false)
    else
      some ({ store with
        keys := store.keys.set key (dumpsRecord rollout_record.fields)
        records := rollout_record :: store.records }, decide (choice.outcome = .done))
  | .stream_add data =>
    if choice.outcome = .failed then some (store, false)
    else some ({ store with device_events := store.device_events ++ [data] }, decide (choice.outcome = .done))
  | .get key => some (store, if choice.outcome = .done then some (store.keys.get? key) else none)

end Store

inductive Call where
  | start_rollout (firmware_id : Uuid) (target_devices : List String)
  | get_rollout_status (rollout_id : String)
  /-- A new version is committed to the catalog. -/
  | register (firmware : FirmwareVersion)
  /-- A key expires, or is lost. -/
  | expire (key : String)
  /-- Another event is added to the stream. -/
  | publish (data : List (String × String))
  /-- The stream is trimmed. -/
  | trim (count : ℕ)

inductive Answer where
  | rollout (outcome : Except Failure Rollout)
  | status (rollout_id : String) (outcome : Except Failure (Option Rollout))
  | none

/-- An event that announces the start of the rollout. -/
def announces (rollout_id : String) (data : List (String × String)) : Bool :=
  data.lookup "event_type" = some "firmware_rollout_started" && data.lookup "rollout_id" = some rollout_id

/-- Any number of requests at once. -/
def requests : Threads ℕ Call Store Op Op.Reply Answer Choice where
  start store _
    | .start_rollout firmware_id target_devices =>
      some (store, do return .rollout (← start_rollout firmware_id target_devices))
    | .get_rollout_status rollout_id => some (store, do return .status rollout_id (← get_rollout_status rollout_id))
    | .register firmware =>
      if store.catalog.any fun other => other.id = firmware.id then none
      else some ({ store with catalog := store.catalog ++ [firmware] }, .ret .none)
    | .expire key => some ({ store with keys := store.keys.erase key }, .ret .none)
    | .publish data =>
      if data.lookup "event_type" = some "firmware_rollout_started" then none
      else some ({ store with device_events := store.device_events ++ [data] }, .ret .none)
    | .trim count => some ({ store with device_events := store.device_events.drop count }, .ret .none)
  perform store t op choice := store.perform t choice op
  finish store _ := store
  abort store _ := some store

abbrev State := Threads.State ℕ Store Op Op.Reply Answer
abbrev Action := Threads.Action ℕ Call Choice

/-- The runs from a catalog on, with no rollouts. -/
def system : TransitionSystem State Action :=
  requests.system fun store => store.keys = Dict.empty ∧ store.issued = [] ∧ store.records = [] ∧
    ∀ rollout_id, ∀ data ∈ store.device_events, announces rollout_id data = false

/-- The rollout is one of a version in the catalog. -/
def Genuine (catalog : List FirmwareVersion) (rollout : Rollout) : Prop :=
  ∃ firmware ∈ catalog, rollout.firmware_id = firmware.id.str ∧ rollout.firmware_version = firmware.version ∧
    rollout.device_type = firmware.device_type

/-- What Redis holds is of the records that were written, each under an id of its own. -/
structure Coherent (store : Store) : Prop where
  issued : (store.issued.map Prod.fst).Nodup
  genuine : ∀ rollout ∈ store.records, Genuine store.catalog rollout
  records_issued : ∀ rollout ∈ store.records, ∃ id ∈ store.issued.map Prod.fst, rollout.rollout_id = id.str
  records : (store.records.map Rollout.rollout_id).Nodup
  keys : ∀ key text, store.keys.get? key = some text →
    ∃ rollout ∈ store.records, key = rollout_key rollout.rollout_id ∧ text = dumpsRecord rollout.fields
  events : ∀ rollout_id, ∀ data ∈ store.device_events, announces rollout_id data = true →
    ∃ rollout ∈ store.records, ∃ timestamp, data = rollout.event timestamp
  announced : ∀ rollout_id, store.device_events.countP (announces rollout_id) ≤ 1

/-- The id was given to the call, which has not used it so far. -/
def Fresh (store : Store) (t : ℕ) (id : Uuid) : Prop :=
  (id, t) ∈ store.issued ∧ ∀ rollout ∈ store.records, rollout.rollout_id ≠ id.str

/-- The record of the call is written, and not announced so far. -/
def Unannounced (store : Store) (t : ℕ) (rollout : Rollout) : Prop :=
  rollout ∈ store.records ∧ (∃ id, (id, t) ∈ store.issued ∧ rollout.rollout_id = id.str) ∧
    store.device_events.countP (announces rollout.rollout_id) = 0

/-- How far a call is. -/
inductive Phase where
  | looking
  | found (firmware_id : Uuid) (firmware : FirmwareVersion)
  | named (firmware_id : Uuid) (firmware : FirmwareVersion) (id : Uuid)
  | dated (rollout : Rollout) (id : Uuid)
  | stored (rollout : Rollout)
  | announced (rollout : Rollout)
  | asking (rollout_id : String)
  | told (rollout_id : String) (text : Option String)
  | ended

def Phase.Holds (t : ℕ) (store : Store) : Phase → Prop
  | .looking | .asking _ | .ended => True
  | .found firmware_id firmware => firmware ∈ store.catalog ∧ firmware.id = firmware_id
  | .named firmware_id firmware id => firmware ∈ store.catalog ∧ firmware.id = firmware_id ∧ Fresh store t id
  | .dated rollout id => Genuine store.catalog rollout ∧ rollout.rollout_id = id.str ∧ Fresh store t id
  | .stored rollout => Unannounced store t rollout
  | .announced rollout => rollout ∈ store.records
  | .told rollout_id text => ∀ found, text = some found →
      ∃ rollout ∈ store.records, rollout.rollout_id = rollout_id ∧ found = dumpsRecord rollout.fields

/-- What a call does in its phases. -/
inductive Phase.Step : Phase → (op : Op) → op.Reply → Phase → Prop where
  | missing (firmware_id : Uuid) : Step .looking (.select firmware_id) none .ended
  | find (firmware_id : Uuid) (firmware : FirmwareVersion) :
    Step .looking (.select firmware_id) (some firmware) (.found firmware_id firmware)
  | name (firmware_id : Uuid) (firmware : FirmwareVersion) (id : Uuid) :
    Step (.found firmware_id firmware) .uuid4 id (.named firmware_id firmware id)
  | date (firmware_id : Uuid) (firmware : FirmwareVersion) (id : Uuid) (now : PyDatetime) (rollout : Rollout)
    (hid : rollout.rollout_id = id.str) (hfirmware : rollout.firmware_id = firmware_id.str)
    (hversion : rollout.firmware_version = firmware.version) (htype : rollout.device_type = firmware.device_type) :
    Step (.named firmware_id firmware id) .now now (.dated rollout id)
  | store (rollout : Rollout) (id : Uuid) :
    Step (.dated rollout id) (.set (rollout_key rollout.rollout_id) rollout) true (.stored rollout)
  | unstored (rollout : Rollout) (id : Uuid) :
    Step (.dated rollout id) (.set (rollout_key rollout.rollout_id) rollout) false .ended
  | wait (rollout : Rollout) (now : PyDatetime) : Step (.stored rollout) .now now (.stored rollout)
  | announce (rollout : Rollout) (timestamp : String) :
    Step (.stored rollout) (.stream_add (rollout.event timestamp)) true (.announced rollout)
  | unannounced (rollout : Rollout) (timestamp : String) :
    Step (.stored rollout) (.stream_add (rollout.event timestamp)) false .ended
  | tell (rollout_id : String) (text : Option String) :
    Step (.asking rollout_id) (.get (rollout_key rollout_id)) (some text) (.told rollout_id text)
  | untold (rollout_id : String) : Step (.asking rollout_id) (.get (rollout_key rollout_id)) none .ended

def Phase.final : Phase → Answer → Prop
  | .announced rollout, answer => answer = .rollout (.ok rollout)
  | .told rollout_id text, answer => answer = .status rollout_id (shown text)
  | .ended, answer => (∃ e, answer = .rollout (.error e)) ∨ (∃ rollout_id, answer = .status rollout_id (.error .RedisError)) ∨
      answer = .none
  | _, _ => False

def step (_ : ℕ) : Phase → (op : Op) → op.Reply → Phase → Prop := Phase.Step
def final (_ : ℕ) : Phase → Answer → Prop := Phase.final
def holds (t : ℕ) (phase : Phase) (store : Store) : Prop := Coherent store ∧ phase.Holds t store
def idle (_ : ℕ) (store : Store) : Prop := Coherent store

theorem start_rollout_conforms (firmware_id : Uuid) (target_devices : List String) :
    ((do return .rollout (← start_rollout firmware_id target_devices) : Operation Answer)).Conforms Phase.Step Phase.final
      .looking := by
  intro found
  cases found with
  | none => exact ⟨.ended, .missing firmware_id, .inl ⟨_, rfl⟩⟩
  | some firmware =>
    refine ⟨.found firmware_id firmware, .find firmware_id firmware, fun id => ?_⟩
    refine ⟨.named firmware_id firmware id, .name firmware_id firmware id, fun started_at => ?_⟩
    let rollout : Rollout :=
      { rollout_id := id.str, firmware_id := firmware_id.str, firmware_version := firmware.version,
        device_type := firmware.device_type, target_devices, status := "in_progress", started_at := started_at.isoformat }
    refine ⟨.dated rollout id, .date firmware_id firmware id started_at rollout rfl rfl rfl rfl, fun replied => ?_⟩
    cases replied with
    | false => exact ⟨.ended, .unstored rollout id, .inl ⟨_, rfl⟩⟩
    | true =>
      refine ⟨.stored rollout, .store rollout id, fun timestamp => ?_⟩
      refine ⟨.stored rollout, .wait rollout timestamp, fun replied => ?_⟩
      cases replied with
      | false => exact ⟨.ended, .unannounced rollout timestamp.isoformat, .inl ⟨_, rfl⟩⟩
      | true => exact ⟨.announced rollout, .announce rollout timestamp.isoformat, rfl⟩

theorem get_rollout_status_conforms (rollout_id : String) :
    ((do return .status rollout_id (← get_rollout_status rollout_id) : Operation Answer)).Conforms Phase.Step Phase.final
      (.asking rollout_id) := by
  intro reply
  cases reply with
  | none => exact ⟨.ended, .untold rollout_id, .inr (.inl ⟨_, rfl⟩)⟩
  | some text =>
    exact ⟨.told rollout_id text, .tell rollout_id text, rfl⟩

section Announces

variable {rollout : Rollout} {rollout_id timestamp : String}

theorem announces_event : announces rollout_id (rollout.event timestamp) = true ↔ rollout.rollout_id = rollout_id := by
  simp [announces, Rollout.event, List.lookup_cons]

end Announces

theorem rollout_key_injective {rollout_id rollout_id' : String} (h : rollout_key rollout_id = rollout_key rollout_id') :
    rollout_id = rollout_id' := by
  have htext := congrArg String.toList h
  simp only [rollout_key, String.toList_append] at htext
  exact String.toList_injective (List.append_cancel_left htext)

/-- What the store may gain and lose while a call waits. -/
structure Grows (t : ℕ) (store store' : Store) : Prop where
  catalog : store.catalog ⊆ store'.catalog
  issued : store.issued ⊆ store'.issued
  records : store.records ⊆ store'.records
  fresh : ∀ id, Fresh store t id → Fresh store' t id
  announced : ∀ id, (id, t) ∈ store.issued → store.device_events.countP (announces id.str) = 0 →
    store'.device_events.countP (announces id.str) = 0

variable {t : ℕ} {store store' : Store}

theorem Genuine.mono {catalog catalog' : List FirmwareVersion} {rollout : Rollout} (h : Genuine catalog rollout)
    (hsub : catalog ⊆ catalog') : Genuine catalog' rollout := by
  obtain ⟨firmware, hmem, hfields⟩ := h
  exact ⟨firmware, hsub hmem, hfields⟩

/-- What a call knows, it still knows when it goes on. -/
theorem Grows.holds (h : Grows t store store') {phase : Phase} (hholds : phase.Holds t store) : phase.Holds t store' := by
  cases phase with
  | looking | asking | ended => trivial
  | found firmware_id firmware => exact ⟨h.catalog hholds.1, hholds.2⟩
  | named firmware_id firmware id => exact ⟨h.catalog hholds.1, hholds.2.1, h.fresh id hholds.2.2⟩
  | dated rollout id => exact ⟨hholds.1.mono h.catalog, hholds.2.1, h.fresh id hholds.2.2⟩
  | stored rollout =>
    obtain ⟨hrecord, ⟨id, hid, heq⟩, hcount⟩ := hholds
    refine ⟨h.records hrecord, ⟨id, h.issued hid, heq⟩, ?_⟩
    rw [heq] at hcount ⊢
    exact h.announced id hid hcount
  | announced rollout => exact h.records hholds
  | told rollout_id text =>
    intro found hfound
    obtain ⟨rollout, hrollout, hrest⟩ := hholds found hfound
    exact ⟨rollout, h.records hrollout, hrest⟩

theorem Grows.refl (t : ℕ) (store : Store) : Grows t store store :=
  ⟨fun _ h => h, fun _ h => h, fun _ h => h, fun _ h => h, fun _ _ h => h⟩

/-- An id is of one call only. -/
theorem Coherent.owner_unique (h : Coherent store) {id : Uuid} {t u : ℕ} (ht : (id, t) ∈ store.issued)
    (hu : (id, u) ∈ store.issued) : t = u := by
  have heq := List.inj_on_of_nodup_map h.issued ht hu rfl
  exact (Prod.mk.inj heq).2

section Effects

variable {firmware : FirmwareVersion} {key : String} {data : List (String × String)} {id : Uuid} {rollout : Rollout} {u : ℕ}

theorem Coherent.register (h : Coherent store) :
    Coherent { store with catalog := store.catalog ++ [firmware] } ∧
      Grows u store { store with catalog := store.catalog ++ [firmware] } := by
  have hsub : store.catalog ⊆ store.catalog ++ [firmware] := List.subset_append_left _ _
  refine ⟨{ h with genuine := fun rollout hrollout => (h.genuine rollout hrollout).mono hsub }, ?_⟩
  exact { Grows.refl u store with catalog := hsub, fresh := fun _ hfresh => hfresh }

theorem Coherent.expire (h : Coherent store) :
    Coherent { store with keys := store.keys.erase key } ∧ Grows u store { store with keys := store.keys.erase key } := by
  refine ⟨{ h with keys := fun key' text hkey => ?_ }, { Grows.refl u store with fresh := fun _ hfresh => hfresh }⟩
  rw [Dict.get?_erase] at hkey
  split at hkey
  · cases hkey
  · exact h.keys key' text hkey

theorem Coherent.publish (h : Coherent store) (hdata : data.lookup "event_type" ≠ some "firmware_rollout_started") :
    Coherent { store with device_events := store.device_events ++ [data] } ∧
      Grows u store { store with device_events := store.device_events ++ [data] } := by
  have hsilent : ∀ rollout_id, announces rollout_id data = false := by
    intro rollout_id
    simp [announces, hdata]
  have hcount : ∀ rollout_id, (store.device_events ++ [data]).countP (announces rollout_id) =
      store.device_events.countP (announces rollout_id) := by
    intro rollout_id
    simp [List.countP_append, hsilent]
  refine ⟨{ h with events := fun rollout_id event hevent hannounces => ?_, announced := fun rollout_id => ?_ },
    { Grows.refl u store with fresh := fun _ hfresh => hfresh, announced := fun id _ hzero => ?_ }⟩
  · obtain hold | hnew := List.mem_append.mp hevent
    · exact h.events rollout_id event hold hannounces
    · rw [List.mem_singleton.mp hnew, hsilent] at hannounces
      cases hannounces
  · exact (hcount rollout_id).trans_le (h.announced rollout_id)
  · exact (hcount id.str).trans hzero

theorem Coherent.trim (h : Coherent store) (count : ℕ) :
    Coherent { store with device_events := store.device_events.drop count } ∧
      Grows u store { store with device_events := store.device_events.drop count } := by
  have hcount : ∀ rollout_id, (store.device_events.drop count).countP (announces rollout_id) ≤
      store.device_events.countP (announces rollout_id) := fun _ => (List.drop_sublist _ _).countP_le
  refine ⟨{ h with events := fun rollout_id event hevent => ?_, announced := fun rollout_id => ?_ },
    { Grows.refl u store with fresh := fun _ hfresh => hfresh, announced := fun id _ hzero => ?_ }⟩
  · exact h.events rollout_id event (List.mem_of_mem_drop hevent)
  · exact (hcount rollout_id).trans (h.announced rollout_id)
  · exact Nat.le_zero.mp ((hcount id.str).trans hzero.le)

theorem Coherent.issue (h : Coherent store) (t : ℕ) (hnew : id ∉ store.issued.map Prod.fst) :
    Coherent { store with issued := (id, t) :: store.issued } ∧
      Grows u store { store with issued := (id, t) :: store.issued } := by
  refine ⟨{ h with issued := ?_, records_issued := fun rollout hrollout => ?_ },
    { Grows.refl u store with
      issued := List.subset_cons_self _ _
      fresh := fun id' hfresh => ⟨List.mem_cons_of_mem _ hfresh.1, hfresh.2⟩ }⟩
  · rw [List.map_cons]
    exact List.nodup_cons.mpr ⟨hnew, h.issued⟩
  · obtain ⟨id', hid', heq⟩ := h.records_issued rollout hrollout
    exact ⟨id', List.mem_cons_of_mem _ hid', heq⟩

/-- The call writes its record. -/
theorem Coherent.write (h : Coherent store) (hgenuine : Genuine store.catalog rollout) (hid : rollout.rollout_id = id.str)
    (hfresh : Fresh store t id) :
    Coherent { store with
      keys := store.keys.set (rollout_key rollout.rollout_id) (dumpsRecord rollout.fields)
      records := rollout :: store.records } := by
  refine { h with
    genuine := List.forall_mem_cons.mpr ⟨hgenuine, h.genuine⟩
    records_issued := List.forall_mem_cons.mpr ⟨⟨id, List.mem_map.mpr ⟨_, hfresh.1, rfl⟩, hid⟩, h.records_issued⟩
    records := ?_
    keys := fun key text hkey => ?_
    events := fun rollout_id event hevent hannounces => ?_ }
  · rw [List.map_cons]
    refine List.nodup_cons.mpr ⟨fun hmem => ?_, h.records⟩
    obtain ⟨other, hother, heq⟩ := List.mem_map.mp hmem
    exact hfresh.2 other hother (heq.trans hid)
  · rw [Dict.get?_set] at hkey
    split at hkey
    · rename_i hsame
      cases hkey
      exact ⟨rollout, List.mem_cons_self, hsame, rfl⟩
    · obtain ⟨other, hother, hrest⟩ := h.keys key text hkey
      exact ⟨other, List.mem_cons_of_mem _ hother, hrest⟩
  · obtain ⟨other, hother, hrest⟩ := h.events rollout_id event hevent hannounces
    exact ⟨other, List.mem_cons_of_mem _ hother, hrest⟩

theorem Coherent.write_others (h : Coherent store) (hid : rollout.rollout_id = id.str) (hfresh : Fresh store t id)
    (hu : u ≠ t) (keys : Dict String String) : Grows u store { store with keys, records := rollout :: store.records } := by
  refine { Grows.refl u store with
    records := List.subset_cons_self _ _
    fresh := fun id' hfresh' => ⟨hfresh'.1, List.forall_mem_cons.mpr ⟨fun heq => ?_, hfresh'.2⟩⟩ }
  obtain rfl := Uuid.str_injective (hid.symm.trans heq)
  exact hu (h.owner_unique hfresh'.1 hfresh.1)

/-- The call announces its record. -/
theorem Coherent.announce (h : Coherent store) (hrollout : Unannounced store t rollout) (timestamp : String) :
    Coherent { store with device_events := store.device_events ++ [rollout.event timestamp] } := by
  obtain ⟨hrecord, -, hzero⟩ := hrollout
  refine { h with events := fun rollout_id event hevent hannounces => ?_, announced := fun rollout_id => ?_ }
  · obtain hold | hnew := List.mem_append.mp hevent
    · exact h.events rollout_id event hold hannounces
    · exact ⟨rollout, hrecord, timestamp, List.mem_singleton.mp hnew⟩
  · rw [List.countP_append, List.countP_singleton]
    by_cases hown : rollout.rollout_id = rollout_id
    · rw [if_pos (announces_event.mpr hown), ← hown, hzero]
    · rw [if_neg fun hannounces => hown (announces_event.mp hannounces)]
      exact h.announced rollout_id

theorem Coherent.announce_others (h : Coherent store) (hrollout : Unannounced store t rollout) (timestamp : String)
    (hu : u ≠ t) : Grows u store { store with device_events := store.device_events ++ [rollout.event timestamp] } := by
  obtain ⟨-, ⟨id, hid, heq⟩, -⟩ := hrollout
  refine { Grows.refl u store with fresh := fun _ hfresh => hfresh, announced := fun id' hid' hzero => ?_ }
  have hother : ¬ announces id'.str (rollout.event timestamp) = true := by
    intro hannounces
    obtain rfl := Uuid.str_injective (heq.symm.trans (announces_event.mp hannounces))
    exact hu (h.owner_unique hid' hid)
  rw [List.countP_append, List.countP_singleton, if_neg hother, hzero]

end Effects

/-- A command that writes is carried out, or it fails without a reply. -/
theorem Store.set_cases {choice : Choice} {key : String} {rollout : Rollout} {replied : Bool}
    (h : store.perform t choice (.set key rollout) = some (store', replied)) : store' = store ∧ replied = false ∨
      store' = { store with keys := store.keys.set key (dumpsRecord rollout.fields), records := rollout :: store.records } := by
  simp only [Store.perform] at h
  split at h
  · cases h
    exact .inl ⟨rfl, rfl⟩
  · cases h
    exact .inr rfl

theorem Store.stream_add_cases {choice : Choice} {data : List (String × String)} {replied : Bool}
    (h : store.perform t choice (.stream_add data) = some (store', replied)) : store' = store ∧ replied = false ∨
      store' = { store with device_events := store.device_events ++ [data] } := by
  simp only [Store.perform] at h
  split at h
  · cases h
    exact .inl ⟨rfl, rfl⟩
  · cases h
    exact .inr rfl

/-- What a step of a call does to the store, to the call and to the others. -/
theorem Coherent.step (h : Coherent store) {choice : Choice} {op : Op} {reply : op.Reply} {phase phase' : Phase}
    (hperform : store.perform t choice op = some (store', reply)) (hstep : phase.Step op reply phase')
    (hholds : phase.Holds t store) :
    Coherent store' ∧ phase'.Holds t store' ∧ ∀ u, u ≠ t → Grows u store store' := by
  cases hstep with
  | missing | untold =>
    simp only [Store.perform, Option.some.injEq, Prod.mk.injEq] at hperform
    obtain ⟨rfl, -⟩ := hperform
    exact ⟨h, trivial, fun u _ => .refl u store⟩
  | find firmware_id firmware =>
    simp only [Store.perform, Option.some.injEq, Prod.mk.injEq] at hperform
    obtain ⟨rfl, hfound⟩ := hperform
    have hid : firmware.id = firmware_id := by simpa using List.find?_some hfound
    exact ⟨h, ⟨List.mem_of_find?_eq_some hfound, hid⟩, fun u _ => .refl u store⟩
  | name firmware_id firmware id =>
    simp only [Store.perform, Option.ite_none_left_eq_some, Option.some.injEq, Prod.mk.injEq] at hperform
    obtain ⟨hnew, rfl, rfl⟩ := hperform
    refine ⟨(h.issue (u := t) t hnew).1, ⟨hholds.1, hholds.2, List.mem_cons_self, fun rollout hrollout heq => ?_⟩,
      fun u _ => (h.issue t hnew).2⟩
    obtain ⟨id', hid', heq'⟩ := h.records_issued rollout hrollout
    obtain rfl := Uuid.str_injective (heq'.symm.trans heq)
    exact hnew hid'
  | date firmware_id firmware id now rollout hid hfirmware hversion htype =>
    cases hperform
    obtain ⟨hmem, hsame, hfresh⟩ := hholds
    exact ⟨h, ⟨⟨firmware, hmem, hsame ▸ hfirmware, hversion, htype⟩, hid, hfresh⟩, fun u _ => .refl u store⟩
  | store rollout id =>
    obtain ⟨hgenuine, hid, hfresh⟩ := hholds
    obtain ⟨-, hreplied⟩ | rfl := Store.set_cases hperform
    · cases hreplied
    have hzero : store.device_events.countP (announces rollout.rollout_id) = 0 := by
      refine List.countP_eq_zero.mpr fun data hdata hannounces => ?_
      obtain ⟨other, hother, timestamp, rfl⟩ := h.events _ data hdata hannounces
      exact hfresh.2 other hother ((announces_event.mp hannounces).trans hid)
    refine ⟨h.write hgenuine hid hfresh, ⟨List.mem_cons_self, ⟨id, hfresh.1, hid⟩, hzero⟩, fun u hu => ?_⟩
    exact h.write_others hid hfresh hu _
  | unstored rollout id =>
    obtain ⟨hgenuine, hid, hfresh⟩ := hholds
    obtain ⟨rfl, -⟩ | rfl := Store.set_cases hperform
    · exact ⟨h, trivial, fun u _ => .refl u store'⟩
    · exact ⟨h.write hgenuine hid hfresh, trivial, fun u hu => h.write_others hid hfresh hu _⟩
  | wait rollout now =>
    cases hperform
    exact ⟨h, hholds, fun u _ => .refl u store⟩
  | announce rollout timestamp =>
    obtain ⟨-, hreplied⟩ | rfl := Store.stream_add_cases hperform
    · cases hreplied
    exact ⟨h.announce hholds timestamp, hholds.1, fun u hu => h.announce_others hholds timestamp hu⟩
  | unannounced rollout timestamp =>
    obtain ⟨rfl, -⟩ | rfl := Store.stream_add_cases hperform
    · exact ⟨h, trivial, fun u _ => .refl u store'⟩
    · exact ⟨h.announce hholds timestamp, trivial, fun u hu => h.announce_others hholds timestamp hu⟩
  | tell rollout_id text =>
    simp only [Store.perform, Option.some.injEq, Prod.mk.injEq, Option.ite_none_right_eq_some] at hperform
    obtain ⟨rfl, -, rfl⟩ := hperform
    refine ⟨h, fun found hfound => ?_, fun u _ => .refl u store⟩
    obtain ⟨rollout, hrollout, hkey, rfl⟩ := h.keys _ found hfound
    exact ⟨rollout, hrollout, (rollout_key_injective hkey).symm, rfl⟩

/-- What a call that is made does to the store and to the others. -/
theorem Coherent.start (h : Coherent store) {call : Call} {p : Operation Answer}
    (hstart : requests.start store t call = some (store', p)) :
    Coherent store' ∧ (∀ u, Grows u store store') ∧
      ∃ phase, p.Conforms Phase.Step Phase.final phase ∧ phase.Holds t store' := by
  cases call with
  | start_rollout firmware_id target_devices =>
    cases hstart
    exact ⟨h, fun u => .refl u store, .looking, start_rollout_conforms firmware_id target_devices, trivial⟩
  | get_rollout_status rollout_id =>
    cases hstart
    exact ⟨h, fun u => .refl u store, .asking rollout_id, get_rollout_status_conforms rollout_id, trivial⟩
  | register firmware =>
    simp only [requests, Option.ite_none_left_eq_some] at hstart
    obtain ⟨-, hstart⟩ := hstart
    cases hstart
    exact ⟨(h.register (u := t)).1, fun u => h.register.2, .ended, .inr (.inr rfl), trivial⟩
  | expire key =>
    cases hstart
    exact ⟨(h.expire (u := t)).1, fun u => h.expire.2, .ended, .inr (.inr rfl), trivial⟩
  | publish data =>
    simp only [requests, Option.ite_none_left_eq_some] at hstart
    obtain ⟨hsilent, hstart⟩ := hstart
    cases hstart
    exact ⟨(h.publish (u := t) hsilent).1, fun u => (h.publish hsilent).2, .ended, .inr (.inr rfl), trivial⟩
  | trim count =>
    cases hstart
    exact ⟨(h.trim (u := t) count).1, fun u => (h.trim count).2, .ended, .inr (.inr rfl), trivial⟩

theorem undisturbed_of_grows (h : Coherent store → Coherent store' ∧ Grows t store store') :
    Threads.Undisturbed holds idle t store store' :=
  ⟨fun _ hholds => ⟨(h hholds.1).1, (h hholds.1).2.holds hholds.2⟩, fun hidle => (h hidle).1⟩

theorem protocols : Threads.Protocols requests step final holds idle where
  start := by
    intro store t call store' p hstart hidle
    obtain ⟨hcoherent, -, phase, hconforms, hholds⟩ := Coherent.start hidle hstart
    exact ⟨phase, hconforms, hcoherent, hholds⟩
  perform := by
    intro store t op choice store' reply phase phase' hperform hstep hholds
    obtain ⟨hcoherent, hholds', -⟩ := hholds.1.step hperform hstep hholds.2
    exact ⟨hcoherent, hholds'⟩
  finish := by
    intro store t phase answer _ hholds
    exact hholds.1
  abort := by
    intro store t store' phase habort hholds
    cases habort
    exact hholds.1
  start_others := by
    intro store t call store' p u hstart _
    refine undisturbed_of_grows fun hcoherent => ?_
    obtain ⟨hcoherent', hothers, -⟩ := hcoherent.start hstart
    exact ⟨hcoherent', hothers u⟩
  perform_others := by
    intro store t op choice store' reply phase phase' u hperform hstep hholds hu
    obtain ⟨hcoherent, -, hothers⟩ := hholds.1.step hperform hstep hholds.2
    exact undisturbed_of_grows fun _ => ⟨hcoherent, hothers u hu⟩
  finish_others := by
    intro store t u _
    exact ⟨fun _ h => h, id⟩
  abort_others := by
    intro store t store' u habort _
    cases habort
    exact ⟨fun _ h => h, id⟩

section Runs

variable {s s' s'' : State} {choice choice' : Choice} {rollout : Rollout}

theorem coherent_initial : ∀ store : Store, (store.keys = Dict.empty ∧ store.issued = [] ∧ store.records = [] ∧
    ∀ rollout_id, ∀ data ∈ store.device_events, announces rollout_id data = false) → ∀ t, idle t store := by
  rintro ⟨catalog, keys, device_events, issued, records⟩ ⟨rfl, rfl, rfl, hsilent⟩ t
  refine ⟨List.nodup_nil, by simp, by simp, List.nodup_nil, ?_, fun rollout_id data hdata hannounces => ?_, fun rollout_id => ?_⟩
  · intro key text hkey
    cases hkey
  · rw [hsilent rollout_id data hdata] at hannounces
    cases hannounces
  · rw [List.countP_eq_zero.mpr fun data hdata => by simp [hsilent rollout_id data hdata]]
    exact Nat.zero_le 1

theorem coherent_reachable (h : system.Reachable s) : Coherent s.shared := by
  have hstands := protocols.reachable coherent_initial h 0
  cases hthread : s.threads 0 with
  | none =>
    rw [hthread] at hstands
    exact hstands
  | some p =>
    rw [hthread] at hstands
    obtain ⟨phase, -, hholds⟩ := hstands
    exact hholds.1

/-- The records that were written stay. -/
theorem records_steps (h : system.Reachable s) (hsteps : system.StepsWhere (fun _ _ => True) s s')
    (hrecord : rollout ∈ s.shared.records) : rollout ∈ s'.shared.records := by
  refine hsteps.keeps (P := fun s => rollout ∈ s.shared.records) ?_ h hrecord
  intro s a s' hreach _ hstep hrecord
  change requests.step s a = some s' at hstep
  have hcoherent := coherent_reachable hreach
  have hsettle : ∀ t store p, (requests.settle s t store p).shared = store := by
    intro t store p
    cases p <;> rfl
  cases a with
  | start t call =>
    obtain ⟨-, store, p, hcall, rfl⟩ := Threads.step_start hstep
    rw [hsettle]
    exact ((hcoherent.start hcall).2.1 t).records hrecord
  | perform t choice =>
    obtain ⟨op, next, store, reply, hthread, hperform, rfl⟩ := Threads.step_perform hstep
    have hstands := protocols.reachable coherent_initial hreach t
    rw [hthread] at hstands
    obtain ⟨phase, hconforms, hholds⟩ := hstands
    obtain ⟨phase', hallowed, -⟩ := hconforms reply
    rw [hsettle]
    exact ((hcoherent.step hperform hallowed hholds.2).2.2 (t + 1) (Nat.succ_ne_self t)).records hrecord
  | abort t =>
    obtain ⟨p, store, -, habort, rfl⟩ := Threads.step_abort hstep
    cases habort
    exact hrecord

/-- A rollout that was started is written, and has been announced with its last step. -/
theorem announced_of_returned (h : system.Reachable s)
    (hreturned : requests.returned s t choice = some (.rollout (.ok rollout)))
    (hstep : requests.step s (.perform t choice) = some s') :
    rollout ∈ s'.shared.records ∧ ∃ timestamp,
      s'.shared.device_events.filter (announces rollout.rollout_id) = [rollout.event timestamp] := by
  obtain ⟨phase, op, store, reply, phase', hholds, hperform, hallowed, hfinal, hshared⟩ :=
    protocols.returned coherent_initial h hreturned
  have hstore : s'.shared = store := hshared s' hstep
  change s.shared.perform t choice op = some (store, reply) at hperform
  cases hallowed with
  | announce rollout' timestamp =>
    cases (hfinal : Answer.rollout (.ok rollout) = .rollout (.ok rollout'))
    obtain ⟨-, hreplied⟩ | rfl := Store.stream_add_cases hperform
    · cases hreplied
    obtain ⟨hrecord, -, hzero⟩ := hholds.2
    rw [hstore]
    refine ⟨hrecord, timestamp, ?_⟩
    have hnone : s.shared.device_events.filter (announces rollout.rollout_id) = [] :=
      List.filter_eq_nil_iff.mpr (List.countP_eq_zero.mp hzero)
    rw [List.filter_append, hnone, List.nil_append, List.filter_singleton, announces_event.mpr rfl, cond_true]
  | missing | unstored | unannounced | untold =>
    obtain ⟨e, heq⟩ | ⟨rollout_id, heq⟩ | heq := hfinal <;> cases heq
  | tell rollout_id text => cases (hfinal : Answer.rollout (.ok rollout) = .status rollout_id (shown text))
  | _ => exact hfinal.elim

/-- What the status of a rollout can be. -/
theorem status_cases (h : system.Reachable s) {rollout_id : String} {outcome : Except Failure (Option Rollout)}
    (hreturned : requests.returned s t choice = some (.status rollout_id outcome)) :
    outcome = .error .RedisError ∨ outcome = .ok none ∨
      ∃ rollout ∈ s.shared.records, rollout.rollout_id = rollout_id ∧ outcome = .ok (some rollout) := by
  obtain ⟨phase, op, store, reply, phase', hholds, hperform, hallowed, hfinal, -⟩ :=
    protocols.returned coherent_initial h hreturned
  change s.shared.perform t choice op = some (store, reply) at hperform
  obtain ⟨-, hholds', -⟩ := hholds.1.step hperform hallowed hholds.2
  cases hallowed with
  | tell rollout_id' text =>
    cases (hfinal : Answer.status rollout_id outcome = .status rollout_id' (shown text))
    simp only [Store.perform, Option.some.injEq, Prod.mk.injEq] at hperform
    obtain ⟨rfl, -⟩ := hperform
    cases text with
    | none => exact .inr (.inl rfl)
    | some text =>
      obtain ⟨rollout, hrollout, hid, rfl⟩ := hholds' text rfl
      obtain ⟨value, hloads, hresponse⟩ := Option.bind_eq_some_iff.mp (response_dumps rollout)
      exact .inr (.inr ⟨rollout, hrollout, hid, by simp [shown, hloads, hresponse]⟩)
  | missing | unstored | unannounced | untold =>
    obtain ⟨e, heq⟩ | ⟨rollout_id', heq⟩ | heq := hfinal
    · cases heq
    · cases heq
      exact .inl rfl
    · cases heq
  | announce rollout timestamp => cases (hfinal : Answer.status rollout_id outcome = .rollout (.ok rollout))
  | _ => exact hfinal.elim

/-- Once a rollout is started, whatever is asked of it later is answered with that very record, until it expires. -/
theorem status_is_the_rollout (h : system.Reachable s)
    (hstarted : requests.returned s t choice = some (.rollout (.ok rollout)))
    (hstep : requests.step s (.perform t choice) = some s') (hsteps : system.StepsWhere (fun _ _ => True) s' s'') {u : ℕ}
    {outcome : Except Failure (Option Rollout)}
    (hstatus : requests.returned s'' u choice' = some (.status rollout.rollout_id outcome)) :
    outcome = .ok (some rollout) ∨ outcome = .ok none ∨ outcome = .error .RedisError := by
  have h' : system.Reachable s' := .step (a := .perform t choice) h trivial hstep
  have h'' := hsteps.reachable h'
  have hrecord := records_steps h' hsteps (announced_of_returned h hstarted hstep).1
  obtain hfailed | hnone | ⟨other, hother, hid, rfl⟩ := status_cases h'' hstatus
  · exact .inr (.inr hfailed)
  · exact .inr (.inl hnone)
  · rw [List.inj_on_of_nodup_map (coherent_reachable h'').records hother hrecord hid]
    exact .inl rfl

/-- A rollout that is started is one of a version of the catalog, and downstream services are told of it once. -/
theorem rollout_announced_once (h : system.Reachable s)
    (hstarted : requests.returned s t choice = some (.rollout (.ok rollout)))
    (hstep : requests.step s (.perform t choice) = some s') (hsteps : system.StepsWhere (fun _ _ => True) s' s'') :
    Genuine s'.shared.catalog rollout ∧
      (∃ timestamp, s'.shared.device_events.filter (announces rollout.rollout_id) = [rollout.event timestamp]) ∧
      s''.shared.device_events.countP (announces rollout.rollout_id) ≤ 1 ∧
      ∀ data ∈ s''.shared.device_events, announces rollout.rollout_id data = true →
        (∃ timestamp, data = rollout.event timestamp) ∧
          (data.lookup "target_devices").bind loads = some (.list (rollout.target_devices.map .str)) := by
  have h' : system.Reachable s' := .step (a := .perform t choice) h trivial hstep
  have hcoherent := coherent_reachable (hsteps.reachable h')
  obtain ⟨hrecord, hannounced⟩ := announced_of_returned h hstarted hstep
  refine ⟨(coherent_reachable h').genuine rollout hrecord, hannounced, hcoherent.announced _, fun data hdata hannounces => ?_⟩
  obtain ⟨other, hother, timestamp, rfl⟩ := hcoherent.events _ data hdata hannounces
  have hid : other.rollout_id = rollout.rollout_id := announces_event.mp hannounces
  obtain rfl := List.inj_on_of_nodup_map hcoherent.records hother (records_steps h' hsteps hrecord) hid
  refine ⟨⟨timestamp, rfl⟩, ?_⟩
  simp [Rollout.event, List.lookup_cons, loads_dumpsStrings]

end Runs

section Image

def noon : PyDatetime :=
  ⟨{ year := 2025, month := 1, day := 1, time := ⟨12, 0, 0, 0⟩, utcoffset := some (false, ⟨0, 0, 0, 0⟩) }, by decide⟩

def image : FirmwareVersion :=
  { id := 1, version := "2.0.0", device_type := "temperature", checksum := "9f86d081"
    file_url := "s3://firmware/temperature.bin", release_notes := none, created_at := 0 }

/-- One version, and no rollouts. -/
def one_version : State where
  shared := { catalog := [image], keys := Dict.empty, device_events := [], issued := [], records := [] }
  threads _ := none

theorem initial_one_version : system.initial one_version := by
  refine ⟨⟨rfl, rfl, rfl, fun rollout_id data hdata => ?_⟩, fun _ => rfl⟩
  cases hdata

def calm : Choice := { uuid := 7, now := noon }

def image_rollout : Rollout where
  rollout_id := Uuid.str 7
  firmware_id := Uuid.str 1
  firmware_version := "2.0.0"
  device_type := "temperature"
  target_devices := ["a", "b"]
  status := "in_progress"
  started_at := noon.isoformat

/-- A call of `start_rollout` up to its last step. -/
def starting : List Action := .start 0 (.start_rollout 1 ["a", "b"]) :: List.replicate 5 (.perform 0 calm)

/-- A rollout is started, and then asked for. -/
theorem rollout_started : ∃ s s' s'', system.Reachable s ∧
    requests.returned s 0 calm = some (.rollout (.ok image_rollout)) ∧ requests.step s (.perform 0 calm) = some s' ∧
      requests.step s' (.start 1 (.get_rollout_status image_rollout.rollout_id)) = some s'' ∧
      requests.returned s'' 1 calm =
        some (.status image_rollout.rollout_id (shown (some (dumpsRecord image_rollout.fields)))) := by
  have hrun : ∃ s s' s'', system.replay (fun _ _ => true) one_version starting = some s ∧
      requests.returned s 0 calm = some (.rollout (.ok image_rollout)) ∧ requests.step s (.perform 0 calm) = some s' ∧
        requests.step s' (.start 1 (.get_rollout_status image_rollout.rollout_id)) = some s'' ∧
        requests.returned s'' 1 calm =
          some (.status image_rollout.rollout_id (shown (some (dumpsRecord image_rollout.fields)))) :=
    ⟨_, _, _, rfl, rfl, rfl, rfl, rfl⟩
  obtain ⟨s, s', s'', hreplay, hrest⟩ := hrun
  exact ⟨s, s', s'', TransitionSystem.replay_reachable (fun _ _ _ => trivial) (.initial initial_one_version) hreplay, hrest⟩

theorem status_is_the_rollout_image : ∃ (s'' : State) (outcome : Except Failure (Option Rollout)),
    requests.returned s'' 1 calm = some (.status image_rollout.rollout_id outcome) ∧
      (outcome = .ok (some image_rollout) ∨ outcome = .ok none ∨ outcome = .error .RedisError) := by
  obtain ⟨s, s', s'', hreach, hstarted, hstep, hasked, hstatus⟩ := rollout_started
  have hsteps : system.StepsWhere (fun _ _ => True) s' s'' :=
    .step (a := .start 1 (.get_rollout_status image_rollout.rollout_id)) .refl trivial hasked
  exact ⟨s'', _, hstatus, status_is_the_rollout hreach hstarted hstep hsteps hstatus⟩

theorem rollout_announced_once_image : ∃ (s' : State) (timestamp : String),
    s'.shared.device_events.filter (announces image_rollout.rollout_id) = [image_rollout.event timestamp] ∧
      Genuine s'.shared.catalog image_rollout := by
  obtain ⟨s, s', s'', hreach, hstarted, hstep, -⟩ := rollout_started
  obtain ⟨hgenuine, ⟨timestamp, hevents⟩, -⟩ := rollout_announced_once hreach hstarted hstep .refl
  exact ⟨s', timestamp, hevents, hgenuine⟩

end Image

end gateway.device_manager.firmware_rollouts
