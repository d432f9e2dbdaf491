import EdgeGateway.Library.Paging
import EdgeGateway.Library.Sessions
import EdgeGateway.Library.Uuid

open Paging

namespace gateway.device_manager.firmware_service

/-- A row of the table `firmware_versions`. -/
structure FirmwareVersion where
  id : Uuid
  version : String
  device_type : String
  checksum : String
  file_url : String
  release_notes : Option String
  created_at : ℤ

/-- Body for registering a new firmware version. -/
structure FirmwareCreateBody where
  version : String
  device_type : String
  checksum : String
  file_url : String
  release_notes : Option String := none

/-- The texts are no longer than their columns. -/
def FirmwareCreateBody.fits (body : FirmwareCreateBody) : Bool :=
  body.version.length ≤ 50 && body.device_type.length ≤ 100 && body.checksum.length ≤ 128

/-- The row of a new version, with the time that `_utcnow` gives. -/
def FirmwareCreateBody.row (id : Uuid) (body : FirmwareCreateBody) (now : ℤ) : FirmwareVersion :=
  { id
    version := body.version
    device_type := body.device_type
    checksum := body.checksum
    file_url := body.file_url
    release_notes := body.release_notes
    created_at := now }

inductive Failure where
  | ValueError (message : String)
  | MultipleResultsFound
  | IntegrityError
  | DataError
  | InvalidRequestError

/-- `scalar_one_or_none`. -/
def scalar_one_or_none : List FirmwareVersion → Except Failure (Option FirmwareVersion)
  | [] => .ok none
  | [row] => .ok (some row)
  | _ => .error .MultipleResultsFound

/-- What a call does in a session of its own, which its exceptions close. -/
abbrev Operation (α : Type) := Session Uuid FirmwareVersion ℤ α

/-- The WHERE clauses of the check for duplicates. -/
def duplicates (version device_type : String) (row : FirmwareVersion) : Bool :=
  decide (row.version = version) && decide (row.device_type = device_type)

/-- Register a new firmware version in the catalog, under the id that `uuid4` gives. -/
def register_firmware (id : Uuid) (body : FirmwareCreateBody) : Operation (Except Failure FirmwareVersion) := do
  match scalar_one_or_none (← Sessions.execute (.select_where (duplicates body.version body.device_type))) with
  | .error e => return .error e
  | .ok (some _) => return .error (.ValueError
      ("Firmware version " ++ body.version ++ " for device type " ++ body.device_type ++ " already exists."))
  | .ok none =>
    if body.fits then
      if ← Sessions.execute (.insert id (body.row id)) then
        Sessions.execute .commit
        match ← Sessions.execute (.select id) with
        | some firmware => return .ok firmware
        | none => return .error .InvalidRequestError
      else return .error .IntegrityError
    else return .error .DataError

/-- What a call reads in a session of its own. -/
abbrev Reading (α : Type) := Sessions.Reader Uuid FirmwareVersion α

/-- List firmware versions, optionally filtered by device type. -/
def list_firmware (order_by : OrderBy FirmwareVersion.created_at) (device_type : Option String) :
    Reading (List FirmwareVersion) := do
  let rows ← Sessions.read (.select_where fun row => device_type.all (row.device_type = ·))
  return order_by.sort rows

/-- A call of `register_firmware` with its outcome. -/
structure Registration where
  id : Uuid
  body : FirmwareCreateBody
  outcome : Except Failure FirmwareVersion

/-- Register a new firmware version in the catalog. -/
def operation (call : Uuid × FirmwareCreateBody) : Operation Registration := do
  let outcome ← register_firmware call.1 call.2
  return { id := call.1, body := call.2, outcome }

/-- The status of the response. -/
def Registration.status_code (registration : Registration) : ℕ :=
  match registration.outcome with
  | .ok _ => 201
  | .error (.ValueError _) => 409
  | .error _ => 500

/-- No version ever changes, and no two have one type and number. -/
def schema : TableSchema Uuid FirmwareVersion (String × String) where
  key := FirmwareVersion.id
  index row := (row.device_type, row.version)
  Follows row row' := row' = row
  refl _ := rfl
  trans h h' := h'.trans h
  key_eq h := congrArg _ h
  index_eq h := by rw [h]

abbrev State := Sessions.State Uuid FirmwareVersion ℤ Registration
abbrev Action := Sessions.Action (Uuid × FirmwareCreateBody) ℤ

/-- Any number of registrations at once. -/
def registrations : Threads ℕ (Uuid × FirmwareCreateBody) (Table Uuid FirmwareVersion)
    (Sessions.Statement Uuid FirmwareVersion ℤ) Sessions.Statement.Reply Registration ℤ :=
  Sessions.threads schema operation

def system : TransitionSystem State Action := Sessions.system schema operation

theorem operation_lawful (call : Uuid × FirmwareCreateBody) : (operation call).Always (Sessions.Lawful schema) := by
  obtain ⟨id, body⟩ := call
  refine Sessions.Lawful.bind ?_ fun outcome => trivial
  refine Sessions.Lawful.bind ⟨trivial, fun _ => trivial⟩ fun rows => ?_
  split
  · trivial
  · trivial
  · split
    · refine Sessions.Lawful.bind ⟨fun _ => rfl, fun _ => trivial⟩ fun inserted => ?_
      split
      · refine ⟨trivial, fun _ => ⟨trivial, fun found => ?_⟩⟩
        cases found <;> trivial
      · trivial
    · trivial

/-- The catalog has a version of the type and number. -/
def Cataloged (body : FirmwareCreateBody) (table : Table Uuid FirmwareVersion) : Prop :=
  ∃ id row, table.committed id = some row ∧ duplicates body.version body.device_type row = true

/-- What an outcome says of the catalog. -/
def Told (id : Uuid) (body : FirmwareCreateBody) (table : Table Uuid FirmwareVersion) : Except Failure FirmwareVersion → Prop
  | .ok firmware => table.committed id = some firmware ∧ ∃ now, firmware = body.row id now
  | .error (.ValueError _) | .error .IntegrityError => Cataloged body table
  | .error .DataError => body.fits = false
  | .error .MultipleResultsFound | .error .InvalidRequestError => False

theorem index_of_duplicates {version device_type : String} (row : FirmwareVersion)
    (h : duplicates version device_type row = true) : schema.index row = (device_type, version) := by
  obtain ⟨hversion, htype⟩ := Bool.and_eq_true_iff.mp h
  exact Prod.ext (of_decide_eq_true htype) (of_decide_eq_true hversion)

theorem duplicates_of_index {body : FirmwareCreateBody} {id : Uuid} {now : ℤ} {row : FirmwareVersion}
    (h : schema.index row = schema.index (body.row id now)) : duplicates body.version body.device_type row = true := by
  obtain ⟨htype, hversion⟩ := Prod.mk.inj h
  exact Bool.and_eq_true_iff.mpr ⟨decide_eq_true hversion, decide_eq_true htype⟩

variable {tx : ℕ} {table : Table Uuid FirmwareVersion}

theorem register_firmware_ensures (hclean : Sessions.Clean tx table) (id : Uuid) (body : FirmwareCreateBody) :
    Sessions.Ensures schema operation tx (fun outcome table => Told id body table outcome) (register_firmware id body) table := by
  intro seen _ table' rows hrelies hcoherent hselect
  cases hselect
  have hseen := hclean.relies hrelies
  rw [hseen.selectWhere_eq]
  obtain hnone | ⟨k, row, hone, hrow, hduplicate⟩ :=
    hcoherent.rows_cases index_of_duplicates
  · rw [hnone]
    change Sessions.Ensures schema operation tx _ (if body.fits then _ else _ : Operation (Except Failure FirmwareVersion)) seen
    split
    · intro seen' now inserted reply hrelies' hcoherent' hinsert
      cases reply with
      | false =>
        obtain ⟨rfl, hcontested, htaken⟩ := Sessions.taken_of_false hinsert
        obtain ⟨k, row, hrow, hindex⟩ := hcoherent'.committed_of_taken (hseen.relies hrelies') hcontested htaken
        exact ⟨k, row, hrow, duplicates_of_index hindex⟩
      | true =>
        obtain ⟨-, -, hwritten⟩ := Table.written_insert (Sessions.insert_of_true hinsert).2
        have hown : inserted.written id = some (tx, body.row id now) := by rw [hwritten, if_pos rfl]
        intro seen'' _ table'' _ hrelies'' _ hcommit
        cases hcommit
        have hcommitted := Sessions.committed_commit_own ((hrelies''.own id _).mpr hown)
        intro refreshed _ _ found hlast _ hfound
        cases hfound
        obtain ⟨row, hrow, rfl⟩ := hlast.evolves id _ hcommitted
        rw [Table.select_eq_committed ((Sessions.clean_commit tx seen'').relies hlast id), hrow]
        exact ⟨hrow, now, rfl⟩
    · rename_i hfits
      exact Bool.eq_false_iff.mpr hfits
  · rw [hone]
    exact ⟨k, row, hrow, hduplicate⟩

variable {ok : State → Action → Prop} {s s' s'' : State}

theorem operation_ensures (hclean : Sessions.Clean tx table) (call : Uuid × FirmwareCreateBody) :
    Sessions.Ensures schema operation tx (fun registration table => Told registration.id registration.body table
      registration.outcome) (operation call) table :=
  Threads.Ensures.bind ((register_firmware_ensures hclean call.1 call.2).mono fun _ _ h => h)

/-- What an outcome says of the catalog is so when the response is sent. -/
theorem told_of_returned (h : system.ReachableWhere ok s) {choice : ℤ} {registration : Registration}
    (hreturned : registrations.returned s tx choice = some registration)
    (hstep : registrations.step s (.perform tx choice) = some s') :
    Told registration.id registration.body s'.shared registration.outcome := by
  obtain ⟨table, htold, hcommitted⟩ := Sessions.post_of_returned operation_lawful
    (fun _ call _ hclean => operation_ensures hclean call) h hreturned hstep
  have hcataloged : Cataloged registration.body table → Cataloged registration.body s'.shared := by
    rintro ⟨id, row, hrow, hduplicate⟩
    exact ⟨id, row, (hcommitted id).trans hrow, hduplicate⟩
  cases hr : registration.outcome with
  | ok firmware =>
    rw [hr] at htold
    exact ⟨(hcommitted _).trans htold.1, htold.2⟩
  | error e =>
    rw [hr] at htold
    cases e with
    | ValueError message => exact hcataloged htold
    | IntegrityError => exact hcataloged htold
    | DataError => exact htold
    | MultipleResultsFound => exact htold
    | InvalidRequestError => exact htold

/-- A version that is in the catalog stays there as it is. -/
theorem committed_steps (h : system.ReachableWhere ok s) (hsteps : system.StepsWhere ok s s') {id : Uuid}
    {row : FirmwareVersion} (hrow : s.shared.committed id = some row) : s'.shared.committed id = some row := by
  obtain ⟨row', hrow', rfl⟩ := Sessions.evolves_steps operation_lawful h hsteps id row hrow
  exact hrow'

/-- A list that is asked for in one state of a run and answered in a later one. -/
abbrev Lists (order_by : OrderBy FirmwareVersion.created_at) (device_type : Option String) (s : State)
    (versions : List FirmwareVersion) (s' : State) : Prop :=
  system.Observes (fun s => Sessions.query s.shared) (list_firmware order_by device_type) s versions s'

/-- A version of the catalog is in every list of its type from then on, and no other one has its number. -/
theorem Lists.filter_eq {order_by : OrderBy FirmwareVersion.created_at} {filter : Option String}
    {versions : List FirmwareVersion} (hread : Lists order_by filter s versions s') (h : system.Reachable s)
    {id : Uuid} {row : FirmwareVersion} (hrow : s.shared.committed id = some row) {version device_type : String}
    (hduplicate : duplicates version device_type row = true) (hfilter : filter.all (device_type = ·) = true) :
    versions.filter (duplicates version device_type) = [row] := by
  obtain ⟨rows, mid, hlook, hret⟩ := TransitionSystem.observes_bind_iff.mp hread
  obtain ⟨seen, hsteps, -, heq⟩ := TransitionSystem.observes_op_iff.mp hlook
  obtain ⟨rfl, -⟩ := TransitionSystem.observes_ret_iff.mp hret
  have hcoherent := Sessions.coherent_reachable operation_lawful (hsteps.reachable h)
  have hone := hcoherent.rows_eq index_of_duplicates (committed_steps h hsteps hrow) hduplicate
  have hlisted : rows.filter (duplicates version device_type) = [row] := by
    rw [← hone, ← heq, Sessions.query, List.filter_filter]
    refine List.filter_congr fun v _ => ?_
    cases hv : duplicates version device_type v with
    | false => rw [Bool.false_and]
    | true =>
      have htype : v.device_type = device_type := of_decide_eq_true (Bool.and_eq_true_iff.mp hv).2
      rw [Bool.true_and, htype]
      exact hfilter
  have hperm := (order_by.perm rows).filter (duplicates version device_type)
  rw [hlisted] at hperm
  exact List.perm_singleton.mp hperm

theorem ok_of_status_code {registration : Registration} (h : registration.status_code = 201) :
    ∃ firmware, registration.outcome = .ok firmware := by
  cases hr : registration.outcome with
  | ok firmware => exact ⟨firmware, rfl⟩
  | error e =>
    rw [Registration.status_code, hr] at h
    cases e <;> cases h

/-- However the registrations of one version under different ids overlap, only one of them is confirmed. -/
theorem version_confirmed_once {s₁ s₂ : State} (h : system.Reachable s) {choice : ℤ} {registration : Registration}
    (hreturned : registrations.returned s tx choice = some registration)
    (hstep : registrations.step s (.perform tx choice) = some s₁) (hconfirmed : registration.status_code = 201)
    (hsteps : system.StepsWhere (fun _ _ => True) s₁ s₂) {tx' : ℕ} {choice' : ℤ} {later : Registration}
    (hreturned' : registrations.returned s₂ tx' choice' = some later)
    (hstep' : registrations.step s₂ (.perform tx' choice') = some s') (hid : later.id ≠ registration.id)
    (hversion : later.body.version = registration.body.version)
    (htype : later.body.device_type = registration.body.device_type) : later.status_code ≠ 201 := by
  intro hconfirmed'
  have h₁ : system.Reachable s₁ := .step (a := .perform tx choice) h trivial hstep
  have h₂ := hsteps.reachable h₁
  have h' : system.Reachable s' := .step (a := .perform tx' choice') h₂ trivial hstep'
  have htold := told_of_returned h hreturned hstep
  have htold' := told_of_returned h₂ hreturned' hstep'
  obtain ⟨firmware, hr⟩ := ok_of_status_code hconfirmed
  obtain ⟨firmware', hr'⟩ := ok_of_status_code hconfirmed'
  rw [hr] at htold
  rw [hr'] at htold'
  obtain ⟨hrow, now, rfl⟩ := htold
  obtain ⟨hrow', now', rfl⟩ := htold'
  have hkept := committed_steps h₁ (hsteps.step (a := .perform tx' choice') trivial hstep') hrow
  refine hid ((Sessions.coherent_reachable operation_lawful h').distinct _ _ _ _ (.inl hrow') (.inl hkept) ?_)
  exact Prod.ext htype hversion

/-- The catalog without versions. -/
def empty : State := { shared := Dict.empty, threads := fun _ => none }

theorem initial_empty : system.initial empty := by
  refine ⟨⟨⟨?_, ?_, ?_⟩, fun _ => rfl⟩, fun _ => rfl⟩
  · rintro k v (h | ⟨tx, h⟩) <;> cases h
  · rintro k k' v v' (h | ⟨tx, h⟩) <;> cases h
  · rintro k tx v c h
    cases h

def image : FirmwareCreateBody :=
  { version := "2.0.0", device_type := "temperature", checksum := "9f86d081", file_url := "s3://firmware/temperature.bin" }

/-- Two registrations both find no duplicate, and the second one waits for the first. -/
theorem version_confirmed_once_image : ∃ (s₁ s₂ : State) (later : Registration),
    system.StepsWhere (fun _ _ => True) s₁ s₂ ∧ registrations.returned s₂ 1 200 = some later ∧ later.body = image ∧
      later.status_code ≠ 201 := by
  have hrun : ∃ s s₁ s' registration later, system.replay (fun _ _ => true) empty
      [.start 0 (1, image), .start 1 (2, image), .perform 0 0, .perform 1 0, .perform 0 100, .perform 0 0] = some s ∧
      registrations.returned s 0 0 = some registration ∧ registration.status_code = 201 ∧
      registrations.step s (.perform 0 0) = some s₁ ∧ registrations.returned s₁ 1 200 = some later ∧
      registrations.step s₁ (.perform 1 200) = some s' ∧ later.id = 2 ∧ registration.id = 1 ∧ later.body = image ∧
      registration.body = image := ⟨_, _, _, _, _, rfl, rfl, rfl, rfl, rfl, rfl, rfl, rfl, rfl, rfl⟩
  obtain ⟨s, s₁, s', registration, later, hreplay, hreturned, hstatus, hstep, hreturned', hstep', hid', hid, hbody',
    hbody⟩ := hrun
  have hreach : system.Reachable s :=
    TransitionSystem.replay_reachable (fun _ _ _ => trivial) (.initial initial_empty) hreplay
  refine ⟨s₁, s₁, later, .refl, hreturned', hbody', version_confirmed_once hreach hreturned hstep hstatus .refl hreturned'
    hstep' ?_ (by rw [hbody, hbody']) (by rw [hbody, hbody'])⟩
  rw [hid, hid']
  decide

end gateway.device_manager.firmware_service
