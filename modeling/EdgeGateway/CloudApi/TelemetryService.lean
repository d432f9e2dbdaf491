import EdgeGateway.Library.JsonValue
import EdgeGateway.Library.Paging
import EdgeGateway.Library.Uuid
import EdgeGateway.Library.GroupBy
import EdgeGateway.Library.Sessions

open Paging

namespace gateway.telemetry_service

/-- A row of `telemetry_readings`, with its time in microseconds since the epoch. -/
structure TelemetryRow where
  id : Uuid
  device_id : Uuid
  device_type : String
  timestamp : ℤ
  payload : JsonValue
  metadata_ : JsonValue

/-- A content of the table, with its primary key. -/
structure TelemetryReadings where
  rows : List TelemetryRow
  primary_key : (rows.map (·.id)).Nodup

/-- The filters of a query. -/
structure Filters where
  device_id : Option Uuid := none
  start_time : Option ℤ := none
  end_time : Option ℤ := none
  device_type : Option String := none

/-- The WHERE clauses. -/
def Filters.where (filters : Filters) (row : TelemetryRow) : Bool :=
  filters.device_id.all (row.device_id = ·) && filters.device_type.all (row.device_type = ·) &&
    filters.start_time.all (row.timestamp ≥ ·) && filters.end_time.all (row.timestamp ≤ ·)

section Query

variable (isoformat : ℤ → String)

/-- A row as the response shows it. -/
def reading (row : TelemetryRow) : JsonValue :=
  .dict [
    ("id", .str row.id.str),
    ("device_id", .str row.device_id.str),
    ("device_type", .str row.device_type),
    ("timestamp", .str (isoformat row.timestamp)),
    ("payload", row.payload),
    ("metadata", row.metadata_)]

/-- Query telemetry readings with optional filters: the results and the total count. -/
def query_telemetry (order_by : OrderBy TelemetryRow.timestamp) (table : TelemetryReadings) (filters : Filters)
    (limit offset : ℕ) : List JsonValue × ℕ :=
  let total := table.rows.countP filters.where
  let rows := page (order_by.sort (table.rows.filter filters.where)) limit offset
  (rows.map (reading isoformat), total)

/-- The pages at offsets 0, `limit`, 2 * `limit`, up to the reported total. -/
def query_all (orders : ℕ → OrderBy TelemetryRow.timestamp) (table : TelemetryReadings) (filters : Filters) (limit : ℕ) :
    List JsonValue :=
  (List.range (pageCount (query_telemetry isoformat (orders 0) table filters limit 0).2 limit)).flatMap fun k =>
    (query_telemetry isoformat (orders k) table filters limit (k * limit)).1

variable {isoformat}

theorem query_all_eq (orders : ℕ → OrderBy TelemetryRow.timestamp) (table : TelemetryReadings) (filters : Filters)
    (limit : ℕ) :
    query_all isoformat orders table filters limit =
      (pages TelemetryRow.timestamp orders (table.rows.filter filters.where) limit).map (reading isoformat) := by
  rw [query_all, pages, List.map_flatMap, ← List.countP_eq_length_filter]
  rfl

/-- The response shows the primary key. -/
theorem nodup_readings (table : TelemetryReadings) (filters : Filters) :
    ((table.rows.filter filters.where).map (reading isoformat)).Nodup := by
  have hids : ((table.rows.filter filters.where).map (·.id)).Nodup :=
    table.primary_key.sublist (List.filter_sublist.map _)
  refine hids.of_map.map_on fun row hrow row' hrow' heq => ?_
  simp only [reading, JsonValue.dict.injEq, List.cons.injEq, Prod.mk.injEq, JsonValue.str.injEq] at heq
  exact List.inj_on_of_nodup_map hids hrow hrow' (Uuid.str_injective heq.1.2)

end Query

/-- What an operation does in a session of its own, which its exceptions close. -/
abbrev Operation (α : Type) := Session Uuid TelemetryRow Unit α

/-- Add the rows, each of which must fit its columns. -/
def add_all : List TelemetryRow → Operation Bool
  | [] => return true
  | row :: rest => do
    if row.device_type.length ≤ 50 then
      if ← Sessions.execute (.insert row.id fun _ => row) then add_all rest
      else return false
    else return false

/-- Bulk-insert telemetry readings, under the ids that `uuid4` gives, and return the number accepted. -/
def store_batch (rows : List TelemetryRow) : Operation (Option ℕ) := do
  if rows = [] then return some 0
  else if ← add_all rows then
    Sessions.execute .commit
    return some rows.length
  else return none

/-- A batch with the number accepted, if no exception was raised. -/
structure Batch where
  rows : List TelemetryRow
  accepted : Option ℕ

/-- Receive a batch of telemetry readings from an edge gateway. -/
def receive_batch (rows : List TelemetryRow) : Operation Batch := do
  let accepted ← store_batch rows
  return { rows, accepted }

/-- What an operation reads in a session of its own. -/
abbrev Reading (α : Type) := Sessions.Reader Uuid TelemetryRow α

structure Stats where
  total_readings : ℕ
  readings_by_device_type : List (String × ℕ)
  earliest_reading : Option String
  latest_reading : Option String

/-- Return aggregate statistics about stored telemetry, by a query for each. -/
def get_stats (isoformat : ℤ → String) : Reading Stats := do
  let total ← Sessions.read (.select_where fun _ => true)
  let by_type ← Sessions.read (.select_where fun _ => true)
  let time_range ← Sessions.read (.select_where fun _ => true)
  return {
    total_readings := total.length
    readings_by_device_type := GroupBy.aggregate TelemetryRow.device_type List.length by_type
    earliest_reading := (time_range.map (·.timestamp)).min?.map isoformat
    latest_reading := (time_range.map (·.timestamp)).max?.map isoformat }

/-- Rows of the table never change. -/
def schema : TableSchema Uuid TelemetryRow Uuid where
  key := TelemetryRow.id
  index := TelemetryRow.id
  Follows row row' := row' = row
  refl _ := rfl
  trans h h' := h'.trans h
  key_eq h := congrArg _ h
  index_eq h := congrArg _ h

abbrev State := Sessions.State Uuid TelemetryRow Unit Batch
abbrev Action := Sessions.Action (List TelemetryRow) Unit

/-- Any number of batches at once. -/
def batches : Threads ℕ (List TelemetryRow) (Table Uuid TelemetryRow) (Sessions.Statement Uuid TelemetryRow Unit)
    Sessions.Statement.Reply Batch Unit := Sessions.threads schema receive_batch

def system : TransitionSystem State Action := Sessions.system schema receive_batch

theorem add_all_lawful (rows : List TelemetryRow) : (add_all rows).Always (Sessions.Lawful schema) := by
  induction rows with
  | nil => trivial
  | cons row rest ih =>
    unfold add_all
    split
    · refine Sessions.Lawful.bind ⟨fun _ => rfl, fun _ => trivial⟩ fun inserted => ?_
      split
      · exact ih
      · trivial
    · trivial

theorem receive_batch_lawful (rows : List TelemetryRow) : (receive_batch rows).Always (Sessions.Lawful schema) := by
  refine Sessions.Lawful.bind ?_ fun accepted => trivial
  unfold store_batch
  split
  · trivial
  · refine Sessions.Lawful.bind (add_all_lawful rows) fun added => ?_
    split
    · exact ⟨trivial, fun _ => trivial⟩
    · trivial

section Ensures

variable {tx : ℕ}

/-- The transaction has written the rows. -/
def Written (tx : ℕ) (rows : List TelemetryRow) (table : Table Uuid TelemetryRow) : Prop :=
  (rows.map (·.id)).Nodup ∧ ∀ row ∈ rows, table.written row.id = some (tx, row)

theorem Written.relies {rows : List TelemetryRow} {table table' : Table Uuid TelemetryRow} (h : Written tx rows table)
    (hrelies : Sessions.Relies schema tx table table') : Written tx rows table' :=
  ⟨h.1, fun row hrow => (hrelies.own _ _).mpr (h.2 row hrow)⟩

theorem add_all_ensures (rows : List TelemetryRow) : ∀ (done : List TelemetryRow) (table : Table Uuid TelemetryRow),
    Written tx done table → Sessions.Ensures schema receive_batch tx
      (fun added table => added = true → Written tx (done ++ rows) table) (add_all rows) table := by
  induction rows with
  | nil =>
    intro done table hdone _
    rwa [List.append_nil]
  | cons row rest ih =>
    intro done table hdone
    unfold add_all
    split
    · intro seen choice inserted reply hrelies _ hinsert
      cases reply with
      | false =>
        intro h
        cases h
      | true =>
        have hseen := hdone.relies hrelies
        have hperform : Sessions.perform schema seen tx choice (.insert row.id fun _ => row) = some (inserted, true) := hinsert
        obtain ⟨hnone, -, hwritten⟩ := Table.written_insert (Sessions.insert_of_true hperform).2
        have hnew : ∀ other ∈ done, other.id ≠ row.id := by
          intro other hother heq
          have hother := hseen.2 other hother
          rw [heq, hnone] at hother
          cases hother
        have hinserted : Written tx (done ++ [row]) inserted := by
          refine ⟨?_, fun other hother => ?_⟩
          · rw [List.map_append, List.nodup_append]
            refine ⟨hseen.1, List.nodup_singleton _, fun id hid id' hid' => ?_⟩
            obtain ⟨other, hother, rfl⟩ := List.mem_map.mp hid
            rw [List.mem_singleton.mp hid']
            exact hnew other hother
          · rw [hwritten]
            obtain hold | hlast := List.mem_append.mp hother
            · rw [if_neg (hnew other hold)]
              exact hseen.2 other hold
            · rw [List.mem_singleton.mp hlast, if_pos rfl]
        have hrest := ih (done ++ [row]) inserted hinserted
        rw [List.append_assoc, List.singleton_append] at hrest
        exact hrest
    · intro h
      cases h

/-- The rows of a batch that is accepted are committed, each under an id of its own. -/
def Stored (batch : Batch) (table : Table Uuid TelemetryRow) : Prop :=
  ∀ n, batch.accepted = some n →
    n = batch.rows.length ∧ (batch.rows.map (·.id)).Nodup ∧ ∀ row ∈ batch.rows, table.committed row.id = some row

theorem receive_batch_ensures (rows : List TelemetryRow) (table : Table Uuid TelemetryRow) :
    Sessions.Ensures schema receive_batch tx Stored (receive_batch rows) table := by
  refine Threads.Ensures.bind ?_
  unfold store_batch
  split
  · rename_i hempty
    intro n hn
    cases hn
    rw [hempty]
    exact ⟨rfl, List.nodup_nil, List.forall_mem_nil _⟩
  · have hnothing : Written tx [] table := ⟨List.nodup_nil, List.forall_mem_nil _⟩
    refine Threads.Ensures.bind ((add_all_ensures rows [] table hnothing).mono fun added table hadded => ?_)
    split
    · rename_i htrue
      obtain ⟨hnodup, hwritten⟩ := hadded htrue
      intro seen _ table' _ hrelies _ hcommit n hn
      cases hcommit
      cases hn
      exact ⟨rfl, hnodup, fun row hrow => Sessions.committed_commit_own ((hrelies.own _ _).mpr (hwritten row hrow))⟩
    · intro n hn
      cases hn

end Ensures

variable {ok : State → Action → Prop} {s s' s'' : State}

/-- The rows of an accepted batch are committed when the response is sent. -/
theorem stored_of_returned (h : system.ReachableWhere ok s) {tx : ℕ} {choice : Unit} {batch : Batch}
    (hreturned : batches.returned s tx choice = some batch) (hstep : batches.step s (.perform tx choice) = some s') :
    Stored batch s'.shared := by
  obtain ⟨table, hstored, hcommitted⟩ := Sessions.post_of_returned receive_batch_lawful
    (fun _ rows table _ => receive_batch_ensures rows table) h hreturned hstep
  intro n hn
  obtain ⟨hlength, hnodup, hrows⟩ := hstored n hn
  exact ⟨hlength, hnodup, fun row hrow => (hcommitted row.id).trans (hrows row hrow)⟩


/-- Statistics that are asked for in one state of a run and answered in a later one. -/
abbrev Shows (isoformat : ℤ → String) (s : State) (stats : Stats) (s' : State) : Prop :=
  system.Observes (fun s => Sessions.query s.shared) (get_stats isoformat) s stats s'

/-- The committed readings. -/
def stored (s : State) : List TelemetryRow := Sessions.rows s.shared

theorem stored_subperm (h : system.Reachable s) (hsteps : system.StepsWhere (fun _ _ => True) s s') :
    (stored s).Subperm (stored s') := by
  refine (Sessions.coherent_reachable receive_batch_lawful h).rows_nodup.subperm fun row hrow => ?_
  obtain ⟨id, hrow⟩ := Sessions.mem_rows_iff.mp hrow
  obtain ⟨row', hrow', rfl⟩ := Sessions.evolves_steps receive_batch_lawful h hsteps id row hrow
  exact Sessions.mem_rows_iff.mpr ⟨id, hrow'⟩

/-- The statistics, each of them taken at a moment of its own. -/
theorem Shows.exists_moments {isoformat : ℤ → String} {stats : Stats} (h : Shows isoformat s stats s') :
    ∃ s₁ s₂ s₃, system.StepsWhere (fun _ _ => True) s s₁ ∧ system.StepsWhere (fun _ _ => True) s₁ s₂ ∧
      system.StepsWhere (fun _ _ => True) s₂ s₃ ∧ system.StepsWhere (fun _ _ => True) s₃ s' ∧ stats = {
        total_readings := (stored s₁).length
        readings_by_device_type := GroupBy.aggregate TelemetryRow.device_type List.length (stored s₂)
        earliest_reading := ((stored s₃).map (·.timestamp)).min?.map isoformat
        latest_reading := ((stored s₃).map (·.timestamp)).max?.map isoformat } := by
  have hall : ∀ s : State, Sessions.query s.shared (.select_where fun _ => true) = stored s :=
    fun s => List.filter_eq_self.mpr fun _ _ => rfl
  obtain ⟨total, m₁, htotal, h⟩ := TransitionSystem.observes_bind_iff.mp h
  obtain ⟨by_type, m₂, hby_type, h⟩ := TransitionSystem.observes_bind_iff.mp h
  obtain ⟨time_range, m₃, htime_range, h⟩ := TransitionSystem.observes_bind_iff.mp h
  obtain ⟨s₁, hbefore, hafter, heq₁⟩ := TransitionSystem.observes_op_iff.mp htotal
  obtain ⟨s₂, hbefore', hafter', heq₂⟩ := TransitionSystem.observes_op_iff.mp hby_type
  obtain ⟨s₃, hbefore'', hafter'', heq₃⟩ := TransitionSystem.observes_op_iff.mp htime_range
  obtain ⟨heq, hrest⟩ := TransitionSystem.observes_ret_iff.mp h
  refine ⟨s₁, s₂, s₃, hbefore, hafter.trans hbefore', hafter'.trans hbefore'', hafter''.trans hrest, ?_⟩
  rw [heq, ← heq₁, ← heq₂, ← heq₃, hall, hall, hall]

theorem exists_range {rows : List TelemetryRow} {row : TelemetryRow} (h : row ∈ rows) :
    ∃ earliest latest, (rows.map (·.timestamp)).min? = some earliest ∧ (rows.map (·.timestamp)).max? = some latest ∧
      earliest ≤ row.timestamp ∧ row.timestamp ≤ latest := by
  have hmem : row.timestamp ∈ rows.map (·.timestamp) := List.mem_map_of_mem h
  obtain ⟨earliest, hearliest⟩ := Option.isSome_iff_exists.mp (List.isSome_min?_of_mem hmem)
  obtain ⟨latest, hlatest⟩ := Option.isSome_iff_exists.mp (List.isSome_max?_of_mem hmem)
  exact ⟨earliest, latest, hearliest, hlatest, (List.min?_eq_some_iff.mp hearliest).2 _ hmem,
    (List.max?_eq_some_iff.mp hlatest).2 _ hmem⟩

theorem sum_by_type (rows : List TelemetryRow) :
    ((GroupBy.aggregate TelemetryRow.device_type List.length rows).map Prod.snd).sum = rows.length := by
  rw [GroupBy.aggregate, List.map_map]
  exact GroupBy.sum_length _ rows

/-- What there is of a type in some rows is counted with what there is of it in more rows. -/
theorem exists_count {rows more : List TelemetryRow} (h : rows.Subperm more) {row : TelemetryRow} (hrow : row ∈ rows) :
    ∃ m, (row.device_type, m) ∈ GroupBy.aggregate TelemetryRow.device_type List.length more ∧
      rows.countP (·.device_type = row.device_type) ≤ m := by
  refine ⟨_, GroupBy.mem_aggregate_iff.mpr ⟨⟨row, h.subset hrow, rfl⟩, rfl⟩, ?_⟩
  rw [GroupBy.group, ← List.countP_eq_length_filter]
  exact h.countP_le _

/-- The table without readings. -/
def empty : State := { shared := Dict.empty, threads := fun _ => none }

theorem initial_empty : system.initial empty := by
  refine ⟨⟨⟨?_, ?_, ?_⟩, fun _ => rfl⟩, fun _ => rfl⟩
  · rintro k v (h | ⟨tx, h⟩) <;> cases h
  · rintro k k' v v' (h | ⟨tx, h⟩) <;> cases h
  · rintro k tx v c h
    cases h

/-- Two readings of one device. -/
def two_readings : List TelemetryRow :=
  [{ id := 1, device_id := 9, device_type := "temperature", timestamp := 100, payload := .dict [], metadata_ := .dict [] },
    { id := 2, device_id := 9, device_type := "temperature", timestamp := 200, payload := .dict [], metadata_ := .dict [] }]

def isoformat (t : ℤ) : String :=
  if t = 100 then "1970-01-01T00:00:00.000100+00:00" else "1970-01-01T00:00:00.000200+00:00"

end gateway.telemetry_service
