import EdgeGateway.DataPersistence.BatchWriter
import EdgeGateway.Library.Dict
import EdgeGateway.Library.Raising

namespace gateway.batch_writer.bulk

/-- The columns of an ORM instance, each of which holds some object. -/
structure Attributes (α : Type) where
  id : α
  device_id : α
  device_type : α
  timestamp : α
  payload : α
  metadata_ : α

abbrev RowDict (α : Type) := Dict String α

inductive Statement (α : Type) where
  | insert (values : List (RowDict α))
  | commit

/-- PostgreSQL, and the transaction that the session has open. -/
structure Database (α : Type) where
  rows : List (RowDict α) := []
  transaction : List (RowDict α) := []
  /-- Every statement that was sent, also one that failed. -/
  statements : List (Statement α) := []

/-- The writer, its buffer a list of dicts as in the source, and the session it writes through. -/
structure State (α : Type) where
  buffer : List (RowDict α) := []
  database : Database α := {}

/-- What a flush meets in the database: what `execute` and `commit` raise, and whether a
`commit` that raises has taken effect all the same, its answer being lost. -/
structure Attempt where
  execute : Option PyBaseException := none
  commit : Option PyBaseException := none
  committed : Bool := false

section Source

variable {α : Type}

def size (s : State α) : ℕ := s.buffer.length

/-- The dict of a record, under the names of the attributes. -/
def buffered (record : Attributes α) : RowDict α where
  items := [("id", record.id), ("device_id", record.device_id), ("device_type", record.device_type),
    ("timestamp", record.timestamp), ("payload", record.payload), ("metadata_", record.metadata_)]
  nodup := by simp

def accumulate (record : Attributes α) (s : State α) : State α := { s with buffer := s.buffer ++ [buffered record] }

/-- `row[name]`. -/
def item (row : RowDict α) (name : String) : Except PyBaseException α :=
  match row.get? name with
  | some value => .ok value
  | none => .error (.exception .KeyError)

/-- The values to insert for a buffered row, the key `metadata_` mapped back to the name
of the column. -/
def column_values (row : RowDict α) : Except PyBaseException (RowDict α) := do
  let id ← item row "id"
  let device_id ← item row "device_id"
  let device_type ← item row "device_type"
  let timestamp ← item row "timestamp"
  let payload ← item row "payload"
  let metadata ← item row "metadata_"
  return {
    items := [("id", id), ("device_id", device_id), ("device_type", device_type), ("timestamp", timestamp),
      ("payload", payload), ("metadata", metadata)]
    nodup := by simp }

/-- A failed statement aborts the transaction. -/
def Database.execute (values : List (RowDict α)) (raised : Option PyBaseException) (database : Database α) : Database α :=
  { database with
    transaction := if raised.isSome then [] else database.transaction ++ values
    statements := database.statements ++ [.insert values] }

def Database.commit (attempt : Attempt) (database : Database α) : Database α where
  rows := if attempt.commit.isSome && !attempt.committed then database.rows else database.rows ++ database.transaction
  transaction := []
  statements := database.statements ++ [.commit]

def raise_any : Option PyBaseException → Raising (State α) PyBaseException Unit
  | none => pure ()
  | some e => throw e

def session_execute (attempt : Attempt) (values : List (RowDict α)) : Raising (State α) PyBaseException Unit := do
  modify fun s => { s with database := s.database.execute values attempt.execute }
  raise_any attempt.execute

def session_commit (attempt : Attempt) : Raising (State α) PyBaseException Unit := do
  modify fun s => { s with database := s.database.commit attempt }
  raise_any attempt.commit

def flush (attempt : Attempt) : Raising (State α) PyBaseException ℕ := do
  if (← get).buffer = [] then return 0
  let count := (← get).buffer.length
  let values ← ((← get).buffer.mapM column_values : Except PyBaseException (List (RowDict α)))
  session_execute attempt values
  session_commit attempt
  modify fun s => { s with buffer := [] }
  return count

end Source

section Calls

variable {α : Type}

/-- The row that a record should become. -/
def columns (record : Attributes α) : RowDict α where
  items := [("id", record.id), ("device_id", record.device_id), ("device_type", record.device_type),
    ("timestamp", record.timestamp), ("payload", record.payload), ("metadata", record.metadata_)]
  nodup := by simp

inductive Call (α : Type) where
  | accumulate (record : Attributes α)
  | flush (attempt : Attempt)

def Attempt.GoesThrough (attempt : Attempt) : Prop := attempt.execute = none ∧ attempt.commit = none

instance (attempt : Attempt) : Decidable attempt.GoesThrough := inferInstanceAs (Decidable (_ ∧ _))

/-- What a call leaves, whether or not it raises. -/
def run (s : State α) : Call α → State α
  | .accumulate record => accumulate record s
  | .flush attempt => ((flush attempt).call s).2

/-- A new writer, in front of a table, after some calls. -/
def after (rows : List (RowDict α)) (calls : List (Call α)) : State α :=
  calls.foldl run { database := { rows } }

/-- What there is to write after one more call. -/
def left (records : List (Attributes α)) : Call α → List (Attributes α)
  | .accumulate record => records ++ [record]
  | .flush attempt => if attempt.GoesThrough then [] else records

/-- The records accumulated since the last flush that went through. -/
def unwritten (calls : List (Call α)) : List (Attributes α) := calls.foldl left []

/-- The buffer holds the records, and no transaction is open. -/
structure Holds (records : List (Attributes α)) (s : State α) : Prop where
  buffer : s.buffer = records.map buffered
  transaction : s.database.transaction = []

/-- The name of the attribute that a column is kept under comes back as the name of the column. -/
theorem column_values_buffered (record : Attributes α) : column_values (buffered record) = .ok (columns record) := rfl

theorem mapM_column_values (records : List (Attributes α)) :
    (records.map buffered).mapM column_values = .ok (records.map columns) := by
  induction records with
  | nil => rfl
  | cons record rest ih =>
    rw [List.map_cons, List.mapM_cons, column_values_buffered, ih]
    rfl

theorem Holds.size {records : List (Attributes α)} {s : State α} (h : Holds records s) : size s = records.length := by
  rw [bulk.size, h.buffer, List.length_map]

theorem Holds.accumulate {records : List (Attributes α)} {s : State α} (h : Holds records s) (record : Attributes α) :
    Holds (records ++ [record]) (accumulate record s) where
  buffer := by rw [bulk.accumulate, h.buffer, List.map_append]; rfl
  transaction := h.transaction

section Flush

variable {records : List (Attributes α)} {s : State α} {attempt : Attempt}

theorem flush_of_nothing (h : Holds [] s) : (flush attempt).call s = (.ok 0, s) := by
  have hbuffer : s.buffer = [] := h.buffer
  unfold flush
  rw [Raising.call_bind_ok (Raising.call_get s), if_pos hbuffer]
  rfl

/-- A flush of something sends all of it. -/
theorem flush_eq (h : Holds records s) (hne : records ≠ []) :
    (flush attempt).call s =
      (do session_execute attempt (records.map columns)
          session_commit attempt
          modify fun s => { s with buffer := [] }
          return records.length : Raising (State α) PyBaseException ℕ).call s := by
  have hbuffer : s.buffer ≠ [] := by
    rw [h.buffer]
    exact mt List.map_eq_nil_iff.mp hne
  have hvalues : s.buffer.mapM column_values = .ok (records.map columns) := by
    rw [h.buffer]
    exact mapM_column_values records
  have hcount : s.buffer.length = records.length := h.size
  unfold flush
  rw [Raising.call_bind_ok (Raising.call_get s), if_neg hbuffer]
  dsimp only
  rw [Raising.call_bind_ok (Raising.call_get s), Raising.call_bind_ok (Raising.call_get s)]
  have hlift := Raising.call_lift (s.buffer.mapM column_values) s
  rw [hvalues] at hlift
  rw [hvalues, Raising.call_bind_ok hlift, hcount]

theorem call_session_execute (attempt : Attempt) (values : List (RowDict α)) (s : State α) :
    (session_execute attempt values).call s =
      (raise_any attempt.execute).call { s with database := s.database.execute values attempt.execute } := rfl

theorem call_session_commit (attempt : Attempt) (s : State α) :
    (session_commit attempt).call s = (raise_any attempt.commit).call { s with database := s.database.commit attempt } :=
  rfl

theorem flush_of_execute_raised {e : PyBaseException} (h : Holds records s) (hne : records ≠ [])
    (hexecute : attempt.execute = some e) :
    (flush attempt).call s = (.error e, { s with database := s.database.execute (records.map columns) (some e) }) := by
  have hcall := call_session_execute attempt (records.map columns) s
  rw [hexecute] at hcall
  rw [flush_eq h hne, Raising.call_bind_error hcall]

theorem flush_of_commit_raised {e : PyBaseException} (h : Holds records s) (hne : records ≠ [])
    (hexecute : attempt.execute = none) (hcommit : attempt.commit = some e) :
    (flush attempt).call s =
      (.error e, { s with database := (s.database.execute (records.map columns) none).commit attempt }) := by
  have hinsert := call_session_execute attempt (records.map columns) s
  rw [hexecute] at hinsert
  have hend := call_session_commit attempt { s with database := s.database.execute (records.map columns) none }
  rw [hcommit] at hend
  rw [flush_eq h hne, Raising.call_bind_ok hinsert, Raising.call_bind_error hend]

theorem flush_of_goes_through (h : Holds records s) (hne : records ≠ []) (hthrough : attempt.GoesThrough) :
    (flush attempt).call s =
      (.ok records.length,
        { buffer := [], database := (s.database.execute (records.map columns) none).commit attempt }) := by
  have hinsert := call_session_execute attempt (records.map columns) s
  rw [hthrough.1] at hinsert
  have hend := call_session_commit attempt { s with database := s.database.execute (records.map columns) none }
  rw [hthrough.2] at hend
  rw [flush_eq h hne, Raising.call_bind_ok hinsert, Raising.call_bind_ok hend]
  rfl

/-- The rows after a flush that went through. -/
theorem Holds.rows_of_goes_through (h : Holds records s) (hthrough : attempt.GoesThrough) (values : List (RowDict α)) :
    ((s.database.execute values none).commit attempt).rows = s.database.rows ++ values := by
  rw [Database.commit, hthrough.2]
  change s.database.rows ++ (s.database.transaction ++ values) = _
  rw [h.transaction, List.nil_append]

/-- A flush that meets a failure writes nothing, unless the answer of `commit` is lost. -/
theorem flush_of_not_goes_through (h : Holds records s) (hne : records ≠ []) (hnot : ¬ attempt.GoesThrough) :
    ∃ e database, (flush attempt).call s = (.error e, { s with database }) ∧ database.transaction = [] ∧
      (attempt.committed = false → database.rows = s.database.rows) := by
  cases hexecute : attempt.execute with
  | some e => exact ⟨e, _, flush_of_execute_raised h hne hexecute, rfl, fun _ => rfl⟩
  | none =>
    cases hcommit : attempt.commit with
    | some e =>
      refine ⟨e, _, flush_of_commit_raised h hne hexecute hcommit, rfl, fun hanswered => ?_⟩
      rw [Database.commit, hcommit, hanswered]
      rfl
    | none => exact absurd ⟨hexecute, hcommit⟩ hnot

/-- All that a flush can come to. -/
inductive FlushCases (records : List (Attributes α)) (s : State α) (attempt : Attempt) :
    Except PyBaseException ℕ × State α → Prop where
  | nothing (hempty : records = []) : FlushCases records s attempt (.ok 0, s)
  | through (hne : records ≠ []) (hthrough : attempt.GoesThrough) (database : Database α)
      (htransaction : database.transaction = []) (hrows : database.rows = s.database.rows ++ records.map columns) :
      FlushCases records s attempt (.ok records.length, { buffer := [], database })
  | failed (hne : records ≠ []) (hnot : ¬ attempt.GoesThrough) (e : PyBaseException) (database : Database α)
      (htransaction : database.transaction = []) (hrows : attempt.committed = false → database.rows = s.database.rows) :
      FlushCases records s attempt (.error e, { s with database })

theorem Holds.flush_cases (h : Holds records s) (attempt : Attempt) :
    FlushCases records s attempt ((flush attempt).call s) := by
  by_cases hempty : records = []
  · subst hempty
    rw [flush_of_nothing h]
    exact .nothing rfl
  by_cases hthrough : attempt.GoesThrough
  · rw [flush_of_goes_through h hempty hthrough]
    exact .through hempty hthrough _ rfl (h.rows_of_goes_through hthrough _)
  · obtain ⟨e, database, hcall, htransaction, hrows⟩ := flush_of_not_goes_through h hempty hthrough
    rw [hcall]
    exact .failed hempty hthrough e database htransaction hrows

theorem left_flush (records : List (Attributes α)) (attempt : Attempt) :
    left records (.flush attempt) = if attempt.GoesThrough then [] else records := rfl

/-- What a flush leaves to write is in the buffer afterwards. -/
theorem Holds.flush (h : Holds records s) (attempt : Attempt) :
    Holds (left records (.flush attempt)) ((flush attempt).call s).2 := by
  rw [left_flush]
  have hcases := h.flush_cases attempt
  generalize (bulk.flush attempt).call s = result at hcases ⊢
  cases hcases with
  | nothing hempty =>
    subst hempty
    rw [ite_self]
    exact h
  | through _ hthrough database htransaction _ =>
    rw [if_pos hthrough]
    exact ⟨rfl, htransaction⟩
  | failed _ hnot e database htransaction _ =>
    rw [if_neg hnot]
    exact ⟨h.buffer, htransaction⟩

theorem Holds.run (h : Holds records s) (call : Call α) : Holds (left records call) (run s call) := by
  cases call with
  | accumulate record => exact h.accumulate record
  | flush attempt => exact h.flush attempt

/-- What was accumulated and not written is what the buffer holds, after any calls. -/
theorem Holds.foldl (h : Holds records s) (calls : List (Call α)) :
    Holds (calls.foldl left records) (calls.foldl bulk.run s) := by
  induction calls generalizing records s with
  | nil => exact h
  | cons call rest ih =>
    rw [List.foldl_cons, List.foldl_cons]
    exact ih (h.run call)

theorem holds_after (rows : List (RowDict α)) (calls : List (Call α)) : Holds (unwritten calls) (after rows calls) :=
  Holds.foldl ⟨rfl, rfl⟩ calls

end Flush

/-- What a flush in the state `s` should come to, when the records are to be written. -/
def Writes (records : List (Attributes α)) (s : State α) : Except PyBaseException ℕ × State α → Prop
  | (.ok count, s') =>
    count = records.length ∧ size s' = 0 ∧ s'.database.rows = s.database.rows ++ records.map columns ∧
      (records = [] → s' = s)
  | (.error _, s') => s'.buffer = s.buffer ∧ records ≠ []

theorem Holds.writes {records : List (Attributes α)} {s : State α} (h : Holds records s) (attempt : Attempt) :
    Writes records s ((bulk.flush attempt).call s) := by
  have hcases := h.flush_cases attempt
  generalize (bulk.flush attempt).call s = result at hcases ⊢
  cases hcases with
  | nothing hempty =>
    subst hempty
    refine ⟨rfl, h.size, ?_, fun _ => rfl⟩
    rw [List.map_nil, List.append_nil]
  | through hne _ database _ hrows => exact ⟨rfl, rfl, hrows, fun hempty => absurd hempty hne⟩
  | failed hne _ e database _ _ => exact ⟨rfl, hne⟩

/-- A flush returns exactly if it has nothing to write or meets no failure. -/
theorem Holds.returns_iff {records : List (Attributes α)} {s : State α} (h : Holds records s) (attempt : Attempt) :
    ((bulk.flush attempt).call s).1.isOk ↔ records = [] ∨ attempt.GoesThrough := by
  have hcases := h.flush_cases attempt
  generalize (bulk.flush attempt).call s = result at hcases ⊢
  cases hcases with
  | nothing hempty => exact iff_of_true rfl (.inl hempty)
  | through _ hthrough database _ _ => exact iff_of_true rfl (.inr hthrough)
  | failed hne hnot e database _ _ => exact iff_of_false nofun (not_or.mpr ⟨hne, hnot⟩)

/-- After any calls, failed flushes among them, a flush writes what was accumulated since
the last one that went through, or leaves the buffer as it is. -/
theorem flush_writes_unwritten (rows : List (RowDict α)) (calls : List (Call α)) (attempt : Attempt) :
    Writes (unwritten calls) (after rows calls) ((flush attempt).call (after rows calls)) ∧
      (((flush attempt).call (after rows calls)).1.isOk ↔ unwritten calls = [] ∨ attempt.GoesThrough) ∧
      (after rows calls).buffer = (unwritten calls).map buffered := by
  have hholds := holds_after rows calls
  exact ⟨hholds.writes attempt, hholds.returns_iff attempt, hholds.buffer⟩

/-- The records of all `accumulate` calls. -/
def accumulated : List (Call α) → List (Attributes α)
  | [] => []
  | .accumulate record :: rest => record :: accumulated rest
  | .flush _ :: rest => accumulated rest

/-- No answer to a `commit` is lost. -/
def Call.Answered : Call α → Prop
  | .accumulate _ => True
  | .flush attempt => attempt.committed = false

/-- A flush moves records from the buffer to the table, or leaves both as they are. -/
theorem Holds.rows_append_left {records : List (Attributes α)} {s : State α} {attempt : Attempt} (h : Holds records s)
    (hanswered : attempt.committed = false) :
    ((bulk.flush attempt).call s).2.database.rows ++ (left records (.flush attempt)).map columns =
      s.database.rows ++ records.map columns := by
  rw [left_flush]
  have hcases := h.flush_cases attempt
  generalize (bulk.flush attempt).call s = result at hcases ⊢
  cases hcases with
  | nothing hempty =>
    subst hempty
    rw [ite_self]
  | through _ hthrough database _ hrows => rw [if_pos hthrough, hrows, List.map_nil, List.append_nil]
  | failed _ hnot e database _ hrows => rw [if_neg hnot, hrows hanswered]

/-- Where no answer to a `commit` is lost, every record is in the table or in the buffer, and in one of them only. -/
theorem rows_append_unwritten {records : List (Attributes α)} {s : State α} (h : Holds records s)
    {calls : List (Call α)} (hanswered : ∀ call ∈ calls, call.Answered) :
    (calls.foldl run s).database.rows ++ (calls.foldl left records).map columns =
      s.database.rows ++ (records ++ accumulated calls).map columns := by
  induction calls generalizing records s with
  | nil => rw [accumulated, List.append_nil]; rfl
  | cons call rest ih =>
    obtain ⟨hcall, hrest⟩ := List.forall_mem_cons.mp hanswered
    rw [List.foldl_cons, List.foldl_cons, ih (h.run call) hrest]
    cases call with
    | accumulate record =>
      rw [accumulated, left, List.append_assoc]
      rfl
    | flush attempt =>
      rw [accumulated, List.map_append, List.map_append, ← List.append_assoc, ← List.append_assoc]
      rw [← h.rows_append_left hcall]
      rfl

end Calls

section Rows

variable {U T : Type}

/-- What a column of `telemetry_readings` holds. -/
inductive Value (U T : Type) where
  | uuid (id : U)
  | text (text : String)
  | time (time : T)
  | json (items : List (String × JsonValue))

/-- The ORM instance with its columns as objects. -/
def attributes (record : TelemetryRecord U T) : Attributes (Value U T) where
  id := .uuid record.id
  device_id := .uuid record.device_id
  device_type := .text record.device_type
  timestamp := .time record.timestamp
  payload := .json record.payload
  metadata_ := .json record.metadata_

/-- The row with its columns as objects. -/
def row_dict (row : TelemetryRow U T) : RowDict (Value U T) where
  items := [("id", .uuid row.id), ("device_id", .uuid row.device_id), ("device_type", .text row.device_type),
    ("timestamp", .time row.timestamp), ("payload", .json row.payload), ("metadata", .json row.metadata)]
  nodup := by simp

theorem columns_attributes (record : TelemetryRecord U T) : columns (attributes record) = row_dict record.row := rfl

/-- The dicts stand for the records that the writer has in its buffer. -/
def Represents (s : State (Value U T)) (writer : BatchWriter U T) : Prop := Holds (writer.buffer.map attributes) s

theorem Represents.size {s : State (Value U T)} {writer : BatchWriter U T} (h : Represents s writer) : size s = writer.size := by
  rw [Holds.size h, List.length_map]
  rfl

theorem Represents.accumulate {s : State (Value U T)} {writer : BatchWriter U T} (h : Represents s writer)
    (record : TelemetryRecord U T) : Represents (accumulate (attributes record) s) (writer.accumulate record) := by
  have hholds := Holds.accumulate h (attributes record)
  rw [Represents, BatchWriter.accumulate, List.map_append]
  exact hholds

/-- A flush of the dicts that goes through inserts the rows of the writer and clears it. -/
theorem Represents.flush {s : State (Value U T)} {writer : BatchWriter U T} {attempt : Attempt} (h : Represents s writer)
    (hthrough : attempt.GoesThrough) :
    Represents ((bulk.flush attempt).call s).2 writer.clear ∧
      ((bulk.flush attempt).call s).2.database.rows = s.database.rows ++ writer.values.map row_dict := by
  have hvalues : (writer.buffer.map attributes).map columns = writer.values.map row_dict := by
    rw [BatchWriter.values, List.map_map, List.map_map]
    exact List.map_congr_left fun record _ => columns_attributes record
  have hholds := Holds.flush h attempt
  rw [left_flush, if_pos hthrough] at hholds
  refine ⟨hholds, ?_⟩
  rw [← hvalues]
  have hcases := Holds.flush_cases h attempt
  generalize (bulk.flush attempt).call s = result at hcases ⊢
  cases hcases with
  | nothing hempty => rw [hempty, List.map_nil, List.append_nil]
  | through _ _ database _ hrows => exact hrows
  | failed _ hnot e database _ _ => exact absurd hthrough hnot

end Rows

end gateway.batch_writer.bulk
