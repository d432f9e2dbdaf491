import Mathlib.Algebra.GroupWithZero.Nat
import Mathlib.Data.Int.Notation
import EdgeGateway.Library.Dict
import EdgeGateway.Library.Sql

namespace gateway.cloud_api.analytics

/-- Flexible analytics query parameters, with the instants of the database as `D`. -/
structure AnalyticsQuery (D : Type) where
  metric : String := "telemetry_count"
  device_type : Option String := none
  device_id : Option String := none
  start_time : Option D := none
  end_time : Option D := none
  group_by : Option String := none
  limit : ℤ := 100

/-- A bound parameter. -/
inductive Param (D : Type) where
  | time (t : D)
  | int (n : ℤ)
  | str (s : String)

/-- `session.execute(text(sql), params)`. -/
structure Statement (D : Type) where
  sql : String
  params : Dict String (Param D)

/-- A value of a result: the group, or a count. -/
inductive Value (V : Type) where
  | group (v : V)
  | count (n : ℕ)

structure AnalyticsQueryResponse (V : Type) where
  metric : String
  results : List (Dict String (Value V))
  total : ℕ

variable {D V : Type}

/-- `x or default`, an empty text counting as none. -/
def or_default (x : Option String) (default : String) : String :=
  match x with
  | some s => if s = "" then default else s
  | none => default

/-- The text of an optional filter; an empty one is no filter. -/
def filter_text : Option String → Option String
  | some s => if s = "" then none else some s
  | none => none

def table (query : AnalyticsQuery D) : String :=
  if query.metric = "anomaly_count" then "alerts" else "telemetry_readings"

def time_col : String := "timestamp"

def group_col (query : AnalyticsQuery D) : String := or_default query.group_by "device_type"

/-- The statement of a query; `week` takes seven days off. -/
def statement (week : D → D) (now : D) (query : AnalyticsQuery D) : Statement D :=
  let start := query.start_time.getD (week now)
  let until_ := query.end_time.getD now
  let params : Dict String (Param D) :=
    ((Dict.empty.set "start" (.time start)).set "end" (.time until_)).set "limit" (.int query.limit)
  let sql := "SELECT " ++ group_col query ++ ", COUNT(*) as cnt " ++
    "FROM " ++ table query ++ " " ++
    "WHERE " ++ time_col ++ " >= :start AND " ++ time_col ++ " <= :end"
  let (sql, params) :=
    match filter_text query.device_type with
    | some device_type => (sql ++ " AND device_type = :device_type", params.set "device_type" (.str device_type))
    | none => (sql, params)
  let (sql, params) :=
    match filter_text query.device_id with
    | some device_id => (sql ++ " AND device_id = :device_id", params.set "device_id" (.str device_id))
    | none => (sql, params)
  { sql := sql ++ " GROUP BY " ++ group_col query ++ " ORDER BY cnt DESC LIMIT :limit", params }

/-- `{group_col: row[0], "count": row[1]}`; a column named `count` gives way. -/
def result_of (group_col : String) (row : V × ℕ) : Dict String (Value V) :=
  (Dict.empty.set group_col (.group row.1)).set "count" (.count row.2)

/-- Run a query on a database, which answers a statement with rows or raises. The
statements executed come with the response. -/
def run_analytics_query (week : D → D) (now : D) (execute : Statement D → Option (List (V × ℕ)))
    (query : AnalyticsQuery D) : List (Statement D) × AnalyticsQueryResponse V :=
  let executed := statement week now query
  let response :=
    match execute executed with
    | some rows =>
      { metric := query.metric
        results := rows.map (result_of (group_col query))
        total := (rows.map Prod.snd).sum }
    | none => { metric := query.metric, results := [], total := 0 }
  ([executed], response)

open SqlIdentifier

/-- What may shape a statement: the class of the metric, and which filters there are. -/
structure Shape where
  anomaly_count : Bool
  by_device_type : Bool
  by_device_id : Bool
  deriving DecidableEq

variable {D V : Type}

def shape (query : AnalyticsQuery D) : Shape where
  anomaly_count := query.metric = "anomaly_count"
  by_device_type := (filter_text query.device_type).isSome
  by_device_id := (filter_text query.device_id).isSome

namespace Shape

def table (shape : Shape) : String := if shape.anomaly_count then "alerts" else "telemetry_readings"

def filters (shape : Shape) : String :=
  (if shape.by_device_type then " AND device_type = :device_type" else "") ++
    if shape.by_device_id then " AND device_id = :device_id" else ""

/-- What stands between the two places of the grouping. -/
def middle (shape : Shape) : String :=
  ", COUNT(*) as cnt " ++
    "FROM " ++ shape.table ++ " " ++
    "WHERE " ++ time_col ++ " >= :start AND " ++ time_col ++ " <= :end" ++ shape.filters ++ " GROUP BY "

/-- The text of a query grouped by an identifier. -/
def text (shape : Shape) (identifier : String) : String :=
  "SELECT " ++ identifier ++ shape.middle ++ identifier ++ " ORDER BY cnt DESC LIMIT :limit"

end Shape

/-- The texts differ at most in an identifier of a column of the table, and have nothing else of a request. -/
def DifferInColumn (columns : List String) (texts texts' : List String) (shape : Shape) : Prop :=
  ∃ identifier identifier', NamesColumn columns identifier ∧ NamesColumn columns identifier' ∧
    texts = [shape.text identifier] ∧ texts' = [shape.text identifier']

/-- The texts that a query executes. -/
def texts (week : D → D) (now : D) (execute : Statement D → Option (List (V × ℕ))) (query : AnalyticsQuery D) :
    List String :=
  (run_analytics_query week now execute query).1.map Statement.sql

/-- What stands twice in a text can be read back from it. -/
theorem eq_of_twice {a b c x y : String} (h : a ++ x ++ b ++ x ++ c = a ++ y ++ b ++ y ++ c) : x = y := by
  have hlist := congrArg String.toList h
  simp only [String.toList_append, List.append_assoc] at hlist
  have htail := List.append_cancel_left hlist
  have hlength := congrArg List.length htail
  simp only [List.length_append] at hlength
  exact String.toList_inj.mp (List.append_inj htail (by omega)).1

theorem Shape.text_injective (shape : Shape) : Function.Injective shape.text :=
  fun _ _ h => eq_of_twice h

theorem table_shape (query : AnalyticsQuery D) : (shape query).table = table query := by
  unfold table shape Shape.table
  simp only [decide_eq_true_eq]

theorem statement_sql (week : D → D) (now : D) (query : AnalyticsQuery D) :
    (statement week now query).sql = (shape query).text (group_col query) := by
  unfold statement Shape.text Shape.middle Shape.filters
  rw [table_shape]
  unfold shape
  cases filter_text query.device_type <;> cases filter_text query.device_id <;>
    simp [String.append_assoc]

theorem texts_eq (week : D → D) (now : D) (execute : Statement D → Option (List (V × ℕ)))
    (query : AnalyticsQuery D) : texts week now execute query = [(shape query).text (group_col query)] := by
  simp only [texts, run_analytics_query, List.map_cons, List.map_nil, statement_sql]

/-- The grouping is all that a request puts into the text. -/
theorem differInColumn_iff (columns : List String) (week : D → D) (now now' : D)
    (execute execute' : Statement D → Option (List (V × ℕ))) {query query' : AnalyticsQuery D}
    (hshape : shape query = shape query') :
    DifferInColumn columns (texts week now execute query) (texts week now' execute' query') (shape query) ↔
      NamesColumn columns (group_col query) ∧ NamesColumn columns (group_col query') := by
  rw [texts_eq, texts_eq, ← hshape]
  constructor
  · rintro ⟨identifier, identifier', hcolumn, hcolumn', htext, htext'⟩
    simp only [List.cons.injEq, and_true] at htext htext'
    rw [Shape.text_injective _ htext, Shape.text_injective _ htext']
    exact ⟨hcolumn, hcolumn'⟩
  · rintro ⟨hcolumn, hcolumn'⟩
    exact ⟨_, _, hcolumn, hcolumn', rfl, rfl⟩

/-- Two requests that agree in their shape are data to the SQL text exactly when both
group by an identifier of a column. -/
theorem query_is_data_iff (schema : String → List String) (week : D → D) (now now' : D)
    (execute execute' : Statement D → Option (List (V × ℕ))) (query query' : AnalyticsQuery D)
    (hshape : shape query = shape query') :
    DifferInColumn (schema (table query)) (texts week now execute query) (texts week now' execute' query')
        (shape query) ↔
      NamesColumn (schema (table query)) (group_col query) ∧ NamesColumn (schema (table query)) (group_col query') :=
  differInColumn_iff (schema (table query)) week now now' execute execute' hshape

/-- The columns of `telemetry_readings`, and those that alerts are queried by. -/
def sample_schema (table : String) : List String :=
  if table = "alerts" then ["device_id", "device_type", "severity", "timestamp"]
  else ["id", "device_id", "device_type", "timestamp", "payload", "metadata", "ingested_at"]

theorem query_is_data_device_id :
    DifferInColumn (sample_schema "telemetry_readings")
      (texts (· - 7) (30 : ℕ) (fun _ => some [("t", 1)]) { group_by := some "device_id", device_type := some "';--" })
      (texts (· - 7) (31 : ℕ) (fun _ => some [("t", 1)]) { group_by := some "Device_Type", device_type := some "x" })
      { anomaly_count := false, by_device_type := true, by_device_id := false } :=
  (query_is_data_iff sample_schema _ _ _ _ _ { group_by := some "device_id", device_type := some "';--" }
    { group_by := some "Device_Type", device_type := some "x" } (by decide)).mpr ⟨by decide +kernel, by decide +kernel⟩

/-- A subquery as the grouping is executed. -/
def injection : AnalyticsQuery ℕ := { group_by := some "(SELECT max(firmware_version) FROM devices)" }

theorem query_is_not_data :
    ¬ ∀ query query' : AnalyticsQuery ℕ, shape query = shape query' →
      DifferInColumn (sample_schema (table query)) (texts (· - 7) 30 (fun _ => some [("t", 1)]) query)
        (texts (· - 7) 30 (fun _ => some [("t", 1)]) query') (shape query) := by
  intro h
  have hcolumn := (differInColumn_iff _ _ _ _ _ _ rfl).mp (h injection injection rfl)
  exact absurd hcolumn.1 (by decide +kernel)

end gateway.cloud_api.analytics
