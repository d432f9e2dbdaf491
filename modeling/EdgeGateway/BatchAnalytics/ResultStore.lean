import EdgeGateway.BatchAnalytics.JobRunner
import EdgeGateway.Library.Csv
import EdgeGateway.Library.Raising

namespace gateway.result_store

open gateway.job_runner (Result)

/-- The default dialect of the module `csv`. -/
def excel : CsvDialect where
  delimiter := ','
  quotechar := '"'
  delimiter_ne_quotechar := by decide
  delimiter_ne_newline := by decide
  quotechar_ne_newline := by decide

abbrev Row := List (String × JsonValue)

def fieldnames (row : Row) : List String := row.map Prod.fst

section Writer

variable (str : JsonValue → String)

/-- `str(value)`, where `str` says what it is for anything but a text. -/
def text_of : JsonValue → String
  | .str text => text
  | value => str value

/-- What `csv` writes for a value. -/
def cell : JsonValue → String
  | .null => ""
  | value => text_of str value

/-- The cells of a dict under the names; a name that the dict lacks has an empty one. -/
def cells (names : List String) (row : Row) : List String :=
  names.map fun name => (row.lookup name).elim "" (cell str)

/-- `DictWriter.writerow`, which takes dicts without other keys. -/
def writerow (names : List String) : JsonValue → Except PyExc (List String)
  | .dict row => if row.all fun field => field.1 ∈ names then .ok (cells str names row) else .error .ValueError
  | _ => .error .AttributeError

/-- The rows of a list. -/
def writerows (names : List String) : List JsonValue → Except PyExc (List (List String))
  | [] => .ok []
  | row :: rest => do
    let record ← writerow str names row
    let records ← writerows names rest
    return record :: records

/-- The summary, or the whole result, in a single row. -/
def summary_table (results : Result) : Except PyExc (List (List String)) :=
  match (results.lookup "summary").getD (.dict results) with
  | .dict summary => do
    let record ← writerow str (fieldnames summary) (.dict summary)
    return [fieldnames summary, record]
  | summary => .ok [["result"], [text_of str summary]]

/-- The records that `to_csv` writes. -/
def table (results : Result) : Except PyExc (List (List String)) :=
  match results.lookup "rows" with
  | some (.list (.dict first :: rest)) => do
    let records ← writerows str (fieldnames first) (.dict first :: rest)
    return fieldnames first :: records
  | some (.list (first :: rest)) => .ok (["value"] :: (first :: rest).map fun value => [cell str value])
  | _ => summary_table str results

/-- Convert job results to a CSV string. -/
def to_csv (results : Dict String Result) (job_id : String) : Except PyExc (Option String) :=
  match results.get? job_id with
  | none => .ok none
  | some result => do
    let records ← table str result
    return some (Csv.render excel records)

end Writer

variable {str : JsonValue → String}

/-- The tables that show a result: its rows as dicts under the keys of the first one, its rows as values, or its
summary. -/
inductive Shows (str : JsonValue → String) (results : Result) : List (List String) → Prop where
  | rows {first : Row} {rest : List Row}
      (h : results.lookup "rows" = some (.list ((first :: rest).map .dict)))
      (hkeys : ∀ row ∈ rest, ∀ name ∈ fieldnames row, name ∈ fieldnames first) :
      Shows str results (fieldnames first :: (first :: rest).map (cells str (fieldnames first)))
  | values {first : JsonValue} {rest : List JsonValue} (h : results.lookup "rows" = some (.list (first :: rest)))
      (hflat : ∀ row, first ≠ .dict row) :
      Shows str results (["value"] :: (first :: rest).map fun value => [cell str value])
  | summary {summary : Row} (h : ∀ first rest, results.lookup "rows" ≠ some (.list (first :: rest)))
      (hsummary : (results.lookup "summary").getD (.dict results) = .dict summary) :
      Shows str results [fieldnames summary, cells str (fieldnames summary) summary]
  | result {summary : JsonValue} (h : ∀ first rest, results.lookup "rows" ≠ some (.list (first :: rest)))
      (hsummary : (results.lookup "summary").getD (.dict results) = summary) (hflat : ∀ row, summary ≠ .dict row) :
      Shows str results [["result"], [text_of str summary]]

theorem writerow_ok_iff {names : List String} {row : JsonValue} {record : List String} :
    writerow str names row = .ok record ↔
      ∃ items, row = .dict items ∧ (∀ name ∈ fieldnames items, name ∈ names) ∧ record = cells str names items := by
  have hall : ∀ items : Row, (items.all fun field => decide (field.1 ∈ names)) = true ↔
      ∀ name ∈ fieldnames items, name ∈ names := by
    intro items
    simp [fieldnames]
  constructor
  · intro h
    cases row with
    | dict items =>
      simp only [writerow] at h
      split at h
      · rename_i hkeys
        exact ⟨items, rfl, (hall items).mp hkeys, (Except.ok.inj h).symm⟩
      · cases h
    | _ => cases h
  · rintro ⟨items, rfl, hkeys, rfl⟩
    rw [writerow, if_pos ((hall items).mpr hkeys)]

theorem writerows_ok_iff {names : List String} {rows : List JsonValue} {records : List (List String)} :
    writerows str names rows = .ok records ↔
      ∃ items : List Row, rows = items.map .dict ∧ (∀ row ∈ items, ∀ name ∈ fieldnames row, name ∈ names) ∧
        records = items.map (cells str names) := by
  induction rows generalizing records with
  | nil =>
    constructor
    · intro h
      cases h
      exact ⟨[], rfl, List.forall_mem_nil _, rfl⟩
    · rintro ⟨items, hitems, -, rfl⟩
      rw [List.map_eq_nil_iff.mp hitems.symm]
      rfl
  | cons row rest ih =>
    simp only [writerows, Except.bind_ok_iff]
    constructor
    · rintro ⟨record, hrecord, records, hrecords, heq⟩
      obtain ⟨first, rfl, hfirst, rfl⟩ := writerow_ok_iff.mp hrecord
      obtain ⟨items, rfl, hitems, rfl⟩ := ih.mp hrecords
      exact ⟨first :: items, rfl, List.forall_mem_cons.mpr ⟨hfirst, hitems⟩, (Except.ok.inj heq).symm⟩
    · rintro ⟨items, hitems, hkeys, rfl⟩
      cases items with
      | nil => cases hitems
      | cons first items =>
        obtain ⟨rfl, rfl⟩ := List.cons.inj hitems
        obtain ⟨hfirst, hrest⟩ := List.forall_mem_cons.mp hkeys
        exact ⟨_, writerow_ok_iff.mpr ⟨first, rfl, hfirst, rfl⟩, _, ih.mpr ⟨items, rfl, hrest, rfl⟩, rfl⟩

/-- A dict has its own keys. -/
theorem writerow_own (row : Row) : writerow str (fieldnames row) (.dict row) = .ok (cells str (fieldnames row) row) :=
  writerow_ok_iff.mpr ⟨row, rfl, fun _ h => h, rfl⟩

/-- A result without rows is shown by its summary. -/
theorem summary_table_ok_iff {results : Result} {records : List (List String)}
    (h : ∀ first rest, results.lookup "rows" ≠ some (.list (first :: rest))) :
    summary_table str results = .ok records ↔ Shows str results records := by
  constructor
  · intro htable
    unfold summary_table at htable
    split at htable
    · rename_i summary hsummary
      rw [writerow_own] at htable
      cases htable
      exact .summary h hsummary
    · rename_i hflat
      cases htable
      exact .result h rfl hflat
  · intro hshows
    cases hshows with
    | rows hrows _ => exact absurd hrows (h _ _)
    | values hrows _ => exact absurd hrows (h _ _)
    | summary _ hsummary =>
      rw [summary_table, hsummary]
      dsimp only
      rw [writerow_own]
      rfl
    | @result summary _ hsummary hflat =>
      rw [summary_table, hsummary]
      cases summary with
      | dict row => exact absurd rfl (hflat row)
      | _ => rfl

/-- What is written are the tables that show the result. -/
theorem table_ok_iff {results : Result} {records : List (List String)} :
    table str results = .ok records ↔ Shows str results records := by
  unfold table
  split
  · rename_i first rest hrows
    rw [Except.bind_ok_iff]
    constructor
    · rintro ⟨written, hwritten, heq⟩
      cases heq
      obtain ⟨items, hitems, hkeys, rfl⟩ := writerows_ok_iff.mp hwritten
      cases items with
      | nil => cases hitems
      | cons row items =>
        obtain ⟨hfirst, rfl⟩ := List.cons.inj hitems
        cases hfirst
        exact .rows hrows (List.forall_mem_cons.mp hkeys).2
    · intro hshows
      cases hshows with
      | @rows row items h hkeys =>
        obtain ⟨hfirst, rfl⟩ := List.cons.inj (JsonValue.list.inj (Option.some.inj (hrows.symm.trans h)))
        cases hfirst
        refine ⟨_, writerows_ok_iff.mpr ⟨first :: items, rfl, List.forall_mem_cons.mpr ⟨fun _ h => h, hkeys⟩, rfl⟩, rfl⟩
      | values h hflat =>
        obtain ⟨hfirst, -⟩ := List.cons.inj (JsonValue.list.inj (Option.some.inj (hrows.symm.trans h)))
        exact absurd hfirst.symm (hflat first)
      | summary h _ => exact absurd hrows (h _ _)
      | result h _ _ => exact absurd hrows (h _ _)
  · rename_i first rest hflat hrows
    have hfirst : ∀ row, first ≠ .dict row := by
      rintro row rfl
      exact hflat row rfl
    constructor
    · intro heq
      cases heq
      exact .values hrows hfirst
    · intro hshows
      cases hshows with
      | @rows row items h hkeys =>
        obtain ⟨heq, -⟩ := List.cons.inj (JsonValue.list.inj (Option.some.inj (hrows.symm.trans h)))
        exact absurd heq (hfirst row)
      | values h _ =>
        obtain ⟨rfl, rfl⟩ := List.cons.inj (JsonValue.list.inj (Option.some.inj (hrows.symm.trans h)))
        rfl
      | summary h _ => exact absurd hrows (h _ _)
      | result h _ _ => exact absurd hrows (h _ _)
  · rename_i hdicts hlists
    refine summary_table_ok_iff fun first rest hrows => ?_
    exact hlists first rest hrows

/-- A download is a CSV exactly when some table shows the result, and whatever the texts in it are, reading the CSV
gives that table. -/
theorem to_csv_reads_back (str : JsonValue → String) (results : Dict String Result) (job_id text : String) :
    to_csv str results job_id = .ok (some text) ↔ ∃ result records, results.get? job_id = some result ∧
      Shows str result records ∧ text = Csv.render excel records ∧ Csv.parse excel text = some records := by
  unfold to_csv
  cases hresult : results.get? job_id with
  | none => simp
  | some result =>
    simp only [Except.bind_ok_iff, table_ok_iff]
    constructor
    · rintro ⟨records, hshows, heq⟩
      cases heq
      exact ⟨result, records, rfl, hshows, rfl, Csv.parse_render excel records⟩
    · rintro ⟨result', records, heq, hshows, rfl, -⟩
      cases heq
      exact ⟨records, hshows, rfl⟩

end gateway.result_store
