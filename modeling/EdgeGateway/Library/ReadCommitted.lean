import EdgeGateway.Library.Dict

/-- A row of a table: its committed version, and the version that the transaction that has
locked the row has written. -/
structure Row (ρ : Type) where
  committed : Option ρ
  written : Option (ℕ × ρ) := none

namespace Row

variable {ρ : Type}

/-- What a transaction sees of the row: its own version, or the committed one. -/
def visible (tx : ℕ) (row : Row ρ) : Option ρ :=
  match row.written with
  | some (owner, value) => if owner = tx then some value else row.committed
  | none => row.committed

/-- An UPDATE of the row changes the newest version, and waits while another transaction
has locked the row. -/
def update (tx : ℕ) (f : ρ → ρ) (row : Row ρ) : Option (Row ρ) :=
  match row.written with
  | some (owner, value) =>
    if owner = tx then some { row with written := some (tx, f value) }
    else if row.committed.isNone then some row
    else none
  | none => some { row with written := row.committed.map fun value => (tx, f value) }

def commit (tx : ℕ) (row : Row ρ) : Row ρ :=
  match row.written with
  | some (owner, value) => if owner = tx then { committed := some value } else row
  | none => row

def rollback (tx : ℕ) (row : Row ρ) : Row ρ :=
  match row.written with
  | some (owner, _) => if owner = tx then { committed := row.committed } else row
  | none => row

/-- A COMMIT and a ROLLBACK free the same locks. -/
theorem written_commit_eq (tx : ℕ) (row : Row ρ) : (row.commit tx).written = (row.rollback tx).written := by
  unfold commit rollback
  split
  · split
    · rfl
    · rfl
  · rfl

theorem written_rollback_iff {tx owner : ℕ} {value : ρ} {row : Row ρ} :
    (row.rollback tx).written = some (owner, value) ↔ owner ≠ tx ∧ row.written = some (owner, value) := by
  obtain ⟨committed, written⟩ := row
  cases written with
  | none => simp [rollback]
  | some version =>
    obtain ⟨owner', value'⟩ := version
    by_cases howner : owner' = tx
    · simp only [rollback, howner, if_true, reduceCtorEq, Option.some.injEq, Prod.mk.injEq, false_iff]
      exact fun h => h.1 h.2.1.symm
    · simp only [rollback, howner, if_false, Option.some.injEq, Prod.mk.injEq]
      exact ⟨fun h => ⟨h.1 ▸ howner, h⟩, And.right⟩

end Row

/-- A table under transactions at the isolation level READ COMMITTED. -/
abbrev Table (κ ρ : Type) := Dict κ (Row ρ)

namespace Table

variable {κ ρ : Type} [DecidableEq κ]

/-- The committed version of a row. -/
def committed (table : Table κ ρ) (k : κ) : Option ρ := (table.get? k).bind Row.committed

/-- The version that waits to be committed, with its transaction. -/
def written (table : Table κ ρ) (k : κ) : Option (ℕ × ρ) := (table.get? k).bind Row.written

/-- `SELECT ... WHERE id = k`. -/
def select (tx : ℕ) (k : κ) (table : Table κ ρ) : Option ρ := (table.get? k).bind (Row.visible tx)

omit [DecidableEq κ] in
/-- The rows of a `SELECT`. -/
def selectWhere (tx : ℕ) (p : ρ → Bool) (table : Table κ ρ) : List ρ :=
  (table.items.filterMap fun (_, row) => row.visible tx).filter p

/-- `UPDATE ... WHERE id = k RETURNING id`. -/
def update (tx : ℕ) (k : κ) (f : ρ → ρ) (table : Table κ ρ) : Option (Table κ ρ × Bool) :=
  match table.get? k with
  | none => some (table, false)
  | some row => (row.update tx f).map fun row' => (table.set k row', (row.visible tx).isSome)

/-- `INSERT` of a new row. -/
def insert (tx : ℕ) (k : κ) (value : ρ) (table : Table κ ρ) : Option (Table κ ρ) :=
  match table.get? k with
  | none => some (table.set k { committed := none, written := some (tx, value) })
  | some _ => none

omit [DecidableEq κ] in
def commit (tx : ℕ) (table : Table κ ρ) : Table κ ρ := table.mapValues (Row.commit tx)

omit [DecidableEq κ] in
def rollback (tx : ℕ) (table : Table κ ρ) : Table κ ρ := table.mapValues (Row.rollback tx)

variable {tx : ℕ} {k : κ} {table table' : Table κ ρ}

theorem select_eq (tx : ℕ) (k : κ) (table : Table κ ρ) :
    table.select tx k =
      match table.written k with
      | some (owner, value) => if owner = tx then some value else table.committed k
      | none => table.committed k := by
  unfold select written committed
  cases table.get? k with
  | none => rfl
  | some row => rfl

/-- A transaction that has not written the row sees what is committed. -/
theorem select_eq_committed (h : ∀ value, table.written k ≠ some (tx, value)) :
    table.select tx k = table.committed k := by
  rw [select_eq]
  split
  · rename_i owner value hwritten
    rw [if_neg fun heq => h value (by rw [hwritten, heq])]
  · rfl

theorem written_set (table : Table κ ρ) (k j : κ) (row : Row ρ) :
    written (Dict.set table k row) j = if j = k then row.written else table.written j := by
  unfold written
  rw [Dict.get?_set]
  split
  · rfl
  · rfl

/-- An UPDATE leaves every committed version, and every other row, as they are. -/
theorem committed_update {f : ρ → ρ} {found : Bool} (h : table.update tx k f = some (table', found)) (j : κ) :
    table'.committed j = table.committed j := by
  unfold update at h
  cases hrow : table.get? k with
  | none =>
    rw [hrow] at h
    cases h
    rfl
  | some row =>
    rw [hrow] at h
    obtain ⟨row', hupdate, heq⟩ := Option.map_eq_some_iff.mp h
    cases heq
    have hcommitted : row'.committed = row.committed := by
      unfold Row.update at hupdate
      split at hupdate
      · split at hupdate
        · cases hupdate
          rfl
        · split at hupdate <;> cases hupdate
          rfl
      · cases hupdate
        rfl
    unfold committed
    rw [Dict.get?_set]
    split
    · rename_i hjk
      rw [hjk, hrow, Option.bind_some, Option.bind_some, hcommitted]
    · rfl

/-- What an UPDATE writes is the newest version, changed. -/
theorem written_update {f : ρ → ρ} {found : Bool} (h : table.update tx k f = some (table', found)) (j : κ) :
    table'.written j = table.written j ∨
      j = k ∧ ((∃ value, table.written k = some (tx, value) ∧ table'.written k = some (tx, f value)) ∨
        ∃ value, table.written k = none ∧ table.committed k = some value ∧ table'.written k = some (tx, f value)) := by
  unfold update at h
  cases hrow : table.get? k with
  | none =>
    rw [hrow] at h
    cases h
    exact .inl rfl
  | some row =>
    rw [hrow] at h
    obtain ⟨row', hupdate, heq⟩ := Option.map_eq_some_iff.mp h
    cases heq
    by_cases hjk : j = k
    · subst hjk
      have hold : table.written j = row.written := by rw [written, hrow, Option.bind_some]
      have hcommitted : table.committed j = row.committed := by rw [committed, hrow, Option.bind_some]
      have hnew : written (table.set j row') j = row'.written := by rw [written_set, if_pos rfl]
      rw [hold, hcommitted, hnew]
      unfold Row.update at hupdate
      split at hupdate
      · rename_i owner value hwritten
        split at hupdate
        · rename_i howner
          cases hupdate
          exact .inr ⟨rfl, .inl ⟨value, by rw [hwritten, howner], rfl⟩⟩
        · split at hupdate <;> cases hupdate
          exact .inl rfl
      · rename_i hwritten
        cases hupdate
        cases hvalue : row.committed with
        | none => exact .inl (by rw [hwritten]; rfl)
        | some value => exact .inr ⟨rfl, .inr ⟨value, hwritten, rfl, rfl⟩⟩
    · left
      rw [written_set, if_neg hjk]

/-- An UPDATE that has found its row locks it. -/
theorem written_update_found {f : ρ → ρ} (h : table.update tx k f = some (table', true))
    (hfree : ∀ value, table.written k ≠ some (tx, value)) :
    table.written k = none ∧ ∃ value, table.committed k = some value ∧
      ∀ j, table'.written j = if j = k then some (tx, f value) else table.written j := by
  unfold update at h
  cases hrow : table.get? k with
  | none =>
    rw [hrow] at h
    cases h
  | some row =>
    rw [hrow] at h
    obtain ⟨row', hupdate, heq⟩ := Option.map_eq_some_iff.mp h
    simp only [Prod.mk.injEq] at heq
    obtain ⟨rfl, hfound⟩ := heq
    have hwritten : table.written k = row.written := by rw [written, hrow, Option.bind_some]
    have hcommitted : table.committed k = row.committed := by rw [committed, hrow, Option.bind_some]
    have hvisible : row.visible tx = row.committed := by
      have hselect := select_eq_committed hfree
      rwa [select, hrow, Option.bind_some, hcommitted] at hselect
    rw [hvisible] at hfound
    obtain ⟨value, hvalue⟩ := Option.isSome_iff_exists.mp hfound
    cases hversion : row.written with
    | none =>
      simp only [Row.update, hversion, hvalue, Option.map_some, Option.some.injEq] at hupdate
      subst hupdate
      exact ⟨hwritten.trans hversion, value, hcommitted.trans hvalue, fun j => written_set ..⟩
    | some version =>
      obtain ⟨owner, other⟩ := version
      have howner : owner ≠ tx := fun heq => hfree other (by rw [hwritten, hversion, heq])
      simp [Row.update, hversion, howner, hvalue] at hupdate
theorem committed_insert {value : ρ} (h : table.insert tx k value = some table') (j : κ) :
    table'.committed j = table.committed j := by
  unfold insert at h
  split at h
  · rename_i hrow
    cases h
    unfold committed
    rw [Dict.get?_set]
    split
    · rename_i hjk
      rw [hjk, hrow]
      rfl
    · rfl
  · cases h

/-- An INSERT locks its row, which was not there. -/
theorem written_insert {value : ρ} (h : table.insert tx k value = some table') :
    table.written k = none ∧ table.committed k = none ∧
      ∀ j, table'.written j = if j = k then some (tx, value) else table.written j := by
  unfold insert at h
  split at h
  · rename_i hrow
    cases h
    refine ⟨?_, ?_, fun j => written_set ..⟩
    · rw [written, hrow, Option.bind_none]
    · rw [committed, hrow, Option.bind_none]
  · cases h

/-- A COMMIT publishes what its transaction has written. -/
theorem committed_commit (tx : ℕ) (table : Table κ ρ) (k : κ) :
    (table.commit tx).committed k =
      match table.written k with
      | some (owner, value) => if owner = tx then some value else table.committed k
      | none => table.committed k := by
  unfold commit committed written
  rw [Dict.get?_mapValues]
  cases table.get? k with
  | none => rfl
  | some row =>
    simp only [Option.map_some, Option.bind_some, Row.commit]
    cases row.written with
    | none => rfl
    | some version =>
      dsimp only
      split <;> rfl

theorem committed_rollback (tx : ℕ) (table : Table κ ρ) (k : κ) :
    (table.rollback tx).committed k = table.committed k := by
  unfold rollback committed
  rw [Dict.get?_mapValues]
  cases table.get? k with
  | none => rfl
  | some row =>
    simp only [Option.map_some, Option.bind_some, Row.rollback]
    cases row.written with
    | none => rfl
    | some version =>
      dsimp only
      split <;> rfl

/-- The versions that wait after every row has changed, if they are known row by row. -/
theorem written_mapValues_iff {f : Row ρ → Row ρ} {P : Prop} {version : ℕ × ρ}
    (hf : ∀ row : Row ρ, (f row).written = some version ↔ P ∧ row.written = some version) :
    written (Dict.mapValues f table) k = some version ↔ P ∧ table.written k = some version := by
  unfold written
  rw [Dict.get?_mapValues]
  cases table.get? k with
  | none => simp
  | some row => exact hf row

/-- The end of a transaction frees its locks and no others. -/
theorem written_commit_iff {owner : ℕ} {value : ρ} :
    (table.commit tx).written k = some (owner, value) ↔ owner ≠ tx ∧ table.written k = some (owner, value) :=
  written_mapValues_iff fun row => by rw [Row.written_commit_eq, Row.written_rollback_iff]

theorem written_rollback_iff {owner : ℕ} {value : ρ} :
    (table.rollback tx).written k = some (owner, value) ↔ owner ≠ tx ∧ table.written k = some (owner, value) :=
  written_mapValues_iff fun _ => Row.written_rollback_iff

/-- A SELECT that finds nothing of what is committed by others. -/
theorem not_of_selectWhere_eq_nil {p : ρ → Bool} (h : table.selectWhere tx p = []) {value : ρ}
    (hown : ∀ value, table.written k ≠ some (tx, value)) (hcommitted : table.committed k = some value) : ¬ p value := by
  obtain ⟨row, hrow, hvalue⟩ := Option.bind_eq_some_iff.mp hcommitted
  have hvisible : row.visible tx = some value := by
    have hselect := select_eq_committed hown
    rw [select, hrow, hcommitted] at hselect
    exact hselect
  rw [selectWhere, List.filter_eq_nil_iff] at h
  exact h value (List.mem_filterMap.mpr ⟨(k, row), Dict.get?_eq_some_iff.mp hrow, hvisible⟩)

end Table
