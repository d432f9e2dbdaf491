import EdgeGateway.Library.Interference
import EdgeGateway.Library.Observation
import EdgeGateway.Library.ReadCommitted

/-! Sessions over one table with a unique index, each of them a transaction at READ COMMITTED. -/

/-- The primary key and the unique index of a table, and how its rows may change. -/
structure TableSchema (κ ρ υ : Type) where
  key : ρ → κ
  index : ρ → υ
  Follows : ρ → ρ → Prop
  refl : ∀ v, Follows v v
  trans : ∀ {u v w}, Follows u v → Follows v w → Follows u w
  key_eq : ∀ {v w}, Follows v w → key w = key v
  index_eq : ∀ {v w}, Follows v w → index w = index v

namespace Sessions

variable {κ ρ χ υ ι α : Type}

/-- The statements of a session. The server fills in what is left open of a new row. -/
inductive Statement (κ ρ χ : Type) where
  | select (k : κ)
  | select_where (p : ρ → Bool)
  | insert (k : κ) (value : χ → ρ)
  | update (k : κ) (f : ρ → ρ)
  | commit

abbrev Statement.Reply : Statement κ ρ χ → Type
  | .select _ => Option ρ
  | .select_where _ => List ρ
  -- Whether the row violates no unique index.
  | .insert _ _ => Bool
  -- Whether the row was found.
  | .update _ _ => Bool
  | .commit => Unit

end Sessions

abbrev Session (κ ρ χ α : Type) := Program (Sessions.Statement κ ρ χ) Sessions.Statement.Reply α

namespace Sessions

variable {κ ρ χ υ ι α : Type}

/-- Send a statement. -/
abbrev execute (statement : Statement κ ρ χ) : Session κ ρ χ statement.Reply := Program.op statement

section Server

variable [DecidableEq κ] [DecidableEq υ] (schema : TableSchema κ ρ υ) (table : Table κ ρ)

omit [DecidableEq κ] in
/-- Another transaction inserts a row with the same index, and may commit it or not. -/
def contested (tx : ℕ) (value : ρ) : Bool :=
  table.items.any fun (_, row) => row.committed.isNone &&
    row.written.any fun (owner, other) => owner ≠ tx && schema.index other = schema.index value

omit [DecidableEq κ] in
/-- A row has the same index. -/
def taken (value : ρ) : Bool :=
  table.items.any fun (_, row) => row.committed.any (fun other => schema.index other = schema.index value) ||
    row.written.any fun (_, other) => schema.index other = schema.index value

/-- The server executes a statement of the transaction, unless that waits for a lock. -/
def perform (tx : ℕ) (choice : χ) : (statement : Statement κ ρ χ) → Option (Table κ ρ × statement.Reply)
  | .select k => some (table, table.select tx k)
  | .select_where p => some (table, table.selectWhere tx p)
  | .insert k value =>
    if contested schema table tx (value choice) then none
    else if taken schema table (value choice) then some (table, false)
    else (table.insert tx k (value choice)).map fun table => (table, true)
  | .update k f => table.update tx k f
  | .commit => some (table.commit tx, ())

end Server

variable [DecidableEq κ] [DecidableEq υ]

/-- Any number of calls, each in a session whose transaction is rolled back when the session is closed without a
commit or its connection is lost. -/
def threads (schema : TableSchema κ ρ υ) (operation : ι → Session κ ρ χ α) :
    Threads ℕ ι (Table κ ρ) (Statement κ ρ χ) Statement.Reply α χ where
  start table _ call := some (table, operation call)
  perform table tx statement choice := perform schema table tx choice statement
  finish table tx := table.rollback tx
  abort table tx := some (table.rollback tx)

abbrev State (κ ρ χ α : Type) := Threads.State ℕ (Table κ ρ) (Statement κ ρ χ) Statement.Reply α
abbrev Action (ι χ : Type) := Threads.Action ℕ ι χ

section Tables

/-- A version of the row that is committed or may be. -/
def Live (table : Table κ ρ) (k : κ) (v : ρ) : Prop := table.committed k = some v ∨ ∃ tx, table.written k = some (tx, v)

/-- The rows are under their keys and differ in their index, and what waits for a commit follows what is committed. -/
structure Coherent (schema : TableSchema κ ρ υ) (table : Table κ ρ) : Prop where
  keyed : ∀ k v, Live table k v → schema.key v = k
  distinct : ∀ k k' v v', Live table k v → Live table k' v' → schema.index v = schema.index v' → k = k'
  follows : ∀ k tx v c, table.written k = some (tx, v) → table.committed k = some c → schema.Follows c v

/-- What was committed is still there, and has changed as rows may. -/
def Evolves (schema : TableSchema κ ρ υ) (table table' : Table κ ρ) : Prop :=
  ∀ k c, table.committed k = some c → ∃ c', table'.committed k = some c' ∧ schema.Follows c c'

variable {schema : TableSchema κ ρ υ} {table table' table'' : Table κ ρ}

omit [DecidableEq υ] in
theorem Evolves.refl (table : Table κ ρ) : Evolves schema table table := fun _ c h => ⟨c, h, schema.refl c⟩

omit [DecidableEq υ] in
theorem Evolves.of_committed (h : ∀ k, table'.committed k = table.committed k) : Evolves schema table table' :=
  fun k c hc => ⟨c, (h k).trans hc, schema.refl c⟩

omit [DecidableEq υ] in
theorem Evolves.trans (h : Evolves schema table table') (h' : Evolves schema table' table'') :
    Evolves schema table table'' := by
  intro k c hc
  obtain ⟨c', hc', hfollows⟩ := h k c hc
  obtain ⟨c'', hc'', hfollows'⟩ := h' k c' hc'
  exact ⟨c'', hc'', schema.trans hfollows hfollows'⟩

omit [DecidableEq υ] in
/-- A table whose rows have the keys and the indexes of old ones. -/
theorem Coherent.of_live (h : Coherent schema table)
    (hlive : ∀ k v, Live table' k v → ∃ v₀, Live table k v₀ ∧ schema.Follows v₀ v)
    (hfollows : ∀ k tx v c, table'.written k = some (tx, v) → table'.committed k = some c → schema.Follows c v) :
    Coherent schema table' where
  keyed k v hv := by
    obtain ⟨v₀, hv₀, hfollows⟩ := hlive k v hv
    rw [schema.key_eq hfollows]
    exact h.keyed k v₀ hv₀
  distinct k k' v v' hv hv' heq := by
    obtain ⟨v₀, hv₀, hfollows⟩ := hlive k v hv
    obtain ⟨v₁, hv₁, hfollows'⟩ := hlive k' v' hv'
    rw [schema.index_eq hfollows, schema.index_eq hfollows'] at heq
    exact h.distinct k k' v₀ v₁ hv₀ hv₁ heq
  follows := hfollows

omit [DecidableEq υ] in
theorem Coherent.update (h : Coherent schema table) {tx : ℕ} {k : κ} {f : ρ → ρ} {found : Bool}
    (hf : ∀ v, schema.Follows v (f v)) (hupdate : table.update tx k f = some (table', found)) : Coherent schema table' := by
  have hcommitted := Table.committed_update hupdate
  have hwritten := Table.written_update hupdate
  refine h.of_live (fun j v hv => ?_) fun j tx' v c hv hc => ?_
  · obtain hc | ⟨tx', hv⟩ := hv
    · exact ⟨v, .inl ((hcommitted j).symm.trans hc), schema.refl v⟩
    · obtain hold | ⟨rfl, ⟨value, hvalue, hnew⟩ | ⟨value, -, hvalue, hnew⟩⟩ := hwritten j
      · exact ⟨v, .inr ⟨tx', hold.symm.trans hv⟩, schema.refl v⟩
      · obtain ⟨-, rfl⟩ := Prod.mk.inj (Option.some.inj (hnew.symm.trans hv))
        exact ⟨value, .inr ⟨tx, hvalue⟩, hf value⟩
      · obtain ⟨-, rfl⟩ := Prod.mk.inj (Option.some.inj (hnew.symm.trans hv))
        exact ⟨value, .inl hvalue, hf value⟩
  · rw [hcommitted] at hc
    obtain hold | ⟨rfl, ⟨value, hvalue, hnew⟩ | ⟨value, -, hvalue, hnew⟩⟩ := hwritten j
    · exact h.follows j tx' v c (hold.symm.trans hv) hc
    · obtain ⟨-, rfl⟩ := Prod.mk.inj (Option.some.inj (hnew.symm.trans hv))
      exact schema.trans (h.follows j tx value c hvalue hc) (hf value)
    · obtain ⟨-, rfl⟩ := Prod.mk.inj (Option.some.inj (hnew.symm.trans hv))
      obtain rfl := Option.some.inj (hvalue.symm.trans hc)
      exact hf value

/-- A row whose index no other row has can be inserted. -/
theorem Coherent.insert (h : Coherent schema table) {tx : ℕ} {k : κ} {value : ρ} (hkey : schema.key value = k)
    (hfree : taken schema table value = false) (hinsert : table.insert tx k value = some table') :
    Coherent schema table' := by
  have hcommitted := Table.committed_insert hinsert
  obtain ⟨-, hnone, hwritten⟩ := Table.written_insert hinsert
  have hlive : ∀ j v, Live table' j v → (j = k ∧ v = value) ∨ Live table j v := by
    rintro j v (hc | ⟨tx', hv⟩)
    · exact .inr (.inl ((hcommitted j).symm.trans hc))
    · rw [hwritten] at hv
      split at hv
      · rename_i hj
        cases hv
        exact .inl ⟨hj, rfl⟩
      · exact .inr (.inr ⟨tx', hv⟩)
  have hother : ∀ j v, Live table j v → schema.index v ≠ schema.index value := by
    intro j v hv heq
    have htaken : taken schema table value = true := by
      rw [taken, List.any_eq_true]
      obtain hc | ⟨tx', hv⟩ := hv
      · obtain ⟨row, hrow, hcommitted⟩ := Option.bind_eq_some_iff.mp hc
        exact ⟨(j, row), Dict.get?_eq_some_iff.mp hrow, by simp [hcommitted, heq]⟩
      · obtain ⟨row, hrow, hversion⟩ := Option.bind_eq_some_iff.mp hv
        exact ⟨(j, row), Dict.get?_eq_some_iff.mp hrow, by simp [hversion, heq]⟩
    rw [hfree] at htaken
    cases htaken
  refine ⟨fun j v hv => ?_, fun j j' v v' hv hv' heq => ?_, fun j tx' v c hv hc => ?_⟩
  · obtain ⟨rfl, rfl⟩ | hold := hlive j v hv
    · exact hkey
    · exact h.keyed j v hold
  · obtain ⟨rfl, rfl⟩ | hold := hlive j v hv
    · obtain ⟨rfl, -⟩ | hold' := hlive j' v' hv'
      · rfl
      · exact absurd heq.symm (hother j' v' hold')
    · obtain ⟨rfl, rfl⟩ | hold' := hlive j' v' hv'
      · exact absurd heq (hother j v hold)
      · exact h.distinct j j' v v' hold hold' heq
  · rw [hcommitted] at hc
    rw [hwritten] at hv
    split at hv
    · rename_i hj
      rw [hj, hnone] at hc
      cases hc
    · exact h.follows j tx' v c hv hc

omit [DecidableEq υ] in
theorem Coherent.commit (h : Coherent schema table) (tx : ℕ) :
    Coherent schema (table.commit tx) ∧ Evolves schema table (table.commit tx) := by
  have hcommitted := Table.committed_commit tx table
  have hcases : ∀ k v, (table.commit tx).committed k = some v →
      table.committed k = some v ∨ table.written k = some (tx, v) := by
    intro k v hv
    rw [hcommitted] at hv
    split at hv
    · rename_i owner value hwritten
      split at hv
      · rename_i howner
        cases hv
        exact .inr (howner ▸ hwritten)
      · exact .inl hv
    · exact .inl hv
  refine ⟨h.of_live (fun k v hv => ⟨v, ?_, schema.refl v⟩) fun k tx' v c hv hc => ?_, fun k c hc => ?_⟩
  · obtain hc | ⟨tx', hv⟩ := hv
    · obtain hold | hnew := hcases k v hc
      · exact .inl hold
      · exact .inr ⟨tx, hnew⟩
    · exact .inr ⟨tx', (Table.written_commit_iff.mp hv).2⟩
  · obtain ⟨hne, hold⟩ := Table.written_commit_iff.mp hv
    obtain hc | hnew := hcases k c hc
    · exact h.follows k tx' v c hold hc
    · exact absurd (Prod.mk.inj (Option.some.inj (hold.symm.trans hnew))).1 hne
  · rw [hcommitted]
    split
    · rename_i owner value hwritten
      split
      · exact ⟨value, rfl, h.follows k owner value c hwritten hc⟩
      · exact ⟨c, hc, schema.refl c⟩
    · exact ⟨c, hc, schema.refl c⟩

omit [DecidableEq υ] in
theorem Coherent.rollback (h : Coherent schema table) (tx : ℕ) :
    Coherent schema (table.rollback tx) ∧ Evolves schema table (table.rollback tx) := by
  have hcommitted := Table.committed_rollback tx table
  refine ⟨h.of_live (fun k v hv => ⟨v, ?_, schema.refl v⟩) fun k tx' v c hv hc => ?_, .of_committed hcommitted⟩
  · obtain hc | ⟨tx', hv⟩ := hv
    · exact .inl ((hcommitted k).symm.trans hc)
    · exact .inr ⟨tx', (Table.written_rollback_iff.mp hv).2⟩
  · rw [hcommitted] at hc
    exact h.follows k tx' v c (Table.written_rollback_iff.mp hv).2 hc

theorem insert_of_true {tx : ℕ} {choice : χ} {k : κ} {value : χ → ρ}
    (h : perform schema table tx choice (.insert k value) = some (table', true)) :
    taken schema table (value choice) = false ∧ table.insert tx k (value choice) = some table' := by
  simp only [perform] at h
  split at h
  · cases h
  · split at h
    · cases h
    · rename_i hfree
      obtain ⟨inserted, hinsert, heq⟩ := Option.map_eq_some_iff.mp h
      cases heq
      exact ⟨Bool.eq_false_iff.mpr hfree, hinsert⟩

theorem taken_of_false {tx : ℕ} {choice : χ} {k : κ} {value : χ → ρ}
    (h : perform schema table tx choice (.insert k value) = some (table', false)) :
    table' = table ∧ contested schema table tx (value choice) = false ∧ taken schema table (value choice) = true := by
  simp only [perform] at h
  split at h
  · cases h
  · rename_i hfree
    split at h
    · rename_i htaken
      cases h
      exact ⟨rfl, Bool.eq_false_iff.mpr hfree, htaken⟩
    · obtain ⟨inserted, -, heq⟩ := Option.map_eq_some_iff.mp h
      cases heq

/-- The statement changes and inserts rows as the schema has it. -/
def Lawful (schema : TableSchema κ ρ υ) : Session κ ρ χ α → Prop
  | .perform (.insert k value) _ => ∀ choice, schema.key (value choice) = k
  | .perform (.update _ f) _ => ∀ v, schema.Follows v (f v)
  | _ => True

omit [DecidableEq κ] [DecidableEq υ] in
/-- One lawful session after the other. -/
theorem Lawful.bind {β : Type} {p : Session κ ρ χ α} {f : α → Session κ ρ χ β} (h : p.Always (Lawful schema))
    (hf : ∀ a, (f a).Always (Lawful schema)) : (p >>= f).Always (Lawful schema) := by
  induction p with
  | ret a => exact hf a
  | perform statement next ih =>
    refine ⟨?_, fun reply => ih reply (h.next reply)⟩
    have hself := h.self
    cases statement <;> exact hself

theorem Coherent.perform (h : Coherent schema table) {tx : ℕ} {choice : χ} {statement : Statement κ ρ χ}
    {next : statement.Reply → Session κ ρ χ α} {reply : statement.Reply} (hlawful : Lawful schema (.perform statement next))
    (hperform : perform schema table tx choice statement = some (table', reply)) :
    Coherent schema table' ∧ Evolves schema table table' := by
  cases statement with
  | select k | select_where p =>
    cases hperform
    exact ⟨h, .refl table⟩
  | insert k value =>
    cases reply with
    | false =>
      rw [(taken_of_false hperform).1]
      exact ⟨h, .refl table⟩
    | true =>
      obtain ⟨hfree, hinsert⟩ := insert_of_true hperform
      exact ⟨h.insert (hlawful choice) hfree hinsert, .of_committed (Table.committed_insert hinsert)⟩
  | update k f => exact ⟨h.update hlawful hperform, .of_committed (Table.committed_update hperform)⟩
  | commit =>
    cases hperform
    exact h.commit tx

end Tables

section Runs

variable {schema : TableSchema κ ρ υ} {operation : ι → Session κ ρ χ α} {s s' : State κ ρ χ α}

/-- Runs start with any rows that differ in their index, and without transactions. -/
def system (schema : TableSchema κ ρ υ) (operation : ι → Session κ ρ χ α) :
    TransitionSystem (State κ ρ χ α) (Action ι χ) :=
  (threads schema operation).system fun table => Coherent schema table ∧ ∀ k, table.written k = none

theorem Coherent.settle {t : ℕ} {table table' : Table κ ρ} {p : Session κ ρ χ α} (h : Coherent schema table')
    (hevolves : Evolves schema table table') :
    Coherent schema ((threads schema operation).settle s t table' p).shared ∧
      Evolves schema table ((threads schema operation).settle s t table' p).shared := by
  cases p with
  | ret a =>
    obtain ⟨hcoherent, hback⟩ := h.rollback t
    exact ⟨hcoherent, hevolves.trans hback⟩
  | perform statement next => exact ⟨h, hevolves⟩

/-- One step of lawful sessions. -/
theorem coherent_step {a : Action ι χ} (h : Coherent schema s.shared)
    (hlawful : ∀ t p, s.threads t = some p → Lawful schema p) (hstep : (threads schema operation).step s a = some s') :
    Coherent schema s'.shared ∧ Evolves schema s.shared s'.shared := by
  cases a with
  | start t call =>
    obtain ⟨-, table, p, hstart, rfl⟩ := Threads.step_start hstep
    cases hstart
    exact h.settle (.refl _)
  | perform t choice =>
    obtain ⟨statement, next, table, reply, hthread, hperform, rfl⟩ := Threads.step_perform hstep
    obtain ⟨hcoherent, hevolves⟩ := h.perform (hlawful t _ hthread) hperform
    exact hcoherent.settle hevolves
  | abort t =>
    obtain ⟨p, table, -, habort, rfl⟩ := Threads.step_abort hstep
    cases habort
    exact h.rollback t

variable {ok : State κ ρ χ α → Action ι χ → Prop} (hlawful : ∀ call, (operation call).Always (Lawful schema))
include hlawful

theorem lawful_reachable (h : (system schema operation).ReachableWhere ok s) :
    ∀ t p, s.threads t = some p → p.Always (Lawful schema) := by
  refine Threads.threads_always (fun table t call table' p hstart => ?_) h
  cases hstart
  exact hlawful call

/-- In every run the rows are under their keys and differ in their index. -/
theorem coherent_reachable (h : (system schema operation).ReachableWhere ok s) : Coherent schema s.shared := by
  refine TransitionSystem.ReachableWhere.invariant_of (P := fun s => Coherent schema s.shared) (fun s hs => hs) ?_ ?_ h
  · rintro s ⟨⟨hcoherent, -⟩, -⟩
    exact hcoherent
  · intro s a s' hreach hcoherent _ hstep
    have hthreads := lawful_reachable hlawful hreach
    exact (coherent_step hcoherent (fun t p hp => (hthreads t p hp).self) hstep).1

/-- In every run, what is committed stays and changes as rows may. -/
theorem evolves_steps (h : (system schema operation).ReachableWhere ok s)
    (hsteps : (system schema operation).StepsWhere ok s s') : Evolves schema s.shared s'.shared := by
  refine hsteps.keeps (P := fun s' => Evolves schema s.shared s'.shared) ?_ h (.refl _)
  intro s₁ a s₂ hreach _ hstep hevolves
  have hthreads := lawful_reachable hlawful hreach
  exact hevolves.trans (coherent_step (coherent_reachable hlawful hreach) (fun t p hp => (hthreads t p hp).self) hstep).2

end Runs

section Readers

/-- The statements of a session that only reads, which sees what is committed. -/
inductive Query (κ ρ : Type) where
  | select (k : κ)
  | select_where (p : ρ → Bool)

abbrev Query.Reply : Query κ ρ → Type
  | .select _ => Option ρ
  | .select_where _ => List ρ

abbrev Reader (κ ρ α : Type) := Program (Query κ ρ) Query.Reply α

abbrev read (o : Query κ ρ) : Reader κ ρ o.Reply := Program.op o

omit [DecidableEq κ] in
/-- The committed rows. -/
def rows (table : Table κ ρ) : List ρ := table.items.filterMap fun (_, row) => row.committed

def query (table : Table κ ρ) : (o : Query κ ρ) → o.Reply
  | .select k => table.committed k
  | .select_where p => (rows table).filter p

theorem mem_rows_iff {table : Table κ ρ} {v : ρ} : v ∈ rows table ↔ ∃ k, table.committed k = some v := by
  constructor
  · intro hv
    obtain ⟨⟨k, row⟩, hmem, hrow⟩ := List.mem_filterMap.mp hv
    exact ⟨k, Option.bind_eq_some_iff.mpr ⟨row, Dict.get?_eq_some_iff.mpr hmem, hrow⟩⟩
  · rintro ⟨k, hv⟩
    obtain ⟨row, hrow, hcommitted⟩ := Option.bind_eq_some_iff.mp hv
    exact List.mem_filterMap.mpr ⟨(k, row), Dict.get?_eq_some_iff.mp hrow, hcommitted⟩

end Readers

section Outcomes

/-- A transaction that has written nothing. -/
def Clean (tx : ℕ) (table : Table κ ρ) : Prop := ∀ k v, table.written k ≠ some (tx, v)

/-- What a transaction can rely on while the others take steps. -/
structure Relies (schema : TableSchema κ ρ υ) (tx : ℕ) (table table' : Table κ ρ) : Prop where
  evolves : Evolves schema table table'
  own : ∀ k v, table'.written k = some (tx, v) ↔ table.written k = some (tx, v)

variable {schema : TableSchema κ ρ υ} {operation : ι → Session κ ρ χ α} {table table' table'' : Table κ ρ} {tx : ℕ}

omit [DecidableEq υ] in
theorem Relies.refl (tx : ℕ) (table : Table κ ρ) : Relies schema tx table table := ⟨.refl table, fun _ _ => .rfl⟩

omit [DecidableEq υ] in
theorem Relies.trans (h : Relies schema tx table table') (h' : Relies schema tx table' table'') :
    Relies schema tx table table'' :=
  ⟨h.evolves.trans h'.evolves, fun k v => (h'.own k v).trans (h.own k v)⟩

omit [DecidableEq υ] in
theorem Clean.relies (h : Clean tx table) (hrelies : Relies schema tx table table') : Clean tx table' :=
  fun k v hwritten => h k v ((hrelies.own k v).mp hwritten)

theorem clean_rollback (tx : ℕ) (table : Table κ ρ) : Clean tx (table.rollback tx) :=
  fun _ _ hwritten => (Table.written_rollback_iff.mp hwritten).1 rfl

theorem clean_commit (tx : ℕ) (table : Table κ ρ) : Clean tx (table.commit tx) :=
  fun _ _ hwritten => (Table.written_commit_iff.mp hwritten).1 rfl

theorem committed_commit_own {k : κ} {v : ρ} (h : table.written k = some (tx, v)) :
    (table.commit tx).committed k = some v := by
  rw [Table.committed_commit, h]
  exact if_pos rfl

/-- A transaction that has written nothing sees the committed rows. -/
theorem Clean.selectWhere_eq (h : Clean tx table) (p : ρ → Bool) : table.selectWhere tx p = (rows table).filter p := by
  refine congrArg (List.filter p) (List.filterMap_congr fun item hitem => ?_)
  have hselect := Table.select_eq_committed (h item.1)
  rw [Table.select, Table.committed, Dict.get?_eq_some_iff.mpr hitem] at hselect
  exact hselect

omit [DecidableEq υ] in
theorem Coherent.rows_nodup (h : Coherent schema table) : (rows table).Nodup := by
  have hcommitted : ∀ item ∈ table.items, ∀ v, item.2.committed = some v → schema.key v = item.1 := by
    intro item hitem v hv
    refine h.keyed item.1 v (.inl ?_)
    rw [Table.committed, Dict.get?_eq_some_iff.mpr hitem]
    exact hv
  rw [rows, List.Nodup, List.pairwise_filterMap]
  have hkeys : table.items.Pairwise fun a b => a.1 ≠ b.1 := List.pairwise_map.mp table.nodup
  refine hkeys.imp_of_mem fun {a b} ha hb hne v hv w hw heq => hne ?_
  rw [← hcommitted a ha v hv, ← hcommitted b hb w hw, heq]

omit [DecidableEq υ] in
/-- Of one index there is a committed row at most. -/
theorem Coherent.rows_cases (h : Coherent schema table) {p : ρ → Bool} {u : υ}
    (hp : ∀ v, p v = true → schema.index v = u) :
    (rows table).filter p = [] ∨ ∃ k v, (rows table).filter p = [v] ∧ table.committed k = some v ∧ p v = true := by
  have hcommitted : ∀ item ∈ table.items, ∀ v, item.2.committed = some v → table.committed item.1 = some v := by
    intro item hitem v hv
    rw [Table.committed, Dict.get?_eq_some_iff.mpr hitem]
    exact hv
  have hone : ((rows table).filter p).Pairwise fun _ _ => False := by
    rw [rows, List.pairwise_filter, List.pairwise_filterMap]
    have hkeys : table.items.Pairwise fun a b => a.1 ≠ b.1 := List.pairwise_map.mp table.nodup
    refine hkeys.imp_of_mem fun {a b} ha hb hne v hv w hw hpv hpw => hne ?_
    exact h.distinct a.1 b.1 v w (.inl (hcommitted a ha v hv)) (.inl (hcommitted b hb w hw))
      ((hp v hpv).trans (hp w hpw).symm)
  cases hrows : (rows table).filter p with
  | nil => exact .inl rfl
  | cons v rest =>
    rw [hrows, List.pairwise_cons] at hone
    have hrest : rest = [] := List.eq_nil_iff_forall_not_mem.mpr hone.1
    have hmem : v ∈ (rows table).filter p := by
      rw [hrows]
      exact List.mem_cons_self
    obtain ⟨hmem, hpv⟩ := List.mem_filter.mp hmem
    obtain ⟨k, hv⟩ := mem_rows_iff.mp hmem
    exact .inr ⟨k, v, by rw [hrest], hv, hpv⟩

omit [DecidableEq υ] in
theorem Coherent.rows_eq (h : Coherent schema table) {p : ρ → Bool} {u : υ} (hp : ∀ v, p v = true → schema.index v = u)
    {k : κ} {v : ρ} (hv : table.committed k = some v) (hpv : p v = true) : (rows table).filter p = [v] := by
  have hmem : v ∈ (rows table).filter p := List.mem_filter.mpr ⟨mem_rows_iff.mpr ⟨k, hv⟩, hpv⟩
  obtain hnil | ⟨k', v', hone, -, -⟩ := h.rows_cases hp
  · rw [hnil] at hmem
    cases hmem
  · rw [hone] at hmem ⊢
    rw [List.mem_singleton.mp hmem]

/-- A row that violates the unique index does so for a committed row. -/
theorem Coherent.committed_of_taken (h : Coherent schema table) (hclean : Clean tx table) {value : ρ}
    (hcontested : contested schema table tx value = false) (htaken : taken schema table value = true) :
    ∃ k v, table.committed k = some v ∧ schema.index v = schema.index value := by
  obtain ⟨⟨k, row⟩, hmem, hrow⟩ := List.any_eq_true.mp htaken
  have hget : table.get? k = some row := Dict.get?_eq_some_iff.mpr hmem
  have hcommitted : table.committed k = row.committed := by rw [Table.committed, hget, Option.bind_some]
  have hwritten : table.written k = row.written := by rw [Table.written, hget, Option.bind_some]
  obtain hrow | hrow := Bool.or_eq_true_iff.mp hrow
  · obtain ⟨v, hv, hindex⟩ := (Option.any_eq_true _ _).mp hrow
    exact ⟨k, v, hcommitted.trans hv, of_decide_eq_true hindex⟩
  · obtain ⟨⟨owner, v⟩, hv, hindex⟩ := (Option.any_eq_true _ _).mp hrow
    have hindex : schema.index v = schema.index value := of_decide_eq_true hindex
    have howner : owner ≠ tx := fun heq => hclean k v (by rw [hwritten, hv, heq])
    cases hc : row.committed with
    | none =>
      -- An inserted row that is not committed makes the statement wait.
      have hwaits : contested schema table tx value = true := by
        refine List.any_eq_true.mpr ⟨(k, row), hmem, ?_⟩
        simp [hc, hv, howner, hindex]
      rw [hcontested] at hwaits
      cases hwaits
    | some c =>
      have hfollows := h.follows k owner v c (hwritten.trans hv) (hcommitted.trans hc)
      exact ⟨k, c, hcommitted.trans hc, (schema.index_eq hfollows).symm.trans hindex⟩


/-- A statement leaves what another transaction has written. -/
theorem own_perform {other : ℕ} {choice : χ} {statement : Statement κ ρ χ} {reply : statement.Reply} (hne : other ≠ tx)
    (hperform : perform schema table other choice statement = some (table', reply)) (k : κ) (v : ρ) :
    table'.written k = some (tx, v) ↔ table.written k = some (tx, v) := by
  cases statement with
  | select j | select_where p =>
    cases hperform
    exact .rfl
  | insert j value =>
    cases reply with
    | false => rw [(taken_of_false hperform).1]
    | true =>
      obtain ⟨hnone, -, hwritten⟩ := Table.written_insert (insert_of_true hperform).2
      rw [hwritten]
      by_cases hk : k = j
      · rw [if_pos hk, hk, hnone]
        simp [hne]
      · rw [if_neg hk]
  | update j f =>
    obtain hold | ⟨rfl, ⟨value, hbefore, hafter⟩ | ⟨value, hbefore, -, hafter⟩⟩ := Table.written_update hperform k
    · rw [hold]
    · rw [hbefore, hafter]
      simp [hne]
    · rw [hbefore, hafter]
      simp [hne]
  | commit =>
    cases hperform
    rw [Table.written_commit_iff]
    exact and_iff_right hne.symm

theorem own_rollback {other : ℕ} (hne : other ≠ tx) (k : κ) (v : ρ) :
    (table.rollback other).written k = some (tx, v) ↔ table.written k = some (tx, v) := by
  rw [Table.written_rollback_iff]
  exact and_iff_right hne.symm

variable {s s' : State κ ρ χ α}

/-- A step leaves what the transactions of other threads have written. -/
theorem own_step {a : Action ι χ} (hne : a.thread ≠ tx) (hstep : (threads schema operation).step s a = some s') (k : κ)
    (v : ρ) : s'.shared.written k = some (tx, v) ↔ s.shared.written k = some (tx, v) := by
  have hsettle : ∀ t table (p : Session κ ρ χ α), t ≠ tx →
      (((threads schema operation).settle s t table p).shared.written k = some (tx, v) ↔ table.written k = some (tx, v)) := by
    intro t table p ht
    cases p with
    | ret a => exact own_rollback ht k v
    | perform statement next => exact .rfl
  cases a with
  | start t call =>
    obtain ⟨-, table, p, hstart, rfl⟩ := Threads.step_start hstep
    cases hstart
    exact hsettle t _ _ hne
  | perform t choice =>
    obtain ⟨statement, next, table, reply, -, hperform, rfl⟩ := Threads.step_perform hstep
    exact (hsettle t _ _ hne).trans (own_perform hne hperform k v)
  | abort t =>
    obtain ⟨p, table, -, habort, rfl⟩ := Threads.step_abort hstep
    cases habort
    exact own_rollback hne k v

variable {ok : State κ ρ χ α → Action ι χ → Prop}

/-- A transaction that is not running has written nothing. -/
theorem clean_reachable (h : (system schema operation).ReachableWhere ok s) : ∀ t, s.threads t = none → Clean t s.shared := by
  refine TransitionSystem.ReachableWhere.invariant (P := fun s => ∀ t, s.threads t = none → Clean t s.shared) ?_ ?_ h
  · rintro s ⟨⟨-, hwritten⟩, -⟩ t - k v
    rw [hwritten]
    simp
  · intro s a s' hclean _ hstep u hfree
    by_cases hu : a.thread = u
    · subst hu
      have hsettle : ∀ t table (p : Session κ ρ χ α), ((threads schema operation).settle s t table p).threads t = none →
          Clean t ((threads schema operation).settle s t table p).shared := by
        intro t table p hfree
        cases p with
        | ret a => exact clean_rollback t table
        | perform statement next =>
          change Function.update s.threads t _ t = none at hfree
          rw [Function.update_self] at hfree
          cases hfree
      cases a with
      | start t call =>
        obtain ⟨-, table, p, -, rfl⟩ := Threads.step_start hstep
        exact hsettle t table p hfree
      | perform t choice =>
        obtain ⟨statement, next, table, reply, -, -, rfl⟩ := Threads.step_perform hstep
        exact hsettle t table _ hfree
      | abort t =>
        obtain ⟨p, table, -, habort, rfl⟩ := Threads.step_abort hstep
        cases habort
        exact clean_rollback t s.shared
    · rw [Threads.step_threads_of_ne hstep hu] at hfree
      intro k v hwritten
      exact hclean u hfree k v ((own_step hu hstep k v).mp hwritten)

/-- What a session brings about beside lawful ones, from a table on that its transaction has not written. -/
abbrev Ensures {β : Type} (schema : TableSchema κ ρ υ) (operation : ι → Session κ ρ χ α) (tx : ℕ)
    (post : β → Table κ ρ → Prop) (p : Session κ ρ χ β) (table : Table κ ρ) : Prop :=
  (threads schema operation).Ensures tx (Coherent schema) (Relies schema tx) post p table

/-- A call that returns has brought its postcondition about, and what it has not committed is gone. -/
theorem post_of_returned {post : ℕ → α → Table κ ρ → Prop} (hlawful : ∀ call, (operation call).Always (Lawful schema))
    (hcalls : ∀ tx call table, Clean tx table → Ensures schema operation tx (post tx) (operation call) table)
    (h : (system schema operation).ReachableWhere ok s) {t : ℕ} {choice : χ} {a : α}
    (hreturned : (threads schema operation).returned s t choice = some a)
    (hstep : (threads schema operation).step s (.perform t choice) = some s') :
    ∃ table, post t a table ∧ ∀ k, s'.shared.committed k = table.committed k := by
  obtain ⟨table, hpost, heq⟩ := Threads.post_of_returned (Coherent schema) (Relies schema) post Relies.refl (fun t _ _ _ => Relies.trans)
    (fun s hreach => coherent_reachable hlawful hreach)
    (fun s a s' u hreach _ hstep hu =>
      ⟨(coherent_step (coherent_reachable hlawful hreach)
        (fun t p hp => (lawful_reachable hlawful hreach t p hp).self) hstep).2, own_step hu hstep⟩)
    (fun s t call table p hreach hfree hstart => by
      cases hstart
      exact hcalls t call s.shared (clean_reachable hreach t hfree))
    h hreturned hstep
  refine ⟨table, hpost, fun k => ?_⟩
  rw [heq]
  exact Table.committed_rollback t table k

end Outcomes

section Spared

variable (p : ρ → Prop)

/-- An UPDATE finds no row with the property. -/
def Spares (s : State κ ρ χ α) : Action ι χ → Prop
  | .perform t _ => ∀ k f next c, s.threads t = some (.perform (.update k f) next) → s.shared.committed k = some c → ¬ p c
  | _ => True

/-- No UPDATE is executed. -/
def sparing (s : State κ ρ χ α) : Action ι χ → Bool
  | .perform t _ =>
    match s.threads t with
    | some (.perform (.update _ _) _) => false
    | _ => true
  | _ => true

/-- No committed row with the property has another version. -/
def Spared (table : Table κ ρ) : Prop := ∀ k c, table.committed k = some c → p c → table.written k = none

/-- The committed rows with the property stay as they are. -/
def Keeps (table table' : Table κ ρ) : Prop := ∀ k c, table.committed k = some c → p c → table'.committed k = some c

variable {p} {table table' : Table κ ρ}

omit [DecidableEq υ] in
theorem spares_of_sparing {s : State κ ρ χ α} {a : Action ι χ} (h : sparing s a = true) : Spares p s a := by
  cases a with
  | start t call | abort t => trivial
  | perform t choice =>
    intro k f next c hthread
    rw [sparing, hthread] at h
    cases h

/-- The end of a transaction leaves no version waiting that did not wait before. -/
theorem written_eq_none {k : κ} (h : table.written k = none)
    (hold : ∀ owner value, table'.written k = some (owner, value) → table.written k = some (owner, value)) :
    table'.written k = none := by
  cases hwritten : table'.written k with
  | none => rfl
  | some version =>
    have hbefore := hold version.1 version.2 hwritten
    rw [h] at hbefore
    cases hbefore

theorem Spared.rollback (h : Spared p table) (tx : ℕ) : Spared p (table.rollback tx) ∧ Keeps p table (table.rollback tx) := by
  have hcommitted := Table.committed_rollback tx table
  refine ⟨fun k c hc hp => ?_, fun k c hc _ => (hcommitted k).trans hc⟩
  rw [hcommitted] at hc
  exact written_eq_none (h k c hc hp) fun _ _ hwritten => (Table.written_rollback_iff.mp hwritten).2

theorem Spared.commit (h : Spared p table) (tx : ℕ) : Spared p (table.commit tx) ∧ Keeps p table (table.commit tx) := by
  have hcommitted := Table.committed_commit tx table
  refine ⟨fun k c hc hp => ?_, fun k c hc hp => ?_⟩
  · cases hwritten : Table.written (table.commit tx) k with
    | none => rfl
    | some version =>
      -- Another transaction has locked the row, so it is committed as it was.
      obtain ⟨hne, hold⟩ := Table.written_commit_iff.mp hwritten
      rw [hcommitted, hold] at hc
      dsimp only at hc
      rw [if_neg hne] at hc
      rw [h k c hc hp] at hold
      cases hold
  · rw [hcommitted, h k c hc hp]
    exact hc

variable {schema : TableSchema κ ρ υ} {operation : ι → Session κ ρ χ α} {s s' : State κ ρ χ α}

theorem Spared.perform {t : ℕ} {choice : χ} {statement : Statement κ ρ χ} {next : statement.Reply → Session κ ρ χ α}
    {reply : statement.Reply} (h : Spared p s.shared) (hthread : s.threads t = some (.perform statement next))
    (hspares : Spares p s (.perform t choice : Action ι χ))
    (hperform : Sessions.perform schema s.shared t choice statement = some (table', reply)) :
    Spared p table' ∧ Keeps p s.shared table' := by
  cases statement with
  | select k | select_where q =>
    cases hperform
    exact ⟨h, fun _ _ hc _ => hc⟩
  | insert k value =>
    cases reply with
    | false =>
      rw [(taken_of_false hperform).1]
      exact ⟨h, fun _ _ hc _ => hc⟩
    | true =>
      obtain ⟨-, hinsert⟩ := insert_of_true hperform
      have hcommitted := Table.committed_insert hinsert
      obtain ⟨-, hnone, hwritten⟩ := Table.written_insert hinsert
      refine ⟨fun j c hc hp => ?_, fun j c hc _ => (hcommitted j).trans hc⟩
      rw [hcommitted] at hc
      rw [hwritten, if_neg]
      · exact h j c hc hp
      · rintro rfl
        rw [hnone] at hc
        cases hc
  | update k f =>
    have hcommitted := Table.committed_update hperform
    refine ⟨fun j c hc hp => ?_, fun j c hc _ => (hcommitted j).trans hc⟩
    rw [hcommitted] at hc
    obtain hold | ⟨rfl, -⟩ := Table.written_update hperform j
    · rw [hold]
      exact h j c hc hp
    · exact absurd hp (hspares j f next c hthread hc)
  | commit =>
    cases hperform
    exact h.commit t

theorem Spared.settle {t : ℕ} {program : Session κ ρ χ α} (h : Spared p table') (hkeeps : Keeps p table table') :
    Spared p ((threads schema operation).settle s t table' program).shared ∧
      Keeps p table ((threads schema operation).settle s t table' program).shared := by
  cases program with
  | ret a =>
    obtain ⟨hspared, hback⟩ := h.rollback t
    exact ⟨hspared, fun k c hc hp => hback k c (hkeeps k c hc hp) hp⟩
  | perform statement next => exact ⟨h, hkeeps⟩

theorem spared_step {a : Action ι χ} (h : Spared p s.shared) (hspares : Spares p s a)
    (hstep : (threads schema operation).step s a = some s') : Spared p s'.shared ∧ Keeps p s.shared s'.shared := by
  cases a with
  | start t call =>
    obtain ⟨-, table, program, hstart, rfl⟩ := Threads.step_start hstep
    cases hstart
    exact h.settle fun _ _ hc _ => hc
  | perform t choice =>
    obtain ⟨statement, next, table, reply, hthread, hperform, rfl⟩ := Threads.step_perform hstep
    obtain ⟨hspared, hkeeps⟩ := h.perform hthread hspares hperform
    exact hspared.settle hkeeps
  | abort t =>
    obtain ⟨program, table, -, habort, rfl⟩ := Threads.step_abort hstep
    cases habort
    exact h.rollback t

theorem spared_reachable (h : (system schema operation).ReachableWhere (Spares p) s) : Spared p s.shared := by
  refine TransitionSystem.ReachableWhere.invariant (P := fun s => Spared p s.shared) ?_ ?_ h
  · rintro s ⟨⟨-, hwritten⟩, -⟩ k c _ _
    exact hwritten k
  · intro s a s' hspared hspares hstep
    exact (spared_step hspared hspares hstep).1

/-- In a run that spares the rows with the property, none of them changes. -/
theorem keeps_steps (h : (system schema operation).ReachableWhere (Spares p) s)
    (hsteps : (system schema operation).StepsWhere (Spares p) s s') : Keeps p s.shared s'.shared := by
  refine hsteps.keeps (P := fun s' => Keeps p s.shared s'.shared) ?_ h fun _ _ hc _ => hc
  intro s₁ a s₂ hreach hspares hstep hkeeps k c hc hp
  exact (spared_step (spared_reachable hreach) hspares hstep).2 k c (hkeeps k c hc hp) hp

end Spared

end Sessions
