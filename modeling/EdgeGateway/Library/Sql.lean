import Mathlib.Algebra.BigOperators.Group.List.Lemmas
import Mathlib.Algebra.GroupWithZero.Nat
import Mathlib.Data.List.Dedup
import Mathlib.Data.Set.Defs
import EdgeGateway.Library.Dict

/-! `SELECT key, COUNT(*) ... GROUP BY key`. -/

namespace SqlGroups

variable {α κ : Type*} [DecidableEq κ]

/-- The groups of some rows with the number of rows in each. -/
def groups (key : α → κ) (rows : List α) : List (κ × ℕ) := (rows.map key).dedup.map fun k => (k, (rows.map key).count k)

/-- A query that groups, with the order of the groups in this execution. -/
structure GroupBy (key : α → κ) where
  run : List α → List (κ × ℕ)
  perm : ∀ rows, (run rows).Perm (groups key rows)

variable {key : α → κ}

theorem count_map (rows : List α) (k : κ) : (rows.map key).count k = rows.countP fun row => key row = k := by
  rw [List.count, List.countP_map]
  exact List.countP_congr fun row _ => by simp

theorem map_fst_groups (rows : List α) : (groups key rows).map Prod.fst = (rows.map key).dedup := by
  rw [groups, List.map_map]
  exact List.map_id _

theorem mem_groups_iff {rows : List α} {k : κ} {n : ℕ} :
    (k, n) ∈ groups key rows ↔ (∃ row ∈ rows, key row = k) ∧ n = rows.countP fun row => key row = k := by
  rw [groups, ← count_map]
  simp only [List.mem_map, List.mem_dedup, Prod.mk.injEq]
  constructor
  · rintro ⟨_, hmem, rfl, rfl⟩
    exact ⟨hmem, rfl⟩
  · rintro ⟨hmem, rfl⟩
    exact ⟨k, hmem, rfl, rfl⟩

namespace GroupBy

variable (group_by : GroupBy key) (rows : List α)

theorem nodup_keys : ((group_by.run rows).map Prod.fst).Nodup := by
  rw [((group_by.perm rows).map Prod.fst).nodup_iff, map_fst_groups]
  exact List.nodup_dedup _

theorem mem_run_iff {k : κ} {n : ℕ} :
    (k, n) ∈ group_by.run rows ↔ (∃ row ∈ rows, key row = k) ∧ n = rows.countP fun row => key row = k :=
  (group_by.perm rows).mem_iff.trans mem_groups_iff

/-- Each row is counted in one group. -/
theorem sum_counts : ((group_by.run rows).map Prod.snd).sum = rows.length := by
  have hgroups : (groups key rows).map Prod.snd = (rows.map key).dedup.map fun k => (rows.map key).count k := by
    rw [groups, List.map_map]
    rfl
  rw [((group_by.perm rows).map Prod.snd).sum_eq, hgroups, List.sum_map_count_dedup_eq_length, List.length_map]

theorem run_nil : group_by.run [] = [] := (group_by.perm []).eq_nil

/-- A map with the counts of the groups counts every row. -/
theorem sum_values_ofList : (Dict.ofList (group_by.run rows)).values.sum = rows.length := by
  rw [Dict.values, Dict.items_ofList (group_by.nodup_keys rows), group_by.sum_counts]

section Named

variable {rows} {ν β : Type*} [DecidableEq ν] (name : κ → ν) (value : κ × ℕ → β) {k : ν}

/-- A map from the names of the groups has a value of some group of that name. -/
theorem exists_of_get?_names {a : β}
    (h : (Dict.ofList ((group_by.run rows).map fun group => (name group.1, value group))).get? k = some a) :
    ∃ row ∈ rows, name (key row) = k ∧ a = value (key row, rows.countP fun other => key other = key row) := by
  obtain ⟨⟨group, n⟩, hgroup, hitem⟩ := List.mem_map.mp (Dict.mem_of_get?_ofList h)
  obtain ⟨⟨row, hrow, rfl⟩, rfl⟩ := (group_by.mem_run_iff rows).mp hgroup
  cases hitem
  exact ⟨row, hrow, rfl, rfl⟩

theorem mem_names_iff :
    k ∈ (Dict.ofList ((group_by.run rows).map fun group => (name group.1, value group))).keys ↔
      ∃ row ∈ rows, name (key row) = k := by
  rw [Dict.mem_keys_ofList, List.map_map, List.mem_map]
  constructor
  · rintro ⟨⟨group, n⟩, hgroup, rfl⟩
    obtain ⟨⟨row, hrow, rfl⟩, _⟩ := (group_by.mem_run_iff rows).mp hgroup
    exact ⟨row, hrow, rfl⟩
  · rintro ⟨row, hrow, rfl⟩
    exact ⟨(key row, _), (group_by.mem_run_iff rows).mpr ⟨⟨row, hrow, rfl⟩, rfl⟩, rfl⟩

/-- A name that is not in the map is the name of no row. -/
theorem countP_eq_zero_of_get?_names
    (h : (Dict.ofList ((group_by.run rows).map fun group => (name group.1, value group))).get? k = none) :
    (rows.countP fun row => name (key row) = k) = 0 := by
  refine List.countP_eq_zero.mpr fun row hrow hname => ?_
  obtain ⟨a, hsome⟩ := Dict.mem_keys_iff.mp ((group_by.mem_names_iff name value).mpr ⟨row, hrow, of_decide_eq_true hname⟩)
  rw [h] at hsome
  cases hsome

end Named

end GroupBy

/-- A condition that is met as often as one it implies is met wherever that one is. -/
theorem of_countP_eq {p q : α → Bool} {rows : List α} (himp : ∀ row ∈ rows, p row = true → q row = true)
    (hcount : rows.countP p = rows.countP q) {row : α} (hrow : row ∈ rows) (hq : q row = true) : p row = true := by
  have hfilter : (rows.filter q).countP p = (rows.filter q).length := by
    rw [List.countP_filter, ← List.countP_eq_length_filter, ← hcount]
    refine List.countP_congr fun other hother => ?_
    rw [Bool.and_eq_true]
    exact ⟨fun h => h.1, fun h => ⟨h, himp other hother h⟩⟩
  exact List.countP_eq_length.mp hfilter row (List.mem_filter.mpr ⟨hrow, hq⟩)

end SqlGroups

/-! Column names as PostgreSQL reads them. -/

namespace SqlIdentifier

/-- The first character of a name without quotes. -/
def starts (c : Char) : Bool := c.isAlpha || c = '_' || 128 ≤ c.toNat

/-- A later character of a name without quotes. -/
def continues (c : Char) : Bool := starts c || c.isDigit || c = '$'

/-- A name that needs no quotes. -/
def regular : List Char → Bool
  | [] => false
  | c :: rest => starts c && rest.all continues

/-- What stands between quotes, up to the end of the text; a quote in it is doubled. -/
def unquote : List Char → Option (List Char)
  | [] => none
  | '"' :: '"' :: rest => (unquote rest).map ('"' :: ·)
  | ['"'] => some []
  | '"' :: _ => none
  | c :: rest => (unquote rest).map (c :: ·)

/-- The name that an identifier stands for: without quotes its ASCII letters are folded. -/
def name? (identifier : String) : Option String :=
  match identifier.toList with
  | '"' :: quoted => (unquote quoted).map String.ofList
  | text => if regular text then some (String.ofList (text.map Char.toLower)) else none

/-- The text is an identifier, and it stands for one of the columns. -/
def NamesColumn (columns : List String) (identifier : String) : Prop :=
  ∃ column ∈ columns, name? identifier = some column

instance (columns : List String) (identifier : String) : Decidable (NamesColumn columns identifier) :=
  inferInstanceAs (Decidable (∃ column ∈ columns, name? identifier = some column))

end SqlIdentifier
