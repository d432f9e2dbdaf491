import Mathlib.Algebra.Order.Group.Defs
import Mathlib.Data.Set.Card
import EdgeGateway.Library.Dict
import Mathlib.Algebra.GroupWithZero.Nat
import Mathlib.Data.Set.Lattice
import Mathlib.Order.Basic
import Mathlib.Order.CompletePartialOrder
import Mathlib.Order.Lattice
import Mathlib.Logic.Function.Basic

/-! `collections.Counter`, and what a count of the values of a map says about its keys. -/

namespace Dict

variable {κ α : Type*} [DecidableEq κ]

/-- `Counter(l)`. -/
def counter (l : List κ) : Dict κ ℕ := l.foldl (fun counts k => counts.set k (counts.getD k 0 + 1)) .empty

theorem counter_append_singleton (l : List κ) (k : κ) :
    counter (l ++ [k]) = (counter l).set k ((counter l).getD k 0 + 1) :=
  List.foldl_append

theorem getD_counter (l : List κ) (k : κ) : (counter l).getD k 0 = l.count k := by
  induction l using List.reverseRecOn with
  | nil => rfl
  | append_singleton l k' ih =>
    rw [counter_append_singleton, getD_set, List.count_append, List.count_singleton]
    by_cases h : k = k'
    · subst h
      rw [if_pos rfl, ih, if_pos (beq_self_eq_true k)]
    · rw [if_neg h, ih, if_neg (by simpa using Ne.symm h), Nat.add_zero]

/-- Keys are counted once each, so a count of values is a count of keys. -/
theorem countP_values_eq_ncard (d : Dict κ α) (p : α → Bool) :
    d.values.countP p = {k | ∃ a, d.get? k = some a ∧ p a = true}.ncard := by
  have hset : {k | ∃ a, d.get? k = some a ∧ p a = true} = ((d.filter fun _ => p).keys.toFinset : Set κ) := by
    ext k
    rw [Finset.mem_coe, List.mem_toFinset, mem_keys_iff, Set.mem_ofPred_eq]
    refine exists_congr fun a => ?_
    rw [get?_filter, Option.filter_eq_some_iff]
  have hnodup : (d.filter fun _ => p).keys.Nodup := (d.filter fun _ => p).nodup
  rw [hset, Set.ncard_coe_finset, List.toFinset_card_of_nodup hnodup, keys, filter, List.length_map, values,
    List.countP_map, List.countP_eq_length_filter]
  rfl

/-- Setting each key of a list to the value that a function gives it. -/
theorem get?_foldl_set_fun (f : κ → α) (l : List κ) (d : Dict κ α) (k : κ) :
    (l.foldl (fun d k => d.set k (f k)) d).get? k = if k ∈ l then some (f k) else d.get? k := by
  induction l generalizing d with
  | nil => rfl
  | cons k' rest ih =>
    rw [List.foldl_cons, ih, get?_set]
    by_cases hrest : k ∈ rest
    · rw [if_pos hrest, if_pos (List.mem_cons_of_mem _ hrest)]
    · rw [if_neg hrest]
      by_cases h : k = k'
      · subst h
        rw [if_pos rfl, if_pos List.mem_cons_self]
      · rw [if_neg h, if_neg (by simp [h, hrest])]

/-- Deleting each key of a list. -/
theorem get?_foldl_erase (l : List κ) (d : Dict κ α) (k : κ) :
    (l.foldl erase d).get? k = if k ∈ l then none else d.get? k := by
  induction l generalizing d with
  | nil => rfl
  | cons k' rest ih =>
    rw [List.foldl_cons, ih, get?_erase]
    by_cases hrest : k ∈ rest
    · rw [if_pos hrest, if_pos (List.mem_cons_of_mem _ hrest)]
    · rw [if_neg hrest]
      by_cases h : k = k'
      · subst h
        rw [if_pos rfl, if_pos List.mem_cons_self]
      · rw [if_neg h, if_neg (by simp [h, hrest])]

end Dict

/-! A table of the latest reports from which old ones may have been dropped, against their whole history. -/

namespace LastSeen

variable {κ τ T : Type*} [DecidableEq κ]

/-- The latest report of a key in a history that is given oldest first. -/
def latest (reports : List (κ × τ × T)) (k : κ) : Option (τ × T) := reports.reverse.lookup k

theorem latest_append_singleton (reports : List (κ × τ × T)) (k k' : κ) (report : τ × T) :
    latest (reports ++ [(k, report)]) k' = if k' = k then some report else latest reports k' := by
  rw [latest, List.reverse_append, List.reverse_singleton, List.singleton_append, Dict.lookup_cons_eq_ite]
  rfl

variable [AddCommGroup T] [LinearOrder T]

/-- The table has only latest reports, and lacks none that falls in the window before the moment. -/
structure Represents (window now : T) (reports : List (κ × τ × T)) (table : Dict κ (τ × T)) : Prop where
  sound : ∀ k report, table.get? k = some report → latest reports k = some report
  complete : ∀ k report, latest reports k = some report → now - window ≤ report.2 → table.get? k = some report

variable {window now now' : T} {reports : List (κ × τ × T)} {table table' : Dict κ (τ × T)}

theorem represents_empty : Represents window now ([] : List (κ × τ × T)) .empty where
  sound _ _ h := h
  complete _ _ h _ := h

/-- The window moves on. -/
theorem Represents.later [IsOrderedAddMonoid T] (h : Represents window now reports table) (hle : now ≤ now') :
    Represents window now' reports table where
  sound := h.sound
  complete k report hlatest hwindow := h.complete k report hlatest ((sub_le_sub_right hle window).trans hwindow)

theorem Represents.record (h : Represents window now reports table) (k : κ) (report : τ × T) :
    Represents window now (reports ++ [(k, report)]) (table.set k report) where
  sound k' report' hget := by
    rw [Dict.get?_set] at hget
    rw [latest_append_singleton]
    split_ifs at hget ⊢
    · exact hget
    · exact h.sound k' report' hget
  complete k' report' hlatest hwindow := by
    rw [latest_append_singleton] at hlatest
    rw [Dict.get?_set]
    split_ifs at hlatest ⊢
    · exact hlatest
    · exact h.complete k' report' hlatest hwindow

/-- Dropping exactly the entries before the window leaves the latest reports of the window. -/
theorem Represents.get?_pruned (h : Represents window now reports table)
    (hpruned : ∀ k, table'.get? k = (table.get? k).filter fun report => now - window ≤ report.2) {k : κ} {report : τ × T} :
    table'.get? k = some report ↔ latest reports k = some report ∧ now - window ≤ report.2 := by
  rw [hpruned, Option.filter_eq_some_iff, decide_eq_true_eq]
  constructor
  · rintro ⟨hget, hwindow⟩
    exact ⟨h.sound k report hget, hwindow⟩
  · rintro ⟨hlatest, hwindow⟩
    exact ⟨h.complete k report hlatest hwindow, hwindow⟩

theorem Represents.prune (h : Represents window now reports table)
    (hpruned : ∀ k, table'.get? k = (table.get? k).filter fun report => now - window ≤ report.2) :
    Represents window now reports table' where
  sound _ _ hget := ((h.get?_pruned hpruned).mp hget).1
  complete _ _ hlatest hwindow := (h.get?_pruned hpruned).mpr ⟨hlatest, hwindow⟩

end LastSeen

/-! Events numbered from zero at each of their sources, and the sets of events that
contain, for every source, an initial segment of its events. Such a set is given by
its vector of counts, and inclusion of sets is the pointwise order of vectors. -/

namespace CausalHistory

variable {ν : Type*}

/-- The events that a vector of counts stands for. -/
def events (v : ν → ℕ) : Set (ν × ℕ) := { e | e.2 < v e.1 }

theorem mem_events {v : ν → ℕ} {n : ν} {k : ℕ} : (n, k) ∈ events v ↔ k < v n := Iff.rfl

theorem events_subset_iff {a b : ν → ℕ} : events a ⊆ events b ↔ a ≤ b := by
  constructor
  · intro h n
    by_contra hlt
    have hmem : (n, b n) ∈ events b := h (mem_events.mpr (Nat.lt_of_not_le hlt))
    exact Nat.lt_irrefl _ (mem_events.mp hmem)
  · rintro h ⟨n, k⟩ hk
    exact Nat.lt_of_lt_of_le hk (h n)

theorem events_ssubset_iff {a b : ν → ℕ} : events a ⊂ events b ↔ a < b := by
  rw [ssubset_iff_subset_not_subset, lt_iff_le_not_ge, events_subset_iff, events_subset_iff]

theorem events_inj {a b : ν → ℕ} : events a = events b ↔ a = b := by
  rw [Set.Subset.antisymm_iff, events_subset_iff, events_subset_iff, le_antisymm_iff]

theorem events_zero : events (0 : ν → ℕ) = ∅ :=
  Set.eq_empty_iff_forall_notMem.mpr fun _ h => Nat.not_lt_zero _ h

/-- Merging two histories takes the larger count of every source. -/
theorem events_sup (a b : ν → ℕ) : events (a ⊔ b) = events a ∪ events b := by
  ext ⟨n, k⟩
  simp only [Set.mem_union, mem_events, Pi.sup_apply, lt_sup_iff]

/-- One more event of a source extends its initial segment by the next number. -/
theorem events_update [DecidableEq ν] (v : ν → ℕ) (n : ν) :
    events (Function.update v n (v n + 1)) = insert (n, v n) (events v) := by
  ext ⟨m, k⟩
  simp only [Set.mem_insert_iff, mem_events, Prod.mk.injEq]
  by_cases h : m = n
  · subst h
    simp only [Function.update_self, true_and]
    omega
  · simp [h]

end CausalHistory
