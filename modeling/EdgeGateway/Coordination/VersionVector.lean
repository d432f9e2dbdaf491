import Mathlib.Data.Finset.Basic
import EdgeGateway.Library.KeyedHistory
import EdgeGateway.Library.Dict
import EdgeGateway.Library.Transition

namespace gateway.version_vector

/-- `_clock`, the counter of every node that has one. -/
structure VersionVector (ν : Type) where
  clock : Dict ν ℕ

namespace VersionVector

variable {ν : Type} [DecidableEq ν]

def new : VersionVector ν := { clock := .empty }

/-- Increment the counter for a node; the second component is the value returned. -/
def increment (self : VersionVector ν) (node_id : ν) : VersionVector ν × ℕ :=
  let value := self.clock.getD node_id 0 + 1
  ({ clock := self.clock.set node_id value }, value)

def merge_loop (clock : Dict ν ℕ) : List (ν × ℕ) → Dict ν ℕ
  | [] => clock
  | (node_id, version) :: rest =>
    merge_loop (clock.set node_id (max (clock.getD node_id 0) version)) rest

def merge (self other : VersionVector ν) : VersionVector ν :=
  { clock := merge_loop self.clock other.clock.items }

/-- The union of both key sets. Python leaves the order of a set open. -/
def all_nodes (self other : VersionVector ν) : List ν := self.clock.keys ∪ other.clock.keys

def dominates_loop (self other : VersionVector ν) : List ν → Bool → Bool
  | [], at_least_one_greater => at_least_one_greater
  | node_id :: rest, at_least_one_greater =>
    let self_val := self.clock.getD node_id 0
    let other_val := other.clock.getD node_id 0
    if self_val < other_val then false
    else dominates_loop self other rest (if self_val > other_val then true else at_least_one_greater)

def dominates (self other : VersionVector ν) : Bool :=
  dominates_loop self other (all_nodes self other) false

/-- `__eq__`: every component matches, a missing one counting as 0. -/
def eq (self other : VersionVector ν) : Bool :=
  (all_nodes self other).all fun n => self.clock.getD n 0 == other.clock.getD n 0

def concurrent_with (self other : VersionVector ν) : Bool :=
  !self.dominates other && !other.dominates self && !self.eq other

def copy (self : VersionVector ν) : VersionVector ν := { clock := self.clock }

def to_dict (self : VersionVector ν) : Dict ν ℕ := self.clock

def from_dict (data : Dict ν ℕ) : VersionVector ν := { clock := data }

/-- The vector as a total function of the nodes. -/
def counts (self : VersionVector ν) : ν → ℕ := fun n => self.clock.getD n 0

theorem counts_new : (new : VersionVector ν).counts = 0 := rfl

theorem counts_increment (self : VersionVector ν) (n : ν) :
    (self.increment n).1.counts = Function.update self.counts n (self.counts n + 1) := by
  funext m
  by_cases h : m = n
  · subst h
    simp [counts, increment, Dict.getD_set]
  · simp [counts, increment, Dict.getD_set, h]

theorem getD_merge_loop {l : List (ν × ℕ)} (hl : (l.map Prod.fst).Nodup) (clock : Dict ν ℕ) (n : ν) :
    (merge_loop clock l).getD n 0 = max (clock.getD n 0) ((l.lookup n).getD 0) := by
  induction l generalizing clock with
  | nil => simp [merge_loop]
  | cons head rest ih =>
    obtain ⟨k, version⟩ := head
    simp only [List.map_cons, List.nodup_cons] at hl
    rw [merge_loop, ih hl.2, Dict.getD_set, Dict.lookup_cons_eq_ite]
    by_cases h : n = k
    · subst h
      have hnone : rest.lookup n = none := by
        rw [Option.eq_none_iff_forall_ne_some]
        intro v hv
        have hmem : (n, v) ∈ rest := (Dict.get?_eq_some_iff (d := ⟨rest, hl.2⟩)).mp hv
        exact hl.1 (List.mem_map_of_mem (f := Prod.fst) hmem)
      simp [hnone]
    · rw [if_neg h, if_neg h]

/-- Merging takes the larger counter of every node. -/
theorem counts_merge (self other : VersionVector ν) :
    (self.merge other).counts = self.counts ⊔ other.counts := by
  funext n
  exact getD_merge_loop other.clock.nodup self.clock n

theorem mem_all_nodes {self other : VersionVector ν} {n : ν}
    (h : self.counts n ≠ 0 ∨ other.counts n ≠ 0) : n ∈ all_nodes self other := by
  rw [all_nodes, List.mem_union_iff]
  by_contra hnot
  rw [not_or] at hnot
  rcases h with h | h
  · exact h (Dict.getD_of_not_mem hnot.1 0)
  · exact h (Dict.getD_of_not_mem hnot.2 0)

theorem dominates_loop_iff (self other : VersionVector ν) (nodes : List ν) (greater : Bool) :
    dominates_loop self other nodes greater = true ↔
      (∀ n ∈ nodes, other.counts n ≤ self.counts n) ∧
        (greater = true ∨ ∃ n ∈ nodes, other.counts n < self.counts n) := by
  induction nodes generalizing greater with
  | nil => simp [dominates_loop]
  | cons n rest ih =>
    change (if self.counts n < other.counts n then false
      else dominates_loop self other rest (if self.counts n > other.counts n then true else greater)) = true ↔ _
    by_cases hlt : self.counts n < other.counts n
    · have hnot : ¬ other.counts n ≤ self.counts n := Nat.not_le_of_lt hlt
      simp [hlt, hnot]
    · rw [if_neg hlt, ih]
      have hle : other.counts n ≤ self.counts n := Nat.le_of_not_lt hlt
      by_cases hgt : self.counts n > other.counts n
      · simp [hgt, hle]
      · simp [hgt, hle]

/-- `dominates` is the strict pointwise order, in whatever order it visits the nodes. -/
theorem dominates_iff (self other : VersionVector ν) :
    self.dominates other = true ↔ other.counts < self.counts := by
  rw [dominates, dominates_loop_iff, Pi.lt_def]
  constructor
  · rintro ⟨hle, hgt⟩
    refine ⟨fun n => ?_, ?_⟩
    · by_cases hzero : other.counts n = 0
      · rw [hzero]
        exact Nat.zero_le _
      · exact hle n (mem_all_nodes (.inr hzero))
    · obtain ⟨n, _, hn⟩ := hgt.resolve_left (by simp)
      exact ⟨n, hn⟩
  · rintro ⟨hle, n, hn⟩
    refine ⟨fun m _ => hle m, .inr ⟨n, mem_all_nodes (.inl ?_), hn⟩⟩
    omega

theorem eq_iff (self other : VersionVector ν) : self.eq other = true ↔ self.counts = other.counts := by
  simp only [eq, List.all_eq_true, beq_iff_eq]
  constructor
  · intro h
    funext n
    by_cases hmem : n ∈ all_nodes self other
    · exact h n hmem
    · have hself : self.counts n = 0 := by_contra fun h => hmem (mem_all_nodes (.inl h))
      have hother : other.counts n = 0 := by_contra fun h => hmem (mem_all_nodes (.inr h))
      rw [hself, hother]
  · intro h n _
    exact congrFun h n

theorem concurrent_with_iff (self other : VersionVector ν) :
    self.concurrent_with other = true ↔ ¬ self.counts ≤ other.counts ∧ ¬ other.counts ≤ self.counts := by
  simp only [concurrent_with, Bool.and_eq_true, Bool.not_eq_eq_eq_not, Bool.not_true,
    ← Bool.not_eq_true, dominates_iff, eq_iff]
  constructor
  · rintro ⟨⟨hnot, hnot'⟩, hne⟩
    exact ⟨fun hle => hnot' (lt_of_le_of_ne hle hne), fun hle => hnot (lt_of_le_of_ne hle (Ne.symm hne))⟩
  · rintro ⟨hnot, hnot'⟩
    exact ⟨⟨fun h => hnot' h.le, fun h => hnot h.le⟩, fun h => hnot h.le⟩

end VersionVector

/-- The dicts of the process. An object is the address of its `_clock`, and no
address is given out twice. -/
abbrev Heap (ν : Type) := List (Dict ν ℕ)

/-- The methods that change the object they are called on. -/
inductive Mutation (ν : Type) where
  | increment (node_id : ν)
  /-- `other` may be any object, the one that is changed included. -/
  | merge (other : ℕ)

variable {ν : Type}

namespace Heap

/-- The value of the object whose `_clock` is at the address. -/
def vector (h : Heap ν) (self : ℕ) : VersionVector ν := { clock := h[self]?.getD .empty }

/-- `deepcopy` makes a new dict of the same entries: ids and counters are immutable. -/
def copy (h : Heap ν) (self : ℕ) : Heap ν × ℕ := (h ++ [(h.vector self).copy.clock], h.length)

theorem vector_set_of_ne (h : Heap ν) {self other : ℕ} (hne : other ≠ self) (clock : Dict ν ℕ) :
    vector (h.set self clock) other = h.vector other := by
  simp only [vector, List.getElem?_set_ne hne.symm]

theorem vector_copy_of_lt (h : Heap ν) (self : ℕ) {other : ℕ} (hother : other < h.length) :
    (h.copy self).1.vector other = h.vector other := by
  simp only [copy, vector, List.getElem?_append_left hother]

theorem vector_copy_self (h : Heap ν) (self : ℕ) :
    (h.copy self).1.vector (h.copy self).2 = (h.vector self).copy := by
  simp [copy, vector, VersionVector.copy]

variable [DecidableEq ν]

def increment (h : Heap ν) (self : ℕ) (node_id : ν) : Heap ν :=
  h.set self ((h.vector self).increment node_id).1.clock

def merge (h : Heap ν) (self other : ℕ) : Heap ν :=
  h.set self ((h.vector self).merge (h.vector other)).clock

def mutate (h : Heap ν) (self : ℕ) : Mutation ν → Heap ν
  | .increment node_id => h.increment self node_id
  | .merge other => h.merge self other

def mutate_all (h : Heap ν) (self : ℕ) : List (Mutation ν) → Heap ν
  | [] => h
  | m :: rest => mutate_all (h.mutate self m) self rest

/-- A method changes the object it is called on, and no other. -/
theorem vector_mutate_of_ne (h : Heap ν) {self other : ℕ} (hne : other ≠ self) (m : Mutation ν) :
    (h.mutate self m).vector other = h.vector other := by
  cases m with
  | increment node_id => exact vector_set_of_ne h hne _
  | merge source => exact vector_set_of_ne h hne _

theorem vector_mutate_all_of_ne {self other : ℕ} (hne : other ≠ self) (ms : List (Mutation ν))
    (h : Heap ν) : (h.mutate_all self ms).vector other = h.vector other := by
  induction ms generalizing h with
  | nil => rfl
  | cons m rest ih =>
    rw [mutate_all, ih, vector_mutate_of_ne h hne]

/-- What is called on a copy leaves the original as it is. -/
theorem vector_mutate_copy (h : Heap ν) (self : Fin h.length) (ms : List (Mutation ν)) :
    ((h.copy self).1.mutate_all (h.copy self).2 ms).vector self = h.vector self := by
  have hne : (self : ℕ) ≠ (h.copy self).2 := Nat.ne_of_lt self.isLt
  rw [vector_mutate_all_of_ne hne, vector_copy_of_lt h self self.isLt]

end Heap

end gateway.version_vector
