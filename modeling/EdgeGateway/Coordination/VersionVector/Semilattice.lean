import EdgeGateway.Coordination.VersionVector

namespace gateway.version_vector

variable {ν : Type} [DecidableEq ν]

namespace VersionVector

/-- `self == other or self.dominates(other)`. -/
def covers (self other : VersionVector ν) : Bool := self.eq other || self.dominates other

theorem covers_iff (self other : VersionVector ν) :
    self.covers other = true ↔ other.counts ≤ self.counts := by
  rw [covers, Bool.or_eq_true, eq_iff, dominates_iff, le_iff_eq_or_lt, eq_comm]

theorem dominates_irrefl (a : VersionVector ν) : a.dominates a = false := by
  rw [← Bool.not_eq_true, dominates_iff]
  exact lt_irrefl _

theorem dominates_asymm {a b : VersionVector ν} (h : a.dominates b = true) :
    b.dominates a = false := by
  rw [dominates_iff] at h
  rw [← Bool.not_eq_true, dominates_iff]
  exact h.asymm

theorem dominates_trans {a b c : VersionVector ν} (hab : a.dominates b = true)
    (hbc : b.dominates c = true) : a.dominates c = true := by
  rw [dominates_iff] at hab hbc ⊢
  exact hbc.trans hab

/-- Equal vectors stand in the same relation to everything. -/
theorem dominates_congr {a a' b b' : VersionVector ν} (ha : a.eq a' = true) (hb : b.eq b' = true) :
    a.dominates b = a'.dominates b' := by
  rw [eq_iff] at ha hb
  rw [Bool.eq_iff_iff, dominates_iff, dominates_iff, ha, hb]

theorem concurrent_with_eq (a b : VersionVector ν) :
    a.concurrent_with b = (!a.dominates b && !b.dominates a && !a.eq b) := rfl

/-- The four outcomes of a comparison exclude each other, and one of them holds. -/
theorem comparison_exclusive (a b : VersionVector ν) :
    [a.eq b, a.dominates b, b.dominates a, a.concurrent_with b].count true = 1 := by
  have hgreater : a.dominates b = true → a.eq b = false ∧ b.dominates a = false := by
    intro h
    refine ⟨?_, dominates_asymm h⟩
    rw [dominates_iff] at h
    rw [← Bool.not_eq_true, eq_iff]
    exact h.ne'
  have hless : b.dominates a = true → a.eq b = false := by
    intro h
    rw [dominates_iff] at h
    rw [← Bool.not_eq_true, eq_iff]
    exact h.ne
  rw [concurrent_with_eq]
  cases ha : a.dominates b with
  | true =>
    obtain ⟨heq, hb⟩ := hgreater ha
    simp [heq, hb]
  | false =>
    cases hb : b.dominates a with
    | true => simp [hless hb]
    | false => cases a.eq b <;> simp

theorem merge_idem (a : VersionVector ν) : (a.merge a).eq a = true := by
  rw [eq_iff, counts_merge, sup_idem]

theorem merge_comm (a b : VersionVector ν) : (a.merge b).eq (b.merge a) = true := by
  rw [eq_iff, counts_merge, counts_merge, sup_comm]

theorem merge_assoc (a b c : VersionVector ν) :
    ((a.merge b).merge c).eq (a.merge (b.merge c)) = true := by
  simp only [eq_iff, counts_merge, sup_assoc]

/-- `merge` is the least upper bound of both vectors. -/
theorem covers_merge_iff (a b c : VersionVector ν) :
    c.covers (a.merge b) = true ↔ c.covers a = true ∧ c.covers b = true := by
  simp only [covers_iff, counts_merge, sup_le_iff]

theorem merge_covers_left (a b : VersionVector ν) : (a.merge b).covers a = true := by
  rw [covers_iff, counts_merge]
  exact le_sup_left

theorem merge_covers_right (a b : VersionVector ν) : (a.merge b).covers b = true := by
  rw [covers_iff, counts_merge]
  exact le_sup_right

theorem increment_dominates (a : VersionVector ν) (node_id : ν) :
    (a.increment node_id).1.dominates a = true := by
  rw [dominates_iff, counts_increment, lt_update_self_iff]
  exact Nat.lt_succ_self _

theorem from_dict_to_dict (a : VersionVector ν) : (from_dict a.to_dict).eq a = true :=
  (eq_iff _ _).mpr rfl

end VersionVector

open VersionVector

/-- Version vectors up to `==` are a join-semilattice: `dominates` is its strict order and
`merge` its join. Vectors that are stored apart stay apart. -/
theorem join_semilattice :
    (∀ a : VersionVector ν, a.dominates a = false) ∧
    (∀ a b : VersionVector ν, a.dominates b = true → b.dominates a = false) ∧
    (∀ a b c : VersionVector ν, a.dominates b = true → b.dominates c = true →
      a.dominates c = true) ∧
    (∀ a a' b b' : VersionVector ν, a.eq a' = true → b.eq b' = true →
      a.dominates b = a'.dominates b') ∧
    (∀ a b : VersionVector ν,
      [a.eq b, a.dominates b, b.dominates a, a.concurrent_with b].count true = 1) ∧
    (∀ a : VersionVector ν, (a.merge a).eq a = true) ∧
    (∀ a b : VersionVector ν, (a.merge b).eq (b.merge a) = true) ∧
    (∀ a b c : VersionVector ν, ((a.merge b).merge c).eq (a.merge (b.merge c)) = true) ∧
    (∀ a b : VersionVector ν, (a.merge b).covers a = true ∧ (a.merge b).covers b = true ∧
      ∀ c : VersionVector ν, c.covers a = true → c.covers b = true →
        c.covers (a.merge b) = true) ∧
    (∀ (a : VersionVector ν) (node_id : ν), (a.increment node_id).1.dominates a = true) ∧
    (∀ a : VersionVector ν, (from_dict a.to_dict).eq a = true) ∧
    ∀ (h : Heap ν) (self : Fin h.length) (ms : List (Mutation ν)),
      (h.copy self).1.vector (h.copy self).2 = h.vector self ∧
      ((h.copy self).1.mutate_all (h.copy self).2 ms).vector self = h.vector self := by
  refine ⟨dominates_irrefl, fun a b => dominates_asymm, fun a b c => dominates_trans,
    fun a a' b b' => dominates_congr, comparison_exclusive, merge_idem, merge_comm, merge_assoc,
    ?_, increment_dominates, from_dict_to_dict, ?_⟩
  · intro a b
    refine ⟨merge_covers_left a b, merge_covers_right a b, ?_⟩
    intro c ha hb
    exact (covers_merge_iff a b c).mpr ⟨ha, hb⟩
  · intro h self ms
    exact ⟨Heap.vector_copy_self h self, Heap.vector_mutate_copy h self ms⟩

/-- Two updates of a node dominate the vector it started with. -/
theorem join_semilattice_updates :
    ((VersionVector.new.increment "gw").1.increment "gw").1.dominates
      (VersionVector.new : VersionVector String) = true :=
  join_semilattice.2.2.1 _ _ _ (join_semilattice.2.2.2.2.2.2.2.2.2.1 _ "gw")
    (join_semilattice.2.2.2.2.2.2.2.2.2.1 _ "gw")

end gateway.version_vector
