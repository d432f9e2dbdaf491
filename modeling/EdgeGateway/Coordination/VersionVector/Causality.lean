import EdgeGateway.Coordination.VersionVector

namespace gateway.version_vector

/-- A vector that occurred in a run, with the set of update events it absorbed. The
`k`-th update of node `n` is the event `(n, k)`. -/
structure Occurrence (ν : Type) where
  vector : VersionVector ν
  history : Finset (ν × ℕ)

/-- Replicas with their current vectors, the updates each of them made so far, and
all vectors that ever occurred, which is what may be copied and sent. -/
structure State (ν : Type) where
  replica : ν → Occurrence ν
  updates : ν → ℕ
  recorded : List (Occurrence ν)

inductive Action (ν : Type) where
  /-- Replica `n` increments its own id. -/
  | update (n : ν)
  /-- Replica `n` merges a copy of the recorded vector at the index. -/
  | sync (n : ν) (index : ℕ)

variable {ν : Type} [DecidableEq ν]

def State.put (s : State ν) (n : ν) (next : Occurrence ν) : State ν :=
  { s with replica := Function.update s.replica n next, recorded := next :: s.recorded }

def step (s : State ν) : Action ν → Option (State ν)
  | .update n =>
    let current := s.replica n
    let event := (n, s.updates n)
    some { s.put n { vector := (current.vector.increment n).1, history := insert event current.history } with
      updates := Function.update s.updates n (s.updates n + 1) }
  | .sync n index =>
    match s.recorded[index]? with
    | none => none
    | some other =>
      let current := s.replica n
      some (s.put n { vector := current.vector.merge other.vector.copy, history := current.history ∪ other.history })

def started : State ν :=
  { replica := fun _ => { vector := .new, history := ∅ }
    updates := fun _ => 0
    recorded := [{ vector := .new, history := ∅ }] }

def system : TransitionSystem (State ν) (Action ν) where
  initial s := s = started
  step := step

/-- Every history is the set of events its vector stands for. No vector counts more
updates than were made, and a replica counts all of its own. -/
structure Inv (s : State ν) : Prop where
  history_eq : ∀ r ∈ s.recorded, (r.history : Set (ν × ℕ)) = CausalHistory.events r.vector.counts
  counts_le : ∀ r ∈ s.recorded, r.vector.counts ≤ s.updates
  replica_mem : ∀ n, s.replica n ∈ s.recorded
  own_count : ∀ n, (s.replica n).vector.counts n = s.updates n

theorem inv_started : Inv (started : State ν) where
  history_eq r hr := by
    rw [List.mem_singleton.mp hr]
    simp [VersionVector.counts_new, CausalHistory.events_zero]
  counts_le r hr := by
    rw [List.mem_singleton.mp hr, VersionVector.counts_new]
    exact fun _ => Nat.zero_le _
  replica_mem _ := List.mem_singleton.mpr rfl
  own_count _ := rfl

private theorem replica_mem_put {s : State ν} (h : Inv s) (n : ν) (next : Occurrence ν)
    (m : ν) : (s.put n next).replica m ∈ (s.put n next).recorded := by
  simp only [State.put, List.mem_cons]
  by_cases hm : m = n
  · subst hm
    exact .inl (Function.update_self ..)
  · rw [Function.update_of_ne hm]
    exact .inr (h.replica_mem m)

theorem inv_update {s s' : State ν} {n : ν} (h : Inv s) (hstep : step s (.update n) = some s') :
    Inv s' := by
  cases hstep
  have hmem := h.replica_mem n
  have hcounts := VersionVector.counts_increment (s.replica n).vector n
  rw [h.own_count n] at hcounts
  refine ⟨?_, ?_, replica_mem_put h n _, ?_⟩
  · intro r hr
    obtain rfl | hr := List.mem_cons.mp hr
    · have hevents := CausalHistory.events_update (s.replica n).vector.counts n
      rw [h.own_count n] at hevents
      simp only [Finset.coe_insert, h.history_eq _ hmem, hcounts, hevents]
    · exact h.history_eq r hr
  · intro r hr m
    obtain rfl | hr := List.mem_cons.mp hr
    · simp only [hcounts]
      by_cases hm : m = n
      · subst hm
        simp
      · simpa [Function.update_of_ne hm] using h.counts_le _ hmem m
    · have hle : r.vector.counts m ≤ s.updates m := h.counts_le r hr m
      by_cases hm : m = n
      · subst hm
        simp only [Function.update_self]
        omega
      · simpa [Function.update_of_ne hm] using hle
  · intro m
    by_cases hm : m = n
    · subst hm
      simp [State.put, hcounts]
    · simpa [State.put, Function.update_of_ne hm] using h.own_count m

theorem inv_sync {s s' : State ν} {n : ν} {index : ℕ} (h : Inv s)
    (hstep : step s (.sync n index) = some s') : Inv s' := by
  simp only [step] at hstep
  split at hstep
  · cases hstep
  rename_i other hother
  cases hstep
  have hmem := h.replica_mem n
  have hrec : other ∈ s.recorded := List.mem_of_getElem? hother
  have hcounts := VersionVector.counts_merge (s.replica n).vector other.vector.copy
  refine ⟨?_, ?_, replica_mem_put h n _, ?_⟩
  · intro r hr
    obtain rfl | hr := List.mem_cons.mp hr
    · simp only [Finset.coe_union, h.history_eq _ hmem, h.history_eq _ hrec, hcounts]
      exact (CausalHistory.events_sup _ _).symm
    · exact h.history_eq r hr
  · intro r hr
    obtain rfl | hr := List.mem_cons.mp hr
    · simp only [hcounts]
      exact sup_le (h.counts_le _ hmem) (h.counts_le _ hrec)
    · exact h.counts_le r hr
  · intro m
    by_cases hm : m = n
    · subst hm
      -- nobody counts more updates of this replica than it does itself
      have hle : other.vector.counts m ≤ s.updates m := h.counts_le _ hrec m
      simp only [State.put, Function.update_self, hcounts, Pi.sup_apply, h.own_count m]
      exact sup_eq_left.mpr hle
    · simpa [State.put, Function.update_of_ne hm] using h.own_count m

theorem reachable_inv {s : State ν} (h : system.Reachable s) : Inv s := by
  refine TransitionSystem.ReachableWhere.invariant (P := Inv) ?_ ?_ h
  · rintro s rfl
    exact inv_started
  · intro s a s' hinv _ hstep
    cases a with
    | update n => exact inv_update hinv hstep
    | sync n index => exact inv_sync hinv hstep

/-- For any two vectors of a run, domination is proper inclusion of their causal
histories, equality is equality, and concurrency is the absence of inclusion. -/
theorem vectors_capture_causality {s : State ν} (h : system.Reachable s) {a b : Occurrence ν}
    (ha : a ∈ s.recorded) (hb : b ∈ s.recorded) :
    (b.vector.dominates a.vector = true ↔ a.history ⊂ b.history) ∧
      (a.vector.eq b.vector = true ↔ a.history = b.history) ∧
      (a.vector.concurrent_with b.vector = true ↔
        ¬ a.history ⊆ b.history ∧ ¬ b.history ⊆ a.history) := by
  have hinv := reachable_inv h
  have hea := hinv.history_eq a ha
  have heb := hinv.history_eq b hb
  refine ⟨?_, ?_, ?_⟩
  · rw [VersionVector.dominates_iff, ← CausalHistory.events_ssubset_iff, ← hea, ← heb, Finset.coe_ssubset]
  · rw [VersionVector.eq_iff, ← CausalHistory.events_inj, ← hea, ← heb, Finset.coe_inj]
  · rw [VersionVector.concurrent_with_iff, ← CausalHistory.events_subset_iff,
      ← CausalHistory.events_subset_iff, ← hea, ← heb, Finset.coe_subset, Finset.coe_subset]

/-- Two replicas update independently and the second then hears of the first. -/
theorem vectors_capture_causality_two_replicas :
    ∃ (s : State ℕ) (a b c : Occurrence ℕ), system.Reachable s ∧
      a.history = {(0, 0)} ∧ b.history = {(1, 0)} ∧ c.history = {(0, 0), (1, 0)} ∧
      a.vector.concurrent_with b.vector = true ∧ c.vector.dominates a.vector = true := by
  have hstart : system.initial (started : State ℕ) := rfl
  obtain ⟨s, hreach, htest⟩ := TransitionSystem.exists_of_replay (fun _ _ => True)
    (fun _ _ => true) (fun _ _ _ => trivial) hstart
    [.update 0, .update 1, .sync 1 1]
    (fun s => s.recorded.map (·.history) = [{(0, 0), (1, 0)}, {(1, 0)}, {(0, 0)}, ∅]) (by decide)
  have hmap := of_decide_eq_true htest
  obtain ⟨c, rest, hrec, hc, hmap⟩ := List.map_eq_cons_iff.mp hmap
  obtain ⟨b, rest, rfl, hb, hmap⟩ := List.map_eq_cons_iff.mp hmap
  obtain ⟨a, rest, rfl, ha, -⟩ := List.map_eq_cons_iff.mp hmap
  have hmem : a ∈ s.recorded ∧ b ∈ s.recorded ∧ c ∈ s.recorded := by simp [hrec]
  refine ⟨s, a, b, c, hreach, ha, hb, hc, ?_, ?_⟩
  · rw [(vectors_capture_causality hreach hmem.1 hmem.2.1).2.2, ha, hb]
    decide
  · rw [(vectors_capture_causality hreach hmem.1 hmem.2.2).1, ha, hc]
    decide

end gateway.version_vector
