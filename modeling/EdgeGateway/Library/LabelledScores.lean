import Mathlib.Data.Finset.Lattice.Basic
import Mathlib.Data.Finset.Max
import Mathlib.Data.Rat.Defs
import Mathlib.Order.Bounds.Image
import Mathlib.Order.Max
import Mathlib.Tactic.Linarith

/-! Labelled scores, of which those above a threshold are predicted. -/

namespace LabelledScores

variable {K : Type*} [LinearOrder K]

section Defs

variable (labelled : List (K × Bool)) (t : K)

/-- How many are predicted. -/
def predicted : ℕ := labelled.countP fun x => t < x.1

/-- How many are predicted rightly. -/
def hits : ℕ := labelled.countP fun x => t < x.1 && x.2

def positives : ℕ := labelled.countP (·.2)

/-- The harmonic mean of precision and recall, in counts. -/
def f1 : ℚ := 2 * hits labelled t / (predicted labelled t + positives labelled)

/-- The same when everything is predicted. -/
def f1_all : ℚ := 2 * positives labelled / (labelled.length + positives labelled)

end Defs

variable {labelled : List (K × Bool)} {t u : K}

/-- What counts of a threshold is the scores above it. -/
theorem f1_congr (h : ∀ x ∈ labelled, t < x.1 ↔ u < x.1) : f1 labelled t = f1 labelled u := by
  have hpredicted : predicted labelled t = predicted labelled u :=
    List.countP_congr fun x hx => by simpa using h x hx
  have hhits : hits labelled t = hits labelled u :=
    List.countP_congr fun x hx => by simp [h x hx]
  rw [f1, f1, hpredicted, hhits]

theorem f1_of_forall_lt (h : ∀ x ∈ labelled, t < x.1) : f1 labelled t = f1_all labelled := by
  have hpredicted : predicted labelled t = labelled.length :=
    List.countP_eq_length.mpr fun x hx => decide_eq_true (h x hx)
  have hhits : hits labelled t = positives labelled :=
    List.countP_congr fun x hx => by simp [h x hx]
  rw [f1, f1_all, hpredicted, hhits]

theorem exists_forall_lt [Nonempty K] [NoMinOrder K] (labelled : List (K × Bool)) : ∃ t, ∀ x ∈ labelled, t < x.1 := by
  induction labelled with
  | nil =>
    obtain ⟨t⟩ := ‹Nonempty K›
    exact ⟨t, List.forall_mem_nil _⟩
  | cons x rest ih =>
    obtain ⟨t, ht⟩ := ih
    obtain ⟨u, hu⟩ := exists_lt (min x.1 t)
    refine ⟨u, List.forall_mem_cons.mpr ⟨hu.trans_le (min_le_left _ _), fun y hy => ?_⟩⟩
    exact (hu.trans_le (min_le_right _ _)).trans (ht y hy)

/-- A threshold is below all scores, or it cuts like the highest score that it reaches. -/
theorem exists_cut (labelled : List (K × Bool)) (t : K) :
    (∀ x ∈ labelled, t < x.1) ∨ ∃ c ∈ labelled, ∀ x ∈ labelled, t < x.1 ↔ c.1 < x.1 := by
  obtain hnone | hsome := (labelled.toFinset.filter (·.1 ≤ t)).eq_empty_or_nonempty
  · left
    intro x hx
    by_contra hle
    have hmem : x ∈ labelled.toFinset.filter (·.1 ≤ t) :=
      Finset.mem_filter.mpr ⟨List.mem_toFinset.mpr hx, not_lt.mp hle⟩
    rw [hnone] at hmem
    exact absurd hmem (Finset.notMem_empty x)
  · right
    obtain ⟨c, hc, hmax⟩ := Finset.exists_max_image _ Prod.fst hsome
    obtain ⟨hmem, hle⟩ := Finset.mem_filter.mp hc
    refine ⟨c, List.mem_toFinset.mp hmem, fun x hx => ⟨hle.trans_lt, fun hlt => ?_⟩⟩
    by_contra hnot
    exact absurd (hmax x (Finset.mem_filter.mpr ⟨List.mem_toFinset.mpr hx, not_lt.mp hnot⟩)) (not_le.mpr hlt)

/-- The best cut is at one of the scores, or below them all. -/
theorem f1_le_iff [Nonempty K] [NoMinOrder K] {bound : ℚ} :
    (∀ t, f1 labelled t ≤ bound) ↔ f1_all labelled ≤ bound ∧ ∀ x ∈ labelled, f1 labelled x.1 ≤ bound := by
  constructor
  · intro h
    obtain ⟨t, ht⟩ := exists_forall_lt labelled
    refine ⟨?_, fun x _ => h x.1⟩
    rw [← f1_of_forall_lt ht]
    exact h t
  · rintro ⟨hall, hscores⟩ t
    obtain hbelow | ⟨c, hc, hcut⟩ := exists_cut labelled t
    · rw [f1_of_forall_lt hbelow]
      exact hall
    · rw [f1_congr hcut]
      exact hscores c hc

end LabelledScores
