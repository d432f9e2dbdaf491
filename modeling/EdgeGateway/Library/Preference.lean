import Mathlib.Data.List.MinMax
import Mathlib.Data.List.Nodup
import Mathlib.Data.List.Sort
import Mathlib.Order.Defs.LinearOrder
import Mathlib.Order.Lattice
import Mathlib.Data.List.Basic

/-! The choice of an element that is wanted, or else of one that costs least, among those that pass, and
of the first one with the highest score. -/

namespace Preference

variable {α β : Type*} [LinearOrder β]

/-- What is chosen from a list, said of its members and not of their order. -/
def Chosen (passes wanted : α → Prop) (cost : α → β) (l : List α) : Option α → Prop
  | none => ∀ a ∈ l, ¬ passes a
  | some a => a ∈ l ∧ passes a ∧ (wanted a ∨ ∀ b ∈ l, passes b → ¬ wanted b ∧ cost a ≤ cost b)

section Choice

variable {passes wanted : α → Prop} {cost : α → β} {l l' : List α} {chosen chosen' : Option α}

theorem Chosen.eq_none_iff (h : Chosen passes wanted cost l chosen) : chosen = none ↔ ∀ a ∈ l, ¬ passes a := by
  cases chosen with
  | none => exact iff_of_true rfl h
  | some a => exact iff_of_false (Option.some_ne_none a) fun hnone => hnone a h.1 h.2.1

/-- An element is as good as left out if it is not wanted and another one costs no more. -/
theorem Chosen.of_dominated (h : Chosen passes wanted cost l chosen) (hsubset : ∀ a ∈ l, a ∈ l')
    (hrest : ∀ a ∈ l', passes a → a ∈ l ∨ ¬ wanted a ∧ ∃ b ∈ l, passes b ∧ cost b ≤ cost a) :
    Chosen passes wanted cost l' chosen := by
  cases chosen with
  | none =>
    intro a ha hpasses
    obtain hmem | ⟨_, b, hb, hpasses', _⟩ := hrest a ha hpasses
    · exact h a hmem hpasses
    · exact h b hb hpasses'
  | some best =>
    obtain ⟨hmem, hbest, hchoice⟩ := h
    refine ⟨hsubset best hmem, hbest, hchoice.imp_right fun hall a ha hpasses => ?_⟩
    obtain hmem | ⟨hwanted, b, hb, hpasses', hle⟩ := hrest a ha hpasses
    · exact hall a hmem hpasses
    · exact ⟨hwanted, (hall b hb hpasses').2.trans hle⟩

/-- The choice is the same in any order. -/
theorem Chosen.perm (h : Chosen passes wanted cost l chosen) (hperm : l.Perm l') : Chosen passes wanted cost l' chosen :=
  h.of_dominated (fun _ ha => hperm.mem_iff.mp ha) fun _ ha _ => .inl (hperm.mem_iff.mpr ha)

/-- A wanted element is chosen if no other one is wanted. -/
theorem Chosen.eq_of_wanted {a : α} (h : Chosen passes wanted cost l chosen) (ha : a ∈ l) (hpasses : passes a)
    (hwanted : wanted a) (hunique : ∀ b ∈ l, wanted b → b = a) : chosen = some a := by
  cases chosen with
  | none => exact absurd hpasses (h a ha)
  | some best =>
    obtain ⟨hmem, _, hbest | hall⟩ := h
    · rw [hunique best hmem hbest]
    · exact absurd hwanted (hall a ha hpasses).1

/-- Two choices from one list agree if one element at most is wanted, and one at most costs least. -/
theorem Chosen.unique (h : Chosen passes wanted cost l chosen) (h' : Chosen passes wanted cost l chosen')
    (hwanted : ∀ a ∈ l, ∀ b ∈ l, wanted a → wanted b → a = b)
    (hleast : ∀ a ∈ l, ∀ b ∈ l, passes a → passes b → cost a = cost b → (∀ c ∈ l, passes c → cost a ≤ cost c) → a = b) :
    chosen = chosen' := by
  cases chosen with
  | none => exact (h'.eq_none_iff.mpr h).symm
  | some a =>
    cases chosen' with
    | none => exact absurd h.2.1 (h' a h.1)
    | some b =>
      obtain ⟨ha, hpasses, hchoice⟩ := h
      obtain ⟨hb, hpasses', hchoice'⟩ := h'
      obtain hwant | hall := hchoice
      · obtain hwant' | hall' := hchoice'
        · rw [hwanted a ha b hb hwant hwant']
        · exact absurd hwant (hall' a ha hpasses).1
      · obtain hwant' | hall' := hchoice'
        · exact absurd hwant' (hall b hb hpasses').1
        · have heq : cost a = cost b := le_antisymm (hall b hb hpasses').2 (hall' a ha hpasses).2
          rw [hleast a ha b hb hpasses hpasses' heq fun c hc hpass => (hall c hc hpass).2]

/-- Searching for a wanted element among those that pass, and otherwise sorting them by what they cost. -/
theorem chosen_of_search (cost : α → β) (l : List α) {p q : α → Bool} (hp : ∀ a, p a = true ↔ passes a)
    (hq : ∀ a, q a = true ↔ wanted a) :
    Chosen passes wanted cost l
      (((l.filter p).find? q).or ((l.filter p).insertionSort fun a b => cost a ≤ cost b).head?) := by
  have hmem : ∀ {a}, a ∈ l.filter p ↔ a ∈ l ∧ passes a := by
    intro a
    rw [List.mem_filter, hp]
  cases hfind : (l.filter p).find? q with
  | some a =>
    obtain ⟨ha, hpasses⟩ := hmem.mp (List.mem_of_find?_eq_some hfind)
    exact ⟨ha, hpasses, .inl ((hq a).mp (List.find?_some hfind))⟩
  | none =>
    have hunwanted : ∀ a ∈ l, passes a → ¬ wanted a := by
      intro a ha hpasses hwanted
      exact List.find?_eq_none.mp hfind a (hmem.mpr ⟨ha, hpasses⟩) ((hq a).mpr hwanted)
    have hperm := List.perm_insertionSort (fun a b => cost a ≤ cost b) (l.filter p)
    cases hsorted : (l.filter p).insertionSort fun a b => cost a ≤ cost b with
    | nil =>
      intro a ha hpasses
      have hnil := hperm.mem_iff.mpr (hmem.mpr ⟨ha, hpasses⟩)
      rw [hsorted] at hnil
      cases hnil
    | cons first rest =>
      obtain ⟨hfirst, hpasses⟩ := hmem.mp (hperm.mem_iff.mp (by rw [hsorted]; exact List.mem_cons_self))
      refine ⟨hfirst, hpasses, .inr fun a ha hpasses' => ⟨hunwanted a ha hpasses', ?_⟩⟩
      have hpairwise : (first :: rest).Pairwise fun a b => cost a ≤ cost b := by
        have hall := (l.filter p).map_insertionSort (fun a b => cost a ≤ cost b) (· ≤ ·) cost
          fun _ _ _ _ => Iff.rfl
        rw [← List.pairwise_map (f := cost) (R := (· ≤ ·)), ← hsorted, hall]
        exact List.pairwise_insertionSort _ _
      have hin := hperm.mem_iff.mpr (hmem.mpr ⟨ha, hpasses'⟩)
      rw [hsorted] at hin
      obtain rfl | hin := List.mem_cons.mp hin
      · exact le_refl _
      · exact List.rel_of_pairwise_cons hpairwise hin

end Choice

section Coarse

variable {γ : Type*} [LinearOrder γ] [DecidableEq α]

omit [LinearOrder β] [LinearOrder γ] in
theorem idxOf_getElem_le {l : List α} {i : ℕ} (h : i < l.length) : l.idxOf l[i] ≤ i := by
  by_contra hlt
  exact absurd (List.not_of_lt_findIdx (not_le.mp hlt)) (by simp)

/-- The first element of the highest coarse score is the best of all exactly when some element of the
list is, and what comes before it with the same coarse score is as good. -/
theorem argmax_best_iff {coarse : β → γ} (hmono : Monotone coarse) (score : α → β) (l : List α) :
    (∃ best, l.argmax (coarse ∘ score) = some best ∧ ∀ a, score a ≤ score best) ↔
      ∃ i, ∃ h : i < l.length, (∀ a, score a ≤ score l[i]) ∧
        ∀ j (hj : j < i), coarse (score l[j]) = coarse (score l[i]) → score l[j] = score l[i] := by
  constructor
  · rintro ⟨best, hbest, hall⟩
    obtain ⟨hmem, _, hfirst⟩ := List.mem_argmax_iff.mp hbest
    have hindex := List.idxOf_lt_length_iff.mpr hmem
    refine ⟨l.idxOf best, hindex, by rwa [List.getElem_idxOf], fun j hj heq => ?_⟩
    -- Nothing before the first one has its coarse score.
    rw [List.getElem_idxOf hindex] at heq
    have hle := hfirst _ (List.getElem_mem (hj.trans hindex)) heq.ge
    exact absurd (hle.trans (idxOf_getElem_le (hj.trans hindex))) (not_le.mpr hj)
  · rintro ⟨i, hi, hall, hties⟩
    obtain ⟨best, hbest⟩ : ∃ best, l.argmax (coarse ∘ score) = some best :=
      Option.ne_none_iff_exists'.mp fun hnone => by
        rw [List.argmax_eq_none.mp hnone] at hi
        exact absurd hi (Nat.not_lt_zero i)
    obtain ⟨hmem, hmax, hfirst⟩ := List.mem_argmax_iff.mp hbest
    have hge := hmax _ (List.getElem_mem hi)
    have hindex := List.idxOf_lt_length_iff.mpr hmem
    have hcoarse : coarse (score best) = coarse (score l[i]) := le_antisymm (hmono (hall best)) hge
    have hle := (hfirst _ (List.getElem_mem hi) hcoarse.le).trans (idxOf_getElem_le hi)
    have hscore : score best = score l[i] := by
      obtain hlt | heq := lt_or_eq_of_le hle
      · have htie := hties _ hlt
        rw [List.getElem_idxOf hindex] at htie
        exact htie hcoarse
      · rw [← List.getElem_idxOf hindex]
        congr 2
    exact ⟨best, hbest, fun a => (hall a).trans hscore.ge⟩

end Coarse

end Preference

/-! The scan for the element that scores best, as loops with a `best` and a `best_score` do it. -/

namespace RunningMax

variable {α β : Type*} [LinearOrder β] (score : α → β)

/-- The best element so far with its score. A later one replaces it only if it scores more. -/
def scan : List α → Option α × β → Option α × β
  | [], best => best
  | a :: rest, best => scan rest (if best.2 < score a then (some a, score a) else best)

/-- The scan keeps what it started with if nothing scores more, and otherwise ends with the
first one of those that score most. -/
theorem scan_cases (l : List α) (best : Option α × β) :
    (scan score l best = best ∧ ∀ a ∈ l, score a ≤ best.2) ∨
      ∃ before a after, l = before ++ a :: after ∧ scan score l best = (some a, score a) ∧ best.2 < score a ∧
        (∀ a' ∈ before, score a' < score a) ∧ ∀ a' ∈ after, score a' ≤ score a := by
  induction l generalizing best with
  | nil => exact .inl ⟨rfl, List.forall_mem_nil _⟩
  | cons a rest ih =>
    rw [scan]
    by_cases hmore : best.2 < score a
    · rw [if_pos hmore]
      obtain ⟨hkept, hrest⟩ | ⟨before, b, after, rfl, hscan, hless, hbefore, hafter⟩ := ih (some a, score a)
      · exact .inr ⟨[], a, rest, rfl, hkept, hmore, List.forall_mem_nil _, hrest⟩
      · exact .inr ⟨a :: before, b, after, rfl, hscan, lt_trans hmore hless, List.forall_mem_cons.mpr ⟨hless, hbefore⟩, hafter⟩
    · rw [if_neg hmore]
      have hle : score a ≤ best.2 := not_lt.mp hmore
      obtain ⟨hkept, hrest⟩ | ⟨before, b, after, rfl, hscan, hless, hbefore, hafter⟩ := ih best
      · exact .inl ⟨hkept, List.forall_mem_cons.mpr ⟨hle, hrest⟩⟩
      · exact .inr ⟨a :: before, b, after, rfl, hscan, hless,
          List.forall_mem_cons.mpr ⟨lt_of_le_of_lt hle hless, hbefore⟩, hafter⟩

theorem le_of_mem_append_cons {before after : List α} {a a' : α} (hbefore : ∀ b ∈ before, score b < score a)
    (hafter : ∀ b ∈ after, score b ≤ score a) (h : a' ∈ before ++ a :: after) : score a' ≤ score a := by
  obtain hmem | hmem := List.mem_append.mp h
  · exact le_of_lt (hbefore a' hmem)
  · obtain rfl | hmem := List.mem_cons.mp hmem
    · exact le_refl _
    · exact hafter a' hmem

/-- From a start that something in the list beats, the scan finds one of the best. -/
theorem exists_scan (best : Option α × β) {l : List α} {a : α} (ha : a ∈ l) (hmore : best.2 < score a) :
    ∃ b ∈ l, scan score l best = (some b, score b) ∧ ∀ a' ∈ l, score a' ≤ score b := by
  obtain ⟨_, hall⟩ | ⟨before, b, after, rfl, hscan, _, hbefore, hafter⟩ := scan_cases score l best
  · exact absurd hmore (not_lt.mpr (hall a ha))
  · exact ⟨b, List.mem_append_right _ List.mem_cons_self, hscan,
      fun a' ha' => le_of_mem_append_cons score hbefore hafter ha'⟩

end RunningMax
