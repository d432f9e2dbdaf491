import EdgeGateway.Library.LabelledScores
import EdgeGateway.Library.OrderStatistics
import EdgeGateway.Library.Preference
import EdgeGateway.Library.PyRound

open OrderStatistics

namespace gateway.train_edge_autoencoder

/-- What predictions come to. -/
structure Confusion where
  true_positives : ℕ
  false_positives : ℕ
  false_negatives : ℕ

structure Metrics extends Confusion where
  precision : ℚ
  «recall» : ℚ
  f1 : ℚ

def confusion (pred truth : List Bool) : Confusion where
  true_positives := (pred.zip truth).countP fun (p, y) => p && y
  false_positives := (pred.zip truth).countP fun (p, y) => p && !y
  false_negatives := (pred.zip truth).countP fun (p, y) => !p && y

namespace Confusion

variable (c : Confusion)

def precision : ℚ :=
  if c.true_positives + c.false_positives ≠ 0 then c.true_positives / (c.true_positives + c.false_positives) else 0

def «recall» : ℚ :=
  if c.true_positives + c.false_negatives ≠ 0 then c.true_positives / (c.true_positives + c.false_negatives) else 0

/-- Unrounded. -/
def f1 : ℚ :=
  if c.precision + c.«recall» ≠ 0 then 2 * c.precision * c.«recall» / (c.precision + c.«recall») else 0

end Confusion

def precision_recall (pred truth : List Bool) : Metrics :=
  let c := confusion pred truth
  { c with
    precision := PyRound.round c.precision 4
    «recall» := PyRound.round c.«recall» 4
    f1 := PyRound.round c.f1 4 }

section Calibrate

variable {K : Type*} [LinearOrder K] (errors : List K)

/-- `errors > t`. -/
def predictions (t : K) : List Bool := errors.map fun error => error > t

/-- The rank, in the sorted errors, of the error at or below a candidate. -/
def grid_rank (n i : ℕ) : ℕ := (n - 1) * (319200 + 199 * i) / 399000

def grid_cut (i : ℕ) : Option K := (errors.insertionSort (· ≤ ·))[grid_rank errors.length i]?

variable [Field K] (truth : List Bool)

/-- Pick the error threshold that maximises F1 on labelled data. -/
def calibrate_threshold : Option K := do
  let candidates ← (linspace 0.80 0.999 400).mapM (quantile errors)
  -- `max` takes the first of the highest.
  candidates.argmax fun t => (precision_recall (predictions errors t) truth).f1

/-- No threshold has a higher F1 than the one that is picked. -/
def F1Optimal : Prop :=
  ∃ threshold, calibrate_threshold errors truth = some threshold ∧
    ∀ t, (confusion (predictions errors t) truth).f1 ≤ (confusion (predictions errors threshold) truth).f1

end Calibrate

/-- Some of the four hundred ranks between 80 % and 99.9 % of the errors has the highest F1 of all the
cuts of the data, and no lower one of them has less F1 and the same four digits. -/
def GridHasBest {K : Type*} [LinearOrder K] (labelled : List (K × Bool)) : Prop :=
  ∃ i < 400, ∃ cut ∈ grid_cut (labelled.map Prod.fst) i,
    (LabelledScores.f1_all labelled ≤ LabelledScores.f1 labelled cut ∧
      ∀ x ∈ labelled, LabelledScores.f1 labelled x.1 ≤ LabelledScores.f1 labelled cut) ∧
    ∀ j < i, ∀ lower ∈ grid_cut (labelled.map Prod.fst) j,
      PyRound.round (LabelledScores.f1 labelled lower) 4 = PyRound.round (LabelledScores.f1 labelled cut) 4 →
        LabelledScores.f1 labelled lower = LabelledScores.f1 labelled cut

/-- The harmonic mean of precision and recall, without a case of its own for empty counts. -/
theorem Confusion.f1_eq (c : Confusion) :
    c.f1 = 2 * c.true_positives / (c.true_positives + c.false_positives + (c.true_positives + c.false_negatives)) := by
  obtain hzero | hpos := Nat.eq_zero_or_pos c.true_positives
  · have hprecision : c.precision = 0 := by rw [Confusion.precision, hzero]; simp
    have hrecall : c.«recall» = 0 := by rw [Confusion.«recall», hzero]; simp
    rw [Confusion.f1, hprecision, hrecall, hzero]
    simp
  · have htp : (0 : ℚ) < c.true_positives := by exact_mod_cast hpos
    have hfp : (0 : ℚ) ≤ c.false_positives := Nat.cast_nonneg _
    have hfn : (0 : ℚ) ≤ c.false_negatives := Nat.cast_nonneg _
    have hprecision : c.precision = c.true_positives / (c.true_positives + c.false_positives) := if_pos (by omega)
    have hrecall : c.«recall» = c.true_positives / (c.true_positives + c.false_negatives) := if_pos (by omega)
    have hp : 0 < c.precision := by rw [hprecision]; positivity
    have hr : 0 < c.«recall» := by rw [hrecall]; positivity
    rw [Confusion.f1, if_pos (add_pos hp hr).ne', hprecision, hrecall]
    field_simp
    ring

theorem countP_and_add_countP_and_not {α : Type*} (p q : α → Bool) (l : List α) :
    (l.countP fun a => p a && q a) + (l.countP fun a => p a && !q a) = l.countP p := by
  rw [List.countP_eq_countP_filter_add l p q, List.countP_filter, List.countP_filter]

section Labelled

variable {K : Type*} [LinearOrder K] {labelled : List (K × Bool)}

/-- The F1 in the code's counts. -/
theorem f1_predictions (labelled : List (K × Bool)) (t : K) :
    (confusion (predictions (labelled.map Prod.fst) t) (labelled.map Prod.snd)).f1 = LabelledScores.f1 labelled t := by
  have hzip : (predictions (labelled.map Prod.fst) t).zip (labelled.map Prod.snd) =
      labelled.map fun x => (decide (x.1 > t), x.2) := by
    rw [predictions, List.map_map, List.zip_map']
    rfl
  have hcount : ∀ p : Bool × Bool → Bool, ((predictions (labelled.map Prod.fst) t).zip (labelled.map Prod.snd)).countP p =
      labelled.countP fun x => p (decide (x.1 > t), x.2) := by
    intro p
    rw [hzip, List.countP_map]
    rfl
  have hpredicted := countP_and_add_countP_and_not (fun x : K × Bool => decide (x.1 > t)) Prod.snd labelled
  have hpositives := countP_and_add_countP_and_not Prod.snd (fun x : K × Bool => decide (x.1 > t)) labelled
  simp only [Bool.and_comm (Prod.snd _)] at hpositives
  rw [Confusion.f1_eq, confusion]
  simp only [hcount]
  rw [LabelledScores.f1, LabelledScores.predicted, LabelledScores.positives, LabelledScores.hits]
  rw [← Nat.cast_add, ← Nat.cast_add, hpredicted, hpositives]

/-- The candidates, in the data's own cuts. -/
theorem floor_virtual_index {n : ℕ} (hn : 0 < n) (i : ℕ) :
    ⌊virtual_index n (i * ((0.999 - 0.80) / ((400 : ℕ) - 1)) + 0.80)⌋₊ = grid_rank n i := by
  have hfraction : virtual_index n (i * ((0.999 - 0.80) / ((400 : ℕ) - 1)) + 0.80) =
      (((n - 1) * (319200 + 199 * i) : ℕ) : ℚ) / (399000 : ℕ) := by
    rw [virtual_index, Nat.cast_mul, Nat.cast_sub hn]
    push_cast
    ring
  rw [hfraction, Nat.floor_div_eq_div, grid_rank]

theorem exists_mapM {α β : Type*} {f : α → Option β} {P : α → β → Prop} {l : List α}
    (h : ∀ a ∈ l, ∃ b, f a = some b ∧ P a b) : ∃ bs, l.mapM f = some bs ∧ List.Forall₂ P l bs := by
  induction l with
  | nil => exact ⟨[], rfl, .nil⟩
  | cons a rest ih =>
    obtain ⟨b, hb, hP⟩ := h a List.mem_cons_self
    obtain ⟨bs, hbs, hall⟩ := ih fun other hother => h other (List.mem_cons_of_mem a hother)
    refine ⟨b :: bs, ?_, .cons hP hall⟩
    rw [List.mapM_cons, hb, hbs]
    rfl

variable [Field K] [IsStrictOrderedRing K]

theorem exists_candidates {errors : List K} (h : errors ≠ []) :
    ∃ candidates, (linspace 0.80 0.999 400).mapM (quantile errors) = some candidates ∧ candidates.length = 400 ∧
      ∀ i (hi : i < candidates.length), ∃ cut, grid_cut errors i = some cut ∧ ∀ e ∈ errors, candidates[i] < e ↔ cut < e := by
  have hquantile : ∀ q ∈ linspace 0.80 0.999 400, ∃ value, quantile errors q = some value ∧
      ∃ cut, (errors.insertionSort (· ≤ ·))[⌊virtual_index errors.length q⌋₊]? = some cut ∧
        ∀ e ∈ errors, value < e ↔ cut < e := by
    intro q hq
    obtain ⟨i, hi, rfl⟩ := List.mem_map.mp hq
    have hle : (i : ℚ) ≤ 399 := by exact_mod_cast Nat.le_of_lt_succ (List.mem_range.mp hi)
    have hnonneg : (0 : ℚ) ≤ i := Nat.cast_nonneg i
    obtain ⟨value, cut, hvalue, hcut⟩ := quantile_eq_some h (q := i * ((0.999 - 0.80) / ((400 : ℕ) - 1)) + 0.80)
      (by norm_num; linarith) (by norm_num; linarith)
    exact ⟨value, hvalue, cut, hcut⟩
  obtain ⟨candidates, hcandidates, hall⟩ := exists_mapM hquantile
  have hlength : candidates.length = 400 := by
    rw [← hall.length_eq, linspace, List.length_map, List.length_range]
  refine ⟨candidates, hcandidates, hlength, fun i hi => ?_⟩
  obtain ⟨cut, hcut, hiff⟩ := hall.get (by rw [hall.length_eq]; exact hi) hi
  refine ⟨cut, ?_, hiff⟩
  rw [grid_cut, ← floor_virtual_index (List.length_pos_iff.mpr h), ← hcut]
  simp [linspace]

/-- What is picked cuts like one of the ranks of the grid. -/
theorem exists_cut_of_picked {errors : List K} (h : errors ≠ []) {truth : List Bool} {threshold : K}
    (hpicked : calibrate_threshold errors truth = some threshold) :
    ∃ i < 400, ∃ cut, grid_cut errors i = some cut ∧ predictions errors threshold = predictions errors cut := by
  obtain ⟨candidates, hcandidates, hlength, hcuts⟩ := exists_candidates h
  rw [calibrate_threshold, hcandidates] at hpicked
  obtain ⟨i, hi, rfl⟩ := List.mem_iff_getElem.mp (List.argmax_mem hpicked)
  obtain ⟨cut, hcut, hsame⟩ := hcuts i hi
  refine ⟨i, hlength ▸ hi, cut, hcut, List.map_congr_left fun e he => ?_⟩
  rw [decide_eq_decide]
  exact hsame e he

/-- The choice among the candidates, as a choice among cuts of the data. -/
theorem exists_scored_candidates (h : labelled ≠ []) :
    ∃ candidates : List K,
      calibrate_threshold (labelled.map Prod.fst) (labelled.map Prod.snd) =
          candidates.argmax ((PyRound.round · 4) ∘ LabelledScores.f1 labelled) ∧
        candidates.length = 400 ∧
        ∀ i (hi : i < candidates.length), ∃ cut, grid_cut (labelled.map Prod.fst) i = some cut ∧
          LabelledScores.f1 labelled candidates[i] = LabelledScores.f1 labelled cut := by
  have herrors : labelled.map Prod.fst ≠ [] := fun hnil => h (List.map_eq_nil_iff.mp hnil)
  obtain ⟨candidates, hcandidates, hlength, hcuts⟩ := exists_candidates herrors
  refine ⟨candidates, ?_, hlength, fun i hi => ?_⟩
  · have hscore : (fun t => (precision_recall (predictions (labelled.map Prod.fst) t) (labelled.map Prod.snd)).f1) =
        (PyRound.round · 4) ∘ LabelledScores.f1 labelled :=
      funext fun t => congrArg (PyRound.round · 4) (f1_predictions labelled t)
    rw [← hscore, calibrate_threshold, hcandidates]
    rfl
  · obtain ⟨cut, hcut, hsame⟩ := hcuts i hi
    exact ⟨cut, hcut, LabelledScores.f1_congr fun x hx => hsame x.1 (List.mem_map_of_mem hx)⟩

/-- The threshold that is picked has the highest F1 of all exactly when one of the ranks of the grid
cuts that well, and no lower one passes for it when it is rounded. -/
theorem calibrate_threshold_optimal_iff (labelled : List (K × Bool)) (h : labelled ≠ []) :
    F1Optimal (labelled.map Prod.fst) (labelled.map Prod.snd) ↔ GridHasBest labelled := by
  obtain ⟨candidates, hpicked, hlength, hcuts⟩ := exists_scored_candidates h
  have hf1 : ∀ i (hi : i < candidates.length), ∀ cut ∈ grid_cut (labelled.map Prod.fst) i,
      LabelledScores.f1 labelled candidates[i] = LabelledScores.f1 labelled cut := by
    intro i hi cut hcut
    obtain ⟨other, hother, hsame⟩ := hcuts i hi
    rw [Option.mem_def, hother, Option.some.injEq] at hcut
    rw [hsame, hcut]
  have hmono : Monotone fun x : ℚ => PyRound.round x 4 := fun _ _ hle => PyRound.round_mono hle 4
  simp only [F1Optimal, f1_predictions, hpicked]
  rw [Preference.argmax_best_iff hmono]
  constructor
  · rintro ⟨i, hi, hall, hties⟩
    obtain ⟨cut, hcut, hsame⟩ := hcuts i hi
    rw [hsame] at hall
    refine ⟨i, hlength ▸ hi, cut, hcut, LabelledScores.f1_le_iff.mp hall, fun j hj lower hlower => ?_⟩
    rw [← hsame, ← hf1 j (hj.trans hi) lower hlower]
    exact hties j hj
  · rintro ⟨i, hi, cut, hcut, hall, hties⟩
    rw [← hlength] at hi
    refine ⟨i, hi, ?_, fun j hj => ?_⟩
    · rw [hf1 i hi cut hcut]
      exact LabelledScores.f1_le_iff.mpr hall
    · obtain ⟨lower, hlower, hsame⟩ := hcuts j (hj.trans hi)
      rw [hf1 i hi cut hcut, hsame]
      exact hties j hj lower hlower

end Labelled

/-- With one anomaly in five, which has the largest error, the first rank of the grid is the best cut. -/
theorem calibrate_threshold_optimal_one_in_five :
    F1Optimal [(1 : ℚ), 2, 3, 4, 5] [false, false, false, false, true] :=
  (calibrate_threshold_optimal_iff [(1, false), (2, false), (3, false), (4, false), (5, true)] (List.cons_ne_nil _ _)).mpr
    ⟨0, by decide, 4, by decide +kernel, by decide +kernel, fun j hj => absurd hj (Nat.not_lt_zero j)⟩

/-- With two in five the best cut is below the grid. -/
theorem two_in_five_not_optimal : ¬F1Optimal [(1 : ℚ), 2, 3, 4, 5] [false, false, false, true, true] := by
  rintro ⟨threshold, hpicked, hall⟩
  obtain ⟨i, hi, cut, hcut, hsame⟩ := exists_cut_of_picked (List.cons_ne_nil _ _) hpicked
  -- Every rank of the grid is that of the second largest error.
  have hrank : grid_rank 5 i = 3 := by
    unfold grid_rank
    omega
  have hfour : grid_cut [(1 : ℚ), 2, 3, 4, 5] i = some 4 := by
    change ([(1 : ℚ), 2, 3, 4, 5].insertionSort (· ≤ ·))[grid_rank 5 i]? = some 4
    rw [hrank]
    decide +kernel
  rw [hfour, Option.some.injEq] at hcut
  have hthree := hall 3
  rw [hsame, ← hcut] at hthree
  exact absurd hthree (by decide +kernel)

end gateway.train_edge_autoencoder
