import EdgeGateway.Library.OrderStatistics
import EdgeGateway.MlInference.FeatureExtractor.AllOrNothing
import EdgeGateway.MlInference.FeatureExtractor.WindowSize

open gateway.telemetry

namespace gateway.feature_extractor

/-- The two sensor values of a reading. -/
inductive Channel where
  | a
  | b
  deriving DecidableEq

def Channel.pick {α : Type} : Channel → α × α → α
  | .a => Prod.fst
  | .b => Prod.snd

/-- Where the deviation stands in a row. -/
def Channel.dev_index : Channel → ℕ
  | .a => 2
  | .b => 3

/-- A number between `lo` and `hi`. -/
def within (lo hi : ℚ) : PyFloat → Bool
  | .finite q => lo ≤ q && q ≤ hi
  | _ => false

/-- Where a float stands among the others; a NaN stands nowhere. -/
def position : PyFloat → WithBot (WithTop ℚ)
  | .nan => ⊥
  | .inf true => ⊥
  | .inf false => ⊤
  | .finite q => ((q : WithTop ℚ) : WithBot (WithTop ℚ))

section Order

variable {lo hi : ℚ}

theorem within_iff {x : PyFloat} : within lo hi x = true ↔ ∃ q, x = .finite q ∧ lo ≤ q ∧ q ≤ hi := by
  cases x with
  | nan => simp [within]
  | inf negative => simp [within]
  | finite q => simp [within]

theorem within_iff_position {x : PyFloat} :
    within lo hi x = true ↔ position x ∈ Set.Icc (position (.finite lo)) (position (.finite hi)) := by
  cases x with
  | nan => simp [within, position]
  | inf negative => cases negative <;> simp [within, position, ← WithBot.coe_top]
  | finite q => simp [within, position]

theorem not_lt_iff_position {x y : PyFloat} (hx : x ≠ .nan) (hy : y ≠ .nan) :
    PyFloat.lt y x = false ↔ position x ≤ position y := by
  cases x with
  | nan => exact absurd rfl hx
  | inf negative =>
    cases y with
    | nan => exact absurd rfl hy
    | inf negative' => cases negative <;> cases negative' <;> simp [PyFloat.lt, position]
    | finite r => cases negative <;> simp [PyFloat.lt, position, ← WithBot.coe_top]
  | finite q =>
    cases y with
    | nan => exact absurd rfl hy
    | inf negative' => cases negative' <;> simp [PyFloat.lt, position]
    | finite r => simp [PyFloat.lt, position]

/-- Without a NaN, sorting by `<` is sorting by position. -/
theorem map_position_insertionSort {numbers : List PyFloat} (hnan : ∀ x ∈ numbers, x ≠ .nan) :
    (numbers.insertionSort fun x y => Arithmetic.unrounded.lt y x = false).map position =
      (numbers.map position).insertionSort (· ≤ ·) :=
  List.map_insertionSort _ _ _ _ fun x hx y hy => not_lt_iff_position (hnan x hx) (hnan y hy)

/-- The middle of a sorted window, when too few values are out of the range. -/
theorem sorted_within {numbers : List PyFloat} (hnan : ∀ x ∈ numbers, x ≠ .nan)
    (hminority : 2 * numbers.countP (fun x => !within lo hi x) < numbers.length) {i : ℕ}
    (hlower : (numbers.length - 1) / 2 ≤ i) (hupper : i ≤ numbers.length / 2) :
    ∃ q, (numbers.insertionSort fun x y => Arithmetic.unrounded.lt y x = false)[i]? = some (.finite q) ∧
      lo ≤ q ∧ q ≤ hi := by
  have hcount : (numbers.map position).countP
      (fun p => p ∉ Set.Icc (position (.finite lo)) (position (.finite hi))) =
        numbers.countP fun x => !within lo hi x := by
    rw [List.countP_map]
    refine List.countP_congr fun x _ => ?_
    simp only [Function.comp_apply, decide_eq_true_eq, ← within_iff_position, Bool.not_eq_true,
      Bool.not_eq_eq_eq_not, Bool.not_true]
  have hi' : i < ((numbers.map position).insertionSort (· ≤ ·)).length := by
    rw [List.length_insertionSort, List.length_map]
    omega
  rw [← hcount, ← List.length_map position] at hminority
  rw [← List.length_map position] at hlower hupper
  have hmiddle := OrderStatistics.middle_mem_Icc hminority hlower hupper hi'
  have hsort := map_position_insertionSort hnan
  generalize numbers.insertionSort (fun x y => Arithmetic.unrounded.lt y x = false) = sorted at *
  have hlength : i < sorted.length := by rwa [← hsort, List.length_map] at hi'
  simp only [← hsort, List.getElem_map] at hmiddle
  obtain ⟨q, hq, hbounds⟩ := within_iff.mp (within_iff_position.mpr hmiddle)
  exact ⟨q, by rw [List.getElem?_eq_getElem hlength, hq], hbounds⟩

end Order

section Reference

variable {lo hi : ℚ}

theorem middle_between {x y : ℚ} (hx : lo ≤ x ∧ x ≤ hi) (hy : lo ≤ y ∧ y ≤ hi) :
    lo ≤ (x + y) / 2 ∧ (x + y) / 2 ≤ hi := by
  constructor
  · linarith [hx.1, hy.1]
  · linarith [hx.2, hy.2]

/-- A minority of numbers, infinities among them, cannot move the median. -/
theorem median_within {numbers : List PyFloat} (hnan : ∀ x ∈ numbers, x ≠ .nan)
    (hminority : 2 * numbers.countP (fun x => !within lo hi x) < numbers.length) :
    ∃ m, median .unrounded numbers = .ok (.finite m) ∧ lo ≤ m ∧ m ≤ hi := by
  have hpos : 0 < numbers.length := by omega
  have hmiddle := fun i => sorted_within (i := i) hnan hminority
  have hlength := List.length_insertionSort (fun x y => Arithmetic.unrounded.lt y x = false) numbers
  unfold median
  generalize numbers.insertionSort (fun x y => Arithmetic.unrounded.lt y x = false) = sorted at *
  dsimp only
  rw [hlength]
  split
  · obtain ⟨m, hm, hbounds⟩ := hmiddle (numbers.length / 2) (by omega) (le_refl _)
    rw [hm]
    exact ⟨m, rfl, hbounds⟩
  · obtain ⟨x, hx, hxbounds⟩ := hmiddle (numbers.length / 2 - 1) (by omega) (by omega)
    obtain ⟨y, hy, hybounds⟩ := hmiddle (numbers.length / 2) (by omega) (le_refl _)
    rw [hx, hy]
    exact ⟨(x + y) / 2, rfl, middle_between hxbounds hybounds⟩

theorem abs_sub_le {x y : ℚ} (hx : lo ≤ x ∧ x ≤ hi) (hy : lo ≤ y ∧ y ≤ hi) : |x - y| ≤ hi - lo := by
  rw [abs_le]
  constructor
  · linarith [hx.1, hy.2]
  · linarith [hx.2, hy.1]

theorem deviation_within {window : List PyFloat} {m v std : ℚ}
    (hmedian : median .unrounded window = .ok (.finite m)) (hm : lo ≤ m ∧ m ≤ hi) (hv : lo ≤ v ∧ v ≤ hi)
    (hstd : 0 < std) :
    ∃ dev, deviation .unrounded window (.finite v) (.finite std) = .ok (.finite dev) ∧ |dev| ≤ (hi - lo) / std := by
  refine ⟨(v - m) / std, ?_, ?_⟩
  · unfold deviation
    rw [hmedian]
    exact if_neg hstd.ne'
  · rw [abs_div, abs_of_pos hstd]
    exact div_le_div_of_nonneg_right (abs_sub_le hv hm) hstd.le

theorem abs_clip_le (q : ℚ) : |max (-1000) (min 1000 q)| ≤ |q| := by
  rw [abs_le]
  constructor
  · refine le_max_of_le_right (le_min ?_ (neg_abs_le q))
    linarith [abs_nonneg q]
  · refine max_le ?_ ((min_le_right _ _).trans (le_abs_self q))
    linarith [abs_nonneg q]

theorem clip_unrounded (q : ℚ) : clip .unrounded (.finite q) = .finite (max (-1000) (min 1000 q)) := by
  unfold clip py_max py_min Arithmetic.unrounded
  simp only [PyFloat.lt, decide_eq_true_eq]
  obtain hlarge | hsmall := lt_or_ge q 1000
  · rw [if_pos hlarge, min_eq_right hlarge.le]
    obtain hlow | hhigh := lt_or_ge (-1000) q
    · rw [if_pos (by simpa using hlow), max_eq_right hlow.le]
    · rw [if_neg (by simpa using hhigh), max_eq_left hhigh]
  · rw [if_neg (not_lt.mpr hsmall), min_eq_left hsmall]
    norm_num

end Reference

section Row

variable {U T : Type} {reading : TelemetryReading U T} {extractor : FeatureExtractor PyFloat}

/-- A scale is never zero and never negative. -/
theorem scale_pos {stats : FeatureStats PyFloat} {device_type : String} {field : String × String → String}
    {mean : PyFloat} {std : ℚ} (hscale : scale .unrounded stats device_type field = .ok (mean, .finite std)) :
    0 < std := by
  have hone : ∀ {x y : PyFloat}, (Except.ok (Arithmetic.unrounded.ofRat 0, Arithmetic.unrounded.ofRat 1) :
      Except PyExc (PyFloat × PyFloat)) = .ok (x, y) → y = .finite 1 := by
    intro x y h
    cases h
    rfl
  unfold scale at hscale
  split at hscale
  · split at hscale
    · cases hone hscale
      exact zero_lt_one
    · split at hscale
      · cases hscale
      · rename_i std' _
        simp only [Except.ok.injEq, Prod.mk.injEq] at hscale
        obtain ⟨-, hmax⟩ := hscale
        unfold py_max at hmax
        split at hmax
        · cases hmax
          norm_num
        · rename_i hnot
          rw [hmax] at hnot
          have hle : 1 / 1000000 ≤ std := by simpa [Arithmetic.unrounded, PyFloat.lt] using hnot
          exact lt_of_lt_of_le (by norm_num) hle
      · cases hscale
  · cases hone hscale
    exact zero_lt_one

/-- The row of a reading with enough history, by its deviation on a channel. -/
theorem extract_row_deviation (str : U → String) (c : Channel) {value mean std : PyFloat × PyFloat}
    (hvalues : values .unrounded reading = .ok value)
    (ha : scale .unrounded extractor.stats reading.device_type Prod.fst = .ok (mean.1, std.1))
    (hb : scale .unrounded extractor.stats reading.device_type Prod.snd = .ok (mean.2, std.2))
    (hlong : MIN_HISTORY ≤ (extractor.window (str reading.device_id)).length) :
    ∃ row extractor' dev, (extract_row .unrounded str reading).call extractor = (.ok row, extractor') ∧
      deviation .unrounded ((extractor.window (str reading.device_id)).map c.pick) (c.pick value) (c.pick std) =
        .ok dev ∧
      row[c.dev_index]? = some (clip .unrounded dev) := by
  have hstd_a := scale_ne_zero unrounded_floats ha
  have hstd_b := scale_ne_zero unrounded_floats hb
  have hne : ∀ pick : PyFloat × PyFloat → PyFloat,
      (extractor.window (str reading.device_id)).map pick ≠ [] := by
    intro pick
    rw [← List.length_pos_iff, List.length_map]
    exact lt_of_lt_of_le (by decide) hlong
  obtain ⟨dev_a, hdev_a⟩ := deviation_ok unrounded_floats (hne Prod.fst) value.1 hstd_a
  obtain ⟨dev_b, hdev_b⟩ := deviation_ok unrounded_floats (hne Prod.snd) value.2 hstd_b
  have hdev : deviations .unrounded (extractor.window (str reading.device_id)) value std.1 std.2 =
      .ok (dev_a, dev_b) := by
    unfold deviations
    rw [if_pos hlong, hdev_a, hdev_b]
    rfl
  obtain ⟨z, hz⟩ := standardised_ok unrounded_floats reading.device_type value mean hstd_a hstd_b
  refine ⟨features .unrounded reading.device_type z (dev_a, dev_b), extractor.appended (str reading.device_id) value,
    c.pick (dev_a, dev_b), ?_, ?_, ?_⟩
  · rw [call_extract_row, hvalues, ha, hb]
    dsimp only
    rw [hdev]
    dsimp only
    rw [hz]
  · cases c with
    | a => exact hdev_a
    | b => exact hdev_b
  · cases c <;> rfl

end Row

/-- What the spikes in a window leave as it is: the reference on a channel, and the
deviation of a reading that is no spike itself. -/
structure Unmoved {U : Type} (str : U → String) (c : Channel) (lo hi : ℚ) (window : List (PyFloat × PyFloat)) :
    Prop where
  reference : ∃ m : ℚ, median .unrounded (window.map c.pick) = .ok (.finite m) ∧ lo ≤ m ∧ m ≤ hi
  deviation : ∀ {T : Type} (reading : TelemetryReading U T) (extractor : FeatureExtractor PyFloat)
    (value mean std : PyFloat × PyFloat) (scale_c : ℚ),
    extractor.window (str reading.device_id) = window →
    values .unrounded reading = .ok value → within lo hi (c.pick value) = true →
    scale .unrounded extractor.stats reading.device_type Prod.fst = .ok (mean.1, std.1) →
    scale .unrounded extractor.stats reading.device_type Prod.snd = .ok (mean.2, std.2) →
    c.pick std = .finite scale_c →
      ∃ row extractor' dev, (extract_row .unrounded str reading).call extractor = (.ok row, extractor') ∧
        row[c.dev_index]? = some (.finite dev) ∧ |dev| ≤ (hi - lo) / scale_c

section Spikes

variable {U : Type} {str : U → String} {c : Channel} {lo hi : ℚ} {window : List (PyFloat × PyFloat)}

theorem unmoved_of_no_nan (hlong : MIN_HISTORY ≤ window.length)
    (hminority : 2 * window.countP (fun pair => !within lo hi (c.pick pair)) < window.length)
    (hnan : ∀ pair ∈ window, c.pick pair ≠ .nan) : Unmoved str c lo hi window := by
  have hnumbers : ∀ x ∈ window.map c.pick, x ≠ .nan := by
    intro x hx
    obtain ⟨pair, hpair, rfl⟩ := List.mem_map.mp hx
    exact hnan pair hpair
  have hfew : 2 * (window.map c.pick).countP (fun x => !within lo hi x) < (window.map c.pick).length := by
    rwa [List.countP_map, List.length_map]
  obtain ⟨m, hm, hbounds⟩ := median_within hnumbers hfew
  refine ⟨⟨m, hm, hbounds⟩, ?_⟩
  intro T reading extractor value mean std scale_c hwindow hvalues hwithin ha hb hscale
  obtain ⟨v, hv, hvbounds⟩ := within_iff.mp hwithin
  have hpos : 0 < scale_c := by
    cases c with
    | a => exact scale_pos (ha.trans (by rw [show std.1 = .finite scale_c from hscale]))
    | b => exact scale_pos (hb.trans (by rw [show std.2 = .finite scale_c from hscale]))
  obtain ⟨row, extractor', dev, hcall, hdev, hrow⟩ :=
    extract_row_deviation str c hvalues ha hb (by rwa [hwindow])
  obtain ⟨q, hq, hle⟩ := deviation_within hm hbounds hvbounds hpos
  rw [hwindow, hv, hscale, hq] at hdev
  cases hdev
  rw [clip_unrounded] at hrow
  exact ⟨row, extractor', _, hcall, hrow, (abs_clip_le q).trans hle⟩

/-- A NaN in the middle stays there: no value is less than an earlier one, and a stable
sort leaves such a list as it is. -/
theorem median_nan {before after : List PyFloat} {nans : List PyFloat} (hnans : ∀ x ∈ nans, x = .nan)
    (hne : nans ≠ []) (hmiddle : before.length = (before ++ nans ++ after).length / 2)
    (hsorted : (before ++ after).Pairwise fun x y => Arithmetic.unrounded.lt y x = false) :
    median .unrounded (before ++ nans ++ after) = .ok .nan := by
  obtain ⟨hbefore, hafter, hcross⟩ := List.pairwise_append.mp hsorted
  have hpairwise : (before ++ nans ++ after).Pairwise fun x y => Arithmetic.unrounded.lt y x = false := by
    have hleft : ∀ x, Arithmetic.unrounded.lt x .nan = false := by
      intro x
      cases x <;> rfl
    rw [List.append_assoc]
    refine List.pairwise_append.mpr ⟨hbefore, List.pairwise_append.mpr ⟨?_, hafter, ?_⟩, ?_⟩
    · refine List.pairwise_of_forall_mem_list fun x hx y _ => ?_
      rw [hnans x hx]
      exact hleft y
    · intro x hx y _
      rw [hnans x hx]
      exact hleft y
    · intro x hx y hy
      obtain hy | hy := List.mem_append.mp hy
      · rw [hnans y hy]
        rfl
      · exact hcross x hx y hy
  obtain ⟨x, rest, rfl⟩ := List.exists_cons_of_ne_nil hne
  have hnan : x = .nan := hnans x List.mem_cons_self
  have hget : (before ++ x :: rest ++ after)[(before ++ x :: rest ++ after).length / 2]? = some .nan := by
    rw [← hmiddle, List.append_assoc, List.getElem?_append_right (le_refl _), Nat.sub_self, hnan]
    rfl
  unfold median
  rw [hpairwise.insertionSort_eq]
  dsimp only
  rw [hget]
  split
  · rfl
  · have hlength : (before ++ x :: rest ++ after).length / 2 - 1 < (before ++ x :: rest ++ after).length := by
      simp only [List.length_append, List.length_cons] at *
      omega
    rw [List.getElem?_eq_getElem hlength]
    dsimp only
    cases (before ++ x :: rest ++ after)[(before ++ x :: rest ++ after).length / 2 - 1] <;> rfl

/-- With a NaN among the values, some order of the window makes a NaN of the reference. -/
theorem exists_perm_median_nan
    (hminority : 2 * window.countP (fun pair => !within lo hi (c.pick pair)) < window.length)
    {pair : PyFloat × PyFloat} (hpair : pair ∈ window) (hnan : c.pick pair = .nan) :
    ∃ window' : List (PyFloat × PyFloat), window'.Perm window ∧ median .unrounded (window'.map c.pick) = .ok .nan := by
  let below := fun p q : PyFloat × PyFloat => position (c.pick p) ≤ position (c.pick q)
  have : IsTrans (PyFloat × PyFloat) below := ⟨fun _ _ _ h h' => le_trans h h'⟩
  have : Std.Total below := ⟨fun p q => le_total (position (c.pick p)) (position (c.pick q))⟩
  let numbers := window.filter fun pair => c.pick pair ≠ .nan
  let nans := window.filter fun pair => c.pick pair = .nan
  let sorted := numbers.insertionSort below
  have hsplit : (nans ++ numbers).Perm window := by
    have hperm := List.filter_append_perm (fun pair => decide (c.pick pair = .nan)) window
    simpa only [nans, numbers, ne_eq, decide_not] using hperm
  have hsorted : sorted.Perm numbers := List.perm_insertionSort below numbers
  have hfew : 2 * nans.length < window.length := by
    refine lt_of_le_of_lt ?_ hminority
    rw [← List.countP_eq_length_filter]
    refine Nat.mul_le_mul_left 2 (List.countP_mono_left fun pair _ hpair => ?_)
    rw [of_decide_eq_true hpair]
    rfl
  have hlength : nans.length + sorted.length = window.length := by
    rw [hsorted.length_eq, ← List.length_append, hsplit.length_eq]
  have hperm : (sorted.take (window.length / 2) ++ nans ++ sorted.drop (window.length / 2)).Perm window := by
    refine List.Perm.trans ?_ hsplit
    refine (List.perm_append_comm.append_right _).trans ?_
    rw [List.append_assoc, List.take_append_drop]
    exact hsorted.append_left nans
  refine ⟨_, hperm, ?_⟩
  rw [List.map_append, List.map_append]
  refine median_nan ?_ ?_ ?_ ?_
  · intro x hx
    obtain ⟨pair, hpair, rfl⟩ := List.mem_map.mp hx
    exact of_decide_eq_true (List.mem_filter.mp hpair).2
  · have hmem : pair ∈ nans := List.mem_filter.mpr ⟨hpair, decide_eq_true hnan⟩
    intro hnil
    rw [List.map_eq_nil_iff.mp hnil] at hmem
    cases hmem
  · rw [← List.map_append, ← List.map_append, List.length_map, List.length_map, hperm.length_eq, List.length_take]
    omega
  · rw [← List.map_append, List.take_append_drop, List.pairwise_map]
    refine (List.pairwise_insertionSort below numbers).imp_of_mem ?_
    intro p q hp hq hle
    have hnumber : ∀ p ∈ sorted, c.pick p ≠ .nan := by
      intro p hp
      exact of_decide_eq_true (List.mem_filter.mp (hsorted.mem_iff.mp hp)).2
    exact (not_lt_iff_position (hnumber p hp) (hnumber q hq)).mpr hle

end Spikes

/-- A minority of spikes leaves the reference as it is, in whatever order they came,
unless one of them is a NaN: then some order makes a NaN of the reference. -/
theorem spikes_unmoved_iff {U : Type} (str : U → String) (c : Channel) (lo hi : ℚ) (window : List (PyFloat × PyFloat))
    (hlong : 5 ≤ window.length)
    (hminority : 2 * window.countP (fun pair => !within lo hi (c.pick pair)) < window.length) :
    (∀ window' : List (PyFloat × PyFloat), window'.Perm window → Unmoved str c lo hi window') ↔
      ∀ pair ∈ window, c.pick pair ≠ .nan := by
  constructor
  · intro hunmoved pair hpair hnan
    obtain ⟨window', hperm, hmedian⟩ := exists_perm_median_nan hminority hpair hnan
    obtain ⟨m, hm, -⟩ := (hunmoved window' hperm).reference
    rw [hmedian] at hm
    cases hm
  · intro hnan window' hperm
    refine unmoved_of_no_nan ?_ ?_ fun pair hpair => hnan pair (hperm.mem_iff.mp hpair)
    · rw [hperm.length_eq]
      exact hlong
    · rw [hperm.length_eq, hperm.countP_eq]
      exact hminority

/-- A window of temperatures, with an infinity that is left out of account. -/
theorem spikes_unmoved_iff_sample :
    (∀ window' : List (PyFloat × PyFloat),
      window'.Perm [(.finite 22, .finite 50), (.inf false, .finite 50), (.finite 23, .finite 51),
        (.finite 23, .nan), (.finite 24, .finite 50)] → Unmoved id .a 22 24 window') ↔
      ∀ pair ∈ [(PyFloat.finite 22, PyFloat.finite 50), (.inf false, .finite 50), (.finite 23, .finite 51),
        (.finite 23, .nan), (.finite 24, .finite 50)], Channel.a.pick pair ≠ .nan :=
  spikes_unmoved_iff id .a 22 24 _ (by decide) (by decide +kernel)

/-- A temperature reading. -/
def temperature (celsius : PyFloat) : TelemetryReading String Unit where
  device_id := "0f8fad5b-d9cb-469f-a165-70867728950e"
  device_type := "temperature_sensor"
  timestamp := ()
  payload := [("temperature_celsius", .float celsius), ("humidity_percent", .int 50)]
  metadata := []

/-- Two NaN among five temperatures of 23 degrees: the reading of 23 degrees that follows
is the largest possible deviation. -/
theorem nan_moves_reference :
    (¬ ∀ (c : Channel) (lo hi : ℚ) (window : List (PyFloat × PyFloat)), 5 ≤ window.length →
        2 * window.countP (fun pair => !within lo hi (c.pick pair)) < window.length →
          Unmoved (@id String) c lo hi window) ∧
      (((extract_rows .unrounded id
          ([.finite 23, .finite 23, .nan, .nan, .finite 23, .finite 23].map temperature)).call
            (.new 10 Dict.empty)).1.toOption.bind fun rows => rows[5]?.bind fun row => row[Channel.a.dev_index]?) =
        some (.finite 1000) := by
  constructor
  · intro hclaim
    obtain ⟨m, hm, -⟩ := (hclaim .a 23 23 [(.finite 23, .finite 50), (.finite 23, .finite 50), (.nan, .finite 50),
      (.nan, .finite 50), (.finite 23, .finite 50)] (by decide) (by decide +kernel)).reference
    have hnan : median Arithmetic.unrounded [.finite 23, .finite 23, .nan, .nan, .finite 23] = .ok .nan := by
      decide +kernel
    cases hnan.symm.trans hm
  · decide +kernel

end gateway.feature_extractor
