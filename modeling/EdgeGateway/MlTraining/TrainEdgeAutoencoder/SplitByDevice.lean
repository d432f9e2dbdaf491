import Mathlib.Algebra.Order.Floor.Semiring
import Mathlib.Data.Finset.Card
import Mathlib.Data.Rat.Floor
import Mathlib.Data.String.Basic
import EdgeGateway.Library.KeyedHistory
import EdgeGateway.Library.Uuid
import EdgeGateway.Shared.Telemetry

open gateway.telemetry

namespace gateway.train_edge_autoencoder

section Split

variable {T : Type} (readings : List (TelemetryReading Uuid T × Bool))

/-- `int(x)`, which rounds towards zero. -/
def int (x : ℚ) : ℤ := if 0 ≤ x then ⌊x⌋ else ⌈x⌉

/-- `l[start:stop]`, where a negative index counts from the end. -/
def slice (start stop : ℤ) (l : List String) : List String :=
  let index (i : ℤ) : ℕ := (if i < 0 then i + l.length else i).toNat
  (l.take (index stop)).drop (index start)

/-- An outcome of `random.shuffle`. -/
abbrev Shuffle := { shuffle : List String → List String // ∀ l, (shuffle l).Perm l }

/-- `sorted({str(r.device_id) for r, _ in readings})`. -/
def device_ids : List String := (readings.map fun (r, _) => r.device_id.str).dedup.insertionSort (· ≤ ·)

/-- `split_of.update({d: split for d in ids})`. -/
def assign (split : ℕ) (ids : List String) (split_of : Dict String ℕ) : Dict String ℕ :=
  ids.foldl (fun split_of d => split_of.set d split) split_of

def split_of (device_ids : List String) (fractions : ℚ × ℚ) : Dict String ℕ :=
  let n_train := int (device_ids.length * fractions.1)
  let n_cal := int (device_ids.length * fractions.2)
  assign 1 (slice n_train (n_train + n_cal) device_ids) (assign 0 (slice 0 n_train device_ids) .empty)

/-- Boolean masks assigning whole devices to train / calibration / test. -/
def split_by_device (shuffle : Shuffle) (fractions : ℚ × ℚ) : List Bool × List Bool × List Bool :=
  let split_of := split_of (shuffle.1 (device_ids readings)) fractions
  let split := readings.map fun (r, _) => split_of.getD r.device_id.str 2
  (split.map (· == 0), split.map (· == 1), split.map (· == 2))

/-- The distinct devices of the readings. -/
def devices : Finset Uuid := (readings.map fun (r, _) => r.device_id).toFinset

/-- The devices of the readings that a mask selects. -/
def selected (mask : List Bool) : Finset Uuid :=
  (((readings.zip mask).filter Prod.snd).map fun ((r, _), _) => r.device_id).toFinset

end Split

section Lemmas

variable {T : Type} {readings : List (TelemetryReading Uuid T × Bool)} {shuffle : Shuffle} {f₀ f₁ : ℚ}

theorem int_eq_natFloor {x : ℚ} (h : 0 ≤ x) : int x = ⌊x⌋₊ := by
  rw [int, if_pos h, Int.natCast_floor_eq_floor h]

theorem slice_zero (n : ℕ) (l : List String) : slice 0 n l = l.take n := by
  have hn : ¬ (n : ℤ) < 0 := not_lt.mpr (Int.natCast_nonneg n)
  simp only [slice, if_neg hn, lt_self_iff_false, if_false, Int.toNat_natCast, Int.toNat_zero, List.drop_zero]

theorem slice_add (n m : ℕ) (l : List String) : slice n (n + m) l = (l.drop n).take m := by
  have hn : ¬ (n : ℤ) < 0 := not_lt.mpr (Int.natCast_nonneg n)
  have hsum : ¬ ((n : ℤ) + m) < 0 := not_lt.mpr (add_nonneg (Int.natCast_nonneg n) (Int.natCast_nonneg m))
  simp only [slice, if_neg hn, if_neg hsum]
  rw [← Int.natCast_add, Int.toNat_natCast, Int.toNat_natCast, List.drop_take, Nat.add_sub_cancel_left]

theorem get?_assign (split : ℕ) (ids : List String) (split_of : Dict String ℕ) (d : String) :
    (assign split ids split_of).get? d = if d ∈ ids then some split else split_of.get? d :=
  Dict.get?_foldl_set_fun (fun _ => split) ids split_of d

/-- Where the slices put a device. -/
theorem getD_split_of {ids : List String} (h₀ : 0 ≤ f₀) (h₁ : 0 ≤ f₁) (d : String) :
    (split_of ids (f₀, f₁)).getD d 2 =
      if d ∈ (ids.drop ⌊ids.length * f₀⌋₊).take ⌊ids.length * f₁⌋₊ then 1
      else if d ∈ ids.take ⌊ids.length * f₀⌋₊ then 0 else 2 := by
  have htrain := int_eq_natFloor (mul_nonneg (Nat.cast_nonneg (α := ℚ) ids.length) h₀)
  have hcal := int_eq_natFloor (mul_nonneg (Nat.cast_nonneg (α := ℚ) ids.length) h₁)
  rw [split_of]
  dsimp only
  rw [htrain, hcal, slice_zero, slice_add, Dict.getD, get?_assign, get?_assign]
  split_ifs <;> rfl

theorem mem_device_ids {d : String} : d ∈ device_ids readings ↔ ∃ u ∈ devices readings, Uuid.str u = d := by
  rw [device_ids, List.mem_insertionSort, List.mem_dedup, devices]
  simp only [List.mem_map, List.mem_toFinset]
  constructor
  · rintro ⟨reading, hmem, rfl⟩
    exact ⟨_, ⟨reading, hmem, rfl⟩, rfl⟩
  · rintro ⟨u, ⟨reading, hmem, rfl⟩, rfl⟩
    exact ⟨reading, hmem, rfl⟩

theorem nodup_device_ids : (device_ids readings).Nodup :=
  (List.perm_insertionSort _ _).nodup_iff.mpr (List.nodup_dedup _)

/-- No two devices are called the same. -/
theorem length_device_ids : (device_ids readings).length = (devices readings).card := by
  rw [← List.toFinset_card_of_nodup nodup_device_ids, ← Finset.card_image_of_injective _ Uuid.str_injective]
  congr 1
  ext d
  rw [List.mem_toFinset, mem_device_ids, Finset.mem_image]

/-- A mask that goes by the device selects the devices that pass. -/
theorem mem_selected {p : String → Bool} {u : Uuid} :
    u ∈ selected readings (readings.map fun (r, _) => p r.device_id.str) ↔ u ∈ devices readings ∧ p u.str = true := by
  have hzip : readings.zip (readings.map fun (r, _) => p r.device_id.str) =
      readings.map fun reading => (reading, p reading.1.device_id.str) := by
    simpa only [List.map_id_fun', id_eq] using List.zip_map' (l := readings) (f := fun reading => reading)
  simp only [selected, devices, hzip, List.mem_toFinset, List.mem_map, List.mem_filter]
  constructor
  · rintro ⟨_, ⟨⟨reading, hmem, rfl⟩, hpasses⟩, rfl⟩
    exact ⟨⟨reading, hmem, rfl⟩, hpasses⟩
  · rintro ⟨⟨reading, hmem, rfl⟩, hpasses⟩
    exact ⟨_, ⟨⟨reading, hmem, rfl⟩, hpasses⟩, rfl⟩

theorem floor_add_floor_le (n : ℕ) (h₀ : 0 ≤ f₀) (h₁ : 0 ≤ f₁) (hsum : f₀ + f₁ ≤ 1) : ⌊n * f₀⌋₊ + ⌊n * f₁⌋₊ ≤ n := by
  have hn : (0 : ℚ) ≤ n := Nat.cast_nonneg n
  have htrain : (⌊n * f₀⌋₊ : ℚ) ≤ n * f₀ := Nat.floor_le (mul_nonneg hn h₀)
  have hcal : (⌊n * f₁⌋₊ : ℚ) ≤ n * f₁ := Nat.floor_le (mul_nonneg hn h₁)
  have hall : n * f₀ + n * f₁ ≤ (n : ℚ) := by
    rw [← mul_add]
    exact mul_le_of_le_one_right hn hsum
  exact_mod_cast (add_le_add htrain hcal).trans hall

/-- The mask of a list of distinct device names selects as many devices. -/
theorem card_selected {p : String → Bool} {ids : List String} (hids : ids.Nodup)
    (hsubset : ∀ d ∈ ids, d ∈ device_ids readings) (hp : ∀ d, p d = true ↔ d ∈ ids) :
    (selected readings (readings.map fun (r, _) => p r.device_id.str)).card = ids.length := by
  rw [← List.toFinset_card_of_nodup hids, ← Finset.card_image_of_injective _ Uuid.str_injective]
  congr 1
  ext d
  rw [Finset.mem_image, List.mem_toFinset]
  constructor
  · rintro ⟨u, hu, rfl⟩
    exact (hp _).mp (mem_selected.mp hu).2
  · intro hd
    obtain ⟨u, hu, rfl⟩ := mem_device_ids.mp (hsubset d hd)
    exact ⟨u, mem_selected.mpr ⟨hu, (hp _).mpr hd⟩, rfl⟩

section Shares

variable {ids : List String} (hperm : ids.Perm (device_ids readings)) (h₀ : 0 ≤ f₀) (h₁ : 0 ≤ f₁) (hsum : f₀ + f₁ ≤ 1)
include hperm h₀ h₁ hsum

/-- The first slice has its share of the devices. -/
theorem card_selected_train :
    (selected readings (readings.map fun (r, _) => (split_of ids (f₀, f₁)).getD r.device_id.str 2 == 0)).card =
      ⌊(devices readings).card * f₀⌋₊ := by
  have hnodup : ids.Nodup := hperm.nodup_iff.mpr nodup_device_ids
  have hlength : ids.length = (devices readings).card := hperm.length_eq.trans length_device_ids
  have hfit := floor_add_floor_le ids.length h₀ h₁ hsum
  rw [← hlength]
  refine (card_selected (p := fun d => (split_of ids (f₀, f₁)).getD d 2 == 0)
    (hnodup.sublist (List.take_sublist ⌊ids.length * f₀⌋₊ ids)) (fun d hd => hperm.mem_iff.mp (List.mem_of_mem_take hd))
    fun d => ?_).trans ?_
  · rw [beq_iff_eq, getD_split_of h₀ h₁]
    split_ifs with hcal htrain
    · -- The second slice begins where the first one ends.
      exact iff_of_false (by decide) fun htrain =>
        List.disjoint_take_drop hnodup (Nat.le_refl _) htrain (List.mem_of_mem_take hcal)
    · exact iff_of_true rfl htrain
    · exact iff_of_false (by decide) htrain
  · rw [List.length_take]
    omega

/-- So has the second one. -/
theorem card_selected_calibration :
    (selected readings (readings.map fun (r, _) => (split_of ids (f₀, f₁)).getD r.device_id.str 2 == 1)).card =
      ⌊(devices readings).card * f₁⌋₊ := by
  have hnodup : ids.Nodup := hperm.nodup_iff.mpr nodup_device_ids
  have hlength : ids.length = (devices readings).card := hperm.length_eq.trans length_device_ids
  have hfit := floor_add_floor_le ids.length h₀ h₁ hsum
  rw [← hlength]
  refine (card_selected (p := fun d => (split_of ids (f₀, f₁)).getD d 2 == 1)
    (hnodup.sublist ((List.take_sublist ⌊ids.length * f₁⌋₊ _).trans (List.drop_sublist ⌊ids.length * f₀⌋₊ ids)))
    (fun d hd => hperm.mem_iff.mp (List.mem_of_mem_drop (List.mem_of_mem_take hd))) fun d => ?_).trans ?_
  · rw [beq_iff_eq, getD_split_of h₀ h₁]
    split_ifs with hcal htrain
    · exact iff_of_true rfl hcal
    · exact iff_of_false (by decide) hcal
    · exact iff_of_false (by decide) hcal
  · rw [List.length_take, List.length_drop]
    omega

end Shares

end Lemmas

/-- The three masks partition the readings, a device has all its readings in one of them, and the first
two have exactly their shares of the devices. -/
theorem split_by_device_partition {T : Type} (readings : List (TelemetryReading Uuid T × Bool)) (shuffle : Shuffle)
    (f₀ f₁ : ℚ) (h₀ : 0 ≤ f₀) (h₁ : 0 ≤ f₁) (hsum : f₀ + f₁ ≤ 1) :
    let (train, calibration, test) := split_by_device readings shuffle (f₀, f₁)
    (∀ i < readings.length, (train[i]?, calibration[i]?, test[i]?) = (some true, some false, some false) ∨
      (train[i]?, calibration[i]?, test[i]?) = (some false, some true, some false) ∨
      (train[i]?, calibration[i]?, test[i]?) = (some false, some false, some true)) ∧
    (∀ (i j : ℕ) (hi : i < readings.length) (hj : j < readings.length),
      readings[i].1.device_id = readings[j].1.device_id →
      (train[i]?, calibration[i]?, test[i]?) = (train[j]?, calibration[j]?, test[j]?)) ∧
    (selected readings train).card = ⌊(devices readings).card * f₀⌋₊ ∧
    (selected readings calibration).card = ⌊(devices readings).card * f₁⌋₊ := by
  have hperm := shuffle.2 (device_ids readings)
  simp only [split_by_device, List.map_map, List.getElem?_map]
  refine ⟨fun i hi => ?_, fun i j hi hj hsame => ?_, card_selected_train hperm h₀ h₁ hsum,
    card_selected_calibration hperm h₀ h₁ hsum⟩
  · rw [List.getElem?_eq_getElem hi]
    simp only [Option.map_some, Function.comp_apply, getD_split_of h₀ h₁]
    split_ifs <;> decide
  · rw [List.getElem?_eq_getElem hi, List.getElem?_eq_getElem hj]
    simp only [Option.map_some, Function.comp_apply, hsame]

def sample_telemetry (device_id : Uuid) : TelemetryReading Uuid Unit × Bool :=
  ({ device_id, device_type := "temperature_sensor", timestamp := (), payload := [], metadata := [] }, false)

def reversing : Shuffle := ⟨List.reverse, List.reverse_perm⟩

/-- Two devices, one of which is to be trained on. -/
theorem split_by_device_sample :
    split_by_device [sample_telemetry 1, sample_telemetry 2, sample_telemetry 1] reversing (1 / 2, 1 / 4) =
        ([false, true, false], [false, false, false], [true, false, true]) ∧
      (selected [sample_telemetry 1, sample_telemetry 2, sample_telemetry 1] [false, true, false]).card =
        ⌊((devices [sample_telemetry 1, sample_telemetry 2, sample_telemetry 1]).card * (1 / 2) : ℚ)⌋₊ := by
  have hsplit : split_by_device [sample_telemetry 1, sample_telemetry 2, sample_telemetry 1] reversing (1 / 2, 1 / 4) =
      ([false, true, false], [false, false, false], [true, false, true]) := by decide +kernel
  have h := split_by_device_partition [sample_telemetry 1, sample_telemetry 2, sample_telemetry 1] reversing
    (1 / 2) (1 / 4) (by norm_num) (by norm_num) (by norm_num)
  rw [hsplit] at h
  exact ⟨hsplit, h.2.2.1⟩

end gateway.train_edge_autoencoder
