import Mathlib.Algebra.Order.Field.Rat
import EdgeGateway.Library.KeyedHistory

open LastSeen

namespace gateway.stream_monitor

/-- A device counts as active if it reported within this window. In seconds. -/
def ACTIVE_WINDOW_SECONDS : ℚ := 60

structure State where
  /-- The type and the time of each device. -/
  last_seen : Dict String (String × ℚ) := .empty
  known_types : List String := []
  /-- The gauge, by its label. -/
  active_devices : Dict String ℕ := .empty

/-- Mark a device as having just sent telemetry. -/
def record_device (now : ℚ) (device_id device_type : String) (s : State) : State :=
  { s with last_seen := s.last_seen.set device_id (device_type, now) }

section Update

variable (now : ℚ) (s : State)

def stale : List String :=
  (s.last_seen.items.filter fun item => item.2.2 < now - ACTIVE_WINDOW_SECONDS).map Prod.fst

/-- The table once the stale devices are deleted. -/
def fresh : Dict String (String × ℚ) := (stale now s).foldl Dict.erase s.last_seen

def counts : Dict String ℕ := Dict.counter ((fresh now s).values.map Prod.fst)

def update_active_devices : State :=
  let known_types := (counts now s).keys ∪ s.known_types
  { last_seen := fresh now s
    known_types := known_types
    active_devices :=
      known_types.foldl (fun gauge device_type => gauge.set device_type ((counts now s).getD device_type 0))
        s.active_devices }

end Update

inductive Call where
  | record_device (device_id device_type : String)
  | update_active_devices

/-- One call, with the time that it reads. -/
def step (s : State) : ℚ × Call → State
  | (now, .record_device device_id device_type) => record_device now device_id device_type s
  | (now, .update_active_devices) => update_active_devices now s

def run (calls : List (ℚ × Call)) : State := calls.foldl step {}

section History

variable (calls : List (ℚ × Call))

/-- Every report of the calls, oldest first. -/
def reports : List (String × String × ℚ) :=
  calls.filterMap fun
    | (now, .record_device device_id device_type) => some (device_id, device_type, now)
    | (_, .update_active_devices) => none

/-- The number of devices whose most recent report has the type and is at most 60 seconds old. -/
noncomputable def active (now : ℚ) (device_type : String) : ℕ :=
  {device_id | ∃ seen, latest (reports calls) device_id = some (device_type, seen) ∧ now - seen ≤ 60}.ncard

/-- Some pass of the calls has counted a device of the type. -/
def Counted (device_type : String) : Prop :=
  ∃ before now, before ++ [(now, .update_active_devices)] <+: calls ∧ device_type ∈ (counts now (run before)).keys

end History

section Run

variable {s : State} {now : ℚ} {calls : List (ℚ × Call)} {call : Call} {device_id device_type device_type' : String}

theorem run_append_singleton : run (calls ++ [(now, call)]) = step (run calls) (now, call) := List.foldl_append

theorem reports_append_record :
    reports (calls ++ [(now, .record_device device_id device_type)]) =
      reports calls ++ [(device_id, device_type, now)] :=
  List.filterMap_append

theorem reports_append_update : reports (calls ++ [(now, .update_active_devices)]) = reports calls :=
  List.filterMap_append.trans (List.append_nil _)

theorem mem_stale_iff :
    device_id ∈ stale now s ↔ ∃ report, s.last_seen.get? device_id = some report ∧ report.2 < now - ACTIVE_WINDOW_SECONDS := by
  simp only [stale, List.mem_map, List.mem_filter, decide_eq_true_eq, Dict.get?_eq_some_iff]
  constructor
  · rintro ⟨⟨_, report⟩, ⟨hmem, hold⟩, rfl⟩
    exact ⟨report, hmem, hold⟩
  · rintro ⟨report, hmem, hold⟩
    exact ⟨(device_id, report), ⟨hmem, hold⟩, rfl⟩

/-- The deletions leave exactly the devices of the window. -/
theorem get?_fresh (device_id : String) :
    (fresh now s).get? device_id =
      (s.last_seen.get? device_id).filter fun report => now - ACTIVE_WINDOW_SECONDS ≤ report.2 := by
  rw [fresh, Dict.get?_foldl_erase]
  cases hget : s.last_seen.get? device_id with
  | none => exact ite_self _
  | some report =>
    by_cases hold : report.2 < now - ACTIVE_WINDOW_SECONDS
    · rw [if_pos (mem_stale_iff.mpr ⟨report, hget, hold⟩), Option.filter_some, if_neg]
      rw [decide_eq_true_eq, not_le]
      exact hold
    · have hnot : device_id ∉ stale now s := by
        intro hmem
        obtain ⟨report', hget', hold'⟩ := mem_stale_iff.mp hmem
        cases hget.symm.trans hget'
        exact hold hold'
      rw [if_neg hnot, Option.filter_some, if_pos (decide_eq_true (not_lt.mp hold))]

/-- A pass counts the devices of a type by their entries. -/
theorem getD_counts (device_type : String) :
    (counts now s).getD device_type 0 =
      {device_id | ∃ report, (fresh now s).get? device_id = some report ∧ (report.1 == device_type) = true}.ncard := by
  rw [counts, Dict.getD_counter, ← Dict.countP_values_eq_ncard, List.count_eq_countP, List.countP_map]
  rfl

/-- What a pass makes of the gauge: every type known so far is set. -/
theorem get?_active_devices (device_type : String) :
    (update_active_devices now s).active_devices.get? device_type =
      if device_type ∈ (counts now s).keys ∨ device_type ∈ s.known_types then some ((counts now s).getD device_type 0)
      else s.active_devices.get? device_type := by
  rw [update_active_devices]
  dsimp only
  rw [Dict.get?_foldl_set_fun]
  simp only [List.mem_union_iff]

theorem counted_append_record :
    Counted (calls ++ [(now, .record_device device_id device_type)]) device_type' ↔ Counted calls device_type' := by
  refine exists_congr fun before => exists_congr fun moment => and_congr_left fun _ => ?_
  rw [List.prefix_concat_iff, or_iff_right]
  intro heq
  cases List.append_inj_right' heq rfl

theorem counted_append_update :
    Counted (calls ++ [(now, .update_active_devices)]) device_type ↔
      Counted calls device_type ∨ device_type ∈ (counts now (run calls)).keys := by
  constructor
  · rintro ⟨before, moment, hprefix, hmem⟩
    obtain heq | hprefix := List.prefix_concat_iff.mp hprefix
    · obtain ⟨rfl, hlast⟩ := List.append_inj' heq rfl
      cases hlast
      exact .inr hmem
    · exact .inl ⟨before, moment, hprefix, hmem⟩
  · rintro (⟨before, moment, hprefix, hmem⟩ | hmem)
    · exact ⟨before, moment, hprefix.trans (List.prefix_append _ _), hmem⟩
    · exact ⟨calls, now, List.prefix_refl _, hmem⟩

/-- The types known are those that some pass has counted. -/
theorem mem_known_types_iff : device_type ∈ (run calls).known_types ↔ Counted calls device_type := by
  induction calls using List.reverseRecOn with
  | nil =>
    refine iff_of_false List.not_mem_nil ?_
    rintro ⟨before, moment, hprefix, _⟩
    cases before <;> cases List.prefix_nil.mp hprefix
  | append_singleton calls call ih =>
    obtain ⟨now, call⟩ := call
    rw [run_append_singleton]
    cases call with
    | record_device device_id device_type' =>
      rw [counted_append_record]
      exact ih
    | update_active_devices =>
      rw [counted_append_update, ← ih, or_comm]
      exact List.mem_union_iff

/-- While time does not run backwards, the table represents the history at every later moment. -/
theorem represents_run (hsorted : (calls.map Prod.fst).Pairwise (· ≤ ·)) (hlater : ∀ call ∈ calls, call.1 ≤ now) :
    Represents ACTIVE_WINDOW_SECONDS now (reports calls) (run calls).last_seen := by
  induction calls using List.reverseRecOn generalizing now with
  | nil => exact represents_empty
  | append_singleton calls call ih =>
    obtain ⟨moment, call⟩ := call
    rw [List.map_append, List.pairwise_append] at hsorted
    have hbefore : Represents ACTIVE_WINDOW_SECONDS moment (reports calls) (run calls).last_seen :=
      ih hsorted.1 fun call hcall => hsorted.2.2 _ (List.mem_map_of_mem hcall) _ List.mem_cons_self
    have hle : moment ≤ now := hlater (moment, call) (List.mem_append_right _ List.mem_cons_self)
    refine Represents.later ?_ hle
    rw [run_append_singleton]
    cases call with
    | record_device device_id device_type =>
      rw [reports_append_record]
      exact hbefore.record device_id (device_type, moment)
    | update_active_devices =>
      rw [reports_append_update]
      exact hbefore.prune get?_fresh

/-- At a pass, the pruned table counts as the whole history does. -/
theorem getD_counts_run (hsorted : (calls.map Prod.fst).Pairwise (· ≤ ·)) (hlater : ∀ call ∈ calls, call.1 ≤ now)
    (device_type : String) : (counts now (run calls)).getD device_type 0 = active calls now device_type := by
  rw [getD_counts, active]
  congr 1
  ext device_id
  have hwindow : ∀ seen : ℚ, now - ACTIVE_WINDOW_SECONDS ≤ seen ↔ now - seen ≤ 60 := fun _ => sub_le_comm
  constructor
  · rintro ⟨⟨reported, seen⟩, hget, htype⟩
    obtain ⟨hlatest, hle⟩ := ((represents_run hsorted hlater).get?_pruned get?_fresh).mp hget
    cases eq_of_beq htype
    exact ⟨seen, hlatest, (hwindow seen).mp hle⟩
  · rintro ⟨seen, hlatest, hle⟩
    exact ⟨(device_type, seen), ((represents_run hsorted hlater).get?_pruned get?_fresh).mpr
      ⟨hlatest, (hwindow seen).mpr hle⟩, beq_self_eq_true device_type⟩

end Run

/-- After every pass, the gauge of each type counted so far says what the whole history says. -/
theorem gauge_eq_active {calls : List (ℚ × Call)} {now : ℚ} {device_type : String}
    (hsorted : ((calls ++ [(now, Call.update_active_devices)]).map Prod.fst).Pairwise (· ≤ ·))
    (hcounted : Counted (calls ++ [(now, .update_active_devices)]) device_type) :
    (run (calls ++ [(now, .update_active_devices)])).active_devices.get? device_type =
      some (active calls now device_type) := by
  rw [List.map_append, List.pairwise_append] at hsorted
  have hlater : ∀ call ∈ calls, call.1 ≤ now := fun call hcall =>
    hsorted.2.2 _ (List.mem_map_of_mem hcall) _ List.mem_cons_self
  rw [run_append_singleton, ← getD_counts_run hsorted.1 hlater]
  refine (get?_active_devices device_type).trans (if_pos ?_)
  rw [mem_known_types_iff, or_comm]
  exact counted_append_update.mp hcounted

/-- A device changes its type, and another one goes quiet and is pruned. -/
def sample_calls : List (ℚ × Call) :=
  [(0, .record_device "device-1" "temperature_sensor"), (1, .record_device "device-2" "temperature_sensor"),
    (5, .update_active_devices), (50, .record_device "device-1" "camera"), (70, .update_active_devices)]

/-- The first type is still reported, as zero. -/
theorem gauge_eq_active_sample :
    (run (sample_calls ++ [(75, .update_active_devices)])).active_devices.get? "temperature_sensor" =
        some (active sample_calls 75 "temperature_sensor") ∧
      (run (sample_calls ++ [(75, .update_active_devices)])).active_devices.get? "temperature_sensor" = some 0 := by
  have hcounted : Counted (sample_calls ++ [(75, .update_active_devices)]) "temperature_sensor" :=
    ⟨sample_calls.take 2, 5, ⟨sample_calls.drop 3 ++ [(75, .update_active_devices)], rfl⟩, by decide +kernel⟩
  exact ⟨gauge_eq_active (by decide +kernel) hcounted, by decide +kernel⟩

end gateway.stream_monitor
