import EdgeGateway.Shared.Telemetry.StreamEncoding

namespace gateway.data_ingestion

open telemetry

/-- What `validate_telemetry` raises: a ValidationError, or what Python does. -/
inductive ValidationFailure where
  | ValidationError (message : String)
  | raised (e : PyExc)
  deriving DecidableEq

def five_minutes : ℤ := 5 * 60 * 1000000

def twenty_four_hours : ℤ := 24 * 3600 * 1000000

/-- The order of a datetime and a naive one, which TypeError leaves open for an aware
datetime. -/
def compare (t : PyDatetime) (wall : ℤ) : Except ValidationFailure Ordering :=
  match t.1.utcoffset with
  | none => .ok (Ord.compare t.wall wall)
  | some _ => .error (.raised .TypeError)

/-- `now + timedelta`. -/
def plus (now microseconds : ℤ) : Except ValidationFailure ℤ :=
  match PyDatetime.plus now microseconds with
  | .ok wall => .ok wall
  | .error e => .error (.raised e)

/-- Validate a telemetry reading; `now` is the clock of `utcnow()`. -/
def validate_telemetry (now : ℤ) (reading : IncomingReading) : Except ValidationFailure IncomingReading := do
  if (← compare reading.timestamp (← plus now five_minutes)) = .gt then
    throw (.ValidationError ("Timestamp too far in the future: " ++ reading.timestamp.str))
  if (← compare reading.timestamp (← plus now (-twenty_four_hours))) = .lt then
    throw (.ValidationError ("Timestamp too old: " ++ reading.timestamp.str))
  if reading.payload.1 = [] then
    throw (.ValidationError "Empty payload")
  if Uuid.parse reading.device_id.str = none then
    throw (.ValidationError ("Invalid device_id: " ++ reading.device_id.str))
  return reading

/-- The rules, as they are for every timestamp: a time close to `now`, a payload that
is not empty, and a UUID. -/
structure Rules (now : ℤ) (reading : IncomingReading) : Prop where
  not_future : reading.timestamp.instant ≤ now + five_minutes
  not_old : now - twenty_four_hours ≤ reading.timestamp.instant
  payload : reading.payload.1 ≠ []
  device_id : Uuid.parse reading.device_id.str ≠ none

theorem device_id_rule (reading : IncomingReading) : Uuid.parse reading.device_id.str ≠ none := by
  rw [Uuid.parse_str]
  simp

theorem plus_ok {now microseconds : ℤ} (h : 0 ≤ now + microseconds ∧ now + microseconds < PyDatetime.max_wall) :
    plus now microseconds = .ok (now + microseconds) := by
  rw [plus, PyDatetime.plus, if_pos h]

/-- The rules of a naive timestamp are about the clock that it shows. -/
theorem rules_iff_of_naive {now : ℤ} {reading : IncomingReading} (h : reading.timestamp.1.utcoffset = none) :
    Rules now reading ↔ ¬ now + five_minutes < reading.timestamp.wall ∧
      ¬ reading.timestamp.wall < now + -twenty_four_hours ∧ reading.payload.1 ≠ [] := by
  have hinstant : reading.timestamp.instant = reading.timestamp.wall := by
    rw [PyDatetime.instant, h]
  constructor
  · rintro ⟨hnot_future, hnot_old, hpayload, _⟩
    rw [hinstant] at hnot_future hnot_old
    exact ⟨by omega, by omega, hpayload⟩
  · rintro ⟨hnot_future, hnot_old, hpayload⟩
    refine ⟨?_, ?_, hpayload, device_id_rule reading⟩
    · omega
    · omega

/-- The validator returns a reading when its timestamp is naive and it keeps the rules. -/
theorem validate_telemetry_ok_iff {now : ℤ} {reading : IncomingReading}
    (hnow : twenty_four_hours ≤ now ∧ now + five_minutes < PyDatetime.max_wall) :
    validate_telemetry now reading = .ok reading ↔ reading.timestamp.1.utcoffset = none ∧ Rules now reading := by
  have hlate : plus now five_minutes = .ok (now + five_minutes) := by
    apply plus_ok
    unfold five_minutes twenty_four_hours at *
    omega
  have hearly : plus now (-twenty_four_hours) = .ok (now + -twenty_four_hours) := by
    apply plus_ok
    unfold five_minutes twenty_four_hours at *
    omega
  rw [validate_telemetry, hlate, hearly]
  cases hoffset : reading.timestamp.1.utcoffset with
  | some offset =>
    have hcompare : ∀ wall, compare reading.timestamp wall = .error (.raised .TypeError) := by
      intro wall
      rw [compare, hoffset]
    simp [hcompare, bind, Except.bind]
  | none =>
    have hcompare : ∀ wall, compare reading.timestamp wall = .ok (Ord.compare reading.timestamp.wall wall) := by
      intro wall
      rw [compare, hoffset]
    simp only [hcompare, bind, Except.bind, Int.compare_eq_gt, Int.compare_eq_lt, rules_iff_of_naive hoffset, true_and]
    by_cases hfuture : now + five_minutes < reading.timestamp.wall
    · simp [hfuture]
    · by_cases hold : reading.timestamp.wall < now + -twenty_four_hours
      · simp [hfuture, hold]
      · by_cases hpayload : reading.payload.1 = []
        · simp [hfuture, hold, hpayload]
        · simp [hfuture, hold, hpayload, device_id_rule, pure, Except.pure]

/-- A reading to return: its instant is in the window around `now`, and its payload is not empty. -/
def Acceptable (now : ℤ) (reading : IncomingReading) : Prop :=
  (now - twenty_four_hours ≤ reading.timestamp.instant ∧ reading.timestamp.instant ≤ now + five_minutes) ∧
    reading.payload.1 ≠ []

theorem rules_iff_acceptable {now : ℤ} {reading : IncomingReading} : Rules now reading ↔ Acceptable now reading := by
  constructor
  · rintro ⟨hnot_future, hnot_old, hpayload, _⟩
    exact ⟨⟨hnot_old, hnot_future⟩, hpayload⟩
  · rintro ⟨⟨hnot_old, hnot_future⟩, hpayload⟩
    exact ⟨hnot_future, hnot_old, hpayload, device_id_rule reading⟩

/-- The validator returns an acceptable reading, and rejects every other one as its docstring says. -/
def Decides (now : ℤ) (reading : IncomingReading) : Prop :=
  (Acceptable now reading ∧ validate_telemetry now reading = .ok reading) ∨
    (¬ Acceptable now reading ∧ ∃ message, validate_telemetry now reading = .error (.ValidationError message))

/-- A clock that a datetime can show. -/
def InCalendar (wall : ℤ) : Prop := 0 ≤ wall ∧ wall < PyDatetime.max_wall

instance (wall : ℤ) : Decidable (InCalendar wall) := inferInstanceAs (Decidable (_ ∧ _))

section Decides

variable {now : ℤ} {reading : IncomingReading}

theorem plus_of_inCalendar {microseconds : ℤ} (h : InCalendar (now + microseconds)) :
    plus now microseconds = .ok (now + microseconds) := plus_ok h

theorem plus_of_not_inCalendar {microseconds : ℤ} (h : ¬ InCalendar (now + microseconds)) :
    plus now microseconds = .error (.raised .OverflowError) := by
  have hplus : PyDatetime.plus now microseconds = .error .OverflowError := if_neg h
  rw [plus, hplus]

/-- What Python raises decides nothing. -/
theorem not_decides_of_raised {e : PyExc} (h : validate_telemetry now reading = .error (.raised e)) :
    ¬ Decides now reading := by
  rintro (⟨_, hok⟩ | ⟨_, message, herror⟩)
  · cases h.symm.trans hok
  · cases h.symm.trans herror

theorem decides_of_rejected {message : String} (h : validate_telemetry now reading = .error (.ValidationError message))
    (hnot : ¬ Acceptable now reading) : Decides now reading := .inr ⟨hnot, message, h⟩

/-- The end of the window is not in the calendar. -/
theorem validate_telemetry_of_late (h : ¬ InCalendar (now + five_minutes)) :
    validate_telemetry now reading = .error (.raised .OverflowError) := by
  rw [validate_telemetry, plus_of_not_inCalendar h]
  rfl

theorem validate_telemetry_of_aware {offset : Bool × PyTime} (hlate : InCalendar (now + five_minutes))
    (hoffset : reading.timestamp.1.utcoffset = some offset) :
    validate_telemetry now reading = .error (.raised .TypeError) := by
  have hcompare : compare reading.timestamp (now + five_minutes) = .error (.raised .TypeError) := by
    rw [compare, hoffset]
  simp only [validate_telemetry, plus_of_inCalendar hlate, hcompare, bind, Except.bind]

section Naive

theorem validate_telemetry_of_future (hlate : InCalendar (now + five_minutes))
    (hoffset : reading.timestamp.1.utcoffset = none) (h : now + five_minutes < reading.timestamp.wall) :
    validate_telemetry now reading =
      .error (.ValidationError ("Timestamp too far in the future: " ++ reading.timestamp.str)) := by
  have hcompare : compare reading.timestamp (now + five_minutes) = .ok .gt := by
    rw [compare, hoffset, Int.compare_eq_gt.mpr h]
  simp only [validate_telemetry, plus_of_inCalendar hlate, hcompare, bind, Except.bind]
  rfl

/-- A time that is not in the future is compared with the start of the window. -/
theorem validate_telemetry_of_not_future (hlate : InCalendar (now + five_minutes))
    (hoffset : reading.timestamp.1.utcoffset = none) (h : ¬ now + five_minutes < reading.timestamp.wall) :
    validate_telemetry now reading = (do
      if (← compare reading.timestamp (← plus now (-twenty_four_hours))) = .lt then
        throw (.ValidationError ("Timestamp too old: " ++ reading.timestamp.str))
      if reading.payload.1 = [] then
        throw (.ValidationError "Empty payload")
      if Uuid.parse reading.device_id.str = none then
        throw (.ValidationError ("Invalid device_id: " ++ reading.device_id.str))
      return reading) := by
  have hcompare : compare reading.timestamp (now + five_minutes) =
      .ok (Ord.compare reading.timestamp.wall (now + five_minutes)) := by
    rw [compare, hoffset]
  have hnot : Ord.compare reading.timestamp.wall (now + five_minutes) ≠ .gt := mt Int.compare_eq_gt.mp h
  simp only [validate_telemetry, plus_of_inCalendar hlate, hcompare, bind, Except.bind, if_neg hnot]

/-- The start of the window is not in the calendar. -/
theorem validate_telemetry_of_early (hlate : InCalendar (now + five_minutes))
    (hoffset : reading.timestamp.1.utcoffset = none) (hnot : ¬ now + five_minutes < reading.timestamp.wall)
    (h : ¬ InCalendar (now + -twenty_four_hours)) :
    validate_telemetry now reading = .error (.raised .OverflowError) := by
  rw [validate_telemetry_of_not_future hlate hoffset hnot, plus_of_not_inCalendar h]
  rfl

theorem decides_of_future (hlate : InCalendar (now + five_minutes)) (hoffset : reading.timestamp.1.utcoffset = none)
    (h : now + five_minutes < reading.timestamp.wall) : Decides now reading := by
  apply decides_of_rejected (validate_telemetry_of_future hlate hoffset h)
  rw [← rules_iff_acceptable, rules_iff_of_naive hoffset]
  exact fun hrules => hrules.1 h

/-- A time that both ends of the window can be compared with. -/
theorem decides_of_not_future (hlate : InCalendar (now + five_minutes)) (hearly : InCalendar (now + -twenty_four_hours))
    (hoffset : reading.timestamp.1.utcoffset = none) (hnot : ¬ now + five_minutes < reading.timestamp.wall) :
    Decides now reading := by
  have hrest := validate_telemetry_of_not_future hlate hoffset hnot
  have hcompare : compare reading.timestamp (now + -twenty_four_hours) =
      .ok (Ord.compare reading.timestamp.wall (now + -twenty_four_hours)) := by
    rw [compare, hoffset]
  simp only [plus_of_inCalendar hearly, hcompare, bind, Except.bind, Int.compare_eq_lt, device_id_rule, if_false] at hrest
  have hacceptable : Acceptable now reading ↔ ¬ reading.timestamp.wall < now + -twenty_four_hours ∧ reading.payload.1 ≠ [] := by
    rw [← rules_iff_acceptable, rules_iff_of_naive hoffset]
    exact and_iff_right hnot
  by_cases hold : reading.timestamp.wall < now + -twenty_four_hours
  · rw [if_pos hold] at hrest
    apply decides_of_rejected hrest
    rw [hacceptable]
    exact fun h => h.1 hold
  rw [if_neg hold] at hrest
  by_cases hpayload : reading.payload.1 = []
  · simp only [hpayload, if_true] at hrest
    apply decides_of_rejected hrest
    rw [hacceptable]
    exact fun h => h.2 hpayload
  · simp only [hpayload, if_false] at hrest
    exact .inl ⟨hacceptable.mpr ⟨hold, hpayload⟩, hrest⟩

end Naive

/-- The validator decides exactly the readings with a naive timestamp, where the window
can be computed as far as it is compared with. -/
theorem decides_iff (now : ℤ) (reading : IncomingReading) :
    Decides now reading ↔
      reading.timestamp.1.utcoffset = none ∧ InCalendar (now + five_minutes) ∧
        (now + five_minutes < reading.timestamp.wall ∨ InCalendar (now + -twenty_four_hours)) := by
  by_cases hlate : InCalendar (now + five_minutes)
  · cases hoffset : reading.timestamp.1.utcoffset with
    | some offset =>
      have hnot := not_decides_of_raised (validate_telemetry_of_aware hlate hoffset)
      refine iff_of_false hnot ?_
      rintro ⟨hnaive, _⟩
      cases hnaive
    | none =>
      refine Iff.trans ?_ (and_iff_right rfl).symm
      refine Iff.trans ?_ (and_iff_right hlate).symm
      by_cases hfuture : now + five_minutes < reading.timestamp.wall
      · exact iff_of_true (decides_of_future hlate hoffset hfuture) (.inl hfuture)
      by_cases hearly : InCalendar (now + -twenty_four_hours)
      · exact iff_of_true (decides_of_not_future hlate hearly hoffset hfuture) (.inr hearly)
      · refine iff_of_false (not_decides_of_raised (validate_telemetry_of_early hlate hoffset hfuture hearly)) ?_
        rintro (h | h)
        · exact hfuture h
        · exact hearly h
  · refine iff_of_false (not_decides_of_raised (validate_telemetry_of_late hlate)) ?_
    rintro ⟨_, hin, _⟩
    exact hlate hin

end Decides

/-- A reading of the simulator, whose timestamps are those of `datetime.now(timezone.utc)`. -/
def aware_reading : IncomingReading where
  device_id := 0
  device_type := "temperature_sensor"
  timestamp := ⟨{
    year := 2026, month := 3, day := 1
    time := { hour := 12, minute := 0, second := 0, microsecond := 0 }
    utcoffset := some (false, { hour := 0, minute := 0, second := 0, microsecond := 0 }) }, by decide⟩
  payload := ⟨[(.str "temperature_c", .int 21)], by simp [PyValue.DistinctKeys, PyValue.DistinctKeysDict]⟩
  metadata := .empty

/-- The reading is taken right now and has a payload, and comparing its timestamp raises TypeError. -/
theorem aware_reading_not_decided :
    Acceptable aware_reading.timestamp.instant aware_reading ∧
      validate_telemetry aware_reading.timestamp.instant aware_reading = .error (.raised .TypeError) ∧
      ¬ Decides aware_reading.timestamp.instant aware_reading := by
  have hlate : InCalendar (aware_reading.timestamp.instant + five_minutes) := by decide +kernel
  have hraised := validate_telemetry_of_aware hlate (rfl : aware_reading.timestamp.1.utcoffset = some _)
  refine ⟨⟨⟨?_, ?_⟩, ?_⟩, hraised, not_decides_of_raised hraised⟩
  · unfold twenty_four_hours
    omega
  · unfold five_minutes
    omega
  · exact List.cons_ne_nil _ _

end gateway.data_ingestion
