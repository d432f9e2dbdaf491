import EdgeGateway.CloudApi.AnalyticsService

open SqlGroups
open gateway.telemetry_service

namespace gateway.cloud_api.analytics_service

variable {A T S : Type} [DecidableEq A]

/-- A content of the two tables. -/
structure Tables (A T S : Type) where
  telemetry_readings : TelemetryReadings
  alerts : List (AlertRow A T S)

/-- 24 hours before, in microseconds. -/
def cutoff (utcnow : ℤ) : ℤ := utcnow - 86400000000

def Tables.recent_readings (tables : Tables A T S) (utcnow : ℤ) : List TelemetryRow :=
  tables.telemetry_readings.rows.filter (·.timestamp ≥ cutoff utcnow)

def Tables.recent_alerts (tables : Tables A T S) (utcnow : ℤ) : List (AlertRow A T S) :=
  tables.alerts.filter (·.timestamp ≥ cutoff utcnow)

/-- The executions of the two queries. -/
structure HealthQueries (A T S : Type) [DecidableEq A] where
  readings : GroupBy fun row : TelemetryRow => (row.device_id, row.device_type)
  anomalies : GroupBy (AlertRow.device_id : AlertRow A T S → A)

/-- The scores on a content of the tables. -/
def scores_of (text : A ↪ String) (queries : HealthQueries A T S) (tables : Tables A T S) (utcnow : ℤ) :
    List DeviceHealthEntry :=
  device_health_scores text (.ok (queries.readings.run (tables.recent_readings utcnow)))
    (.ok (queries.anomalies.run (tables.recent_alerts utcnow)))

/-- 1 - min(1, anomalies / total) rounded to 4 places, and 1 or 0 without readings. -/
def expected_score (anomalies total : ℕ) : ℚ :=
  if total = 0 then if anomalies = 0 then 1 else 0
  else PyRound.round (1 - min 1 ((anomalies : ℚ) / total)) 4

/-- One entry for each device that occurs, with all its readings and alerts. -/
structure Aggregates (text : A ↪ String) (readings : List TelemetryRow) (alerts : List (AlertRow A T S))
    (entries : List DeviceHealthEntry) : Prop where
  nodup : (entries.map (·.device_id)).Nodup
  mem_iff : ∀ device_id, device_id ∈ entries.map (·.device_id) ↔
    (∃ row ∈ readings, row.device_id.str = device_id) ∨ ∃ alert ∈ alerts, text alert.device_id = device_id
  total_readings : ∀ entry ∈ entries, entry.total_readings = readings.countP fun row => row.device_id.str = entry.device_id
  anomaly_count : ∀ entry ∈ entries, entry.anomaly_count = alerts.countP fun alert => text alert.device_id = entry.device_id
  health_score : ∀ entry ∈ entries, entry.health_score = expected_score entry.anomaly_count entry.total_readings

/-- The readings of each device are all of one type. -/
def OneType (readings : List TelemetryRow) : Prop :=
  ∀ row ∈ readings, ∀ row' ∈ readings, row.device_id = row'.device_id → row.device_type = row'.device_type

theorem round_score_eq (anomalies total : ℕ) : PyRound.round (score anomalies total) 4 = expected_score anomalies total := by
  unfold score expected_score
  obtain rfl | hpos := Nat.eq_zero_or_pos total
  · rw [if_neg (lt_irrefl 0), if_pos rfl]
    split
    · norm_num [PyRound.round, PyFloat.roundHalfEven]
    · norm_num [PyRound.round, PyFloat.roundHalfEven]
  · rw [if_pos hpos, if_neg hpos.ne']
    congr 1
    obtain hle | hge := le_total 1 ((anomalies : ℚ) / total)
    · rw [min_eq_left hle, sub_self, max_eq_left (sub_nonpos.mpr hle)]
    · rw [min_eq_right hge, max_eq_right (sub_nonneg.mpr hge)]

section Scores

variable {text : A ↪ String} {readings : List TelemetryRow} {alerts : List (AlertRow A T S)} {device_id : String}
  (queries : HealthQueries A T S)

/-- The dict from the results of the first query. -/
abbrev HealthQueries.reading_counts (readings : List TelemetryRow) : Dict String (String × ℕ) :=
  .ofList ((queries.readings.run readings).map fun row => (row.1.1.str, row.1.2, row.2))

/-- The dict from the results of the second query. -/
abbrev HealthQueries.anomaly_counts (text : A ↪ String) (alerts : List (AlertRow A T S)) : Dict String ℕ :=
  .ofList ((queries.anomalies.run alerts).map fun row => (text row.1, row.2))

theorem mem_reading_counts : device_id ∈ (queries.reading_counts readings).keys ↔ ∃ row ∈ readings, row.device_id.str = device_id :=
  queries.readings.mem_names_iff (fun group => group.1.str) fun row => (row.1.2, row.2)

theorem mem_anomaly_counts :
    device_id ∈ (queries.anomaly_counts text alerts).keys ↔ ∃ alert ∈ alerts, text alert.device_id = device_id :=
  queries.anomalies.mem_names_iff text Prod.snd

/-- The dict has the count of one of the types of the device. -/
theorem exists_of_reading_counts {info : String × ℕ} (h : (queries.reading_counts readings).get? device_id = some info) :
    ∃ row ∈ readings, row.device_id.str = device_id ∧
      info.2 = readings.countP fun other => (other.device_id, other.device_type) = (row.device_id, row.device_type) := by
  obtain ⟨row, hrow, hname, rfl⟩ :=
    queries.readings.exists_of_get?_names (fun group => group.1.str) (fun row => (row.1.2, row.2)) h
  exact ⟨row, hrow, hname, rfl⟩

theorem anomaly_counts_eq :
    (queries.anomaly_counts text alerts).getD device_id 0 = alerts.countP fun alert => text alert.device_id = device_id := by
  cases hget : (queries.anomaly_counts text alerts).get? device_id with
  | none =>
    rw [Dict.getD, hget, queries.anomalies.countP_eq_zero_of_get?_names text Prod.snd hget, Option.getD_none]
  | some n =>
    obtain ⟨alert, halert, rfl, rfl⟩ := queries.anomalies.exists_of_get?_names text Prod.snd hget
    rw [Dict.getD, hget, Option.getD_some]
    refine List.countP_congr fun other _ => ?_
    rw [decide_eq_true_eq, decide_eq_true_eq, text.injective.eq_iff]

/-- The readings that an entry shows for a device. -/
abbrev HealthQueries.total_readings (readings : List TelemetryRow) (device_id : String) : ℕ :=
  (((queries.reading_counts readings).get? device_id).map Prod.snd).getD 0

/-- The readings of one type count as all of the device if there is no other type. -/
theorem total_readings_eq_of_oneType (hone : OneType readings) (device_id : String) :
    queries.total_readings readings device_id = readings.countP fun row => row.device_id.str = device_id := by
  cases hget : (queries.reading_counts readings).get? device_id with
  | none =>
    rw [HealthQueries.total_readings, hget, queries.readings.countP_eq_zero_of_get?_names (fun group => group.1.str)
      (fun row => (row.1.2, row.2)) hget]
    rfl
  | some info =>
    obtain ⟨row, hrow, rfl, hcount⟩ := exists_of_reading_counts queries hget
    rw [HealthQueries.total_readings, hget, Option.map_some, Option.getD_some, hcount]
    refine List.countP_congr fun other hother => ?_
    rw [decide_eq_true_eq, decide_eq_true_eq, Uuid.str_injective.eq_iff, Prod.mk.injEq]
    exact ⟨fun h => h.1, fun h => ⟨h, hone other hother row hrow h⟩⟩

/-- When all readings of a device are counted they are all of one type. -/
theorem device_type_eq_of_total_readings {row row' : TelemetryRow} (hrow : row ∈ readings) (hrow' : row' ∈ readings)
    (hsame : row.device_id = row'.device_id)
    (htotal : queries.total_readings readings row.device_id.str =
      readings.countP fun other => other.device_id.str = row.device_id.str) : row.device_type = row'.device_type := by
  obtain ⟨info, hget⟩ := Dict.mem_keys_iff.mp ((mem_reading_counts queries).mpr ⟨row, hrow, rfl⟩)
  obtain ⟨first, _, hname, hcount⟩ := exists_of_reading_counts queries hget
  rw [HealthQueries.total_readings, hget, Option.map_some, Option.getD_some, hcount] at htotal
  have htype : ∀ other ∈ readings, other.device_id.str = row.device_id.str → other.device_type = first.device_type := by
    intro other hother hother_name
    have hboth := of_countP_eq ?_ htotal hother (decide_eq_true hother_name)
    · exact (Prod.mk.inj (of_decide_eq_true hboth)).2
    · intro another _ hgroup
      rw [decide_eq_true_eq] at hgroup ⊢
      rw [(Prod.mk.inj hgroup).1, hname]
  rw [htype row hrow rfl, htype row' hrow' (congrArg Uuid.str hsame.symm)]

/-- The ids that the entries have, in their order. -/
abbrev HealthQueries.device_ids (text : A ↪ String) (readings : List TelemetryRow) (alerts : List (AlertRow A T S)) :
    List String :=
  ((queries.reading_counts readings).keys ++ (queries.anomaly_counts text alerts).keys).dedup.insertionSort (· ≤ ·)

/-- The entries when both queries succeed. -/
abbrev HealthQueries.entries (text : A ↪ String) (readings : List TelemetryRow) (alerts : List (AlertRow A T S)) :
    List DeviceHealthEntry :=
  (queries.device_ids text readings alerts).map
    (health_entry (queries.reading_counts readings) (queries.anomaly_counts text alerts))

theorem map_device_id_entries :
    (queries.entries text readings alerts).map (·.device_id) = queries.device_ids text readings alerts := by
  rw [HealthQueries.entries, List.map_map]
  exact List.map_id _

theorem mem_device_ids : device_id ∈ queries.device_ids text readings alerts ↔
    (∃ row ∈ readings, row.device_id.str = device_id) ∨ ∃ alert ∈ alerts, text alert.device_id = device_id := by
  rw [List.mem_insertionSort, List.mem_dedup, List.mem_append, mem_reading_counts, mem_anomaly_counts]

theorem aggregates_iff : Aggregates text readings alerts (queries.entries text readings alerts) ↔ OneType readings := by
  constructor
  · intro h row hrow row' hrow' hsame
    refine device_type_eq_of_total_readings queries hrow hrow' hsame ?_
    have hid : row.device_id.str ∈ queries.device_ids text readings alerts :=
      (mem_device_ids queries).mpr (.inl ⟨row, hrow, rfl⟩)
    exact h.total_readings _ (List.mem_map_of_mem hid)
  · intro hone
    refine ⟨?_, ?_, ?_, ?_, ?_⟩
    · rw [map_device_id_entries, (List.perm_insertionSort _ _).nodup_iff]
      exact List.nodup_dedup _
    · intro device_id
      rw [map_device_id_entries]
      exact mem_device_ids queries
    · intro entry hentry
      obtain ⟨device_id, _, rfl⟩ := List.mem_map.mp hentry
      exact total_readings_eq_of_oneType queries hone device_id
    · intro entry hentry
      obtain ⟨device_id, _, rfl⟩ := List.mem_map.mp hentry
      exact anomaly_counts_eq queries
    · intro entry hentry
      obtain ⟨device_id, _, rfl⟩ := List.mem_map.mp hentry
      exact round_score_eq _ _

end Scores

/-- Each device has one entry with all its readings and alerts exactly if the readings of each
device are of one type. -/
theorem device_health_scores_iff (text : A ↪ String) (queries : HealthQueries A T S) (tables : Tables A T S) (utcnow : ℤ) :
    Aggregates text (tables.recent_readings utcnow) (tables.recent_alerts utcnow) (scores_of text queries tables utcnow) ↔
      OneType (tables.recent_readings utcnow) :=
  aggregates_iff queries

/-- An execution that has the groups in the order of their last rows. -/
def sample_queries : HealthQueries String String String where
  readings := { run := groups _, perm := fun _ => .refl _ }
  anomalies := { run := groups _, perm := fun _ => .refl _ }

def sample_row (id : Uuid) (device_type : String) : TelemetryRow where
  id
  device_id := 7
  device_type
  timestamp := 1735689600000000
  payload := .dict []
  metadata_ := .dict []

/-- Of a device with one reading as a sensor and one as a camera the entry has one reading. -/
theorem device_health_scores_last_type :
    ¬ ∀ (queries : HealthQueries String String String) (tables : Tables String String String) (utcnow : ℤ),
      Aggregates (.refl String) (tables.recent_readings utcnow) (tables.recent_alerts utcnow)
        (scores_of (.refl String) queries tables utcnow) := by
  intro h
  have hkey : ([sample_row 1 "temperature_sensor", sample_row 2 "camera"].map (·.id)).Nodup := by decide
  have hrecent : cutoff 1735689600000000 ≤ 1735689600000000 := by decide
  have hone := (aggregates_iff sample_queries).mp (h sample_queries ⟨⟨_, hkey⟩, []⟩ 1735689600000000)
  have hsame := hone (sample_row 1 "temperature_sensor")
    (List.mem_filter.mpr ⟨List.mem_cons_self, decide_eq_true hrecent⟩) (sample_row 2 "camera")
    (List.mem_filter.mpr ⟨List.mem_cons_of_mem _ List.mem_cons_self, decide_eq_true hrecent⟩) rfl
  revert hsame
  decide

end gateway.cloud_api.analytics_service
