import EdgeGateway.BatchAnalytics.SensorAggregation
import EdgeGateway.Library.Paging

open Paging

namespace gateway.anomaly_report

/-- A row of the table that the job reads, with its time in microseconds since the epoch after the cast. -/
structure AnomalyEvent where
  device_id : Option String
  device_type : Option String
  severity : Option String
  timestamp : Option ℤ

structure Params where
  start_time : Option String := none
  end_time : Option String := none
  device_type : Option String := none
  severity : Option String := none
  table_name : String := "anomaly_events"
  top_n : ℕ := 10

/-- What the job uses of Spark. -/
structure Spark where
  /-- Its reading of a text as a timestamp. -/
  cast : String → Option ℤ
  /-- The hour of the day in the zone of the session. -/
  hour : ℤ → ℕ
  /-- A row of a group that it comes to first. -/
  first : List AnomalyEvent → Option AnomalyEvent
  first_eq : ∀ rows, rows ≠ [] → ∃ row ∈ rows, first rows = some row

open sensor_aggregation (given)

section Run

variable (spark : Spark) (params : Params)

/-- The filters. A row is left out when a comparison is null. -/
def where_clause (row : AnomalyEvent) : Bool :=
  (given params.start_time).all (fun text => (spark.cast text).any fun start => row.timestamp.any (start ≤ ·)) &&
    (given params.end_time).all (fun text => (spark.cast text).any fun stop => row.timestamp.any (· ≤ stop)) &&
    (given params.device_type).all (row.device_type = some ·) && (given params.severity).all (row.severity = some ·)

/-- The row of a device. -/
structure TopDevice where
  device_id : Option String
  device_type : Option String
  anomaly_count : ℕ

structure Summary where
  total_anomalies : ℕ
  by_device_type : List (Option String × ℕ)
  by_severity : List (Option String × ℕ)
  by_hour_of_day : List (Option ℕ × ℕ)
  top_devices : List TopDevice

structure Report where
  summary : Summary
  rows : List TopDevice
  rows_processed : ℕ

/-- `count("*")` of the groups. -/
def counts {κ : Type} [DecidableEq κ] (key : AnomalyEvent → κ) (rows : List AnomalyEvent) : List (κ × ℕ) :=
  GroupBy.aggregate key List.length rows

/-- The ways in which this execution orders rows of one count. -/
structure Orders where
  device_type : OrderBy fun row : Option String × ℕ => row.2
  severity : OrderBy fun row : Option String × ℕ => row.2
  devices : OrderBy TopDevice.anomaly_count

/-- Nulls come first. -/
def nulls_first (hour : Option ℕ) : WithBot ℕ := hour

def hour_of_day (row : AnomalyEvent) : Option ℕ := row.timestamp.map spark.hour

/-- The groups by device. -/
def devices (rows : List AnomalyEvent) : List TopDevice :=
  (GroupBy.aggregate AnomalyEvent.device_id (fun l => (l.length, (spark.first l).bind (·.device_type))) rows).map
    fun (device_id, anomaly_count, device_type) => { device_id, device_type, anomaly_count }

/-- Analyze historical anomaly patterns. -/
def run (orders : Orders) (read_from_postgres : String → List AnomalyEvent) : Report :=
  let df := (read_from_postgres params.table_name).filter (where_clause spark params)
  let top_devices := (orders.devices.sort (devices spark df)).take params.top_n
  { summary :=
      { total_anomalies := df.length
        by_device_type := orders.device_type.sort (counts AnomalyEvent.device_type df)
        by_severity := orders.severity.sort (counts AnomalyEvent.severity df)
        by_hour_of_day := (counts (hour_of_day spark) df).insertionSort fun a b => nulls_first a.1 ≤ nulls_first b.1
        top_devices }
    rows := top_devices
    rows_processed := df.length }

end Run

/-- What a breakdown of events has to say: how many of them there are of each kind that occurs. -/
structure Breakdown {κ : Type} [DecidableEq κ] (key : AnomalyEvent → κ) (events : List AnomalyEvent)
    (entries : List (κ × ℕ)) : Prop where
  nodup : (entries.map Prod.fst).Nodup
  mem_iff : ∀ k n, (k, n) ∈ entries ↔ 0 < n ∧ n = events.countP (key · = k)
  total : (entries.map Prod.snd).sum = events.length

section Breakdowns

variable {κ : Type} [DecidableEq κ] {key : AnomalyEvent → κ} {events : List AnomalyEvent} {entries entries' : List (κ × ℕ)}

theorem Breakdown.perm (h : Breakdown key events entries) (hperm : entries'.Perm entries) : Breakdown key events entries' where
  nodup := ((hperm.map Prod.fst).nodup_iff).mpr h.nodup
  mem_iff k n := hperm.mem_iff.trans (h.mem_iff k n)
  total := (hperm.map Prod.snd).sum_eq.trans h.total

theorem breakdown_counts (key : AnomalyEvent → κ) (events : List AnomalyEvent) : Breakdown key events (counts key events) where
  nodup := by
    rw [counts, GroupBy.aggregate_fst]
    exact GroupBy.keys_nodup _ _
  mem_iff k n := by
    rw [counts, GroupBy.mem_aggregate_iff, GroupBy.group, ← List.countP_eq_length_filter]
    refine and_congr_left fun hn => ?_
    rw [hn, List.countP_pos_iff]
    simp only [decide_eq_true_iff]
  total := by
    rw [counts, GroupBy.aggregate, List.map_map]
    exact GroupBy.sum_length key events

end Breakdowns

section Reports

variable {spark : Spark}

theorem devices_nodup (rows : List AnomalyEvent) : ((devices spark rows).map TopDevice.device_id).Nodup := by
  have hfst : (devices spark rows).map TopDevice.device_id = GroupBy.keys AnomalyEvent.device_id rows := by
    rw [devices, List.map_map]
    exact GroupBy.aggregate_fst _
  rw [hfst]
  exact GroupBy.keys_nodup _ _

/-- What the row of a device has to say: the number of its events, and the type that some of them have. -/
structure Offends (events : List AnomalyEvent) (top : TopDevice) : Prop where
  counted : top.anomaly_count = events.countP (·.device_id = top.device_id)
  typed : ∃ event ∈ events, event.device_id = top.device_id ∧ event.device_type = top.device_type

theorem offends_of_mem {events : List AnomalyEvent} {top : TopDevice} (h : top ∈ devices spark events) : Offends events top := by
  obtain ⟨⟨device_id, anomaly_count, device_type⟩, hmem, rfl⟩ := List.mem_map.mp h
  obtain ⟨⟨event, hevent, hid⟩, heq⟩ := GroupBy.mem_aggregate_iff.mp hmem
  cases heq
  refine ⟨List.countP_eq_length_filter.symm, ?_⟩
  have hgroup : event ∈ GroupBy.group AnomalyEvent.device_id events device_id :=
    List.mem_filter.mpr ⟨hevent, decide_eq_true hid⟩
  obtain ⟨first, hfirst, heq⟩ := spark.first_eq _ (List.ne_nil_of_mem hgroup)
  obtain ⟨hmem, hid⟩ := List.mem_filter.mp hfirst
  exact ⟨first, hmem, of_decide_eq_true hid, by rw [heq, Option.bind_some]⟩

theorem exists_device (spark : Spark) {events : List AnomalyEvent} {event : AnomalyEvent} (h : event ∈ events) :
    ∃ top ∈ devices spark events, top.device_id = event.device_id :=
  ⟨_, List.mem_map_of_mem (GroupBy.mem_aggregate_iff.mpr ⟨⟨event, h, rfl⟩, rfl⟩), rfl⟩

/-- What a report has to say of the events that pass the filters. -/
structure Accurate (spark : Spark) (top_n : ℕ) (events : List AnomalyEvent) (report : Report) : Prop where
  total_anomalies : report.summary.total_anomalies = events.length
  by_device_type : Breakdown AnomalyEvent.device_type events report.summary.by_device_type
  by_severity : Breakdown AnomalyEvent.severity events report.summary.by_severity
  by_hour_of_day : Breakdown (hour_of_day spark) events report.summary.by_hour_of_day
  hours_sorted : report.summary.by_hour_of_day.Pairwise fun a b => nulls_first a.1 < nulls_first b.1
  devices_nodup : (report.rows.map TopDevice.device_id).Nodup
  offends : ∀ top ∈ report.rows, Offends events top
  devices_sorted : report.rows.Pairwise fun a b => b.anomaly_count ≤ a.anomaly_count
  length : report.rows.length = min top_n (events.map (·.device_id)).dedup.length
  /-- No other device has more events than one of the report. -/
  others : ∀ event ∈ events, event.device_id ∉ report.rows.map TopDevice.device_id →
    ∀ top ∈ report.rows, events.countP (·.device_id = event.device_id) ≤ top.anomaly_count

theorem hours_sorted (events : List AnomalyEvent) :
    ((counts (hour_of_day spark) events).insertionSort fun a b => nulls_first a.1 ≤ nulls_first b.1).Pairwise
      fun a b => nulls_first a.1 < nulls_first b.1 := by
  have htotal : Std.Total fun a b : Option ℕ × ℕ => nulls_first a.1 ≤ nulls_first b.1 := ⟨fun a b => le_total _ _⟩
  have htrans : IsTrans (Option ℕ × ℕ) fun a b => nulls_first a.1 ≤ nulls_first b.1 := ⟨fun a b c => le_trans⟩
  have hbreakdown := (breakdown_counts (hour_of_day spark) events).perm
    (List.perm_insertionSort (fun a b => nulls_first a.1 ≤ nulls_first b.1) _)
  have hdistinct := List.pairwise_map.mp hbreakdown.nodup
  exact ((List.pairwise_insertionSort _ _).and hdistinct).imp fun h => lt_of_le_of_ne h.1 h.2

/-- However the rows of one count are ordered, the report adds up: every breakdown tells how many of the events that
pass the filters are of each kind, and the top devices are ones with the most of them. -/
theorem run_accurate (spark : Spark) (params : Params) (orders : Orders) (read_from_postgres : String → List AnomalyEvent) :
    Accurate spark params.top_n ((read_from_postgres params.table_name).filter (where_clause spark params))
      (run spark params orders read_from_postgres) := by
  have hsort := orders.devices.perm (devices spark ((read_from_postgres params.table_name).filter (where_clause spark params)))
  have hsorted := orders.devices.sorted (devices spark ((read_from_postgres params.table_name).filter (where_clause spark params)))
  refine ⟨rfl, (breakdown_counts _ _).perm (orders.device_type.perm _), (breakdown_counts _ _).perm (orders.severity.perm _),
    (breakdown_counts _ _).perm (List.perm_insertionSort _ _), ?_, ?_, ?_, ?_, ?_, ?_⟩
  · exact hours_sorted _
  · exact (((hsort.map _).nodup_iff).mpr (devices_nodup _)).sublist ((List.take_sublist _ _).map _)
  · intro top htop
    exact offends_of_mem (hsort.mem_iff.mp (List.mem_of_mem_take htop))
  · exact hsorted.sublist (List.take_sublist _ _)
  · change (List.take _ _).length = _
    rw [List.length_take, hsort.length_eq, devices, List.length_map, GroupBy.aggregate, List.length_map]
    rfl
  · intro event hevent hmissing top htop
    obtain ⟨other, hother, hid⟩ := exists_device spark hevent
    rw [← List.take_append_drop params.top_n (orders.devices.sort _)] at hsorted
    obtain hlisted | hrest := List.mem_append.mp
      (List.take_append_drop params.top_n (orders.devices.sort _) ▸ hsort.mem_iff.mpr hother)
    · exact absurd (hid ▸ List.mem_map_of_mem hlisted) hmissing
    · have hle := (List.pairwise_append.mp hsorted).2.2 top htop other hrest
      rwa [(offends_of_mem hother).counted, hid] at hle

end Reports

end gateway.anomaly_report
