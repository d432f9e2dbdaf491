import EdgeGateway.CloudApi.AnalyticsService

open SqlGroups

namespace gateway.cloud_api.analytics_service

variable {A T S : Type} [DecidableEq T] [DecidableEq S]

/-- Which of the three queries raise. -/
structure Failures where
  total_q : Option PyExc := none
  type_q : Option PyExc := none
  sev_q : Option PyExc := none

def Failures.any (failures : Failures) : Prop :=
  failures.total_q.isSome ∨ failures.type_q.isSome ∨ failures.sev_q.isSome

/-- The result of a query, if it does not raise. -/
def outcome {R : Type} (failure : Option PyExc) (result : R) : Except PyExc R :=
  match failure with
  | some e => .error e
  | none => .ok result

/-- The alerts of the window. -/
def window (alerts : List (AlertRow A T S)) (start_time end_time : ℤ) : List (AlertRow A T S) :=
  alerts.filter fun alert => alert.timestamp ≥ start_time ∧ alert.timestamp ≤ end_time

/-- The three queries on the alerts of the window. -/
def summary_queries (by_device_type : GroupBy (AlertRow.device_type : AlertRow A T S → T))
    (by_severity : GroupBy (AlertRow.severity : AlertRow A T S → S)) (failures : Failures)
    (alerts : List (AlertRow A T S)) : SummaryQueries T S where
  total_q := outcome failures.total_q alerts.length
  type_q := outcome failures.type_q (by_device_type.run alerts)
  sev_q := outcome failures.sev_q (by_severity.run alerts)

/-- The total is the sum of either breakdown, and there is nothing in a summary that could
not be computed. -/
structure WholeOrEmpty (failed : Prop) (summary : AnomalySummary T S) : Prop where
  by_severity : summary.total_anomalies = summary.by_severity.values.sum
  by_device_type : summary.total_anomalies = summary.by_device_type.values.sum
  empty : failed → summary = {}

variable {by_device_type : GroupBy (AlertRow.device_type : AlertRow A T S → T)}
  {by_severity : GroupBy (AlertRow.severity : AlertRow A T S → S)} {failures : Failures} {alerts : List (AlertRow A T S)}

theorem anomaly_summary_total_error {queries : SummaryQueries T S} {e : PyExc} (htotal : queries.total_q = .error e) :
    anomaly_summary queries = {} := by
  rw [anomaly_summary, summarize, htotal]
  rfl

theorem anomaly_summary_type_error {queries : SummaryQueries T S} {n : ℕ} {e : PyExc} (htotal : queries.total_q = .ok n)
    (htype : queries.type_q = .error e) : anomaly_summary queries = { total_anomalies := n } := by
  rw [anomaly_summary, summarize, htotal, htype]
  rfl

theorem anomaly_summary_sev_error {queries : SummaryQueries T S} {n : ℕ} {types : List (T × ℕ)} {e : PyExc}
    (htotal : queries.total_q = .ok n) (htype : queries.type_q = .ok types) (hsev : queries.sev_q = .error e) :
    anomaly_summary queries = { total_anomalies := n, by_device_type := .ofList types } := by
  rw [anomaly_summary, summarize, htotal, htype, hsev]
  rfl

theorem anomaly_summary_ok {queries : SummaryQueries T S} {n : ℕ} {types : List (T × ℕ)} {severities : List (S × ℕ)}
    (htotal : queries.total_q = .ok n) (htype : queries.type_q = .ok types) (hsev : queries.sev_q = .ok severities) :
    anomaly_summary queries =
      { total_anomalies := n, by_device_type := .ofList types, by_severity := .ofList severities } := by
  rw [anomaly_summary, summarize, htotal, htype, hsev]
  rfl

omit [DecidableEq T] [DecidableEq S] in
/-- What a failure leaves behind the total is whole exactly if there was nothing to count. -/
theorem wholeOrEmpty_failed_iff {failed : Prop} {summary : AnomalySummary T S} (hfailed : failed)
    (htotal : summary.total_anomalies = alerts.length) (hempty : alerts = [] → summary = {}) :
    WholeOrEmpty failed summary ↔ alerts = [] := by
  constructor
  · intro h
    rw [h.empty hfailed] at htotal
    exact List.eq_nil_of_length_eq_zero htotal.symm
  · intro hnone
    rw [hempty hnone]
    exact ⟨rfl, rfl, fun _ => rfl⟩

/-- A summary is never half filled exactly if no query fails after the first one has counted
some alert. -/
theorem anomaly_summary_whole_iff (by_device_type : GroupBy (AlertRow.device_type : AlertRow A T S → T))
    (by_severity : GroupBy (AlertRow.severity : AlertRow A T S → S)) (failures : Failures) (table : List (AlertRow A T S))
    (start_time end_time : ℤ) :
    WholeOrEmpty failures.any
        (anomaly_summary (summary_queries by_device_type by_severity failures (window table start_time end_time))) ↔
      failures.total_q.isSome ∨
        (failures.type_q.isSome ∨ failures.sev_q.isSome → window table start_time end_time = []) := by
  generalize window table start_time end_time = alerts
  obtain ⟨total_q, type_q, sev_q⟩ := failures
  cases total_q with
  | some e =>
    rw [anomaly_summary_total_error (e := e) rfl]
    exact iff_of_true ⟨rfl, rfl, fun _ => rfl⟩ (.inl rfl)
  | none =>
    cases type_q with
    | some e =>
      rw [anomaly_summary_type_error (n := alerts.length) (e := e) rfl rfl,
        wholeOrEmpty_failed_iff (.inr (.inl rfl)) rfl fun hnone => by rw [hnone]; rfl]
      exact ⟨fun hnone => .inr fun _ => hnone, fun h => h.elim (fun hsome => by cases hsome) fun h => h (.inl rfl)⟩
    | none =>
      cases sev_q with
      | some e =>
        rw [anomaly_summary_sev_error (n := alerts.length) (e := e) rfl rfl rfl,
          wholeOrEmpty_failed_iff (.inr (.inr rfl)) rfl fun hnone => by rw [hnone, GroupBy.run_nil]; rfl]
        exact ⟨fun hnone => .inr fun _ => hnone, fun h => h.elim (fun hsome => by cases hsome) fun h => h (.inr rfl)⟩
      | none =>
        rw [anomaly_summary_ok (n := alerts.length) rfl rfl rfl]
        refine iff_of_true ⟨?_, ?_, ?_⟩ (.inr ?_)
        · exact (by_severity.sum_values_ofList alerts).symm
        · exact (by_device_type.sum_values_ofList alerts).symm
        · rintro (h | h | h) <;> cases h
        · rintro (h | h) <;> cases h

/-- The second query fails when the first one has counted an alert. -/
theorem anomaly_summary_half_filled :
    ¬ ∀ (by_device_type : GroupBy (AlertRow.device_type : AlertRow String String String → String))
      (by_severity : GroupBy (AlertRow.severity : AlertRow String String String → String)) (failures : Failures)
      (table : List (AlertRow String String String)) (start_time end_time : ℤ),
      WholeOrEmpty failures.any
        (anomaly_summary (summary_queries by_device_type by_severity failures (window table start_time end_time))) := by
  intro h
  have hwhole := h ⟨groups _, fun _ => .refl _⟩ ⟨groups _, fun _ => .refl _⟩ { type_q := some .LibraryError }
    [{ device_id := "sensor-1", device_type := "temperature_sensor", severity := "critical", timestamp := 5 }] 0 10
  exact absurd hwhole.by_severity (by decide)

end gateway.cloud_api.analytics_service
