import EdgeGateway.BatchAnalytics.JobRunner.Cancellation
import EdgeGateway.BatchAnalytics.ResultStore
import EdgeGateway.Library.Observation

namespace gateway.job_runner

/-- What the endpoints read of the jobs and of the result store, one at a time. -/
inductive Look where
  | get_job (job_id : String)
  /-- The attributes of the object that `get_job` has found. -/
  | object (job_id : String)
  | results (job_id : String)

abbrev Look.Reply : Look → Type
  | .get_job _ => Bool
  | .object _ => SparkJob
  | .results _ => Option Result

abbrev Looks (α : Type) := Program Look Look.Reply α

abbrev look (o : Look) : Looks o.Reply := Program.op o

def JobRunner.look (runner : JobRunner) : (o : Look) → o.Reply
  | .get_job job_id => (runner.jobs.get? job_id).isSome
  | .object job_id => (runner.jobs.get? job_id).getD { job_type := "", status := .pending, params := [], created_at := 0 }
  | .results job_id => runner.results.get? job_id

section Endpoints

variable (job_id : String)

def job_not_found : HTTPException := { status_code := 404, detail := "Job '" ++ job_id ++ "' not found" }

def not_completed (status : JobStatus) : HTTPException where
  status_code := 409
  detail := "Job '" ++ job_id ++ "' is not completed (status: " ++ status.value ++ ")"

def results_not_found : HTTPException :=
  { status_code := 404, detail := "Results for job '" ++ job_id ++ "' not found" }

def internal_server_error : HTTPException := { status_code := 500, detail := "Internal Server Error" }

/-- Verify that the job exists and is completed. The text of the error has the status of a later moment. -/
def verify_completed : Looks (Except HTTPException Unit) := do
  if !(← look (.get_job job_id)) then return .error (job_not_found job_id)
  if (← look (.object job_id)).status ≠ .completed then
    return .error (not_completed job_id (← look (.object job_id)).status)
  return .ok ()

structure JobResults where
  job_id : String
  job_type : String
  rows_processed : JsonValue
  results : Result

/-- `GET /results/{job_id}`. -/
def get_results : Looks (Except HTTPException JobResults) := do
  match ← verify_completed job_id with
  | .error e => return .error e
  | .ok () =>
    match ← look (.results job_id) with
    | none => return .error (results_not_found job_id)
    | some results =>
      let job_type := (← look (.object job_id)).job_type
      let rows_processed := (← look (.object job_id)).rows_processed
      return .ok { job_id, job_type, rows_processed, results }

structure Download where
  filename : String
  content : String

/-- `GET /results/{job_id}/download`. -/
def download_results (str : JsonValue → String) : Looks (Except HTTPException Download) := do
  match ← verify_completed job_id with
  | .error e => return .error e
  | .ok () =>
    match ← look (.results job_id) with
    | none => return .error (results_not_found job_id)
    | some results =>
      match result_store.table str results with
      | .error _ => return .error internal_server_error
      | .ok records =>
        let job_type := (← look (.object job_id)).job_type
        return .ok { filename := job_type ++ "_" ++ job_id ++ ".csv", content := Csv.render result_store.excel records }

end Endpoints

/-- What a completed job takes from its result. -/
def summary_of (result : Result) : JsonValue := (result.lookup "summary").getD (.dict result)

def rows_of (result : Result) : JsonValue := (result.lookup "rows_processed").getD (.int 0)

/-- How far the worker of a job is with the publication of its result. -/
inductive Stage where
  | unfinished
  | stored (result : Result)
  | summarised (result : Result)
  | counted (result : Result)

namespace Stage

/-- The operations of a stage, with the stage that they lead to. The job is completed in the last one only. -/
def Allows (job_id : String) : Stage → (o : Op) → o.Reply → Stage → Prop
  | unfinished, .status id, _, stage => id = job_id ∧ stage = unfinished
  | unfinished, .run _ _, _, stage => stage = unfinished
  | unfinished, .assign id assignment, _, stage =>
    id = job_id ∧ assignment ≠ .status .completed ∧ stage = unfinished
  | unfinished, .store id result, _, stage => id = job_id ∧ stage = stored result
  | stored result, .assign id assignment, _, stage =>
    id = job_id ∧ assignment = .result_summary (summary_of result) ∧ stage = summarised result
  | summarised result, .assign id assignment, _, stage =>
    id = job_id ∧ assignment = .rows_processed (rows_of result) ∧ stage = counted result
  | counted result, .assign id assignment, _, stage =>
    id = job_id ∧ (assignment = .status .completed ∨ assignment = .completed_at) ∧ stage = counted result
  | _, _, _, _ => False

end Stage

/-- The worker of the job goes through the stages from this one on. -/
abbrev Publishes (job_id : String) (p : Operation Unit) (stage : Stage) : Prop :=
  p.Conforms (Stage.Allows job_id) (fun _ _ => True) stage

/-- The result is in the store, and the job has what it takes from it. -/
def Published (runner : JobRunner) (job_id : String) (result : Result) : Prop :=
  runner.outcome job_id = (some result, some (some (summary_of result), rows_of result))

/-- What the stage says of the job. -/
def Stage.Holds (runner : JobRunner) (job_id : String) : Stage → Prop
  | unfinished => runner.status job_id ≠ some .completed
  | stored result => runner.status job_id ≠ some .completed ∧ (runner.outcome job_id).1 = some result
  | summarised result =>
    runner.status job_id ≠ some .completed ∧
      ∃ rows, runner.outcome job_id = (some result, some (some (summary_of result), rows))
  | counted result => Published runner job_id result

theorem finish_job_publishes (job_id : String) (result : Result) :
    Publishes job_id (finish_job job_id result) .unfinished := by
  intro status
  refine ⟨.unfinished, ⟨rfl, rfl⟩, ?_⟩
  cases status with
  | cancelled => trivial
  | _ =>
    intro _
    refine ⟨.stored result, ⟨rfl, rfl⟩, fun _ => ?_⟩
    refine ⟨.summarised result, ⟨rfl, rfl, rfl⟩, fun _ => ?_⟩
    refine ⟨.counted result, ⟨rfl, rfl, rfl⟩, fun _ => ?_⟩
    refine ⟨.counted result, ⟨rfl, .inl rfl, rfl⟩, fun _ => ?_⟩
    exact ⟨.counted result, ⟨rfl, .inr rfl, rfl⟩, trivial⟩

theorem fail_job_publishes (job_id error : String) : Publishes job_id (fail_job job_id error) .unfinished := by
  intro status
  refine ⟨.unfinished, ⟨rfl, rfl⟩, ?_⟩
  cases status with
  | cancelled => trivial
  | _ =>
    intro _
    refine ⟨.unfinished, ⟨rfl, by rintro ⟨⟩, rfl⟩, fun _ => ?_⟩
    refine ⟨.unfinished, ⟨rfl, by rintro ⟨⟩, rfl⟩, fun _ => ?_⟩
    exact ⟨.unfinished, ⟨rfl, by rintro ⟨⟩, rfl⟩, trivial⟩

theorem execute_job_publishes (job_id job_type : String) (params : List (String × JsonValue)) :
    Publishes job_id (execute_job job_id job_type params) .unfinished := by
  intro _
  refine ⟨.unfinished, ⟨rfl, by rintro ⟨⟩, rfl⟩, ?_⟩
  change Publishes job_id (if job_type ∈ JOB_TYPES then _ else _) .unfinished
  split
  · intro outcome
    refine ⟨.unfinished, rfl, ?_⟩
    cases outcome with
    | ok result => exact finish_job_publishes job_id result
    | error e => exact fail_job_publishes job_id e
  · exact fail_job_publishes job_id _

section Steps

variable {runner runner' : JobRunner} {choice : Choice} {job_id : String}

/-- Assignments leave the result store as it is. -/
theorem outcome_of_assign {assignment : Assignment} {reply : Unit} {stored : Option Result}
    {attributes : Option (Option JsonValue × JsonValue)} (houtcome : runner.outcome job_id = (stored, attributes))
    (h : runner.perform choice (.assign job_id assignment) = some (runner', reply)) :
    ∃ job : SparkJob, attributes = some (job.result_summary, job.rows_processed) ∧
      runner'.outcome job_id =
        (stored, some ((job.assign choice.now assignment).result_summary, (job.assign choice.now assignment).rows_processed)) := by
  obtain ⟨job, hjob, heq⟩ := Option.map_eq_some_iff.mp h
  cases heq
  obtain ⟨hstored, hattributes⟩ := Prod.mk.inj houtcome
  refine ⟨job, ?_, ?_⟩
  · rw [← hattributes, hjob]
    rfl
  · unfold JobRunner.outcome
    rw [Dict.get?_set_self, hstored]
    rfl

/-- A worker leaves other jobs as they are. -/
theorem others_of_allows {stage stage' : Stage} {o : Op} {reply : o.Reply} (hallows : stage.Allows job_id o reply stage')
    (h : runner.perform choice o = some (runner', reply)) {other : String} (hother : other ≠ job_id) :
    runner'.status other = runner.status other ∧ runner'.outcome other = runner.outcome other := by
  cases o with
  | get_job id => cases stage <;> cases hallows
  | status id =>
    obtain ⟨found, -, heq⟩ := Option.map_eq_some_iff.mp h
    cases heq
    exact ⟨rfl, rfl⟩
  | assign id assignment =>
    obtain rfl : id = job_id := by cases stage <;> exact hallows.1
    exact ⟨by rw [JobRunner.status_assign h other, if_neg hother], JobRunner.outcome_assign h other (.inl hother)⟩
  | run job_type params =>
    cases h
    exact ⟨rfl, rfl⟩
  | store id result =>
    obtain rfl : id = job_id := by
      cases stage with
      | unfinished => exact hallows.1
      | _ => cases hallows
    cases h
    refine ⟨rfl, ?_⟩
    unfold JobRunner.outcome
    rw [Dict.get?_set_of_ne _ _ hother]

/-- A worker that has not finished does not mark its job as completed. -/
theorem not_completed_of_assign {assignment : Assignment} {reply : Unit} (hne : assignment ≠ .status .completed)
    (hstatus : runner.status job_id ≠ some .completed)
    (h : runner.perform choice (.assign job_id assignment) = some (runner', reply)) :
    runner'.status job_id ≠ some .completed := by
  rw [JobRunner.status_assign h job_id, if_pos rfl]
  cases assignment with
  | status status =>
    rintro heq
    cases heq
    exact hne rfl
  | _ => exact hstatus

/-- One step of the worker of a job. -/
theorem holds_step {stage stage' : Stage} {o : Op} {reply : o.Reply} (hallows : stage.Allows job_id o reply stage')
    (hholds : stage.Holds runner job_id) (h : runner.perform choice o = some (runner', reply)) :
    stage'.Holds runner' job_id := by
  cases stage with
  | unfinished =>
    cases o with
    | get_job id => cases hallows
    | status id =>
      obtain ⟨rfl, rfl⟩ := hallows
      obtain ⟨found, -, heq⟩ := Option.map_eq_some_iff.mp h
      cases heq
      exact hholds
    | assign id assignment =>
      obtain ⟨rfl, hne, rfl⟩ := hallows
      exact not_completed_of_assign hne hholds h
    | run job_type params =>
      obtain rfl := hallows
      cases h
      exact hholds
    | store id result =>
      obtain ⟨rfl, rfl⟩ := hallows
      cases h
      exact ⟨hholds, Dict.get?_set_self ..⟩
  | stored result =>
    cases o with
    | assign id assignment =>
      obtain ⟨rfl, rfl, rfl⟩ := hallows
      obtain ⟨hstatus, hstored⟩ := hholds
      refine ⟨not_completed_of_assign (by rintro ⟨⟩) hstatus h, ?_⟩
      obtain ⟨job, -, houtcome⟩ := outcome_of_assign (Prod.ext hstored rfl) h
      exact ⟨job.rows_processed, houtcome⟩
    | _ => cases hallows
  | summarised result =>
    cases o with
    | assign id assignment =>
      obtain ⟨rfl, rfl, rfl⟩ := hallows
      obtain ⟨-, rows, hbefore⟩ := hholds
      obtain ⟨job, hjob, houtcome⟩ := outcome_of_assign hbefore h
      obtain ⟨hsummary, -⟩ := Prod.mk.inj (Option.some.inj hjob)
      rw [Stage.Holds, Published, houtcome, hsummary]
      rfl
    | _ => cases hallows
  | counted result =>
    cases o with
    | assign id assignment =>
      obtain ⟨rfl, hassignment, rfl⟩ := hallows
      obtain ⟨job, hjob, houtcome⟩ := outcome_of_assign hholds h
      rw [Stage.Holds, Published, houtcome, hjob]
      obtain rfl | rfl := hassignment <;> rfl
    | _ => cases hallows

end Steps

/-- In every run, a job that is completed has its result published. -/
structure Publishing (s : State) : Prop where
  working : ∀ job_id p, s.threads (.worker job_id) = some p →
    ∃ stage, Publishes job_id p stage ∧ stage.Holds s.shared job_id
  completed : ∀ job_id, s.shared.status job_id = some .completed → ∃ result, Published s.shared job_id result
  requests : ∀ n p, s.threads (.request n) = some p → p.Always Requests

variable {s s' : State}

/-- The worker of a job goes on, and the other threads stay as they were. -/
theorem Publishing.settle_worker {runner : JobRunner} {job_id : String} {p : Operation Unit} {stage : Stage}
    (h : Publishing s) (hp : Publishes job_id p stage) (hholds : stage.Holds runner job_id)
    (hothers : ∀ other, other ≠ job_id → runner.status other = s.shared.status other ∧
      runner.outcome other = s.shared.outcome other) :
    Publishing (threads.settle s (.worker job_id) runner p) := by
  refine ⟨fun other q hq => ?_, fun other hstatus => ?_, fun n q hq => ?_⟩
  · rw [shared_settle]
    by_cases hsame : other = job_id
    · subst hsame
      obtain ⟨-, rfl⟩ | ⟨hne, -⟩ := Threads.threads_settle hq
      · exact ⟨stage, hp, hholds⟩
      · exact absurd rfl hne
    · have hne : Thread.worker other ≠ .worker job_id := fun heq => hsame (Thread.worker.inj heq)
      rw [Threads.threads_settle_of_ne hne] at hq
      obtain ⟨stage', hq', hholds'⟩ := h.working other q hq
      refine ⟨stage', hq', ?_⟩
      obtain ⟨hstatus, houtcome⟩ := hothers other hsame
      cases stage' with
      | unfinished => exact fun heq => hholds' (hstatus ▸ heq)
      | stored result => exact ⟨hstatus ▸ hholds'.1, houtcome ▸ hholds'.2⟩
      | summarised result => exact ⟨hstatus ▸ hholds'.1, houtcome ▸ hholds'.2⟩
      | counted result => exact houtcome.trans hholds'
  · rw [shared_settle] at hstatus ⊢
    by_cases hsame : other = job_id
    · subst hsame
      cases stage with
      | counted result => exact ⟨result, hholds⟩
      | unfinished => exact absurd hstatus hholds
      | stored result => exact absurd hstatus hholds.1
      | summarised result => exact absurd hstatus hholds.1
    · obtain ⟨hbefore, houtcome⟩ := hothers other hsame
      obtain ⟨result, hpublished⟩ := h.completed other (hbefore ▸ hstatus)
      exact ⟨result, houtcome.trans hpublished⟩
  · have hne : Thread.request n ≠ .worker job_id := by rintro ⟨⟩
    rw [Threads.threads_settle_of_ne hne] at hq
    exact h.requests n q hq

/-- A request completes no job, and changes no result. -/
theorem Publishing.settle_request {runner : JobRunner} {n : ℕ} {p : Operation Unit} (h : Publishing s)
    (hp : p.Always Requests)
    (hrunner : ∀ job_id, (runner.status job_id = s.shared.status job_id ∨ runner.status job_id = some .cancelled) ∧
      runner.outcome job_id = s.shared.outcome job_id) :
    Publishing (threads.settle s (.request n) runner p) := by
  have hnot : ∀ job_id, runner.status job_id = some .completed → s.shared.status job_id = some .completed := by
    intro job_id hstatus
    obtain heq | hcancelled := (hrunner job_id).1
    · exact heq ▸ hstatus
    · rw [hcancelled] at hstatus
      cases hstatus
  refine ⟨fun job_id q hq => ?_, fun job_id hstatus => ?_, fun m q hq => ?_⟩
  · have hne : Thread.worker job_id ≠ .request n := by rintro ⟨⟩
    rw [Threads.threads_settle_of_ne hne] at hq
    obtain ⟨stage, hq', hholds⟩ := h.working job_id q hq
    refine ⟨stage, hq', ?_⟩
    rw [shared_settle]
    have houtcome := (hrunner job_id).2
    cases stage with
    | unfinished => exact fun hstatus => hholds (hnot job_id hstatus)
    | stored result => exact ⟨fun hstatus => hholds.1 (hnot job_id hstatus), houtcome ▸ hholds.2⟩
    | summarised result => exact ⟨fun hstatus => hholds.1 (hnot job_id hstatus), houtcome ▸ hholds.2⟩
    | counted result => exact houtcome.trans hholds
  · rw [shared_settle] at hstatus ⊢
    obtain ⟨result, hpublished⟩ := h.completed job_id (hnot job_id hstatus)
    exact ⟨result, (hrunner job_id).2.trans hpublished⟩
  · obtain ⟨-, rfl⟩ | ⟨-, hold⟩ := Threads.threads_settle hq
    · exact hp
    · exact h.requests m q hold

theorem Publishing.start {t : Thread} {c : Call} (h : Publishing s) (hstep : threads.step s (.start t c) = some s') :
    Publishing s' := by
  obtain ⟨-, runner, p, hstart, rfl⟩ := Threads.step_start hstep
  cases t with
  | worker job_id =>
    cases c with
    | cancel_job id => cases hstart
    | submit_job job_type params created_at =>
      simp only [threads] at hstart
      split at hstart
      · cases hstart
      · cases hstart
        refine h.settle_worker (execute_job_publishes job_id job_type params) ?_ fun other hother => ⟨?_, ?_⟩
        · rw [Stage.Holds, JobRunner.status_set, if_pos rfl]
          rintro ⟨⟩
        · rw [JobRunner.status_set, if_neg hother]
        · unfold JobRunner.outcome
          rw [Dict.get?_set_of_ne _ _ hother]
  | request n =>
    cases c with
    | submit_job job_type params created_at => cases hstart
    | cancel_job job_id =>
      cases hstart
      exact h.settle_request (cancel_job_endpoint_requests job_id) fun _ => ⟨.inl rfl, rfl⟩

theorem Publishing.perform {t : Thread} {choice : Choice} (h : Publishing s)
    (hstep : threads.step s (.perform t choice) = some s') : Publishing s' := by
  obtain ⟨o, next, runner, reply, hthread, hperform, rfl⟩ := Threads.step_perform hstep
  cases t with
  | worker job_id =>
    obtain ⟨stage, hp, hholds⟩ := h.working job_id _ hthread
    obtain ⟨stage', hallows, hnext⟩ := hp reply
    exact h.settle_worker hnext (holds_step hallows hholds hperform) fun _ => others_of_allows hallows hperform
  | request n =>
    have hrequests := h.requests n _ hthread
    refine h.settle_request (hrequests.next reply) fun job_id => ?_
    obtain ⟨hstatus, houtcome⟩ := requests_step hrequests.self hperform job_id
    exact ⟨hstatus.imp_right And.right, houtcome⟩

theorem publishing_reachable {ok : State → Action → Prop} (h : system.ReachableWhere ok s) : Publishing s := by
  refine TransitionSystem.ReachableWhere.invariant (P := Publishing) ?_ ?_ h
  · rintro s ⟨hempty, hthreads⟩
    refine ⟨fun job_id p hp => ?_, fun job_id hstatus => ?_, fun n p hp => ?_⟩
    · rw [hthreads] at hp
      cases hp
    · rw [hempty] at hstatus
      cases hstatus
    · rw [hthreads] at hp
      cases hp
  · intro s a s' hs _ hstep
    cases a with
    | start t c => exact hs.start hstep
    | perform t choice => exact hs.perform hstep
    | abort t =>
      obtain ⟨_, _, -, hnone, -⟩ := Threads.step_abort hstep
      cases hnone

/-- The result of a job is published for good: its worker has nothing more to write. -/
structure Final (s : State) (job_id : String) (result : Result) : Prop where
  published : Published s.shared job_id result
  worker : ∀ p, s.threads (.worker job_id) = some p → Publishes job_id p (.counted result)

theorem final_of_completed (h : Publishing s) {job_id : String} (hstatus : s.shared.status job_id = some .completed) :
    ∃ result, Final s job_id result := by
  cases hworker : s.threads (.worker job_id) with
  | none =>
    obtain ⟨result, hpublished⟩ := h.completed job_id hstatus
    refine ⟨result, hpublished, fun p hp => ?_⟩
    rw [hworker] at hp
    cases hp
  | some p =>
    obtain ⟨stage, hp, hholds⟩ := h.working job_id p hworker
    cases stage with
    | unfinished => exact absurd hstatus hholds
    | stored result => exact absurd hstatus hholds.1
    | summarised result => exact absurd hstatus hholds.1
    | counted result =>
      refine ⟨result, hholds, fun q hq => ?_⟩
      obtain rfl := Option.some.inj (hworker.symm.trans hq)
      exact hp

theorem Final.step {job_id : String} {result : Result} {a : Action} (h : Final s job_id result) (hs : Publishing s)
    (hstep : threads.step s a = some s') : Final s' job_id result := by
  cases a with
  | start t c =>
    obtain ⟨-, runner, p, hstart, rfl⟩ := Threads.step_start hstep
    cases t with
    | worker id =>
      cases c with
      | cancel_job id => cases hstart
      | submit_job job_type params created_at =>
        simp only [threads] at hstart
        split at hstart
        · cases hstart
        · rename_i hnew
          cases hstart
          have hne : job_id ≠ id := by
            rintro rfl
            have hjob := (Prod.mk.inj h.published).2
            rw [Option.not_isSome_iff_eq_none.mp hnew] at hjob
            cases hjob
          refine ⟨?_, fun q hq => ?_⟩
          · rw [shared_settle, Published, ← h.published]
            unfold JobRunner.outcome
            rw [Dict.get?_set_of_ne _ _ hne]
          · rw [Threads.threads_settle_of_ne fun heq => hne (Thread.worker.inj heq)] at hq
            exact h.worker q hq
    | request n =>
      cases c with
      | submit_job job_type params created_at => cases hstart
      | cancel_job id =>
        cases hstart
        refine ⟨by rw [shared_settle]; exact h.published, fun q hq => ?_⟩
        rw [Threads.threads_settle_of_ne (by rintro ⟨⟩)] at hq
        exact h.worker q hq
  | perform t choice =>
    obtain ⟨o, next, runner, reply, hthread, hperform, rfl⟩ := Threads.step_perform hstep
    cases t with
    | worker id =>
      by_cases hsame : job_id = id
      · subst hsame
        obtain ⟨stage', hallows, hnext⟩ := h.worker _ hthread reply
        have hcounted : stage' = .counted result := by
          cases o with
          | assign id assignment => exact hallows.2.2
          | _ => cases hallows
        subst hcounted
        refine ⟨by rw [shared_settle]; exact holds_step hallows h.published hperform, fun q hq => ?_⟩
        obtain ⟨-, rfl⟩ | ⟨hne, -⟩ := Threads.threads_settle hq
        · exact hnext
        · exact absurd rfl hne
      · obtain ⟨stage, hp, -⟩ := hs.working id _ hthread
        obtain ⟨stage', hallows, -⟩ := hp reply
        refine ⟨?_, fun q hq => ?_⟩
        · rw [shared_settle]
          exact (others_of_allows hallows hperform hsame).2.trans h.published
        · rw [Threads.threads_settle_of_ne fun heq => hsame (Thread.worker.inj heq)] at hq
          exact h.worker q hq
    | request n =>
      refine ⟨?_, fun q hq => ?_⟩
      · rw [shared_settle]
        exact (requests_step (hs.requests n _ hthread).self hperform job_id).2.trans h.published
      · rw [Threads.threads_settle_of_ne (by rintro ⟨⟩)] at hq
        exact h.worker q hq
  | abort t =>
    obtain ⟨_, _, -, hnone, -⟩ := Threads.step_abort hstep
    cases hnone

theorem Final.steps {job_id : String} {result : Result} (h : Final s job_id result) (hs : system.Reachable s)
    (hsteps : system.StepsWhere (fun _ _ => True) s s') : Final s' job_id result :=
  hsteps.keeps (P := fun s => Final s job_id result)
    (fun _ _ _ hreach _ hstep hfinal => hfinal.step (publishing_reachable hreach) hstep) hs h

theorem Final.get? {job_id : String} {result : Result} (h : Final s job_id result) :
    s.shared.results.get? job_id = some result :=
  (Prod.mk.inj h.published).1

theorem Final.rows_processed {job_id : String} {result : Result} (h : Final s job_id result) :
    (s.shared.look (.object job_id)).rows_processed = rows_of result := by
  have hjob := (Prod.mk.inj h.published).2
  cases hfound : s.shared.jobs.get? job_id with
  | none =>
    rw [hfound] at hjob
    cases hjob
  | some job =>
    rw [hfound] at hjob
    simp only [JobRunner.look, hfound]
    exact (Prod.mk.inj (Option.some.inj hjob)).2

/-- The programs of the endpoints, beside the runs of the service. -/
abbrev Answers {α : Type} (p : Looks α) (s : State) (a : α) (s' : State) : Prop :=
  system.Observes (fun s => s.shared.look) p s a s'

theorem status_of_object {runner : JobRunner} {job_id : String}
    (h : (runner.look (.object job_id)).status = .completed) : runner.status job_id = some .completed := by
  unfold JobRunner.status
  cases hjob : runner.jobs.get? job_id with
  | none =>
    simp only [JobRunner.look, hjob] at h
    cases h
  | some job =>
    simp only [JobRunner.look, hjob] at h
    exact congrArg some h

/-- A job that was seen completed has its final result from then on. -/
theorem verify_completed_answers {job_id : String} {response : Except HTTPException Unit} (hs : system.Reachable s)
    (h : Answers (verify_completed job_id) s response s') :
    response = .error (job_not_found job_id) ∨ (∃ status, response = .error (not_completed job_id status)) ∨
      response = .ok () ∧ ∃ result, Final s' job_id result := by
  obtain ⟨found, s₁, hlook₁, h⟩ := TransitionSystem.observes_bind_iff.mp h
  cases found with
  | false => exact .inl (TransitionSystem.observes_ret_iff.mp h).1
  | true =>
    obtain ⟨job, s₂, hlook₂, h⟩ := TransitionSystem.observes_bind_iff.mp h
    obtain ⟨seen, hto, hfrom, rfl⟩ := TransitionSystem.observes_op_iff.mp hlook₂
    split at h
    · obtain ⟨later, s₃, -, h⟩ := TransitionSystem.observes_bind_iff.mp h
      exact .inr (.inl ⟨later.status, (TransitionSystem.observes_ret_iff.mp h).1⟩)
    · rename_i hstatus
      have hreach := hto.reachable (hlook₁.steps.reachable hs)
      have hcompleted := status_of_object (Decidable.not_not.mp hstatus)
      obtain ⟨result, hfinal⟩ := final_of_completed (publishing_reachable hreach) hcompleted
      obtain ⟨hok, hsteps⟩ := TransitionSystem.observes_ret_iff.mp h
      exact .inr (.inr ⟨hok, result, hfinal.steps hreach (hfrom.trans hsteps)⟩)

/-- From here on the store has the result of the job. -/
def Kept (s : State) (job_id : String) (result : Result) : Prop :=
  ∀ s', system.StepsWhere (fun _ _ => True) s s' → s'.shared.results.get? job_id = some result

theorem Final.kept {job_id : String} {result : Result} (h : Final s job_id result) (hs : system.Reachable s) :
    Kept s job_id result :=
  fun _ hsteps => (h.steps hs hsteps).get?

/-- What is read of the store and of the job after the verification. -/
theorem Final.answers_results {job_id : String} {result : Result} {stored : Option Result} (h : Final s job_id result)
    (hs : system.Reachable s) (hlook : Answers (look (.results job_id)) s stored s') :
    stored = some result ∧ Final s' job_id result := by
  obtain ⟨seen, hto, hfrom, rfl⟩ := TransitionSystem.observes_op_iff.mp hlook
  exact ⟨(h.steps hs hto).get?, h.steps hs (hto.trans hfrom)⟩

theorem Final.answers_object {job_id : String} {result : Result} {job : SparkJob} (h : Final s job_id result)
    (hs : system.Reachable s) (hlook : Answers (look (.object job_id)) s job s') :
    job.rows_processed = rows_of result ∧ Final s' job_id result := by
  obtain ⟨seen, hto, hfrom, rfl⟩ := TransitionSystem.observes_op_iff.mp hlook
  exact ⟨(h.steps hs hto).rows_processed, h.steps hs (hto.trans hfrom)⟩

/-- The errors of a job that is not completed. -/
def Unavailable (job_id : String) (e : HTTPException) : Prop :=
  e = job_not_found job_id ∨ ∃ status, e = not_completed job_id status

theorem get_results_answers {job_id : String} {response : Except HTTPException JobResults} (hs : system.Reachable s)
    (h : Answers (get_results job_id) s response s') :
    (∃ e, Unavailable job_id e ∧ response = .error e) ∨ ∃ result job_type, Kept s' job_id result ∧
      response = .ok { job_id, job_type, rows_processed := rows_of result, results := result } := by
  obtain ⟨verified, s₁, hverify, h⟩ := TransitionSystem.observes_bind_iff.mp h
  obtain rfl | ⟨status, rfl⟩ | ⟨rfl, result, hfinal₁⟩ := verify_completed_answers hs hverify
  · exact .inl ⟨_, .inl rfl, (TransitionSystem.observes_ret_iff.mp h).1⟩
  · exact .inl ⟨_, .inr ⟨status, rfl⟩, (TransitionSystem.observes_ret_iff.mp h).1⟩
  · have hs₁ := hverify.steps.reachable hs
    obtain ⟨stored, s₂, hlook₂, h⟩ := TransitionSystem.observes_bind_iff.mp h
    obtain ⟨rfl, hfinal₂⟩ := hfinal₁.answers_results hs₁ hlook₂
    have hs₂ := hlook₂.steps.reachable hs₁
    obtain ⟨typed, s₃, hlook₃, h⟩ := TransitionSystem.observes_bind_iff.mp h
    obtain ⟨-, hfinal₃⟩ := hfinal₂.answers_object hs₂ hlook₃
    have hs₃ := hlook₃.steps.reachable hs₂
    obtain ⟨job, s₄, hlook₄, h⟩ := TransitionSystem.observes_bind_iff.mp h
    obtain ⟨hrows, hfinal₄⟩ := hfinal₃.answers_object hs₃ hlook₄
    have hs₄ := hlook₄.steps.reachable hs₃
    obtain ⟨rfl, hsteps⟩ := TransitionSystem.observes_ret_iff.mp h
    refine .inr ⟨result, typed.job_type, (hfinal₄.steps hs₄ hsteps).kept (hsteps.reachable hs₄), ?_⟩
    rw [hrows]

theorem download_results_answers {str : JsonValue → String} {job_id : String}
    {response : Except HTTPException Download} (hs : system.Reachable s)
    (h : Answers (download_results job_id str) s response s') :
    (∃ e, Unavailable job_id e ∧ response = .error e) ∨ ∃ result, Kept s' job_id result ∧
      ((response = .error internal_server_error ∧ ∀ records, ¬ result_store.Shows str result records) ∨
        ∃ download records, response = .ok download ∧ result_store.Shows str result records ∧
          Csv.parse result_store.excel download.content = some records) := by
  obtain ⟨verified, s₁, hverify, h⟩ := TransitionSystem.observes_bind_iff.mp h
  obtain rfl | ⟨status, rfl⟩ | ⟨rfl, result, hfinal₁⟩ := verify_completed_answers hs hverify
  · exact .inl ⟨_, .inl rfl, (TransitionSystem.observes_ret_iff.mp h).1⟩
  · exact .inl ⟨_, .inr ⟨status, rfl⟩, (TransitionSystem.observes_ret_iff.mp h).1⟩
  · have hs₁ := hverify.steps.reachable hs
    obtain ⟨stored, s₂, hlook₂, h⟩ := TransitionSystem.observes_bind_iff.mp h
    obtain ⟨rfl, hfinal₂⟩ := hfinal₁.answers_results hs₁ hlook₂
    have hs₂ := hlook₂.steps.reachable hs₁
    dsimp only at h
    split at h
    · rename_i error htable
      obtain ⟨rfl, hsteps⟩ := TransitionSystem.observes_ret_iff.mp h
      refine .inr ⟨result, (hfinal₂.steps hs₂ hsteps).kept (hsteps.reachable hs₂), .inl ⟨rfl, fun records hshows => ?_⟩⟩
      rw [result_store.table_ok_iff.mpr hshows] at htable
      cases htable
    · rename_i records htable
      obtain ⟨typed, s₃, hlook₃, h⟩ := TransitionSystem.observes_bind_iff.mp h
      obtain ⟨-, hfinal₃⟩ := hfinal₂.answers_object hs₂ hlook₃
      have hs₃ := hlook₃.steps.reachable hs₂
      obtain ⟨rfl, hsteps⟩ := TransitionSystem.observes_ret_iff.mp h
      refine .inr ⟨result, (hfinal₃.steps hs₃ hsteps).kept (hsteps.reachable hs₃), .inr ⟨_, records, rfl, ?_, ?_⟩⟩
      · exact result_store.table_ok_iff.mp htable
      · exact Csv.parse_render _ records

end gateway.job_runner
