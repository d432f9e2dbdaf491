import EdgeGateway.Library.Dict
import EdgeGateway.Library.JsonValue
import EdgeGateway.Library.Threads

namespace gateway.job_runner

inductive JobStatus where
  | pending
  | running
  | completed
  | failed
  | cancelled
  deriving DecidableEq

def JobStatus.value : JobStatus → String
  | .pending => "pending"
  | .running => "running"
  | .completed => "completed"
  | .failed => "failed"
  | .cancelled => "cancelled"

/-- The dictionary that a Spark job returns. -/
abbrev Result := List (String × JsonValue)

/-- Spark job status and metadata. -/
structure SparkJob where
  job_type : String
  status : JobStatus
  params : List (String × JsonValue)
  result_summary : Option JsonValue := none
  /-- Microseconds since the epoch. -/
  created_at : ℤ
  completed_at : Option ℤ := none
  error_message : Option String := none
  rows_processed : JsonValue := .int 0

/-- An assignment to an attribute of a job. -/
inductive Assignment where
  | status (status : JobStatus)
  | result_summary (summary : JsonValue)
  | rows_processed (rows_processed : JsonValue)
  /-- The time of the assignment. -/
  | completed_at
  | error_message (text : String)

def SparkJob.assign (job : SparkJob) (now : ℤ) : Assignment → SparkJob
  | .status status => { job with status }
  | .result_summary summary => { job with result_summary := some summary }
  | .rows_processed rows_processed => { job with rows_processed }
  | .completed_at => { job with completed_at := some now }
  | .error_message text => { job with error_message := some text }

/-- What the threads do to the job objects and the result store, one at a time. -/
inductive Op where
  | get_job (job_id : String)
  | status (job_id : String)
  | assign (job_id : String) (assignment : Assignment)
  | run (job_type : String) (params : List (String × JsonValue))
  | store (job_id : String) (result : Result)

abbrev Op.Reply : Op → Type
  | .get_job _ => Bool
  | .status _ => JobStatus
  | .assign _ _ | .store _ _ => Unit
  -- An exception is known by its text.
  | .run _ _ => Except String Result

abbrev Operation (α : Type) := Program Op Op.Reply α

namespace job

/-- Read the status of the job. -/
abbrev status (job_id : String) : Operation JobStatus := Program.op (Op.status job_id)

abbrev assign (job_id : String) (assignment : Assignment) : Operation Unit := Program.op (Op.assign job_id assignment)

end job

def JOB_TYPES : List String := ["sensor_aggregation", "anomaly_report", "device_health", "trend_analysis"]

/-- What follows a run that returned. -/
def finish_job (job_id : String) (result : Result) : Operation Unit := do
  if (← job.status job_id) = .cancelled then return
  let rows_processed := (result.lookup "rows_processed").getD (.int 0)
  let summary := (result.lookup "summary").getD (.dict result)
  Program.op (Op.store job_id result)
  job.assign job_id (.result_summary summary)
  job.assign job_id (.rows_processed rows_processed)
  job.assign job_id (.status .completed)
  job.assign job_id .completed_at

/-- What follows an exception. -/
def fail_job (job_id error : String) : Operation Unit := do
  if (← job.status job_id) = .cancelled then return
  job.assign job_id (.status .failed)
  job.assign job_id (.error_message error)
  job.assign job_id .completed_at

/-- Execute a Spark job synchronously, in a thread. -/
def execute_job (job_id job_type : String) (params : List (String × JsonValue)) : Operation Unit := do
  job.assign job_id (.status .running)
  if job_type ∈ JOB_TYPES then
    match ← Program.op (Op.run job_type params) with
    | .ok result => finish_job job_id result
    | .error e => fail_job job_id e
  else fail_job job_id ("Unknown job type: " ++ job_type)

/-- Mark a job as cancelled. -/
def cancel_job (job_id : String) : Operation Unit := do
  if ← Program.op (Op.get_job job_id) then
    job.assign job_id (.status .cancelled)
    job.assign job_id .completed_at

structure HTTPException where
  status_code : ℕ
  detail : String

/-- `DELETE /jobs/{job_id}`. -/
def cancel_job_endpoint (job_id : String) : Operation (Except HTTPException Unit) := do
  if !(← Program.op (Op.get_job job_id)) then
    return .error { status_code := 404, detail := "Job '" ++ job_id ++ "' not found" }
  let status ← job.status job_id
  if status ≠ .pending ∧ status ≠ .running then
    return .error
      { status_code := 409
        detail := "Job '" ++ job_id ++ "' cannot be cancelled (status: " ++ status.value ++ ")" }
  cancel_job job_id
  return .ok ()

structure JobRunner where
  jobs : Dict String SparkJob
  results : Dict String Result

/-- The time, and what a Spark job comes to. -/
structure Choice where
  now : ℤ
  outcome : Except String Result

namespace JobRunner

def status (runner : JobRunner) (job_id : String) : Option JobStatus := (runner.jobs.get? job_id).map SparkJob.status

def perform (runner : JobRunner) (choice : Choice) : (op : Op) → Option (JobRunner × op.Reply)
  | .get_job job_id => some (runner, (runner.jobs.get? job_id).isSome)
  | .status job_id => (runner.status job_id).map fun status => (runner, status)
  | .assign job_id assignment =>
    (runner.jobs.get? job_id).map fun job =>
      ({ runner with jobs := runner.jobs.set job_id (job.assign choice.now assignment) }, ())
  | .run _ _ => some (runner, choice.outcome)
  | .store job_id result => some ({ runner with results := runner.results.set job_id result }, ())

end JobRunner

/-- The thread that executes a job, or one that serves a request. -/
inductive Thread where
  | worker (job_id : String)
  | request (n : ℕ)
  deriving DecidableEq

inductive Call where
  | submit_job (job_type : String) (params : List (String × JsonValue)) (created_at : ℤ)
  | cancel_job (job_id : String)

/-- Submitting a job makes its object, under an id that no other job has, and hands it to
the pool, whose thread begins at any later time. -/
def threads : Threads Thread Call JobRunner Op Op.Reply Unit Choice where
  start runner
    | .worker job_id, .submit_job job_type params created_at =>
      if (runner.jobs.get? job_id).isSome then none
      else
        some ({ runner with jobs := runner.jobs.set job_id { job_type, status := .pending, params, created_at } },
          execute_job job_id job_type params)
    | .request _, .cancel_job job_id => some (runner, do let _ ← cancel_job_endpoint job_id)
    | _, _ => none
  perform runner _ op choice := runner.perform choice op
  finish runner _ := runner
  abort _ _ := none

abbrev State := Threads.State Thread JobRunner Op Op.Reply Unit
abbrev Action := Threads.Action Thread Call Choice

/-- The runs of a new `JobRunner`. -/
def system : TransitionSystem State Action :=
  threads.system fun runner => runner = { jobs := Dict.empty, results := Dict.empty }

end gateway.job_runner
