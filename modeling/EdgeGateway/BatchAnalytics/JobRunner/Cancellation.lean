import EdgeGateway.BatchAnalytics.JobRunner

namespace gateway.job_runner

/-- How far the worker of a job is. -/
inductive Phase where
  | queued
  | unchecked
  | checked
  | completed
  | failed
  | stopped

namespace Phase

/-- What the status can be in the phase. -/
def Allows : Phase → JobStatus → Prop
  | queued, status => status = .pending
  | unchecked, status => status = .running ∨ status = .cancelled
  | checked, status => status = .running
  | completed, status => status = .completed
  | failed, status => status = .failed
  | stopped, status => status = .cancelled

/-- The phase after an assignment, if it is one that the worker makes there. -/
def after : Phase → Assignment → Option Phase
  | queued, .status .running => some unchecked
  | checked, .status .completed => some completed
  | checked, .status .failed => some failed
  | _, .status _ => none
  | checked, _ => some checked
  | completed, _ => some completed
  | failed, _ => some failed
  | _, _ => none

/-- The worker can be through. -/
def Last : Phase → Prop
  | completed | failed | stopped => True
  | queued | unchecked | checked => False

end Phase

/-- What the worker of a job still does from a phase on. -/
def Works (job_id : String) : Operation Unit → Phase → Prop
  | .ret _, phase => phase.Last
  | .perform (.get_job _) _, _ => False
  | .perform (.status id) next, phase =>
    id = job_id ∧ phase = .unchecked ∧ ∀ status, Works job_id (next status) (if status = .cancelled then .stopped else .checked)
  | .perform (.assign id assignment) next, phase =>
    id = job_id ∧ ∃ phase', phase.after assignment = some phase' ∧ Works job_id (next ()) phase'
  | .perform (.run _ _) next, phase => phase = .unchecked ∧ ∀ outcome, Works job_id (next outcome) .unchecked
  | .perform (.store id _) next, phase => id = job_id ∧ phase = .checked ∧ Works job_id (next ()) .checked

theorem finish_job_works (job_id : String) (result : Result) : Works job_id (finish_job job_id result) .unchecked := by
  refine ⟨rfl, rfl, fun status => ?_⟩
  cases status with
  | cancelled => trivial
  | _ => exact ⟨rfl, rfl, rfl, _, rfl, rfl, _, rfl, rfl, _, rfl, rfl, _, rfl, trivial⟩

theorem fail_job_works (job_id error : String) : Works job_id (fail_job job_id error) .unchecked := by
  refine ⟨rfl, rfl, fun status => ?_⟩
  cases status with
  | cancelled => trivial
  | _ => exact ⟨rfl, _, rfl, rfl, _, rfl, rfl, _, rfl, trivial⟩

theorem execute_job_works (job_id job_type : String) (params : List (String × JsonValue)) :
    Works job_id (execute_job job_id job_type params) .queued := by
  refine ⟨rfl, .unchecked, rfl, ?_⟩
  change Works job_id (if job_type ∈ JOB_TYPES then _ else _) .unchecked
  split
  · refine ⟨rfl, fun outcome => ?_⟩
    cases outcome with
    | ok result => exact finish_job_works job_id result
    | error e => exact fail_job_works job_id e
  · exact fail_job_works job_id _

/-- A request reads, and writes no status but 'cancelled'. -/
def Requests : Operation Unit → Prop
  | .perform (.assign _ assignment) _ => assignment = .status .cancelled ∨ assignment = .completed_at
  | .perform (.run _ _) _ | .perform (.store _ _) _ => False
  | .perform (.get_job _) _ | .perform (.status _) _ | .ret _ => True

theorem cancel_job_requests (job_id : String) :
    (((cancel_job job_id).bind fun _ => .ret (.ok () : Except HTTPException Unit)).bind fun _ => .ret ()).Always
      Requests := by
  refine ⟨trivial, fun found => ?_⟩
  cases found with
  | false => trivial
  | true => exact ⟨.inl rfl, fun _ => ⟨.inr rfl, fun _ => trivial⟩⟩

theorem cancel_job_endpoint_requests (job_id : String) :
    (cancel_job_endpoint job_id >>= fun _ => Program.ret ()).Always Requests := by
  refine ⟨trivial, fun found => ?_⟩
  cases found with
  | false => trivial
  | true =>
    refine ⟨trivial, fun status => ?_⟩
    cases status with
    | pending => exact cancel_job_requests job_id
    | running => exact cancel_job_requests job_id
    | _ => trivial

/-- How a status may change. -/
inductive Follows : Option JobStatus → Option JobStatus → Prop where
  | same (status : Option JobStatus) : Follows status status
  | submitted : Follows none (some .pending)
  | started : Follows (some .pending) (some .running)
  | ended {status : JobStatus} (h : status = .completed ∨ status = .failed ∨ status = .cancelled) :
    Follows (some .running) (some status)

def Terminal (status : JobStatus) : Prop := status = .completed ∨ status = .failed ∨ status = .cancelled

/-- The results that a job has. -/
def JobRunner.outcome (runner : JobRunner) (job_id : String) : Option Result × Option (Option JsonValue × JsonValue) :=
  (runner.results.get? job_id, (runner.jobs.get? job_id).map fun job => (job.result_summary, job.rows_processed))

/-- The worker has still to look whether its job was cancelled. -/
def looks_at_status : Operation Unit → Bool
  | .perform (.run _ _) _ | .perform (.status _) _ => true
  | _ => false

/-- A request marks a job as cancelled only while the job runs and its worker has still to look at the
status, or if the job is cancelled anyway. -/
def cancels_in_time (s : State) : Action → Bool
  | .perform (.request n) _ =>
    match s.threads (.request n) with
    | some (.perform (.assign job_id (.status .cancelled)) _) =>
      s.shared.status job_id = some .cancelled || (s.threads (.worker job_id)).any looks_at_status
    | _ => true
  | _ => true

/-- The workers and the requests as they should be. -/
structure Orderly (s : State) : Prop where
  working : ∀ job_id p, s.threads (.worker job_id) = some p →
    ∃ phase status, Works job_id p phase ∧ s.shared.status job_id = some status ∧ phase.Allows status
  ended : ∀ job_id status, s.threads (.worker job_id) = none → s.shared.status job_id = some status → Terminal status
  requests : ∀ n p, s.threads (.request n) = some p → p.Always Requests

namespace JobRunner

variable {runner runner' : JobRunner} {choice : Choice}

theorem status_set (runner : JobRunner) (job_id other : String) (job : SparkJob) :
    ({ runner with jobs := runner.jobs.set job_id job } : JobRunner).status other =
      if other = job_id then some job.status else runner.status other := by
  unfold status
  rw [Dict.get?_set]
  split <;> rfl

/-- Only assignments to the status change it. -/
theorem status_assign {job_id : String} {assignment : Assignment} {reply : Unit}
    (h : runner.perform choice (.assign job_id assignment) = some (runner', reply)) (other : String) :
    runner'.status other =
      if other = job_id then
        match assignment with
        | .status status => some status
        | _ => runner.status job_id
      else runner.status other := by
  obtain ⟨job, hjob, heq⟩ := Option.map_eq_some_iff.mp h
  cases heq
  rw [status_set]
  split
  · cases assignment with
    | status status => rfl
    | _ =>
      unfold status
      rw [hjob]
      rfl
  · rfl

theorem outcome_assign {job_id : String} {assignment : Assignment} {reply : Unit}
    (h : runner.perform choice (.assign job_id assignment) = some (runner', reply)) (other : String)
    (hother : other ≠ job_id ∨ assignment = .status .cancelled ∨ assignment = .completed_at) :
    runner'.outcome other = runner.outcome other := by
  obtain ⟨job, hjob, heq⟩ := Option.map_eq_some_iff.mp h
  cases heq
  unfold outcome
  rw [Dict.get?_set]
  by_cases hsame : other = job_id
  · rw [if_pos hsame, hsame, hjob]
    obtain hne | rfl | rfl := hother
    · exact absurd hsame hne
    · rfl
    · rfl
  · rw [if_neg hsame]

end JobRunner

namespace Phase

/-- What the worker assigns fits the diagram, and is never assigned to a cancelled job. -/
theorem allows_after {phase phase' : Phase} {assignment : Assignment} {status : JobStatus}
    (hafter : phase.after assignment = some phase') (hallows : phase.Allows status) :
    status ≠ .cancelled ∧
      match assignment with
      | .status status' => phase'.Allows status' ∧ Follows (some status) (some status')
      | _ => phase'.Allows status := by
  cases phase with
  | queued =>
    cases hallows
    cases assignment with
    | status status' =>
      cases status' with
      | running =>
        cases hafter
        exact ⟨nofun, .inl rfl, .started⟩
      | _ => cases hafter
    | _ => cases hafter
  | unchecked =>
    cases assignment with
    | status status' => cases hafter
    | _ => cases hafter
  | checked =>
    cases hallows
    cases assignment with
    | status status' =>
      cases status' with
      | completed =>
        cases hafter
        exact ⟨nofun, rfl, .ended (.inl rfl)⟩
      | failed =>
        cases hafter
        exact ⟨nofun, rfl, .ended (.inr (.inl rfl))⟩
      | _ => cases hafter
    | _ =>
      cases hafter
      exact ⟨nofun, rfl⟩
  | completed =>
    cases hallows
    cases assignment with
    | status status' => cases hafter
    | _ =>
      cases hafter
      exact ⟨nofun, rfl⟩
  | failed =>
    cases hallows
    cases assignment with
    | status status' => cases hafter
    | _ =>
      cases hafter
      exact ⟨nofun, rfl⟩
  | stopped =>
    cases assignment with
    | status status' => cases hafter
    | _ => cases hafter

/-- A worker that is through leaves a terminal status. -/
theorem terminal_of_last {phase : Phase} {status : JobStatus} (hlast : phase.Last) (hallows : phase.Allows status) :
    Terminal status := by
  cases phase with
  | completed => exact .inl hallows
  | failed => exact .inr (.inl hallows)
  | stopped => exact .inr (.inr hallows)
  | _ => cases hlast

end Phase

theorem unchecked_of_looks {job_id : String} {p : Operation Unit} {phase : Phase} (hlooks : looks_at_status p = true)
    (hworks : Works job_id p phase) : phase = .unchecked := by
  cases p with
  | ret a => cases hlooks
  | perform o next =>
    cases o with
    | status id => exact hworks.2.1
    | run job_type params => exact hworks.1
    | _ => cases hlooks

section Steps

variable {runner runner' : JobRunner} {choice : Choice} {job_id : String} {status : JobStatus} {phase : Phase}

/-- One step of the worker of a job. -/
theorem works_step {o : Op} {next : o.Reply → Operation Unit} {reply : o.Reply}
    (hworks : Works job_id (.perform o next) phase) (hstatus : runner.status job_id = some status)
    (hallows : phase.Allows status) (h : runner.perform choice o = some (runner', reply)) :
    (∃ phase' status', Works job_id (next reply) phase' ∧ runner'.status job_id = some status' ∧
      phase'.Allows status' ∧ Follows (some status) (some status')) ∧
      (∀ other, other ≠ job_id → runner'.status other = runner.status other ∧
        runner'.outcome other = runner.outcome other) ∧
      (status = .cancelled → runner'.outcome job_id = runner.outcome job_id) := by
  cases o with
  | get_job id => cases hworks
  | status id =>
    obtain ⟨rfl, rfl, hnext⟩ := hworks
    obtain ⟨found, hfound, heq⟩ := Option.map_eq_some_iff.mp h
    cases heq
    cases hstatus.symm.trans hfound
    refine ⟨⟨_, status, hnext status, hstatus, ?_, .same _⟩, fun _ _ => ⟨rfl, rfl⟩, fun _ => rfl⟩
    obtain rfl | rfl := hallows
    · rfl
    · rfl
  | assign id assignment =>
    obtain ⟨rfl, phase', hafter, hnext⟩ := hworks
    obtain ⟨hactive, hfits⟩ := Phase.allows_after hafter hallows
    have hself := JobRunner.status_assign h id
    rw [if_pos rfl] at hself
    refine ⟨?_, fun other hother => ⟨?_, ?_⟩, fun hcancelled => absurd hcancelled hactive⟩
    · cases assignment with
      | status status' => exact ⟨phase', status', hnext, hself, hfits⟩
      | _ => exact ⟨phase', status, hnext, hself.trans hstatus, hfits, .same _⟩
    · rw [JobRunner.status_assign h other, if_neg hother]
    · exact JobRunner.outcome_assign h other (.inl hother)
  | run job_type params =>
    obtain ⟨rfl, hnext⟩ := hworks
    cases h
    exact ⟨⟨_, status, hnext _, hstatus, hallows, .same _⟩, fun _ _ => ⟨rfl, rfl⟩, fun _ => rfl⟩
  | store id result =>
    obtain ⟨rfl, rfl, hnext⟩ := hworks
    cases h
    cases hallows
    refine ⟨⟨_, .running, hnext, hstatus, rfl, .same _⟩, fun other hother => ⟨rfl, ?_⟩, nofun⟩
    unfold JobRunner.outcome
    rw [Dict.get?_set_of_ne _ _ hother]

/-- One step of a request. -/
theorem requests_step {o : Op} {next : o.Reply → Operation Unit} {reply : o.Reply}
    (hrequests : Requests (.perform o next)) (h : runner.perform choice o = some (runner', reply)) (job_id : String) :
    (runner'.status job_id = runner.status job_id ∨
      o = .assign job_id (.status .cancelled) ∧ runner'.status job_id = some .cancelled) ∧
      runner'.outcome job_id = runner.outcome job_id := by
  cases o with
  | get_job id =>
    cases h
    exact ⟨.inl rfl, rfl⟩
  | status id =>
    obtain ⟨found, hfound, heq⟩ := Option.map_eq_some_iff.mp h
    cases heq
    exact ⟨.inl rfl, rfl⟩
  | assign id assignment =>
    refine ⟨?_, JobRunner.outcome_assign h job_id (.inr hrequests)⟩
    rw [JobRunner.status_assign h job_id]
    by_cases hsame : job_id = id
    · subst hsame
      rw [if_pos rfl]
      obtain rfl | rfl := hrequests
      · exact .inr ⟨rfl, rfl⟩
      · exact .inl rfl
    · rw [if_neg hsame]
      exact .inl rfl
  | run job_type params => cases hrequests
  | store id result => cases hrequests

end Steps

variable {s s' : State}

theorem shared_settle (s : State) (t : Thread) (runner : JobRunner) (p : Operation Unit) :
    (threads.settle s t runner p).shared = runner := by
  cases p <;> rfl

/-- What a step leaves to the jobs. -/
def Proper (runner runner' : JobRunner) : Prop :=
  ∀ job_id, Follows (runner.status job_id) (runner'.status job_id) ∧
    (runner.status job_id = some .cancelled → runner'.outcome job_id = runner.outcome job_id)

/-- The worker of a job that is in a phase, and the other threads as before. -/
theorem orderly_worker {runner : JobRunner} {job_id : String} {phase : Phase} {status : JobStatus} {p : Operation Unit}
    (ho : Orderly s) (hp : Works job_id p phase) (hstatus : runner.status job_id = some status)
    (hallows : phase.Allows status)
    (hothers : ∀ other, other ≠ job_id → runner.status other = s.shared.status other) :
    Orderly (threads.settle s (.worker job_id) runner p) := by
  refine ⟨fun other q hq => ?_, fun other found hnone hfound => ?_, fun n q hq => ?_⟩
  · rw [shared_settle]
    by_cases hsame : other = job_id
    · subst hsame
      obtain ⟨-, rfl⟩ | ⟨hne, -⟩ := Threads.threads_settle hq
      · exact ⟨phase, status, hp, hstatus, hallows⟩
      · exact absurd rfl hne
    · have hne : Thread.worker other ≠ .worker job_id := fun heq => hsame (Thread.worker.inj heq)
      rw [Threads.threads_settle_of_ne hne] at hq
      rw [hothers other hsame]
      exact ho.working other q hq
  · rw [shared_settle] at hfound
    by_cases hsame : other = job_id
    · subst hsame
      cases hstatus.symm.trans hfound
      obtain ⟨⟨_, rfl⟩, -⟩ | hsome := Threads.threads_settle_self threads s (.worker other) runner p
      · exact Phase.terminal_of_last hp hallows
      · rw [hsome] at hnone
        cases hnone
    · have hne : Thread.worker other ≠ .worker job_id := fun heq => hsame (Thread.worker.inj heq)
      rw [Threads.threads_settle_of_ne hne] at hnone
      rw [hothers other hsame] at hfound
      exact ho.ended other found hnone hfound
  · have hne : Thread.request n ≠ .worker job_id := nofun
    rw [Threads.threads_settle_of_ne hne] at hq
    exact ho.requests n q hq

/-- A request that changes no status, or cancels a job in time. -/
theorem orderly_request {runner : JobRunner} {n : ℕ} {p : Operation Unit} (ho : Orderly s) (hp : p.Always Requests)
    (hstatus : ∀ job_id, runner.status job_id = s.shared.status job_id ∨
      (s.threads (.worker job_id)).any looks_at_status = true ∧ runner.status job_id = some .cancelled) :
    Orderly (threads.settle s (.request n) runner p) := by
  refine ⟨fun job_id q hq => ?_, fun job_id found hnone hfound => ?_, fun m q hq => ?_⟩
  · have hne : Thread.worker job_id ≠ .request n := nofun
    rw [Threads.threads_settle_of_ne hne] at hq
    rw [shared_settle]
    obtain ⟨phase, status, hworks, hbefore, hallows⟩ := ho.working job_id q hq
    obtain heq | ⟨hlooks, hcancelled⟩ := hstatus job_id
    · exact ⟨phase, status, hworks, heq.trans hbefore, hallows⟩
    · rw [hq] at hlooks
      exact ⟨phase, .cancelled, hworks, hcancelled, unchecked_of_looks hlooks hworks ▸ .inr rfl⟩
  · have hne : Thread.worker job_id ≠ .request n := nofun
    rw [Threads.threads_settle_of_ne hne] at hnone
    rw [shared_settle] at hfound
    obtain heq | ⟨hlooks, -⟩ := hstatus job_id
    · exact ho.ended job_id found hnone (heq.symm.trans hfound)
    · rw [hnone] at hlooks
      cases hlooks
  · obtain ⟨-, rfl⟩ | ⟨-, hold⟩ := Threads.threads_settle hq
    · exact hp
    · exact ho.requests m q hold

theorem proper_refl (runner : JobRunner) : Proper runner runner :=
  fun _ => ⟨.same _, fun _ => rfl⟩

theorem orderly_start {t : Thread} {c : Call} (ho : Orderly s) (h : threads.step s (.start t c) = some s') :
    Orderly s' ∧ Proper s.shared s'.shared := by
  obtain ⟨-, runner, p, hstart, rfl⟩ := Threads.step_start h
  rw [shared_settle]
  cases t with
  | worker job_id =>
    cases c with
    | cancel_job id => cases hstart
    | submit_job job_type params created_at =>
      simp only [threads] at hstart
      split at hstart
      · cases hstart
      · rename_i hnew
        cases hstart
        have hnone : s.shared.status job_id = none := by
          unfold JobRunner.status
          rw [Option.not_isSome_iff_eq_none.mp hnew]
          rfl
        refine ⟨orderly_worker ho (execute_job_works job_id job_type params) ?_ rfl fun other hother => ?_,
          fun other => ?_⟩
        · rw [JobRunner.status_set, if_pos rfl]
        · rw [JobRunner.status_set, if_neg hother]
        · rw [JobRunner.status_set]
          by_cases hsame : other = job_id
          · rw [if_pos hsame, hsame, hnone]
            exact ⟨.submitted, by rintro ⟨⟩⟩
          · rw [if_neg hsame]
            refine ⟨.same _, fun _ => ?_⟩
            unfold JobRunner.outcome
            rw [Dict.get?_set_of_ne _ _ hsame]
  | request n =>
    cases c with
    | submit_job job_type params created_at => cases hstart
    | cancel_job job_id =>
      cases hstart
      exact ⟨orderly_request ho (cancel_job_endpoint_requests job_id) fun _ => .inl rfl, proper_refl _⟩

/-- The operation of a worker, under any condition. -/
theorem orderly_perform_worker {job_id : String} {choice : Choice} (ho : Orderly s)
    (h : threads.step s (.perform (.worker job_id) choice) = some s') : Orderly s' ∧ Proper s.shared s'.shared := by
  obtain ⟨o, next, runner, reply, hthread, hperform, rfl⟩ := Threads.step_perform h
  obtain ⟨phase, status, hworks, hstatus, hallows⟩ := ho.working job_id _ hthread
  obtain ⟨⟨phase', status', hworks', hstatus', hallows', hfollows⟩, hothers, hkept⟩ :=
    works_step hworks hstatus hallows hperform
  refine ⟨orderly_worker ho hworks' hstatus' hallows' fun other hother => (hothers other hother).1, fun other => ?_⟩
  rw [shared_settle]
  by_cases hsame : other = job_id
  · rw [hsame, hstatus, hstatus']
    exact ⟨hfollows, fun hcancelled => hkept (Option.some.inj hcancelled)⟩
  · rw [(hothers other hsame).1]
    exact ⟨.same _, fun _ => (hothers other hsame).2⟩

/-- The operation of a request, if it cancels in time. -/
theorem orderly_perform_request {n : ℕ} {choice : Choice} (ho : Orderly s)
    (hok : cancels_in_time s (.perform (.request n) choice) = true)
    (h : threads.step s (.perform (.request n) choice) = some s') : Orderly s' ∧ Proper s.shared s'.shared := by
  obtain ⟨o, next, runner, reply, hthread, hperform, rfl⟩ := Threads.step_perform h
  have hrequests := ho.requests n _ hthread
  have hstep := requests_step hrequests.self hperform
  have hstatus : ∀ job_id, runner.status job_id = s.shared.status job_id ∨
      (s.threads (.worker job_id)).any looks_at_status = true ∧ runner.status job_id = some .cancelled := by
    intro job_id
    obtain hsame | ⟨rfl, hcancelled⟩ := (hstep job_id).1
    · exact .inl hsame
    · simp only [cancels_in_time, hthread, Bool.or_eq_true, decide_eq_true_eq] at hok
      obtain halready | hlooks := hok
      · exact .inl (hcancelled.trans halready.symm)
      · exact .inr ⟨hlooks, hcancelled⟩
  refine ⟨orderly_request ho (hrequests.next reply) hstatus, fun job_id => ?_⟩
  rw [shared_settle]
  refine ⟨?_, fun _ => (hstep job_id).2⟩
  obtain hsame | ⟨hlooks, hcancelled⟩ := hstatus job_id
  · rw [hsame]
    exact .same _
  · obtain ⟨p, hworker, hp⟩ := (Option.any_eq_true _ _).mp hlooks
    obtain ⟨phase, status, hworks, hbefore, hallows⟩ := ho.working job_id p hworker
    rw [unchecked_of_looks hp hworks] at hallows
    rw [hbefore, hcancelled]
    obtain rfl | rfl := hallows
    · exact .ended (.inr (.inr rfl))
    · exact .same _

theorem orderly_step {a : Action} (ho : Orderly s) (hok : cancels_in_time s a = true)
    (h : threads.step s a = some s') : Orderly s' ∧ Proper s.shared s'.shared := by
  cases a with
  | start t c => exact orderly_start ho h
  | perform t choice =>
    cases t with
    | worker job_id => exact orderly_perform_worker ho h
    | request n => exact orderly_perform_request ho hok h
  | abort t =>
    obtain ⟨_, _, -, hnone, -⟩ := Threads.step_abort h
    cases hnone

theorem orderly_initial (h : system.initial s) : Orderly s := by
  obtain ⟨hempty, hthreads⟩ := h
  refine ⟨fun job_id p hp => ?_, fun job_id status _ hstatus => ?_, fun n p hp => ?_⟩
  · rw [hthreads] at hp
    cases hp
  · rw [hempty] at hstatus
    cases hstatus
  · rw [hthreads] at hp
    cases hp

/-- The runs in which every job is cancelled in time. -/
def InTime (s : State) (a : Action) : Prop := cancels_in_time s a = true

theorem orderly_reachable (h : system.ReachableWhere InTime s) : Orderly s := by
  refine TransitionSystem.ReachableWhere.invariant (P := Orderly) ?_ ?_ h
  · exact fun s hinit => orderly_initial hinit
  · intro s a s' ho hok hstep
    exact (orderly_step ho hok hstep).1

theorem Follows.terminal {status : JobStatus} {after : Option JobStatus} (h : Follows (some status) after)
    (hterminal : Terminal status) : after = some status := by
  cases h with
  | same => rfl
  | started => obtain h | h | h := hterminal <;> cases h
  | ended => obtain h | h | h := hterminal <;> cases h

/-- The steps from a state on that meet a condition: a status follows the diagram, in which the last three
are final, and a cancelled job gets no results. -/
def JobsSettle (ok : State → Action → Prop) (s : State) : Prop :=
  (∀ a s', ok s a → system.step s a = some s' →
    ∀ job_id, Follows (s.shared.status job_id) (s'.shared.status job_id)) ∧
  ∀ s', system.StepsWhere ok s s' → ∀ job_id status, s.shared.status job_id = some status → Terminal status →
    s'.shared.status job_id = some status ∧
      (status = .cancelled → s'.shared.outcome job_id = s.shared.outcome job_id)

/-- Cancelled jobs stay cancelled if every cancellation is in time. -/
theorem cancelled_jobs_stay_cancelled (hreach : system.ReachableWhere InTime s) : JobsSettle InTime s := by
  refine ⟨fun a s' hok hstep job_id => ?_, fun s' hsteps job_id status hstatus hterminal => ?_⟩
  · exact ((orderly_step (orderly_reachable hreach) hok hstep).2 job_id).1
  · refine hsteps.keeps (P := fun s' => s'.shared.status job_id = some status ∧
      (status = .cancelled → s'.shared.outcome job_id = s.shared.outcome job_id)) ?_ hreach ⟨hstatus, fun _ => rfl⟩
    rintro s₁ a s₂ hreach₁ hok hstep ⟨hstatus₁, hkept⟩
    obtain ⟨hfollows, houtcome⟩ := (orderly_step (orderly_reachable hreach₁) hok hstep).2 job_id
    rw [hstatus₁] at hfollows houtcome
    refine ⟨hfollows.terminal hterminal, fun hcancelled => ?_⟩
    exact (houtcome (congrArg some hcancelled)).trans (hkept hcancelled)

def no_jobs : State where
  shared := { jobs := Dict.empty, results := Dict.empty }
  threads _ := none

theorem no_jobs_initial : system.initial no_jobs := ⟨rfl, fun _ => rfl⟩

/-- The worker of the job, and a request that cancels it, make their next step. -/
def work : Action := .perform (.worker "a") { now := 1, outcome := .ok [] }
def cancel : Action := .perform (.request 0) { now := 1, outcome := .ok [] }

def submission : Action := .start (.worker "a") (.submit_job "trend_analysis" [] 0)
def cancellation : List Action := [.start (.request 0) (.cancel_job "a"), cancel, cancel, cancel, cancel]

/-- A job is cancelled while it runs. -/
theorem cancelled_jobs_stay_cancelled_running :
    ∃ s s', system.ReachableWhere InTime s ∧ system.StepsWhere InTime s s' ∧ s.shared.status "a" = some .cancelled ∧
      s'.threads (.worker "a") = none ∧ s'.shared.status "a" = some .cancelled := by
  have hreplay : ((system.replay cancels_in_time no_jobs (submission :: work :: cancellation)).bind fun mid =>
      (system.replay cancels_in_time mid [work, work]).map fun s' =>
        decide (mid.shared.status "a" = some .cancelled) && (s'.threads (.worker "a")).isNone) = some true := by
    decide +kernel
  obtain ⟨s, s', hreach, hsteps, htest⟩ := TransitionSystem.exists_steps_of_replay InTime cancels_in_time
    (fun _ _ h => h) no_jobs_initial _ _ (fun mid s' => _) hreplay
  obtain ⟨hcancelled, hover⟩ := Bool.and_eq_true_iff.mp htest
  have hstatus := of_decide_eq_true hcancelled
  refine ⟨s, s', hreach, hsteps, hstatus, Option.isNone_iff_eq_none.mp hover, ?_⟩
  exact ((cancelled_jobs_stay_cancelled hreach).2 s' hsteps "a" .cancelled hstatus (.inr (.inr rfl))).1

/-- A job that is cancelled before its worker begins is run all the same. -/
theorem cancelled_job_runs : ¬ ∀ s, system.Reachable s → JobsSettle (fun _ _ => True) s := by
  intro hclaim
  have hreplay : ((system.replay (fun _ _ => true) no_jobs (submission :: cancellation)).bind fun mid =>
      (system.replay (fun _ _ => true) mid [work]).map fun s' =>
        decide (mid.shared.status "a" = some .cancelled) && decide (s'.shared.status "a" = some .running)) =
          some true := by
    decide +kernel
  obtain ⟨s, s', hreach, hsteps, htest⟩ := TransitionSystem.exists_steps_of_replay (fun _ _ => True) (fun _ _ => true)
    (fun _ _ _ => trivial) no_jobs_initial _ _ (fun mid s' => _) hreplay
  obtain ⟨hbefore, hafter⟩ := Bool.and_eq_true_iff.mp htest
  have hkept := ((hclaim s hreach).2 s' hsteps "a" .cancelled (of_decide_eq_true hbefore) (.inr (.inr rfl))).1
  rw [of_decide_eq_true hafter] at hkept
  cases hkept

end gateway.job_runner
