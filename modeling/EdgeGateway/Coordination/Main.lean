import EdgeGateway.Coordination.LeaderElection

open gateway.leader_election

namespace gateway.coordination_main

/-- The task of `run_election_loop`: before the next iteration or between two of
them, at an `await` of `try_acquire` (with the reply, once Redis has sent one), or
returned or cancelled. -/
inductive Loop (ν : Type) where
  | waiting
  | calling (pc : Pc) (reply : Option (Reply ν))
  | ended
  deriving DecidableEq

/-- `main`: waiting for the shutdown event, at an `await` of `release`, past the
cancellation of the background tasks, or returned. -/
inductive Main (ν : Type) where
  | running
  | releasing (pc : Pc) (reply : Option (Reply ν))
  | stopping
  | stopped
  deriving DecidableEq

/-- One node and the lock it shares with the others; `late` is the command of the
cancelled election task that Redis has received and not executed. -/
structure State (ν : Type) where
  lock : Option ν
  is_leader : Bool
  shutdown_event : Bool
  election : Loop ν
  main : Main ν
  late : Option Pc
  deriving DecidableEq

inductive Action (ν : Type) where
  /-- SIGTERM or SIGINT. -/
  | signal
  /-- The election task runs up to its next `await`. -/
  | election
  | exec_election
  /-- `main` runs up to its next `await`. -/
  | main
  | exec_main
  | exec_late
  /-- Redis executes a command of another node. -/
  | other (n : ν) (pc : Pc)
  /-- The TTL of the lock runs out. -/
  | expire

variable {ν : Type}

/-- Where a call of `try_acquire` leaves the election task. -/
def Loop.of : Option Pc → Loop ν
  | some pc => .calling pc none
  | none => .waiting

/-- The command that the election task has sent and Redis has not executed. -/
def Loop.sent : Loop ν → Option Pc
  | .calling pc none => some pc
  | _ => none

/-- `task.cancel()` and what follows it; a command that was sent is not taken back. -/
def State.cancel (s : State ν) : State ν :=
  { s with election := .ended, main := .stopping, late := s.election.sent }

/-- Where a call of `release` leaves `main`. -/
def State.proceed (s : State ν) : Option Pc → State ν
  | some pc => { s with main := .releasing pc none }
  | none => s.cancel

variable [DecidableEq ν]

/-- Redis answers every command. -/
def step (node_id : ν) (s : State ν) : Action ν → Option (State ν)
  | .signal => some { s with shutdown_event := true }
  | .election =>
    match s.election with
    | .waiting =>
      some { s with election := if s.shutdown_event then .ended else .of (start s.is_leader .try_acquire) }
    | .calling pc (some reply) =>
      let (is_leader, next) := resume node_id s.is_leader pc reply
      some { s with is_leader, election := .of next }
    | _ => none
  | .exec_election =>
    match s.election with
    | .calling pc none =>
      let (lock, reply) := execute s.lock (pc.command node_id)
      some { s with lock, election := .calling pc (some reply) }
    | _ => none
  | .main =>
    match s.main with
    | .running => if s.shutdown_event then some (s.proceed (start s.is_leader .release)) else none
    | .releasing pc (some reply) =>
      let (is_leader, next) := resume node_id s.is_leader pc reply
      some (State.proceed { s with is_leader } next)
    | .stopping => some { s with main := .stopped }
    | _ => none
  | .exec_main =>
    match s.main with
    | .releasing pc none =>
      let (lock, reply) := execute s.lock (pc.command node_id)
      some { s with lock, main := .releasing pc (some reply) }
    | _ => none
  | .exec_late =>
    s.late.map fun pc => { s with lock := (execute s.lock (pc.command node_id)).1, late := none }
  | .other n pc => if n = node_id then none else some { s with lock := (execute s.lock (pc.command n)).1 }
  | .expire => some { s with lock := none }

def State.starting (lock : Option ν) : State ν :=
  { lock, is_leader := false, shutdown_event := false, election := .waiting, main := .running, late := none }

/-- A node that starts finds the lock in any state. -/
def system (node_id : ν) : TransitionSystem (State ν) (Action ν) where
  initial s := ∃ lock, s = .starting lock
  step := step node_id

theorem starting_initial (node_id : ν) (lock : Option ν) : (system node_id).initial (.starting lock) := ⟨lock, rfl⟩

end gateway.coordination_main
