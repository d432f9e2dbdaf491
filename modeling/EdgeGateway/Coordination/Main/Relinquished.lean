import EdgeGateway.Coordination.Main

open gateway.leader_election

namespace gateway.coordination_main

variable {ν : Type} {node_id : ν}

/-- The election task, which stops at its next iteration, will not write the lock. -/
def Settled (node_id : ν) (lock : Option ν) : Loop ν → Prop
  | .waiting | .ended => True
  | .calling .acquire_set_nx (some reply) => reply = .ok ∨ lock ≠ some node_id
  | .calling .acquire_get none => lock ≠ some node_id
  | .calling .acquire_get (some reply) => reply ≠ .bulk node_id
  | .calling .acquire_renew (some _) => True
  | _ => False

/-- A node that believes to be the leader may start to release the lock while its
election task has only finished writing it; a node that does not must not hold the
lock, nor have sent a command that may take it. -/
def Releasable (node_id : ν) (s : State ν) : Prop :=
  if s.is_leader then Settled node_id s.lock s.election
  else (∀ pc, s.election.sent = some pc → pc = .acquire_get) ∧ s.lock ≠ some node_id

/-- The shutdown sequence starts only when the lock can be released. -/
def Tidy (node_id : ν) (s : State ν) : Action ν → Prop
  | .main => s.main = .running → Releasable node_id s
  | _ => True

/-- What the reply to a command of `release` tells. -/
def Answered (node_id : ν) (lock : Option ν) : Pc → Option (Reply ν) → Prop
  | .release_get, some reply => reply = .bulk node_id ∨ lock ≠ some node_id
  | .release_delete, some _ => lock ≠ some node_id
  | .release_get, none | .release_delete, none => True
  | _, _ => False

/-- The shutdown so far: from its start on the election task does not write the
lock, and at the end the node does not hold it. -/
def Orderly (node_id : ν) (s : State ν) : Prop :=
  match s.main with
  | .running => s.late = none
  | .releasing pc reply =>
    s.shutdown_event = true ∧ s.late = none ∧ Settled node_id s.lock s.election ∧ Answered node_id s.lock pc reply
  | .stopping | .stopped =>
    s.election = .ended ∧ (∀ pc, s.late = some pc → pc = .acquire_get) ∧ s.lock ≠ some node_id

section Lock

variable {lock lock' : Option ν} (hlock : lock' = some node_id → lock = some node_id)
include hlock

theorem Settled.mono {election : Loop ν} (h : Settled node_id lock election) : Settled node_id lock' election := by
  unfold Settled at h ⊢
  split at h
  · trivial
  · trivial
  · exact h.imp_right fun hne heq => hne (hlock heq)
  · exact fun heq => h (hlock heq)
  · exact h
  · trivial
  · exact h

theorem Answered.mono {pc : Pc} {reply : Option (Reply ν)} (h : Answered node_id lock pc reply) :
    Answered node_id lock' pc reply := by
  unfold Answered at h ⊢
  split at h
  · exact h.imp_right fun hne heq => hne (hlock heq)
  · exact fun heq => h (hlock heq)
  · trivial
  · trivial
  · exact h

/-- The lock may expire or change hands at any time. -/
theorem Orderly.mono {s : State ν} (hs : s.lock = lock) (h : Orderly node_id s) :
    Orderly node_id { s with lock := lock' } := by
  subst hs
  obtain ⟨_, _, _, _, main, _⟩ := s
  cases main with
  | running => exact h
  | releasing pc reply =>
    obtain ⟨hshut, hlate, hsettled, hanswered⟩ := h
    exact ⟨hshut, hlate, hsettled.mono hlock, hanswered.mono hlock⟩
  | stopping =>
    obtain ⟨hended, hlate, hne⟩ := h
    exact ⟨hended, hlate, fun heq => hne (hlock heq)⟩
  | stopped =>
    obtain ⟨hended, hlate, hne⟩ := h
    exact ⟨hended, hlate, fun heq => hne (hlock heq)⟩

end Lock

section Steps

variable {lock : Option ν} {election : Loop ν}

/-- The one command that a settled election task may still send is a GET that does
not find the node's id. -/
theorem Settled.exec {pc : Pc} (h : Settled node_id lock (.calling pc none)) :
    pc = .acquire_get ∧ (execute lock (pc.command node_id)).1 = lock ∧
      Settled node_id lock (.calling pc (some (execute lock (pc.command node_id)).2)) := by
  cases pc with
  | acquire_get =>
    refine ⟨rfl, ?_, ?_⟩
    · cases lock <;> rfl
    · intro hbulk
      exact h (execute_bulk hbulk)
  | _ => exact h.elim

/-- Cancelling a settled task leaves at most that GET behind. -/
theorem Settled.sent (h : Settled node_id lock election) {pc : Pc} (hsent : election.sent = some pc) :
    pc = .acquire_get := by
  cases election with
  | calling pc' reply =>
    cases reply with
    | none =>
      cases hsent
      exact h.exec.1
    | some reply => cases hsent
  | _ => cases hsent

/-- `release` deletes a lock that it found to be the node's own. -/
theorem Answered.exec {pc : Pc} (h : Answered node_id lock pc none) :
    Answered node_id (execute lock (pc.command node_id)).1 pc (some (execute lock (pc.command node_id)).2) ∧
      ((execute lock (pc.command node_id)).1 = some node_id → lock = some node_id) := by
  cases pc with
  | release_get =>
    cases lock with
    | none => exact ⟨.inr nofun, id⟩
    | some owner =>
      refine ⟨?_, id⟩
      by_cases heq : owner = node_id
      · exact .inl (by rw [heq]; rfl)
      · exact .inr fun hown => heq (Option.some.inj hown)
  | release_delete => cases lock <;> exact ⟨nofun, nofun⟩
  | _ => exact h.elim

variable [DecidableEq ν]

/-- After the shutdown event the election task stays settled as it goes on. -/
theorem Settled.resume {is_leader : Bool} {pc : Pc} {reply : Reply ν} (h : Settled node_id lock (.calling pc (some reply))) :
    Settled node_id lock (.of (leader_election.resume node_id is_leader pc reply).2) := by
  cases pc with
  | acquire_set_nx =>
    simp only [leader_election.resume]
    split
    · trivial
    · rename_i hreply
      exact h.resolve_left hreply
  | acquire_get =>
    simp only [leader_election.resume]
    rw [if_neg h]
    trivial
  | acquire_renew => trivial
  | release_get => exact h.elim
  | release_delete => exact h.elim

theorem Answered.resume (is_leader : Bool) {pc : Pc} {reply : Reply ν} (h : Answered node_id lock pc (some reply)) :
    (∃ next, (leader_election.resume node_id is_leader pc reply).2 = some next ∧ Answered node_id lock next none) ∨
      ((leader_election.resume node_id is_leader pc reply).2 = none ∧ lock ≠ some node_id) := by
  cases pc with
  | release_get =>
    by_cases hreply : reply = .bulk node_id
    · exact .inl ⟨.release_delete, by simp only [leader_election.resume, if_pos hreply], trivial⟩
    · exact .inr ⟨by simp only [leader_election.resume, if_neg hreply], h.resolve_left hreply⟩
  | release_delete => exact .inr ⟨rfl, h⟩
  | _ => exact h.elim

theorem Orderly.election_step {s s' : State ν} (h : Orderly node_id s) (hstep : step node_id s .election = some s') :
    Orderly node_id s' := by
  obtain ⟨lock, is_leader, shut, election, main, late⟩ := s
  have hmain : s'.main = main ∧ s'.lock = lock ∧ s'.late = late ∧ s'.shutdown_event = shut ∧
      (election ≠ .ended ∧ (shut = true → Settled node_id lock election → Settled node_id lock s'.election)) := by
    cases election with
    | waiting =>
      cases hstep
      refine ⟨rfl, rfl, rfl, rfl, nofun, fun hshut _ => ?_⟩
      simp only [hshut, if_true]
      trivial
    | calling pc reply =>
      cases reply with
      | none => cases hstep
      | some reply =>
        cases hstep
        exact ⟨rfl, rfl, rfl, rfl, nofun, fun _ hsettled => hsettled.resume⟩
    | ended => cases hstep
  obtain ⟨rfl, rfl, rfl, rfl, hnot, hkept⟩ := hmain
  obtain ⟨lock, is_leader, shut, election', main, late⟩ := s'
  cases main with
  | running => exact h
  | releasing pc reply =>
    obtain ⟨hshut, hlate, hsettled, hanswered⟩ := h
    exact ⟨hshut, hlate, hkept hshut hsettled, hanswered⟩
  | stopping => exact absurd h.1 hnot
  | stopped => exact absurd h.1 hnot

theorem Orderly.exec_election_step {s s' : State ν} (h : Orderly node_id s)
    (hstep : step node_id s .exec_election = some s') : Orderly node_id s' := by
  obtain ⟨lock, is_leader, shut, election, main, late⟩ := s
  cases election with
  | calling pc reply =>
    cases reply with
    | some reply => cases hstep
    | none =>
      cases hstep
      cases main with
      | running => exact h
      | releasing pc' reply' =>
        obtain ⟨hshut, hlate, hsettled, hanswered⟩ := h
        obtain ⟨_, hlock, hsettled⟩ := hsettled.exec
        have hsame : (execute lock (pc.command node_id)).1 = some node_id → lock = some node_id :=
          fun heq => hlock.symm.trans heq
        exact ⟨hshut, hlate, hsettled.mono hsame, hanswered.mono hsame⟩
      | stopping => cases h.1
      | stopped => cases h.1
  | _ => cases hstep

theorem Orderly.main_step {s s' : State ν} (h : Orderly node_id s) (hrel : s.main = .running → Releasable node_id s)
    (hstep : step node_id s .main = some s') : Orderly node_id s' := by
  obtain ⟨lock, is_leader, shut, election, main, late⟩ := s
  cases main with
  | running =>
    have hrel := hrel rfl
    simp only [step, start] at hstep
    split at hstep
    · rename_i hshut
      cases is_leader with
      | true =>
        cases hstep
        exact ⟨hshut, h, hrel, trivial⟩
      | false =>
        cases hstep
        exact ⟨rfl, hrel⟩
    · cases hstep
  | releasing pc reply =>
    cases reply with
    | none => cases hstep
    | some reply =>
      obtain ⟨hshut, hlate, hsettled, hanswered⟩ := h
      generalize hout : resume node_id is_leader pc reply = out at hstep
      obtain ⟨is_leader', next⟩ := out
      simp only [step, hout, Option.some.injEq] at hstep
      subst hstep
      obtain ⟨pc', hnext, hanswered⟩ | ⟨hnext, hne⟩ := hanswered.resume is_leader
      · rw [hout] at hnext
        cases hnext
        exact ⟨hshut, hlate, hsettled, hanswered⟩
      · rw [hout] at hnext
        cases hnext
        exact ⟨rfl, fun _ => hsettled.sent, hne⟩
  | stopping =>
    cases hstep
    exact h
  | stopped => cases hstep

theorem Orderly.exec_main_step {s s' : State ν} (h : Orderly node_id s) (hstep : step node_id s .exec_main = some s') :
    Orderly node_id s' := by
  obtain ⟨lock, is_leader, shut, election, main, late⟩ := s
  cases main with
  | releasing pc reply =>
    cases reply with
    | some reply => cases hstep
    | none =>
      obtain ⟨hshut, hlate, hsettled, hanswered⟩ := h
      cases hstep
      obtain ⟨hanswered, hlock⟩ := hanswered.exec
      exact ⟨hshut, hlate, hsettled.mono hlock, hanswered⟩
  | _ => cases hstep

theorem Orderly.exec_late_step {s s' : State ν} (h : Orderly node_id s) (hstep : step node_id s .exec_late = some s') :
    Orderly node_id s' := by
  obtain ⟨lock, is_leader, shut, election, main, late⟩ := s
  cases late with
  | none => cases hstep
  | some pc =>
    cases hstep
    -- the only command left behind is a GET, which does not change the lock
    have hget : pc = .acquire_get → (execute lock (pc.command node_id)).1 = lock := by
      rintro rfl
      cases lock <;> rfl
    cases main with
    | running => cases h
    | releasing pc' reply => cases h.2.1
    | stopping =>
      obtain ⟨hended, hlate, hne⟩ := h
      exact ⟨hended, nofun, fun heq => hne ((hget (hlate pc rfl)).symm.trans heq)⟩
    | stopped =>
      obtain ⟨hended, hlate, hne⟩ := h
      exact ⟨hended, nofun, fun heq => hne ((hget (hlate pc rfl)).symm.trans heq)⟩

theorem orderly_step {s s' : State ν} {a : Action ν} (h : Orderly node_id s) (htidy : Tidy node_id s a)
    (hstep : step node_id s a = some s') : Orderly node_id s' := by
  cases a with
  | signal =>
    cases hstep
    obtain ⟨_, _, _, _, main, _⟩ := s
    cases main with
    | releasing pc reply => exact ⟨rfl, h.2⟩
    | _ => exact h
  | election => exact h.election_step hstep
  | exec_election => exact h.exec_election_step hstep
  | main => exact h.main_step htidy hstep
  | exec_main => exact h.exec_main_step hstep
  | exec_late => exact h.exec_late_step hstep
  | other n pc =>
    simp only [step] at hstep
    split at hstep
    · cases hstep
    · rename_i hne
      cases hstep
      refine h.mono ?_ rfl
      intro hlock
      obtain hsame | ⟨_, hset⟩ | hset := execute_stored hlock
      · exact hsame
      · cases pc <;> cases hset
        exact absurd rfl hne
      · cases pc <;> cases hset
        exact absurd rfl hne
  | expire =>
    cases hstep
    refine h.mono ?_ rfl
    rintro ⟨⟩

/-- In every run whose shutdown starts when the lock can be released, the node does
not hold the lock once `main` has returned. -/
theorem lock_relinquished {s : State ν} (h : (system node_id).ReachableWhere (Tidy node_id) s)
    (hstopped : s.main = .stopped) : s.lock ≠ some node_id := by
  have horderly : Orderly node_id s := by
    refine TransitionSystem.ReachableWhere.invariant ?_ (fun s a s' => orderly_step) h
    rintro s ⟨lock, rfl⟩
    rfl
  obtain ⟨lock, is_leader, shut, election, main, late⟩ := s
  cases hstopped
  exact horderly.2.2

/-- The election task only calls `try_acquire`, and has left nothing behind before the shutdown. -/
structure Acquiring (s : State ν) : Prop where
  pc : ∀ pc reply, s.election = .calling pc reply → pc = .acquire_set_nx ∨ pc = .acquire_get ∨ pc = .acquire_renew
  late : s.main = .running → s.late = none

theorem Acquiring.election_step {s s' : State ν} (h : Acquiring s) (hstep : step node_id s .election = some s') :
    Acquiring s' := by
  obtain ⟨hpc, hlate⟩ := h
  obtain ⟨lock, is_leader, shut, election, main, late⟩ := s
  cases election with
  | waiting =>
    cases hstep
    refine ⟨fun pc reply heq => ?_, hlate⟩
    cases shut with
    | true => cases heq
    | false =>
      cases heq
      exact .inl rfl
  | calling pc reply =>
    cases reply with
    | none => cases hstep
    | some reply =>
      cases hstep
      refine ⟨fun pc' reply' heq => ?_, hlate⟩
      generalize hnext : (resume node_id is_leader pc reply).2 = next
      have hof : Loop.of next = .calling pc' reply' := by
        rw [← hnext]
        exact heq
      cases next with
      | none => cases hof
      | some next =>
        cases hof
        obtain ⟨_, rfl⟩ | ⟨_, ⟨_, rfl⟩ | ⟨rfl, _⟩⟩ := resume_next hnext
        · exact .inr (.inl rfl)
        · exact .inr (.inr rfl)
        · obtain hpc | hpc | hpc := hpc _ _ rfl <;> cases hpc
  | ended => cases hstep

theorem Acquiring.exec_election_step {s s' : State ν} (h : Acquiring s)
    (hstep : step node_id s .exec_election = some s') : Acquiring s' := by
  obtain ⟨hpc, hlate⟩ := h
  obtain ⟨lock, is_leader, shut, election, main, late⟩ := s
  cases election with
  | calling pc reply =>
    cases reply with
    | none =>
      cases hstep
      refine ⟨?_, hlate⟩
      rintro _ _ ⟨⟩
      exact hpc _ _ rfl
    | some reply => cases hstep
  | _ => cases hstep

omit [DecidableEq ν] in
/-- Whether the call of `main` goes on or ends, the election task is as it was or over. -/
theorem Acquiring.proceed {s s' : State ν} (h : Acquiring s) (helection : s'.election = s.election) (next : Option Pc) :
    Acquiring (s'.proceed next) := by
  have hpc := h.pc
  rw [← helection] at hpc
  cases next with
  | some pc => exact ⟨hpc, nofun⟩
  | none => exact ⟨nofun, nofun⟩

theorem Acquiring.main_step {s s' : State ν} (h : Acquiring s) (hstep : step node_id s .main = some s') :
    Acquiring s' := by
  obtain ⟨lock, is_leader, shut, election, main, late⟩ := s
  cases main with
  | running =>
    simp only [step, Option.ite_none_right_eq_some, Option.some.injEq] at hstep
    obtain ⟨_, rfl⟩ := hstep
    apply h.proceed
    rfl
  | releasing pc reply =>
    cases reply with
    | none => cases hstep
    | some reply =>
      cases hstep
      apply h.proceed
      rfl
  | stopping =>
    cases hstep
    exact ⟨h.pc, nofun⟩
  | stopped => cases hstep

theorem Acquiring.exec_main_step {s s' : State ν} (h : Acquiring s) (hstep : step node_id s .exec_main = some s') :
    Acquiring s' := by
  obtain ⟨lock, is_leader, shut, election, main, late⟩ := s
  cases main with
  | releasing pc reply =>
    cases reply with
    | none =>
      cases hstep
      exact ⟨h.pc, nofun⟩
    | some reply => cases hstep
  | _ => cases hstep

theorem acquiring_step {s s' : State ν} {a : Action ν} (h : Acquiring s) (hstep : (system node_id).step s a = some s') :
    Acquiring s' := by
  cases a with
  | signal =>
    cases hstep
    exact ⟨h.pc, h.late⟩
  | election => exact h.election_step hstep
  | exec_election => exact h.exec_election_step hstep
  | main => exact h.main_step hstep
  | exec_main => exact h.exec_main_step hstep
  | exec_late =>
    obtain ⟨pc, _, rfl⟩ := Option.map_eq_some_iff.mp hstep
    exact ⟨h.pc, fun _ => rfl⟩
  | other n pc =>
    simp only [system, step] at hstep
    split at hstep
    · cases hstep
    · cases hstep
      exact ⟨h.pc, h.late⟩
  | expire =>
    cases hstep
    exact ⟨h.pc, h.late⟩

/-- The shutdown has begun while the leader is in `try_acquire`. -/
def rereading (lock : Option ν) (pc : Pc) (reply : Option (Reply ν)) : State ν where
  lock := lock
  is_leader := true
  shutdown_event := true
  election := .calling pc reply
  main := .releasing .release_get none
  late := none

/-- A leader that reads its own id renews the lock, which has expired in the meantime. -/
theorem lock_kept_of_rereading (node_id : ν) (lock : Option ν) :
    ∃ s', (system node_id).StepsWhere (fun _ _ => True) (rereading lock .acquire_get (some (.bulk node_id))) s' ∧
      s'.main = .stopped ∧ s'.lock = some node_id := by
  have hread : (system node_id).step (rereading lock .acquire_get (some (.bulk node_id))) .election =
      some (rereading lock .acquire_renew none) := by
    simp [system, step, resume, rereading, Loop.of]
  have hrenewed : ∃ s', (system node_id).replay (fun _ _ => true) (rereading lock .acquire_renew none)
      [.expire, .exec_main, .exec_election, .main, .main] = some s' ∧ s'.main = .stopped ∧ s'.lock = some node_id :=
    ⟨_, rfl, rfl, rfl⟩
  obtain ⟨s', hreplay, hkept⟩ := hrenewed
  exact ⟨s', TransitionSystem.replay_steps (fun _ _ _ => trivial) (.step .refl trivial hread) hreplay, hkept⟩

/-- The condition leaves nothing out: a shutdown that starts when the lock cannot be
released may leave it with the node. -/
theorem lock_kept {s : State ν} (hreach : (system node_id).Reachable s) (hmain : s.main = .running)
    (hshut : s.shutdown_event = true) (hnot : ¬ Releasable node_id s) :
    ∃ s', (system node_id).StepsWhere (fun _ _ => True) s s' ∧ s'.main = .stopped ∧ s'.lock = some node_id := by
  have hacquiring : Acquiring s := by
    refine TransitionSystem.ReachableWhere.invariant ?_ (fun s a s' h _ => acquiring_step h) hreach
    rintro s ⟨lock, rfl⟩
    exact ⟨nofun, fun _ => rfl⟩
  have hreplay : ∀ actions, (∃ s', (system node_id).replay (fun _ _ => true) s actions = some s' ∧
      s'.main = .stopped ∧ s'.lock = some node_id) →
      ∃ s', (system node_id).StepsWhere (fun _ _ => True) s s' ∧ s'.main = .stopped ∧ s'.lock = some node_id := by
    rintro actions ⟨s', hrun, hkept⟩
    exact ⟨s', TransitionSystem.replay_steps (fun _ _ _ => trivial) .refl hrun, hkept⟩
  have hrereads : ∀ lock actions, (system node_id).replay (fun _ _ => true) s actions =
      some (rereading lock .acquire_get (some (.bulk node_id))) →
      ∃ s', (system node_id).StepsWhere (fun _ _ => True) s s' ∧ s'.main = .stopped ∧ s'.lock = some node_id := by
    intro lock actions hrun
    obtain ⟨s', hsteps, hkept⟩ := lock_kept_of_rereading node_id lock
    exact ⟨s', (TransitionSystem.replay_steps (fun _ _ _ => trivial) .refl hrun).trans hsteps, hkept⟩
  obtain ⟨hpc, hlate⟩ := hacquiring
  obtain ⟨lock, is_leader, shut, election, main, late⟩ := s
  cases hmain
  cases hshut
  cases hlate rfl
  cases is_leader with
  | true =>
    have hnot : ¬ Settled node_id lock election := hnot
    cases election with
    | waiting => exact absurd trivial hnot
    | ended => exact absurd trivial hnot
    | calling pc reply =>
      obtain rfl | rfl | rfl := hpc _ _ rfl
      · cases reply with
        | none => exact hreplay [.main, .expire, .exec_main, .exec_election, .main, .main] ⟨_, rfl, rfl, rfl⟩
        | some reply =>
          obtain ⟨hreply, hlock⟩ := not_or.mp hnot
          obtain rfl := not_ne_iff.mp hlock
          apply hrereads (some node_id) [.main, .election, .exec_election]
          simp [TransitionSystem.replay, system, step, start, State.proceed, resume, hreply, Loop.of, execute, Pc.command,
            rereading]
      · cases reply with
        | none =>
          obtain rfl := not_ne_iff.mp hnot
          exact hrereads (some node_id) [.main, .exec_election] rfl
        | some reply =>
          obtain rfl := not_ne_iff.mp hnot
          exact hrereads lock [.main] rfl
      · cases reply with
        | none => exact hreplay [.main, .expire, .exec_main, .exec_election, .main, .main] ⟨_, rfl, rfl, rfl⟩
        | some reply => exact absurd trivial hnot
  | false =>
    have hnot : ¬ ((∀ pc, election.sent = some pc → pc = .acquire_get) ∧ lock ≠ some node_id) := hnot
    by_cases hlock : lock = some node_id
    · subst hlock
      exact hreplay [.main, .main] ⟨_, rfl, rfl, rfl⟩
    · obtain ⟨pc, hpc_sent⟩ := not_forall.mp fun hall => hnot ⟨hall, hlock⟩
      obtain ⟨hsent, hget⟩ := Classical.not_imp.mp hpc_sent
      cases election with
      | calling pc' reply =>
        cases reply with
        | none =>
          cases hsent
          obtain rfl | rfl | rfl := hpc _ _ rfl
          · exact hreplay [.main, .expire, .exec_late, .main] ⟨_, rfl, rfl, rfl⟩
          · exact absurd rfl hget
          · exact hreplay [.main, .expire, .exec_late, .main] ⟨_, rfl, rfl, rfl⟩
        | some reply => cases hsent
      | _ => cases hsent

end Steps

/-- Node 0 is elected, is asked to shut down between two iterations, and gives the lock up. -/
theorem lock_relinquished_between_iterations :
    ∃ s : State ℕ, (system 0).Reachable s ∧ s.main = .stopped ∧ s.lock ≠ some 0 := by
  obtain ⟨s, hreach, htest⟩ := TransitionSystem.exists_of_replay (Tidy 0)
    (fun s a => match a with
      | .main => decide (s.main = .running → s.is_leader = true ∧ s.election = .waiting)
      | _ => true)
    (by
      intro s a h
      cases a with
      | main =>
        intro hmain
        obtain ⟨hleader, helection⟩ := of_decide_eq_true h hmain
        rw [Releasable, if_pos hleader, helection]
        trivial
      | _ => trivial)
    (starting_initial 0 none)
    [.election, .exec_election, .election, .signal, .main, .exec_main, .main, .exec_main, .main, .main]
    (fun s => decide (s.main = .stopped)) (by decide)
  have hstopped := of_decide_eq_true htest
  exact ⟨s, hreach.mono fun _ _ _ _ => trivial, hstopped, lock_relinquished hreach hstopped⟩

/-- The SET NX of node 0 takes the lock, and the shutdown starts before the election
task has seen the reply. -/
theorem lock_kept_after_shutdown :
    ¬ ∀ s : State ℕ, (system 0).Reachable s → s.main = .stopped → s.lock ≠ some 0 := by
  intro hclaim
  obtain ⟨s, hreach, htest⟩ := TransitionSystem.exists_of_replay (fun _ _ => True) (fun _ _ => true) (fun _ _ _ => trivial)
    (starting_initial 0 none)
    [.election, .exec_election, .signal, .main, .main]
    (fun s : State ℕ => decide (s.main = .stopped ∧ s.lock = some 0)) (by decide)
  obtain ⟨hstopped, hlock⟩ := of_decide_eq_true htest
  exact hclaim s hreach hstopped hlock

end gateway.coordination_main
