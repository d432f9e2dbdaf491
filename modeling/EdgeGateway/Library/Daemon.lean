import Mathlib.Data.Option.Basic
import EdgeGateway.Library.Transition

/-- How an awaited call ends for its caller. -/
inductive Outcome (ρ : Type*) where
  | reply (r : ρ)
  | raised
  | cancelled

/-- A process that awaits one call after the other. `start` and `resume` run it up to
its next await, `none` meaning that it ended, and see of the host what the moment `μ`
holds. The server executes the awaited call or refuses it, the choice `χ` resolving
what is open, and an event `ε` is anything that happens to the server from elsewhere. -/
structure Daemon (S L π χ ρ μ ε : Type*) where
  start : μ → L × Option π
  exec : S → π → χ → Option (S × ρ)
  resume : μ → L → π → Outcome ρ → L × Option π
  /-- Whether the call can raise in its caller. -/
  raises : π → Bool
  event : S → ε → Option S

namespace Daemon

/-- A running process: its variables, the call it awaits and the reply under way. -/
structure Process (L π ρ : Type*) where
  vars : L
  pc : π
  reply : Option ρ := none

structure State (S L π ρ : Type*) where
  server : S
  process : Option (Process L π ρ)

inductive Ending where
  | replied
  | raised
  | cancelled
  deriving DecidableEq

inductive Action (χ μ ε : Type*) where
  /-- The process is started, also again after it ended or crashed. -/
  | start (moment : μ)
  /-- The server executes the awaited call. -/
  | exec (choice : χ)
  /-- The awaited call ends. It may raise or be cancelled executed or not. -/
  | finish (moment : μ) (how : Ending)
  /-- The process is gone, whatever it had in memory. -/
  | crash
  | event (e : ε)

variable {S L π χ ρ μ ε : Type*} (D : Daemon S L π χ ρ μ ε)

def outcome (p : Process L π ρ) : Ending → Option (Outcome ρ)
  | .replied => p.reply.map .reply
  | .raised => if D.raises p.pc then some .raised else none
  | .cancelled => some .cancelled

/-- Run the process to its next await. -/
def advance (moment : μ) (p : Process L π ρ) (o : Outcome ρ) : Option (Process L π ρ) :=
  let (vars, pc) := D.resume moment p.vars p.pc o
  pc.map fun pc => { vars, pc }

def step (s : State S L π ρ) : Action χ μ ε → Option (State S L π ρ)
  | .start moment =>
    match s.process with
    | some _ => none
    | none =>
      let (vars, pc) := D.start moment
      some { s with process := pc.map fun pc => { vars, pc } }
  | .exec choice =>
    match s.process with
    | some { vars, pc, reply := none } =>
      (D.exec s.server pc choice).map fun (server, reply) => { server, process := some { vars, pc, reply := some reply } }
    | _ => none
  | .finish moment how =>
    match s.process with
    | some p => (D.outcome p how).map fun o => { s with process := D.advance moment p o }
    | none => none
  | .crash =>
    match s.process with
    | some _ => some { s with process := none }
    | none => none
  | .event e => (D.event s.server e).map fun server => { s with server }

variable {D} {s s' : State S L π ρ}

theorem step_start {moment : μ} (h : D.step s (.start moment) = some s') :
    s.process = none ∧
      s' = { s with process := (D.start moment).2.map fun pc => { vars := (D.start moment).1, pc } } := by
  simp only [step] at h
  split at h
  · cases h
  · rename_i hnone
    exact ⟨hnone, (Option.some.inj h).symm⟩

theorem step_exec {choice : χ} (h : D.step s (.exec choice) = some s') :
    ∃ vars pc server reply, s.process = some { vars, pc } ∧ D.exec s.server pc choice = some (server, reply) ∧
      s' = { server, process := some { vars, pc, reply := some reply } } := by
  simp only [step] at h
  split at h
  · rename_i vars pc hprocess
    obtain ⟨⟨server, reply⟩, hexec, rfl⟩ := Option.map_eq_some_iff.mp h
    exact ⟨vars, pc, server, reply, hprocess, hexec, rfl⟩
  · cases h

theorem step_finish {moment : μ} {how : Ending} (h : D.step s (.finish moment how) = some s') :
    ∃ p o, s.process = some p ∧ D.outcome p how = some o ∧ s' = { s with process := D.advance moment p o } := by
  simp only [step] at h
  split at h
  · rename_i p hprocess
    obtain ⟨o, houtcome, rfl⟩ := Option.map_eq_some_iff.mp h
    exact ⟨p, o, hprocess, houtcome, rfl⟩
  · cases h

theorem step_crash (h : D.step s .crash = some s') :
    (∃ p, s.process = some p) ∧ s' = { s with process := none } := by
  simp only [step] at h
  split at h
  · rename_i p hprocess
    exact ⟨⟨p, hprocess⟩, (Option.some.inj h).symm⟩
  · cases h

theorem step_event {e : ε} (h : D.step s (.event e) = some s') :
    ∃ server, D.event s.server e = some server ∧ s' = { s with server } := by
  obtain ⟨server, hevent, rfl⟩ := Option.map_eq_some_iff.mp h
  exact ⟨server, hevent, rfl⟩

/-- A call ends with the reply that is under way, if with one at all. -/
theorem outcome_reply {p : Process L π ρ} {how : Ending} {r : ρ} (h : D.outcome p how = some (.reply r)) :
    p.reply = some r := by
  cases how with
  | replied =>
    obtain ⟨r', hreply, heq⟩ := Option.map_eq_some_iff.mp h
    cases heq
    exact hreply
  | raised =>
    simp only [outcome] at h
    split at h <;> cases h
  | cancelled => cases h

theorem outcome_raised {p : Process L π ρ} {o : Outcome ρ} (h : D.outcome p .raised = some o) :
    D.raises p.pc = true ∧ o = .raised := by
  simp only [outcome, Option.ite_none_right_eq_some, Option.some.injEq] at h
  exact ⟨h.1, h.2.symm⟩

theorem advance_eq_some {moment : μ} {p p' : Process L π ρ} {o : Outcome ρ}
    (h : D.advance moment p o = some p') :
    D.resume moment p.vars p.pc o = (p'.vars, some p'.pc) ∧ p'.reply = none := by
  obtain ⟨pc, hpc, rfl⟩ := Option.map_eq_some_iff.mp h
  exact ⟨Prod.ext rfl hpc, rfl⟩

variable (D)

/-- The runs of a daemon, as a transition system. At first the process is not started. -/
def system (initial : S → Prop) : TransitionSystem (State S L π ρ) (Action χ μ ε) where
  initial s := initial s.server ∧ s.process = none
  step := D.step

variable {D}

/-- An invariant `G` of the server, and one `I` that ties the running process to the
server, hold in every run if every piece of the daemon keeps them. -/
theorem invariant {initial : S → Prop} {ok : State S L π ρ → Action χ μ ε → Prop} {G : S → Prop}
    {I : S → L → π → Option ρ → Prop} (hinit : ∀ s, initial s → G s)
    (hstart : ∀ s moment vars pc, G s → D.start moment = (vars, some pc) → I s vars pc none)
    (hexec : ∀ s vars pc choice s' r, G s → I s vars pc none → D.exec s pc choice = some (s', r) →
      G s' ∧ I s' vars pc (some r))
    (hresume : ∀ s moment vars pc reply o vars' pc', G s → I s vars pc reply →
      (∀ r, o = .reply r → reply = some r) → D.resume moment vars pc o = (vars', some pc') → I s vars' pc' none)
    (hevent : ∀ s e s', G s → D.event s e = some s' →
      G s' ∧ ∀ vars pc reply, I s vars pc reply → I s' vars pc reply)
    (h : (D.system initial).ReachableWhere ok s) :
    G s.server ∧ ∀ p, s.process = some p → I s.server p.vars p.pc p.reply := by
  refine TransitionSystem.ReachableWhere.invariant
    (P := fun s => G s.server ∧ ∀ p, s.process = some p → I s.server p.vars p.pc p.reply) ?_ ?_ h
  · rintro s ⟨hserver, hnone⟩
    refine ⟨hinit _ hserver, fun p hp => ?_⟩
    rw [hnone] at hp
    cases hp
  · rintro s a s' ⟨hG, hI⟩ _ hstep
    change D.step s a = some s' at hstep
    cases a with
    | start moment =>
      obtain ⟨_, rfl⟩ := step_start hstep
      refine ⟨hG, fun p hp => ?_⟩
      obtain ⟨pc, hpc, rfl⟩ := Option.map_eq_some_iff.mp hp
      exact hstart _ moment _ pc hG (Prod.ext rfl hpc)
    | exec choice =>
      obtain ⟨vars, pc, server, reply, hprocess, hexecuted, rfl⟩ := step_exec hstep
      obtain ⟨hG', hI'⟩ := hexec _ vars pc choice server reply hG (hI _ hprocess) hexecuted
      refine ⟨hG', fun p hp => ?_⟩
      cases hp
      exact hI'
    | finish moment how =>
      obtain ⟨p, o, hprocess, houtcome, rfl⟩ := step_finish hstep
      refine ⟨hG, fun p' hp' => ?_⟩
      obtain ⟨hresumed, hreply⟩ := advance_eq_some hp'
      rw [hreply]
      refine hresume _ moment p.vars p.pc p.reply o _ _ hG (hI p hprocess) ?_ hresumed
      rintro r rfl
      exact outcome_reply houtcome
    | crash =>
      obtain ⟨_, rfl⟩ := step_crash hstep
      refine ⟨hG, fun p hp => ?_⟩
      cases hp
    | event e =>
      obtain ⟨server, hevented, rfl⟩ := step_event hstep
      obtain ⟨hG', hkeep⟩ := hevent _ e server hG hevented
      exact ⟨hG', fun p hp => hkeep _ _ _ (hI p hp)⟩

end Daemon
