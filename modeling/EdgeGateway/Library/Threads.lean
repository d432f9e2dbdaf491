import EdgeGateway.Library.Transition
import Mathlib.Logic.Function.Basic

/-- A program that performs operations one at a time and goes on with their results. -/
inductive Program (ω : Type) (ρ : ω → Type) (α : Type) where
  | ret (a : α)
  | perform (o : ω) (next : ρ o → Program ω ρ α)

namespace Program

variable {ω : Type} {ρ : ω → Type} {α β : Type}

def bind : Program ω ρ α → (α → Program ω ρ β) → Program ω ρ β
  | .ret a, f => f a
  | .perform o next, f => .perform o fun result => (next result).bind f

instance : Monad (Program ω ρ) where
  pure := .ret
  bind := bind

/-- The program of one operation. -/
def op (o : ω) : Program ω ρ (ρ o) := .perform o .ret

/-- The property holds of the program and of all that it goes on with. -/
def Always (P : Program ω ρ α → Prop) : Program ω ρ α → Prop
  | .ret a => P (.ret a)
  | .perform o next => P (.perform o next) ∧ ∀ result, (next result).Always P

theorem Always.self {P : Program ω ρ α → Prop} {p : Program ω ρ α} (h : p.Always P) : P p := by
  cases p with
  | ret a => exact h
  | perform o next => exact h.1

theorem Always.next {P : Program ω ρ α → Prop} {o : ω} {next : ρ o → Program ω ρ α}
    (h : (Program.perform o next).Always P) (result : ρ o) : (next result).Always P :=
  h.2 result

section Protocol

variable {π : Type} (step : π → (o : ω) → ρ o → π → Prop) (final : π → α → Prop)

/-- Whatever the results, a protocol allows what the program does from one of its phases on. -/
def Conforms : Program ω ρ α → π → Prop
  | .ret a, phase => final phase a
  | .perform o next, phase => ∀ result, ∃ phase', step phase o result phase' ∧ Conforms (next result) phase'

/-- The first operation of a kind that the program comes to, if the results on the way are the usual ones. -/
def first (usual : (o : ω) → ρ o) (select : ω → Bool) : Program ω ρ α → Option ω
  | .ret _ => none
  | .perform o next => if select o then some o else (next (usual o)).first usual select

variable {step final}

/-- In some phases of a protocol, that the program is not through with, the first operation of a kind is
known. -/
theorem Conforms.exists_first {usual : (o : ω) → ρ o} {select : ω → Bool} {P : π → Prop} {Q : ω → Prop}
    (hfinal : ∀ phase a, P phase → ¬ final phase a)
    (hstep : ∀ phase o phase', P phase → step phase o (usual o) phase' → if select o then Q o else P phase')
    {p : Program ω ρ α} {phase : π} (h : p.Conforms step final phase) (hphase : P phase) :
    ∃ o, p.first usual select = some o ∧ Q o := by
  induction p generalizing phase with
  | ret a => exact absurd h (hfinal phase a hphase)
  | perform o next ih =>
    obtain ⟨phase', hallowed, hnext⟩ := h (usual o)
    have hcase := hstep phase o phase' hphase hallowed
    unfold first
    by_cases hselect : select o = true
    · rw [if_pos hselect] at hcase ⊢
      exact ⟨o, rfl, hcase⟩
    · rw [if_neg hselect] at hcase ⊢
      exact ih (usual o) hnext hcase

theorem Conforms.bind {final' : π → β → Prop} {k : α → Program ω ρ β} {p : Program ω ρ α} {phase : π}
    (h : p.Conforms step final phase) (hnext : ∀ phase a, final phase a → (k a).Conforms step final' phase) :
    (p.bind k).Conforms step final' phase := by
  induction p generalizing phase with
  | ret a => exact hnext phase a h
  | perform o next ih =>
    intro result
    obtain ⟨phase', hallowed, hrest⟩ := h result
    exact ⟨phase', hallowed, ih result hrest⟩

end Protocol

end Program

/-- Threads `ι` that run programs over a shared state, one operation at a time. The choice
`χ` resolves what an operation leaves open. -/
structure Threads (ι κ S ω : Type) (ρ : ω → Type) (α χ : Type) where
  /-- The program of a call, if the call can be made in the thread. -/
  start : S → ι → κ → Option (S × Program ω ρ α)
  /-- The operation of a thread, `none` while it has to wait. -/
  perform : S → ι → (o : ω) → χ → Option (S × ρ o)
  /-- What becomes of the state when a thread has returned. -/
  finish : S → ι → S
  /-- What becomes of the state when a thread is thrown out of its program, if it can be. -/
  abort : S → ι → Option S

namespace Threads

structure State (ι S ω : Type) (ρ : ω → Type) (α : Type) where
  shared : S
  threads : ι → Option (Program ω ρ α)

inductive Action (ι κ χ : Type) where
  | start (t : ι) (c : κ)
  | perform (t : ι) (choice : χ)
  | abort (t : ι)

variable {ι κ S ω : Type} {ρ : ω → Type} {α χ : Type} [DecidableEq ι]

theorem update_threads_cases {π : Type} {threads : ι → Option π} {new : Option π} {slot t : ι} {p : π}
    (h : Function.update threads slot new t = some p) :
    (t = slot ∧ new = some p) ∨ (t ≠ slot ∧ threads t = some p) := by
  by_cases heq : t = slot
  · subst heq
    rw [Function.update_self] at h
    exact .inl ⟨rfl, h⟩
  · rw [Function.update_of_ne heq] at h
    exact .inr ⟨heq, h⟩

variable (T : Threads ι κ S ω ρ α χ)

/-- The thread goes on with the program, or has returned. -/
def settle (s : State ι S ω ρ α) (t : ι) (shared : S) : Program ω ρ α → State ι S ω ρ α
  | .ret _ => { shared := T.finish shared t, threads := Function.update s.threads t none }
  | .perform o next => { shared, threads := Function.update s.threads t (some (.perform o next)) }

def step (s : State ι S ω ρ α) : Action ι κ χ → Option (State ι S ω ρ α)
  | .start t c =>
    match s.threads t with
    | some _ => none
    | none => (T.start s.shared t c).map fun (shared, p) => T.settle s t shared p
  | .perform t choice =>
    match s.threads t with
    | some (.perform o next) =>
      (T.perform s.shared t o choice).map fun (shared, result) => T.settle s t shared (next result)
    | _ => none
  | .abort t =>
    match s.threads t with
    | some _ => (T.abort s.shared t).map fun shared => { shared, threads := Function.update s.threads t none }
    | none => none

/-- What the thread returns, if its next operation is its last one. -/
def returned (s : State ι S ω ρ α) (t : ι) (choice : χ) : Option α :=
  match s.threads t with
  | some (.perform o next) =>
    match (T.perform s.shared t o choice).map fun performed => next performed.2 with
    | some (.ret a) => some a
    | _ => none
  | _ => none

/-- The runs from states in which no thread is running. -/
def system (initial : S → Prop) : TransitionSystem (State ι S ω ρ α) (Action ι κ χ) where
  initial s := initial s.shared ∧ ∀ t, s.threads t = none
  step := T.step

variable {T} {s s' : State ι S ω ρ α} {t : ι}

theorem step_start {c : κ} (h : T.step s (.start t c) = some s') :
    s.threads t = none ∧ ∃ shared p, T.start s.shared t c = some (shared, p) ∧ s' = T.settle s t shared p := by
  simp only [step] at h
  split at h
  · cases h
  · rename_i hfree
    obtain ⟨⟨shared, p⟩, hstart, rfl⟩ := Option.map_eq_some_iff.mp h
    exact ⟨hfree, shared, p, hstart, rfl⟩

theorem step_perform {choice : χ} (h : T.step s (.perform t choice) = some s') :
    ∃ o next shared result, s.threads t = some (.perform o next) ∧
      T.perform s.shared t o choice = some (shared, result) ∧ s' = T.settle s t shared (next result) := by
  simp only [step] at h
  split at h
  · rename_i o next hthread
    obtain ⟨⟨shared, result⟩, hperform, rfl⟩ := Option.map_eq_some_iff.mp h
    exact ⟨o, next, shared, result, hthread, hperform, rfl⟩
  · cases h

omit [DecidableEq ι] in
theorem perform_of_returned {choice : χ} {a : α} (h : T.returned s t choice = some a) :
    ∃ o next shared result, s.threads t = some (.perform o next) ∧
      T.perform s.shared t o choice = some (shared, result) ∧ next result = .ret a := by
  simp only [returned] at h
  split at h
  · rename_i o next hthread
    split at h
    · rename_i a' hret
      obtain ⟨⟨shared, result⟩, hperform, hnext⟩ := Option.map_eq_some_iff.mp hret
      cases h
      exact ⟨o, next, shared, result, hthread, hperform, hnext⟩
    · cases h
  · cases h

theorem step_abort (h : T.step s (.abort t : Action ι κ χ) = some s') :
    ∃ p shared, s.threads t = some p ∧ T.abort s.shared t = some shared ∧
      s' = { shared, threads := Function.update s.threads t none } := by
  simp only [step] at h
  split at h
  · rename_i p hthread
    obtain ⟨shared, habort, rfl⟩ := Option.map_eq_some_iff.mp h
    exact ⟨p, shared, hthread, habort, rfl⟩
  · cases h

theorem settle_cases (T : Threads ι κ S ω ρ α χ) (s : State ι S ω ρ α) (t : ι) (shared : S) (p : Program ω ρ α) :
    ((∃ a, p = .ret a) ∧ T.settle s t shared p =
      { shared := T.finish shared t, threads := Function.update s.threads t none }) ∨
    ((∃ o next, p = .perform o next) ∧ T.settle s t shared p =
      { shared, threads := Function.update s.threads t (some p) }) := by
  cases p with
  | ret a => exact .inl ⟨⟨a, rfl⟩, rfl⟩
  | perform o next => exact .inr ⟨⟨o, next, rfl⟩, rfl⟩

theorem threads_settle_of_ne {shared : S} {p : Program ω ρ α} {u : ι} (h : u ≠ t) :
    (T.settle s t shared p).threads u = s.threads u := by
  cases p <;> exact Function.update_of_ne h _ _

/-- A thread that was settled goes on with its program, or has returned. -/
theorem threads_settle_self (T : Threads ι κ S ω ρ α χ) (s : State ι S ω ρ α) (t : ι) (shared : S)
    (p : Program ω ρ α) :
    ((∃ a, p = .ret a) ∧ (T.settle s t shared p).threads t = none) ∨
      (T.settle s t shared p).threads t = some p := by
  cases p with
  | ret a => exact .inl ⟨⟨a, rfl⟩, Function.update_self ..⟩
  | perform o next => exact .inr (Function.update_self ..)

/-- A thread after another one was settled runs its old program. -/
theorem threads_settle {shared : S} {p q : Program ω ρ α} {u : ι} (h : (T.settle s t shared p).threads u = some q) :
    (u = t ∧ q = p) ∨ (u ≠ t ∧ s.threads u = some q) := by
  obtain ⟨-, heq⟩ | ⟨-, heq⟩ := settle_cases T s t shared p
  · rw [heq] at h
    obtain ⟨-, hnone⟩ | hold := update_threads_cases h
    · cases hnone
    · exact .inr hold
  · rw [heq] at h
    obtain ⟨hslot, hnew⟩ | hold := update_threads_cases h
    · exact .inl ⟨hslot, (Option.some.inj hnew).symm⟩
    · exact .inr hold

/-- What holds of all that a call goes on with holds of the program of every thread. -/
theorem threads_always {P : Program ω ρ α → Prop} {initial : S → Prop} {ok : State ι S ω ρ α → Action ι κ χ → Prop}
    (hstart : ∀ shared t c shared' p, T.start shared t c = some (shared', p) → p.Always P)
    (h : (T.system initial).ReachableWhere ok s) : ∀ t p, s.threads t = some p → p.Always P := by
  refine TransitionSystem.ReachableWhere.invariant (P := fun s => ∀ t p, s.threads t = some p → p.Always P) ?_ ?_ h
  · rintro s ⟨-, hthreads⟩ t p hthread
    rw [hthreads] at hthread
    cases hthread
  · intro s a s' hinv _ hstep u q hthread
    change T.step s a = some s' at hstep
    cases a with
    | start t c =>
      obtain ⟨-, shared, p, hcall, rfl⟩ := step_start hstep
      obtain ⟨-, rfl⟩ | ⟨-, hold⟩ := threads_settle hthread
      · exact hstart _ _ _ _ _ hcall
      · exact hinv u q hold
    | perform t choice =>
      obtain ⟨o, next, shared, result, hslot, -, rfl⟩ := step_perform hstep
      obtain ⟨-, rfl⟩ | ⟨-, hold⟩ := threads_settle hthread
      · exact (hinv t _ hslot).next result
      · exact hinv u q hold
    | abort t =>
      obtain ⟨p, shared, -, -, rfl⟩ := step_abort hstep
      obtain ⟨-, hnone⟩ | ⟨-, hold⟩ := update_threads_cases hthread
      · cases hnone
      · exact hinv u q hold

end Threads
