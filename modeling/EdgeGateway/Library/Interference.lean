import EdgeGateway.Library.Threads

/-! What a thread has brought about when it returns, while other threads take steps between its operations. -/

namespace Threads

variable {ι κ S ω : Type} {ρ : ω → Type} {α β χ : Type}

section Ensures

variable (T : Threads ι κ S ω ρ α χ) (t : ι) (inv : S → Prop) (rely : S → S → Prop)

/-- From the state on, the thread returns with the postcondition, as long as the others keep the invariant and only do
what the thread relies on. -/
def Ensures (post : β → S → Prop) : Program ω ρ β → S → Prop
  | .ret b, shared => post b shared
  | .perform o next, shared => ∀ seen choice shared' result, rely shared seen → inv seen →
      T.perform seen t o choice = some (shared', result) → Ensures post (next result) shared'

variable {T t inv rely} {post : β → S → Prop}

/-- One program after the other. -/
theorem Ensures.bind {γ : Type} {post : γ → S → Prop} {p : Program ω ρ β} {f : β → Program ω ρ γ} {shared : S}
    (h : T.Ensures t inv rely (fun b => T.Ensures t inv rely post (f b)) p shared) :
    T.Ensures t inv rely post (p >>= f) shared := by
  induction p generalizing shared with
  | ret b => exact h
  | perform o next ih =>
    intro seen choice shared' result hrely hinv hperform
    exact ih result (h seen choice shared' result hrely hinv hperform)

theorem Ensures.mono {post post' : β → S → Prop} (hpost : ∀ b shared, post b shared → post' b shared)
    {p : Program ω ρ β} {shared : S} (h : T.Ensures t inv rely post p shared) : T.Ensures t inv rely post' p shared := by
  induction p generalizing shared with
  | ret b => exact hpost b shared h
  | perform o next ih =>
    intro seen choice shared' result hrely hinv hperform
    exact ih result (h seen choice shared' result hrely hinv hperform)

/-- The steps of the others before an operation do no harm. -/
theorem Ensures.of_rely (htrans : ∀ {s s' s''}, rely s s' → rely s' s'' → rely s s'') {o : ω} {next : ρ o → Program ω ρ β}
    {shared shared' : S} (h : T.Ensures t inv rely post (.perform o next) shared) (hrely : rely shared shared') :
    T.Ensures t inv rely post (.perform o next) shared' := by
  intro seen choice shared'' result hrely'
  exact h seen choice shared'' result (htrans hrely hrely')

end Ensures

/-- The thread that takes the step. -/
def Action.thread : Action ι κ χ → ι
  | .start t _ | .perform t _ | .abort t => t

section Runs

variable [DecidableEq ι] {T : Threads ι κ S ω ρ α χ} {initial : S → Prop}
  {ok : State ι S ω ρ α → Action ι κ χ → Prop} {s s' : State ι S ω ρ α} {inv : S → Prop} {rely : ι → S → S → Prop}
  {post : ι → α → S → Prop}

theorem step_threads_of_ne {a : Action ι κ χ} (h : T.step s a = some s') {u : ι} (hu : a.thread ≠ u) :
    s'.threads u = s.threads u := by
  cases a with
  | start t c =>
    obtain ⟨-, shared, p, -, rfl⟩ := step_start h
    exact threads_settle_of_ne (Ne.symm hu)
  | perform t choice =>
    obtain ⟨o, next, shared, result, -, -, rfl⟩ := step_perform h
    exact threads_settle_of_ne (Ne.symm hu)
  | abort t =>
    obtain ⟨p, shared, -, -, rfl⟩ := step_abort h
    exact Function.update_of_ne (Ne.symm hu) _ _

/-- A thread that goes on with a program is on its way to the postcondition. -/
theorem Ensures.settle {rely : S → S → Prop} {post : α → S → Prop} {t : ι} {shared : S} {p q : Program ω ρ α}
    (h : T.Ensures t inv rely post p shared) (hthread : (T.settle s t shared p).threads t = some q) :
    (∃ o next, q = .perform o next) ∧ T.Ensures t inv rely post q (T.settle s t shared p).shared := by
  obtain ⟨-, heq⟩ | ⟨hperform, heq⟩ := settle_cases T s t shared p
  · rw [heq] at hthread
    change Function.update s.threads t none t = some q at hthread
    rw [Function.update_self] at hthread
    cases hthread
  · rw [heq] at hthread ⊢
    change Function.update s.threads t (some p) t = some q at hthread
    rw [Function.update_self] at hthread
    cases hthread
    exact ⟨hperform, h⟩

section Reachable

variable (inv rely post)
  (hrefl : ∀ t s, rely t s s) (htrans : ∀ t s s' s'', rely t s s' → rely t s' s'' → rely t s s'')
  (hinv : ∀ s, (T.system initial).ReachableWhere ok s → inv s.shared)
  (hrely : ∀ s a s' u, (T.system initial).ReachableWhere ok s → ok s a → T.step s a = some s' → a.thread ≠ u →
    rely u s.shared s'.shared)
  (hstart : ∀ s t c shared p, (T.system initial).ReachableWhere ok s → s.threads t = none →
    T.start s.shared t c = some (shared, p) → T.Ensures t inv (rely t) (post t) p shared)
include hrefl htrans hinv hrely hstart

/-- In every run the threads are on their way to their postconditions. -/
theorem ensures_reachable (h : (T.system initial).ReachableWhere ok s) : ∀ t p, s.threads t = some p →
    (∃ o next, p = .perform o next) ∧ T.Ensures t inv (rely t) (post t) p s.shared := by
  refine TransitionSystem.ReachableWhere.invariant_of (Q := (T.system initial).ReachableWhere ok)
    (P := fun s => ∀ t p, s.threads t = some p →
      (∃ o next, p = .perform o next) ∧ T.Ensures t inv (rely t) (post t) p s.shared) (fun _ h => h) ?_ ?_ h
  · rintro s ⟨-, hthreads⟩ t p hthread
    rw [hthreads] at hthread
    cases hthread
  · intro s a s' hreach hensures hok hstep u p hthread
    change T.step s a = some s' at hstep
    by_cases hu : a.thread = u
    · subst hu
      cases a with
      | start t c =>
        obtain ⟨hfree, shared, q, hcall, rfl⟩ := step_start hstep
        exact (hstart s t c shared q hreach hfree hcall).settle hthread
      | perform t choice =>
        obtain ⟨o, next, shared, result, hslot, hperform, rfl⟩ := step_perform hstep
        have hnext := (hensures t _ hslot).2 s.shared choice shared result (hrefl t _) (hinv s hreach) hperform
        exact hnext.settle hthread
      | abort t =>
        obtain ⟨q, shared, -, -, rfl⟩ := step_abort hstep
        change Function.update s.threads t none t = some p at hthread
        rw [Function.update_self] at hthread
        cases hthread
    · rw [step_threads_of_ne hstep hu] at hthread
      obtain ⟨⟨o, next, rfl⟩, hensured⟩ := hensures u p hthread
      have hothers := hrely s a s' u hreach hok hstep hu
      exact ⟨⟨o, next, rfl⟩, hensured.of_rely (fun {s s' s''} => htrans u s s' s'') hothers⟩

/-- A thread that returns has brought its postcondition about. -/
theorem post_of_returned (h : (T.system initial).ReachableWhere ok s) {t : ι} {choice : χ} {a : α}
    (hreturned : T.returned s t choice = some a) (hstep : T.step s (.perform t choice) = some s') :
    ∃ shared, post t a shared ∧ s'.shared = T.finish shared t := by
  obtain ⟨o, next, shared, result, hthread, hperform, hnext⟩ := perform_of_returned hreturned
  obtain ⟨-, hensures⟩ := ensures_reachable inv rely post hrefl htrans hinv hrely hstart h t _ hthread
  have hpost := hensures s.shared choice shared result (hrefl t _) (hinv s h) hperform
  rw [hnext] at hpost
  obtain ⟨o', next', shared', result', hthread', hperform', rfl⟩ := step_perform hstep
  rw [hthread] at hthread'
  cases hthread'
  rw [hperform] at hperform'
  cases hperform'
  rw [hnext]
  exact ⟨shared, hpost, rfl⟩

end Reachable

end Runs

section Protocols

variable [DecidableEq ι] {π : Type} (T : Threads ι κ S ω ρ α χ) (step : ι → π → (o : ω) → ρ o → π → Prop)
  (final : ι → π → α → Prop) (holds : ι → π → S → Prop) (idle : ι → S → Prop)

/-- What holds in the phases of a thread, and while it is idle, survives. -/
def Undisturbed (t : ι) (shared shared' : S) : Prop :=
  (∀ phase, holds t phase shared → holds t phase shared') ∧ (idle t shared → idle t shared')

/-- Every thread keeps to its protocol, whose phases say what holds of the shared state, and disturbs no other one. -/
structure Protocols : Prop where
  start : ∀ {shared t c shared' p}, T.start shared t c = some (shared', p) → idle t shared →
    ∃ phase, p.Conforms (step t) (final t) phase ∧ holds t phase shared'
  perform : ∀ {shared t o choice shared' result phase phase'}, T.perform shared t o choice = some (shared', result) →
    step t phase o result phase' → holds t phase shared → holds t phase' shared'
  finish : ∀ {shared t phase a}, final t phase a → holds t phase shared → idle t (T.finish shared t)
  abort : ∀ {shared t shared' phase}, T.abort shared t = some shared' → holds t phase shared → idle t shared'
  start_others : ∀ {shared t c shared' p u}, T.start shared t c = some (shared', p) → u ≠ t →
    Undisturbed holds idle u shared shared'
  perform_others : ∀ {shared t o choice shared' result phase phase' u},
    T.perform shared t o choice = some (shared', result) → step t phase o result phase' → holds t phase shared → u ≠ t →
    Undisturbed holds idle u shared shared'
  finish_others : ∀ {shared t u}, u ≠ t → Undisturbed holds idle u shared (T.finish shared t)
  abort_others : ∀ {shared t shared' u}, T.abort shared t = some shared' → u ≠ t → Undisturbed holds idle u shared shared'

/-- What is known of a thread that runs the program, or none. -/
def Stands (t : ι) (shared : S) : Option (Program ω ρ α) → Prop
  | none => idle t shared
  | some p => ∃ phase, p.Conforms (step t) (final t) phase ∧ holds t phase shared

variable {T step final holds idle} {s : State ι S ω ρ α} {t u : ι} {shared : S} {p : Program ω ρ α} {phase : π}

omit [DecidableEq ι] in
theorem Undisturbed.stands {shared shared' : S} {thread : Option (Program ω ρ α)} (h : Undisturbed holds idle t shared shared')
    (hstands : Stands step final holds idle t shared thread) : Stands step final holds idle t shared' thread := by
  cases thread with
  | none => exact h.2 hstands
  | some p =>
    obtain ⟨phase, hconforms, hholds⟩ := hstands
    exact ⟨phase, hconforms, h.1 phase hholds⟩

/-- A thread that goes on, or returns, stands where its protocol says. -/
theorem Protocols.settle (h : Protocols T step final holds idle) (hconforms : p.Conforms (step t) (final t) phase)
    (hholds : holds t phase shared) :
    Stands step final holds idle t (T.settle s t shared p).shared ((T.settle s t shared p).threads t) := by
  cases p with
  | ret a =>
    change Stands step final holds idle t (T.finish shared t) (Function.update s.threads t none t)
    rw [Function.update_self]
    exact h.finish hconforms hholds
  | perform o next =>
    change Stands step final holds idle t shared (Function.update s.threads t (some (.perform o next)) t)
    rw [Function.update_self]
    exact ⟨phase, hconforms, hholds⟩

theorem Protocols.settle_others (h : Protocols T step final holds idle) (hu : u ≠ t)
    (hothers : Undisturbed holds idle u s.shared shared) (hstands : Stands step final holds idle u s.shared (s.threads u)) :
    Stands step final holds idle u (T.settle s t shared p).shared ((T.settle s t shared p).threads u) := by
  rw [threads_settle_of_ne hu]
  cases p with
  | ret a => exact (h.finish_others hu).stands (hothers.stands hstands)
  | perform o next => exact hothers.stands hstands

/-- In every run the threads stand where their protocols say. -/
theorem Protocols.reachable (h : Protocols T step final holds idle) {initial : S → Prop}
    {ok : State ι S ω ρ α → Action ι κ χ → Prop} (hinit : ∀ shared, initial shared → ∀ t, idle t shared)
    (hreach : (T.system initial).ReachableWhere ok s) : ∀ t, Stands step final holds idle t s.shared (s.threads t) := by
  refine TransitionSystem.ReachableWhere.invariant
    (P := fun s => ∀ t, Stands step final holds idle t s.shared (s.threads t)) ?_ ?_ hreach
  · rintro s ⟨hshared, hthreads⟩ t
    rw [hthreads]
    exact hinit s.shared hshared t
  · intro s a s' hstands _ hstep u
    change T.step s a = some s' at hstep
    cases a with
    | start t c =>
      obtain ⟨hfree, shared, p, hcall, rfl⟩ := step_start hstep
      by_cases hu : u = t
      · subst hu
        have hidle := hstands u
        rw [hfree] at hidle
        obtain ⟨phase, hconforms, hholds⟩ := h.start hcall hidle
        exact h.settle hconforms hholds
      · exact h.settle_others hu (h.start_others hcall hu) (hstands u)
    | perform t choice =>
      obtain ⟨o, next, shared, result, hthread, hperform, rfl⟩ := step_perform hstep
      have hown := hstands t
      rw [hthread] at hown
      obtain ⟨phase, hconforms, hholds⟩ := hown
      obtain ⟨phase', hallowed, hnext⟩ := hconforms result
      by_cases hu : u = t
      · subst hu
        exact h.settle hnext (h.perform hperform hallowed hholds)
      · exact h.settle_others hu (h.perform_others hperform hallowed hholds hu) (hstands u)
    | abort t =>
      obtain ⟨p, shared, hthread, habort, rfl⟩ := step_abort hstep
      have hown := hstands t
      rw [hthread] at hown
      obtain ⟨phase, -, hholds⟩ := hown
      change Stands step final holds idle u shared (Function.update s.threads t none u)
      by_cases hu : u = t
      · subst hu
        rw [Function.update_self]
        exact h.abort habort hholds
      · rw [Function.update_of_ne hu]
        exact (h.abort_others habort hu).stands (hstands u)

/-- How a thread of a run came to return. -/
theorem Protocols.returned (h : Protocols T step final holds idle) {initial : S → Prop}
    {ok : State ι S ω ρ α → Action ι κ χ → Prop} (hinit : ∀ shared, initial shared → ∀ t, idle t shared)
    (hreach : (T.system initial).ReachableWhere ok s) {choice : χ} {a : α} (hreturned : T.returned s t choice = some a) :
    ∃ phase o shared result phase', holds t phase s.shared ∧ T.perform s.shared t o choice = some (shared, result) ∧
      step t phase o result phase' ∧ final t phase' a ∧
      ∀ s', T.step s (.perform t choice) = some s' → s'.shared = T.finish shared t := by
  obtain ⟨o, next, shared, result, hthread, hperform, hnext⟩ := perform_of_returned hreturned
  have hown := h.reachable hinit hreach t
  rw [hthread] at hown
  obtain ⟨phase, hconforms, hholds⟩ := hown
  obtain ⟨phase', hallowed, hfinal⟩ := hconforms result
  rw [hnext] at hfinal
  refine ⟨phase, o, shared, result, phase', hholds, hperform, hallowed, hfinal, fun s' hstep => ?_⟩
  obtain ⟨o', next', shared', result', hthread', hperform', rfl⟩ := step_perform hstep
  rw [hthread] at hthread'
  cases hthread'
  rw [hperform] at hperform'
  cases hperform'
  rw [hnext]
  rfl

end Protocols

end Threads
