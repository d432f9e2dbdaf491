import Mathlib.Data.List.Basic
import Mathlib.Data.Option.Basic
import Mathlib.Logic.Basic
import Mathlib.Order.Defs.PartialOrder

/-- A guarded transition system. `step s a` is `none` when the action `a` is
disabled in `s`, so one function serves to replay a run and to reason about it. -/
structure TransitionSystem (σ α : Type*) where
  initial : σ → Prop
  step : σ → α → Option σ

namespace TransitionSystem

variable {σ α : Type*} (sys : TransitionSystem σ α)

/-- The states reached by runs all of whose steps are taken under `ok`. -/
inductive ReachableWhere (ok : σ → α → Prop) : σ → Prop where
  | initial {s : σ} (hinit : sys.initial s) : ReachableWhere ok s
  | step {s s' : σ} {a : α} (hreach : ReachableWhere ok s) (hok : ok s a)
      (hstep : sys.step s a = some s') : ReachableWhere ok s'

/-- The states reached by any run at all. -/
abbrev Reachable : σ → Prop := sys.ReachableWhere fun _ _ => True

variable {sys}

/-- A property that holds initially and survives every step taken under `ok`
holds of every state such a run reaches. -/
theorem ReachableWhere.invariant {ok : σ → α → Prop} {P : σ → Prop}
    (hinit : ∀ s, sys.initial s → P s)
    (hstep : ∀ s a s', P s → ok s a → sys.step s a = some s' → P s')
    {s : σ} (h : sys.ReachableWhere ok s) : P s := by
  induction h with
  | initial hs => exact hinit _ hs
  | step _ hok hs ih => exact hstep _ _ _ ih hok hs

/-- An invariant whose preservation uses one that is already established. -/
theorem ReachableWhere.invariant_of {ok : σ → α → Prop} {P Q : σ → Prop}
    (hQ : ∀ s, sys.ReachableWhere ok s → Q s)
    (hinit : ∀ s, sys.initial s → P s)
    (hstep : ∀ s a s', Q s → P s → ok s a → sys.step s a = some s' → P s')
    {s : σ} (h : sys.ReachableWhere ok s) : P s := by
  induction h with
  | initial hs => exact hinit _ hs
  | step hr hok hs ih => exact hstep _ _ _ (hQ _ hr) ih hok hs

/-- Runs taken under one condition are runs under any condition it implies on the
states they reach. -/
theorem ReachableWhere.mono {ok ok' : σ → α → Prop}
    (hle : ∀ s a, sys.ReachableWhere ok s → ok s a → ok' s a) {s : σ}
    (h : sys.ReachableWhere ok s) : sys.ReachableWhere ok' s := by
  induction h with
  | initial hs => exact .initial hs
  | step hreach hok hs ih => exact .step ih (hle _ _ hreach hok) hs

/-- A run from `s` on, all of whose steps are taken under `ok`. -/
inductive StepsWhere (sys : TransitionSystem σ α) (ok : σ → α → Prop) (s : σ) : σ → Prop where
  | refl : StepsWhere sys ok s s
  | step {s₁ s₂ : σ} {a : α} (hsteps : StepsWhere sys ok s s₁) (hok : ok s₁ a)
      (hstep : sys.step s₁ a = some s₂) : StepsWhere sys ok s s₂

theorem StepsWhere.trans {ok : σ → α → Prop} {s s' s'' : σ} (h : sys.StepsWhere ok s s') (h' : sys.StepsWhere ok s' s'') :
    sys.StepsWhere ok s s'' := by
  induction h' with
  | refl => exact h
  | step _ hok hstep ih => exact ih.step hok hstep

theorem StepsWhere.reachable {ok : σ → α → Prop} {s s' : σ} (h : sys.StepsWhere ok s s')
    (hs : sys.ReachableWhere ok s) : sys.ReachableWhere ok s' := by
  induction h with
  | refl => exact hs
  | step _ hok hstep ih => exact .step ih hok hstep

/-- A run under a condition is a run under any condition it implies. -/
theorem StepsWhere.mono {ok ok' : σ → α → Prop} (hle : ∀ s a, ok s a → ok' s a) {s s' : σ} (h : sys.StepsWhere ok s s') :
    sys.StepsWhere ok' s s' := by
  induction h with
  | refl => exact .refl
  | step _ hok hstep ih => exact .step ih (hle _ _ hok) hstep

/-- What every step keeps that is taken under the condition, every run under it keeps. -/
theorem StepsWhere.invariant {ok : σ → α → Prop} {P : σ → Prop}
    (hP : ∀ s a s', ok s a → sys.step s a = some s' → P s → P s') {s s' : σ} (h : sys.StepsWhere ok s s') (hp : P s) :
    P s' := by
  induction h with
  | refl => exact hp
  | step _ hok hstep ih => exact hP _ _ _ hok hstep ih

/-- What every step out of a reached state keeps, every run keeps. -/
theorem StepsWhere.keeps {ok : σ → α → Prop} {P : σ → Prop}
    (hP : ∀ s a s', sys.ReachableWhere ok s → ok s a → sys.step s a = some s' → P s → P s')
    {s s' : σ} (h : sys.StepsWhere ok s s') (hs : sys.ReachableWhere ok s) (hp : P s) : P s' := by
  induction h with
  | refl => exact hp
  | step hsteps hok hstep ih => exact hP _ _ _ (hsteps.reachable hs) hok hstep ih

/-- What no step out of a reached state lowers, no run lowers. -/
theorem StepsWhere.monotone {β : Type*} [Preorder β] {ok : σ → α → Prop} {f : σ → β}
    (hf : ∀ s a s', sys.ReachableWhere ok s → ok s a → sys.step s a = some s' → f s ≤ f s')
    {s s' : σ} (h : sys.StepsWhere ok s s') (hs : sys.ReachableWhere ok s) : f s ≤ f s' := by
  induction h with
  | refl => exact le_refl _
  | step hsteps hok hstep ih => exact le_trans ih (hf _ _ _ (hsteps.reachable hs) hok hstep)

variable (sys)

/-- Replay a list of actions; `none` when one of them is disabled or refused on
the way. -/
def replay (allow : σ → α → Bool) : σ → List α → Option σ
  | s, [] => some s
  | s, a :: rest => if allow s a then (sys.step s a).bind fun s' => replay allow s' rest else none

variable {sys}

/-- A replay that succeeds under a decidable condition is a run under it. -/
theorem replay_reachable {ok : σ → α → Prop} {allow : σ → α → Bool}
    (hallow : ∀ s a, allow s a = true → ok s a) :
    ∀ {actions : List α} {s s' : σ}, sys.ReachableWhere ok s →
      sys.replay allow s actions = some s' → sys.ReachableWhere ok s' := by
  intro actions
  induction actions with
  | nil =>
    intro s s' hs h
    simp only [replay, Option.some.injEq] at h
    exact h ▸ hs
  | cons a rest ih =>
    intro s s' hs h
    simp only [replay] at h
    split at h
    · rename_i hok
      simp only [Option.bind_eq_some_iff] at h
      obtain ⟨mid, hmid, h⟩ := h
      exact ih (.step hs (hallow s a hok) hmid) h
    · cases h

/-- A run found by replaying a list of actions ends in a state that passes a test. -/
theorem exists_of_replay (ok : σ → α → Prop) (allow : σ → α → Bool)
    (hallow : ∀ s a, allow s a = true → ok s a) {s : σ} (hs : sys.initial s) (actions : List α)
    (test : σ → Bool) (h : (sys.replay allow s actions).any test = true) :
    ∃ s', sys.ReachableWhere ok s' ∧ test s' = true := by
  obtain ⟨s', hreplay⟩ := Option.isSome_iff_exists.mp (Option.isSome_of_any h)
  rw [hreplay] at h
  exact ⟨s', replay_reachable hallow (.initial hs) hreplay, h⟩

/-- A replay that goes on from a state of a run goes on with the run. -/
theorem replay_steps {ok : σ → α → Prop} {allow : σ → α → Bool} (hallow : ∀ s a, allow s a = true → ok s a) :
    ∀ {actions : List α} {s mid s' : σ}, sys.StepsWhere ok s mid → sys.replay allow mid actions = some s' →
      sys.StepsWhere ok s s' := by
  intro actions
  induction actions with
  | nil =>
    intro s mid s' hs h
    simp only [replay, Option.some.injEq] at h
    exact h ▸ hs
  | cons a rest ih =>
    intro s mid s' hs h
    simp only [replay] at h
    split at h
    · rename_i hok
      obtain ⟨next, hnext, h⟩ := Option.bind_eq_some_iff.mp h
      exact ih (.step hs (hallow mid a hok) hnext) h
    · cases h

/-- A run found by replaying a list of actions, and how it goes on under another one. -/
theorem exists_steps_of_replay (ok : σ → α → Prop) (allow : σ → α → Bool)
    (hallow : ∀ s a, allow s a = true → ok s a) {s : σ} (hs : sys.initial s) (actions later : List α)
    (test : σ → σ → Bool)
    (h : ((sys.replay allow s actions).bind fun mid => (sys.replay allow mid later).map (test mid)) = some true) :
    ∃ mid s', sys.ReachableWhere ok mid ∧ sys.StepsWhere ok mid s' ∧ test mid s' = true := by
  obtain ⟨mid, hmid, h⟩ := Option.bind_eq_some_iff.mp h
  obtain ⟨s', hlater, htest⟩ := Option.map_eq_some_iff.mp h
  exact ⟨mid, s', replay_reachable hallow (.initial hs) hmid, replay_steps hallow .refl hlater, htest⟩

/-- What every step keeps is kept by the replay of any actions, and a rank that the counted ones lower bounds their
number. -/
theorem replay_rank {P : σ → Prop} {rank : σ → ℕ} {counted : α → Bool} {allow : σ → α → Bool}
    (hstep : ∀ s a s', P s → sys.step s a = some s' → P s' ∧ rank s' + (if counted a then 1 else 0) ≤ rank s) :
    ∀ {actions : List α} {s s' : σ}, P s → sys.replay allow s actions = some s' →
      P s' ∧ actions.countP counted + rank s' ≤ rank s := by
  intro actions
  induction actions with
  | nil =>
    intro s s' hs h
    cases h
    exact ⟨hs, by simp⟩
  | cons a rest ih =>
    intro s s' hs h
    rw [replay] at h
    split at h
    · obtain ⟨mid, hmid, h⟩ := Option.bind_eq_some_iff.mp h
      obtain ⟨hkept, hlower⟩ := hstep s a mid hs hmid
      obtain ⟨hp, hrank⟩ := ih hkept h
      refine ⟨hp, ?_⟩
      rw [List.countP_cons]
      omega
    · cases h

/-- One step of a recorded run. -/
structure Transition (σ α : Type*) where
  source : σ
  action : α
  target : σ

variable (sys)

/-- A run together with the record of its steps, the latest one first. -/
inductive Run : List (Transition σ α) → σ → Prop where
  | initial {s : σ} (hinit : sys.initial s) : Run [] s
  | step {trace : List (Transition σ α)} {s s' : σ} {a : α} (hrun : Run trace s)
      (hstep : sys.step s a = some s') : Run (⟨s, a, s'⟩ :: trace) s'

variable {sys}

theorem Run.reachable {trace : List (Transition σ α)} {s : σ} (h : sys.Run trace s) :
    sys.Reachable s := by
  induction h with
  | initial hs => exact .initial hs
  | step _ hs ih => exact .step ih trivial hs

variable (sys)

/-- The system with the record of its steps as a part of the state. -/
def recorded : TransitionSystem (σ × List (Transition σ α)) α where
  initial s := sys.initial s.1 ∧ s.2 = []
  step s a := (sys.step s.1 a).map fun s' => (s', ⟨s.1, a, s'⟩ :: s.2)

variable {sys}

/-- A replay that succeeds records a run. -/
theorem exists_run_of_replay (allow : σ → α → Bool) {s : σ} (hs : sys.initial s) (actions : List α)
    (test : σ → Bool) (h : (sys.replay allow s actions).any test = true) :
    ∃ trace s', sys.Run trace s' ∧ (∀ t ∈ trace, allow t.source t.action = true) ∧ test s' = true := by
  have key : ∀ {actions : List α} {trace : List (Transition σ α)} {s s' : σ}, sys.Run trace s →
      (∀ t ∈ trace, allow t.source t.action = true) → sys.replay allow s actions = some s' →
      ∃ trace', sys.Run trace' s' ∧ ∀ t ∈ trace', allow t.source t.action = true := by
    intro actions
    induction actions with
    | nil =>
      intro trace s s' hrun hall h
      simp only [replay, Option.some.injEq] at h
      exact h ▸ ⟨trace, hrun, hall⟩
    | cons a rest ih =>
      intro trace s s' hrun hall h
      simp only [replay] at h
      split at h
      · rename_i hok
        obtain ⟨mid, hmid, h⟩ := Option.bind_eq_some_iff.mp h
        exact ih (hrun.step hmid) (List.forall_mem_cons.mpr ⟨hok, hall⟩) h
      · cases h
  obtain ⟨s', hreplay⟩ := Option.isSome_iff_exists.mp (Option.isSome_of_any h)
  rw [hreplay] at h
  obtain ⟨trace, hrun, hall⟩ := key (.initial hs) (by simp) hreplay
  exact ⟨trace, s', hrun, hall, h⟩

/-- When a step out of a good state stays good exactly if it meets `ok`, a run
stays good throughout exactly if all its steps meet `ok`. -/
theorem Run.all_ok_iff_all_good {ok : σ → α → Prop} {good : σ → Prop}
    (hinit : ∀ s, sys.initial s → good s)
    (hstep : ∀ s a s', sys.Reachable s → good s → sys.step s a = some s' → (ok s a ↔ good s'))
    {trace : List (Transition σ α)} {s : σ} (h : sys.Run trace s) :
    (∀ t ∈ trace, ok t.source t.action) ↔ (∀ t ∈ trace, good t.target) := by
  have key : ((∀ t ∈ trace, ok t.source t.action) ↔ (∀ t ∈ trace, good t.target)) ∧
      ((∀ t ∈ trace, good t.target) → good s) := by
    induction h with
    | initial hs => exact ⟨by simp, fun _ => hinit _ hs⟩
    | @step trace s s' a hrun hs ih =>
      obtain ⟨hiff, hgood⟩ := ih
      refine ⟨?_, fun h => h _ List.mem_cons_self⟩
      simp only [List.forall_mem_cons]
      constructor
      · rintro ⟨hok, hrest⟩
        have hall := hiff.mp hrest
        exact ⟨(hstep s a s' hrun.reachable (hgood hall) hs).mp hok, hall⟩
      · rintro ⟨hlast, hall⟩
        exact ⟨(hstep s a s' hrun.reachable (hgood hall) hs).mpr hlast, hiff.mpr hall⟩
  exact key.1

section Prod

variable {τ β : Type*}

/-- Two systems side by side, one of which takes a step at a time. -/
def prod (sys₁ : TransitionSystem σ α) (sys₂ : TransitionSystem τ β) : TransitionSystem (σ × τ) (α ⊕ β) where
  initial s := sys₁.initial s.1 ∧ sys₂.initial s.2
  step s
    | .inl a => (sys₁.step s.1 a).map fun s₁ => (s₁, s.2)
    | .inr b => (sys₂.step s.2 b).map fun s₂ => (s.1, s₂)

variable {sys₁ : TransitionSystem σ α} {sys₂ : TransitionSystem τ β}

theorem Reachable.snd {s : σ × τ} (h : (sys₁.prod sys₂).Reachable s) : sys₂.Reachable s.2 := by
  induction h with
  | initial hinit => exact .initial hinit.2
  | @step s s' a _ _ hstep ih =>
    cases a with
    | inl a =>
      obtain ⟨s₁, _, rfl⟩ := Option.map_eq_some_iff.mp hstep
      exact ih
    | inr b =>
      obtain ⟨s₂, hs₂, rfl⟩ := Option.map_eq_some_iff.mp hstep
      exact ih.step trivial hs₂

end Prod

end TransitionSystem

/-- What happens while a coroutine awaits: the steps of the others, and the reply. -/
structure Turn (α ρ : Type*) where
  actions : List α
  reply : ρ

/-- What a coroutine shares its thread with: the others, and the awaits that will still
come back to it. A coroutine that awaits once more is never resumed. -/
structure Scene (κ α ρ : Type*) where
  others : κ
  future : List (Turn α ρ)

namespace TransitionSystem

variable {κ α : Type*} (sys : TransitionSystem κ α)

/-- The steps of a list that are enabled when they come, one after the other. -/
def perform (s : κ) (actions : List α) : κ := actions.foldl (fun s a => (sys.step s a).getD s) s

theorem perform_steps (s : κ) (actions : List α) : sys.StepsWhere (fun _ _ => True) s (sys.perform s actions) := by
  induction actions generalizing s with
  | nil => exact .refl
  | cons a rest ih =>
    have hfirst : sys.StepsWhere (fun _ _ => True) s ((sys.step s a).getD s) := by
      cases hstep : sys.step s a with
      | none => exact .refl
      | some next => exact .step .refl trivial hstep
    exact hfirst.trans (ih _)

end TransitionSystem

namespace Scene

variable {κ α ρ : Type*} (sys : TransitionSystem κ α)

/-- The next await comes back. -/
def next (scene : Scene κ α ρ) : Option (ρ × Scene κ α ρ) :=
  match scene.future with
  | [] => none
  | turn :: rest => some (turn.reply, { others := sys.perform scene.others turn.actions, future := rest })

variable {sys} {scene scene' : Scene κ α ρ} {reply : ρ}

theorem next_steps (h : scene.next sys = some (reply, scene')) :
    sys.StepsWhere (fun _ _ => True) scene.others scene'.others := by
  unfold next at h
  split at h
  · cases h
  · cases h
    exact sys.perform_steps scene.others _

theorem length_next (h : scene.next sys = some (reply, scene')) : scene'.future.length + 1 = scene.future.length := by
  unfold next at h
  split at h
  · cases h
  · rename_i turn rest hfuture
    cases h
    rw [hfuture, List.length_cons]

end Scene

/-! Noninterference by unwinding: what the actions of some leave of a run to the others. -/

namespace TransitionSystem

variable {σ α : Type*} {sys : TransitionSystem σ α} {allow : σ → α → Bool}

theorem replay_append (first second : List α) (s : σ) :
    sys.replay allow s (first ++ second) = (sys.replay allow s first).bind fun mid => sys.replay allow mid second := by
  induction first generalizing s with
  | nil => rfl
  | cons a rest ih =>
    rw [List.cons_append, replay, replay]
    split
    · cases sys.step s a with
      | none => rfl
      | some mid => exact ih mid
    · rfl

/-- The states `s` and `t` look the same to those who do not take the actions `high`. -/
structure Unwinding (sys : TransitionSystem σ α) (high : α → Bool) (R : σ → σ → Prop) : Prop where
  refl : ∀ s, R s s
  symm : ∀ s t, R s t → R t s
  /-- A high action is not seen. -/
  local_step : ∀ s a s' t, sys.Reachable s → R s t → high a = true → sys.step s a = some s' → R s' t
  /-- Any other action does the same to both. -/
  low_step : ∀ s a s' t t', sys.Reachable s → sys.Reachable t → R s t → high a = false → sys.step s a = some s' →
    sys.step t a = some t' → R s' t'

variable {high : α → Bool} {R : σ → σ → Prop}

theorem Unwinding.replay_high (h : Unwinding sys high R) : ∀ {actions : List α} {s s' t : σ}, (∀ a ∈ actions, high a = true) →
    sys.Reachable s → R s t → sys.replay (fun _ _ => true) s actions = some s' → sys.Reachable s' ∧ R s' t := by
  intro actions
  induction actions with
  | nil =>
    intro s s' t _ hs hrel hreplay
    cases hreplay
    exact ⟨hs, hrel⟩
  | cons a rest ih =>
    intro s s' t hhigh hs hrel hreplay
    obtain ⟨ha, hrest⟩ := List.forall_mem_cons.mp hhigh
    rw [replay, if_pos rfl] at hreplay
    obtain ⟨mid, hmid, hreplay⟩ := Option.bind_eq_some_iff.mp hreplay
    exact ih hrest (.step hs trivial hmid) (h.local_step s a mid t hs hrel ha hmid) hreplay

/-- Two runs whose low actions are the same end in states that look the same. -/
theorem Unwinding.replay_related (h : Unwinding sys high R) : ∀ {actions actions' : List α} {s s' t t' : σ},
    actions.filter (!high ·) = actions'.filter (!high ·) → sys.Reachable s → sys.Reachable t → R s t →
    sys.replay (fun _ _ => true) s actions = some s' → sys.replay (fun _ _ => true) t actions' = some t' → R s' t' := by
  intro actions
  induction actions with
  | nil =>
    intro actions' s s' t t' hpurged hs ht hrel hreplay hreplay'
    cases hreplay
    have hhigh : ∀ a ∈ actions', high a = true := by
      intro a ha
      simpa using List.filter_eq_nil_iff.mp hpurged.symm a ha
    exact h.symm _ _ (h.replay_high hhigh ht (h.symm _ _ hrel) hreplay').2
  | cons a rest ih =>
    intro actions' s s' t t' hpurged hs ht hrel hreplay hreplay'
    rw [replay, if_pos rfl] at hreplay
    obtain ⟨mid, hmid, hreplay⟩ := Option.bind_eq_some_iff.mp hreplay
    cases ha : high a with
    | true =>
      rw [List.filter_cons_of_neg (by rw [ha]; decide)] at hpurged
      exact ih hpurged (.step hs trivial hmid) ht (h.local_step s a mid t hs hrel ha hmid) hreplay hreplay'
    | false =>
      rw [List.filter_cons_of_pos (by rw [ha]; decide)] at hpurged
      obtain ⟨before, after, rfl, hbefore, -, hafter⟩ := List.filter_eq_cons_iff.mp hpurged.symm
      rw [replay_append] at hreplay'
      obtain ⟨start, hstart, hreplay'⟩ := Option.bind_eq_some_iff.mp hreplay'
      rw [replay, if_pos rfl] at hreplay'
      obtain ⟨mid', hmid', hreplay'⟩ := Option.bind_eq_some_iff.mp hreplay'
      have hhigh : ∀ b ∈ before, high b = true := fun b hb => by simpa using hbefore b hb
      obtain ⟨hreach, hrel'⟩ := h.replay_high hhigh ht (h.symm _ _ hrel) hstart
      exact ih hafter.symm (.step hs trivial hmid) (.step hreach trivial hmid')
        (h.low_step s a mid start mid' hs hreach (h.symm _ _ hrel') ha hmid hmid') hreplay hreplay'

end TransitionSystem
