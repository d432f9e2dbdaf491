import EdgeGateway.Library.Threads

/-! Programs that look at a system again and again while it takes its steps. -/

namespace TransitionSystem

variable {σ α ω β γ : Type} {ρ : ω → Type} (sys : TransitionSystem σ α) (ok : σ → α → Prop)
  (look : σ → (o : ω) → ρ o)

/-- A program that is begun in one state of a run returns a result in a later one. -/
inductive ObservesWhere : Program ω ρ β → σ → β → σ → Prop where
  | ret {b : β} {s : σ} : ObservesWhere (.ret b) s b s
  | look {o : ω} {next : ρ o → Program ω ρ β} {b : β} {s s' : σ} (h : ObservesWhere (next (look s o)) s b s') :
      ObservesWhere (.perform o next) s b s'
  | step {p : Program ω ρ β} {b : β} {s s₁ s' : σ} {a : α} (hok : ok s a) (hstep : sys.step s a = some s₁)
      (h : ObservesWhere p s₁ b s') : ObservesWhere p s b s'

/-- A program beside a run under no condition. -/
abbrev Observes : Program ω ρ β → σ → β → σ → Prop := sys.ObservesWhere (fun _ _ => True) look

variable {sys ok look}

/-- A step comes before all that a run goes on with. -/
theorem StepsWhere.cons {s s₁ s' : σ} {a : α} (hok : ok s a) (hstep : sys.step s a = some s₁)
    (h : sys.StepsWhere ok s₁ s') : sys.StepsWhere ok s s' :=
  (StepsWhere.refl.step hok hstep).trans h

theorem ObservesWhere.steps {p : Program ω ρ β} {b : β} {s s' : σ} (h : sys.ObservesWhere ok look p s b s') :
    sys.StepsWhere ok s s' := by
  induction h with
  | ret => exact .refl
  | look _ ih => exact ih
  | step hok hstep _ ih => exact ih.cons hok hstep

theorem ObservesWhere.of_steps {p : Program ω ρ β} {b : β} {s s₁ s' : σ} (hsteps : sys.StepsWhere ok s s₁)
    (h : sys.ObservesWhere ok look p s₁ b s') : sys.ObservesWhere ok look p s b s' := by
  induction hsteps with
  | refl => exact h
  | step _ hok hstep ih => exact ih (.step hok hstep h)

/-- A program that is through returns what it has. -/
theorem observes_ret_iff {b c : β} {s s' : σ} :
    sys.ObservesWhere ok look (.ret b : Program ω ρ β) s c s' ↔ c = b ∧ sys.StepsWhere ok s s' := by
  constructor
  · intro h
    generalize hp : (Program.ret b : Program ω ρ β) = p at h
    induction h with
    | ret =>
      cases hp
      exact ⟨rfl, .refl⟩
    | look => cases hp
    | step hok hstep _ ih =>
      obtain ⟨heq, hsteps⟩ := ih hp
      exact ⟨heq, hsteps.cons hok hstep⟩
  · rintro ⟨rfl, hsteps⟩
    exact .of_steps hsteps .ret

/-- A program looks at a state that the run comes to. -/
theorem observes_perform_iff {o : ω} {next : ρ o → Program ω ρ β} {b : β} {s s' : σ} :
    sys.ObservesWhere ok look (.perform o next) s b s' ↔
      ∃ seen, sys.StepsWhere ok s seen ∧ sys.ObservesWhere ok look (next (look seen o)) seen b s' := by
  constructor
  · intro h
    generalize hp : Program.perform o next = p at h
    induction h with
    | ret => cases hp
    | @look _ _ _ s _ h =>
      cases hp
      exact ⟨s, .refl, h⟩
    | step hok hstep _ ih =>
      obtain ⟨seen, hsteps, hnext⟩ := ih hp
      exact ⟨seen, hsteps.cons hok hstep, hnext⟩
  · rintro ⟨seen, hsteps, hnext⟩
    exact .of_steps hsteps (.look hnext)

/-- One program after the other. -/
theorem observes_bind_iff {p : Program ω ρ β} {f : β → Program ω ρ γ} {c : γ} {s s' : σ} :
    sys.ObservesWhere ok look (p >>= f) s c s' ↔ ∃ b mid, sys.ObservesWhere ok look p s b mid ∧ sys.ObservesWhere ok look (f b) mid c s' := by
  induction p generalizing s with
  | ret a =>
    constructor
    · intro h
      exact ⟨a, s, .ret, h⟩
    · rintro ⟨b, mid, hret, h⟩
      obtain ⟨rfl, hsteps⟩ := observes_ret_iff.mp hret
      exact .of_steps hsteps h
  | perform o next ih =>
    constructor
    · intro h
      obtain ⟨seen, hsteps, hnext⟩ := observes_perform_iff.mp h
      obtain ⟨b, mid, hp, hf⟩ := (ih _).mp hnext
      exact ⟨b, mid, observes_perform_iff.mpr ⟨seen, hsteps, hp⟩, hf⟩
    · rintro ⟨b, mid, hp, hf⟩
      obtain ⟨seen, hsteps, hnext⟩ := observes_perform_iff.mp hp
      have hrest : sys.ObservesWhere ok look (next (look seen o) >>= f) seen c s' := (ih _).mpr ⟨b, mid, hnext, hf⟩
      exact observes_perform_iff.mpr ⟨seen, hsteps, hrest⟩

/-- A single look. -/
theorem observes_op_iff {o : ω} {result : ρ o} {s s' : σ} :
    sys.ObservesWhere ok look (Program.op o) s result s' ↔ ∃ seen, sys.StepsWhere ok s seen ∧
      sys.StepsWhere ok seen s' ∧ look seen o = result := by
  rw [Program.op, observes_perform_iff]
  simp only [observes_ret_iff]
  exact exists_congr fun seen => ⟨fun ⟨h, heq, h'⟩ => ⟨h, h', heq.symm⟩, fun ⟨h, h', heq⟩ => ⟨h, heq.symm, h'⟩⟩

end TransitionSystem
