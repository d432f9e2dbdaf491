import Mathlib.Control.Lawful
import Mathlib.Order.Defs.Unbundled

theorem Except.bind_ok_iff {ε α β : Type} {x : Except ε α} {f : α → Except ε β} {b : β} :
    x >>= f = .ok b ↔ ∃ a, x = .ok a ∧ f a = .ok b := by
  cases x with
  | ok a =>
    refine ⟨fun h => ⟨a, rfl, h⟩, ?_⟩
    rintro ⟨_, ⟨⟩, h⟩
    exact h
  | error e =>
    refine ⟨fun h => (by cases h), ?_⟩
    rintro ⟨_, ⟨⟩, _⟩

/-- Code that may raise and that keeps the assignments it made before it raised. -/
abbrev Raising (σ ε : Type) := ExceptT ε (StateM σ)

namespace Raising

variable {σ ε α β τ : Type}

/-- The outcome of a call made in the state `s`, and the state it leaves. -/
def call (x : Raising σ ε α) (s : σ) : Except ε α × σ := x.run s

@[simp] theorem call_pure (a : α) (s : σ) : (pure a : Raising σ ε α).call s = (.ok a, s) := rfl

@[simp] theorem call_modify (f : σ → σ) (s : σ) : (modify f : Raising σ ε Unit).call s = (.ok (), f s) := rfl

@[simp] theorem call_get (s : σ) : (get : Raising σ ε σ).call s = (.ok s, s) := rfl

/-- A computation that neither reads nor assigns the state. -/
@[simp] theorem call_lift (r : Except ε α) (s : σ) : (liftM r : Raising σ ε α).call s = (r, s) := rfl

theorem call_bind (x : Raising σ ε α) (f : α → Raising σ ε β) (s : σ) :
    (x >>= f).call s =
      match x.call s with
      | (.ok a, s') => (f a).call s'
      | (.error e, s') => (.error e, s') := by
  change (match x.run s with
    | (r, s') => (match r with | .ok a => (f a).run | .error e => pure (.error e) : StateM σ _) s') = _
  unfold call
  rcases x.run s with ⟨_ | _, s'⟩ <;> rfl

theorem call_bind_ok {x : Raising σ ε α} {f : α → Raising σ ε β} {s s' : σ} {a : α}
    (h : x.call s = (.ok a, s')) : (x >>= f).call s = (f a).call s' := by
  rw [call_bind, h]

theorem call_bind_error {x : Raising σ ε α} {f : α → Raising σ ε β} {s s' : σ} {e : ε}
    (h : x.call s = (.error e, s')) : (x >>= f).call s = (.error e, s') := by
  rw [call_bind, h]

@[simp] theorem call_throw (e : ε) (s : σ) : (throw e : Raising σ ε α).call s = (.error e, s) := rfl

section MapM

variable {f : α → Raising σ ε β} {g : List α → α → β} {P : List α → σ → Prop}

/-- What is put out for a list when each output depends on what came before. -/
def outputs (g : List α → α → β) (past : List α) : List α → List β
  | [] => []
  | a :: rest => g past a :: outputs g (past ++ [a]) rest

theorem outputs_append (past xs ys : List α) :
    outputs g past (xs ++ ys) = outputs g past xs ++ outputs g (past ++ xs) ys := by
  induction xs generalizing past with
  | nil => rw [List.append_nil]; rfl
  | cons a rest ih =>
    rw [List.cons_append, outputs, ih, List.append_assoc]
    rfl

theorem outputs_eq_mapIdx (past xs : List α) :
    outputs g past xs = xs.mapIdx fun k a => g (past ++ xs.take k) a := by
  induction xs generalizing past with
  | nil => rfl
  | cons a rest ih =>
    rw [outputs, ih, List.mapIdx_cons, List.take_zero, List.append_nil]
    simp only [List.take_succ_cons, List.append_assoc, List.singleton_append]

theorem length_outputs (past xs : List α) : (outputs g past xs).length = xs.length := by
  induction xs generalizing past with
  | nil => rfl
  | cons a rest ih => rw [outputs, List.length_cons, ih, List.length_cons]

/-- Putting out list by list is putting out all at once. -/
theorem flatten_outputs (past xss : List (List α)) :
    (outputs (fun past xs => outputs g past.flatten xs) past xss).flatten = outputs g past.flatten xss.flatten := by
  induction xss generalizing past with
  | nil => rfl
  | cons xs rest ih =>
    rw [outputs, List.flatten_cons, ih, List.flatten_append, List.flatten_singleton, List.flatten_cons, outputs_append]

theorem map_length_outputs (past xss : List (List α)) :
    (outputs (fun past xs => outputs g past.flatten xs) past xss).map List.length = xss.map List.length := by
  induction xss generalizing past with
  | nil => rfl
  | cons xs rest ih => rw [outputs, List.map_cons, ih, length_outputs, List.map_cons]

/-- A loop none of whose steps raises. `P` holds of what came before and the state. -/
theorem call_mapM {Q : α → Prop} (hstep : ∀ past a s, Q a → P past s →
      ∃ s', (f a).call s = (.ok (g past a), s') ∧ P (past ++ [a]) s') :
    ∀ (xs past : List α) (s : σ), (∀ a ∈ xs, Q a) → P past s →
      ∃ s', (xs.mapM f).call s = (.ok (outputs g past xs), s') ∧ P (past ++ xs) s' := by
  intro xs
  induction xs with
  | nil =>
    intro past s _ hp
    refine ⟨s, rfl, ?_⟩
    rw [List.append_nil]
    exact hp
  | cons a rest ih =>
    intro past s hall hp
    obtain ⟨ha, hrest⟩ := List.forall_mem_cons.mp hall
    obtain ⟨s', hcall, hp'⟩ := hstep past a s ha hp
    obtain ⟨s'', hcalls, hp''⟩ := ih (past ++ [a]) s' hrest hp'
    rw [List.append_assoc] at hp''
    refine ⟨s'', ?_, hp''⟩
    rw [List.mapM_cons, call_bind_ok hcall, call_bind_ok hcalls]
    rfl

end MapM

/-- `try: x except: handler(e)`. -/
theorem call_tryCatch (x : Raising σ ε α) (handler : ε → Raising σ ε α) (s : σ) :
    (tryCatch x handler).call s =
      match x.call s with
      | (.ok a, s') => (.ok a, s')
      | (.error e, s') => (handler e).call s' := by
  change (match x.run s with
    | (r, s') => (match r with | .ok a => pure (Except.ok a) | .error e => (handler e).run : StateM σ (Except ε α)) s') = _
  unfold call
  rcases x.run s with ⟨_ | _, s'⟩ <;> rfl

/-- `try: x finally: f`, where `f` raises nothing. -/
def tryFinally (x : Raising σ ε α) (f : σ → σ) : Raising σ ε α :=
  fun s =>
    let (r, s') := x.call s
    (r, f s')

theorem call_tryFinally (x : Raising σ ε α) (f : σ → σ) (s : σ) :
    (x.tryFinally f).call s = ((x.call s).1, f (x.call s).2) := rfl

section Within

variable {R : σ → σ → Prop}

/-- However the call ends, it leaves a state that is related to the one it was made in. -/
def Within (R : σ → σ → Prop) (x : Raising σ ε α) : Prop := ∀ s, R s (x.call s).2

theorem Within.pure [Std.Refl R] (a : α) : Within R (pure a : Raising σ ε α) := fun s => Std.Refl.refl s

theorem Within.throw [Std.Refl R] (e : ε) : Within R (throw e : Raising σ ε α) := fun s => Std.Refl.refl s

theorem Within.bind [IsTrans σ R] {x : Raising σ ε α} {f : α → Raising σ ε β} (hx : x.Within R)
    (hf : ∀ a, (f a).Within R) : (x >>= f).Within R := by
  intro s
  have hfirst := hx s
  rw [call_bind]
  rcases hcall : x.call s with ⟨e | a, mid⟩
  · rwa [hcall] at hfirst
  · rw [hcall] at hfirst
    exact IsTrans.trans _ _ _ hfirst (hf a mid)

theorem Within.tryCatch [IsTrans σ R] {x : Raising σ ε α} {handler : ε → Raising σ ε α} (hx : x.Within R)
    (hhandler : ∀ e, (handler e).Within R) : (tryCatch x handler).Within R := by
  intro s
  have hfirst := hx s
  rw [call_tryCatch]
  rcases hcall : x.call s with ⟨e | a, mid⟩
  · rw [hcall] at hfirst
    exact IsTrans.trans _ _ _ hfirst (hhandler e mid)
  · rwa [hcall] at hfirst

theorem Within.foldlM [Std.Refl R] [IsTrans σ R] {f : β → α → Raising σ ε β} {xs : List α}
    (hf : ∀ b, ∀ a ∈ xs, (f b a).Within R) (b : β) : (xs.foldlM f b).Within R := by
  induction xs generalizing b with
  | nil => exact .pure b
  | cons a rest ih =>
    rw [List.foldlM_cons]
    apply Within.bind (hf b a List.mem_cons_self)
    intro b'
    exact ih (fun b a ha => hf b a (List.mem_cons_of_mem _ ha)) b'

end Within

/-- A handler that raises again changes nothing. -/
theorem call_tryCatch_throw (x : Raising σ ε α) (s : σ) : (tryCatch x throw : Raising σ ε α).call s = x.call s := by
  rw [call_tryCatch]
  rcases x.call s with ⟨e | a, s'⟩ <;> rfl

section Follows

variable {η : Type} {log : σ → List η} {schedule rest : List η}

/-- What the call made in `s` adds to the log begins the schedule, and is all of it if the call returns. -/
def FollowsFrom (log : σ → List η) (x : Raising σ ε α) (s : σ) (schedule : List η) : Prop :=
  ∃ added, log (x.call s).2 = log s ++ added ∧ added <+: schedule ∧ ∀ a, (x.call s).1 = .ok a → added = schedule

def Follows (log : σ → List η) (x : Raising σ ε α) (schedule : List η) : Prop := ∀ s, x.FollowsFrom log s schedule

theorem Follows.of_silent {x : Raising σ ε α} (h : ∀ s, log (x.call s).2 = log s) : x.Follows log [] := by
  intro s
  refine ⟨[], ?_, List.prefix_rfl, fun _ _ => rfl⟩
  rw [List.append_nil]
  exact h s

theorem Follows.pure (a : α) : (pure a : Raising σ ε α).Follows log [] := .of_silent fun _ => rfl

/-- What raises has not come to the end of any schedule. -/
theorem Follows.throw (e : ε) (schedule : List η) : (throw e : Raising σ ε α).Follows log schedule := by
  intro s
  refine ⟨[], ?_, List.nil_prefix, nofun⟩
  rw [List.append_nil]
  rfl

theorem Follows.bind {x : Raising σ ε α} {f : α → Raising σ ε β} (hx : x.Follows log schedule)
    (hf : ∀ a, (f a).Follows log rest) : (x >>= f).Follows log (schedule ++ rest) := by
  intro s
  obtain ⟨added, hlog, hprefix, hall⟩ := hx s
  rw [FollowsFrom, call_bind]
  rcases hcall : x.call s with ⟨e | a, mid⟩
  · rw [hcall] at hlog
    exact ⟨added, hlog, hprefix.trans (List.prefix_append _ _), nofun⟩
  · rw [hcall] at hlog hall
    obtain rfl := hall a rfl
    obtain ⟨more, hmore, hmoreprefix, hmoreall⟩ := hf a mid
    dsimp only at hlog ⊢
    refine ⟨added ++ more, ?_, (List.prefix_append_right_inj added).mpr hmoreprefix, fun b hb => ?_⟩
    · rw [hmore, hlog, List.append_assoc]
    · rw [hmoreall b hb]

theorem Follows.bind_silent {x : Raising σ ε α} {f : α → Raising σ ε β} (hx : x.Follows log [])
    (hf : ∀ a, (f a).Follows log rest) : (x >>= f).Follows log rest := hx.bind hf

/-- What comes after a call and adds nothing. -/
theorem Follows.bind_of_silent {x : Raising σ ε α} {f : α → Raising σ ε β} (hx : x.Follows log schedule)
    (hf : ∀ a, (f a).Follows log []) : (x >>= f).Follows log schedule := by
  have hboth := hx.bind hf
  rw [List.append_nil] at hboth
  exact hboth

/-- A loop follows the schedules of its turns, one after the other. -/
theorem Follows.foldlM {f : β → α → Raising σ ε β} {turn : α → List η} {xs : List α}
    (hf : ∀ b a, (f b a).Follows log (turn a)) (b : β) : (xs.foldlM f b).Follows log (xs.flatMap turn) := by
  induction xs generalizing b with
  | nil => exact .pure b
  | cons a rest ih =>
    rw [List.foldlM_cons, List.flatMap_cons]
    exact (hf b a).bind ih

end Follows

section Ensures

variable {P : Except ε α → σ → Prop}

/-- The call made in `s` ends with an outcome and in a state that are as `P` says. -/
def Ensures (x : Raising σ ε α) (s : σ) (P : Except ε α → σ → Prop) : Prop := P (x.call s).1 (x.call s).2

theorem Ensures.bind {x : Raising σ ε α} {f : α → Raising σ ε β} {Q : Except ε β → σ → Prop} {s : σ}
    (hx : x.Ensures s P) (hok : ∀ a mid, P (.ok a) mid → (f a).Ensures mid Q)
    (herror : ∀ e s', P (.error e) s' → Q (.error e) s') : (x >>= f).Ensures s Q := by
  unfold Ensures at hx ⊢
  rw [call_bind]
  rcases hcall : x.call s with ⟨e | a, mid⟩
  · rw [hcall] at hx
    exact herror e mid hx
  · rw [hcall] at hx
    exact hok a mid hx

/-- A loop each turn of which goes on from where the one before it may have returned. -/
theorem Ensures.foldlM {f : α → τ → Raising σ ε α} {xs : List τ}
    (hf : ∀ a t s, P (.ok a) s → (f a t).Ensures s P) {a : α} {s : σ} (hs : P (.ok a) s) :
    (xs.foldlM f a).Ensures s P := by
  induction xs generalizing a s with
  | nil => exact hs
  | cons t rest ih =>
    rw [List.foldlM_cons]
    apply (hf a t s hs).bind
    · intro a' mid hmid
      exact ih hmid
    · exact fun _ _ h => h

end Ensures

/-- The same code on a state that has another component. -/
def onFst (x : Raising σ ε α) : Raising (σ × τ) ε α :=
  fun (s, t) =>
    let (r, s') := x.call s
    (r, (s', t))

/-- Two computations whose calls are the same. -/
theorem ext_call {x y : Raising σ ε α} (h : ∀ s, x.call s = y.call s) : x = y := funext h

theorem call_onFst (x : Raising σ ε α) (s : σ) (t : τ) :
    (onFst x).call (s, t) = ((x.call s).1, ((x.call s).2, t)) := rfl

/-- If the call raises, the part of the state that `view` shows is what it was before. -/
def FailsCleanly (view : σ → τ) (x : Raising σ ε α) (s : σ) : Prop :=
  ∀ e, (x.call s).1 = .error e → view (x.call s).2 = view s

theorem FailsCleanly.of_ok {view : σ → τ} {x : Raising σ ε α} {s : σ} {a : α}
    (h : (x.call s).1 = .ok a) : x.FailsCleanly view s := by
  intro e he
  rw [h] at he
  cases he

theorem FailsCleanly.of_view_eq {view : σ → τ} {x : Raising σ ε α} {s : σ}
    (h : view (x.call s).2 = view s) : x.FailsCleanly view s :=
  fun _ _ => h

/-- A first part that leaves the view alone adds no failure of its own. -/
theorem failsCleanly_bind_iff {view : σ → τ} {x : Raising σ ε α} {f : α → Raising σ ε β} {s s' : σ} {a : α}
    (h : x.call s = (.ok a, s')) (hview : view s' = view s) :
    (x >>= f).FailsCleanly view s ↔ (f a).FailsCleanly view s' := by
  unfold FailsCleanly
  rw [call_bind_ok h, hview]

theorem failsCleanly_bind_of_error {view : σ → τ} {x : Raising σ ε α} {f : α → Raising σ ε β} {s s' : σ} {e : ε}
    (h : x.call s = (.error e, s')) (hview : view s' = view s) : (x >>= f).FailsCleanly view s := by
  refine .of_view_eq ?_
  rw [call_bind_error h]
  exact hview

end Raising
