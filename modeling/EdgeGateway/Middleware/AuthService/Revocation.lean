import EdgeGateway.Middleware.AuthService.ApiKeys

open gateway.middleware

namespace gateway.api_keys

/-- How far a call has come. -/
inductive Stage where
  | creating (name role key_id raw_key : String)
  | indexing (name role key_id raw_key : String)
  | verifying (api_key : String)
  | revoking (key_id : String)
  | deleting (key_id raw_key : String)
  | validating (api_key : String)

def Call.stage : Call → Stage
  | .create_api_key name role key_id raw_key => .creating name role key_id raw_key
  | .verify_api_key api_key => .verifying api_key
  | .revoke_api_key key_id => .revoking key_id
  | .validate_api_key api_key => .validating api_key

namespace Stage

/-- The command that the call sends next. -/
def command : Stage → Command
  | .creating name role key_id raw_key => .set (api_key_entry raw_key) (metadata key_id name role)
  | .indexing _ _ key_id raw_key => .set (index_entry key_id) raw_key
  | .verifying api_key | .validating api_key => .get (api_key_entry api_key)
  | .revoking key_id => .get (index_entry key_id)
  | .deleting key_id raw_key => .delete [api_key_entry raw_key, index_entry key_id]

/-- Where the call is after its command was carried out in this state of Redis. -/
def next (redis : RedisKeyspace) : Stage → Option Stage
  | .creating name role key_id raw_key => some (.indexing name role key_id raw_key)
  | .revoking key_id => (redis.get? (index_entry key_id)).map (.deleting key_id)
  | .indexing _ _ _ _ | .verifying _ | .deleting _ _ | .validating _ => none

/-- Where the call is after its command has met its fate. -/
def after (redis : RedisKeyspace) (stage : Stage) : Fate → Option Stage
  | .done => stage.next redis
  | .refused _ | .lost _ => none

variable (env : authentication.Env)

/-- What the call has still to do. -/
def program : Stage → Operation Result
  | .creating name role key_id raw_key => (Call.create_api_key name role key_id raw_key).operation env
  | .indexing name role key_id raw_key => do
    let api_key ← (do
      redis.set (index_entry key_id) raw_key
      return { key_id, api_key := raw_key, name, role } : Operation ApiKey)
    return .created api_key
  | .verifying api_key => (Call.verify_api_key api_key).operation env
  | .revoking key_id => (Call.revoke_api_key key_id).operation env
  | .deleting key_id raw_key => do
    let deleted ← (do
      redis.delete [api_key_entry raw_key, index_entry key_id]
      return true : Operation Bool)
    return .revoked key_id deleted
  | .validating api_key => (Call.validate_api_key api_key).operation env

/-- The call has returned, and has neither revoked nor accepted a key. -/
def Ended (rest : Operation Result) : Prop :=
  ∃ a, rest = .ret a ∧ (∀ key_id, a ≠ .ok (.revoked key_id true)) ∧ ∀ identity, a ≠ .ok (.validated (some identity))

/-- When Redis answers, the middleware raises nothing. -/
theorem validate_api_key_ok (redis : RedisKeyspace) (api_key : String) :
    authentication.validate_api_key (reading env fun _ => .ok (redis.get? (api_key_entry api_key))) api_key =
      .ok (accepted env redis api_key) := by
  have hok : ∃ identity, authentication.validate_api_key (reading env fun key => .ok (redis.get? key)) api_key =
      .ok identity := by
    simp only [authentication.validate_api_key, reading]
    cases redis.get? ("apikey:" ++ api_key) with
    | none => exact ⟨_, rfl⟩
    | some data =>
      dsimp only
      cases loads data >>= authentication.api_key_identity with
      | error e => exact ⟨_, rfl⟩
      | ok identity => exact ⟨_, rfl⟩
  obtain ⟨identity, hidentity⟩ := hok
  have haccepted : accepted env redis api_key = identity := by
    rw [accepted, hidentity]
    rfl
  rw [haccepted]
  exact hidentity

theorem ended_error (e : PyBaseException) : Ended (.ret (.error e)) := by
  refine ⟨_, rfl, ?_, ?_⟩
  · rintro key_id ⟨⟩
  · rintro identity ⟨⟩

/-- A call sends its command, ends if that raises, and goes on to its next stage otherwise. -/
theorem program_spec (stage : Stage) :
    ∃ rest, stage.program env = .perform stage.command rest ∧ (∀ e, Ended (rest (.error e))) ∧
      (∀ redis later, stage.next redis = some later → rest (.ok (stage.command.execute redis).2) = later.program env) ∧
      (∀ redis, stage.next redis = none →
        Ended (rest (.ok (stage.command.execute redis).2)) ∨
          (∃ key_id raw_key, stage = .deleting key_id raw_key ∧
            rest (.ok (stage.command.execute redis).2) = .ret (.ok (.revoked key_id true))) ∨
          ∃ api_key, stage = .validating api_key ∧
            rest (.ok (stage.command.execute redis).2) = .ret (.ok (.validated (accepted env redis api_key)))) := by
  cases stage with
  | creating name role key_id raw_key =>
    refine ⟨_, rfl, fun e => ended_error e, ?_, ?_⟩
    · intro redis later hnext
      cases hnext
      rfl
    · intro redis hnext
      cases hnext
  | indexing name role key_id raw_key =>
    refine ⟨_, rfl, fun e => ended_error e, ?_, ?_⟩
    · intro redis later hnext
      cases hnext
    · intro redis hnext
      refine .inl ⟨_, rfl, ?_, ?_⟩
      · rintro id ⟨⟩
      · rintro identity ⟨⟩
  | verifying api_key =>
    refine ⟨_, rfl, fun e => ended_error e, ?_, ?_⟩
    · intro redis later hnext
      cases hnext
    · intro redis hnext
      left
      simp only [command, Command.execute]
      cases redis.get? (api_key_entry api_key) with
      | none =>
        refine ⟨_, rfl, ?_, ?_⟩
        · rintro id ⟨⟩
        · rintro identity ⟨⟩
      | some data =>
        refine ⟨(loads data).mapError PyBaseException.exception |>.map fun value => .verified (some value), ?_, ?_, ?_⟩
        · simp only [Program.bind, ExceptT.bindCont]
          cases loads data <;> rfl
        · cases loads data <;> rintro id ⟨⟩
        · cases loads data <;> rintro identity ⟨⟩
  | revoking key_id =>
    refine ⟨_, rfl, fun e => ended_error e, ?_, ?_⟩
    · intro redis later hnext
      obtain ⟨raw_key, hget, rfl⟩ := Option.map_eq_some_iff.mp hnext
      simp only [command, Command.execute, hget]
      rfl
    · intro redis hnext
      have hget := Option.map_eq_none_iff.mp hnext
      simp only [command, Command.execute, hget]
      refine .inl ⟨_, rfl, ?_, ?_⟩
      · rintro id ⟨⟩
      · rintro identity ⟨⟩
  | deleting key_id raw_key =>
    refine ⟨_, rfl, fun e => ended_error e, ?_, ?_⟩
    · intro redis later hnext
      cases hnext
    · intro redis hnext
      exact .inr (.inl ⟨key_id, raw_key, rfl, rfl⟩)
  | validating api_key =>
    refine ⟨_, rfl, ?_, ?_, ?_⟩
    · intro e
      cases e with
      | exception e =>
        refine ⟨_, rfl, ?_, ?_⟩
        · rintro key_id ⟨⟩
        · rintro identity ⟨⟩
      | cancelled => exact ended_error .cancelled
    · intro redis later hnext
      cases hnext
    · intro redis hnext
      refine .inr (.inr ⟨api_key, rfl, ?_⟩)
      simp only [command, Command.execute, Program.bind, validate_api_key_ok env redis api_key]
      rfl

end Stage

/-- The stages of the threads, which tell what they have still to do. -/
def Follows (env : authentication.Env) (s : State) (stages : ℕ → Option Stage) : Prop :=
  ∀ t, s.threads t = (stages t).map (Stage.program env)

/-- What a step makes of Redis and of the stages. -/
inductive Moves (env : authentication.Env) (shared : Shared) (stages : ℕ → Option Stage) :
    Action → Shared → (ℕ → Option Stage) → Prop where
  | start {t : ℕ} {call : Call} {shared' : Shared} (hfree : stages t = none)
      (hstart : shared.start env call = some (shared', call.operation env)) :
      Moves env shared stages (.start t call) shared' (Function.update stages t (some call.stage))
  | perform {t : ℕ} {stage : Stage} (fate : Fate) (hstage : stages t = some stage) :
      Moves env shared stages (.perform t fate) (shared.perform stage.command fate).1
        (Function.update stages t (stage.after shared.redis fate))

section Steps

variable {env : authentication.Env} {s s' : State} {stages : ℕ → Option Stage} {t : ℕ}

theorem Follows.stage (hf : Follows env s stages) {command : Command} {next : command.Outcome → Operation Result}
    (hthread : s.threads t = some (.perform command next)) :
    ∃ stage, stages t = some stage ∧ stage.program env = .perform command next := by
  rw [hf t] at hthread
  exact Option.map_eq_some_iff.mp hthread

/-- A thread that is settled at the program of a stage is at this stage. -/
theorem Follows.settle (hf : Follows env s stages) {shared : Shared} (stage : Stage) :
    Follows env ((threads env).settle s t shared (stage.program env)) (Function.update stages t (some stage)) := by
  intro u
  obtain ⟨rest, hprogram, -⟩ := stage.program_spec env
  by_cases hu : u = t
  · subst hu
    rw [Function.update_self, Option.map_some, hprogram]
    exact Function.update_self ..
  · rw [Function.update_of_ne hu, Threads.threads_settle_of_ne hu]
    exact hf u

theorem Follows.settle_ret (hf : Follows env s stages) {shared : Shared} {a : Except PyBaseException Result} :
    Follows env ((threads env).settle s t shared (.ret a)) (Function.update stages t none) := by
  intro u
  by_cases hu : u = t
  · subst hu
    rw [Function.update_self]
    exact Function.update_self ..
  · rw [Function.update_of_ne hu, Threads.threads_settle_of_ne hu]
    exact hf u

theorem start_operation {shared shared' : Shared} {call : Call} {p : Operation Result}
    (h : shared.start env call = some (shared', p)) : p = call.operation env := by
  cases call with
  | create_api_key name role key_id raw_key =>
    simp only [Shared.start, Option.ite_none_right_eq_some, Option.some.injEq, Prod.mk.injEq] at h
    exact h.2.2.symm
  | verify_api_key api_key | revoke_api_key key_id | validate_api_key api_key =>
    cases h
    rfl

theorem program_stage (env : authentication.Env) (call : Call) : call.stage.program env = call.operation env := by
  cases call <;> rfl

theorem shared_settle (shared : Shared) (p : Operation Result) : ((threads env).settle s t shared p).shared = shared := by
  cases p <;> rfl

/-- What a step can do. -/
theorem Follows.step (hf : Follows env s stages) {a : Action} (h : (threads env).step s a = some s') :
    ∃ stages', Follows env s' stages' ∧ Moves env s.shared stages a s'.shared stages' := by
  cases a with
  | start t call =>
    obtain ⟨hfree, shared, p, hstart, rfl⟩ := Threads.step_start h
    obtain rfl := start_operation hstart
    have hnone : stages t = none := Option.map_eq_none_iff.mp ((hf t).symm.trans hfree)
    rw [shared_settle, ← program_stage]
    exact ⟨_, hf.settle call.stage, .start hnone hstart⟩
  | perform t fate =>
    obtain ⟨command, next, shared, outcome, hthread, hperform, rfl⟩ := Threads.step_perform h
    obtain ⟨stage, hstage, hprogram⟩ := hf.stage hthread
    obtain ⟨rest, hspec, herror, hnext, hlast⟩ := stage.program_spec env
    rw [hspec] at hprogram
    cases hprogram
    rw [shared_settle]
    have heq : s.shared.perform stage.command fate = (shared, outcome) := Option.some.inj hperform
    obtain rfl : (s.shared.perform stage.command fate).1 = shared := congrArg Prod.fst heq
    obtain rfl : (s.shared.perform stage.command fate).2 = outcome := congrArg Prod.snd heq
    refine ⟨_, ?_, .perform fate hstage⟩
    cases fate with
    | done =>
      simp only [Stage.after, Shared.perform]
      cases hlater : stage.next s.shared.redis with
      | some later =>
        rw [hnext _ later hlater]
        exact hf.settle later
      | none =>
        obtain ⟨a, hret, -⟩ | ⟨key_id, raw_key, -, hret⟩ | ⟨api_key, -, hret⟩ := hlast _ hlater
        · rw [hret]
          exact hf.settle_ret
        · rw [hret]
          exact hf.settle_ret
        · rw [hret]
          exact hf.settle_ret
    | refused e | lost e =>
      obtain ⟨a, hret, -⟩ := herror e
      simp only [Shared.perform, hret]
      exact hf.settle_ret
  | abort t =>
    obtain ⟨p, shared, -, habort, -⟩ := Threads.step_abort h
    cases habort

/-- Only the deletion of a key returns that the key was revoked, and only a validation returns
an identity. -/
theorem Follows.returned (hf : Follows env s stages) {fate : Fate} {a : Except PyBaseException Result}
    (h : (threads env).returned s t fate = some a) :
    ((∀ key_id, a ≠ .ok (.revoked key_id true)) ∧ ∀ identity, a ≠ .ok (.validated (some identity))) ∨
      (fate = .done ∧ ∃ key_id raw_key, stages t = some (.deleting key_id raw_key) ∧ a = .ok (.revoked key_id true)) ∨
      ∃ api_key, stages t = some (.validating api_key) ∧ a = .ok (.validated (accepted env s.shared.redis api_key)) := by
  obtain ⟨command, next, shared, outcome, hthread, hperform, hret⟩ := Threads.perform_of_returned h
  obtain ⟨stage, hstage, hprogram⟩ := hf.stage hthread
  obtain ⟨rest, hspec, herror, hnext, hlast⟩ := stage.program_spec env
  rw [hspec] at hprogram
  cases hprogram
  cases fate with
  | done =>
    cases hperform
    cases hlater : stage.next s.shared.redis with
    | some later =>
      rw [hnext _ later hlater] at hret
      obtain ⟨rest', hspec', -⟩ := later.program_spec env
      rw [hspec'] at hret
      cases hret
    | none =>
      obtain ⟨a, hended, hne⟩ | ⟨key_id, raw_key, rfl, hended⟩ | ⟨api_key, rfl, hended⟩ := hlast _ hlater
      · rw [hended] at hret
        cases hret
        exact .inl hne
      · rw [hended] at hret
        cases hret
        exact .inr (.inl ⟨rfl, key_id, raw_key, hstage, rfl⟩)
      · rw [hended] at hret
        cases hret
        exact .inr (.inr ⟨api_key, hstage, rfl⟩)
  | refused e | lost e =>
    cases hperform
    obtain ⟨a, hended, hne⟩ := herror e
    rw [hended] at hret
    cases hret
    exact .inl hne

end Steps

section Entries

@[simp] theorem api_key_entry_inj {raw_key other : String} : api_key_entry raw_key = api_key_entry other ↔ raw_key = other := by
  simp [api_key_entry]

@[simp] theorem index_entry_inj {key_id other : String} : index_entry key_id = index_entry other ↔ key_id = other := by
  simp [index_entry]

@[simp] theorem api_key_entry_ne_index_entry (raw_key key_id : String) : api_key_entry raw_key ≠ index_entry key_id := by
  intro h
  have hchars := congrArg String.toList h
  simp [api_key_entry, index_entry] at hchars

@[simp] theorem index_entry_ne_api_key_entry (raw_key key_id : String) : index_entry key_id ≠ api_key_entry raw_key :=
  (api_key_entry_ne_index_entry raw_key key_id).symm

/-- The metadata of a key is read back. -/
theorem loads_metadata (key_id name role : String) :
    loads (metadata key_id name role) =
      .ok (.dict [("key_id", .str key_id), ("name", .str name), ("role", .str role)]) := by
  have hread : JsonText.loads (metadata key_id name role) =
      some (.dict [("key_id", .str key_id), ("name", .str name), ("role", .str role)]) := by
    unfold metadata
    rw [JsonText.loads_dumps (by simp) (by simp)]
    rfl
  simp only [loads, hread]

theorem metadata_key_id {key_id name role key_id' name' role' : String}
    (h : metadata key_id name role = metadata key_id' name' role') : key_id = key_id' := by
  have hloads := congrArg loads h
  rw [loads_metadata, loads_metadata] at hloads
  simp only [Except.ok.injEq, JsonValue.dict.injEq, List.cons.injEq, Prod.mk.injEq, JsonValue.str.injEq] at hloads
  exact hloads.1.2

variable {redis : RedisKeyspace} {stage : Stage} {raw_key key_id data : String}

/-- Only the creation of a key writes its metadata. -/
theorem entry_execute (h : (stage.command.execute redis).1.get? (api_key_entry raw_key) = some data) :
    redis.get? (api_key_entry raw_key) = some data ∨
      ∃ name role key_id, stage = .creating name role key_id raw_key ∧ data = metadata key_id name role := by
  cases stage with
  | creating name role key_id other =>
    simp only [Stage.command, Command.execute, Dict.get?_set, api_key_entry_inj] at h
    split at h
    · rename_i heq
      subst heq
      cases h
      exact .inr ⟨name, role, key_id, rfl, rfl⟩
    · exact .inl h
  | deleting key_id other =>
    simp only [Stage.command, Command.execute, List.foldl_cons, List.foldl_nil, Dict.get?_erase, api_key_entry_inj,
      api_key_entry_ne_index_entry, if_false, Option.ite_none_left_eq_some] at h
    exact .inl h.2
  | indexing name role key_id other =>
    simp only [Stage.command, Command.execute, Dict.get?_set, api_key_entry_ne_index_entry, if_false] at h
    exact .inl h
  | verifying api_key | revoking key_id | validating api_key => exact .inl h

/-- Only the creation of a key writes its index entry. -/
theorem index_execute (h : (stage.command.execute redis).1.get? (index_entry key_id) = some raw_key) :
    redis.get? (index_entry key_id) = some raw_key ∨ ∃ name role, stage = .indexing name role key_id raw_key := by
  cases stage with
  | indexing name role other raw_key' =>
    simp only [Stage.command, Command.execute, Dict.get?_set, index_entry_inj] at h
    split at h
    · rename_i heq
      subst heq
      cases h
      exact .inr ⟨name, role, rfl⟩
    · exact .inl h
  | deleting other raw_key' =>
    simp only [Stage.command, Command.execute, List.foldl_cons, List.foldl_nil, Dict.get?_erase, index_entry_inj,
      index_entry_ne_api_key_entry, if_false, Option.ite_none_left_eq_some] at h
    exact .inl h.2
  | creating name role other raw_key' =>
    simp only [Stage.command, Command.execute, Dict.get?_set, index_entry_ne_api_key_entry, if_false] at h
    exact .inl h
  | verifying api_key | revoking other | validating api_key => exact .inl h

/-- An index entry stays until its key is deleted, or is written again. -/
theorem execute_index (stage : Stage) (h : redis.get? (index_entry key_id) = some raw_key) :
    (stage.command.execute redis).1.get? (index_entry key_id) = some raw_key ∨
      (∃ other, stage = .deleting key_id other ∧ (stage.command.execute redis).1.get? (api_key_entry other) = none) ∨
      ∃ name role other, stage = .indexing name role key_id other ∧
        (stage.command.execute redis).1.get? (index_entry key_id) = some other := by
  cases stage with
  | indexing name role other raw_key' =>
    by_cases heq : other = key_id
    · subst heq
      exact .inr (.inr ⟨name, role, raw_key', rfl, Dict.get?_set_self ..⟩)
    · simp only [Stage.command, Command.execute, Dict.get?_set, index_entry_inj, if_neg (Ne.symm heq)]
      exact .inl h
  | deleting other raw_key' =>
    by_cases heq : other = key_id
    · subst heq
      refine .inr (.inl ⟨raw_key', rfl, ?_⟩)
      simp [Stage.command, Command.execute, Dict.get?_erase]
    · left
      simp only [Stage.command, Command.execute, List.foldl_cons, List.foldl_nil, Dict.get?_erase, index_entry_inj,
        index_entry_ne_api_key_entry, if_false, if_neg (Ne.symm heq)]
      exact h
  | creating name role other raw_key' =>
    simp only [Stage.command, Command.execute, Dict.get?_set, index_entry_ne_api_key_entry, if_false]
    exact .inl h
  | verifying api_key | revoking other | validating api_key => exact .inl h

end Entries

/-- The key id and the raw key that a call is creating. -/
def Stage.key? : Stage → Option (String × String)
  | .creating _ _ key_id raw_key | .indexing _ _ key_id raw_key => some (key_id, raw_key)
  | .verifying _ | .revoking _ | .deleting _ _ | .validating _ => none

def Creates (stages : ℕ → Option Stage) (t : ℕ) (key : String × String) : Prop :=
  ∃ stage, stages t = some stage ∧ stage.key? = some key

/-- The key has been generated, and no call is creating it any more. -/
def Settled (shared : Shared) (stages : ℕ → Option Stage) (key : String × String) : Prop :=
  key ∈ shared.issued ∧ ∀ t, ¬ Creates stages t key

/-- What Redis has of API keys was generated, no id and no raw key twice. -/
structure Consistent (shared : Shared) : Prop where
  paired : ∀ key ∈ shared.issued, ∀ other ∈ shared.issued, key.1 = other.1 ↔ key.2 = other.2
  entry : ∀ {raw_key data}, shared.redis.get? (api_key_entry raw_key) = some data →
    ∃ name role key_id, data = metadata key_id name role ∧ (key_id, raw_key) ∈ shared.issued
  index : ∀ {key_id raw_key}, shared.redis.get? (index_entry key_id) = some raw_key → (key_id, raw_key) ∈ shared.issued

/-- A key is created by one call, and indexed and deleted only after that. -/
structure Owned (shared : Shared) (stages : ℕ → Option Stage) : Prop extends Consistent shared where
  issued : ∀ {t key}, Creates stages t key → key ∈ shared.issued
  unique : ∀ {t u key}, Creates stages t key → Creates stages u key → t = u
  indexed : ∀ {key_id raw_key}, shared.redis.get? (index_entry key_id) = some raw_key →
    ∀ t, ¬ Creates stages t (key_id, raw_key)
  deleting : ∀ {t key_id raw_key}, stages t = some (.deleting key_id raw_key) → Settled shared stages (key_id, raw_key)

section Moves

variable {env : authentication.Env} {shared shared' : Shared} {stages stages' : ℕ → Option Stage} {a : Action}

theorem fresh_iff {key_id raw_key : String} :
    shared.fresh key_id raw_key = true ↔ ∀ key ∈ shared.issued, key.1 ≠ key_id ∧ key.2 ≠ raw_key := by
  simp [Shared.fresh, List.all_eq_true]

/-- A call creates a fresh key, or none. -/
theorem start_cases {call : Call} {p : Operation Result} (h : shared.start env call = some (shared', p)) :
    (shared' = shared ∧ call.stage.key? = none) ∨
      ∃ name role key_id raw_key, call = .create_api_key name role key_id raw_key ∧
        shared.fresh key_id raw_key = true ∧ shared' = { shared with issued := (key_id, raw_key) :: shared.issued } := by
  cases call with
  | create_api_key name role key_id raw_key =>
    simp only [Shared.start, Option.ite_none_right_eq_some, Option.some.injEq, Prod.mk.injEq] at h
    exact .inr ⟨name, role, key_id, raw_key, rfl, h.1, h.2.1.symm⟩
  | verify_api_key api_key | revoke_api_key key_id | validate_api_key api_key =>
    cases h
    exact .inl ⟨rfl, rfl⟩

theorem start_redis {call : Call} {p : Operation Result} (h : shared.start env call = some (shared', p)) :
    shared'.redis = shared.redis := by
  obtain ⟨rfl, -⟩ | ⟨name, role, key_id, raw_key, -, -, rfl⟩ := start_cases h
  · rfl
  · rfl

theorem perform_issued (command : Command) (fate : Fate) : (shared.perform command fate).1.issued = shared.issued := by
  cases fate <;> rfl

/-- A command is carried out or not. -/
theorem perform_redis (command : Command) (fate : Fate) :
    (shared.perform command fate).1.redis = shared.redis ∨
      (∀ e, fate ≠ .refused e) ∧ (shared.perform command fate).1.redis = (command.execute shared.redis).1 := by
  cases fate with
  | done | lost e => exact .inr ⟨nofun, rfl⟩
  | refused e => exact .inl rfl

theorem Stage.key?_after {redis : RedisKeyspace} {stage later : Stage} {fate : Fate} {key : String × String}
    (h : stage.after redis fate = some later) (hkey : later.key? = some key) : stage.key? = some key := by
  cases fate with
  | refused e | lost e => cases h
  | done =>
    cases stage with
    | creating name role key_id raw_key =>
      cases h
      exact hkey
    | revoking key_id =>
      obtain ⟨raw_key, -, rfl⟩ := Option.map_eq_some_iff.mp h
      cases hkey
    | indexing name role key_id raw_key => cases h
    | verifying api_key | deleting key_id raw_key | validating api_key => cases h

namespace Moves

/-- A fresh key has been generated, or none. -/
theorem issued_cases (h : Moves env shared stages a shared' stages') :
    shared'.issued = shared.issued ∨
      ∃ key, shared.fresh key.1 key.2 = true ∧ shared'.issued = key :: shared.issued := by
  cases h with
  | start hfree hstart =>
    obtain ⟨rfl, -⟩ | ⟨name, role, key_id, raw_key, -, hfresh, rfl⟩ := start_cases hstart
    · exact .inl rfl
    · exact .inr ⟨(key_id, raw_key), hfresh, rfl⟩
  | perform fate hstage => exact .inl (perform_issued _ fate)

theorem issued (h : Moves env shared stages a shared' stages') {key : String × String} (hkey : key ∈ shared.issued) :
    key ∈ shared'.issued := by
  obtain hsame | ⟨fresh, -, hissued⟩ := h.issued_cases
  · rwa [hsame]
  · rw [hissued]
    exact List.mem_cons_of_mem _ hkey

/-- A call goes on with the key that it is creating, or starts with a fresh one. -/
theorem creates (h : Moves env shared stages a shared' stages') {u : ℕ} {key : String × String}
    (hkey : Creates stages' u key) :
    Creates stages u key ∨
      (∃ call, a = .start u call) ∧ shared.fresh key.1 key.2 = true ∧ shared'.issued = key :: shared.issued := by
  obtain ⟨later, hlater, hkey⟩ := hkey
  cases h with
  | start hfree hstart =>
    obtain ⟨rfl, hstage⟩ | ⟨-, hold⟩ := Threads.update_threads_cases hlater
    · cases hstage
      obtain ⟨-, hnone⟩ | ⟨name, role, key_id, raw_key, rfl, hfresh, rfl⟩ := start_cases hstart
      · rw [hnone] at hkey
        cases hkey
      · cases hkey
        exact .inr ⟨⟨_, rfl⟩, hfresh, rfl⟩
    · exact .inl ⟨later, hold, hkey⟩
  | perform fate hstage =>
    obtain ⟨rfl, hafter⟩ | ⟨-, hold⟩ := Threads.update_threads_cases hlater
    · exact .inl ⟨_, hstage, Stage.key?_after hafter hkey⟩
    · exact .inl ⟨later, hold, hkey⟩

/-- An entry of Redis was there, or is the metadata of a key that is created. -/
theorem entry (h : Moves env shared stages a shared' stages') {raw_key data : String}
    (hentry : shared'.redis.get? (api_key_entry raw_key) = some data) :
    shared.redis.get? (api_key_entry raw_key) = some data ∨
      ∃ t fate name role key_id, a = .perform t fate ∧ (∀ e, fate ≠ .refused e) ∧
        stages t = some (.creating name role key_id raw_key) ∧ data = metadata key_id name role := by
  cases h with
  | start hfree hstart =>
    rw [start_redis hstart] at hentry
    exact .inl hentry
  | @perform t stage fate hstage =>
    obtain hredis | ⟨hcarried, hredis⟩ := perform_redis stage.command fate
    · rw [hredis] at hentry
      exact .inl hentry
    · rw [hredis] at hentry
      obtain hold | ⟨name, role, key_id, rfl, hdata⟩ := entry_execute hentry
      · exact .inl hold
      · exact .inr ⟨t, fate, name, role, key_id, rfl, hcarried, hstage, hdata⟩

/-- An index entry of Redis was there, or ends the creation of its key. -/
theorem index (h : Moves env shared stages a shared' stages') {key_id raw_key : String}
    (hindex : shared'.redis.get? (index_entry key_id) = some raw_key) :
    shared.redis.get? (index_entry key_id) = some raw_key ∨
      ∃ t, Creates stages t (key_id, raw_key) ∧ ¬ Creates stages' t (key_id, raw_key) := by
  cases h with
  | start hfree hstart =>
    rw [start_redis hstart] at hindex
    exact .inl hindex
  | @perform t stage fate hstage =>
    obtain hredis | ⟨-, hredis⟩ := perform_redis stage.command fate
    · rw [hredis] at hindex
      exact .inl hindex
    · rw [hredis] at hindex
      obtain hold | ⟨name, role, rfl⟩ := index_execute hindex
      · exact .inl hold
      · refine .inr ⟨t, ⟨_, hstage, rfl⟩, ?_⟩
        rintro ⟨later, hlater, -⟩
        rw [Function.update_self] at hlater
        cases fate <;> cases hlater

/-- A call deletes a key that it has found in the index. -/
theorem deleting (h : Moves env shared stages a shared' stages') {u : ℕ} {key_id raw_key : String}
    (hlater : stages' u = some (.deleting key_id raw_key)) :
    stages u = some (.deleting key_id raw_key) ∨ shared.redis.get? (index_entry key_id) = some raw_key := by
  cases h with
  | @start t call _ hfree hstart =>
    obtain ⟨-, hstage⟩ | ⟨-, hold⟩ := Threads.update_threads_cases hlater
    · cases call <;> cases hstage
    · exact .inl hold
  | @perform t stage fate hstage =>
    obtain ⟨-, hafter⟩ | ⟨-, hold⟩ := Threads.update_threads_cases hlater
    · cases fate with
      | refused e | lost e => cases hafter
      | done =>
        cases stage with
        | revoking other =>
          obtain ⟨found, hget, heq⟩ := Option.map_eq_some_iff.mp hafter
          cases heq
          exact .inr hget
        | creating name role other raw_key => cases hafter
        | indexing name role other raw_key => cases hafter
        | verifying api_key | deleting other raw_key | validating api_key => cases hafter
    · exact .inl hold

/-- The creation of a key is over for good. -/
theorem settled (h : Moves env shared stages a shared' stages') {key : String × String}
    (hkey : Settled shared stages key) : Settled shared' stages' key := by
  refine ⟨h.issued hkey.1, fun u hcreates => ?_⟩
  obtain hold | ⟨-, hfresh, -⟩ := h.creates hcreates
  · exact hkey.2 u hold
  · exact (fresh_iff.mp hfresh key hkey.1).1 rfl

theorem owned (h : Moves env shared stages a shared' stages') (ho : Owned shared stages) : Owned shared' stages' where
  paired := by
    obtain hsame | ⟨key, hfresh, hissued⟩ := h.issued_cases
    · rw [hsame]
      exact ho.paired
    · rw [hissued]
      have hnew := fresh_iff.mp hfresh
      intro key₁ hkey₁ key₂ hkey₂
      obtain rfl | hold₁ := List.mem_cons.mp hkey₁
      · obtain rfl | hold₂ := List.mem_cons.mp hkey₂
        · exact Iff.intro (fun _ => rfl) fun _ => rfl
        · exact iff_of_false (hnew key₂ hold₂).1.symm (hnew key₂ hold₂).2.symm
      · obtain rfl | hold₂ := List.mem_cons.mp hkey₂
        · exact iff_of_false (hnew key₁ hold₁).1 (hnew key₁ hold₁).2
        · exact ho.paired key₁ hold₁ key₂ hold₂
  entry := by
    intro raw_key data hentry
    obtain hold | ⟨t, fate, name, role, key_id, -, -, hstage, hdata⟩ := h.entry hentry
    · obtain ⟨name, role, key_id, hdata, hissued⟩ := ho.entry hold
      exact ⟨name, role, key_id, hdata, h.issued hissued⟩
    · exact ⟨name, role, key_id, hdata, h.issued (ho.issued ⟨_, hstage, rfl⟩)⟩
  index := by
    intro key_id raw_key hindex
    obtain hold | ⟨t, hcreates, -⟩ := h.index hindex
    · exact h.issued (ho.index hold)
    · exact h.issued (ho.issued hcreates)
  issued := by
    intro t key hcreates
    obtain hold | ⟨-, -, hissued⟩ := h.creates hcreates
    · exact h.issued (ho.issued hold)
    · rw [hissued]
      exact List.mem_cons_self
  unique := by
    intro t u key ht hu
    obtain hold_t | ⟨⟨call, rfl⟩, hfresh, -⟩ := h.creates ht
    · obtain hold_u | ⟨-, hfresh, -⟩ := h.creates hu
      · exact ho.unique hold_t hold_u
      · exact absurd rfl (fresh_iff.mp hfresh key (ho.issued hold_t)).1
    · obtain hold_u | ⟨⟨call', heq⟩, -, -⟩ := h.creates hu
      · exact absurd rfl (fresh_iff.mp hfresh key (ho.issued hold_u)).1
      · cases heq
        rfl
  indexed := by
    intro key_id raw_key hindex
    obtain hold | ⟨t, hcreates, hnot⟩ := h.index hindex
    · exact (h.settled ⟨ho.index hold, ho.indexed hold⟩).2
    · intro u hu
      obtain hold_u | ⟨-, hfresh, -⟩ := h.creates hu
      · obtain rfl := ho.unique hcreates hold_u
        exact hnot hu
      · exact absurd rfl (fresh_iff.mp hfresh _ (ho.issued hcreates)).1
  deleting := by
    intro t key_id raw_key hstage
    obtain hold | hindex := h.deleting hstage
    · exact h.settled (ho.deleting hold)
    · exact h.settled ⟨ho.index hindex, ho.indexed hindex⟩

end Moves

/-- A key that is in Redis can be found under its key id, or soon can. -/
def Indexed (shared : Shared) (stages : ℕ → Option Stage) : Prop :=
  ∀ {raw_key key_id name role}, shared.redis.get? (api_key_entry raw_key) = some (metadata key_id name role) →
    shared.redis.get? (index_entry key_id) = some raw_key ∨ ∃ t name role, stages t = some (.indexing name role key_id raw_key)

theorem Owned.raw_key_unique (ho : Owned shared stages) {raw_key other key_id : String}
    (h : (key_id, raw_key) ∈ shared.issued) (hother : (key_id, other) ∈ shared.issued) : raw_key = other :=
  (ho.paired _ h _ hother).mp rfl

/-- The index entry of a key stays as long as the key. -/
theorem Moves.index_kept (h : Moves env shared stages a shared' stages') (ho : Owned shared stages)
    {raw_key key_id : String} (hentry : shared'.redis.get? (api_key_entry raw_key) ≠ none)
    (hindex : shared.redis.get? (index_entry key_id) = some raw_key) :
    shared'.redis.get? (index_entry key_id) = some raw_key := by
  have hissued := ho.index hindex
  cases h with
  | start hfree hstart => rwa [start_redis hstart]
  | @perform t stage fate hstage =>
    obtain hredis | ⟨-, hredis⟩ := perform_redis stage.command fate
    · rwa [hredis]
    · rw [hredis] at hentry ⊢
      obtain hkept | ⟨other, rfl, hnone⟩ | ⟨name, role, other, rfl, hset⟩ := execute_index stage hindex
      · exact hkept
      · obtain rfl := ho.raw_key_unique hissued (ho.deleting hstage).1
        exact absurd hnone hentry
      · obtain rfl := ho.raw_key_unique hissued (ho.issued ⟨_, hstage, rfl⟩)
        exact hset

/-- A call that is about to write an index entry does so. -/
theorem Moves.indexing_kept (h : Moves env shared stages a shared' stages') {t : ℕ} {name role key_id raw_key : String}
    (hrefused : ∀ e, a ≠ .perform t (.refused e)) (hstage : stages t = some (.indexing name role key_id raw_key)) :
    shared'.redis.get? (index_entry key_id) = some raw_key ∨ stages' t = some (.indexing name role key_id raw_key) := by
  cases h with
  | @start u call _ hfree hstart =>
    right
    rw [Function.update_of_ne, hstage]
    rintro rfl
    rw [hfree] at hstage
    cases hstage
  | @perform u stage fate hother =>
    by_cases hu : t = u
    · subst hu
      obtain rfl := Option.some.inj (hstage.symm.trans hother)
      cases fate with
      | done | lost e => exact .inl (Dict.get?_set_self ..)
      | refused e => exact absurd rfl (hrefused e)
    · exact .inr (by rw [Function.update_of_ne hu, hstage])

/-- A key stays indexed unless its creation ends between its two commands. -/
theorem Moves.indexed (h : Moves env shared stages a shared' stages') (ho : Owned shared stages)
    (hlost : ∀ t e, a = .perform t (.lost e) → ∀ name role key_id raw_key,
      stages t ≠ some (.creating name role key_id raw_key))
    (hrefused : ∀ t e, a = .perform t (.refused e) → ∀ name role key_id raw_key,
      stages t ≠ some (.indexing name role key_id raw_key))
    (hi : Indexed shared stages) : Indexed shared' stages' := by
  intro raw_key key_id name role hentry
  obtain hold | ⟨t, fate, name', role', key_id', rfl, hcarried, hstage, hdata⟩ := h.entry hentry
  · obtain hindex | ⟨t, name', role', hstage⟩ := hi hold
    · left
      apply h.index_kept ho _ hindex
      rw [hentry]
      exact Option.some_ne_none _
    · obtain hset | hkept := h.indexing_kept (fun e heq => hrefused t e heq _ _ _ _ hstage) hstage
      · exact .inl hset
      · exact .inr ⟨t, name', role', hkept⟩
  · obtain rfl := metadata_key_id hdata
    right
    cases h with
    | perform _ hother =>
      obtain rfl := Option.some.inj (hstage.symm.trans hother)
      cases fate with
      | done => exact ⟨t, name', role', Function.update_self ..⟩
      | refused e => exact absurd rfl (hcarried e)
      | lost e => exact absurd hstage (hlost t e rfl _ _ _ _)

/-- The key of the id was created, and is not in Redis. -/
def Revoked (shared : Shared) (stages : ℕ → Option Stage) (key_id : String) : Prop :=
  ∃ raw_key, Settled shared stages (key_id, raw_key) ∧ shared.redis.get? (api_key_entry raw_key) = none

/-- No key comes back. -/
theorem Moves.revoked (h : Moves env shared stages a shared' stages') (ho : Owned shared stages) {key_id : String}
    (hr : Revoked shared stages key_id) : Revoked shared' stages' key_id := by
  obtain ⟨raw_key, hsettled, hnone⟩ := hr
  refine ⟨raw_key, h.settled hsettled, Option.eq_none_iff_forall_ne_some.mpr fun data hdata => ?_⟩
  obtain hold | ⟨t, fate, name, role, other, -, -, hstage, -⟩ := h.entry hdata
  · rw [hnone] at hold
    cases hold
  · have hcreates : Creates stages t (other, raw_key) := ⟨_, hstage, rfl⟩
    have hid : other = key_id := (ho.paired _ (ho.issued hcreates) _ hsettled.1).mpr rfl
    subst hid
    exact hsettled.2 t hcreates

theorem Moves.revoked_of_deleting {t : ℕ} (h : Moves env shared stages (.perform t .done) shared' stages')
    (ho : Owned shared stages) {key_id raw_key : String} (hstage : stages t = some (.deleting key_id raw_key)) :
    Revoked shared' stages' key_id := by
  refine ⟨raw_key, h.settled (ho.deleting hstage), ?_⟩
  cases h with
  | perform _ hother =>
    obtain rfl := Option.some.inj (hstage.symm.trans hother)
    simp [Shared.perform, Stage.command, Command.execute, Dict.get?_erase]

section Accepted

variable (env)

/-- A key whose metadata is in Redis is accepted. -/
theorem accepted_of_metadata {redis : RedisKeyspace} {raw_key key_id name role : String}
    (h : redis.get? (api_key_entry raw_key) = some (metadata key_id name role)) :
    accepted env redis raw_key =
      some { sub := .str name, role := .str role, auth_method := "api_key", key_id := some (.str key_id) } := by
  have hget : redis.get? ("apikey:" ++ raw_key) = some (metadata key_id name role) := h
  simp only [accepted, authentication.validate_api_key, reading, hget, loads_metadata]
  rfl

variable {env}

theorem accepted_entry {redis : RedisKeyspace} {raw_key : String} {identity : Identity}
    (h : accepted env redis raw_key = some identity) : ∃ data, redis.get? (api_key_entry raw_key) = some data := by
  apply Option.ne_none_iff_exists'.mp
  intro hnone
  have hget : redis.get? ("apikey:" ++ raw_key) = none := hnone
  simp only [accepted, authentication.validate_api_key, reading, hget] at h
  cases h

/-- An accepted key was generated, with the key id of its identity. -/
theorem Owned.of_accepted (ho : Owned shared stages) {raw_key : String} {identity : Identity}
    (h : accepted env shared.redis raw_key = some identity) :
    ∃ name role key_id, shared.redis.get? (api_key_entry raw_key) = some (metadata key_id name role) ∧
      (key_id, raw_key) ∈ shared.issued ∧ identity.key_id = some (.str key_id) := by
  obtain ⟨data, hdata⟩ := accepted_entry h
  obtain ⟨name, role, key_id, rfl, hissued⟩ := ho.entry hdata
  rw [accepted_of_metadata env hdata] at h
  cases h
  exact ⟨name, role, key_id, hdata, hissued, rfl⟩

theorem Owned.not_accepted (ho : Owned shared stages) {key_id raw_key : String} {identity : Identity}
    (hr : Revoked shared stages key_id) (h : accepted env shared.redis raw_key = some identity) :
    identity.key_id ≠ some (.str key_id) := by
  intro hid
  obtain ⟨name, role, other, hentry, hissued, hother⟩ := ho.of_accepted h
  obtain ⟨revoked, hsettled, hnone⟩ := hr
  rw [hid] at hother
  cases hother
  obtain rfl := ho.raw_key_unique hissued hsettled.1
  rw [hnone] at hentry
  cases hentry

end Accepted

end Moves

section Runs

variable (env : authentication.Env)

/-- Runs start without calls, when Redis has any keys, all of them with their index entries. -/
def system : TransitionSystem State Action :=
  (threads env).system fun shared => Consistent shared ∧ ∀ {raw_key key_id name role},
    shared.redis.get? (api_key_entry raw_key) = some (metadata key_id name role) →
      shared.redis.get? (index_entry key_id) = some raw_key

/-- No creation of a key ends after Redis has set its metadata and before Redis has set its
index entry. -/
def KeepsIndex (s : State) : Action → Prop
  | .perform t (.lost _) => ∀ raw_key value next, s.threads t ≠ some (.perform (.set (api_key_entry raw_key) value) next)
  | .perform t (.refused _) => ∀ key_id value next, s.threads t ≠ some (.perform (.set (index_entry key_id) value) next)
  | _ => True

variable {env} {s s' : State}

/-- In a run the stages of the calls are known, and who owns which key. -/
theorem exists_owned {ok : State → Action → Prop} (h : (system env).ReachableWhere ok s) :
    ∃ stages, Follows env s stages ∧ Owned s.shared stages := by
  refine TransitionSystem.ReachableWhere.invariant (P := fun s => ∃ stages, Follows env s stages ∧ Owned s.shared stages)
    ?_ ?_ h
  · rintro s ⟨⟨hconsistent, -⟩, hthreads⟩
    have hnone : ∀ t key, ¬ Creates (fun _ => none) t key := by
      rintro t key ⟨stage, hstage, -⟩
      cases hstage
    refine ⟨fun _ => none, hthreads, { toConsistent := hconsistent, issued := ?_, unique := ?_, indexed := ?_, deleting := ?_ }⟩
    · intro t key hcreates
      exact absurd hcreates (hnone t key)
    · intro t u key hcreates
      exact absurd hcreates (hnone t key)
    · intro key_id raw_key _ t
      exact hnone t _
    · intro t key_id raw_key hstage
      cases hstage
  · rintro s a s' ⟨stages, hf, ho⟩ - hstep
    obtain ⟨stages', hf', hmoves⟩ := hf.step hstep
    exact ⟨stages', hf', hmoves.owned ho⟩

/-- In a run under the condition every key stays indexed. -/
theorem exists_indexed (h : (system env).ReachableWhere KeepsIndex s) :
    ∃ stages, Follows env s stages ∧ Owned s.shared stages ∧ Indexed s.shared stages := by
  refine TransitionSystem.ReachableWhere.invariant
    (P := fun s => ∃ stages, Follows env s stages ∧ Owned s.shared stages ∧ Indexed s.shared stages) ?_ ?_ h
  · rintro s hinit
    have hreach : (system env).ReachableWhere KeepsIndex s := .initial hinit
    obtain ⟨stages, hf, ho⟩ := exists_owned hreach
    exact ⟨stages, hf, ho, fun hentry => .inl (hinit.1.2 hentry)⟩
  · rintro s a s' ⟨stages, hf, ho, hi⟩ hok hstep
    obtain ⟨stages', hf', hmoves⟩ := hf.step hstep
    refine ⟨stages', hf', hmoves.owned ho, hmoves.indexed ho ?_ ?_ hi⟩
    · rintro t e rfl name role key_id raw_key hstage
      obtain ⟨rest, hprogram, -⟩ := (Stage.creating name role key_id raw_key).program_spec env
      apply hok raw_key (metadata key_id name role) rest
      rw [hf t, hstage, Option.map_some, hprogram]
      rfl
    · rintro t e rfl name role key_id raw_key hstage
      obtain ⟨rest, hprogram, -⟩ := (Stage.indexing name role key_id raw_key).program_spec env
      apply hok key_id raw_key rest
      rw [hf t, hstage, Option.map_some, hprogram]
      rfl

/-- API keys are revocable while no creation ends between its two commands: when no call is
running, every accepted key is found under its key id. And revocation is final in every run:
once it has returned True, no key with this key id is accepted. -/
theorem api_keys_revocable (env : authentication.Env) :
    (∀ s : State, (system env).ReachableWhere KeepsIndex s → (∀ t, s.threads t = none) →
      ∀ raw_key identity, accepted env s.shared.redis raw_key = some identity →
        ∃ key_id, identity.key_id = some (.str key_id) ∧ s.shared.redis.get? (index_entry key_id) = some raw_key) ∧
    (∀ (s s' later : State) (t u : ℕ) (fate fate' : Fate) (key_id : String) (identity : Identity),
      (system env).Reachable s → (threads env).returned s t fate = some (.ok (.revoked key_id true)) →
        (system env).step s (.perform t fate) = some s' → (system env).StepsWhere (fun _ _ => True) s' later →
          (threads env).returned later u fate' = some (.ok (.validated (some identity))) →
            identity.key_id ≠ some (.str key_id)) := by
  constructor
  · intro s hreach hidle raw_key identity haccepted
    obtain ⟨stages, hf, ho, hi⟩ := exists_indexed hreach
    obtain ⟨name, role, key_id, hentry, -, hid⟩ := ho.of_accepted haccepted
    refine ⟨key_id, hid, ?_⟩
    obtain hindex | ⟨t, name', role', hstage⟩ := hi hentry
    · exact hindex
    · have hthread := hf t
      rw [hidle t, hstage] at hthread
      cases hthread
  · intro s s' later t u fate fate' key_id identity hreach hreturned hstep hsteps hvalidated
    obtain ⟨stages, hf, ho⟩ := exists_owned hreach
    change (threads env).step s (.perform t fate) = some s' at hstep
    obtain ⟨stages', hf', hmoves⟩ := hf.step hstep
    have hrevoked : Revoked s'.shared stages' key_id := by
      obtain ⟨hne, -⟩ | ⟨rfl, other, raw_key, hstage, heq⟩ | ⟨api_key, -, heq⟩ := hf.returned hreturned
      · exact absurd rfl (hne key_id)
      · cases heq
        exact hmoves.revoked_of_deleting ho hstage
      · cases heq
    have hlater : ∃ stages, Follows env later stages ∧ Owned later.shared stages ∧ Revoked later.shared stages key_id := by
      refine hsteps.invariant (P := fun s => ∃ stages, Follows env s stages ∧ Owned s.shared stages ∧
        Revoked s.shared stages key_id) ?_ ⟨stages', hf', hmoves.owned ho, hrevoked⟩
      rintro s a s' - hstep ⟨stages, hf, ho, hr⟩
      change (threads env).step s a = some s' at hstep
      obtain ⟨stages', hf', hmoves⟩ := hf.step hstep
      exact ⟨stages', hf', hmoves.owned ho, hmoves.revoked ho hr⟩
    obtain ⟨stages, hf, ho, hr⟩ := hlater
    obtain ⟨-, hne⟩ | ⟨-, other, raw_key, -, heq⟩ | ⟨api_key, -, heq⟩ := hf.returned hvalidated
    · exact absurd rfl (hne identity)
    · cases heq
    · simp only [Except.ok.injEq, Result.validated.injEq] at heq
      exact ho.not_accepted hr heq.symm

/-- An empty Redis. -/
def no_keys : State := { shared := { redis := .empty, issued := [] }, threads := fun _ => none }

/-- A middleware without JWTs. -/
def sample_env : authentication.Env where
  settings := { jwt_secret := "", jwt_algorithm := "HS256", jwt_expiration_minutes := 60, jwt_refresh_expiration_minutes := 1440 }
  jwt := { encode := fun _ _ _ => "", decode := fun _ _ _ _ => .error .ExpiredSignatureError }
  now := 0
  valid_netloc _ := true
  redis_get _ := .ok none
  loads := loads

theorem no_keys_initial : (system sample_env).initial no_keys := by
  refine ⟨⟨{ paired := ?_, entry := ?_, index := ?_ }, ?_⟩, fun _ => rfl⟩
  · intro key hkey
    cases hkey
  · intro raw_key data hentry
    cases hentry
  · intro key_id raw_key hindex
    cases hindex
  · intro raw_key key_id name role hentry
    cases hentry

def creation : Call := .create_api_key "sensor" "device" "k" "r"

/-- Redis after the first command of the creation. -/
def key_set : RedisKeyspace := Dict.empty.set (api_key_entry "r") (metadata "k" "sensor" "device")

/-- A thread has nothing to do after its last step. -/
theorem threads_idle {p q : Operation Result} (t : ℕ) :
    Function.update (Function.update (Function.update (fun _ => none) 0 (some p)) 0 (some q)) 0 none t = none := by
  simp only [Function.update_idem, Function.update_apply, ite_eq_left_iff]
  intro ht
  rw [if_neg ht]

/-- A key is created, and one of two keys is revoked before the other one is validated. -/
def revocation : List Action :=
  [.start 0 creation, .perform 0 .done, .perform 0 .done, .start 0 (.create_api_key "camera" "device" "l" "q"),
    .perform 0 .done, .perform 0 .done, .start 1 (.validate_api_key "q"), .start 0 (.revoke_api_key "k"), .perform 0 .done]

def returns_revoked (s : State) : Bool :=
  match (threads sample_env).returned s 0 .done with
  | some (.ok (.revoked key_id true)) => key_id == "k"
  | _ => false

def returns_validated (s : State) : Bool :=
  match (threads sample_env).returned s 1 .done with
  | some (.ok (.validated (some _))) => true
  | _ => false

theorem returned_of_returns_revoked {s : State} (h : returns_revoked s = true) :
    (threads sample_env).returned s 0 .done = some (.ok (.revoked "k" true)) := by
  unfold returns_revoked at h
  split at h
  · rename_i key_id hreturned
    rw [hreturned, eq_of_beq h]
  · cases h

theorem returned_of_returns_validated {s : State} (h : returns_validated s = true) :
    ∃ identity, (threads sample_env).returned s 1 .done = some (.ok (.validated (some identity))) := by
  unfold returns_validated at h
  split at h
  · rename_i identity hreturned
    exact ⟨identity, hreturned⟩
  · cases h

/-- A key that was created is indexed, and one that was not revoked is accepted. -/
theorem api_keys_revocable_creation :
    (∃ (s : State) (key_id : String), (∀ t, s.threads t = none) ∧ s.shared.redis.get? (index_entry key_id) = some "r") ∧
      ∃ (s : State) (identity : Identity),
        (threads sample_env).returned s 1 .done = some (.ok (.validated (some identity))) ∧
          identity.key_id ≠ some (.str "k") := by
  obtain ⟨hindexed, hfinal⟩ := api_keys_revocable sample_env
  constructor
  · have hcreated : ∃ s : State, (system sample_env).ReachableWhere KeepsIndex s ∧ (∀ t, s.threads t = none) ∧
        s.shared.redis = key_set.set (index_entry "k") "r" :=
      ⟨_, .step (a := .perform 0 .done) (.step (a := .perform 0 .done)
        (.step (a := .start 0 creation) (.initial no_keys_initial) trivial rfl) trivial rfl) trivial rfl, threads_idle, rfl⟩
    obtain ⟨s, hreach, hidle, hredis⟩ := hcreated
    have hentry : s.shared.redis.get? (api_key_entry "r") = some (metadata "k" "sensor" "device") := by
      rw [hredis, Dict.get?_set_of_ne _ _ (api_key_entry_ne_index_entry _ _), key_set, Dict.get?_set_self]
    obtain ⟨key_id, -, hindex⟩ := hindexed s hreach hidle "r" _ (accepted_of_metadata sample_env hentry)
    exact ⟨s, key_id, hidle, hindex⟩
  · have hreplay : ((system sample_env).replay (fun _ _ => true) no_keys revocation).any (fun s => returns_revoked s &&
        ((system sample_env).step s (.perform 0 .done)).any returns_validated) = true := by decide +kernel
    obtain ⟨s, hreach, htest⟩ := TransitionSystem.exists_of_replay (fun _ _ => True) (fun _ _ => true)
      (fun _ _ _ => trivial) no_keys_initial revocation _ hreplay
    obtain ⟨hrevoked, hvalidated⟩ := Bool.and_eq_true_iff.mp htest
    obtain ⟨s', hstep, htest⟩ := (Option.any_eq_true ..).mp hvalidated
    obtain ⟨identity, hidentity⟩ := returned_of_returns_validated htest
    exact ⟨s', identity, hidentity, hfinal s s' s' 0 1 .done .done "k" identity hreach
      (returned_of_returns_revoked hrevoked) hstep .refl hidentity⟩

/-- Redis sets the metadata of a key and refuses to set its index entry. -/
theorem key_without_index :
    ¬ ∀ (env : authentication.Env) (s : State), (system env).Reachable s → (∀ t, s.threads t = none) →
      ∀ raw_key identity, accepted env s.shared.redis raw_key = some identity →
        ∃ key_id, identity.key_id = some (.str key_id) ∧ s.shared.redis.get? (index_entry key_id) = some raw_key := by
  intro hclaim
  have hfailed : ∃ s : State, (system sample_env).Reachable s ∧ (∀ t, s.threads t = none) ∧ s.shared.redis = key_set :=
    ⟨_, .step (a := .perform 0 (.refused (.exception .LibraryError))) (.step (a := .perform 0 .done)
      (.step (a := .start 0 creation) (.initial no_keys_initial) trivial rfl) trivial rfl) trivial rfl, threads_idle, rfl⟩
  obtain ⟨s, hreach, hidle, hredis⟩ := hfailed
  have hentry : s.shared.redis.get? (api_key_entry "r") = some (metadata "k" "sensor" "device") := by
    rw [hredis, key_set, Dict.get?_set_self]
  obtain ⟨key_id, -, hindex⟩ := hclaim sample_env s hreach hidle "r" _ (accepted_of_metadata sample_env hentry)
  rw [hredis, key_set, Dict.get?_set_of_ne _ _ (index_entry_ne_api_key_entry _ _)] at hindex
  cases hindex

end Runs

end gateway.api_keys
