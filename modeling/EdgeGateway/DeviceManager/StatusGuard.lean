import EdgeGateway.DeviceManager.Services

/-! A status that devices hold, and statuses that no operation may write over it, in runs of
the operations at the granularity of statements. -/

namespace gateway.device_manager

variable {Id : Type} {held : DeviceStatusEnum} {bad : DeviceStatusEnum → Prop}

/-- The next statement of the operation gives the device a bad status. -/
def Writes (bad : DeviceStatusEnum → Prop) (device_id : Id) : Operation Id Unit → Prop
  | .perform (.update_device id updates) _ =>
    id = device_id ∧ ∃ status, updates.status = some (some status) ∧ bad status
  | _ => False

/-- The operation has nothing to do but to commit. -/
def Commits : Operation Id Unit → Prop
  | .perform .commit _ | .ret _ => True
  | _ => False

/-- How the operations go on: they write the status of a device that they have just read,
and commit what they have written. -/
def Disciplined (bad : DeviceStatusEnum → Prop) : Operation Id Unit → Prop
  | .perform (.select_device id) next =>
    ∀ status device_id, Writes bad device_id (next status) → device_id = id ∧ status ≠ none
  | .perform (.insert_device _) next => ∀ reply, Commits (next reply)
  | .perform (.update_device _ _) next => ∀ reply, Commits (next reply)
  | .perform _ next => ∀ reply device_id, ¬ Writes bad device_id (next reply)
  | .ret _ => True

theorem Commits.not_writes {p : Operation Id Unit} (h : Commits p) (device_id : Id) : ¬ Writes bad device_id p := by
  unfold Commits at h
  split at h
  · exact id
  · exact id
  · cases h

/-- The COMMIT at the end of an operation, and the SELECT of its provisioning request. -/
theorem commit_request_disciplined (request_id : Id) :
    (.perform .commit fun _ => .perform (.select_request request_id) fun _ => .ret () :
      Operation Id Unit).Always (Disciplined bad) :=
  ⟨fun _ _ => id, fun _ => ⟨fun _ _ => id, fun _ => trivial⟩⟩

/-- The approval writes the status, and commits. -/
theorem provision_device_disciplined {request_id device_id : Id} {updates : Updates}
    {next : Except DeviceError Bool → Operation Id Unit} (herror : ∀ e, next (.error e) = .ret ())
    (hok : ∀ found, next (.ok found) = .perform .commit fun _ => .perform (.select_request request_id) fun _ => .ret ()) :
    (Program.perform (.update_device device_id updates) next : Operation Id Unit).Always (Disciplined bad) := by
  refine ⟨?_, ?_⟩
  · rintro (e | found)
    · rw [herror]
      trivial
    · rw [hok]
      trivial
  · rintro (e | found)
    · rw [herror]
      trivial
    · rw [hok]
      exact commit_request_disciplined request_id

/-- What follows an UPDATE: a COMMIT, and a SELECT of the device at most. -/
theorem repo_update_device_disciplined (device_id : Id) (updates : Updates) :
    (device_repo.update_device device_id updates >>= fun _ => Program.ret ()).Always (Disciplined bad) := by
  refine ⟨?_, ?_⟩
  · intro reply
    cases reply with
    | error e => trivial
    | ok found => trivial
  · intro reply
    cases reply with
    | error e => trivial
    | ok found =>
      cases found with
      | false => exact ⟨fun _ _ => id, fun _ => trivial⟩
      | true =>
        refine ⟨fun _ _ => id, fun _ => ⟨?_, fun _ => trivial⟩⟩
        intro status id hwrites
        cases hwrites

theorem repo_delete_device_disciplined (device_id : Id) :
    (device_repo.delete_device device_id >>= fun _ => Program.ret ()).Always (Disciplined bad) := by
  refine ⟨?_, ?_⟩
  · intro reply
    cases reply with
    | error e => trivial
    | ok found => trivial
  · intro reply
    cases reply with
    | error e => trivial
    | ok found => exact ⟨fun _ _ => id, fun _ => trivial⟩

/-- A device that has been read is left as it is, or written if it is there. -/
theorem select_device_disciplined {device_id : Id} {next : Option DeviceStatusEnum → Operation Id Unit}
    {rest : Operation Id Unit} (hrest : rest.Always (Disciplined bad)) (hown : ∀ id, Writes bad id rest → id = device_id)
    (hnext : ∀ existing, next existing = .ret () ∨ existing ≠ none ∧ next existing = rest) :
    (Program.perform (.select_device device_id) next : Operation Id Unit).Always (Disciplined bad) := by
  refine ⟨?_, ?_⟩
  · intro existing id hwrites
    obtain hleft | ⟨hfound, hwritten⟩ := hnext existing
    · rw [hleft] at hwrites
      cases hwrites
    · rw [hwritten] at hwrites
      exact ⟨hown id hwrites, hfound⟩
  · intro existing
    obtain hleft | ⟨_, hwritten⟩ := hnext existing
    · rw [hleft]
      trivial
    · rw [hwritten]
      exact hrest

variable [ToString Id]

theorem create_device_disciplined (device_id : Id) :
    (Call.create_device device_id).operation.Always (Disciplined bad) := by
  refine ⟨fun _ => trivial, fun _ => ⟨fun _ _ => id, fun _ => ⟨?_, fun _ => trivial⟩⟩⟩
  intro status id hwrites
  cases hwrites

theorem update_device_disciplined (device_id : Id) (updates : Updates) :
    (Call.update_device device_id updates).operation.Always (Disciplined bad) := by
  refine select_device_disciplined (repo_update_device_disciplined device_id updates)
    (fun id hwrites => hwrites.1.symm) fun existing => ?_
  cases existing with
  | none => exact .inl rfl
  | some existing =>
    cases existing with
    | DECOMMISSIONED => exact .inl rfl
    | REGISTERED | PROVISIONED | ACTIVE | INACTIVE => exact .inr ⟨Option.some_ne_none _, rfl⟩

theorem delete_device_disciplined (device_id : Id) :
    (Call.delete_device device_id).operation.Always (Disciplined bad) := by
  refine select_device_disciplined (repo_delete_device_disciplined device_id) (fun id hwrites => hwrites.1.symm)
    fun existing => ?_
  cases existing with
  | none => exact .inl rfl
  | some existing =>
    cases existing with
    | ACTIVE | DECOMMISSIONED => exact .inl rfl
    | REGISTERED | PROVISIONED | INACTIVE => exact .inr ⟨Option.some_ne_none _, rfl⟩

theorem request_provisioning_disciplined (request_id device_id : Id) :
    (Call.request_provisioning request_id device_id).operation.Always (Disciplined bad) := by
  refine ⟨?_, ?_⟩
  · rintro (_ | status) id hwrites
    · cases hwrites
    · cases status <;> cases hwrites
  · rintro (_ | status)
    · trivial
    · cases status with
      | REGISTERED =>
        refine ⟨?_, ?_⟩
        · rintro (_ | ⟨request, _ | ⟨other, rest⟩⟩) id hwrites <;> cases hwrites
        · rintro (_ | ⟨request, _ | ⟨other, rest⟩⟩)
          · exact ⟨fun _ _ => id, fun _ => commit_request_disciplined request_id⟩
          · trivial
          · trivial
      | _ => trivial

theorem approve_provisioning_disciplined (request_id : Id) :
    (Call.approve_provisioning request_id).operation.Always (Disciplined bad) := by
  refine ⟨?_, ?_⟩
  · rintro (_ | ⟨device_id, status⟩) id hwrites
    · cases hwrites
    · cases status <;> cases hwrites
  · rintro (_ | ⟨device_id, status⟩)
    · trivial
    · cases status with
      | PENDING =>
        refine ⟨fun _ _ => id, fun _ => ⟨?_, ?_⟩⟩
        · rintro (_ | status) id hwrites
          · cases hwrites
          · cases status with
            | PROVISIONED => cases hwrites
            | _ => exact ⟨hwrites.1.symm, nofun⟩
        · rintro (_ | status)
          · exact commit_request_disciplined request_id
          · cases status with
            | PROVISIONED => exact commit_request_disciplined request_id
            | _ => exact provision_device_disciplined (fun _ => rfl) (fun _ => rfl)
      | _ => trivial

theorem operation_disciplined (call : Call Id) : call.operation.Always (Disciplined bad) := by
  cases call with
  | create_device device_id => exact create_device_disciplined device_id
  | update_device device_id updates => exact update_device_disciplined device_id updates
  | delete_device device_id => exact delete_device_disciplined device_id
  | request_provisioning request_id device_id => exact request_provisioning_disciplined request_id device_id
  | approve_provisioning request_id => exact approve_provisioning_disciplined request_id

variable [DecidableEq Id]

/-- What keeps bad statuses off the devices that hold the status. -/
structure Guarded (held : DeviceStatusEnum) (bad : DeviceStatusEnum → Prop) (s : State Id) : Prop where
  /-- Who has locked a device is about to commit. -/
  locked : ∀ {device_id owner status}, s.shared.devices.written device_id = some (owner, status) →
    ∃ p, s.threads owner = some p ∧ Commits p
  /-- Who is about to give a device a bad status has no device that holds the status. -/
  writing : ∀ {t p device_id}, s.threads t = some p → Writes bad device_id p →
    s.shared.devices.committed device_id ≠ some held
  /-- Nor has who has written it. -/
  written : ∀ {device_id owner status}, s.shared.devices.written device_id = some (owner, status) →
    bad status → s.shared.devices.committed device_id ≠ some held

/-- No operation that reads the status goes on to write a bad one over it, and no device is
given the status while another operation is about to write a bad one. -/
def Respects (held : DeviceStatusEnum) (bad : DeviceStatusEnum → Prop) (s : State Id) : Action Id → Prop
  | .perform t _ =>
    match s.threads t with
    | some (.perform (.select_device device_id) next) =>
      s.shared.devices.committed device_id = some held →
        ¬ Writes bad device_id (next (some held))
    | some (.perform .commit _) =>
      ∀ device_id, s.shared.devices.written device_id = some (t, held) →
        ∀ u p, s.threads u = some p → ¬ Writes bad device_id p
    | _ => True
  | _ => True

variable {s s' : State Id} {t : ℕ}

/-- A thread goes on while the guards hold of the new state of the devices. -/
theorem Guarded.settle {db : Database Id} {p : Operation Id Unit}
    (hlocked : ∀ device_id owner status, db.devices.written device_id = some (owner, status) → owner ≠ t →
      ∃ p, s.threads owner = some p ∧ Commits p)
    (hlocks : ∀ device_id status, db.devices.written device_id = some (t, status) → Commits p)
    (hothers : ∀ u q device_id, u ≠ t → s.threads u = some q → Writes bad device_id q →
      db.devices.committed device_id ≠ some held)
    (hself : ∀ device_id, Writes bad device_id p → db.devices.committed device_id ≠ some held)
    (hwritten_bad : ∀ device_id owner status, db.devices.written device_id = some (owner, status) →
      bad status → db.devices.committed device_id ≠ some held) :
    Guarded held bad (threads.settle s t db p) := by
  have hwriting : ∀ {u q device_id}, (threads.settle s t db p).threads u = some q → Writes bad device_id q →
      db.devices.committed device_id ≠ some held := by
    intro u q device_id hthread hq
    obtain ⟨-, rfl⟩ | ⟨hne, hold⟩ := Threads.threads_settle hthread
    · exact hself device_id hq
    · exact hothers u q device_id hne hold hq
  cases p with
  | ret a =>
    refine { locked := ?_, writing := ?_, written := ?_ }
    · intro device_id owner status hwritten
      obtain ⟨hne, hwritten⟩ := Table.written_rollback_iff.mp hwritten
      obtain ⟨q, hq, hcommits⟩ := hlocked device_id owner status hwritten hne
      exact ⟨q, (Function.update_of_ne hne _ _).trans hq, hcommits⟩
    · intro u q device_id hthread hq
      change (db.devices.rollback t).committed device_id ≠ _
      rw [Table.committed_rollback]
      exact hwriting hthread hq
    · intro device_id owner status hwritten hne
      change (db.devices.rollback t).committed device_id ≠ _
      rw [Table.committed_rollback]
      exact hwritten_bad device_id owner status (Table.written_rollback_iff.mp hwritten).2 hne
  | perform o next =>
    refine { locked := ?_, writing := hwriting, written := fun hwritten => hwritten_bad _ _ _ hwritten }
    intro device_id owner status hwritten
    by_cases hne : owner = t
    · subst hne
      exact ⟨_, Function.update_self _ _ _, hlocks device_id status hwritten⟩
    · obtain ⟨q, hq, hcommits⟩ := hlocked device_id owner status hwritten hne
      exact ⟨q, (Function.update_of_ne hne _ _).trans hq, hcommits⟩

/-- The statement leaves the devices as they are. -/
def Statement.reads : Statement Id → Bool
  | .insert_device _ | .update_device _ _ | .commit => false
  | _ => true

omit [ToString Id] in
theorem devices_execute {db db' : Database Id} {tx : ℕ} {statement : Statement Id} {reply : statement.Reply}
    (hreads : statement.reads = true) (h : db.execute tx statement = some (db', reply)) :
    db'.devices = db.devices := by
  cases statement with
  | select_device device_id | select_request request_id | select_pending device_id =>
    cases h
    rfl
  | insert_request request_id device_id | update_request request_id status =>
    obtain ⟨requests, -, heq⟩ := Option.map_eq_some_iff.mp h
    cases heq
    rfl
  | insert_device device_id | update_device device_id updates | commit => cases hreads

omit [ToString Id] in
/-- A thread that is not about to commit has locked no device. -/
theorem Guarded.not_locked (hg : Guarded held bad s) {p : Operation Id Unit} (hthread : s.threads t = some p)
    (hcommits : ¬ Commits p) (device_id : Id) (status : DeviceStatusEnum) :
    s.shared.devices.written device_id ≠ some (t, status) := by
  intro hwritten
  obtain ⟨q, hq, h⟩ := hg.locked hwritten
  exact hcommits (Option.some.inj (hthread.symm.trans hq) ▸ h)

/-- While the devices stay as they are, it matters only how the thread goes on. -/
theorem Guarded.settle_of_devices (hg : Guarded held bad s) {db : Database Id} {p : Operation Id Unit}
    (hdevices : db.devices = s.shared.devices)
    (hlocks : ∀ device_id status, s.shared.devices.written device_id ≠ some (t, status))
    (hself : ∀ device_id, Writes bad device_id p → s.shared.devices.committed device_id ≠ some held) :
    Guarded held bad (threads.settle s t db p) := by
  refine Guarded.settle ?_ ?_ ?_ ?_ ?_
  · intro device_id owner status hwritten _
    rw [hdevices] at hwritten
    exact hg.locked hwritten
  · intro device_id status hwritten
    rw [hdevices] at hwritten
    exact absurd hwritten (hlocks device_id status)
  · intro u q device_id _ hq hwrites
    rw [hdevices]
    exact hg.writing hq hwrites
  · intro device_id hwrites
    rw [hdevices]
    exact hself device_id hwrites
  · intro device_id owner status hwritten hne
    rw [hdevices] at hwritten ⊢
    exact hg.written hwritten hne

/-- A statement that reads may lead on to an UPDATE of the device that it has read. -/
theorem Guarded.read (hg : Guarded held bad s) {statement : Statement Id} {next : statement.Reply → Operation Id Unit}
    (hthread : s.threads t = some (.perform statement next)) (hdisciplined : Disciplined bad (.perform statement next))
    (hreads : statement.reads = true) (hok : Respects held bad s (.perform t ())) {db : Database Id}
    {reply : statement.Reply} (h : s.shared.execute t statement = some (db, reply)) :
    Guarded held bad (threads.settle s t db (next reply)) := by
  have hlocks : ∀ device_id status, s.shared.devices.written device_id ≠ some (t, status) := by
    refine hg.not_locked hthread ?_
    cases statement with
    | commit => cases hreads
    | _ => exact id
  refine hg.settle_of_devices (devices_execute hreads h) hlocks ?_
  intro device_id hwrites
  cases statement with
  | select_device id =>
    cases h
    obtain ⟨rfl, -⟩ := hdisciplined _ device_id hwrites
    intro hcommitted
    rw [Table.select_eq_committed (hlocks device_id), hcommitted] at hwrites
    simp only [Respects, hthread] at hok
    exact hok hcommitted hwrites
  | select_request request_id => exact absurd hwrites (hdisciplined reply device_id)
  | select_pending id => exact absurd hwrites (hdisciplined reply device_id)
  | insert_request request_id id => exact absurd hwrites (hdisciplined reply device_id)
  | update_request request_id status => exact absurd hwrites (hdisciplined reply device_id)
  | insert_device id => cases hreads
  | update_device id updates => cases hreads
  | commit => cases hreads

theorem Guarded.insert (hg : Guarded held bad s) {id : Id} {next : Unit → Operation Id Unit}
    (hdisciplined : Disciplined bad (.perform (.insert_device id) next)) {db : Database Id} {reply : Unit}
    (h : s.shared.execute t (.insert_device id) = some (db, reply)) : Guarded held bad (threads.settle s t db (next reply)) := by
  obtain ⟨devices, hinsert, heq⟩ := Option.map_eq_some_iff.mp h
  cases heq
  obtain ⟨-, hnone, hwritten⟩ := Table.written_insert hinsert
  have hcommitted := Table.committed_insert hinsert
  have hcommits : Commits (next ()) := hdisciplined ()
  refine Guarded.settle ?_ (fun _ _ _ => hcommits) ?_ ?_ ?_
  · intro device_id owner status hnew hne
    rw [hwritten] at hnew
    split at hnew
    · cases hnew
      exact absurd rfl hne
    · exact hg.locked hnew
  · intro u q device_id _ hq hwrites
    rw [hcommitted]
    exact hg.writing hq hwrites
  · intro device_id hwrites
    exact absurd hwrites (hcommits.not_writes device_id)
  · intro device_id owner status hnew hne
    rw [hcommitted]
    rw [hwritten] at hnew
    split at hnew
    · rename_i hid
      rw [hid, hnone]
      rintro ⟨⟩
    · exact hg.written hnew hne

theorem Guarded.update (hheld : ¬ bad held) (hg : Guarded held bad s) {id : Id} {updates : Updates} {next : Except DeviceError Bool → Operation Id Unit}
    (hthread : s.threads t = some (.perform (.update_device id updates) next))
    (hdisciplined : Disciplined bad (.perform (.update_device id updates) next)) {db : Database Id}
    {reply : Except DeviceError Bool} (h : s.shared.execute t (.update_device id updates) = some (db, reply)) :
    Guarded held bad (threads.settle s t db (next reply)) ∧
      ∀ device_id, db.devices.committed device_id = s.shared.devices.committed device_id := by
  have hcommits : Commits (next reply) := hdisciplined reply
  have hlocks := hg.not_locked hthread nofun
  obtain ⟨⟨devices, found⟩, hupdate, heq⟩ := Option.map_eq_some_iff.mp h
  dsimp only at heq
  split at heq
  · cases heq
    exact ⟨hg.settle_of_devices rfl hlocks fun device_id hwrites =>
      absurd hwrites (hcommits.not_writes device_id), fun _ => rfl⟩
  · cases heq
    have hwritten := Table.written_update hupdate
    have hcommitted := Table.committed_update hupdate
    refine ⟨Guarded.settle ?_ (fun _ _ _ => hcommits) ?_ ?_ ?_, hcommitted⟩
    · intro device_id owner status hnew hne
      obtain hold | ⟨rfl, ⟨value, -, hlock⟩ | ⟨value, -, -, hlock⟩⟩ := hwritten device_id
      · exact hg.locked (hold ▸ hnew)
      · exact absurd (Prod.mk.inj (Option.some.inj (hlock.symm.trans hnew))).1.symm hne
      · exact absurd (Prod.mk.inj (Option.some.inj (hlock.symm.trans hnew))).1.symm hne
    · intro u q device_id _ hq hwrites
      change devices.committed device_id ≠ _
      rw [hcommitted]
      exact hg.writing hq hwrites
    · intro device_id hwrites
      exact absurd hwrites (hcommits.not_writes device_id)
    · intro device_id owner status hnew hne
      change devices.committed device_id ≠ _
      rw [hcommitted]
      obtain hold | ⟨rfl, ⟨value, hlock, -⟩ | ⟨value, -, hvalue, hlock⟩⟩ := hwritten device_id
      · exact hg.written (hold ▸ hnew) hne
      · exact absurd hlock (hlocks device_id value)
      · -- Either the status stays as it is, or this operation was about to write a bad one.
        obtain ⟨-, rfl⟩ := Prod.mk.inj (Option.some.inj (hlock.symm.trans hnew))
        intro hholds
        rw [hvalue] at hholds
        cases hholds
        refine hg.writing hthread ⟨rfl, ?_⟩ hvalue
        rcases hstatus : updates.status with _ | _ | status
        · rw [hstatus] at hne
          exact absurd hne hheld
        · rw [hstatus] at hne
          exact absurd hne hheld
        · rw [hstatus] at hne
          exact ⟨status, rfl, hne⟩

/-- A COMMIT gives no bad status to a device that holds the status. -/
theorem Guarded.commit (hheld : ¬ bad held) (hg : Guarded held bad s) {next : Unit → Operation Id Unit}
    (hthread : s.threads t = some (.perform .commit next)) (hdisciplined : Disciplined bad (.perform .commit next))
    (hok : Respects held bad s (.perform t ())) {db : Database Id} {reply : Unit}
    (h : s.shared.execute t .commit = some (db, reply)) :
    Guarded held bad (threads.settle s t db (next reply)) ∧ ∀ device_id,
      s.shared.devices.committed device_id = some held →
        ∃ status, db.devices.committed device_id = some status ∧ ¬ bad status := by
  cases h
  have hcommitted := Table.committed_commit t s.shared.devices
  simp only [Respects, hthread] at hok
  refine ⟨Guarded.settle ?_ ?_ ?_ ?_ ?_, ?_⟩
  · intro device_id owner status hwritten _
    exact hg.locked (Table.written_commit_iff.mp hwritten).2
  · intro device_id status hwritten
    exact absurd rfl (Table.written_commit_iff.mp hwritten).1
  · intro u q device_id _ hq hwrites
    change (s.shared.devices.commit t).committed device_id ≠ _
    rw [hcommitted]
    split
    · rename_i owner status hwritten
      split
      · rename_i howner
        rw [howner] at hwritten
        intro hholds
        rw [Option.some.inj hholds] at hwritten
        exact hok device_id hwritten u q hq hwrites
      · exact hg.writing hq hwrites
    · exact hg.writing hq hwrites
  · intro device_id hwrites
    exact absurd hwrites (hdisciplined () device_id)
  · intro device_id owner status hwritten hbad
    obtain ⟨howner, hold⟩ := Table.written_commit_iff.mp hwritten
    change (s.shared.devices.commit t).committed device_id ≠ _
    rw [hcommitted, hold]
    dsimp only
    rw [if_neg howner]
    exact hg.written hold hbad
  · intro device_id hholds
    have hstays : ∃ status, s.shared.devices.committed device_id = some status ∧ ¬ bad status := ⟨held, hholds, hheld⟩
    change ∃ status, (s.shared.devices.commit t).committed device_id = some status ∧ ¬ bad status
    rw [hcommitted]
    split
    · rename_i owner status hwritten
      split
      · exact ⟨status, rfl, fun hbad => hg.written hwritten hbad hholds⟩
      · exact hstays
    · exact hstays

omit [DecidableEq Id] in
/-- An operation begins with a SELECT, or with the INSERT of a device. -/
theorem not_writes_operation (call : Call Id) (device_id : Id) : ¬ Writes bad device_id call.operation := by
  cases call <;> exact id

/-- No step gives a bad status to a device that holds the status. -/
theorem guarded_step (hheld : ¬ bad held) {a : Action Id} (hg : Guarded held bad s)
    (hdisciplined : ∀ t p, s.threads t = some p → Disciplined bad p) (hok : Respects held bad s a)
    (h : threads.step s a = some s') :
    Guarded held bad s' ∧ ∀ device_id, s.shared.devices.committed device_id = some held →
      ∃ status, s'.shared.devices.committed device_id = some status ∧ ¬ bad status := by
  have hsettle : ∀ (t : ℕ) (db : Database Id) (p : Operation Id Unit) (device_id : Id),
      (threads.settle s t db p).shared.devices.committed device_id = db.devices.committed device_id := by
    intro t db p device_id
    cases p with
    | ret a => exact Table.committed_rollback t db.devices device_id
    | perform o next => rfl
  have hsame : ∀ (t : ℕ) (db : Database Id) (p : Operation Id Unit),
      (∀ device_id, db.devices.committed device_id = s.shared.devices.committed device_id) →
      ∀ device_id, s.shared.devices.committed device_id = some held →
        ∃ status, (threads.settle s t db p).shared.devices.committed device_id = some status ∧ ¬ bad status := by
    intro t db p heq device_id hholds
    exact ⟨held, by rw [hsettle, heq, hholds], hheld⟩
  cases a with
  | start t call =>
    obtain ⟨hfree, db, p, hcall, rfl⟩ := Threads.step_start h
    cases hcall
    refine ⟨hg.settle_of_devices rfl ?_ fun device_id hwrites =>
      absurd hwrites (not_writes_operation call device_id), hsame t _ _ fun _ => rfl⟩
    intro device_id status hwritten
    obtain ⟨q, hq, -⟩ := hg.locked hwritten
    rw [hfree] at hq
    cases hq
  | abort t =>
    obtain ⟨p, db, hthread, habort, rfl⟩ := Threads.step_abort h
    cases habort
    have hreturned : Guarded held bad (threads.settle s t s.shared (.ret ())) := by
      refine Guarded.settle ?_ (fun _ _ _ => trivial) ?_ (fun _ => nofun) ?_
      · intro device_id owner status hwritten _
        exact hg.locked hwritten
      · intro u q device_id _ hq hwrites
        exact hg.writing hq hwrites
      · intro device_id owner status hwritten hbad
        exact hg.written hwritten hbad
    exact ⟨hreturned, hsame t s.shared (.ret ()) fun _ => rfl⟩
  | perform t choice =>
    obtain ⟨statement, next, db, reply, hthread, hperform, rfl⟩ := Threads.step_perform h
    have hd := hdisciplined t _ hthread
    have hread : statement.reads = true → Guarded held bad (threads.settle s t db (next reply)) ∧
        ∀ device_id, s.shared.devices.committed device_id = some held →
          ∃ status, (threads.settle s t db (next reply)).shared.devices.committed device_id = some status ∧
            ¬ bad status := by
      intro hreads
      refine ⟨hg.read hthread hd hreads hok hperform, hsame t db _ fun device_id => ?_⟩
      rw [devices_execute hreads hperform]
    cases statement with
    | insert_device id =>
      refine ⟨hg.insert hd hperform, hsame t db _ ?_⟩
      obtain ⟨devices, hinsert, heq⟩ := Option.map_eq_some_iff.mp hperform
      cases heq
      exact Table.committed_insert hinsert
    | update_device id updates =>
      obtain ⟨hguarded, hkept⟩ := hg.update hheld hthread hd hperform
      exact ⟨hguarded, hsame t db _ hkept⟩
    | commit =>
      obtain ⟨hguarded, hkept⟩ := hg.commit hheld hthread hd hok hperform
      refine ⟨hguarded, fun device_id hholds => ?_⟩
      rw [hsettle]
      exact hkept device_id hholds
    | _ => exact hread rfl

theorem disciplined_reachable {ok : State Id → Action Id → Prop} (h : system.ReachableWhere ok s) :
    ∀ t p, s.threads t = some p → Disciplined bad p := by
  intro t p hthread
  refine (Threads.threads_always (P := Disciplined bad) ?_ h t p hthread).self
  intro db _ call db' p hcall
  cases hcall
  exact operation_disciplined call

theorem guarded_reachable (hheld : ¬ bad held) (h : system.ReachableWhere (Respects held bad) s) : Guarded held bad s := by
  refine TransitionSystem.ReachableWhere.invariant_of (Q := system.ReachableWhere (Respects held bad))
    (P := Guarded held bad) (fun s hs => hs) ?_ ?_ h
  · rintro s ⟨hwritten, hthreads⟩
    refine { locked := ?_, writing := ?_, written := ?_ }
    · intro device_id owner status hlock
      rw [hwritten] at hlock
      cases hlock
    · intro t p device_id hthread
      rw [hthreads] at hthread
      cases hthread
    · intro device_id owner status hlock
      rw [hwritten] at hlock
      cases hlock
  · intro s a s' hreach hg hok hstep
    exact (guarded_step hheld hg (disciplined_reachable hreach) hok hstep).1

/-- In a run under the condition, a device that holds the status is given no bad one. -/
theorem respects_step (held : DeviceStatusEnum) (bad : DeviceStatusEnum → Prop) (hheld : ¬ bad held) {a : Action Id} (h : system.ReachableWhere (Respects held bad) s)
    (hok : Respects held bad s a) (hstep : system.step s a = some s') {device_id : Id}
    (hholds : s.shared.devices.committed device_id = some held) :
    ∃ status, s'.shared.devices.committed device_id = some status ∧ ¬ bad status :=
  (guarded_step hheld (guarded_reachable hheld h) (disciplined_reachable h) hok hstep).2 device_id hholds

end gateway.device_manager
