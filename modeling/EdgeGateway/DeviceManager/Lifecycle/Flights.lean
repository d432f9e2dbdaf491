import EdgeGateway.DeviceManager.Lifecycle.Stages

/-! Provisioning operations at the same time: the requests that are pending, and what is
announced of them. -/

namespace gateway.device_manager.lifecycle

variable {Id : Type}

namespace Stage

/-- The device for which the call is to write, or has written, a pending request. -/
def claims : Stage Id → Option Id
  | .requesting _ device_id _ _ .inserting | .requesting _ device_id _ _ .committing => some device_id
  | _ => none

/-- The request that the call approves, with its status until the call has announced that. -/
def works : Stage Id → Option (Id × ProvisioningStatusEnum)
  | .approving request_id _ _ _ _ step =>
    match step with
    | .reading => none
    | .updating _ | .locating _ | .provisioning _ | .committing => some (request_id, .PENDING)
    | .refreshing | .announcing _ => some (request_id, .APPROVED)
  | _ => none

/-- The request whose row the call has locked. -/
def locks : Stage Id → Option Id
  | .requesting request_id _ _ _ .committing => some request_id
  | .approving request_id _ _ _ _ step =>
    match step with
    | .locating _ | .provisioning _ | .committing => some request_id
    | _ => none
  | _ => none

end Stage

variable [DecidableEq Id]

/-- The versions that wait to be committed are those that the calls at these stages have written. -/
structure Owned (db : Database Id) (stages : ℕ → Option (Stage Id)) : Prop where
  locked : ∀ {t stage request_id}, stages t = some stage → stage.locks = some request_id →
    ∃ request, db.requests.written request_id = some (t, request)
  written : ∀ {request_id t request}, db.requests.written request_id = some (t, request) →
    ∃ stage, stages t = some stage ∧ stage.locks = some request_id ∧
      ((stage.claims = some request.device_id ∧ request.status = .PENDING ∧ db.requests.committed request_id = none) ∨
        (stage.claims = none ∧ request.status = .APPROVED))

section Owners

variable {db db' : Database Id} {stages : ℕ → Option (Stage Id)} {t : ℕ}

/-- A call that has locked no row has written none. -/
theorem Owned.not_written (ho : Owned db stages) (hfree : (stages t).bind Stage.locks = none) {request_id : Id}
    {request : ProvisioningRequest Id} : db.requests.written request_id ≠ some (t, request) := by
  intro hwritten
  obtain ⟨stage, hstage, hlocks, -⟩ := ho.written hwritten
  rw [hstage, Option.bind_some, hlocks] at hfree
  cases hfree

/-- A step that ends a transaction, or that one takes before it has written. -/
theorem Owned.release (ho : Owned db stages) {later : Option (Stage Id)} (hlater : later.bind Stage.locks = none)
    (hwritten : ∀ request_id owner request, db'.requests.written request_id = some (owner, request) ↔
      owner ≠ t ∧ db.requests.written request_id = some (owner, request))
    (hcommitted : ∀ request_id, (∀ request, db.requests.written request_id ≠ some (t, request)) →
      db'.requests.committed request_id = db.requests.committed request_id) :
    Owned db' (Function.update stages t later) := by
  constructor
  · intro u stage request_id hstage hlocks
    obtain ⟨rfl, rfl⟩ | ⟨hne, hstage⟩ := Threads.update_threads_cases hstage
    · rw [Option.bind_some, hlocks] at hlater
      cases hlater
    · obtain ⟨request, hrequest⟩ := ho.locked hstage hlocks
      exact ⟨request, (hwritten _ _ _).mpr ⟨hne, hrequest⟩⟩
  · intro request_id u request hrequest
    obtain ⟨hne, hold⟩ := (hwritten _ _ _).mp hrequest
    obtain ⟨stage, hstage, hlocks, hclaims⟩ := ho.written hold
    have hkeeps : db'.requests.committed request_id = db.requests.committed request_id := by
      refine hcommitted request_id fun other hother => hne ?_
      rw [hold] at hother
      exact (Prod.mk.inj (Option.some.inj hother)).1
    rw [hkeeps]
    exact ⟨stage, by rw [Function.update_of_ne hne, hstage], hlocks, hclaims⟩

/-- A step that leaves the locks as they are. -/
theorem Owned.stay (ho : Owned db stages) {stage later : Stage Id} (hstage : stages t = some stage)
    (hrequests : db'.requests = db.requests) (hlocks : later.locks = stage.locks)
    (hclaims : stage.locks ≠ none → later.claims = stage.claims) : Owned db' (Function.update stages t (some later)) := by
  constructor
  · intro u other request_id hother hlocked
    rw [hrequests]
    obtain ⟨rfl, hnew⟩ | ⟨hne, hother⟩ := Threads.update_threads_cases hother
    · cases hnew
      exact ho.locked hstage (hlocks ▸ hlocked)
    · exact ho.locked hother hlocked
  · intro request_id u request hwritten
    rw [hrequests] at hwritten ⊢
    obtain ⟨other, hother, hlocked, hcase⟩ := ho.written hwritten
    by_cases hu : u = t
    · subst hu
      cases hstage.symm.trans hother
      rw [← hclaims (by rw [hlocked]; nofun)] at hcase
      exact ⟨later, Function.update_self .., hlocks.trans hlocked, hcase⟩
    · exact ⟨other, by rw [Function.update_of_ne hu, hother], hlocked, hcase⟩

/-- A step that locks a row. -/
theorem Owned.lock (ho : Owned db stages) {later : Stage Id} {request_id : Id} {request : ProvisioningRequest Id}
    (hlocks : later.locks = some request_id) (hfree : (stages t).bind Stage.locks = none)
    (hnone : db.requests.written request_id = none)
    (hwritten : ∀ other, db'.requests.written other =
      if other = request_id then some (t, request) else db.requests.written other)
    (hcommitted : ∀ other, db'.requests.committed other = db.requests.committed other)
    (hcase : (later.claims = some request.device_id ∧ request.status = .PENDING ∧ db.requests.committed request_id = none) ∨
      (later.claims = none ∧ request.status = .APPROVED)) : Owned db' (Function.update stages t (some later)) := by
  constructor
  · intro u stage other hstage hlocked
    rw [hwritten]
    obtain ⟨rfl, hnew⟩ | ⟨hne, hstage⟩ := Threads.update_threads_cases hstage
    · cases hnew
      cases hlocks.symm.trans hlocked
      exact ⟨request, if_pos rfl⟩
    · obtain ⟨old, hold⟩ := ho.locked hstage hlocked
      have hother : other ≠ request_id := by
        intro heq
        rw [heq, hnone] at hold
        cases hold
      exact ⟨old, by rw [if_neg hother, hold]⟩
  · intro other u old hold
    rw [hwritten] at hold
    rw [hcommitted]
    by_cases hother : other = request_id
    · rw [if_pos hother] at hold
      cases hold
      subst hother
      exact ⟨later, Function.update_self .., hlocks, hcase⟩
    · rw [if_neg hother] at hold
      have hne : u ≠ t := fun heq => ho.not_written hfree (heq ▸ hold)
      obtain ⟨stage, hstage, hlocked⟩ := ho.written hold
      exact ⟨stage, by rw [Function.update_of_ne hne, hstage], hlocked⟩

/-- A COMMIT publishes the row that its call has locked. -/
theorem Owned.committed_commit (ho : Owned db stages) {stage : Stage Id} {request_id : Id} (hstage : stages t = some stage)
    (hlocks : stage.locks = some request_id) :
    ∃ request, db.requests.written request_id = some (t, request) ∧ ∀ other, (db.requests.commit t).committed other =
      if other = request_id then some request else db.requests.committed other := by
  obtain ⟨request, hwritten⟩ := ho.locked hstage hlocks
  refine ⟨request, hwritten, fun other => ?_⟩
  rw [Table.committed_commit]
  by_cases hother : other = request_id
  · rw [hother, hwritten, if_pos rfl]
    exact if_pos rfl
  · rw [if_neg hother]
    cases hversion : db.requests.written other with
    | none => rfl
    | some version =>
      obtain ⟨owner, value⟩ := version
      refine if_neg fun howner => hother ?_
      rw [howner] at hversion
      obtain ⟨stage', hstage', hlocks', -⟩ := ho.written hversion
      cases hstage.symm.trans hstage'
      exact Option.some.inj (hlocks'.symm.trans hlocks)

/-- The row of a transaction stays as it is when another one commits. -/
theorem committed_commit_of_not_written {request_id : Id}
    (h : ∀ request, db.requests.written request_id ≠ some (t, request)) :
    (db.requests.commit t).committed request_id = db.requests.committed request_id := by
  rw [Table.committed_commit]
  split
  · rename_i owner request hwritten
    refine if_neg fun howner => h request ?_
    rw [hwritten, howner]
  · rfl

variable [ToString Id] {stages' : ℕ → Option (Stage Id)} {a : Action Id}

theorem Moves.owned (h : Moves db stages a db' stages') (ho : Owned db stages) : Owned db' stages' := by
  have hrollback : ∀ (u : ℕ) request_id, (∀ request, db.requests.written request_id ≠ some (u, request)) →
      (db.rollback u).requests.committed request_id = db.requests.committed request_id :=
    fun u request_id _ => Table.committed_rollback u db.requests request_id
  cases h with
  | @start t call hfree =>
    have hlocks : call.stage.locks = none := by cases call <;> rfl
    refine ho.release hlocks (fun request_id owner request => ⟨fun hwritten => ⟨?_, hwritten⟩, And.right⟩) fun _ _ => rfl
    rintro rfl
    exact ho.not_written (by rw [hfree, Option.bind_none]) hwritten
  | ends a hstage => exact ho.release rfl (fun _ _ _ => Table.written_rollback_iff) (hrollback _)
  | reads hstage hreads hrequests hevents =>
    cases hreads with
    | locating hstep =>
      obtain rfl | rfl := hstep
      · exact ho.stay hstage hrequests rfl fun _ => rfl
      · exact ho.stay hstage hrequests rfl fun _ => rfl
    | checking hnone => exact ho.stay hstage hrequests rfl fun hlocked => absurd rfl hlocked
    | finding | refreshing_request | reading | provisioning | refreshing =>
      exact ho.stay hstage hrequests rfl fun _ => rfl
  | inserts hstage hinsert =>
    obtain ⟨hnone, habsent, hwritten⟩ := Table.written_insert hinsert
    have hfree := (congrArg (Option.bind · Stage.locks) hstage).trans rfl
    exact ho.lock rfl hfree hnone hwritten (Table.committed_insert hinsert) (.inl ⟨rfl, rfl, habsent⟩)
  | updates hstage hupdate =>
    have hfree := (congrArg (Option.bind · Stage.locks) hstage).trans rfl
    obtain ⟨hnone, request, -, hwritten⟩ := Table.written_update_found hupdate fun _ => ho.not_written hfree
    exact ho.lock rfl hfree hnone hwritten (Table.committed_update hupdate) (.inr ⟨rfl, rfl⟩)
  | @commits t fate stage later settled _ hstage hlater hsettled hcommitted hwritten hevents =>
    have hlocks : settled.bind Stage.locks = none := by
      obtain rfl | rfl := hsettled
      · rfl
      · cases stage with
        | requesting request_id device_id requested_at timestamp step =>
          cases step <;> cases hlater
          rfl
        | approving request_id approved_by approved_at updated_at timestamp step =>
          cases step <;> cases hlater
          rfl
    exact ho.release hlocks hwritten fun request_id h => (hcommitted request_id).trans (committed_commit_of_not_written h)
  | announces hstage hannounces => exact ho.release rfl (fun _ _ _ => Table.written_rollback_iff) (hrollback _)

/-- A request that is approved stays so. -/
theorem Moves.approved (h : Moves db stages a db' stages') (ho : Owned db stages) {request_id : Id}
    (happroved : db.status request_id = some .APPROVED) : db'.status request_id = some .APPROVED := by
  have hkeeps : db'.requests.committed request_id = db.requests.committed request_id →
      db'.status request_id = some .APPROVED := by
    intro hcommitted
    rw [Database.status, hcommitted]
    exact happroved
  cases h with
  | start hfree => exact happroved
  | ends a hstage => exact hkeeps (Table.committed_rollback ..)
  | reads hstage hreads hrequests hevents => exact hkeeps (by rw [hrequests])
  | inserts hstage hinsert => exact hkeeps (Table.committed_insert hinsert _)
  | updates hstage hupdate => exact hkeeps (Table.committed_update hupdate _)
  | @commits t fate stage later settled _ hstage hlater hsettled hcommitted hwritten hevents =>
    cases hversion : db.requests.written request_id with
    | none => exact hkeeps ((hcommitted request_id).trans (committed_commit_of_not_written (by simp [hversion])))
    | some version =>
      obtain ⟨owner, request⟩ := version
      obtain ⟨-, -, -, ⟨-, -, habsent⟩ | ⟨-, hstatus⟩⟩ := ho.written hversion
      · rw [Database.status, habsent] at happroved
        cases happroved
      · rw [Database.status, hcommitted, Table.committed_commit, hversion]
        dsimp only
        split
        · exact congrArg some hstatus
        · exact happroved
  | announces hstage hannounces => exact hkeeps (Table.committed_rollback ..)

end Owners

section Flights

variable {db db' : Database Id} {stages : ℕ → Option (Stage Id)} {t : ℕ} {later : Option (Stage Id)}

omit [DecidableEq Id] in
/-- What holds of a thread after a step of one of them. -/
theorem update_bind {α : Type} {f : Stage Id → Option α} {u : ℕ} {x : α}
    (h : (Function.update stages t later u).bind f = some x) :
    (u = t ∧ later.bind f = some x) ∨ (u ≠ t ∧ (stages u).bind f = some x) := by
  by_cases hu : u = t
  · subst hu
    rw [Function.update_self] at h
    exact .inl ⟨rfl, h⟩
  · rw [Function.update_of_ne hu] at h
    exact .inr ⟨hu, h⟩

omit [DecidableEq Id] in
/-- A step that begins nothing. -/
theorem update_bind_of_le {α : Type} {f : Stage Id → Option α}
    (hlater : ∀ x, later.bind f = some x → (stages t).bind f = some x) {u : ℕ} {x : α}
    (h : (Function.update stages t later u).bind f = some x) : (stages u).bind f = some x := by
  obtain ⟨rfl, hnew⟩ | ⟨-, hold⟩ := update_bind h
  · exact hlater x hnew
  · exact hold

omit [DecidableEq Id] in
/-- A step that ends something. -/
theorem update_bind_of_none {α : Type} {f : Stage Id → Option α} (hlater : later.bind f = none) {u : ℕ} {x : α}
    (h : (Function.update stages t later u).bind f = some x) : u ≠ t ∧ (stages u).bind f = some x := by
  obtain ⟨rfl, hnew⟩ | hold := update_bind h
  · rw [hlater] at hnew
    cases hnew
  · exact hold

/-- A device has one pending request, or one call that is to make one. -/
structure OneRequest (db : Database Id) (stages : ℕ → Option (Stage Id)) : Prop where
  one_pending : db.OnePending
  free : ∀ {t device_id}, (stages t).bind Stage.claims = some device_id → ∀ {request_id request},
    db.requests.committed request_id = some request → request.device_id = device_id → request.status ≠ .PENDING
  once : ∀ {t u device_id}, (stages t).bind Stage.claims = some device_id →
    (stages u).bind Stage.claims = some device_id → t = u

theorem OneRequest.frame (hs : OneRequest db stages)
    (hcommitted : ∀ request_id, db'.requests.committed request_id = db.requests.committed request_id)
    (hclaims : ∀ device_id, later.bind Stage.claims = some device_id → (stages t).bind Stage.claims = some device_id) :
    OneRequest db' (Function.update stages t later) := by
  constructor
  · intro request_id other_id request other
    rw [hcommitted, hcommitted]
    exact hs.one_pending request_id other_id request other
  · intro u device_id h request_id request
    rw [hcommitted]
    exact hs.free (update_bind_of_le hclaims h)
  · exact fun h h' => hs.once (update_bind_of_le hclaims h) (update_bind_of_le hclaims h')

/-- A call has checked that no request for the device is pending. -/
theorem OneRequest.check (hs : OneRequest db stages) (hrequests : db'.requests = db.requests) {device_id : Id}
    (hclaims : later.bind Stage.claims = some device_id)
    (hfree : ∀ {request_id request}, db.requests.committed request_id = some request → request.device_id = device_id →
      request.status ≠ .PENDING)
    (hserial : ∀ u, u ≠ t → (stages u).bind Stage.claims ≠ some device_id) :
    OneRequest db' (Function.update stages t later) := by
  constructor
  · rw [Database.OnePending, hrequests]
    exact hs.one_pending
  · intro u claimed h request_id request
    rw [hrequests]
    obtain ⟨rfl, hlater⟩ | ⟨-, hold⟩ := update_bind h
    · cases hclaims.symm.trans hlater
      exact hfree
    · exact hs.free hold
  · intro u v claimed h h'
    obtain ⟨rfl, hlater⟩ | ⟨hu, hold⟩ := update_bind h
    · cases hclaims.symm.trans hlater
      obtain ⟨rfl, -⟩ | ⟨hv, hold'⟩ := update_bind h'
      · rfl
      · exact absurd hold' (hserial v hv)
    · obtain ⟨rfl, hlater'⟩ | ⟨-, hold'⟩ := update_bind h'
      · cases hclaims.symm.trans hlater'
        exact absurd hold (hserial u hu)
      · exact hs.once hold hold'

/-- A COMMIT publishes a request, which is pending only if its call was to make one. -/
theorem OneRequest.commit (hs : OneRequest db stages) {request_id : Id} {request : ProvisioningRequest Id}
    (hcommitted : ∀ other, db'.requests.committed other =
      if other = request_id then some request else db.requests.committed other)
    (hlater : later.bind Stage.claims = none)
    (hpending : request.status = .PENDING → (stages t).bind Stage.claims = some request.device_id) :
    OneRequest db' (Function.update stages t later) := by
  constructor
  · intro first_id second_id first second hfirst hfirst_pending hsecond hsecond_pending hdevice
    rw [hcommitted] at hfirst hsecond
    by_cases hfirst_id : first_id = request_id
    · by_cases hsecond_id : second_id = request_id
      · rw [hfirst_id, hsecond_id]
      · rw [if_pos hfirst_id] at hfirst
        rw [if_neg hsecond_id] at hsecond
        cases hfirst
        exact absurd hsecond_pending (hs.free (hpending hfirst_pending) hsecond hdevice.symm)
    · rw [if_neg hfirst_id] at hfirst
      by_cases hsecond_id : second_id = request_id
      · rw [if_pos hsecond_id] at hsecond
        cases hsecond
        exact absurd hfirst_pending (hs.free (hpending hsecond_pending) hfirst hdevice)
      · rw [if_neg hsecond_id] at hsecond
        exact hs.one_pending first_id second_id first second hfirst hfirst_pending hsecond hsecond_pending hdevice
  · intro u device_id h other_id other hother hdevice hstatus
    obtain ⟨hu, hold⟩ := update_bind_of_none hlater h
    rw [hcommitted] at hother
    by_cases hid : other_id = request_id
    · rw [if_pos hid] at hother
      cases hother
      exact hu (hs.once hold (hdevice ▸ hpending hstatus))
    · rw [if_neg hid] at hother
      exact hs.free hold hother hdevice hstatus
  · exact fun h h' => hs.once (update_bind_of_none hlater h).2 (update_bind_of_none hlater h').2

variable [ToString Id]

/-- A request has one call that approves it, or one event that says so. -/
structure OneApproval (db : Database Id) (stages : ℕ → Option (Stage Id)) : Prop where
  once : ∀ {t u request_id status status'}, (stages t).bind Stage.works = some (request_id, status) →
    (stages u).bind Stage.works = some (request_id, status') → t = u
  status : ∀ {t request_id status}, (stages t).bind Stage.works = some (request_id, status) →
    db.approvals request_id = 0 ∧ db.status request_id = some status
  approved_once : ∀ request_id, db.approvals request_id ≤ 1
  approved : ∀ {request_id}, db.approvals request_id ≠ 0 → db.status request_id = some .APPROVED

theorem OneApproval.frame (hs : OneApproval db stages)
    (hstatus : ∀ request_id, db.status request_id ≠ none → db'.status request_id = db.status request_id)
    (hevents : ∀ request_id, db'.approvals request_id = db.approvals request_id)
    (hworks : ∀ work, later.bind Stage.works = some work → (stages t).bind Stage.works = some work) :
    OneApproval db' (Function.update stages t later) := by
  have hkeeps : ∀ {request_id status}, db.status request_id = some status → db'.status request_id = some status :=
    fun h => (hstatus _ (by rw [h]; nofun)).trans h
  constructor
  · exact fun h h' => hs.once (update_bind_of_le hworks h) (update_bind_of_le hworks h')
  · intro u request_id status h
    obtain ⟨hnone, hold⟩ := hs.status (update_bind_of_le hworks h)
    exact ⟨(hevents _).trans hnone, hkeeps hold⟩
  · intro request_id
    rw [hevents]
    exact hs.approved_once request_id
  · intro request_id h
    rw [hevents] at h
    exact hkeeps (hs.approved h)

/-- A call has read that the request is pending. -/
theorem OneApproval.read (hs : OneApproval db stages) (hrequests : db'.requests = db.requests) (hevents : db'.events = db.events)
    {request_id : Id} (hworks : later.bind Stage.works = some (request_id, .PENDING))
    (hpending : db.status request_id = some .PENDING)
    (hserial : ∀ u, u ≠ t → (stages u).bind Stage.works ≠ some (request_id, .PENDING)) :
    OneApproval db' (Function.update stages t later) := by
  have hstatus : ∀ other, db'.status other = db.status other := by
    intro other
    rw [Database.status, hrequests, Database.status]
  have happrovals : ∀ other, db'.approvals other = db.approvals other := by
    intro other
    rw [Database.approvals, hevents, Database.approvals]
  have halone : ∀ {u status}, u ≠ t → (stages u).bind Stage.works ≠ some (request_id, status) := by
    intro u status hu h
    obtain ⟨-, hold⟩ := hs.status h
    cases hold.symm.trans hpending
    exact hserial u hu h
  constructor
  · intro u v other status status' h h'
    obtain ⟨rfl, hlater⟩ | ⟨hu, hold⟩ := update_bind h
    · cases hworks.symm.trans hlater
      obtain ⟨rfl, -⟩ | ⟨hv, hold'⟩ := update_bind h'
      · rfl
      · exact absurd hold' (halone hv)
    · obtain ⟨rfl, hlater'⟩ | ⟨-, hold'⟩ := update_bind h'
      · cases hworks.symm.trans hlater'
        exact absurd hold (halone hu)
      · exact hs.once hold hold'
  · intro u other status h
    rw [happrovals, hstatus]
    obtain ⟨rfl, hlater⟩ | ⟨-, hold⟩ := update_bind h
    · cases hworks.symm.trans hlater
      refine ⟨by_contra fun hne => ?_, hpending⟩
      have happroved := hs.approved hne
      rw [hpending] at happroved
      cases happroved
    · exact hs.status hold
  · intro other
    rw [happrovals]
    exact hs.approved_once other
  · intro other
    rw [happrovals, hstatus]
    exact hs.approved

/-- The COMMIT of an approval. -/
theorem OneApproval.commit (hs : OneApproval db stages) {request_id : Id}
    (hstatus : ∀ other, db'.status other = if other = request_id then some .APPROVED else db.status other)
    (hevents : db'.events = db.events) {status : ProvisioningStatusEnum}
    (hworks : (stages t).bind Stage.works = some (request_id, status))
    (hlater : ∀ work, later.bind Stage.works = some work → work = (request_id, .APPROVED)) :
    OneApproval db' (Function.update stages t later) := by
  have happrovals : ∀ other, db'.approvals other = db.approvals other := by
    intro other
    rw [Database.approvals, hevents, Database.approvals]
  have hworked : ∀ {u other status'}, (Function.update stages t later u).bind Stage.works = some (other, status') →
      ∃ before, (stages u).bind Stage.works = some (other, before) := by
    intro u other status' h
    obtain ⟨rfl, hnew⟩ | ⟨-, hold⟩ := update_bind h
    · cases hlater _ hnew
      exact ⟨status, hworks⟩
    · exact ⟨status', hold⟩
  constructor
  · intro u v other status' status'' h h'
    obtain ⟨before, hold⟩ := hworked h
    obtain ⟨before', hold'⟩ := hworked h'
    exact hs.once hold hold'
  · intro u other status' h
    rw [happrovals, hstatus]
    obtain ⟨rfl, hnew⟩ | ⟨hu, hold⟩ := update_bind h
    · cases hlater _ hnew
      exact ⟨(hs.status hworks).1, if_pos rfl⟩
    · rw [if_neg fun heq => hu (hs.once hold (heq ▸ hworks))]
      exact hs.status hold
  · intro other
    rw [happrovals]
    exact hs.approved_once other
  · intro other h
    rw [happrovals] at h
    rw [hstatus]
    split
    · rfl
    · exact hs.approved h

/-- The event of an approval. -/
theorem OneApproval.announce (hs : OneApproval db stages) {request_id : Id}
    (hstatus : ∀ other, db'.status other = db.status other)
    (happrovals : ∀ other, db'.approvals other = db.approvals other + if other = request_id then 1 else 0)
    (hworks : (stages t).bind Stage.works = some (request_id, .APPROVED)) (hlater : later.bind Stage.works = none) :
    OneApproval db' (Function.update stages t later) := by
  obtain ⟨hnone, happroved⟩ := hs.status hworks
  constructor
  · exact fun h h' => hs.once (update_bind_of_none hlater h).2 (update_bind_of_none hlater h').2
  · intro u other status h
    obtain ⟨hu, hold⟩ := update_bind_of_none hlater h
    rw [happrovals, hstatus, if_neg fun heq => hu (hs.once hold (heq ▸ hworks))]
    exact hs.status hold
  · intro other
    rw [happrovals]
    split
    · rename_i heq
      rw [heq, hnone]
    · exact hs.approved_once other
  · intro other h
    rw [hstatus]
    by_cases heq : other = request_id
    · exact heq ▸ happroved
    · rw [happrovals, if_neg heq] at h
      exact hs.approved h

section Events

omit [DecidableEq Id] in
theorem approves_requested_event (other request_id device_id : Id) (timestamp : String) :
    Database.approves other (provision_service.requested_event request_id device_id timestamp) = false := by
  simp [Database.approves, provision_service.requested_event]

/-- The text of an id tells it. -/
theorem approves_approved_event (hid : Function.Injective (toString : Id → String)) (other request_id device_id : Id)
    (approved_by timestamp : String) :
    Database.approves other (provision_service.approved_event request_id device_id approved_by timestamp) =
      decide (other = request_id) := by
  simp [Database.approves, provision_service.approved_event, List.lookup_cons, hid.eq_iff, eq_comm]

omit [DecidableEq Id] in
theorem approvals_append {db db' : Database Id} {event : Event} (hevents : db'.events = db.events ++ [event]) (request_id : Id) :
    db'.approvals request_id = db.approvals request_id + if Database.approves request_id event then 1 else 0 := by
  rw [Database.approvals, hevents, List.countP_append, List.countP_singleton, Database.approvals]

end Events

/-- No call checks for a pending request while another one is between its check and its COMMIT,
and none reads a pending request while another one is to approve it. -/
structure Serialized (db : Database Id) (stages : ℕ → Option (Stage Id)) (a : Action Id) : Prop where
  check : ∀ {t request_id device_id requested_at timestamp}, a = .perform t .done →
    stages t = some (.requesting request_id device_id requested_at timestamp .checking) → db.pending t device_id = [] →
      ∀ u, u ≠ t → (stages u).bind Stage.claims ≠ some device_id
  read : ∀ {t request_id approved_by approved_at updated_at timestamp request}, a = .perform t .done →
    stages t = some (.approving request_id approved_by approved_at updated_at timestamp .reading) →
      db.requests.select t request_id = some request → request.status = .PENDING →
        ∀ u, u ≠ t → (stages u).bind Stage.works ≠ some (request_id, .PENDING)

omit [ToString Id] in
/-- A COMMIT publishes a new request, or that a request is approved. -/
theorem commit_cases (ho : Owned db stages) {stage later : Stage Id} (hstage : stages t = some stage)
    (hlater : stage.refreshed = some later) :
    later.claims = none ∧ ∃ request_id request,
      (∀ other, (db.requests.commit t).committed other =
        if other = request_id then some request else db.requests.committed other) ∧
      ((request.status = .PENDING ∧ stage.claims = some request.device_id ∧ db.requests.committed request_id = none ∧
          later.works = none) ∨
        (request.status = .APPROVED ∧ stage.works = some (request_id, .PENDING) ∧
          later.works = some (request_id, .APPROVED))) := by
  cases stage with
  | requesting request_id device_id requested_at timestamp step =>
    cases step <;> cases hlater
    obtain ⟨request, hwritten, hcommitted⟩ := ho.committed_commit hstage rfl
    refine ⟨rfl, request_id, request, hcommitted, .inl ?_⟩
    obtain ⟨stage, hstage', -, ⟨hclaims, hstatus, habsent⟩ | ⟨hclaims, -⟩⟩ := ho.written hwritten
    · cases hstage.symm.trans hstage'
      exact ⟨hstatus, hclaims, habsent, rfl⟩
    · cases hstage.symm.trans hstage'
      cases hclaims
  | approving request_id approved_by approved_at updated_at timestamp step =>
    cases step <;> cases hlater
    obtain ⟨request, hwritten, hcommitted⟩ := ho.committed_commit hstage rfl
    refine ⟨rfl, request_id, request, hcommitted, .inr ?_⟩
    obtain ⟨stage, hstage', -, ⟨hclaims, -⟩ | ⟨-, hstatus⟩⟩ := ho.written hwritten
    · cases hstage.symm.trans hstage'
      cases hclaims
    · exact ⟨hstatus, rfl, rfl⟩

variable {stages' : ℕ → Option (Stage Id)} {a : Action Id}

theorem Moves.oneRequest (h : Moves db stages a db' stages') (ho : Owned db stages) (hs : OneRequest db stages)
    (hserial : Serialized db stages a) : OneRequest db' stages' := by
  cases h with
  | @start t call hfree =>
    refine hs.frame (fun _ => rfl) ?_
    cases call <;> exact fun _ => nofun
  | ends a hstage => exact hs.frame (Table.committed_rollback _ _) fun _ => nofun
  | @reads t stage later _ hstage hreads hrequests hevents =>
    have hcommitted : ∀ request_id, db'.requests.committed request_id = db.requests.committed request_id :=
      fun _ => by rw [hrequests]
    cases hreads with
    | @checking request_id device_id requested_at timestamp hnone =>
      refine hs.check hrequests rfl (fun hcommitted hdevice hstatus => ?_) (hserial.check rfl hstage hnone)
      have hfree := (congrArg (Option.bind · Stage.locks) hstage).trans rfl
      have hnot := Table.not_of_selectWhere_eq_nil hnone (fun _ => ho.not_written hfree) hcommitted
      simp [hdevice, hstatus] at hnot
    | locating hstep =>
      obtain rfl | rfl := hstep
      · exact hs.frame hcommitted fun _ => nofun
      · exact hs.frame hcommitted fun _ => nofun
    | finding | refreshing_request | reading | provisioning | refreshing => exact hs.frame hcommitted fun _ => nofun
  | inserts hstage hinsert =>
    refine hs.frame (Table.committed_insert hinsert) fun device_id hclaims => ?_
    rw [hstage]
    exact hclaims
  | updates hstage hupdate => exact hs.frame (Table.committed_update hupdate) fun _ => nofun
  | @commits t fate stage later settled _ hstage hlater hsettled hcommitted hwritten hevents =>
    obtain ⟨hclaims, request_id, request, hcommit, hcase⟩ := commit_cases ho hstage hlater
    refine hs.commit (fun other => (hcommitted other).trans (hcommit other)) ?_ fun hpending => ?_
    · obtain rfl | rfl := hsettled
      · rfl
      · exact hclaims
    · obtain ⟨-, hclaimed, -⟩ | ⟨happroved, -⟩ := hcase
      · rw [hstage]
        exact hclaimed
      · rw [hpending] at happroved
        cases happroved
  | announces hstage hannounces => exact hs.frame (Table.committed_rollback _ _) fun _ => nofun

theorem Moves.oneApproval (hid : Function.Injective (toString : Id → String)) (h : Moves db stages a db' stages')
    (ho : Owned db stages) (hs : OneApproval db stages) (hserial : Serialized db stages a) : OneApproval db' stages' := by
  have hkeeps : (∀ request_id, db'.requests.committed request_id = db.requests.committed request_id) →
      ∀ request_id, db'.status request_id = db.status request_id := by
    intro hcommitted request_id
    rw [Database.status, hcommitted, Database.status]
  have hsame : db'.events = db.events → ∀ request_id, db'.approvals request_id = db.approvals request_id := by
    intro hevents request_id
    rw [Database.approvals, hevents, Database.approvals]
  cases h with
  | @start t call hfree =>
    refine hs.frame (fun _ _ => rfl) (fun _ => rfl) ?_
    cases call <;> exact fun _ => nofun
  | ends a hstage => exact hs.frame (fun _ _ => hkeeps (Table.committed_rollback _ _) _) (hsame rfl) fun _ => nofun
  | @reads t stage later _ hstage hreads hrequests hevents =>
    have hstatus : ∀ request_id, db.status request_id ≠ none → db'.status request_id = db.status request_id :=
      fun request_id _ => hkeeps (fun _ => by rw [hrequests]) request_id
    cases hreads with
    | @reading request_id approved_by approved_at updated_at timestamp request hselect hpending =>
      refine hs.read hrequests hevents rfl ?_ (hserial.read rfl hstage hselect hpending)
      have hfree := (congrArg (Option.bind · Stage.locks) hstage).trans rfl
      rw [Database.status, ← Table.select_eq_committed fun _ => ho.not_written hfree, hselect, Option.map_some, hpending]
    | locating hstep =>
      obtain rfl | rfl := hstep
      · exact hs.frame hstatus (hsame hevents) fun _ hworks => by rwa [hstage]
      · exact hs.frame hstatus (hsame hevents) fun _ hworks => by rwa [hstage]
    | finding | checking | refreshing_request => exact hs.frame hstatus (hsame hevents) fun _ => nofun
    | provisioning | refreshing => exact hs.frame hstatus (hsame hevents) fun _ hworks => by rwa [hstage]
  | inserts hstage hinsert =>
    exact hs.frame (fun _ _ => hkeeps (Table.committed_insert hinsert) _) (hsame rfl) fun _ => nofun
  | updates hstage hupdate =>
    exact hs.frame (fun _ _ => hkeeps (Table.committed_update hupdate) _) (hsame rfl) fun _ hworks => by rwa [hstage]
  | @commits t fate stage later settled _ hstage hlater hsettled hcommitted hwritten hevents =>
    obtain ⟨-, request_id, request, hcommit, ⟨-, -, habsent, hworks⟩ | ⟨happroved, hworked, hworks⟩⟩ :=
      commit_cases ho hstage hlater
    · refine hs.frame (fun other hother => ?_) (hsame hevents) ?_
      · have hne : other ≠ request_id := by
          rintro rfl
          rw [Database.status, habsent] at hother
          exact hother rfl
        rw [Database.status, hcommitted, hcommit, if_neg hne, Database.status]
      · obtain rfl | rfl := hsettled
        · exact fun _ => nofun
        · intro work hwork
          rw [Option.bind_some, hworks] at hwork
          cases hwork
    · refine hs.commit (fun other => ?_) hevents ((congrArg (Option.bind · Stage.works) hstage).trans hworked) ?_
      · rw [Database.status, hcommitted, hcommit]
        split
        · exact congrArg some happroved
        · rfl
      · obtain rfl | rfl := hsettled
        · exact fun _ => nofun
        · intro work hwork
          rw [Option.bind_some, hworks] at hwork
          exact (Option.some.inj hwork).symm
  | @announces t fate stage event hstage hannounces =>
    have hstatus := hkeeps (Table.committed_rollback _ _)
    cases stage with
    | requesting request_id device_id requested_at timestamp step =>
      cases step <;> cases hannounces
      refine hs.frame (fun _ _ => hstatus _) (fun other => ?_) fun _ => nofun
      rw [approvals_append rfl, approves_requested_event]
      rfl
    | approving request_id approved_by approved_at updated_at timestamp step =>
      cases step <;> cases hannounces
      refine hs.announce hstatus (fun other => ?_) ((congrArg (Option.bind · Stage.works) hstage).trans rfl) rfl
      rw [approvals_append rfl, approves_approved_event hid]
      simp only [decide_eq_true_iff]

end Flights

end gateway.device_manager.lifecycle
