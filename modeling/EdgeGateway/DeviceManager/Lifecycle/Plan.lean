import EdgeGateway.DeviceManager.Lifecycle.Sessions

/-! What a call does that passes its rules, as a whole, and how far it is carried out when one
of its own calls fails. -/

namespace gateway.device_manager.lifecycle

variable {Id : Type}

/-- None of so many calls from a call on fails. -/
def Answered (fates : ℕ → Fate) (start count : ℕ) : Prop := ∀ i < count, fates (start + i) = .done

instance (fates : ℕ → Fate) (start count : ℕ) : Decidable (Answered fates start count) :=
  inferInstanceAs (Decidable (∀ i < count, fates (start + i) = .done))

theorem answered_zero (fates : ℕ → Fate) (start : ℕ) : Answered fates start 0 := by
  intro i hi
  omega

theorem answered_succ {fates : ℕ → Fate} {start count : ℕ} :
    Answered fates start (count + 1) ↔ fates start = .done ∧ Answered fates (start + 1) count := by
  constructor
  · intro h
    refine ⟨h 0 (Nat.succ_pos count), fun i hi => ?_⟩
    have hnext := h (i + 1) (Nat.succ_lt_succ hi)
    rwa [Nat.add_comm i 1, ← Nat.add_assoc] at hnext
  · rintro ⟨hstart, hrest⟩ i hi
    cases i with
    | zero => exact hstart
    | succ i =>
      rw [Nat.add_comm i 1, ← Nat.add_assoc]
      exact hrest i (Nat.lt_of_succ_lt_succ hi)

/-- What a call does that passes its rules. -/
structure Plan (Id : Type) where
  /-- The calls to the database before the COMMIT. -/
  before : ℕ
  /-- The calls to the database between the COMMIT and the event. -/
  reads : ℕ
  tables : Tables Id
  event : Event
  gauge : Option (String × ℤ)
  returned : Returned Id

namespace Plan

/-- The world after the plan was carried out. -/
def completed (plan : Plan Id) (world : World Id) : World Id where
  tables := plan.tables
  events := world.events ++ [plan.event]
  gauges := plan.gauge.elim world.gauges fun (device_type, amount) =>
    Function.update world.gauges device_type (world.gauges device_type + amount)

/-- The calls from one on, the last of which adds the event. A call that fails ends them. -/
def announce (plan : Plan Id) (fates : ℕ → Fate) (start reads : ℕ) (world : World Id) :
    Except Raised (Returned Id) × World Id :=
  if Answered fates start (reads + 1) then (.ok plan.returned, plan.completed world)
  else if Answered fates start reads ∧ fates (start + reads) = .lost then
    (.error .CallError, { world with events := world.events ++ [plan.event] })
  else (.error .CallError, world)

/-- The calls from one on, of which so many stand before the COMMIT. -/
def carry_out (plan : Plan Id) (fates : ℕ → Fate) (start before : ℕ) (world : World Id) :
    Except Raised (Returned Id) × World Id :=
  if Answered fates start before ∧ fates (start + before) ≠ .refused then
    plan.announce fates (start + before) (plan.reads + 1) { world with tables := plan.tables }
  else (.error .CallError, world)

/-- The COMMIT takes effect. -/
def Committed (plan : Plan Id) (fates : ℕ → Fate) : Prop := Answered fates 0 plan.before ∧ fates plan.before ≠ .refused

/-- No call fails from the COMMIT on. -/
def Completed (plan : Plan Id) (fates : ℕ → Fate) : Prop := Answered fates plan.before (plan.reads + 2)

instance (plan : Plan Id) (fates : ℕ → Fate) : Decidable (plan.Completed fates) := inferInstanceAs (Decidable (Answered ..))

variable {plan : Plan Id} {fates : ℕ → Fate} {start : ℕ}

theorem announce_succ (h : fates start = .done) (reads : ℕ) (world : World Id) :
    plan.announce fates start (reads + 1) world = plan.announce fates (start + 1) reads world := by
  have hindex : start + (reads + 1) = start + 1 + reads := by omega
  simp only [announce, @answered_succ fates start, h, true_and, hindex]

theorem announce_error (h : fates start ≠ .done) (reads : ℕ) (world : World Id) :
    plan.announce fates start (reads + 1) world = (.error .CallError, world) := by
  simp only [announce, @answered_succ fates start, h, false_and, if_false]

theorem carry_out_succ (h : fates start = .done) (before : ℕ) (world : World Id) :
    plan.carry_out fates start (before + 1) world = plan.carry_out fates (start + 1) before world := by
  have hindex : start + (before + 1) = start + 1 + before := by omega
  simp only [carry_out, @answered_succ fates start, h, true_and, hindex]

theorem carry_out_error (h : fates start ≠ .done) (before : ℕ) (world : World Id) :
    plan.carry_out fates start (before + 1) world = (.error .CallError, world) := by
  simp only [carry_out, @answered_succ fates start, h, false_and, if_false]

theorem carry_out_not_committed (h : ¬ plan.Committed fates) (world : World Id) :
    plan.carry_out fates 0 plan.before world = (.error .CallError, world) := by
  rw [carry_out, Nat.zero_add]
  exact if_neg h

theorem carry_out_completed (hcommitted : plan.Committed fates) (h : plan.Completed fates) (world : World Id) :
    plan.carry_out fates 0 plan.before world = (.ok plan.returned, plan.completed world) := by
  rw [Committed] at hcommitted
  rw [Completed] at h
  rw [carry_out, Nat.zero_add, if_pos hcommitted, announce, if_pos h]
  rfl

/-- After a call that fails, what the COMMIT has written stays. -/
theorem carry_out_interrupted (hcommitted : plan.Committed fates) (h : ¬ plan.Completed fates) (world : World Id) :
    ∃ events, plan.carry_out fates 0 plan.before world =
      (.error .CallError, { world with tables := plan.tables, events }) := by
  rw [Committed] at hcommitted
  rw [Completed] at h
  rw [carry_out, Nat.zero_add, if_pos hcommitted, announce, if_neg h]
  split
  · exact ⟨_, rfl⟩
  · exact ⟨_, rfl⟩

end Plan

variable [DecidableEq Id]

/-- What raises ends the operation. -/
def Raises (op : Op Id) (next : op.Outcome → Operation Id (Returned Id)) : Prop :=
  ∀ e, next (.error e) = .ret (.error e)

/-- What is left to do after the event: the gauge at most. -/
inductive Counts : Operation Id (Returned Id) → Option (String × ℤ) → Returned Id → Prop where
  | ret (returned : Returned Id) : Counts (.ret (.ok returned)) none returned
  | gauge_inc {device_type : String} {amount : ℤ} {next : Except Raised Unit → Operation Id (Returned Id)}
      {returned : Returned Id} (hnext : next (.ok ()) = .ret (.ok returned)) :
      Counts (.perform (.gauge_inc device_type amount) next) (some (device_type, amount)) returned

/-- The operation makes so many calls in which it reads, and then adds its event. -/
inductive Announces (plan : Plan Id) : Operation Id (Returned Id) → ℕ → Prop where
  | stream_add {next : Except Raised Unit → Operation Id (Returned Id)} (hraises : Raises (.stream_add plan.event) next)
      (hnext : Counts (next (.ok ())) plan.gauge plan.returned) :
      Announces plan (.perform (.stream_add plan.event) next) 0
  | query {op : Op Id} {reply : op.Reply} {next : op.Outcome → Operation Id (Returned Id)} {reads : ℕ}
      (hquery : op.isQuery = true) (hexecute : plan.tables.execute op = .ok (plan.tables, reply))
      (hraises : Raises op next) (hnext : Announces plan (next (.ok reply)) reads) :
      Announces plan (.perform op next) (reads + 1)

/-- The operation makes so many calls, then a COMMIT, and announces what it has done. -/
inductive Passes (plan : Plan Id) : Tables Id → Operation Id (Returned Id) → ℕ → Prop where
  | commit {next : Except Raised Unit → Operation Id (Returned Id)} (hraises : Raises .commit next)
      (hnext : Announces plan (next (.ok ())) plan.reads) :
      Passes plan plan.tables (.perform .commit next) 0
  | query {working working' : Tables Id} {op : Op Id} {reply : op.Reply}
      {next : op.Outcome → Operation Id (Returned Id)} {before : ℕ} (hquery : op.isQuery = true)
      (hexecute : working.execute op = .ok (working', reply)) (hraises : Raises op next)
      (hnext : Passes plan working' (next (.ok reply)) before) :
      Passes plan working (.perform op next) (before + 1)

/-- The operation ends before a COMMIT, and has not succeeded. -/
inductive Ends : Tables Id → Operation Id (Returned Id) → Prop where
  | ret {working : Tables Id} {result : Except Raised (Returned Id)}
      (hfailed : ∀ returned, result = .ok returned → returned.success = false) : Ends working (.ret result)
  | query {working working' : Tables Id} {op : Op Id} {reply : op.Reply}
      {next : op.Outcome → Operation Id (Returned Id)} (hquery : op.isQuery = true)
      (hexecute : working.execute op = .ok (working', reply)) (hraises : Raises op next)
      (hnext : Ends working' (next (.ok reply))) : Ends working (.perform op next)
  | raises {working : Tables Id} {op : Op Id} {e : Raised} {next : op.Outcome → Operation Id (Returned Id)}
      (hquery : op.isQuery = true) (hexecute : working.execute op = .error e) (hraises : Raises op next) :
      Ends working (.perform op next)

theorem Ends.throws {working : Tables Id} (e : Raised) : Ends working (.ret (.error e)) := .ret nofun

section Runs

variable {fates : ℕ → Fate} {s : Session Id} {p : Operation Id (Returned Id)}

/-- An operation that ends before a COMMIT leaves everything as it is. -/
theorem Ends.run {working : Tables Id} (h : Ends working p) (hworking : s.working = working) :
    (run fates p s).2.toWorld = s.toWorld ∧ ∀ returned, (run fates p s).1 = .ok returned → returned.success = false := by
  induction h generalizing s with
  | ret hfailed => exact ⟨rfl, hfailed⟩
  | @query working working' op reply next hquery hexecute hraises hnext ih =>
    subst hworking
    rw [lifecycle.run, Session.send_query hquery]
    by_cases hfate : fates s.calls = .done
    · rw [hfate, Session.query_done hexecute]
      exact ih rfl
    · rw [Session.query_error s hfate, hraises]
      exact ⟨rfl, nofun⟩
  | @raises working op e next hquery hexecute hraises =>
    subst hworking
    rw [lifecycle.run, Session.send_query hquery]
    by_cases hfate : fates s.calls = .done
    · rw [hfate, Session.query_raises hexecute, hraises]
      exact ⟨rfl, nofun⟩
    · rw [Session.query_error s hfate, hraises]
      exact ⟨rfl, nofun⟩

theorem Counts.run {gauge : Option (String × ℤ)} {returned : Returned Id} (h : Counts p gauge returned) :
    ((run fates p s).1, (run fates p s).2.toWorld) = (.ok returned, { s.toWorld with
      gauges := gauge.elim s.gauges fun (device_type, amount) =>
        Function.update s.gauges device_type (s.gauges device_type + amount) }) := by
  cases h with
  | ret => rfl
  | gauge_inc hnext =>
    rw [lifecycle.run, Session.send, hnext]
    rfl

/-- What follows the COMMIT is answered and counted, or fails on the way. -/
theorem Announces.run {plan : Plan Id} {reads : ℕ} (h : Announces plan p reads) (htables : s.tables = plan.tables)
    (hworking : s.working = plan.tables) :
    ((run fates p s).1, (run fates p s).2.toWorld) = plan.announce fates s.calls reads s.toWorld := by
  induction h generalizing s with
  | stream_add hraises hnext =>
    rw [lifecycle.run, Session.send]
    cases hfate : fates s.calls with
    | done =>
      rw [Session.finish, Counts.run hnext, Plan.announce, if_pos (answered_succ.2 ⟨hfate, answered_zero fates _⟩),
        Plan.completed, ← htables]
    | refused =>
      rw [Session.finish, hraises, Plan.announce, if_neg (by simp [answered_succ, hfate]), if_neg (by simp [hfate])]
      rfl
    | lost =>
      rw [Session.finish, hraises, Plan.announce, if_neg (by simp [answered_succ, hfate]),
        if_pos ⟨answered_zero fates _, hfate⟩]
      rfl
  | query hquery hexecute hraises hnext ih =>
    rw [lifecycle.run, Session.send_query hquery]
    by_cases hfate : fates s.calls = .done
    · rw [← hworking] at hexecute
      rw [hfate, Session.query_done hexecute, Plan.announce_succ hfate]
      exact ih htables hworking
    · rw [Session.query_error s hfate, hraises, Plan.announce_error hfate]
      rfl

/-- An operation that passes its rules carries out its plan. -/
theorem Passes.run {plan : Plan Id} {working : Tables Id} {before : ℕ} (h : Passes plan working p before)
    (hworking : s.working = working) :
    ((run fates p s).1, (run fates p s).2.toWorld) = plan.carry_out fates s.calls before s.toWorld := by
  induction h generalizing s with
  | commit hraises hnext =>
    rw [lifecycle.run, Session.send, Plan.carry_out]
    simp only [Nat.add_zero]
    cases hfate : fates s.calls with
    | done =>
      rw [if_pos ⟨answered_zero fates _, nofun⟩, Plan.announce_succ hfate, Session.finish, ← hworking]
      exact hnext.run hworking hworking
    | refused =>
      rw [if_neg (by simp), Session.finish, hraises]
      rfl
    | lost =>
      rw [if_pos ⟨answered_zero fates _, nofun⟩, Plan.announce_error (by simp [hfate]), Session.finish, hraises, hworking]
      rfl
  | query hquery hexecute hraises hnext ih =>
    subst hworking
    rw [lifecycle.run, Session.send_query hquery]
    by_cases hfate : fates s.calls = .done
    · rw [hfate, Session.query_done hexecute, Plan.carry_out_succ hfate]
      exact ih rfl
    · rw [Session.query_error s hfate, hraises, Plan.carry_out_error hfate]
      rfl

end Runs

end gateway.device_manager.lifecycle
