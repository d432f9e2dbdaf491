import EdgeGateway.DeviceManager.Lifecycle

/-! Operations that run one after the other, any of whose calls may fail. -/

namespace gateway.device_manager.lifecycle

variable {Id : Type} [DecidableEq Id]

structure Tables (Id : Type) where
  devices : Dict Id Device
  requests : Dict Id (ProvisioningRequest Id)

/-- The pending requests for a device. -/
def Tables.pending (tables : Tables Id) (device_id : Id) : List (ProvisioningRequest Id) :=
  tables.requests.values.filter fun request =>
    decide (request.device_id = device_id) && decide (request.status = .PENDING)

/-- What a statement makes of the tables. -/
def Tables.execute (tables : Tables Id) : (op : Op Id) → Except Raised (Tables Id × op.Reply)
  | .select_device device_id => .ok (tables, tables.devices.get? device_id)
  | .select_request request_id => .ok (tables, tables.requests.get? request_id)
  | .select_pending device_id => .ok (tables, tables.pending device_id)
  | .insert_device device_id device =>
    match tables.devices.get? device_id with
    | some _ => .error .IntegrityError
    | none => .ok ({ tables with devices := tables.devices.set device_id device }, ())
  | .insert_request request_id request =>
    match tables.requests.get? request_id with
    | some _ => .error .IntegrityError
    | none => .ok ({ tables with requests := tables.requests.set request_id request }, ())
  | .update_device device_id updates updated_at =>
    match tables.devices.get? device_id with
    | none => .ok (tables, false)
    | some device =>
      if updates.violates then .error .IntegrityError
      else .ok ({ tables with devices := tables.devices.set device_id (updates.apply updated_at device) }, true)
  | .update_request request_id status approved_at approved_by =>
    match tables.requests.get? request_id with
    | none => .error .StaleDataError
    | some request =>
      let request := { request with status, approved_at := some approved_at, approved_by := some approved_by }
      .ok ({ tables with requests := tables.requests.set request_id request }, ())
  | .commit | .stream_add _ | .gauge_inc _ _ => .ok (tables, ())

/-- What becomes of a call to the database or to Redis: it is answered, or it fails before or
after it has been carried out. -/
inductive Fate where
  | done
  | refused
  | lost
  deriving DecidableEq

/-- What the operations share. -/
structure World (Id : Type) where
  tables : Tables Id
  /-- The stream `device_events`. -/
  events : List Event
  /-- The gauge `ACTIVE_DEVICES`, by its label. -/
  gauges : String → ℤ

/-- An operation under way. -/
structure Session (Id : Type) extends World Id where
  /-- What its transaction sees. -/
  working : Tables Id
  /-- The calls that it has made. -/
  calls : ℕ

namespace Session

/-- The next call of the session, whose transaction is rolled back. -/
def rollback (s : Session Id) : Session Id := { s with working := s.tables, calls := s.calls + 1 }

/-- A statement in the transaction of the session. -/
def query (s : Session Id) (fate : Fate) (op : Op Id) : op.Outcome × Session Id :=
  match fate with
  | .done =>
    match s.working.execute op with
    | .ok (working, reply) => (.ok reply, { s with working, calls := s.calls + 1 })
    | .error e => (.error e, s.rollback)
  | .refused | .lost => (.error .CallError, s.rollback)

/-- The end of a call whose effect on the session is given. -/
def finish (s done : Session Id) : Fate → Except Raised Unit × Session Id
  | .done => (.ok (), done)
  | .refused => (.error .CallError, s.rollback)
  | .lost => (.error .CallError, done)

def send (fates : ℕ → Fate) (s : Session Id) : (op : Op Id) → op.Outcome × Session Id
  | .commit => s.finish { s with tables := s.working, calls := s.calls + 1 } (fates s.calls)
  | .stream_add event => s.finish { s with events := s.events ++ [event], calls := s.calls + 1 } (fates s.calls)
  | .gauge_inc device_type amount =>
    (.ok (), { s with gauges := Function.update s.gauges device_type (s.gauges device_type + amount) })
  | .select_device device_id => s.query (fates s.calls) (.select_device device_id)
  | .select_request request_id => s.query (fates s.calls) (.select_request request_id)
  | .select_pending device_id => s.query (fates s.calls) (.select_pending device_id)
  | .insert_device device_id device => s.query (fates s.calls) (.insert_device device_id device)
  | .insert_request request_id request => s.query (fates s.calls) (.insert_request request_id request)
  | .update_device device_id updates updated_at => s.query (fates s.calls) (.update_device device_id updates updated_at)
  | .update_request request_id status approved_at approved_by =>
    s.query (fates s.calls) (.update_request request_id status approved_at approved_by)

end Session

/-- Run an operation whose calls have these fates. -/
def run {α : Type} (fates : ℕ → Fate) : Program (Op Id) Op.Outcome α → Session Id → α × Session Id
  | .ret a, s => (a, s)
  | .perform op next, s => run fates (next (s.send fates op).1) (s.send fates op).2

/-- An operation in a session of its own. -/
def World.call {α : Type} (world : World Id) (fates : ℕ → Fate) (operation : Operation Id α) : Except Raised α × World Id :=
  let (result, s) := run fates operation.run { world with working := world.tables, calls := 0 }
  (result, s.toWorld)

/-- The op is a statement in a transaction, not its COMMIT. -/
def Op.isQuery : Op Id → Bool
  | .commit | .stream_add _ | .gauge_inc _ _ => false
  | _ => true

namespace Session

theorem send_query {op : Op Id} (hquery : op.isQuery = true) (fates : ℕ → Fate) (s : Session Id) :
    s.send fates op = s.query (fates s.calls) op := by
  cases op with
  | commit | stream_add event | gauge_inc device_type amount => cases hquery
  | _ => rfl

theorem query_error (s : Session Id) {fate : Fate} (hfate : fate ≠ .done) (op : Op Id) :
    s.query fate op = (.error .CallError, s.rollback) := by
  cases fate with
  | done => exact absurd rfl hfate
  | refused | lost => rfl

theorem query_done {s : Session Id} {op : Op Id} {working : Tables Id} {reply : op.Reply}
    (h : s.working.execute op = .ok (working, reply)) :
    s.query .done op = (.ok reply, { s with working, calls := s.calls + 1 }) := by
  simp only [query, h]

theorem query_raises {s : Session Id} {op : Op Id} {e : Raised} (h : s.working.execute op = .error e) :
    s.query .done op = (.error e, s.rollback) := by
  simp only [query, h]

end Session

end gateway.device_manager.lifecycle
