import EdgeGateway.CloudApi.Models
import EdgeGateway.Library.Sessions

open gateway.cloud_api.models (MLModel newer)

namespace gateway.cloud_api.model_registry

/-- Request body to register a new model version. -/
structure ModelCreate where
  name : String
  version : String
  framework : String := "onnx"
  description : String := ""
  file_url : String
  metrics : List (String × JsonValue) := []

/-- The texts are no longer than their columns. -/
def ModelCreate.fits (model : ModelCreate) : Bool :=
  model.name.length ≤ 100 && model.version.length ≤ 50 && model.framework.length ≤ 50 && model.file_url.length ≤ 500

/-- The row of a new model, with what the server fills in for `created_at`. -/
def ModelCreate.row (id : Uuid) (model : ModelCreate) (now : ℤ) : MLModel :=
  { id
    name := model.name
    version := model.version
    framework := some model.framework
    description := some model.description
    file_url := model.file_url
    metrics := some (.dict model.metrics)
    is_active := some true
    created_at := some now }

/-- What an operation does in a session of its own, which its exceptions close. -/
abbrev Operation (α : Type) := Session Uuid MLModel ℤ α

/-- Insert a new model version, under the id that `uuid4` gives, and return the created record. -/
def register_model (id : Uuid) (model : ModelCreate) : Operation (Option MLModel) := do
  if model.fits then
    if ← Sessions.execute (.insert id (model.row id)) then
      Sessions.execute .commit
      Sessions.execute (.select id)
    else return none
  else return none

/-- Soft-delete a model by setting `is_active = False`. A row that is inactive already is not written. -/
def delete_model (model_id : Uuid) : Operation (Option Bool) := do
  match ← Sessions.execute (.select model_id) with
  | none => return some false
  | some row =>
    if row.is_active = some false then
      Sessions.execute .commit
      return some true
    else if ← Sessions.execute (.update model_id fun row => { row with is_active := some false }) then
      Sessions.execute .commit
      return some true
    else return none

/-- What an operation reads in a session of its own. -/
abbrev Reading (α : Type) := Sessions.Reader Uuid MLModel α

/-- `ORDER BY created_at DESC`, which leaves the order of rows of one time open. -/
structure NewestFirst where
  sort : List MLModel → List MLModel
  perm : ∀ rows, (sort rows).Perm rows
  sorted : ∀ rows, (sort rows).Pairwise fun a b => newer a b = true

theorem newer_total (a b : MLModel) : (newer a b || newer b a) = true := by
  unfold newer
  cases a.created_at with
  | none => rfl
  | some t =>
    cases b.created_at with
    | none => rfl
    | some t' => simp [Int.le_total]

theorem newer_refl (row : MLModel) : newer row row = true := by
  have h := newer_total row row
  rwa [Bool.or_self] at h

theorem newer_trans (a b c : MLModel) (hab : newer a b = true) (hbc : newer b c = true) : newer a c = true := by
  unfold newer at *
  cases ha : a.created_at with
  | none => rfl
  | some t =>
    cases hb : b.created_at with
    | none => simp [ha, hb] at hab
    | some t' =>
      cases hc : c.created_at with
      | none => simp [hb, hc] at hbc
      | some t'' =>
        simp only [ha, hb, decide_eq_true_iff] at hab
        simp only [hb, hc, decide_eq_true_iff] at hbc
        simp only [decide_eq_true_iff]
        exact hbc.trans hab

/-- The rows of one time as they come. -/
def NewestFirst.stable : NewestFirst where
  sort rows := rows.mergeSort newer
  perm rows := rows.mergeSort_perm newer
  sorted rows := List.pairwise_mergeSort newer_trans newer_total rows

section Readings

variable (order_by : NewestFirst)

/-- List model versions, optionally filtered by name. -/
def list_models (name_filter : Option String) : Reading (List MLModel) := do
  let rows ← Sessions.read (.select_where fun row =>
    decide (row.is_active = some true) && (name_filter.filter (· ≠ "")).all (row.name = ·))
  return order_by.sort rows

/-- Fetch a single model by primary key. -/
def get_model (model_id : Uuid) : Reading (Option MLModel) := Sessions.read (.select model_id)

/-- Return the most recently created active model version for a given name. -/
def get_latest_model (model_name : String) : Reading (Option MLModel) := do
  let rows ← Sessions.read (.select_where fun row => decide (row.name = model_name) && decide (row.is_active = some true))
  return (order_by.sort rows).head?

end Readings

/-- The requests that write. -/
inductive Request where
  | create_model (id : Uuid) (model : ModelCreate)
  | delete_model_endpoint (model_id : Uuid)

inductive Response where
  | created (model : MLModel)
  | deleted (id : Uuid)
  | http_exception (status_code : ℕ)

/-- A request with its response. -/
def Request.operation : Request → Operation (Request × Response)
  | .create_model id model => do
    match ← register_model id model with
    | some result => return (.create_model id model, .created result)
    | none => return (.create_model id model, .http_exception 500)
  | .delete_model_endpoint model_id => do
    match ← delete_model model_id with
    | some true => return (.delete_model_endpoint model_id, .deleted model_id)
    | some false => return (.delete_model_endpoint model_id, .http_exception 404)
    | none => return (.delete_model_endpoint model_id, .http_exception 500)

/-- A model version never changes but for its deletion. -/
def schema : TableSchema Uuid MLModel Uuid where
  key := MLModel.id
  index := MLModel.id
  Follows row row' := row' = row ∨ row' = { row with is_active := some false }
  refl _ := .inl rfl
  trans := by
    rintro row _ _ (rfl | rfl) (rfl | rfl)
    · exact .inl rfl
    · exact .inr rfl
    · exact .inr rfl
    · exact .inr rfl
  key_eq := by rintro row _ (rfl | rfl) <;> rfl
  index_eq := by rintro row _ (rfl | rfl) <;> rfl

abbrev State := Sessions.State Uuid MLModel ℤ (Request × Response)
abbrev Action := Sessions.Action Request ℤ

/-- Any number of requests at once. -/
def requests : Threads ℕ Request (Table Uuid MLModel) (Sessions.Statement Uuid MLModel ℤ) Sessions.Statement.Reply
    (Request × Response) ℤ := Sessions.threads schema Request.operation

def system : TransitionSystem State Action := Sessions.system schema Request.operation

theorem operation_lawful (request : Request) : request.operation.Always (Sessions.Lawful schema) := by
  cases request with
  | create_model id model =>
    refine Sessions.Lawful.bind ?_ fun result => ?_
    · unfold register_model
      split
      · refine Sessions.Lawful.bind ⟨fun _ => rfl, fun _ => trivial⟩ fun inserted => ?_
        split
        · exact ⟨trivial, fun _ => ⟨trivial, fun _ => trivial⟩⟩
        · trivial
      · trivial
    · cases result <;> trivial
  | delete_model_endpoint model_id =>
    refine Sessions.Lawful.bind ⟨trivial, fun found => ?_⟩ fun deleted => ?_
    · cases found with
      | none => trivial
      | some row =>
        change Program.Always _ (if row.is_active = some false then _ else _ : Operation (Option Bool))
        split
        · exact ⟨trivial, fun _ => trivial⟩
        · refine Sessions.Lawful.bind ⟨fun _ => .inr rfl, fun _ => trivial⟩ fun updated => ?_
          split
          · exact ⟨trivial, fun _ => trivial⟩
          · trivial
    · split <;> trivial

/-- What a response says of the registry. -/
def Kept (request : Request) (response : Response) (table : Table Uuid MLModel) : Prop :=
  match request, response with
  | .create_model id model, .created result =>
    table.committed id = some result ∧ ∃ now, schema.Follows (model.row id now) result
  | .delete_model_endpoint model_id, .deleted id =>
    id = model_id ∧ ∃ row, table.committed id = some row ∧ row.is_active = some false
  | _, _ => True

theorem inactive_of_follows {row row' : MLModel} (h : schema.Follows row row') (hrow : row.is_active = some false) :
    row'.is_active = some false := by
  obtain rfl | rfl := h
  · exact hrow
  · rfl

/-- A deleted model does not change any more. -/
theorem eq_of_follows {row row' : MLModel} (h : schema.Follows row row') (hrow : row.is_active = some false) : row' = row := by
  obtain rfl | rfl := h
  · rfl
  · rw [← hrow]

section Ensures

variable {tx : ℕ} {table : Table Uuid MLModel}

theorem register_model_ensures (id : Uuid) (model : ModelCreate) :
    Sessions.Ensures schema Request.operation tx (fun result table => ∀ row, result = some row →
      table.committed id = some row ∧ ∃ now, schema.Follows (model.row id now) row) (register_model id model) table := by
  unfold register_model
  split
  · intro seen now inserted reply hrelies hcoherent hinsert
    cases reply with
    | false =>
      intro row hrow
      cases hrow
    | true =>
      obtain ⟨-, -, hwritten⟩ := Table.written_insert (Sessions.insert_of_true hinsert).2
      have hown : inserted.written id = some (tx, model.row id now) := by rw [hwritten, if_pos rfl]
      intro seen' _ table' _ hrelies' _ hcommit
      cases hcommit
      have hcommitted := Sessions.committed_commit_own ((hrelies'.own id _).mpr hown)
      intro seen'' _ table'' found hrelies'' _ hselect row hrow
      cases hselect
      have hclean' := (Sessions.clean_commit tx seen').relies hrelies''
      rw [Table.select_eq_committed (hclean' id)] at hrow
      obtain ⟨row', hrow', hfollows⟩ := hrelies''.evolves id _ hcommitted
      obtain rfl := Option.some.inj (hrow'.symm.trans hrow)
      exact ⟨hrow, now, hfollows⟩
  · intro row hrow
    cases hrow

theorem delete_model_ensures (hclean : Sessions.Clean tx table) (model_id : Uuid) :
    Sessions.Ensures schema Request.operation tx (fun result table => result = some true →
      ∃ row, table.committed model_id = some row ∧ row.is_active = some false) (delete_model model_id) table := by
  intro seen now table₁ found hrelies hcoherent hselect
  cases hselect
  rw [Table.select_eq_committed (hclean.relies hrelies model_id)]
  cases hfound : seen.committed model_id with
  | none => 
    intro h
    cases h
  | some row =>
    change Sessions.Ensures schema Request.operation tx _ (if row.is_active = some false then _ else _ : Operation (Option Bool)) seen
    split
    · rename_i hinactive
      intro seen' _ table' _ hrelies' hcoherent' hcommit _
      cases hcommit
      obtain ⟨row', hrow', hfollows⟩ := hrelies'.evolves model_id row hfound
      obtain ⟨row'', hrow'', hfollows'⟩ := (hcoherent'.commit tx).2 model_id row' hrow'
      exact ⟨row'', hrow'', inactive_of_follows (schema.trans hfollows hfollows') hinactive⟩
    · intro seen' _ updated found hrelies' _ hupdate
      cases found with
      | false =>
        intro h
        cases h
      | true =>
        have hclean' := (hclean.relies hrelies).relies hrelies'
        obtain ⟨-, value, -, hwritten⟩ := Table.written_update_found hupdate (hclean' model_id)
        have hown : updated.written model_id = some (tx, { value with is_active := some false }) := by
          rw [hwritten, if_pos rfl]
        intro seen'' _ table'' _ hrelies'' _ hcommit _
        cases hcommit
        exact ⟨_, Sessions.committed_commit_own ((hrelies''.own model_id _).mpr hown), rfl⟩

theorem operation_ensures (hclean : Sessions.Clean tx table) (request : Request) :
    Sessions.Ensures schema Request.operation tx (fun answer table => Kept answer.1 answer.2 table) request.operation table := by
  cases request with
  | create_model id model =>
    refine Threads.Ensures.bind ((register_model_ensures id model).mono fun result table h => ?_)
    cases result with
    | none => trivial
    | some row => exact h row rfl
  | delete_model_endpoint model_id =>
    refine Threads.Ensures.bind ((delete_model_ensures hclean model_id).mono fun result table h => ?_)
    split
    · exact ⟨rfl, h rfl⟩
    · trivial
    · trivial

end Ensures

variable {ok : State → Action → Prop} {s s' s'' : State}

/-- What a response says of the registry is so when it is sent. -/
theorem kept_of_returned (h : system.ReachableWhere ok s) {tx : ℕ} {choice : ℤ} {request : Request} {response : Response}
    (hreturned : requests.returned s tx choice = some (request, response))
    (hstep : requests.step s (.perform tx choice) = some s') : Kept request response s'.shared := by
  obtain ⟨table, hkept, hcommitted⟩ := Sessions.post_of_returned operation_lawful
    (fun _ request _ hclean => operation_ensures hclean request) h hreturned hstep
  cases request with
  | create_model id model =>
    cases response with
    | created result => exact ⟨(hcommitted id).trans hkept.1, hkept.2⟩
    | deleted id => trivial
    | http_exception status_code => trivial
  | delete_model_endpoint model_id =>
    cases response with
    | created result => trivial
    | deleted id =>
      obtain ⟨hid, row, hrow, hinactive⟩ := hkept
      exact ⟨hid, row, (hcommitted id).trans hrow, hinactive⟩
    | http_exception status_code => trivial

/-- A reading that is begun in one state of a run and answered in a later one. -/
abbrev Reads {α : Type} (ok : State → Action → Prop) (p : Reading α) (s : State) (a : α) (s' : State) : Prop :=
  system.ObservesWhere ok (fun s => Sessions.query s.shared) p s a s'

section Readings

variable {order_by : NewestFirst}

/-- `get_model` shows the row as it was committed at a moment of the reading. -/
theorem reads_get_model {model_id : Uuid} {found : Option MLModel} (h : Reads ok (get_model model_id) s found s') :
    ∃ seen, system.StepsWhere ok s seen ∧ system.StepsWhere ok seen s' ∧ found = seen.shared.committed model_id := by
  obtain ⟨seen, hbefore, hafter, heq⟩ := TransitionSystem.observes_op_iff.mp h
  exact ⟨seen, hbefore, hafter, heq.symm⟩

/-- `list_models` shows active rows that were committed at a moment of the reading. -/
theorem reads_list_models {name_filter : Option String} {models : List MLModel}
    (h : Reads ok (list_models order_by name_filter) s models s') :
    ∃ seen, system.StepsWhere ok s seen ∧ system.StepsWhere ok seen s' ∧
      ∀ model ∈ models, model.is_active = some true ∧ ∃ id, seen.shared.committed id = some model := by
  obtain ⟨rows, mid, hread, hret⟩ := TransitionSystem.observes_bind_iff.mp h
  obtain ⟨seen, hbefore, hafter, heq⟩ := TransitionSystem.observes_op_iff.mp hread
  obtain ⟨rfl, hlater⟩ := TransitionSystem.observes_ret_iff.mp hret
  refine ⟨seen, hbefore, hafter.trans hlater, fun model hmodel => ?_⟩
  have hmem := (order_by.perm rows).mem_iff.mp hmodel
  rw [← heq] at hmem
  obtain ⟨hrow, hwhere⟩ := List.mem_filter.mp hmem
  exact ⟨of_decide_eq_true (Bool.and_eq_true_iff.mp hwhere).1, Sessions.mem_rows_iff.mp hrow⟩

/-- `get_latest_model` shows the newest of the active rows of the name that were committed at a moment of the reading. -/
theorem reads_get_latest_model {model_name : String} {latest : Option MLModel}
    (h : Reads ok (get_latest_model order_by model_name) s latest s') :
    ∃ seen, system.StepsWhere ok s seen ∧ system.StepsWhere ok seen s' ∧
      (∀ model, latest = some model → model.name = model_name ∧ model.is_active = some true ∧
        ∃ id, seen.shared.committed id = some model) ∧
      ∀ id row, seen.shared.committed id = some row → row.name = model_name → row.is_active = some true →
        ∃ model, latest = some model ∧ newer model row = true := by
  obtain ⟨rows, mid, hread, hret⟩ := TransitionSystem.observes_bind_iff.mp h
  obtain ⟨seen, hbefore, hafter, heq⟩ := TransitionSystem.observes_op_iff.mp hread
  obtain ⟨rfl, hlater⟩ := TransitionSystem.observes_ret_iff.mp hret
  have hrows : ∀ row, row ∈ order_by.sort rows ↔
      (∃ id, seen.shared.committed id = some row) ∧ row.name = model_name ∧ row.is_active = some true := by
    intro row
    rw [(order_by.perm rows).mem_iff, ← heq, Sessions.query, List.mem_filter, Sessions.mem_rows_iff, Bool.and_eq_true_iff,
      decide_eq_true_iff, decide_eq_true_iff]
  refine ⟨seen, hbefore, hafter.trans hlater, fun model hmodel => ?_, fun id row hrow hname hactive => ?_⟩
  · obtain ⟨hcommitted, hname, hactive⟩ := (hrows model).mp (List.mem_of_mem_head? hmodel)
    exact ⟨hname, hactive, hcommitted⟩
  · have hmem := (hrows row).mpr ⟨⟨id, hrow⟩, hname, hactive⟩
    have hsorted := order_by.sorted rows
    cases hsort : order_by.sort rows with
    | nil =>
      rw [hsort] at hmem
      cases hmem
    | cons model rest =>
      rw [hsort] at hmem hsorted
      refine ⟨model, rfl, ?_⟩
      obtain rfl | hrest := List.mem_cons.mp hmem
      · exact newer_refl row
      · exact (List.pairwise_cons.mp hsorted).1 row hrest

end Readings

theorem key_eq_of_committed (h : system.ReachableWhere ok s) {id : Uuid} {row : MLModel}
    (hrow : s.shared.committed id = some row) : row.id = id :=
  (Sessions.coherent_reachable operation_lawful h).keyed id row (.inl hrow)

/-- The registry without models. -/
def empty : State := { shared := { items := [], nodup := List.nodup_nil }, threads := fun _ => none }

theorem initial_empty : system.initial empty := by
  refine ⟨⟨⟨?_, ?_, ?_⟩, fun _ => rfl⟩, fun _ => rfl⟩
  · rintro k v (h | ⟨tx, h⟩) <;> cases h
  · rintro k k' v v' (h | ⟨tx, h⟩) <;> cases h
  · rintro k tx v c h
    cases h

def release : ModelCreate := { name := "anomaly_detector", version := "1.0.0", file_url := "s3://models/anomaly.onnx" }

/-- Once a registration is confirmed, the model is shown under its id with the metadata of the request. As long as no
model of its name is deleted, the latest one is this model or a newer one. -/
theorem registered_models_are_served (order_by : NewestFirst) {tx : ℕ} {choice : ℤ} {id : Uuid} {model : ModelCreate}
    {result : MLModel} (h : system.ReachableWhere ok s)
    (hreturned : requests.returned s tx choice = some (.create_model id model, .created result))
    (hok : ok s (.perform tx choice)) (hstep : requests.step s (.perform tx choice) = some s') :
    (∃ now, result = model.row id now ∨ result = { model.row id now with is_active := some false }) ∧
      (∀ found s'', Reads ok (get_model id) s' found s'' →
        found = some result ∨ found = some { result with is_active := some false }) ∧
      ((∀ s a, ok s a → Sessions.Spares (fun row => row.name = model.name) s a) → result.is_active = some true →
        ∀ latest s'', Reads ok (get_latest_model order_by model.name) s' latest s'' →
          ∃ row, latest = some row ∧ row.name = model.name ∧ newer row result = true) := by
  have hreach : system.ReachableWhere ok s' := .step (a := .perform tx choice) h hok hstep
  obtain ⟨hrow, now, hresult⟩ := kept_of_returned h hreturned hstep
  refine ⟨⟨now, hresult⟩, fun found s'' hread => ?_, fun hspares hactive latest s'' hread => ?_⟩
  · obtain ⟨seen, hsteps, -, rfl⟩ := reads_get_model hread
    obtain ⟨row', hrow', hfollows⟩ := Sessions.evolves_steps operation_lawful hreach hsteps id result hrow
    rw [hrow']
    exact hfollows.imp (congrArg some) (congrArg some)
  · obtain ⟨seen, hsteps, -, hlatest, hnewest⟩ := reads_get_latest_model hread
    have hname : result.name = model.name := by
      obtain rfl | rfl := hresult <;> rfl
    have hspared := hreach.mono fun s a _ => hspares s a
    have hkept := Sessions.keeps_steps hspared (hsteps.mono hspares) id result hrow hname
    obtain ⟨row, heq, hnewer⟩ := hnewest id result hkept hname hactive
    exact ⟨row, heq, (hlatest row heq).1, hnewer⟩

/-- A model is registered while no other request is running. -/
theorem registered_models_are_served_release : ∃ (s s' : State) (result : MLModel),
    requests.returned s 0 0 = some (.create_model 7 release, .created result) ∧
      ∀ latest s'', Reads (Sessions.Spares fun row => row.name = release.name)
        (get_latest_model .stable release.name) s' latest s'' →
          ∃ row, latest = some row ∧ row.name = release.name ∧ newer row result = true := by
  have hrun : ∃ s s', system.replay Sessions.sparing empty
      [.start 0 (.create_model 7 release), .perform 0 100, .perform 0 0] = some s ∧
      requests.returned s 0 0 = some (.create_model 7 release, .created (release.row 7 100)) ∧
      Sessions.sparing s (.perform 0 0 : Action) = true ∧
      requests.step s (.perform 0 0) = some s' := ⟨_, _, rfl, rfl, rfl, rfl⟩
  obtain ⟨s, s', hreplay, hreturned, hsparing, hstep⟩ := hrun
  have hreach : system.ReachableWhere (Sessions.Spares fun row => row.name = release.name) s :=
    TransitionSystem.replay_reachable (fun _ _ => Sessions.spares_of_sparing) (.initial initial_empty) hreplay
  exact ⟨s, s', _, hreturned, (registered_models_are_served .stable hreach hreturned
    (Sessions.spares_of_sparing hsparing) hstep).2.2 (fun _ _ h => h) rfl⟩

/-- As long as no model of a name is deleted, the latest one is never an older one than before. -/
theorem latest_never_goes_back (order_by : NewestFirst) {model_name : String} {earlier : MLModel} {latest : Option MLModel}
    (h : system.ReachableWhere (Sessions.Spares fun row => row.name = model_name) s)
    (hearlier : Reads (Sessions.Spares fun row => row.name = model_name) (get_latest_model order_by model_name) s
      (some earlier) s')
    (hlatest : Reads (Sessions.Spares fun row => row.name = model_name) (get_latest_model order_by model_name) s' latest s'') :
    ∃ row, latest = some row ∧ newer row earlier = true := by
  obtain ⟨seen, hbefore, hafter, hshown, -⟩ := reads_get_latest_model hearlier
  obtain ⟨seen', hbefore', -, -, hnewest⟩ := reads_get_latest_model hlatest
  obtain ⟨hname, hactive, id, hcommitted⟩ := hshown earlier rfl
  have hkept := Sessions.keeps_steps (hbefore.reachable h) (hafter.trans hbefore') id earlier hcommitted hname
  exact hnewest id earlier hkept hname hactive

/-- Two readings after a registration. -/
theorem latest_never_goes_back_release : ∃ s : State, ∃ row,
    Reads (Sessions.Spares fun row => row.name = release.name) (get_latest_model .stable release.name) s (some row) s ∧
      ∃ later, some row = some later ∧ newer later row = true := by
  have hrun : ∃ s, system.replay Sessions.sparing empty
      [.start 0 (.create_model 7 release), .perform 0 100, .perform 0 0, .perform 0 0] = some s ∧
      Sessions.rows s.shared = [release.row 7 100] := ⟨_, rfl, rfl⟩
  obtain ⟨s, hreplay, hrows⟩ := hrun
  have hreach : system.ReachableWhere (Sessions.Spares fun row => row.name = release.name) s :=
    TransitionSystem.replay_reachable (fun _ _ => Sessions.spares_of_sparing) (.initial initial_empty) hreplay
  have hread : Reads (Sessions.Spares fun row => row.name = release.name) (get_latest_model .stable release.name) s
      (some (release.row 7 100)) s := by
    have hlatest : (NewestFirst.stable.sort (Sessions.query s.shared (.select_where fun row =>
        decide (row.name = release.name) && decide (row.is_active = some true)))).head? = some (release.row 7 100) := by
      rw [Sessions.query, hrows]
      simp [NewestFirst.stable, ModelCreate.row]
    rw [← hlatest]
    exact .look .ret
  exact ⟨s, _, hread, latest_never_goes_back .stable hreach hread hread⟩

end gateway.cloud_api.model_registry
