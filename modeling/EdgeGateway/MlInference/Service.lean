import EdgeGateway.Library.Transition
import EdgeGateway.MlInference.InferenceEngine.FailedLoad

open gateway.inference_engine

namespace gateway.ml_inference

variable {A : Type}

/-- Load the most recent of the model files, which come newest first. -/
def load_initial_model (host : Host A) (onnx_files : List String) : Raising (Process A) PyExc Unit :=
  match onnx_files with
  | [] => return ()
  | model_path :: _ => load_model host model_path "" ""

/-- The process with the engine, and the statistics that the feature extractor holds. -/
abbrev App (A : Type) := Process A × JsonValue

/-- `feature_stats or {}`. -/
def or_empty (feature_stats : JsonValue) : JsonValue := if feature_stats.truthy then feature_stats else .dict []

/-- The startup of the service. -/
def lifespan (host : Host A) (onnx_files : List String) : Except PyExc (App A) := do
  let (outcome, process) := (load_initial_model host onnx_files).call { engine := {}, sessions := 0 }
  outcome
  let feature_stats ← process.engine.metadata.get "feature_stats" .null
  return (process, or_empty feature_stats)

/-- Replace the statistics of the feature extractor. -/
def set_stats (feature_stats : JsonValue) : Raising (App A) PyExc Unit :=
  modify fun (process, _) => (process, feature_stats)

/-- Trigger a model hot-swap. The outcome of `check_and_download` is given. -/
def reload_model (host : Host A) (check_and_download : Except PyExc (Option String)) :
    Raising (App A) PyExc Unit := do
  match ← check_and_download with
  | none => return ()
  | some new_model_path =>
    (hot_swap host new_model_path).onFst
    let (process, _) ← get
    set_stats (← process.engine.metadata.getItem "feature_stats")

/-- The service between requests, with the sidecar that was read for the model that the
engine scores with. -/
structure State (A : Type) where
  app : App A
  sidecar : Option JsonValue

/-- The sidecar of the session that the engine holds after the files were opened. -/
def sidecar_after (host : Host A) (model_path : String) (before after : Process A) (sidecar : Option JsonValue) :
    Option JsonValue :=
  if after.engine.session.map InferenceSession.id = before.engine.session.map InferenceSession.id then sidecar
  else (read_metadata host model_path).toOption

/-- A request to reload, what the process finds in its files then, and what the download
comes to. -/
structure Reload (A : Type) where
  host : Host A
  downloaded : Except PyExc (Option String)

def State.reload (s : State A) (request : Reload A) : State A :=
  let app := ((reload_model request.host request.downloaded).call s.app).2
  { app
    sidecar :=
      match request.downloaded with
      | .ok (some model_path) => sidecar_after request.host model_path s.app.1 app.1 s.sidecar
      | _ => s.sidecar }

def State.Started (s : State A) : Prop :=
  ∃ host onnx_files, lifespan host onnx_files = .ok s.app ∧
    s.sidecar = onnx_files.head?.bind fun model_path => (read_metadata host model_path).toOption

/-- The runs of the service from a successful startup. -/
def service : TransitionSystem (State A) (Reload A) where
  initial := State.Started
  step s request := some (s.reload request)

/-- The extractor holds the statistics of the sidecar, or none if that has none. -/
def Agrees (feature_stats sidecar : JsonValue) : Prop :=
  sidecar.getItem "feature_stats" = .ok feature_stats ∨
    feature_stats = .dict [] ∧ ∀ value, sidecar.getItem "feature_stats" = .ok value → value.truthy = false

/-- The statistics of the extractor are those of the model that the engine scores with. -/
def InSync (s : State A) : Prop := ∀ sidecar, s.sidecar = some sidecar → Agrees s.app.2 sidecar

/-- Both files load, and yet the model or the sidecar lacks what comes after them. -/
def Incomplete (metadata : JsonValue) (model : OnnxModel A) : Prop :=
  (∃ e, first_input model = .error e) ∨ (∃ e, read_error_threshold metadata = .error e) ∨
    ∃ e, metadata.getItem "feature_stats" = .error e

/-- What is downloaded is complete, or has the statistics that the extractor holds. -/
def CompleteOrSame (s : State A) (request : Reload A) : Prop :=
  ∀ model_path metadata model, request.downloaded = .ok (some model_path) →
    read_metadata request.host model_path = .ok metadata → request.host.open_onnx model_path = .ok model →
    Incomplete metadata model → Agrees s.app.2 metadata

variable {host : Host A} {model_path : String} {metadata : JsonValue} {model : OnnxModel A} {app : App A}

theorem call_reload_model (host : Host A) (model_path : String) (app : App A) :
    (reload_model host (.ok (some model_path))).call app =
      match (hot_swap host model_path).call app.1 with
      | (.error e, process) => (.error e, (process, app.2))
      | (.ok (), process) =>
        match process.engine.metadata.getItem "feature_stats" with
        | .error e => (.error e, (process, app.2))
        | .ok feature_stats => (.ok (), (process, feature_stats)) := by
  obtain ⟨process, stats⟩ := app
  unfold reload_model
  rw [Raising.call_bind, Raising.call_lift]
  dsimp only
  rw [Raising.call_bind, Raising.call_onFst]
  rcases (hot_swap host model_path).call process with ⟨_ | _, process'⟩
  · rfl
  · dsimp only
    rw [Raising.call_bind, Raising.call_get]
    dsimp only
    rw [Raising.call_bind, Raising.call_lift]
    cases process'.engine.metadata.getItem "feature_stats" with
    | error e => rfl
    | ok feature_stats => rfl

/-- The outcome of a reload by what is in the files. -/
theorem reload_unreadable (app : App A) (h : ∀ metadata model, read_metadata host model_path = .ok metadata →
    host.open_onnx model_path ≠ .ok model) :
    ∃ e process, (reload_model host (.ok (some model_path))).call app = (.error e, (process, app.2)) ∧
      process.engine = app.1.engine := by
  obtain ⟨e, process, hcall, hengine⟩ := hot_swap_unreadable app.1 h
  refine ⟨e, process, ?_, hengine⟩
  rw [call_reload_model, hcall]

theorem reload_incomplete (app : App A) (hmetadata : read_metadata host model_path = .ok metadata)
    (hmodel : host.open_onnx model_path = .ok model) (h : Incomplete metadata model) :
    ∃ e process, (reload_model host (.ok (some model_path))).call app = (.error e, (process, app.2)) ∧
      process.engine.session = some { id := app.1.sessions + 1, model } := by
  obtain ⟨outcome, process, hcall, hsession, hends⟩ := hot_swap_readable app.1 hmetadata hmodel
  rw [call_reload_model, hcall]
  obtain ⟨⟨e, rfl⟩, -⟩ | ⟨rfl, hnew, ⟨name, hinput⟩, threshold, hthreshold⟩ := hends
  · exact ⟨e, process, rfl, hsession⟩
  · obtain ⟨e, hstats⟩ : ∃ e, metadata.getItem "feature_stats" = .error e := by
      obtain ⟨e, he⟩ | ⟨e, he⟩ | hstats := h
      · rw [hinput] at he
        cases he
      · rw [hthreshold] at he
        cases he
      · exact hstats
    refine ⟨e, process, ?_, hsession⟩
    dsimp only
    rw [hnew, hstats]

theorem reload_complete (app : App A) (hmetadata : read_metadata host model_path = .ok metadata)
    (hmodel : host.open_onnx model_path = .ok model) (h : ¬ Incomplete metadata model) :
    ∃ process feature_stats, (reload_model host (.ok (some model_path))).call app = (.ok (), (process, feature_stats)) ∧
      metadata.getItem "feature_stats" = .ok feature_stats ∧
      process.engine.session = some { id := app.1.sessions + 1, model } ∧ process.engine.metadata = metadata := by
  obtain ⟨outcome, process, hcall, hsession, hends⟩ := hot_swap_readable app.1 hmetadata hmodel
  rw [call_reload_model, hcall]
  obtain ⟨-, hlate | hlate⟩ | ⟨rfl, hnew, -, -⟩ := hends
  · exact absurd (.inl hlate) h
  · exact absurd (.inr (.inl hlate)) h
  · cases hstats : metadata.getItem "feature_stats" with
    | error e => exact absurd (.inr (.inr ⟨e, hstats⟩)) h
    | ok feature_stats =>
      refine ⟨process, feature_stats, ?_, rfl, hsession, hnew⟩
      dsimp only
      rw [hnew, hstats]

theorem sidecar_after_of_session {before after : Process A} {sidecar : Option JsonValue}
    (hlive : before.Live) (hmetadata : read_metadata host model_path = .ok metadata)
    (hsession : after.engine.session = some { id := before.sessions + 1, model }) :
    sidecar_after host model_path before after sidecar = some metadata := by
  unfold sidecar_after
  rw [hsession, hmetadata, if_neg]
  · rfl
  · intro heq
    obtain ⟨session, hold, hid⟩ := Option.map_eq_some_iff.mp heq.symm
    have hlt : session.id < before.sessions := hlive session hold
    rw [hid] at hlt
    exact absurd hlt (Nat.not_lt.mpr (Nat.le_succ _))

/-- A reload keeps the statistics in step exactly if what it loads is complete, or has the
statistics that the extractor holds. -/
theorem reload_inSync_iff {s : State A} (hlive : s.app.1.Live) (hsync : InSync s) (request : Reload A) :
    CompleteOrSame s request ↔ InSync (s.reload request) := by
  obtain ⟨host, downloaded⟩ := request
  obtain e | (_ | model_path) := downloaded
  · exact ⟨fun _ => hsync, fun _ => nofun⟩
  · exact ⟨fun _ => hsync, fun _ => nofun⟩
  · by_cases hread : ∃ metadata model, read_metadata host model_path = .ok metadata ∧
        host.open_onnx model_path = .ok model
    · obtain ⟨metadata, model, hmetadata, hmodel⟩ := hread
      have hok : CompleteOrSame s ⟨host, .ok (some model_path)⟩ ↔
          (Incomplete metadata model → Agrees s.app.2 metadata) := by
        constructor
        · exact fun h => h model_path metadata model rfl hmetadata hmodel
        · rintro h path metadata' model' ⟨⟩ hmetadata' hmodel'
          cases hmetadata.symm.trans hmetadata'
          cases hmodel.symm.trans hmodel'
          exact h
      rw [hok]
      by_cases hincomplete : Incomplete metadata model
      · obtain ⟨e, process, hcall, hsession⟩ := reload_incomplete s.app hmetadata hmodel hincomplete
        simp only [hincomplete, true_implies, InSync, State.reload, hcall,
          sidecar_after_of_session hlive hmetadata hsession, Option.some.injEq, forall_eq']
      · obtain ⟨process, feature_stats, hcall, hstats, hsession, -⟩ :=
          reload_complete s.app hmetadata hmodel hincomplete
        simp only [hincomplete, false_implies, true_iff, InSync, State.reload, hcall,
          sidecar_after_of_session hlive hmetadata hsession, Option.some.injEq, forall_eq']
        exact .inl hstats
    · have hunreadable : ∀ metadata model, read_metadata host model_path = .ok metadata →
          host.open_onnx model_path ≠ .ok model := fun metadata model hm ho => hread ⟨metadata, model, hm, ho⟩
      obtain ⟨e, process, hcall, hengine⟩ := reload_unreadable s.app hunreadable
      refine ⟨fun _ => ?_, fun _ => ?_⟩
      · simp only [InSync, State.reload, hcall, sidecar_after, hengine, if_true]
        exact hsync
      · rintro path metadata model ⟨⟩ hmetadata hmodel
        exact absurd hmodel (hunreadable metadata model hmetadata)

theorem reload_model_live {downloaded : Except PyExc (Option String)} (hlive : app.1.Live) :
    ((reload_model host downloaded).call app).2.1.Live := by
  obtain e | (_ | model_path) := downloaded
  · exact hlive
  · exact hlive
  · have hswap : ((hot_swap host model_path).call app.1).2.Live := hot_swap_live hlive
    rw [call_reload_model]
    generalize (hot_swap host model_path).call app.1 = swapped at hswap ⊢
    obtain ⟨_ | _, process⟩ := swapped
    · exact hswap
    · dsimp only
      split <;> exact hswap

theorem agrees_or_empty {feature_stats : JsonValue} (h : metadata.get "feature_stats" .null = .ok feature_stats) :
    Agrees (or_empty feature_stats) metadata := by
  cases metadata with
  | dict items =>
    have hvalue : (items.lookup "feature_stats").getD .null = feature_stats := Except.ok.inj h
    unfold or_empty
    split
    · rename_i htruthy
      left
      cases hitem : items.lookup "feature_stats" with
      | none =>
        rw [hitem] at hvalue
        rw [← hvalue] at htruthy
        cases htruthy
      | some item =>
        rw [hitem] at hvalue
        simp only [JsonValue.getItem, hitem]
        exact congrArg Except.ok hvalue
    · rename_i hfalsy
      refine .inr ⟨rfl, fun value hitem => ?_⟩
      simp only [JsonValue.getItem] at hitem
      split at hitem
      · rename_i item hlookup
        cases hitem
        rw [hlookup, Option.getD_some] at hvalue
        rw [hvalue]
        exact Bool.eq_false_iff.mpr hfalsy
      · cases hitem
  | _ => cases h

/-- After a startup the extractor has the statistics of the model that was loaded. -/
theorem started {s : State A} (h : s.Started) : s.app.1.Live ∧ InSync s := by
  obtain ⟨host, onnx_files, hlifespan, hsidecar⟩ := h
  have hfresh : ({ engine := {}, sessions := 0 } : Process A).Live := nofun
  unfold lifespan at hlifespan
  cases onnx_files with
  | nil =>
    have happ : ({ engine := {}, sessions := 0 }, or_empty .null) = s.app := Except.ok.inj hlifespan
    refine ⟨by rw [← happ]; exact hfresh, fun sidecar hsome => ?_⟩
    rw [hsidecar] at hsome
    cases hsome
  | cons model_path rest =>
    have hlive : ((load_model host model_path "" "").call { engine := {}, sessions := 0 }).2.Live :=
      load_model_live hfresh
    cases hcall : (load_model host model_path "" "").call { engine := {}, sessions := 0 } with
    | mk outcome process =>
      rw [hcall] at hlive
      simp only [load_initial_model, hcall] at hlifespan
      obtain ⟨_, rfl, hstats⟩ := Except.bind_ok_iff.mp hlifespan
      obtain ⟨feature_stats, hget, hreturn⟩ := Except.bind_ok_iff.mp hstats
      have happ : s.app = (process, or_empty feature_stats) := (Except.ok.inj hreturn).symm
      refine ⟨by rw [happ]; exact hlive, fun sidecar hsome => ?_⟩
      rw [hsidecar, List.head?_cons, Option.bind_some, load_model_returned hcall] at hsome
      cases hsome
      rw [happ]
      exact agrees_or_empty hget

/-- In every run of the service the extractor holds the statistics of the model that the
engine scores with throughout, exactly if every reload meets the condition. -/
theorem statistics_in_sync_iff {trace : List (TransitionSystem.Transition (State A) (Reload A))} {s : State A}
    (h : service.Run trace s) :
    (∀ t ∈ trace, CompleteOrSame t.source t.action) ↔ ∀ t ∈ trace, InSync t.target := by
  refine TransitionSystem.Run.all_ok_iff_all_good (fun s hs => (started hs).2) ?_ h
  intro s request s' hreach hsync hstep
  have hlive : s.app.1.Live := by
    refine TransitionSystem.ReachableWhere.invariant (P := fun s : State A => s.app.1.Live) ?_ ?_ hreach
    · exact fun s hs => (started hs).1
    · rintro s request s' hlive _ ⟨⟩
      exact reload_model_live hlive
  cases hstep
  exact reload_inSync_iff hlive hsync request

/-- A directory in which every sidecar says the same. -/
def sample_host (sidecar : JsonValue) : Host Unit where
  read_text _ := .ok "sidecar"
  loads _ := .ok sidecar
  open_onnx _ := .ok constant_model
  utcnow := 0

def sample_stats : JsonValue := .dict [("temperature_sensor", .dict [("temperature_celsius", .list [.int 22, .int 3])])]

def sample_sidecar : JsonValue := .dict [("error_threshold", .int 1), ("feature_stats", sample_stats)]

/-- The service after its startup with that sidecar. -/
def sample_started : State Unit where
  app :=
    ({  engine :=
          { session := some { id := 0, model := constant_model }
            input_name := "features"
            loaded_at := some 0
            metadata := sample_sidecar
            error_threshold := .finite 1 }
        sessions := 1 }, sample_stats)
  sidecar := some sample_sidecar

theorem float_one : (JsonValue.int 1).toFloat = .ok (.finite 1) := by
  have hone : PyFloat.ofInt 1 = some (.finite 1) := by decide +kernel
  simp only [JsonValue.toFloat, hone]

theorem read_sample_sidecar (sidecar : JsonValue) :
    read_metadata (sample_host sidecar) "/models/edge_v1.onnx" = .ok sidecar := by
  have hpath : (PurePath.parse "/models/edge_v1.onnx").with_suffix ".json" =
      some { root := "/", parts := ["models", "edge_v1.json"] } := by decide
  unfold read_metadata
  rw [hpath]
  rfl

theorem sample_threshold (items : List (String × JsonValue)) :
    read_error_threshold (.dict (("error_threshold", .int 1) :: items)) = .ok (.finite 1) := by
  unfold read_error_threshold
  exact float_one

theorem sample_started_initial : sample_started.Started := by
  refine ⟨sample_host sample_sidecar, ["/models/edge_v1.onnx"], ?_, ?_⟩
  · have hload : (load_model (sample_host sample_sidecar) "/models/edge_v1.onnx" "" "").call
        { engine := {}, sessions := 0 } = (.ok (), sample_started.app.1) := by
      simp only [load_model, Raising.call_bind, Raising.call_lift, read_sample_sidecar,
        call_assign, sample_sidecar, sample_threshold]
      rfl
    simp only [lifespan, load_initial_model, hload]
    rfl
  · rw [List.head?_cons, Option.bind_some, read_sample_sidecar]
    rfl

/-- The same model is there again as a new version. -/
def complete_reload : Reload Unit where
  host := sample_host sample_sidecar
  downloaded := .ok (some "/models/edge_v1.onnx")

theorem statistics_in_sync_iff_reload :
    ∃ (trace : List (TransitionSystem.Transition (State Unit) (Reload Unit))) (s : State Unit),
      service.Run trace s ∧ trace ≠ [] ∧ ∀ t ∈ trace, InSync t.target := by
  have hrun : service.Run [⟨sample_started, complete_reload, sample_started.reload complete_reload⟩]
      (sample_started.reload complete_reload) := .step (.initial sample_started_initial) rfl
  refine ⟨_, _, hrun, List.cons_ne_nil _ _, (statistics_in_sync_iff hrun).mp ?_⟩
  rw [List.forall_mem_singleton]
  rintro model_path metadata model ⟨⟩ hmetadata - -
  cases (read_sample_sidecar sample_sidecar).symm.trans hmetadata
  exact .inl rfl

/-- A sidecar without statistics: the model is swapped, and then KeyError is raised. -/
def statless_reload : Reload Unit where
  host := sample_host (.dict [("error_threshold", .int 1)])
  downloaded := .ok (some "/models/edge_v1.onnx")

theorem statless_reload_keeps_stats : ¬ ∀ s : State Unit, service.Reachable s → InSync s := by
  intro hclaim
  have hstart := started sample_started_initial
  have hreach : service.Reachable (sample_started.reload statless_reload) :=
    .step (.initial sample_started_initial) trivial rfl
  have hok := (reload_inSync_iff hstart.1 hstart.2 statless_reload).mpr (hclaim _ hreach)
  obtain hsame | ⟨hempty, -⟩ :=
    hok _ _ _ rfl (read_sample_sidecar (.dict [("error_threshold", .int 1)])) rfl (.inr (.inr ⟨.KeyError, rfl⟩))
  · cases hsame
  · cases hempty

end gateway.ml_inference
