import EdgeGateway.MlInference.ModelManager

open gateway.inference_engine gateway.ml_inference

namespace gateway.model_manager

variable {A : Type} {libraries : Libraries A} {model_dir : String} {attempt : Attempt} {offer : Offer}
  {files : FileSystem} {target_path : String} {sidecar content : List UInt8} {metadata : JsonValue}
  {model : OnnxModel A}

def Libraries.offered (libraries : Libraries A) (model_dir : String) (offer : Offer) : String :=
  libraries.target_path model_dir offer.name offer.version

/-- The part of `check_and_download` behind its checks. -/
def fetch (attempt : Attempt) (offer : Offer) (target_path : String) : Raising FileSystem PyExc (Option String) := do
  let metadata_url ← metadata_url_of offer.latest offer.download_url
  let _ ← download_model attempt metadata_url (sidecar_of target_path)
  let path ← download_model attempt offer.download_url target_path
  return some path

/-- The engine serves the model with its metadata, and the extractor has its statistics. -/
structure Station.Serves (s : Station A) (metadata : JsonValue) (model : OnnxModel A) : Prop where
  session : ∃ id, s.app.1.engine.session = some { id, model }
  engine_metadata : s.app.1.engine.metadata = metadata
  feature_stats : metadata.getItem "feature_stats" = .ok s.app.2

/-- A reload that puts the model with this path in place. -/
def Installs (libraries : Libraries A) (model_dir : String) (path : PurePath) (s : Station A) : Action → Prop
  | .reload attempt =>
    (s.reload libraries model_dir attempt).1 = .ok () ∧
      ∃ target_path, ((check_and_download libraries attempt model_dir).call s.files).1 = .ok (some target_path) ∧
        PurePath.parse target_path = path
  | .restart _ => False

/-- A failed attempt does no harm: the same version can be installed later unless that was
done meanwhile, and a restart loads what it would have loaded. -/
structure Recovers (libraries : Libraries A) (model_dir : String) (ok : Station A → Action → Prop) (s : Station A)
    (attempt : Attempt) : Prop where
  retry : ∀ offer, attempt.Offers offer → ∀ s' later again sidecar content metadata model,
    (station libraries model_dir).StepsWhere
      (fun s a => ok s a ∧ ¬ Installs libraries model_dir (PurePath.parse (libraries.offered model_dir offer)) s a)
      (s.reload libraries model_dir attempt).2 s' →
    later.Offers again → again.name = offer.name → again.version = offer.version →
    later.Downloads again (libraries.offered model_dir offer) sidecar content →
    libraries.Loads sidecar content metadata model →
      (s'.reload libraries model_dir later).1 = .ok () ∧ (s'.reload libraries model_dir later).2.Serves metadata model
  restart : ∀ utcnow process,
    (load_initial_model (libraries.host (s.reload libraries model_dir attempt).2.files utcnow)
        (onnx_files (s.reload libraries model_dir attempt).2.files model_dir)).call process =
      (load_initial_model (libraries.host s.files utcnow) (onnx_files s.files model_dir)).call process

/-- Names of models are names of files, and a model file that is opened for writing is
written to its end and loads. -/
def LeavesWholeFiles (libraries : Libraries A) (model_dir : String) (s : Station A) : Action → Prop
  | .reload attempt => ∀ offer, attempt.Offers offer → s.files.has (libraries.offered model_dir offer) = false →
    libraries.NamesFile offer.name offer.version ∧
      ∀ metadata_url sidecar content, metadata_url_of offer.latest offer.download_url = .ok metadata_url →
        attempt.get metadata_url = .ok sidecar →
        attempt.write (sidecar_of (libraries.offered model_dir offer)) = .completes →
        attempt.get offer.download_url = .ok content →
        (∃ e, attempt.write (libraries.offered model_dir offer) = .refused e) ∨
          attempt.write (libraries.offered model_dir offer) = .completes ∧
            ∃ metadata model, libraries.Loads sidecar content metadata model
  | .restart _ => True

theorem call_of_no_offer (h : ∀ offer, ¬ attempt.Offers offer) :
    ((check_and_download libraries attempt model_dir).call files).2 = files ∧
      ∀ path, ((check_and_download libraries attempt model_dir).call files).1 ≠ .ok (some path) := by
  unfold check_and_download
  cases hlatest : check_for_updates attempt with
  | none => exact ⟨rfl, nofun⟩
  | some latest =>
    simp only [Raising.call_bind, Raising.call_lift]
    cases hurl : latest.get "download_url" .null with
    | error e => exact ⟨rfl, nofun⟩
    | ok download_url =>
      cases hversion : latest.get "version" (.str "unknown") with
      | error e => exact ⟨rfl, nofun⟩
      | ok version =>
        cases hname : latest.get "name" (.str "model") with
        | error e => exact ⟨rfl, nofun⟩
        | ok name =>
          cases htruthy : download_url.truthy with
          | false =>
            simp only [htruthy, if_true]
            exact ⟨rfl, nofun⟩
          | true => exact absurd ⟨hlatest, hurl, hversion, hname, htruthy⟩ (h ⟨latest, name, version, download_url⟩)

theorem call_of_offer (libraries : Libraries A) (model_dir : String) (files : FileSystem) (h : attempt.Offers offer) :
    (check_and_download libraries attempt model_dir).call files =
      if files.has (libraries.offered model_dir offer) then (.ok none, files)
      else (fetch attempt offer (libraries.offered model_dir offer)).call files := by
  obtain ⟨hlatest, hurl, hversion, hname, htruthy⟩ := h
  have hno : ¬ offer.download_url.truthy = false := by
    rw [htruthy]
    exact Bool.noConfusion
  unfold check_and_download
  rw [hlatest]
  simp only [Raising.call_bind, Raising.call_lift, hurl, hversion, hname, if_neg hno, Raising.call_get]
  unfold Libraries.offered
  split <;> rfl

theorem call_download_model (attempt : Attempt) (url : JsonValue) (target_path : String) (files : FileSystem) :
    (download_model attempt url target_path).call files =
      match attempt.get url with
      | .error e => (.error e, files)
      | .ok content =>
        match attempt.write target_path with
        | .completes =>
          (.ok target_path, files.set (PurePath.parse target_path) { content, mtime := attempt.mtime target_path })
        | .refused e => (.error e, files)
        | .interrupted written e =>
          (.error e, files.set (PurePath.parse target_path)
            { content := content.take written, mtime := attempt.mtime target_path }) := by
  unfold download_model
  rw [Raising.call_bind, Raising.call_lift]
  cases attempt.get url with
  | error e => rfl
  | ok content =>
    dsimp only
    rw [Raising.call_bind]
    cases attempt.write target_path with
    | completes => rfl
    | refused e => rfl
    | interrupted written e => rfl

/-- The files with both downloads. -/
def with_downloads (attempt : Attempt) (target_path : String) (sidecar content : List UInt8) (files : FileSystem) :
    FileSystem :=
  (files.set (PurePath.parse (sidecar_of target_path))
      { content := sidecar, mtime := attempt.mtime (sidecar_of target_path) }).set
    (PurePath.parse target_path) { content, mtime := attempt.mtime target_path }

theorem fetch_downloads (h : attempt.Downloads offer target_path sidecar content) :
    (fetch attempt offer target_path).call files =
      (.ok (some target_path), with_downloads attempt target_path sidecar content files) := by
  obtain ⟨⟨metadata_url, hurl, hsidecar⟩, hsidecar_written, hcontent, hcontent_written⟩ := h
  simp only [fetch, Raising.call_bind, Raising.call_lift, hurl, call_download_model, hsidecar, hsidecar_written,
    hcontent, hcontent_written, Raising.call_pure, with_downloads]

/-- The sidecar may have been written, but nothing else. -/
def OnlySidecar (target_path : String) (files files' : FileSystem) : Prop :=
  files' = files ∨ ∃ file, files' = files.set (PurePath.parse (sidecar_of target_path)) file

/-- Either the model file is not touched, or it is opened for writing. -/
theorem fetch_cases (attempt : Attempt) (offer : Offer) (target_path : String) (files : FileSystem) :
    (∃ e files', (fetch attempt offer target_path).call files = (.error e, files') ∧
        OnlySidecar target_path files files') ∨
      ∃ metadata_url sidecar content, metadata_url_of offer.latest offer.download_url = .ok metadata_url ∧
        attempt.get metadata_url = .ok sidecar ∧ attempt.write (sidecar_of target_path) = .completes ∧
        attempt.get offer.download_url = .ok content ∧ ∀ e, attempt.write target_path ≠ .refused e := by
  simp only [fetch, Raising.call_bind, Raising.call_lift, call_download_model]
  cases hurl : metadata_url_of offer.latest offer.download_url with
  | error e => exact .inl ⟨e, files, rfl, .inl rfl⟩
  | ok metadata_url =>
    dsimp only
    cases hsidecar : attempt.get metadata_url with
    | error e => exact .inl ⟨e, files, rfl, .inl rfl⟩
    | ok sidecar =>
      dsimp only
      cases attempt.write (sidecar_of target_path) with
      | refused e => exact .inl ⟨e, files, rfl, .inl rfl⟩
      | interrupted written e => exact .inl ⟨e, _, rfl, .inr ⟨_, rfl⟩⟩
      | completes =>
        dsimp only
        cases attempt.get offer.download_url with
        | error e => exact .inl ⟨e, _, rfl, .inr ⟨_, rfl⟩⟩
        | ok content =>
          dsimp only
          cases attempt.write target_path with
          | refused e => exact .inl ⟨e, _, rfl, .inr ⟨_, rfl⟩⟩
          | interrupted written e => exact .inr ⟨metadata_url, sidecar, content, rfl, hsidecar, rfl, rfl, nofun⟩
          | completes => exact .inr ⟨metadata_url, sidecar, content, rfl, hsidecar, rfl, rfl, nofun⟩

section Paths

variable {name version : JsonValue}

theorem sidecar_ne_target (h : libraries.NamesFile name version) :
    PurePath.parse (sidecar_of (libraries.target_path model_dir name version)) ≠
      PurePath.parse (libraries.target_path model_dir name version) := by
  obtain ⟨honnx, hsidecar⟩ := target_path_onnx model_dir h
  exact fun heq => honnx.with_suffix_ne honnx (hsidecar.trans (congrArg some heq))

end Paths

/-- The engine loads what was downloaded. -/
theorem host_with_downloads (model_dir : String) (attempt : Attempt) (files : FileSystem)
    (hname : libraries.NamesFile offer.name offer.version)
    (h : libraries.Loads sidecar content metadata model) (utcnow : ℤ) :
    read_metadata
        (libraries.host (with_downloads attempt (libraries.offered model_dir offer) sidecar content files) utcnow)
        (libraries.offered model_dir offer) = .ok metadata ∧
      (libraries.host (with_downloads attempt (libraries.offered model_dir offer) sidecar content files) utcnow).open_onnx
        (libraries.offered model_dir offer) = .ok model := by
  constructor
  · unfold read_metadata Libraries.offered
    rw [(target_path_onnx model_dir hname).2]
    simp only [Libraries.host, with_downloads, Dict.get?_set_of_ne _ _ (sidecar_ne_target hname), Dict.get?_set_self]
    exact h.sidecar
  · simp only [Libraries.host, with_downloads, Dict.get?_set_self]
    exact h.content

/-- A reload whose downloads succeed swaps to the model that is not there yet. -/
theorem reload_downloads {s : Station A} (hoffer : attempt.Offers offer)
    (hname : libraries.NamesFile offer.name offer.version)
    (hhas : s.files.has (libraries.offered model_dir offer) = false)
    (hdownloads : attempt.Downloads offer (libraries.offered model_dir offer) sidecar content)
    (hloads : libraries.Loads sidecar content metadata model) :
    (s.reload libraries model_dir attempt).1 = .ok () ∧
      (s.reload libraries model_dir attempt).2.files =
        with_downloads attempt (libraries.offered model_dir offer) sidecar content s.files ∧
      (s.reload libraries model_dir attempt).2.Serves metadata model := by
  have hcall : (check_and_download libraries attempt model_dir).call s.files =
      (.ok (some (libraries.offered model_dir offer)),
        with_downloads attempt (libraries.offered model_dir offer) sidecar content s.files) := by
    rw [call_of_offer libraries model_dir s.files hoffer, hhas, if_neg Bool.false_ne_true, fetch_downloads hdownloads]
  obtain ⟨hmetadata, hmodel⟩ := host_with_downloads model_dir attempt s.files hname hloads attempt.utcnow
  obtain ⟨process, feature_stats, happ, hstats, hsession, hengine⟩ :=
    reload_complete s.app hmetadata hmodel hloads.complete
  simp only [Station.reload, hcall, happ, true_and]
  exact ⟨⟨_, hsession⟩, hengine, hstats⟩

theorem Attempt.Offers.unique {other : Offer} (h : attempt.Offers offer) (hother : attempt.Offers other) :
    other = offer := by
  obtain ⟨latest, name, version, download_url⟩ := offer
  obtain ⟨latest', name', version', download_url'⟩ := other
  cases h.latest.symm.trans hother.latest
  cases h.download_url.symm.trans hother.download_url
  cases h.version.symm.trans hother.version
  cases h.name.symm.trans hother.name
  rfl

/-- What a reload under the condition does to the files. -/
theorem reload_cases {s : Station A} (hok : LeavesWholeFiles libraries model_dir s (.reload attempt)) :
    (∀ offer, ¬ attempt.Offers offer) ∧ (s.reload libraries model_dir attempt).2.files = s.files ∨
      ∃ offer, attempt.Offers offer ∧
        (s.files.has (libraries.offered model_dir offer) = true ∧
            (s.reload libraries model_dir attempt).1 = .ok () ∧
            (s.reload libraries model_dir attempt).2.files = s.files ∨
          s.files.has (libraries.offered model_dir offer) = false ∧
            libraries.NamesFile offer.name offer.version ∧
            (OnlySidecar (libraries.offered model_dir offer) s.files (s.reload libraries model_dir attempt).2.files ∨
              (s.reload libraries model_dir attempt).1 = .ok () ∧
                ((check_and_download libraries attempt model_dir).call s.files).1 =
                  .ok (some (libraries.offered model_dir offer)) ∧
                ∃ sidecar content, (s.reload libraries model_dir attempt).2.files =
                  with_downloads attempt (libraries.offered model_dir offer) sidecar content s.files)) := by
  by_cases hoffers : ∃ offer, attempt.Offers offer
  · obtain ⟨offer, hoffer⟩ := hoffers
    refine .inr ⟨offer, hoffer, ?_⟩
    have hcall := call_of_offer libraries model_dir s.files hoffer
    cases hhas : s.files.has (libraries.offered model_dir offer) with
    | true =>
      rw [hhas, if_pos rfl] at hcall
      refine .inl ⟨rfl, ?_, ?_⟩
      · simp only [Station.reload, hcall]
        rfl
      · simp only [Station.reload, hcall]
    | false =>
      rw [hhas, if_neg Bool.false_ne_true] at hcall
      obtain ⟨hname, hwhole⟩ := hok offer hoffer hhas
      refine .inr ⟨rfl, hname, ?_⟩
      obtain ⟨e, files', hfetch, honly⟩ | ⟨metadata_url, sidecar, content, hurl, hsidecar, hwritten, hcontent, hopened⟩ :=
        fetch_cases attempt offer (libraries.offered model_dir offer) s.files
      · left
        rw [hfetch] at hcall
        simp only [Station.reload, hcall]
        exact honly
      · right
        obtain ⟨e, hrefused⟩ | ⟨hcompletes, metadata, model, hloads⟩ :=
          hwhole metadata_url sidecar content hurl hsidecar hwritten hcontent
        · exact absurd hrefused (hopened e)
        · have hdownloads : attempt.Downloads offer (libraries.offered model_dir offer) sidecar content :=
            ⟨⟨metadata_url, hurl, hsidecar⟩, hwritten, hcontent, hcompletes⟩
          obtain ⟨houtcome, hfiles, -⟩ := reload_downloads hoffer hname hhas hdownloads hloads
          rw [fetch_downloads hdownloads] at hcall
          exact ⟨houtcome, by rw [hcall], sidecar, content, hfiles⟩
  · have hno : ∀ offer, ¬ attempt.Offers offer := fun offer hoffer => hoffers ⟨offer, hoffer⟩
    refine .inl ⟨hno, ?_⟩
    exact (call_of_no_offer hno).1

/-- The sidecar of a model that is not hidden is not itself a model. -/
theorem sidecar_not_onnx {name version : JsonValue} (h : libraries.NamesFile name version) :
    ¬ (PurePath.parse (sidecar_of (libraries.target_path model_dir name version))).IsOnnx := by
  obtain ⟨honnx, hsidecar⟩ := target_path_onnx model_dir h
  exact fun hother => honnx.with_suffix_ne hother hsidecar

/-- A model that is not there comes only with a reload that installs it. -/
theorem step_absent {s s' : Station A} {action : Action} {path : PurePath} (honnx : path.IsOnnx)
    (hok : LeavesWholeFiles libraries model_dir s action) (hnew : ¬ Installs libraries model_dir path s action)
    (hstep : (station libraries model_dir).step s action = some s') (habsent : s.files.get? path = none) :
    s'.files.get? path = none := by
  cases action with
  | restart utcnow =>
    obtain ⟨app, -, rfl⟩ := Option.map_eq_some_iff.mp hstep
    exact habsent
  | reload attempt =>
    cases hstep
    obtain ⟨-, hfiles⟩ | ⟨offer, -, ⟨-, -, hfiles⟩ | ⟨-, hname, honly | ⟨houtcome, htarget, sidecar, content, hfiles⟩⟩⟩ :=
      reload_cases hok
    · rw [hfiles]
      exact habsent
    · rw [hfiles]
      exact habsent
    · obtain hfiles | ⟨file, hfiles⟩ := honly
      · rw [hfiles]
        exact habsent
      · rw [hfiles, Dict.get?_set_of_ne]
        · exact habsent
        · rintro rfl
          exact sidecar_not_onnx hname honnx
    · have hne : path ≠ PurePath.parse (libraries.offered model_dir offer) :=
        fun heq => hnew ⟨houtcome, _, htarget, heq.symm⟩
      rw [hfiles, with_downloads, Dict.get?_set_of_ne _ _ hne, Dict.get?_set_of_ne]
      · exact habsent
      · rintro rfl
        exact sidecar_not_onnx hname honnx

/-- An attempt that fails leaves the model that it was about away. -/
theorem failed_absent {s : Station A} {e : PyExc} (hok : LeavesWholeFiles libraries model_dir s (.reload attempt))
    (hfails : (s.reload libraries model_dir attempt).1 = .error e) (hoffer : attempt.Offers offer) :
    libraries.NamesFile offer.name offer.version ∧ s.files.has (libraries.offered model_dir offer) = false ∧
      OnlySidecar (libraries.offered model_dir offer) s.files (s.reload libraries model_dir attempt).2.files := by
  obtain ⟨hno, -⟩ | ⟨other, hother, ⟨-, houtcome, -⟩ | ⟨hhas, hname, honly | ⟨houtcome, -⟩⟩⟩ := reload_cases hok
  · exact absurd hoffer (hno offer)
  · rw [houtcome] at hfails
    cases hfails
  · cases hoffer.unique hother
    exact ⟨hname, hhas, honly⟩
  · rw [houtcome] at hfails
    cases hfails

section Listing

variable {path : PurePath}

/-- What the glob lists is there under its name, and no hidden file. -/
theorem match_onnx_eq_some {entry : PurePath × File} {listed : String × File}
    (h : match_onnx model_dir entry = some listed) : PurePath.parse listed.1 = entry.1 ∧ entry.1.IsOnnx := by
  unfold match_onnx at h
  split at h
  · cases h
  · rename_i name hlast
    obtain ⟨⟨hparse, ⟨stem, hstem⟩, hhidden⟩, hlisted⟩ := Option.ite_none_right_eq_some.mp h
    cases hlisted
    refine ⟨hparse, stem, ?_, ?_⟩
    · rintro rfl
      rw [← hstem] at hhidden
      exact hhidden rfl
    · rw [hlast, hstem, String.ofList_toList]

theorem mem_glob_onnx {listed : String × File} (h : listed ∈ glob_onnx files model_dir) :
    (PurePath.parse listed.1).IsOnnx ∧ ∃ file, files.get? (PurePath.parse listed.1) = some file := by
  obtain ⟨⟨path, file⟩, hmem, hentry⟩ := List.mem_filterMap.mp h
  obtain ⟨hparse, honnx⟩ := match_onnx_eq_some hentry
  rw [hparse]
  exact ⟨honnx, file, Dict.get?_eq_some_iff.mpr hmem⟩

theorem glob_onnx_set (h : ¬ path.IsOnnx) (files : FileSystem) (file : File) :
    glob_onnx (files.set path file) model_dir = glob_onnx files model_dir := by
  refine Dict.filterMap_setItem (fun file => ?_) file files.items
  refine Option.eq_none_iff_forall_ne_some.mpr fun listed hlisted => h ?_
  exact (match_onnx_eq_some hlisted).2

theorem mem_onnx_files {model_path : String} (h : model_path ∈ onnx_files files model_dir) :
    (PurePath.parse model_path).IsOnnx ∧ ∃ file, files.get? (PurePath.parse model_path) = some file := by
  obtain ⟨listed, hmem, rfl⟩ := List.mem_map.mp h
  exact mem_glob_onnx (List.mem_mergeSort.mp hmem)

/-- A sidecar for a model that is not there is not read at a startup. -/
theorem load_initial_model_only_sidecar {name version : JsonValue} {files' : FileSystem}
    (hname : libraries.NamesFile name version) (hhas : files.has (libraries.target_path model_dir name version) = false)
    (honly : OnlySidecar (libraries.target_path model_dir name version) files files') (utcnow : ℤ) :
    load_initial_model (libraries.host files' utcnow) (onnx_files files' model_dir) =
      load_initial_model (libraries.host files utcnow) (onnx_files files model_dir) := by
  obtain rfl | ⟨file, rfl⟩ := honly
  · rfl
  · obtain ⟨honnx, hsidecar⟩ := target_path_onnx model_dir hname
    have hlisting : onnx_files (files.set (PurePath.parse (sidecar_of (libraries.target_path model_dir name version)))
        file) model_dir = onnx_files files model_dir := by
      rw [onnx_files, glob_onnx_set (sidecar_not_onnx hname)]
      rfl
    rw [hlisting]
    cases hfiles : onnx_files files model_dir with
    | nil => rfl
    | cons model_path rest =>
      obtain ⟨hlisted, found, hfound⟩ := mem_onnx_files (hfiles ▸ List.mem_cons_self)
      refine load_model_congr ?_ ?_ rfl
      · unfold read_metadata
        cases hmetadata : (PurePath.parse model_path).with_suffix ".json" with
        | none => rfl
        | some metadata_path =>
          have hne : metadata_path ≠ PurePath.parse (sidecar_of (libraries.target_path model_dir name version)) := by
            rintro rfl
            rw [FileSystem.has, ← PurePath.with_suffix_inj hlisted honnx (hmetadata.trans hsidecar.symm), hfound] at hhas
            cases hhas
          simp only [Libraries.host, Dict.get?_set_of_ne _ _ hne]
      · have hne : PurePath.parse model_path ≠
            PurePath.parse (sidecar_of (libraries.target_path model_dir name version)) := by
          intro heq
          rw [heq] at hlisted
          exact sidecar_not_onnx hname hlisted
        simp only [Libraries.host, Dict.get?_set_of_ne _ _ hne]

end Listing

theorem failed_missing {s : Station A} {e : PyExc} (hok : LeavesWholeFiles libraries model_dir s (.reload attempt))
    (hfails : (s.reload libraries model_dir attempt).1 = .error e) (hoffer : attempt.Offers offer) :
    (s.reload libraries model_dir attempt).2.files.get? (PurePath.parse (libraries.offered model_dir offer)) = none := by
  obtain ⟨hfile, hhas, honly⟩ := failed_absent hok hfails hoffer
  have hbefore : s.files.get? (PurePath.parse (libraries.offered model_dir offer)) = none :=
    Option.isNone_iff_eq_none.mp (Option.isSome_eq_false_iff.mp hhas)
  obtain hfiles | ⟨file, hfiles⟩ := honly
  · rw [hfiles]
    exact hbefore
  · have hne : PurePath.parse (libraries.offered model_dir offer) ≠
        PurePath.parse (sidecar_of (libraries.offered model_dir offer)) := (sidecar_ne_target hfile).symm
    rw [hfiles, Dict.get?_set_of_ne _ _ hne]
    exact hbefore

theorem recovers_of_whole_files {s : Station A} {e : PyExc}
    (hok : LeavesWholeFiles libraries model_dir s (.reload attempt))
    (hfails : (s.reload libraries model_dir attempt).1 = .error e) :
    Recovers libraries model_dir (LeavesWholeFiles libraries model_dir) s attempt := by
  constructor
  · intro offer hoffer s' later again sidecar content metadata model hsteps hagain hname hversion hdownloads hloads
    obtain ⟨hfile, -, -⟩ := failed_absent hok hfails hoffer
    obtain ⟨honnx, -⟩ := target_path_onnx model_dir hfile
    have hlater : s'.files.get? (PurePath.parse (libraries.offered model_dir offer)) = none := by
      refine TransitionSystem.StepsWhere.invariant
        (P := fun s : Station A => s.files.get? (PurePath.parse (libraries.offered model_dir offer)) = none)
        ?_ hsteps (failed_missing hok hfails hoffer)
      rintro s action s' ⟨hwhole, hnew⟩ hstep habsent
      exact step_absent honnx hwhole hnew hstep habsent
    have hsame : libraries.offered model_dir again = libraries.offered model_dir offer := by
      rw [Libraries.offered, hname, hversion]
      rfl
    have hmissing : s'.files.has (libraries.offered model_dir again) = false := by
      rw [hsame, FileSystem.has, hlater]
      rfl
    obtain ⟨houtcome, -, hserves⟩ := reload_downloads hagain (by rw [hname, hversion]; exact hfile) hmissing
      (by rw [hsame]; exact hdownloads) hloads
    exact ⟨houtcome, hserves⟩
  · intro utcnow process
    by_cases hoffers : ∃ offer, attempt.Offers offer
    · obtain ⟨offer, hoffer⟩ := hoffers
      obtain ⟨hfile, hhas, honly⟩ := failed_absent hok hfails hoffer
      rw [load_initial_model_only_sidecar hfile hhas honly]
    · have hfiles : (s.reload libraries model_dir attempt).2.files = s.files :=
        (call_of_no_offer fun offer hoffer => hoffers ⟨offer, hoffer⟩).1
      rw [hfiles]

/-- In every run that leaves model files whole, no failed attempt wedges the service. -/
theorem never_wedged (libraries : Libraries A) (model_dir : String) :
    ∀ s, (station libraries model_dir).ReachableWhere (LeavesWholeFiles libraries model_dir) s →
      ∀ attempt e, LeavesWholeFiles libraries model_dir s (.reload attempt) →
        (s.reload libraries model_dir attempt).1 = .error e →
          Recovers libraries model_dir (LeavesWholeFiles libraries model_dir) s attempt :=
  fun _ _ _ _ hok hfails => recovers_of_whole_files hok hfails

def sidecar_text : String := "\x7b\"error_threshold\": 1, \"feature_stats\": \x7b\x7d\x7d"

/-- Libraries that know one sidecar and one model. -/
def sample_libraries : Libraries Unit where
  str
    | .str text => text
    | _ => "None"
  decode content := .ok (String.ofList (content.map fun byte => Char.ofNat byte.toNat))
  loads text :=
    if text = sidecar_text then .ok (.dict [("error_threshold", .int 1), ("feature_stats", .dict [])])
    else .error .ValueError
  open_onnx content := if content = [8, 7] then .ok constant_model else .error .LibraryError

def sample_latest : JsonValue :=
  .dict [("name", .str "edge"), ("version", .str "2"), ("download_url", .str "http://registry/edge.onnx")]

def sample_sidecar_bytes : List UInt8 := sidecar_text.toList.map fun c => UInt8.ofNat c.toNat

/-- The registry serves both files, and the disk takes them. -/
def sample_attempt : Attempt where
  latest := .ok sample_latest
  get
    | .str "http://registry/edge.json" => .ok sample_sidecar_bytes
    | .str "http://registry/edge.onnx" => .ok [8, 7]
    | _ => .error .LibraryError
  write _ := .completes
  mtime _ := 0
  utcnow := 0

/-- The registry breaks off after the sidecar. -/
def sidecar_only : Attempt :=
  { sample_attempt with
    get := fun url =>
      match url with
      | .str "http://registry/edge.json" => .ok sample_sidecar_bytes
      | _ => .error .LibraryError }

/-- The disk is full after one byte of the model. -/
def half_written : Attempt :=
  { sample_attempt with
    write := fun path => if path = "/models/edge_v2.onnx" then .interrupted 1 .OSError else .completes }

/-- The service after a startup without any model. -/
def empty_station : Station Unit where
  files := Dict.empty
  app := ({ engine := {}, sessions := 0 }, .dict [])

def sample_offer : Offer where
  latest := sample_latest
  name := .str "edge"
  version := .str "2"
  download_url := .str "http://registry/edge.onnx"

theorem empty_station_initial : (station sample_libraries "/models").initial empty_station := by
  refine ⟨0, ?_⟩
  have hfiles : onnx_files Dict.empty "/models" = [] := by
    unfold onnx_files glob_onnx
    exact congrArg (List.map Prod.fst) List.mergeSort_nil
  unfold Station.start empty_station
  rw [hfiles]
  rfl

theorem sample_offers {attempt : Attempt} (h : attempt.latest = .ok sample_latest) : attempt.Offers sample_offer where
  latest := by
    unfold check_for_updates
    rw [h]
    rfl
  download_url := rfl
  version := rfl
  name := rfl
  truthy := rfl

theorem offered_sample : sample_libraries.offered "/models" sample_offer = "/models/edge_v2.onnx" := by
  decide +kernel

theorem sample_names_file : sample_libraries.NamesFile sample_offer.name sample_offer.version := by
  constructor <;> decide

theorem sample_metadata_url :
    metadata_url_of sample_offer.latest sample_offer.download_url = .ok (.str "http://registry/edge.json") := by
  have hsidecar : sidecar_of "http://registry/edge.onnx" = "http://registry/edge.json" := by decide +kernel
  exact congrArg (fun url => Except.ok (JsonValue.str url)) hsidecar

/-- The first attempt of the service goes as far as its downloads. -/
theorem call_sample_offer {attempt : Attempt} (h : attempt.latest = .ok sample_latest) :
    (check_and_download sample_libraries attempt "/models").call empty_station.files =
      (fetch attempt sample_offer "/models/edge_v2.onnx").call Dict.empty := by
  have hmissing : FileSystem.has Dict.empty "/models/edge_v2.onnx" = false := rfl
  rw [call_of_offer sample_libraries "/models" _ (sample_offers h), offered_sample, empty_station, hmissing,
    if_neg Bool.false_ne_true]

theorem recovers_after_sidecar_only :
    Recovers sample_libraries "/models" (LeavesWholeFiles sample_libraries "/models") empty_station sidecar_only := by
  refine never_wedged sample_libraries "/models" _ (.initial empty_station_initial) _ .LibraryError ?_ ?_
  · intro offer hoffer _
    cases (sample_offers rfl).unique hoffer
    refine ⟨sample_names_file, ?_⟩
    intro _ _ _ _ _ _ hcontent
    cases hcontent
  · have hcall := call_sample_offer (rfl : sidecar_only.latest = _)
    simp only [fetch, Raising.call_bind, Raising.call_lift, sample_metadata_url, call_download_model] at hcall
    simp only [Station.reload, hcall]
    rfl

theorem sample_downloads : sample_attempt.Downloads sample_offer "/models/edge_v2.onnx" sample_sidecar_bytes [8, 7] where
  sidecar := ⟨_, sample_metadata_url, rfl⟩
  sidecar_written := rfl
  content := rfl
  content_written := rfl

theorem sample_loads : sample_libraries.Loads sample_sidecar_bytes [8, 7]
    (.dict [("error_threshold", .int 1), ("feature_stats", .dict [])]) constant_model where
  sidecar := by
    have htext : String.ofList (sample_sidecar_bytes.map fun byte => Char.ofNat byte.toNat) = sidecar_text := by
      decide +kernel
    simp only [sample_libraries, htext]
    rfl
  content := rfl
  complete := by
    rintro (⟨e, he⟩ | ⟨e, he⟩ | ⟨e, he⟩)
    · cases he
    · rw [sample_threshold] at he
      cases he
    · cases he

/-- The files after the disk was full. -/
def half_files : FileSystem :=
  (Dict.empty.set (PurePath.parse "/models/edge_v2.json") { content := sample_sidecar_bytes, mtime := 0 }).set
    (PurePath.parse "/models/edge_v2.onnx") { content := [8], mtime := 0 }

theorem reload_half_written : empty_station.reload sample_libraries "/models" half_written =
    (.error .OSError, { empty_station with files := half_files }) := by
  have hsidecar : sidecar_of "/models/edge_v2.onnx" = "/models/edge_v2.json" := by decide +kernel
  have hcall := call_sample_offer (rfl : half_written.latest = _)
  simp only [fetch, Raising.call_bind, Raising.call_lift, sample_metadata_url, call_download_model, hsidecar] at hcall
  simp only [Station.reload, hcall]
  rfl

/-- Half of the model is on the disk: it counts as there from then on. -/
theorem half_written_wedges :
    ¬ ∀ s, (station sample_libraries "/models").Reachable s → ∀ attempt e,
      (s.reload sample_libraries "/models" attempt).1 = .error e →
        Recovers sample_libraries "/models" (fun _ _ => True) s attempt := by
  intro hclaim
  have hrecovers := hclaim empty_station (.initial empty_station_initial) half_written .OSError
    (congrArg Prod.fst reload_half_written)
  obtain ⟨-, ⟨id, hsession⟩, -, -⟩ := hrecovers.retry sample_offer (sample_offers rfl) _ sample_attempt sample_offer
    sample_sidecar_bytes [8, 7] _ constant_model .refl (sample_offers rfl) rfl rfl
    (by rw [offered_sample]; exact sample_downloads) sample_loads
  have hthere : half_files.has "/models/edge_v2.onnx" = true := by
    unfold FileSystem.has half_files
    rw [Dict.get?_set_self]
    rfl
  have hcall := call_of_offer sample_libraries "/models" half_files (sample_offers (rfl : sample_attempt.latest = _))
  rw [offered_sample, hthere, if_pos rfl] at hcall
  have hunchanged : (Station.reload sample_libraries "/models" { empty_station with files := half_files }
      sample_attempt).2.app = empty_station.app := by
    simp only [Station.reload, hcall]
    rfl
  rw [reload_half_written, hunchanged] at hsession
  cases hsession

end gateway.model_manager
