import EdgeGateway.MlInference.AnomalyDetector.Alignment
import EdgeGateway.MlTraining.ReconstructionErrorModel

open gateway.telemetry gateway.inference_engine gateway.train_edge_autoencoder

namespace gateway.anomaly_detector

/-- `err / (err + threshold)`. -/
def score_of_error (threshold error : ℚ) : ℚ := error / (error + threshold)

section Score

variable {threshold error error' : ℚ}

theorem score_of_error_eq (hthreshold : 0 < threshold) (herror : 0 ≤ error) :
    score_of_error threshold error = 1 - threshold / (error + threshold) := by
  unfold score_of_error
  have hne : error + threshold ≠ 0 := by linarith
  field_simp
  ring

theorem score_of_error_nonneg (hthreshold : 0 < threshold) (herror : 0 ≤ error) : 0 ≤ score_of_error threshold error :=
  div_nonneg herror (by linarith)

theorem score_of_error_lt_one (hthreshold : 0 < threshold) (herror : 0 ≤ error) : score_of_error threshold error < 1 := by
  rw [score_of_error, div_lt_one (by linarith)]
  linarith

theorem score_of_error_strictMono (hthreshold : 0 < threshold) (herror : 0 ≤ error) (hlt : error < error') :
    score_of_error threshold error < score_of_error threshold error' := by
  rw [score_of_error_eq hthreshold herror, score_of_error_eq hthreshold (herror.trans hlt.le)]
  have hdiv : threshold / (error' + threshold) < threshold / (error + threshold) :=
    div_lt_div_of_pos_left hthreshold (by linarith) (by linarith)
  linarith

/-- A score of one half is an error of the threshold. -/
theorem half_lt_score_of_error_iff (hthreshold : 0 < threshold) (herror : 0 ≤ error) :
    1 / 2 < score_of_error threshold error ↔ threshold < error := by
  rw [score_of_error, lt_div_iff₀ (by linarith)]
  constructor
  · intro hlt
    linarith
  · intro hlt
    linarith

end Score

section Serving

variable {U T A : Type} {d : ℕ}

/-- Arrays of exact numbers: the rows of a batch, and what is computed of them. -/
structure ExactArrays (libraries : Libraries U T ℚ A) (matrix : List (Fin d → ℚ) → A) (vector : List ℚ → A) : Prop where
  asarray : ∀ xs, libraries.asarray_float32 (xs.map List.ofFn) = .ok (matrix xs)
  astype : ∀ xs, libraries.numpy.astype_float32 (matrix xs) = .ok (matrix xs)
  ravel : ∀ values, libraries.numpy.ravel (vector values) = .ok (vector values)
  add : ∀ values t, libraries.numpy.add (vector values) (.finite t) = .ok (vector (values.map (· + t)))
  divide : ∀ values sums, values.length = sums.length → (∀ sum ∈ sums, sum ≠ 0) →
    libraries.numpy.divide (vector values) (vector sums) = .ok (vector (List.zipWith (· / ·) values sums))
  tolist : ∀ values, libraries.tolist (vector values) = values.map .finite

/-- The engine serves the model, with its calibrated threshold. -/
structure Serves (engine : InferenceEngine A) (model : ReconstructionErrorModel d) (threshold : ℚ)
    (matrix : List (Fin d → ℚ) → A) (vector : List ℚ → A) : Prop where
  session : ∃ session, engine.session = some session ∧
    ∀ xs, session.model.run engine.input_name (matrix xs) = .ok [vector (model.forward xs)]
  error_threshold : engine.error_threshold = .finite threshold

variable {libraries : Libraries U T ℚ A} {matrix : List (Fin d → ℚ) → A} {vector : List ℚ → A}
  {moment : Moment U T ℚ A} {model : ReconstructionErrorModel d} {threshold : ℚ}

/-- The engine's scores are those of the errors. -/
theorem score_rows_exact (harrays : ExactArrays libraries matrix vector)
    (hserves : Serves moment.engine model threshold matrix vector) (hthreshold : 0 < threshold)
    (xs : List (Fin d → ℚ)) :
    score_rows libraries moment (xs.map List.ofFn) =
      .ok (xs.map fun x => .finite (score_of_error threshold (model.error x))) := by
  obtain ⟨session, hsession, hrun⟩ := hserves.session
  have hpredict : predict libraries.numpy moment.engine (matrix xs) = .ok (vector (model.forward xs)) := by
    unfold predict
    rw [hsession]
    dsimp only
    rw [harrays.astype]
    change session.model.run moment.engine.input_name (matrix xs) >>= _ = _
    rw [hrun]
    exact harrays.ravel _
  have hpos : ∀ sum ∈ (model.forward xs).map (· + threshold), sum ≠ 0 := by
    intro sum hsum
    obtain ⟨error, herror, rfl⟩ := List.mem_map.mp hsum
    obtain ⟨x, -, rfl⟩ := List.mem_map.mp herror
    have hnonneg : 0 ≤ model.error x := ReconstructionErrorModel.error_nonneg
    exact (by linarith : 0 < model.error x + threshold).ne'
  have hscore : score libraries.numpy moment.engine (matrix xs) =
      .ok (vector (xs.map fun x => score_of_error threshold (model.error x))) := by
    unfold score
    rw [hpredict, hserves.error_threshold]
    refine Eq.trans (b := libraries.numpy.add (vector (model.forward xs)) (.finite threshold) >>=
      libraries.numpy.divide (vector (model.forward xs))) rfl ?_
    rw [harrays.add]
    refine (harrays.divide _ _ (List.length_map _).symm hpos).trans ?_
    unfold ReconstructionErrorModel.forward
    rw [List.map_map, List.zipWith_map, List.zipWith_self]
    rfl
  unfold score_rows
  rw [harrays.asarray]
  refine Eq.trans (b := score libraries.numpy moment.engine (matrix xs) >>= fun scores =>
    pure (libraries.tolist scores)) rfl ?_
  rw [hscore]
  refine congrArg Except.ok ((harrays.tolist _).trans ?_)
  rw [List.map_map]
  rfl

/-- An excess over the threshold is an error over the threshold. -/
theorem threshold_lt_error (hbounds : ∀ i, model.lower i ≤ model.upper i) {x : Fin d → ℚ}
    (hexcess : d * threshold < model.excess x) : threshold < model.error x := by
  have hpos : (0 : ℚ) < d := by
    rw [Nat.cast_pos]
    refine Nat.pos_of_ne_zero fun hzero => ?_
    subst hzero
    rw [Nat.cast_zero, zero_mul] at hexcess
    exact lt_irrefl 0 hexcess
  have hle := ReconstructionErrorModel.excess_le_error (x := x) hbounds
  rw [one_div, inv_mul_le_iff₀ hpos] at hle
  exact lt_of_mul_lt_mul_left (hexcess.trans_le hle) hpos.le

/-- The scores of the errors are scores as the detector expects them. -/
theorem scores_exact (harrays : ExactArrays libraries matrix vector)
    (hserves : Serves moment.engine model threshold matrix vector) (hthreshold : 0 < threshold)
    (xs : List (Fin d → ℚ)) :
    Scores libraries moment (xs.map List.ofFn)
      (xs.map fun x => .finite (score_of_error threshold (model.error x))) where
  score_rows _ := score_rows_exact harrays hserves hthreshold xs
  length := by rw [List.length_map, List.length_map]
  score_ge score hscore := by
    obtain ⟨x, -, rfl⟩ := List.mem_map.mp hscore
    have hnonneg : 0 ≤ score_of_error threshold (model.error x) :=
      score_of_error_nonneg hthreshold ReconstructionErrorModel.error_nonneg
    simpa [PyFloat.le, PyFloat.lt] using hnonneg
  score_le score hscore := by
    obtain ⟨x, -, rfl⟩ := List.mem_map.mp hscore
    have hlt : score_of_error threshold (model.error x) < 1 :=
      score_of_error_lt_one hthreshold ReconstructionErrorModel.error_nonneg
    simpa [PyFloat.le, PyFloat.lt] using hlt.le

/-- A score above the threshold has its alert in the pipeline of its batch. -/
theorem alert_of_above {settings : Settings} {entries : List StreamEntry} {parsed : List (Parsed U T ℚ)}
    {scores : List PyFloat} {scored : List (ℕ × PyFloat)} {commands : List Command}
    (hscores : Scores libraries moment (parsed.map Parsed.row) scores)
    (hbatch : process_batch libraries settings moment entries parsed = .ok (scored, commands)) {i : ℕ}
    {item : Parsed U T ℚ} {score : PyFloat} (hitem : parsed[i]? = some item) (hscore : scores[i]? = some score)
    (habove : score.le settings.anomaly_threshold = false) : ∃ data, .xadd item.source data ∈ commands := by
  obtain ⟨-, hcovered⟩ := process_batch_ok hbatch
  obtain ⟨rfl, -⟩ := process_batch_exact hscores hbatch
  refine hcovered item.source score ?_ habove
  refine List.mem_map.mpr ⟨(item, score), ?_, rfl⟩
  exact List.mem_of_getElem? (List.getElem?_zip_eq_some.mpr ⟨hitem, hscore⟩)

end Serving

/-- What is far enough out of the bounds is flagged, whatever the autoencoder learned. -/
theorem out_of_range_flagged {U T A : Type} {d : ℕ} (libraries : Libraries U T ℚ A) (settings : Settings)
    (moment : Moment U T ℚ A) (matrix : List (Fin d → ℚ) → A) (vector : List ℚ → A)
    (model : ReconstructionErrorModel d) (threshold : ℚ) (harrays : ExactArrays libraries matrix vector)
    (hserves : Serves moment.engine model threshold matrix vector) (hbounds : ∀ i, model.lower i ≤ model.upper i)
    (hthreshold : 0 < threshold) (hsettings : settings.anomaly_threshold = .finite (1 / 2)) :
    (∀ x, 1 / d * model.excess x ≤ model.error x) ∧
      (∀ xs : List (Fin d → ℚ), score_rows libraries moment (xs.map List.ofFn) =
        .ok (xs.map fun x => .finite (score_of_error threshold (model.error x)))) ∧
      (∀ error, 0 ≤ error → 0 ≤ score_of_error threshold error ∧ score_of_error threshold error < 1 ∧
        (1 / 2 < score_of_error threshold error ↔ threshold < error)) ∧
      (∀ error error', 0 ≤ error → error < error' →
        score_of_error threshold error < score_of_error threshold error') ∧
      ∀ x, d * threshold < model.excess x →
        settings.anomaly_threshold.lt (.finite (score_of_error threshold (model.error x))) = true ∧
          ∀ entries parsed (xs : List (Fin d → ℚ)) scored commands (i : ℕ) item,
            parsed.map Parsed.row = xs.map List.ofFn →
              process_batch libraries settings moment entries parsed = .ok (scored, commands) →
                parsed[i]? = some item → xs[i]? = some x → ∃ data, .xadd item.source data ∈ commands := by
  refine ⟨fun x => ReconstructionErrorModel.excess_le_error hbounds, score_rows_exact harrays hserves hthreshold,
    fun error herror => ⟨score_of_error_nonneg hthreshold herror, score_of_error_lt_one hthreshold herror,
      half_lt_score_of_error_iff hthreshold herror⟩,
    fun error error' herror hlt => score_of_error_strictMono hthreshold herror hlt, ?_⟩
  intro x hexcess
  have hhalf : 1 / 2 < score_of_error threshold (model.error x) :=
    (half_lt_score_of_error_iff hthreshold ReconstructionErrorModel.error_nonneg).mpr
      (threshold_lt_error hbounds hexcess)
  have habove : settings.anomaly_threshold.lt (.finite (score_of_error threshold (model.error x))) = true := by
    rw [hsettings]
    exact decide_eq_true hhalf
  refine ⟨habove, ?_⟩
  intro entries parsed xs scored commands i item hrows hbatch hitem hx
  have hscores := scores_exact harrays hserves hthreshold xs
  rw [← hrows] at hscores
  have hscore : (xs.map fun x => PyFloat.finite (score_of_error threshold (model.error x)))[i]? =
      some (.finite (score_of_error threshold (model.error x))) := by
    rw [List.getElem?_map, hx]
    rfl
  have hnumber : settings.anomaly_threshold ≠ .nan := by
    rw [hsettings]
    exact PyFloat.noConfusion
  refine alert_of_above hscores hbatch hitem hscore ?_
  rw [le_eq_not_lt PyFloat.noConfusion hnumber, habove]
  rfl

/-- A batch of samples with one feature, or what was computed of it. -/
abbrev SampleArray : Type := List (Fin 1 → ℚ) ⊕ List ℚ

def exact_libraries : Libraries String String ℚ SampleArray where
  codec := sample_libraries.codec
  printer := sample_libraries.printer
  arithmetic := .exact
  numpy :=
    { astype_float32 := .ok
      ravel := .ok
      add := fun array addend =>
        match array, addend with
        | .inr values, .finite t => .ok (.inr (values.map (· + t)))
        | _, _ => .error .TypeError
      divide := fun array sums =>
        match array, sums with
        | .inr values, .inr sums => .ok (.inr (List.zipWith (· / ·) values sums))
        | _, _ => .error .TypeError }
  asarray_float32 rows := .ok (.inl (rows.map fun row i => row.getD i 0))
  tolist array :=
    match array with
    | .inl _ => []
    | .inr values => values.map .finite

theorem exact_libraries_arrays : ExactArrays (d := 1) exact_libraries .inl .inr where
  asarray xs := by
    refine congrArg (fun rows => Except.ok (Sum.inl rows)) ?_
    rw [List.map_map]
    refine (List.map_congr_left fun x _ => ?_).trans (List.map_id xs)
    funext i
    obtain rfl : i = 0 := Subsingleton.elim _ _
    rfl
  astype _ := rfl
  ravel _ := rfl
  add _ _ := rfl
  divide _ _ _ _ := rfl
  tolist _ := rfl

/-- An autoencoder that reconstructs everything, for a feature that was between 0 and 1. -/
def sample_model : ReconstructionErrorModel 1 where
  autoencoder := id
  lower _ := 0
  upper _ := 1

def exact_moment : Moment String String ℚ SampleArray where
  running := true
  engine :=
    { session := some
        { id := 0
          model :=
            { inputs := ["features"]
              run := fun _ array =>
                match array with
                | .inl xs => .ok [.inr (sample_model.forward xs)]
                | .inr _ => .error .LibraryError } }
      input_name := "features"
      model_version := .str "1.0"
      error_threshold := .finite 1 }
  meanwhile := id
  utcnow := sample_moment.utcnow
  uuid4 := sample_moment.uuid4

theorem out_of_range_flagged_sample :
    sample_settings.anomaly_threshold.lt (.finite (score_of_error 1 (sample_model.error fun _ => 3))) = true := by
  refine ((out_of_range_flagged exact_libraries sample_settings exact_moment .inl .inr sample_model 1
    exact_libraries_arrays ⟨⟨_, rfl, fun _ => rfl⟩, rfl⟩ (fun _ => zero_le_one) zero_lt_one rfl).2.2.2.2
      (fun _ => 3) ?_).1
  decide +kernel

end gateway.anomaly_detector
