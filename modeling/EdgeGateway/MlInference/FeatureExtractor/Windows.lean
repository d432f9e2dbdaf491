import EdgeGateway.MlInference.FeatureExtractor

open gateway.telemetry

namespace gateway.feature_extractor

section LastN

variable {α : Type}

/-- The last `n` elements, or all if there are fewer. -/
def lastN (n : ℕ) (l : List α) : List α := l.drop (l.length - n)

theorem length_lastN (n : ℕ) (l : List α) : (lastN n l).length = min n l.length := by
  rw [lastN, List.length_drop]
  omega

/-- A bounded deque holds the last elements that were appended to it. -/
theorem append_lastN (n : ℕ) (l : List α) (a : α) : append n (lastN n l) a = lastN n (l ++ [a]) := by
  unfold append
  rw [length_lastN]
  unfold lastN
  have happend : l.drop (l.length - n) ++ [a] = (l ++ [a]).drop (l.length - n) := by
    rw [List.drop_append_of_le_length (Nat.sub_le _ _)]
  rw [happend, List.drop_drop, List.length_append, List.length_singleton]
  congr 1
  omega

theorem lastN_min (n : ℕ) (l : List α) : lastN (min n l.length) l = lastN n l := by
  unfold lastN
  congr 1
  omega

theorem lastN_of_length_le {n : ℕ} {l : List α} (h : l.length ≤ n) : lastN n l = l := by
  rw [lastN, Nat.sub_eq_zero_of_le h, List.drop_zero]

theorem map_lastN {β : Type} (f : α → β) (n : ℕ) (l : List α) : (lastN n l).map f = lastN n (l.map f) := by
  rw [lastN, lastN, List.map_drop, List.length_map]

end LastN

variable {F U T : Type} (arith : Arithmetic F) (str : U → String)

/-- The window of a device, empty before its first reading. -/
def FeatureExtractor.window (extractor : FeatureExtractor F) (device_key : String) : List (F × F) :=
  (extractor.windows.get? device_key).getD []

/-- The `dev_*` features. -/
def deviations (window : List (F × F)) (value : F × F) (std_a std_b : F) : Except PyExc (F × F) :=
  if window.length ≥ MIN_HISTORY then do
    let dev_a ← deviation arith (window.map Prod.fst) value.1 std_a
    let dev_b ← deviation arith (window.map Prod.snd) value.2 std_b
    pure (dev_a, dev_b)
  else pure (arith.ofRat 0, arith.ofRat 0)

/-- The `z_*` features. -/
def standardised (device_type : String) (value mean std : F × F) : Except PyExc (F × F) :=
  if device_type ∈ DEVICE_TYPES then do
    let z_a ← arith.div (arith.sub value.1 mean.1) std.1
    let z_b ← arith.div (arith.sub value.2 mean.2) std.2
    pure (z_a, z_b)
  else pure (arith.ofRat 0, arith.ofRat 0)

/-- The features of a reading, clipped. -/
def features (device_type : String) (z dev : F × F) : List F :=
  ([z.1, z.2, dev.1, dev.2] ++
    DEVICE_TYPES.map fun t => arith.ofRat (if device_type = t then 1 else 0)).map (clip arith)

/-- The extractor with an empty window for a device that had none. -/
def FeatureExtractor.opened (extractor : FeatureExtractor F) (device_key : String) : FeatureExtractor F :=
  if (extractor.windows.get? device_key).isNone then
    { extractor with windows := extractor.windows.set device_key (extractor.window device_key) }
  else extractor

/-- The extractor with one more value in the window of a device. -/
def FeatureExtractor.appended (extractor : FeatureExtractor F) (device_key : String) (value : F × F) :
    FeatureExtractor F :=
  { extractor.opened device_key with
    windows := (extractor.opened device_key).windows.set device_key
      (append extractor.window_size (extractor.window device_key) value) }

section Fields

variable (extractor : FeatureExtractor F) (device_key : String) (value : F × F)

@[simp] theorem opened_window_size : (extractor.opened device_key).window_size = extractor.window_size := by
  unfold FeatureExtractor.opened
  split <;> rfl

@[simp] theorem opened_stats : (extractor.opened device_key).stats = extractor.stats := by
  unfold FeatureExtractor.opened
  split <;> rfl

/-- An empty window counts as none. -/
@[simp] theorem window_opened (key : String) : (extractor.opened device_key).window key = extractor.window key := by
  unfold FeatureExtractor.opened
  split
  · unfold FeatureExtractor.window
    rw [Dict.get?_set]
    split
    · rename_i heq
      rw [heq, Option.getD_some]
    · rfl
  · rfl

@[simp] theorem appended_window_size : (extractor.appended device_key value).window_size = extractor.window_size :=
  opened_window_size extractor device_key

@[simp] theorem appended_stats : (extractor.appended device_key value).stats = extractor.stats :=
  opened_stats extractor device_key

theorem window_appended (key : String) :
    (extractor.appended device_key value).window key =
      if key = device_key then append extractor.window_size (extractor.window device_key) value
      else extractor.window key := by
  rw [FeatureExtractor.window, FeatureExtractor.appended, Dict.get?_set]
  split
  · rfl
  · exact window_opened extractor device_key key

end Fields

section Steps

variable {β : Type} {arith : Arithmetic F}

theorem call_open (extractor : FeatureExtractor F) (device_key : String) (rest : Raising (FeatureExtractor F) PyExc β) :
    (if (extractor.windows.get? device_key).isNone = true then
        set_window device_key ((extractor.windows.get? device_key).getD []) >>= fun _ => rest
      else rest).call extractor = rest.call (extractor.opened device_key) := by
  unfold FeatureExtractor.opened
  split <;> rfl

theorem call_deviations (window : List (F × F)) (value : F × F) (std_a std_b : F)
    (rest : F × F → Raising (FeatureExtractor F) PyExc β) (s : FeatureExtractor F) :
    (if window.length ≥ MIN_HISTORY then
        liftM (deviation arith (window.map Prod.fst) value.1 std_a) >>= fun dev_a =>
          liftM (deviation arith (window.map Prod.snd) value.2 std_b) >>= fun dev_b =>
            pure (dev_a, dev_b) >>= rest
      else pure (arith.ofRat 0, arith.ofRat 0) >>= rest).call s =
      match deviations arith window value std_a std_b with
      | .error e => (.error e, s)
      | .ok dev => (rest dev).call s := by
  unfold deviations
  split
  · rw [Raising.call_bind, Raising.call_lift]
    cases deviation arith (window.map Prod.fst) value.1 std_a with
    | error e => rfl
    | ok dev_a =>
      dsimp only
      rw [Raising.call_bind, Raising.call_lift]
      cases deviation arith (window.map Prod.snd) value.2 std_b with
      | error e => rfl
      | ok dev_b => rfl
  · rfl

theorem call_standardised (device_type : String) (value mean std : F × F)
    (rest : F × F → Raising (FeatureExtractor F) PyExc β) (s : FeatureExtractor F) :
    (if device_type ∈ DEVICE_TYPES then
        liftM (arith.div (arith.sub value.1 mean.1) std.1) >>= fun z_a =>
          liftM (arith.div (arith.sub value.2 mean.2) std.2) >>= fun z_b =>
            pure (z_a, z_b) >>= rest
      else pure (arith.ofRat 0, arith.ofRat 0) >>= rest).call s =
      match standardised arith device_type value mean std with
      | .error e => (.error e, s)
      | .ok z => (rest z).call s := by
  unfold standardised
  split
  · rw [Raising.call_bind, Raising.call_lift]
    cases arith.div (arith.sub value.1 mean.1) std.1 with
    | error e => rfl
    | ok z_a =>
      dsimp only
      rw [Raising.call_bind, Raising.call_lift]
      cases arith.div (arith.sub value.2 mean.2) std.2 with
      | error e => rfl
      | ok z_b => rfl
  · rfl

end Steps

/-- A call of `extract_row`, step by step. -/
theorem call_extract_row (reading : TelemetryReading U T) (extractor : FeatureExtractor F) :
    (extract_row arith str reading).call extractor =
      match values arith reading, scale arith extractor.stats reading.device_type Prod.fst,
        scale arith extractor.stats reading.device_type Prod.snd with
      | .error e, _, _ => (.error e, extractor)
      | .ok _, .error e, _ => (.error e, extractor)
      | .ok _, .ok _, .error e => (.error e, extractor)
      | .ok value, .ok (mean_a, std_a), .ok (mean_b, std_b) =>
        match deviations arith (extractor.window (str reading.device_id)) value std_a std_b with
        | .error e => (.error e, extractor.opened (str reading.device_id))
        | .ok dev =>
          match standardised arith reading.device_type value (mean_a, mean_b) (std_a, std_b) with
          | .error e => (.error e, extractor.appended (str reading.device_id) value)
          | .ok z =>
            (.ok (features arith reading.device_type z dev), extractor.appended (str reading.device_id) value) := by
  unfold extract_row
  simp only [Raising.call_bind, Raising.call_get, Raising.call_lift]
  cases values arith reading with
  | error e => rfl
  | ok value =>
    cases scale arith extractor.stats reading.device_type Prod.fst with
    | error e => rfl
    | ok first =>
      cases scale arith extractor.stats reading.device_type Prod.snd with
      | error e => rfl
      | ok second =>
        obtain ⟨a, b⟩ := value
        obtain ⟨mean_a, std_a⟩ := first
        obtain ⟨mean_b, std_b⟩ := second
        dsimp only
        rw [call_open]
        refine (call_deviations _ (a, b) std_a std_b _ _).trans ?_
        unfold FeatureExtractor.window
        cases deviations arith _ (a, b) std_a std_b with
        | error e => rfl
        | ok dev =>
          dsimp only
          refine Eq.trans (Raising.call_bind_ok rfl) ?_
          refine (call_standardised _ (a, b) (mean_a, mean_b) (std_a, std_b) _ _).trans ?_
          cases standardised arith reading.device_type (a, b) (mean_a, mean_b) (std_a, std_b) with
          | error e => rfl
          | ok z => rfl

end gateway.feature_extractor
