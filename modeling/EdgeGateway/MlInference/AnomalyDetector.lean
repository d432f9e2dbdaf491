import EdgeGateway.Library.ConsumerGroup
import EdgeGateway.Library.Daemon
import EdgeGateway.MlInference.FeatureExtractor
import EdgeGateway.MlInference.InferenceEngine
import EdgeGateway.Shared.Alert

open gateway.telemetry gateway.alert gateway.feature_extractor gateway.inference_engine

namespace gateway.anomaly_detector

structure Settings where
  /-- 0 stands for every count that the Redis client refuses. -/
  batch_size : ℕ
  anomaly_threshold : PyFloat

abbrev StreamEntry := ℕ × StreamDict

/-- The libraries that the detector computes with. -/
structure Libraries (U T F A : Type) where
  codec : Codec U T
  printer : Printer U T
  arithmetic : Arithmetic F
  numpy : NumPy A
  /-- `np.asarray(rows, dtype=np.float32)`. -/
  asarray_float32 : List (List F) → Except PyExc A
  tolist : A → List PyFloat

/-- What the detector finds in its process when it runs: whether it was stopped, the
engine with the model loaded by then, what requests did to the shared extractor in the
meantime, the time, and what `uuid4()` gives for the alert of an entry. -/
structure Moment (U T F A : Type) where
  running : Bool
  engine : InferenceEngine A
  meanwhile : FeatureExtractor F → FeatureExtractor F
  utcnow : T
  uuid4 : ℕ → U

/-- A command of the pipeline. An XADD to the alerts stream names the entry that the
alert is about. -/
inductive Command where
  | xadd (source : ℕ) (data : StreamDict)
  | xack (ids : List ℕ)

/-- The calls the detector awaits. A pipeline comes with its batch, and with the scores
of the entries that were scored. -/
inductive Pc where
  | read
  | execute (batch : List StreamEntry) (scores : List (ℕ × PyFloat)) (commands : List Command)
  | sleep

inductive Reply where
  | entries (entries : List StreamEntry)
  /-- The replies of a pipeline: whether every command was executed without an error. -/
  | results (ok : Bool)
  | done

/-- Redis, with the stream `raw_telemetry` and the group `ml_inference`. `alerts` is
every alert ever added, and `scored` has the scores of the acknowledged entries. -/
structure World where
  group : ConsumerGroup StreamDict
  alerts : List (ℕ × StreamDict)
  scored : List (ℕ × PyFloat)

/-- 0.9 as a float. -/
def CRITICAL_SCORE : PyFloat := .finite (8106479329266893 / 9007199254740992)

section Detector

variable {U T F A : Type} (libraries : Libraries U T F A) (settings : Settings) (moment : Moment U T F A)

/-- A well-formed entry of a batch with its feature vector. -/
structure Parsed (U T F : Type) where
  source : ℕ
  reading : TelemetryReading U T
  row : List F

/-- The first loop of `_process_batch`: what can be parsed, and the extractor then. -/
def parse (extractor : FeatureExtractor F) : List StreamEntry → List (Parsed U T F) × FeatureExtractor F
  | [] => ([], extractor)
  | (entry_id, data) :: rest =>
    match from_stream_dict libraries.codec data with
    | .error _ => parse extractor rest
    | .ok reading =>
      match (extract_row libraries.arithmetic libraries.printer.str_uuid reading).call extractor with
      | (.error _, extractor) => parse extractor rest
      | (.ok row, extractor) =>
        let (parsed, extractor) := parse extractor rest
        ({ source := entry_id, reading, row } :: parsed, extractor)

/-- `self._engine.score(np.asarray(rows, dtype=np.float32)).tolist()`. -/
def score_rows (rows : List (List F)) : Except PyExc (List PyFloat) := do
  let scores ← score libraries.numpy moment.engine (← libraries.asarray_float32 rows)
  return libraries.tolist scores

/-- The entry of the alerts stream for one anomalous reading. -/
def alert_data (source : ℕ) (reading : TelemetryReading U T) (score : PyFloat) : Except PyExc StreamDict := do
  let severity := if CRITICAL_SCORE.lt score then AlertSeverity.critical else .warning
  let alert ← Alert.new (moment.uuid4 source) reading.device_id severity moment.utcnow score
    moment.engine.model_version [("reading", .dict reading.payload)]
  alert.to_stream_dict libraries.printer

/-- The second loop of `_process_batch`: queue an alert for each score above the
threshold. -/
def queue_alerts : List (Parsed U T F × PyFloat) → Except PyExc (List Command)
  | [] => .ok []
  | (parsed, score) :: rest =>
    if score.le settings.anomaly_threshold then queue_alerts rest
    else do
      let data ← alert_data libraries moment parsed.source parsed.reading score
      return .xadd parsed.source data :: (← queue_alerts rest)

/-- `_process_batch` up to `pipe.execute()`: the scores of the entries that it scored,
and the queued commands. -/
def process_batch (entries : List StreamEntry) (parsed : List (Parsed U T F)) :
    Except PyExc (List (ℕ × PyFloat) × List Command) := do
  let scores ← (if parsed = [] then pure [] else score_rows libraries moment (parsed.map Parsed.row))
  let scored := parsed.zip scores
  let alerts ← queue_alerts libraries settings moment scored
  return (scored.map fun (parsed, score) => (parsed.source, score), alerts ++ [.xack (entries.map Prod.fst)])

/-- The top of the loop. -/
def loop (extractor : FeatureExtractor F) : FeatureExtractor F × Option Pc :=
  (extractor, if moment.running then some .read else none)

def resume (extractor : FeatureExtractor F) : Pc → Outcome Reply → FeatureExtractor F × Option Pc
  | .read, .reply (.entries (entry :: rest)) =>
    let entries := entry :: rest
    let (parsed, extractor) := parse libraries extractor entries
    match process_batch libraries settings moment entries parsed with
    | .ok (scores, commands) => (extractor, some (.execute entries scores commands))
    | .error _ => (extractor, some .sleep)
  | .read, .reply _ => loop moment extractor
  | .execute _ _ _, .reply (.results true) => loop moment extractor
  -- `execute` raises the first error among its results.
  | .execute _ _ _, .reply _ => (extractor, some .sleep)
  | .sleep, .reply _ => loop moment extractor
  | _, .raised => (extractor, some .sleep)
  | _, .cancelled => (extractor, none)

end Detector

/-- Everything except `asyncio.sleep` can raise. -/
def raises : Pc → Bool
  | .sleep => false
  | _ => true

/-- Redis executes a command of a pipeline, or answers it with an error. -/
def run_command (scores : List (ℕ × PyFloat)) (world : World) : Command × Bool → World
  | (.xadd source data, true) => { world with alerts := world.alerts ++ [(source, data)] }
  | (.xack ids, true) => { world with group := world.group.xack ids, scored := world.scored ++ scores }
  | (_, false) => world

/-- Redis gets the commands of a pipeline in order, up to where the connection breaks;
`accepted` says which of them it executed without an error. -/
def execute (settings : Settings) (world : World) (accepted : List Bool) : Pc → Option (World × Reply)
  | .read =>
    if settings.batch_size = 0 then none
    else some ({ world with group := world.group.xreadgroup settings.batch_size },
      .entries (world.group.fresh settings.batch_size))
  | .execute _ scores commands =>
    some ((commands.zip accepted).foldl (run_command scores) world,
      .results (commands.length ≤ accepted.length && (commands.zip accepted).all Prod.snd))
  | .sleep => some (world, .done)

inductive Event where
  | xadd (data : StreamDict)
  | xtrim (count : ℕ)

def occur (world : World) : Event → Option World
  | .xadd data => some { world with group := world.group.xadd data }
  | .xtrim count => some { world with group := world.group.xtrim count }

variable {U T F A : Type} (libraries : Libraries U T F A) (settings : Settings) (fresh : FeatureExtractor F)

/-- The detector, started again with the same consumer name whenever it is gone, with
the extractor `fresh` of a new process. -/
def daemon : Daemon World (FeatureExtractor F) Pc (List Bool) Reply (Moment U T F A) Event where
  start moment := loop moment (moment.meanwhile fresh)
  exec world pc accepted := execute settings world accepted pc
  resume moment extractor := resume libraries settings moment (moment.meanwhile extractor)
  raises := raises
  event := occur

abbrev State (F : Type) := Daemon.State World (FeatureExtractor F) Pc Reply
abbrev Action (U T F A : Type) := Daemon.Action (List Bool) (Moment U T F A) Event
abbrev Process (F : Type) := Daemon.Process (FeatureExtractor F) Pc Reply

/-- Runs start with empty streams. -/
def system : TransitionSystem (State F) (Action U T F A) :=
  (daemon libraries settings fresh).system fun world => world = ⟨.empty, [], []⟩

end gateway.anomaly_detector
