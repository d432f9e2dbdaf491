import Mathlib.Data.Prod.Lex
import Mathlib.Order.Fin.Basic
import EdgeGateway.Library.PyDecimal
import EdgeGateway.Library.PyRound
import EdgeGateway.Library.RedisStream
import EdgeGateway.Library.Transition
import EdgeGateway.Shared.Alert
import EdgeGateway.Shared.Telemetry.StreamEncoding

open gateway.telemetry

namespace gateway.dashboard

/-- Milliseconds and a sequence number, in the order of Redis. -/
abbrev StreamId := Fin (2 ^ 64) ×ₗ Fin (2 ^ 64)

/-- "0-0". -/
instance : OrderBot StreamId where
  bot := toLex (⟨0, Nat.two_pow_pos 64⟩, ⟨0, Nat.two_pow_pos 64⟩)
  bot_le _ := Prod.Lex.toLex_mono ⟨Nat.zero_le _, Nat.zero_le _⟩

/-- "ms-seq". -/
def StreamId.text (id : StreamId) : String := toString (ofLex id).1.val ++ "-" ++ toString (ofLex id).2.val

section Compare

/-- `text.split("-")`. -/
def split (text : String) : List String := (text.toList.splitOn '-').map String.ofList

def int (text : String) : Except PyExc ℤ :=
  match PyDecimal.toInt text with
  | some n => .ok n
  | none => .error .ValueError

/-- Compare two Redis stream IDs ("ms-seq"). -/
def stream_id_gt (a b : String) : Except PyExc Bool :=
  match split a, split b with
  | [a_ms, a_seq], [b_ms, b_seq] => do
    let a_ms ← int a_ms
    let a_seq ← int a_seq
    let b_ms ← int b_ms
    let b_seq ← int b_seq
    return b_ms < a_ms || b_ms = a_ms && b_seq < a_seq
  | _, _ => .error .ValueError

theorem split_text (id : StreamId) : split id.text = [toString (ofLex id).1.val, toString (ofLex id).2.val] := by
  have hdigits : ∀ n : ℕ, '-' ∉ (toString n).toList := by
    intro n hmem
    have hdigit : '-'.isDigit = true :=
      Nat.isDigit_of_mem_toDigits (b := 10) (n := n) (by decide) (by decide) (Nat.toList_repr ▸ hmem)
    exact absurd hdigit (by decide)
  have hchars : id.text.toList = (toString (ofLex id).1.val).toList ++ '-' :: (toString (ofLex id).2.val).toList := by
    simp [StreamId.text]
  rw [split, hchars, List.splitOn_append_cons_self, List.splitOn_eq_singleton (hdigits _),
    List.splitOn_eq_singleton (hdigits _)]
  simp only [List.cons_append, List.nil_append, List.map_cons, List.map_nil, String.ofList_toList]

/-- The comparison of the texts is the order of the ids. -/
theorem stream_id_gt_text (a b : StreamId) : stream_id_gt a.text b.text = .ok (decide (b < a)) := by
  have hint : ∀ n : ℕ, int (toString n) = .ok (n : ℤ) := by
    intro n
    rw [int, PyDecimal.toInt_toString]
  rw [stream_id_gt, split_text, split_text]
  simp only [hint]
  refine congrArg Except.ok ?_
  rw [Bool.eq_iff_iff]
  simp only [Bool.or_eq_true, Bool.and_eq_true, decide_eq_true_eq, Prod.Lex.lt_iff, Nat.cast_lt, Nat.cast_inj, Fin.ext_iff,
    Fin.lt_def]

end Compare

/-- The fields of an entry. A message adds `id` to them, which neither producer writes. -/
abbrev EntryData := { data : StreamDict // data.get? "id" = none }

section Producers

variable {data : StreamDict}

/-- A reading is written without a field of that name. -/
theorem get?_id_reading {w : JsonText.Writer} {reading : IncomingReading} (h : reading.to_stream_dict w = .ok data) :
    data.get? "id" = none := by
  obtain ⟨payload, metadata, _, _, rfl⟩ := to_stream_dict_ok h
  rw [Dict.get?_set_of_ne _ _ (by decide), Dict.get?_set_of_ne _ _ (by decide), Dict.get?_set_of_ne _ _ (by decide),
    Dict.get?_set_of_ne _ _ (by decide), Dict.get?_set_of_ne _ _ (by decide)]
  rfl

/-- So is an alert. -/
theorem get?_id_alert {U T : Type} {printer : Printer U T} {raised : gateway.alert.Alert U T}
    (h : raised.to_stream_dict printer = .ok data) : data.get? "id" = none := by
  unfold gateway.alert.Alert.to_stream_dict at h
  obtain ⟨details, _, hdata⟩ := Except.bind_ok_iff.mp h
  cases hdata
  rw [Dict.get?_set_of_ne _ _ (by decide), Dict.get?_set_of_ne _ _ (by decide), Dict.get?_set_of_ne _ _ (by decide),
    Dict.get?_set_of_ne _ _ (by decide), Dict.get?_set_of_ne _ _ (by decide), Dict.get?_set_of_ne _ _ (by decide),
    Dict.get?_set_of_ne _ _ (by decide), Dict.get?_set_of_ne _ _ (by decide)]
  rfl

end Producers

abbrev Stream := RedisStream StreamId EntryData

/-- A reply to XREVRANGE, newest first. -/
def reply (stream : Stream) : List (String × StreamDict) :=
  (stream.xrevrange 50).map fun entry => (entry.1.text, entry.2.1)

/-- `{"id": eid, **data}`. -/
def live_entry (eid : String) (data : StreamDict) : StreamDict :=
  data.items.foldl (fun d item => d.set item.1 item.2) (Dict.empty.set "id" eid)

/-- The loop over `reversed(entries)`. -/
def live_loop (last_id : String) : List (String × StreamDict) → Except PyExc (List StreamDict)
  | [] => .ok []
  | (eid, data) :: rest => do
    let newer ← stream_id_gt eid last_id
    let entries ← live_loop last_id rest
    return if newer then live_entry eid data :: entries else entries

/-- What a tick takes from one stream, and the id that it remembers. -/
def live_read (last_id : String) (entries : List (String × StreamDict)) : Except PyExc (List StreamDict × String) := do
  let messages ← live_loop last_id entries.reverse
  return (messages, (entries.head?.map Prod.fst).getD last_id)

/-- The two streams, in the order in which a tick reads them. -/
inductive StreamName where
  | raw_telemetry
  | alerts
  deriving DecidableEq

/-- What one tick sends. -/
structure LiveMessage where
  entries : StreamName → List StreamDict
  stream_length : ℕ
  alert_count : ℕ
  rate : ℚ

/-- Arrivals per second since the last tick that could tell, and what the next one goes by. `info` is
`entries-added`, or `none` if there is no stream to ask about. -/
def live_rate (last : Option (ℕ × ℚ)) (info : Option ℕ) (now : ℚ) : ℚ × Option (ℕ × ℚ) :=
  match info, last with
  | none, _ => (0, last)
  | some added, none => (0, some (added, now))
  | some added, some (last_added, last_tick) =>
    -- Dividing by zero is swallowed with the other errors.
    if now = last_tick then (0, last) else (((added : ℚ) - last_added) / (now - last_tick), some (added, now))

/-- Where a connection is in its loop. -/
inductive Phase where
  | read (name : StreamName)
  | send
  | closed
  deriving DecidableEq

/-- What there was at a read: the stream, the ids that earlier reads returned, and those of the
entries added since the last one. -/
structure Moment where
  stream : Stream
  seen : List StreamId
  arrived : List StreamId

/-- Those of the newest 50 entries that are newer than anything seen, oldest first. -/
def Moment.due (moment : Moment) : List (StreamId × EntryData) :=
  (moment.stream.xrevrange 50).reverse.filter fun entry => moment.seen.all (· < entry.1)

structure State where
  /-- The streams, with what the connection has seen of them. -/
  current : StreamName → Moment
  phase : Phase := .read .raw_telemetry
  /-- `last_telemetry_id` and `last_alert_id`. -/
  last_id : StreamName → String := fun _ => "0-0"
  /-- `readings` and `alerts` of this tick, and the moments at which they were read. -/
  entries : StreamName → List StreamDict := fun _ => []
  read_at : StreamName → Option Moment := fun _ => none
  last : Option (ℕ × ℚ) := none
  /-- Oldest first, each with the moments of its reads. -/
  sent : List (LiveMessage × (StreamName → Option Moment)) := []

inductive Action where
  | append (name : StreamName) (id : StreamId) (data : EntryData)
  | trim (name : StreamName) (n : ℕ)
  | read
  | send (stream_length alert_count : ℕ) (info : Option ℕ) (now : ℚ)
  | disconnect

/-- The next phase after a read. -/
def StreamName.next : StreamName → Phase
  | .raw_telemetry => .read .alerts
  | .alerts => .send

/-- One read of the loop; an error ends the connection. -/
def State.read (s : State) (name : StreamName) : State :=
  let moment := s.current name
  match live_read (s.last_id name) (reply moment.stream) with
  | .error _ => { s with phase := .closed }
  | .ok (entries, last_id) =>
    { s with
      current := Function.update s.current name
        { moment with seen := moment.seen ++ (moment.stream.xrevrange 50).map Prod.fst, arrived := [] }
      phase := name.next
      last_id := Function.update s.last_id name last_id
      entries := Function.update s.entries name entries
      read_at := Function.update s.read_at name (some moment) }

def step (s : State) : Action → Option State
  | .append name id data =>
    let moment := s.current name
    if h : moment.stream.last_generated_id < id then
      some { s with
        current := Function.update s.current name
          { moment with stream := moment.stream.xadd id data h, arrived := moment.arrived ++ [id] } }
    else none
  | .trim name n =>
    let moment := s.current name
    some { s with current := Function.update s.current name { moment with stream := moment.stream.xtrim n } }
  | .read =>
    match s.phase with
    | .read name => some (s.read name)
    | _ => none
  | .send stream_length alert_count info now =>
    if s.phase = .send then
      let (rate, last) := live_rate s.last info now
      some { s with
        phase := .read .raw_telemetry
        entries := fun _ => []
        read_at := fun _ => none
        last
        sent := s.sent ++ [({ entries := s.entries, stream_length, alert_count, rate := PyRound.round rate 1 }, s.read_at)] }
    else none
  | .disconnect => some { s with phase := .closed }

/-- A connection starts with any streams, of which it has seen nothing. -/
def system : TransitionSystem State Action where
  initial s := ∃ streams : StreamName → Stream, s = { current := fun name => { stream := streams name, seen := [], arrived := [] } }
  step := step

/-- What an entry is sent as. -/
def message (entry : StreamId × EntryData) : StreamDict := live_entry entry.1.text entry.2.1

/-- The entries of a tick are what was due at its read, and lack no arrival unless there were more than 50. -/
structure Exact (entries : List StreamDict) (moment : Moment) : Prop where
  due : entries = moment.due.map message
  complete : moment.arrived.length ≤ 50 →
    ∀ entry ∈ moment.stream.entries, entry.1 ∈ moment.arrived → entry ∈ moment.due

/-- The ids are sent in this order. -/
def SentAs (entries : List StreamDict) (ids : List StreamId) : Prop :=
  entries.map (·.get? "id") = ids.map fun id => some id.text

def State.sent_entries (s : State) (name : StreamName) : List StreamDict := s.sent.flatMap fun tick => tick.1.entries name

section Read

variable {stream : Stream} {cursor : StreamId} {name : StreamName}

theorem get?_message (entry : StreamId × EntryData) : (message entry).get? "id" = some entry.1.text := by
  have hlookup : entry.2.1.items.reverse.lookup "id" = none := by
    have hnone := List.lookup_eq_none_iff.mp entry.2.2
    exact List.lookup_eq_none_iff.mpr fun item hitem => hnone item (List.mem_reverse.mp hitem)
  rw [message, live_entry, Dict.get?_foldl_set, hlookup, Option.none_or, Dict.get?_set_self]

theorem sentAs_map_message (entries : List (StreamId × EntryData)) : SentAs (entries.map message) (entries.map Prod.fst) := by
  rw [SentAs, List.map_map, List.map_map]
  exact List.map_congr_left fun entry _ => get?_message entry

theorem SentAs.append {entries entries' : List StreamDict} {ids ids' : List StreamId} (h : SentAs entries ids)
    (h' : SentAs entries' ids') : SentAs (entries ++ entries') (ids ++ ids') := by
  rw [SentAs, List.map_append, List.map_append, h, h']

/-- The loop keeps the entries past the cursor. -/
theorem live_loop_eq (cursor : StreamId) (entries : List (StreamId × EntryData)) :
    live_loop cursor.text (entries.map fun entry => (entry.1.text, entry.2.1)) =
      .ok ((entries.filter fun entry => cursor < entry.1).map message) := by
  induction entries with
  | nil => rfl
  | cons entry rest ih =>
    rw [List.map_cons, live_loop, stream_id_gt_text, ih, List.filter_cons]
    by_cases hnewer : cursor < entry.1
    · rw [decide_eq_true hnewer, if_pos rfl]
      rfl
    · rw [decide_eq_false hnewer, if_neg Bool.false_ne_true]
      rfl

theorem live_read_eq (stream : Stream) (cursor : StreamId) :
    live_read cursor.text (reply stream) =
      .ok (((stream.xrevrange 50).reverse.filter fun entry => cursor < entry.1).map message,
        (stream.advance cursor 50).text) := by
  have hlast : ((reply stream).head?.map Prod.fst).getD cursor.text = (stream.advance cursor 50).text := by
    rw [reply, List.head?_map, Option.map_map, RedisStream.advance]
    cases (stream.xrevrange 50).head? <;> rfl
  rw [live_read, hlast, reply, ← List.map_reverse, live_loop_eq]
  rfl

/-- What is past the cursor is what is due. -/
theorem due_eq {moment : Moment} (h : moment.stream.Cursor moment.seen cursor) :
    ((moment.stream.xrevrange 50).reverse.filter fun entry => cursor < entry.1) = moment.due := by
  refine List.filter_congr fun entry hentry => ?_
  rw [Bool.eq_iff_iff, decide_eq_true_eq, List.all_eq_true]
  simp only [decide_eq_true_eq]
  exact h.lt_iff (RedisStream.mem_of_mem_xrevrange (List.mem_reverse.mp hentry))

theorem read_eq {s : State} (hlast : s.last_id name = cursor.text)
    (hcursor : (s.current name).stream.Cursor (s.current name).seen cursor) :
    s.read name =
      { s with
        current := Function.update s.current name
          { s.current name with
            seen := (s.current name).seen ++ ((s.current name).stream.xrevrange 50).map Prod.fst, arrived := [] }
        phase := name.next
        last_id := Function.update s.last_id name ((s.current name).stream.advance cursor 50).text
        entries := Function.update s.entries name ((s.current name).due.map message)
        read_at := Function.update s.read_at name (some (s.current name)) } := by
  rw [State.read]
  dsimp only
  rw [hlast, live_read_eq, due_eq hcursor]

/-- With the cursor below every arrival, nothing of what arrived is left out. -/
theorem exact_due {moment : Moment} (hseen : ∀ id ∈ moment.arrived, ∀ id' ∈ moment.seen, id' < id)
    (harrived : moment.stream.Arrived moment.arrived) : Exact (moment.due.map message) moment where
  due := rfl
  complete hcount entry hentry hmem :=
    List.mem_filter.mpr ⟨List.mem_reverse.mpr (harrived.mem_xrevrange hcount hentry hmem),
      List.all_eq_true.mpr fun id hid => decide_eq_true (hseen entry.1 hmem id hid)⟩

end Read

/-- The tick has read the stream. -/
def Phase.past : Phase → StreamName → Bool
  | .read .raw_telemetry, _ => false
  | .read .alerts, name => name = .raw_telemetry
  | .send, _ => true
  | .closed, _ => false

/-- The tick will read the stream. -/
def Phase.ahead : Phase → StreamName → Bool
  | .read .raw_telemetry, _ => true
  | .read .alerts, name => name = .alerts
  | .send, _ => false
  | .closed, _ => false

/-- The remembered id is a cursor, below whatever has arrived since, and what was sent or is
about to be ends there. -/
structure Follows (s : State) (name : StreamName) (cursor : StreamId) : Prop where
  last_id : s.last_id name = cursor.text
  newest : (s.current name).stream.Cursor (s.current name).seen cursor
  arrived : ∀ id ∈ (s.current name).arrived, cursor < id
  increasing : ∃ ids, SentAs (s.sent_entries name ++ s.entries name) ids ∧ ids.Pairwise (· < ·) ∧ ∀ id ∈ ids, id ≤ cursor

structure Valid (s : State) (name : StreamName) : Prop where
  follows : ∃ cursor, Follows s name cursor
  arrived : (s.current name).stream.Arrived (s.current name).arrived
  ahead : s.phase.ahead name = true → s.entries name = []
  past : s.phase.past name = true → ∃ moment, s.read_at name = some moment ∧ Exact (s.entries name) moment
  sent : ∀ tick ∈ s.sent, ∃ moment, tick.2 name = some moment ∧ Exact (tick.1.entries name) moment

section Run

variable {s s' : State} {name : StreamName}

theorem valid_start (streams : StreamName → Stream) (name : StreamName) :
    Valid { current := fun name => { stream := streams name, seen := [], arrived := [] } } name where
  follows := ⟨⊥, {
    last_id := rfl
    newest := RedisStream.cursor_start
    arrived := List.forall_mem_nil _
    increasing := ⟨[], rfl, .nil, List.forall_mem_nil _⟩ }⟩
  arrived := RedisStream.arrived_start
  ahead _ := rfl
  past h := by cases h
  sent := List.forall_mem_nil _

/-- A change to the stream that the cursor survives. -/
theorem Valid.update (h : Valid s name) {moment : Moment}
    (hcursor : ∀ cursor, (s.current name).stream.Cursor (s.current name).seen cursor →
      (∀ id ∈ (s.current name).arrived, cursor < id) →
      moment.stream.Cursor moment.seen cursor ∧ ∀ id ∈ moment.arrived, cursor < id)
    (harrived : moment.stream.Arrived moment.arrived) :
    Valid { s with current := Function.update s.current name moment } name := by
  obtain ⟨cursor, hlast, hnewest, habove, hincreasing⟩ := h.follows
  obtain ⟨hnewest', habove'⟩ := hcursor cursor hnewest habove
  refine ⟨⟨cursor, hlast, ?_, ?_, hincreasing⟩, ?_, h.ahead, h.past, h.sent⟩ <;> dsimp only <;>
    rw [Function.update_self]
  · exact hnewest'
  · exact habove'
  · exact harrived

/-- A change to the other stream. -/
theorem Valid.update_other (h : Valid s name) {other : StreamName} (hname : name ≠ other) (moment : Moment) :
    Valid { s with current := Function.update s.current other moment } name := by
  obtain ⟨cursor, hlast, hnewest, habove, hincreasing⟩ := h.follows
  refine ⟨⟨cursor, hlast, ?_, ?_, hincreasing⟩, ?_, h.ahead, h.past, h.sent⟩ <;> dsimp only <;>
    rw [Function.update_of_ne hname]
  · exact hnewest
  · exact habove
  · exact h.arrived

theorem Valid.append (h : Valid s name) {other : StreamName} {id : StreamId} {data : EntryData}
    (hid : (s.current other).stream.last_generated_id < id) :
    Valid { s with
      current := Function.update s.current other
        { s.current other with
          stream := (s.current other).stream.xadd id data hid, arrived := (s.current other).arrived ++ [id] } } name := by
  by_cases hname : name = other
  · subst hname
    refine h.update (fun cursor hnewest habove => ⟨hnewest.xadd hid, ?_⟩) (h.arrived.xadd hid)
    exact List.forall_mem_append.mpr ⟨habove, List.forall_mem_singleton.mpr (hnewest.le_last.trans_lt hid)⟩
  · exact h.update_other hname _

theorem Valid.trim (h : Valid s name) (other : StreamName) (n : ℕ) :
    Valid { s with
      current := Function.update s.current other
        { s.current other with stream := (s.current other).stream.xtrim n } } name := by
  by_cases hname : name = other
  · subst hname
    exact h.update (fun cursor hnewest habove => ⟨hnewest.xtrim n, habove⟩) (h.arrived.xtrim n)
  · exact h.update_other hname _

theorem Valid.read_self (h : Valid s name) (hphase : s.phase = .read name) : Valid (s.read name) name := by
  obtain ⟨⟨cursor, hfollows⟩, harrived, hahead, hpast, hsent⟩ := h
  obtain ⟨ids, hids, hincreasing, hle⟩ := hfollows.increasing
  have hnone : s.entries name = [] := hahead (by rw [hphase]; cases name <;> rfl)
  have hexact : Exact ((s.current name).due.map message) (s.current name) :=
    exact_due (fun id hid id' hid' => (hfollows.newest.seen_le id' hid').trans_lt (hfollows.arrived id hid)) harrived
  have hdue : ∀ entry ∈ (s.current name).due, cursor < entry.1 ∧ entry ∈ (s.current name).stream.entries := by
    intro entry hentry
    rw [← due_eq hfollows.newest, List.mem_filter, decide_eq_true_eq, List.mem_reverse] at hentry
    exact ⟨hentry.2, RedisStream.mem_of_mem_xrevrange hentry.1⟩
  rw [read_eq hfollows.last_id hfollows.newest]
  refine ⟨⟨(s.current name).stream.advance cursor 50, ?_, ?_, ?_, ids ++ (s.current name).due.map Prod.fst, ?_, ?_, ?_⟩,
    ?_, fun hnext => ?_, fun _ => ⟨s.current name, ?_, ?_⟩, hsent⟩
  · simp only [Function.update_self]
  · simp only [Function.update_self]
    exact hfollows.newest.read (by decide)
  · simp only [Function.update_self]
    exact List.forall_mem_nil _
  · rw [hnone, List.append_nil] at hids
    simp only [Function.update_self]
    exact hids.append (sentAs_map_message _)
  · refine List.pairwise_append.mpr ⟨hincreasing, ?_, fun id hid id' hid' => ?_⟩
    · rw [List.pairwise_map]
      exact ((s.current name).stream.increasing_xrevrange_reverse 50).filter _
    · obtain ⟨entry, hentry, rfl⟩ := List.mem_map.mp hid'
      exact (hle id hid).trans_lt (hdue entry hentry).1
  · intro id hid
    obtain hid | hid := List.mem_append.mp hid
    · exact (hle id hid).trans (hfollows.newest.le_advance (by decide))
    · obtain ⟨entry, hentry, rfl⟩ := List.mem_map.mp hid
      exact RedisStream.le_advance_of_mem (by decide) (hdue entry hentry).2
  · simp only [Function.update_self]
    exact RedisStream.arrived_start
  · cases name <;> cases hnext
  · simp only [Function.update_self]
  · simp only [Function.update_self]
    exact hexact

theorem Valid.read_other (h : Valid s name) {other : StreamName} (hother : Valid s other) (hphase : s.phase = .read other)
    (hname : name ≠ other) : Valid (s.read other) name := by
  obtain ⟨⟨cursor, hfollows⟩, harrived, hahead, hpast, hsent⟩ := h
  obtain ⟨cursor', hfollows'⟩ := hother.follows
  rw [read_eq hfollows'.last_id hfollows'.newest]
  rw [hphase] at hahead hpast
  refine ⟨⟨cursor, ?_, ?_, ?_, ?_⟩, ?_, fun hnext => ?_, fun hnext => ?_, hsent⟩ <;> dsimp only [State.sent_entries] at * <;>
    simp only [Function.update_of_ne hname]
  · exact hfollows.last_id
  · exact hfollows.newest
  · exact hfollows.arrived
  · exact hfollows.increasing
  · exact harrived
  · refine hahead ?_
    cases name <;> cases other <;> first | exact absurd rfl hname | rfl | cases hnext
  · refine hpast ?_
    cases name <;> cases other <;> first | exact absurd rfl hname | rfl | cases hnext

theorem Valid.send (h : Valid s name) (hphase : s.phase = .send) (last : Option (ℕ × ℚ)) (stream_length alert_count : ℕ)
    (rate : ℚ) :
    Valid { s with
      phase := .read .raw_telemetry
      entries := fun _ => []
      read_at := fun _ => none
      last
      sent := s.sent ++ [({ entries := s.entries, stream_length, alert_count, rate }, s.read_at)] } name := by
  obtain ⟨⟨cursor, hfollows⟩, harrived, hahead, hpast, hsent⟩ := h
  refine ⟨⟨cursor, hfollows.last_id, hfollows.newest, hfollows.arrived, ?_⟩, harrived, fun _ => rfl,
    fun hnext => absurd hnext Bool.false_ne_true, ?_⟩
  · obtain ⟨ids, hids, hrest⟩ := hfollows.increasing
    refine ⟨ids, ?_, hrest⟩
    simp only [State.sent_entries, List.flatMap_append, List.flatMap_cons, List.flatMap_nil, List.append_nil]
    exact hids
  · refine List.forall_mem_append.mpr ⟨hsent, List.forall_mem_singleton.mpr (hpast ?_)⟩
    rw [hphase]
    rfl

theorem Valid.close (h : Valid s name) : Valid { s with phase := .closed } name where
  follows := by
    obtain ⟨cursor, hlast, hnewest, habove, hincreasing⟩ := h.follows
    exact ⟨cursor, hlast, hnewest, habove, hincreasing⟩
  arrived := h.arrived
  ahead hnext := absurd hnext Bool.false_ne_true
  past hnext := absurd hnext Bool.false_ne_true
  sent := h.sent

theorem Valid.of_step {a : Action} (h : ∀ name, Valid s name) (hstep : step s a = some s') (name : StreamName) :
    Valid s' name := by
  cases a with
  | append other id data =>
    simp only [step] at hstep
    split at hstep
    · cases hstep
      exact (h name).append _
    · cases hstep
  | trim other n =>
    cases hstep
    exact (h name).trim other n
  | read =>
    simp only [step] at hstep
    split at hstep
    · rename_i other hphase
      cases hstep
      by_cases hname : name = other
      · subst hname
        exact (h name).read_self hphase
      · exact (h name).read_other (h other) hphase hname
    · cases hstep
  | send stream_length alert_count info now =>
    simp only [step] at hstep
    split at hstep
    · rename_i hphase
      cases hstep
      exact (h name).send hphase _ stream_length alert_count _
    · cases hstep
  | disconnect =>
    cases hstep
    exact (h name).close

theorem valid_of_reachable (h : system.Reachable s) (name : StreamName) : Valid s name := by
  refine TransitionSystem.ReachableWhere.invariant (P := fun s => ∀ name, Valid s name) ?_ ?_ h name
  · rintro s ⟨streams, rfl⟩ name
    exact valid_start streams name
  · exact fun s a s' hvalid _ hstep name => Valid.of_step hvalid hstep name

end Run

/-- In every run the ids sent of a stream increase; each tick sends what is newer than all that earlier
ticks have seen, among the newest 50, and lacks no arrival that is left unless there were more than 50
since the tick before; and no read ends the connection. -/
theorem live_feed {s : State} (h : system.Reachable s) (name : StreamName) :
    (∃ ids : List StreamId, SentAs (s.sent_entries name) ids ∧ ids.Pairwise (· < ·)) ∧
      (∀ tick ∈ s.sent, ∃ moment, tick.2 name = some moment ∧ Exact (tick.1.entries name) moment) ∧
      (s.phase = .read name → (s.read name).phase = name.next) := by
  obtain ⟨cursor, hfollows⟩ := (valid_of_reachable h name).follows
  refine ⟨?_, (valid_of_reachable h name).sent, fun _ => ?_⟩
  · obtain ⟨ids, hids, hincreasing, _⟩ := hfollows.increasing
    rw [SentAs, List.map_append] at hids
    obtain ⟨sent, rest, rfl, hsent, _⟩ := List.map_eq_append_iff.mp hids.symm
    exact ⟨sent, hsent.symm, (List.pairwise_append.mp hincreasing).1⟩
  · rw [read_eq hfollows.last_id hfollows.newest]

/-- Ids of one millisecond, the second of which is the longer text. -/
def sample_run : List Action :=
  [.append .raw_telemetry (toLex (5, 9)) ⟨.empty, rfl⟩, .append .raw_telemetry (toLex (5, 10)) ⟨.empty, rfl⟩, .read, .read,
    .send 2 0 (some 2) 0, .trim .raw_telemetry 2, .append .raw_telemetry (toLex (6, 0)) ⟨.empty, rfl⟩, .read, .read,
    .send 1 0 (some 3) 2]

def sample_start : State := { current := fun _ => { stream := .empty, seen := [], arrived := [] } }

theorem live_feed_sample : ∃ s : State,
    (s.sent_entries .raw_telemetry).map (·.get? "id") = [some "5-9", some "5-10", some "6-0"] ∧
      ∃ ids : List StreamId, SentAs (s.sent_entries .raw_telemetry) ids ∧ ids.Pairwise (· < ·) := by
  have hstart : system.initial sample_start := ⟨fun _ => .empty, rfl⟩
  obtain ⟨s, hreach, htest⟩ := TransitionSystem.exists_of_replay (fun _ _ => True) (fun _ _ => true) (fun _ _ _ => trivial)
    hstart sample_run
    (fun s => (s.sent_entries .raw_telemetry).map (·.get? "id") = [some "5-9", some "5-10", some "6-0"])
    (by decide +kernel)
  exact ⟨s, of_decide_eq_true htest, (live_feed hreach .raw_telemetry).1⟩

end gateway.dashboard
