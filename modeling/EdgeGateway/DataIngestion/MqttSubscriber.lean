import EdgeGateway.DataIngestion.Publication
import EdgeGateway.Library.Transition
import Mathlib.Algebra.Order.Field.Basic
import Mathlib.Data.List.Forall2
import Mathlib.Data.Rat.Cast.Order
import Mathlib.Tactic.Linarith

open JsonText

namespace List

theorem SublistForall₂.append {α β : Type*} {R : α → β → Prop} {l₁ r₁ : List α} {l₂ r₂ : List β}
    (hl : SublistForall₂ R l₁ l₂) (hr : SublistForall₂ R r₁ r₂) :
    SublistForall₂ R (l₁ ++ r₁) (l₂ ++ r₂) := by
  obtain ⟨l, hl, hsub⟩ := sublistForall₂_iff.mp hl
  obtain ⟨r, hr, hsub'⟩ := sublistForall₂_iff.mp hr
  exact sublistForall₂_iff.mpr ⟨l ++ r, rel_append hl hr, hsub.append hsub'⟩

theorem sublistForall₂_toList {α β : Type*} {R : α → β → Prop} {x : Option α} {b : β} (h : ∀ a, x = some a → R a b) :
    SublistForall₂ R x.toList [b] := by
  cases x with
  | none => exact .nil
  | some a => exact .cons (h a rfl) .nil

end List

namespace gateway.data_ingestion.mqtt_subscriber

open telemetry

def _BASE_RECONNECT_DELAY : ℚ := 1

def _MAX_RECONNECT_DELAY : ℚ := 60

def _BACKOFF_MULTIPLIER : ℚ := 2

structure MqttMessage where
  topic : String
  payload : List UInt8

/-- How the body of `async with` ended. -/
inductive Exit where
  | returned
  | raised
  | cancelled

/-- What the subscriber awaits: the client, the subscription to a topic that has others after it, the next message,
the handler of one, the end of the connection, or the end of a sleep. -/
inductive Phase where
  | connecting
  | subscribing (topic : String) (rest : List String)
  | receiving
  | handling (message : MqttMessage)
  | leaving (exit : Exit)
  | sleeping
  | stopped

/-- The subscriber, with what has come of it so far. -/
structure State (w : Writer) where
  _running : Bool := true
  _reconnect_delay : ℚ := _BASE_RECONNECT_DELAY
  phase : Phase
  /-- The topics that the connection has subscribed to. -/
  subscribed : List String := []
  /-- The messages that handlers have been given. -/
  received : List MqttMessage := []
  entries : List (Entry w) := []
  connections : ℕ := 0
  /-- The sleeps since a connection had last subscribed to all topics. -/
  slept : List ℚ := []

inductive Action where
  | connected
  | subscribed
  | message (message : MqttMessage)
  /-- The handler is through, having seen the time and made its call of XADD. -/
  | handled (utcnow : PyDatetime) (stream_add : StreamAdd)
  | left
  | slept
  /-- The awaited call raises an `MqttError` or another exception. -/
  | raised
  /-- The task is cancelled. A handler has called XADD before or not. -/
  | cancel (utcnow : PyDatetime) (stream_add : StreamAdd)
  | stop

section Run

variable (lib : Libraries) (mqtt_topics : List String)

/-- `while self._running`. -/
def loop (s : State lib.writer) : State lib.writer :=
  if s._running then { s with phase := .connecting, subscribed := [], connections := s.connections + 1 }
  else { s with phase := .stopped }

/-- The branches for exceptions, which sleep. -/
def except (s : State lib.writer) : State lib.writer :=
  if s._running then { s with phase := .sleeping, slept := s.slept ++ [s._reconnect_delay] }
  else { s with phase := .stopped }

/-- The backoff after a sleep. -/
def back_off (s : State lib.writer) : State lib.writer :=
  { s with _reconnect_delay := min (s._reconnect_delay * _BACKOFF_MULTIPLIER) _MAX_RECONNECT_DELAY }

/-- Subscribe to the topics that are left. After the last one the backoff is reset. -/
def subscribe (s : State lib.writer) : List String → State lib.writer
  | topic :: rest => { s with phase := .subscribing topic rest }
  | [] => { s with phase := .receiving, _reconnect_delay := _BASE_RECONNECT_DELAY, slept := [] }

/-- What a handler publishes. -/
def publish (s : State lib.writer) (message : MqttMessage) (utcnow : PyDatetime) (stream_add : StreamAdd) :
    State lib.writer :=
  { s with entries := s.entries ++ (_handle_message lib utcnow stream_add message.topic message.payload).entry.toList }

/-- Connect, subscribe, and process messages. -/
def step (s : State lib.writer) (a : Action) : Option (State lib.writer) :=
  match a, s.phase with
  | .stop, _ => some { s with _running := false }
  | .connected, .connecting => some (subscribe lib s mqtt_topics)
  | .raised, .connecting => some (except lib s)
  | .cancel _ _, .connecting => some { s with phase := .stopped }
  | .subscribed, .subscribing topic rest => some (subscribe lib { s with subscribed := s.subscribed ++ [topic] } rest)
  | .message message, .receiving =>
    if s._running then some { s with phase := .handling message, received := s.received ++ [message] }
    else some { s with phase := .leaving .returned }
  -- The exceptions of the handler are logged there.
  | .handled utcnow stream_add, .handling message =>
    some { publish lib s message utcnow stream_add with phase := .receiving }
  | .cancel utcnow stream_add, .handling message =>
    some { publish lib s message utcnow stream_add with phase := .leaving .cancelled }
  | .raised, .subscribing _ _ | .raised, .receiving => some { s with phase := .leaving .raised }
  | .cancel _ _, .subscribing _ _ | .cancel _ _, .receiving => some { s with phase := .leaving .cancelled }
  | .left, .leaving .returned => some (loop lib s)
  | .left, .leaving .raised => some (except lib s)
  | .left, .leaving .cancelled => some { s with phase := .stopped }
  -- What the end of the connection raises takes the place of what it was ended for.
  | .raised, .leaving _ => some (except lib s)
  | .cancel _ _, .leaving _ => some { s with phase := .stopped }
  | .slept, .sleeping => some (loop lib (back_off lib s))
  | .cancel _ _, .sleeping => some { s with phase := .stopped }
  | _, _ => none

/-- The runs of a subscriber. -/
def system : TransitionSystem (State lib.writer) Action where
  initial s := s = { phase := .connecting, connections := 1 }
  step := step lib mqtt_topics

end Run

section Moves

variable {lib : Libraries} {mqtt_topics : List String} {s s' : State lib.writer} {a : Action}

/-- What the subscriber does when it goes on. -/
inductive Moves (mqtt_topics : List String) (s : State lib.writer) : State lib.writer → Prop where
  | connected (hphase : s.phase = .connecting) : Moves mqtt_topics s (subscribe lib s mqtt_topics)
  | subscribed (topic : String) (rest : List String) (hphase : s.phase = .subscribing topic rest) :
    Moves mqtt_topics s (subscribe lib { s with subscribed := s.subscribed ++ [topic] } rest)
  | received (message : MqttMessage) (hphase : s.phase = .receiving) (hrunning : s._running = true) :
    Moves mqtt_topics s { s with phase := .handling message, received := s.received ++ [message] }
  | handled (message : MqttMessage) (utcnow : PyDatetime) (stream_add : StreamAdd) (hphase : s.phase = .handling message)
    (next : Phase) (hnext : next = .receiving ∨ next = .leaving .cancelled) :
    Moves mqtt_topics s { publish lib s message utcnow stream_add with phase := next }
  | left (exit : Exit) (hconnected : s.phase = .receiving ∨ ∃ topic rest, s.phase = .subscribing topic rest) :
    Moves mqtt_topics s { s with phase := .leaving exit }
  | failed (hphase : s.phase = .connecting ∨ ∃ exit, s.phase = .leaving exit) : Moves mqtt_topics s (except lib s)
  | returned (hphase : s.phase = .leaving .returned) : Moves mqtt_topics s (loop lib s)
  | slept (hphase : s.phase = .sleeping) : Moves mqtt_topics s (loop lib (back_off lib s))
  | cancelled (hphase : s.phase = .connecting ∨ s.phase = .sleeping ∨ ∃ exit, s.phase = .leaving exit) :
    Moves mqtt_topics s { s with phase := .stopped }

theorem step_cases (h : step lib mqtt_topics s a = some s') :
    a = .stop ∧ s' = { s with _running := false } ∨ a ≠ .stop ∧ Moves mqtt_topics s s' := by
  unfold step at h
  split at h
  case h_1 =>
    cases h
    exact .inl ⟨rfl, rfl⟩
  case h_6 hphase =>
    split at h
    · rename_i hrunning
      cases h
      exact .inr ⟨by simp, .received _ hphase hrunning⟩
    · cases h
      exact .inr ⟨by simp, .left _ (.inl hphase)⟩
  all_goals cases h
  case h_2 hphase => exact .inr ⟨by simp, .connected hphase⟩
  case h_3 hphase => exact .inr ⟨by simp, .failed (.inl hphase)⟩
  case h_4 hphase => exact .inr ⟨by simp, .cancelled (.inl hphase)⟩
  case h_5 topic rest hphase => exact .inr ⟨by simp, .subscribed topic rest hphase⟩
  case h_7 message hphase => exact .inr ⟨by simp, .handled message _ _ hphase _ (.inl rfl)⟩
  case h_8 message hphase => exact .inr ⟨by simp, .handled message _ _ hphase _ (.inr rfl)⟩
  case h_9 topic rest hphase => exact .inr ⟨by simp, .left _ (.inr ⟨topic, rest, hphase⟩)⟩
  case h_10 hphase => exact .inr ⟨by simp, .left _ (.inl hphase)⟩
  case h_11 topic rest hphase => exact .inr ⟨by simp, .left _ (.inr ⟨topic, rest, hphase⟩)⟩
  case h_12 hphase => exact .inr ⟨by simp, .left _ (.inl hphase)⟩
  case h_13 hphase => exact .inr ⟨by simp, .returned hphase⟩
  case h_14 hphase => exact .inr ⟨by simp, .failed (.inr ⟨_, hphase⟩)⟩
  case h_15 hphase => exact .inr ⟨by simp, .cancelled (.inr (.inr ⟨_, hphase⟩))⟩
  case h_16 hphase => exact .inr ⟨by simp, .failed (.inr ⟨_, hphase⟩)⟩
  case h_17 hphase => exact .inr ⟨by simp, .cancelled (.inr (.inr ⟨_, hphase⟩))⟩
  case h_18 hphase => exact .inr ⟨by simp, .slept hphase⟩
  case h_19 hphase => exact .inr ⟨by simp, .cancelled (.inr (.inl hphase))⟩

/-- The delay before the connection that follows `k` failures in a row. -/
def delay (k : ℕ) : ℚ := min (_BASE_RECONNECT_DELAY * _BACKOFF_MULTIPLIER ^ k) _MAX_RECONNECT_DELAY

theorem delay_succ (k : ℕ) : min (delay k * _BACKOFF_MULTIPLIER) _MAX_RECONNECT_DELAY = delay (k + 1) := by
  have hmul : delay k * _BACKOFF_MULTIPLIER =
      min (_BASE_RECONNECT_DELAY * _BACKOFF_MULTIPLIER ^ (k + 1)) (_MAX_RECONNECT_DELAY * _BACKOFF_MULTIPLIER) := by
    rw [delay, min_mul_of_nonneg _ _ (by norm_num [_BACKOFF_MULTIPLIER]), pow_succ, mul_assoc]
  have hmax : _MAX_RECONNECT_DELAY ≤ _MAX_RECONNECT_DELAY * _BACKOFF_MULTIPLIER := by
    norm_num [_MAX_RECONNECT_DELAY, _BACKOFF_MULTIPLIER]
  rw [hmul, min_assoc, min_eq_right hmax, delay]

/-- The subscriber neither sleeps nor has it stopped. -/
def Phase.active : Phase → Bool
  | .sleeping | .stopped => false
  | .connecting | .subscribing _ _ | .receiving | .handling _ | .leaving _ => true

/-- The sleeps so far follow the backoff, and so will the next one. -/
structure BacksOff (s : State lib.writer) : Prop where
  slept : s.slept = (List.range s.slept.length).map delay
  active : s.phase.active = true → s._reconnect_delay = delay s.slept.length
  asleep : s.phase = .sleeping → ∃ k, s.slept.length = k + 1 ∧ s._reconnect_delay = delay k

theorem BacksOff.stopped (h : BacksOff s) : BacksOff { s with phase := .stopped } :=
  ⟨h.slept, by simp [Phase.active], by simp⟩

theorem BacksOff.of_active {s' : State lib.writer} (h : BacksOff s) (hphase : s.phase.active = true)
    (hslept : s'.slept = s.slept) (hdelay : s'._reconnect_delay = s._reconnect_delay) (hphase' : s'.phase ≠ .sleeping) :
    BacksOff s' := by
  refine ⟨?_, fun _ => ?_, fun hasleep => absurd hasleep hphase'⟩
  · rw [hslept]
    exact h.slept
  · rw [hslept, hdelay]
    exact h.active hphase

theorem BacksOff.subscribe (h : BacksOff s) (hphase : s.phase.active = true) (rest : List String) :
    BacksOff (subscribe lib s rest) := by
  cases rest with
  | nil =>
    refine ⟨rfl, fun _ => ?_, by simp [mqtt_subscriber.subscribe]⟩
    norm_num [mqtt_subscriber.subscribe, delay, _BASE_RECONNECT_DELAY, _MAX_RECONNECT_DELAY]
  | cons topic rest => exact h.of_active hphase rfl rfl (by simp [mqtt_subscriber.subscribe])

theorem BacksOff.loop (h : BacksOff s) (hphase : s.phase.active = true) : BacksOff (loop lib s) := by
  unfold mqtt_subscriber.loop
  split
  · exact h.of_active hphase rfl rfl (by simp)
  · exact h.stopped

theorem BacksOff.except (h : BacksOff s) (hphase : s.phase.active = true) : BacksOff (except lib s) := by
  unfold mqtt_subscriber.except
  split
  · refine ⟨?_, by simp [Phase.active], fun _ => ⟨s.slept.length, by simp, h.active hphase⟩⟩
    rw [List.length_append, List.length_singleton, List.range_succ, List.map_append, ← h.slept, List.map_singleton,
      h.active hphase]
  · exact h.stopped

/-- After a sleep comes the next connection, with the next delay, or the end. -/
theorem BacksOff.wake (h : BacksOff s) (hphase : s.phase = .sleeping) :
    BacksOff (mqtt_subscriber.loop lib (back_off lib s)) := by
  obtain ⟨k, hlength, hdelay⟩ := h.asleep hphase
  have hnext : (back_off lib s)._reconnect_delay = delay s.slept.length := by
    rw [hlength, ← delay_succ, ← hdelay]
    rfl
  unfold mqtt_subscriber.loop
  split
  · exact ⟨h.slept, fun _ => hnext, by simp⟩
  · exact ⟨h.slept, fun _ => hnext, by simp⟩

theorem BacksOff.step (h : BacksOff s) (hstep : step lib mqtt_topics s a = some s') : BacksOff s' := by
  obtain ⟨_, rfl⟩ | ⟨_, hmoves⟩ := step_cases hstep
  · exact ⟨h.slept, h.active, h.asleep⟩
  cases hmoves with
  | connected hphase => exact h.subscribe (by simp [hphase, Phase.active]) mqtt_topics
  | subscribed topic rest hphase =>
    have hsubscribed : BacksOff { s with subscribed := s.subscribed ++ [topic] } := ⟨h.slept, h.active, h.asleep⟩
    exact hsubscribed.subscribe (by simp [hphase, Phase.active]) rest
  | received message hphase => exact h.of_active (by simp [hphase, Phase.active]) rfl rfl (by simp)
  | handled message utcnow stream_add hphase next hnext =>
    obtain rfl | rfl := hnext <;> exact h.of_active (by simp [hphase, Phase.active]) rfl rfl (by simp)
  | left exit hconnected =>
    obtain hphase | ⟨topic, rest, hphase⟩ := hconnected <;>
      exact h.of_active (by simp [hphase, Phase.active]) rfl rfl (by simp)
  | failed hphase =>
    obtain hphase | ⟨exit, hphase⟩ := hphase <;> exact h.except (by simp [hphase, Phase.active])
  | returned hphase => exact h.loop (by simp [hphase, Phase.active])
  | slept hphase => exact h.wake hphase
  | cancelled => exact h.stopped

/-- The topics that the connection is still to subscribe to. -/
def Phase.missing (mqtt_topics : List String) : Phase → Option (List String)
  | .connecting => some mqtt_topics
  | .subscribing topic rest => some (topic :: rest)
  | .receiving | .handling _ => some []
  | .leaving _ | .sleeping | .stopped => none

/-- The connection subscribes to the topics in order. -/
def Subscribes (mqtt_topics : List String) (s : State lib.writer) : Prop :=
  ∀ rest, s.phase.missing mqtt_topics = some rest → s.subscribed ++ rest = mqtt_topics

theorem subscribes_subscribe {rest : List String} (h : s.subscribed ++ rest = mqtt_topics) :
    Subscribes mqtt_topics (subscribe lib s rest) := by
  intro rest' hmissing
  cases rest with
  | nil =>
    cases hmissing
    exact h
  | cons topic rest =>
    cases hmissing
    exact h

theorem subscribes_loop : Subscribes mqtt_topics (loop lib s) := by
  intro rest hmissing
  by_cases hrunning : s._running = true
  · rw [loop, if_pos hrunning] at hmissing ⊢
    cases hmissing
    rfl
  · rw [loop, if_neg hrunning] at hmissing
    cases hmissing

theorem Subscribes.step (h : Subscribes mqtt_topics s) (hstep : step lib mqtt_topics s a = some s') :
    Subscribes mqtt_topics s' := by
  obtain ⟨_, rfl⟩ | ⟨_, hmoves⟩ := step_cases hstep
  · exact h
  cases hmoves with
  | connected hphase => exact subscribes_subscribe (h _ (by rw [hphase]; rfl))
  | subscribed topic rest hphase =>
    have htopics : s.subscribed ++ topic :: rest = mqtt_topics := h _ (by rw [hphase]; rfl)
    exact subscribes_subscribe (by rw [List.append_assoc, List.singleton_append, htopics])
  | received message hphase =>
    intro rest hmissing
    exact h rest (by rw [hphase]; exact hmissing)
  | handled message utcnow stream_add hphase next hnext =>
    intro rest hmissing
    obtain rfl | rfl := hnext
    · exact h rest (by rw [hphase]; exact hmissing)
    · cases hmissing
  | left | cancelled =>
    intro rest hmissing
    cases hmissing
  | failed =>
    intro rest hmissing
    unfold except at hmissing
    split at hmissing <;> cases hmissing
  | returned | slept => exact subscribes_loop

/-- The entry is that of the reading in the message. -/
def Publishes (entry : Entry lib.writer) (message : MqttMessage) : Prop :=
  ∃ utcnow, mqtt_reading lib utcnow message.topic message.payload = .ok entry.reading

/-- Each message has led to at most one entry, in order, and the one in hand to none so far. -/
structure Delivers (s : State lib.writer) : Prop where
  entries : List.SublistForall₂ Publishes s.entries s.received
  in_hand : ∀ message, s.phase = .handling message →
    ∃ before, s.received = before ++ [message] ∧ List.SublistForall₂ Publishes s.entries before

theorem Delivers.of_eq {s' : State lib.writer} (h : Delivers s) (hentries : s'.entries = s.entries)
    (hreceived : s'.received = s.received) (hphase : ∀ message, s'.phase ≠ .handling message) : Delivers s' := by
  refine ⟨?_, fun message hhandling => absurd hhandling (hphase message)⟩
  rw [hentries, hreceived]
  exact h.entries

theorem publishes_of_mem {message : MqttMessage} {utcnow : PyDatetime} {stream_add : StreamAdd} {entry : Entry lib.writer}
    (h : (_handle_message lib utcnow stream_add message.topic message.payload).entry = some entry) :
    Publishes entry message := by
  have hentry : Arrival.entry lib ⟨.mqtt message.topic message.payload, utcnow, 0, stream_add⟩ = some entry := h
  exact ⟨utcnow, (Arrival.entry_eq_some_iff.mp hentry).1⟩

theorem Delivers.step (h : Delivers s) (hstep : step lib mqtt_topics s a = some s') : Delivers s' := by
  obtain ⟨_, rfl⟩ | ⟨_, hmoves⟩ := step_cases hstep
  · exact ⟨h.entries, h.in_hand⟩
  cases hmoves with
  | connected => cases mqtt_topics <;> exact h.of_eq rfl rfl (by simp [subscribe])
  | subscribed topic rest => cases rest <;> exact h.of_eq rfl rfl (by simp [subscribe])
  | received message =>
    refine ⟨?_, ?_⟩
    · have hnone : List.SublistForall₂ Publishes ([] : List (Entry lib.writer)) [message] := .nil
      simpa using List.SublistForall₂.append h.entries hnone
    · intro message' hphase
      cases hphase
      exact ⟨s.received, rfl, h.entries⟩
  | handled message utcnow stream_add hphase next hnext =>
    obtain ⟨before, hreceived, hentries⟩ := h.in_hand message hphase
    refine ⟨?_, ?_⟩
    · change List.SublistForall₂ Publishes (s.entries ++ _) s.received
      rw [hreceived]
      exact List.SublistForall₂.append hentries (List.sublistForall₂_toList fun entry hentry => publishes_of_mem hentry)
    · intro message' hphase'
      obtain rfl | rfl := hnext <;> cases hphase'
  | left | cancelled => exact h.of_eq rfl rfl (by simp)
  | failed => unfold except; split <;> exact h.of_eq rfl rfl (by simp)
  | returned => unfold loop; split <;> exact h.of_eq rfl rfl (by simp)
  | slept => unfold loop; split <;> exact h.of_eq rfl rfl (by simp)

/-- What holds of a subscriber at any time: it backs off, it receives from connections that have subscribed to all
topics, and it publishes what it receives in order. -/
structure Sound (mqtt_topics : List String) (s : State lib.writer) : Prop where
  /-- The sleeps since the last good connection double, up to the maximum. -/
  slept : s.slept = (List.range s.slept.length).map delay
  receiving : s.phase = .receiving → s.subscribed = mqtt_topics
  handling : ∀ message, s.phase = .handling message → s.subscribed = mqtt_topics
  entries : List.SublistForall₂ Publishes s.entries s.received

theorem reachable_invariant (h : (system lib mqtt_topics).Reachable s) :
    BacksOff s ∧ Subscribes mqtt_topics s ∧ Delivers s := by
  refine TransitionSystem.ReachableWhere.invariant
    (P := fun s : State lib.writer => BacksOff s ∧ Subscribes mqtt_topics s ∧ Delivers s) ?_ ?_ h
  · rintro s rfl
    refine ⟨⟨rfl, fun _ => ?_, by simp⟩, ?_, ⟨.nil, by simp⟩⟩
    · norm_num [delay, _BASE_RECONNECT_DELAY, _MAX_RECONNECT_DELAY]
    · intro rest hmissing
      cases hmissing
      rfl
  · rintro s a s' ⟨hbacks, hsubscribes, hdelivers⟩ _ hstep
    exact ⟨hbacks.step hstep, hsubscribes.step hstep, hdelivers.step hstep⟩

/-- Whatever the broker, the tasks around it and Redis do. -/
theorem subscriber_sound (h : (system lib mqtt_topics).Reachable s) : Sound mqtt_topics s := by
  obtain ⟨hbacks, hsubscribes, hdelivers⟩ := reachable_invariant h
  refine ⟨hbacks.slept, fun hphase => ?_, fun message hphase => ?_, hdelivers.entries⟩
  · simpa using hsubscribes [] (by rw [hphase]; rfl)
  · simpa using hsubscribes [] (by rw [hphase]; rfl)

/-- The awaits that are left to a subscriber that has been told to stop. -/
def Phase.rank (mqtt_topics : List String) : Phase → ℕ
  | .connecting => mqtt_topics.length + 3
  | .subscribing _ rest => rest.length + 3
  | .handling _ => 3
  | .receiving => 2
  | .leaving _ | .sleeping => 1
  | .stopped => 0

/-- The entries that the message in hand can still have. -/
def Phase.in_hand : Phase → ℕ
  | .handling _ => 1
  | _ => 0

/-- What a stopped subscriber has done since `s`. -/
structure WindsDown (s s' : State lib.writer) : Prop where
  stopped : s'._running = false
  received : s'.received = s.received
  connections : s'.connections = s.connections
  entries : s'.entries.length + s'.phase.in_hand ≤ s.entries.length + s.phase.in_hand
  asleep : s'.phase = .sleeping → s.phase = .sleeping

theorem WindsDown.refl (h : s._running = false) : WindsDown s s := ⟨h, rfl, rfl, le_refl _, id⟩

theorem WindsDown.trans {s'' : State lib.writer} (h : WindsDown s s') (h' : WindsDown s' s'') : WindsDown s s'' :=
  ⟨h'.stopped, h'.received.trans h.received, h'.connections.trans h.connections, h'.entries.trans h.entries,
    fun hphase => h.asleep (h'.asleep hphase)⟩

/-- The entries and the messages stay, and so does the rest. -/
theorem WindsDown.of_phase {next : Phase} (h : s._running = false) (hhand : next.in_hand ≤ s.phase.in_hand)
    (hasleep : next ≠ .sleeping) : WindsDown s { s with phase := next } :=
  ⟨h, rfl, rfl, Nat.add_le_add_left hhand _, fun hphase => absurd hphase hasleep⟩

theorem windsDown_subscribe (h : s._running = false) (rest : List String) : WindsDown s (subscribe lib s rest) := by
  cases rest with
  | nil => exact ⟨h, rfl, rfl, by simp [subscribe, Phase.in_hand], by simp [subscribe]⟩
  | cons topic rest => exact .of_phase h (Nat.zero_le _) (by simp)

theorem rank_subscribe (rest : List String) : (subscribe lib s rest).phase.rank mqtt_topics < rest.length + 3 := by
  cases rest <;> simp [subscribe, Phase.rank]

theorem entry_length_le (lib : Libraries) (message : MqttMessage) (utcnow : PyDatetime) (stream_add : StreamAdd) :
    (_handle_message lib utcnow stream_add message.topic message.payload).entry.toList.length ≤ 1 := by
  cases (_handle_message lib utcnow stream_add message.topic message.payload).entry <;> simp

/-- One step of a stopped subscriber brings it closer to its end. -/
theorem Moves.winds_down (h : Moves mqtt_topics s s') (hstopped : s._running = false) :
    WindsDown s s' ∧ s'.phase.rank mqtt_topics < s.phase.rank mqtt_topics := by
  cases h with
  | connected hphase =>
    refine ⟨windsDown_subscribe hstopped mqtt_topics, ?_⟩
    rw [hphase]
    exact rank_subscribe mqtt_topics
  | subscribed topic rest hphase =>
    have hsubscribed : WindsDown s { s with subscribed := s.subscribed ++ [topic] } := ⟨hstopped, rfl, rfl, le_refl _, id⟩
    refine ⟨hsubscribed.trans (windsDown_subscribe hsubscribed.stopped rest), ?_⟩
    rw [hphase]
    exact rank_subscribe rest
  | received message hphase hrunning => rw [hstopped] at hrunning; cases hrunning
  | handled message utcnow stream_add hphase next hnext =>
    have hlength := entry_length_le lib message utcnow stream_add
    have hhand : next.in_hand = 0 ∧ next.rank mqtt_topics < 3 ∧ next ≠ .sleeping := by
      obtain rfl | rfl := hnext <;> simp [Phase.in_hand, Phase.rank]
    refine ⟨⟨hstopped, rfl, rfl, ?_, fun hasleep => absurd hasleep hhand.2.2⟩, ?_⟩
    · change (s.entries ++ _).length + next.in_hand ≤ s.entries.length + s.phase.in_hand
      rw [List.length_append, hhand.1, hphase]
      exact Nat.add_le_add_left hlength _
    · rw [hphase]
      exact hhand.2.1
  | left exit hconnected =>
    refine ⟨.of_phase hstopped (Nat.zero_le _) (by simp), ?_⟩
    obtain hphase | ⟨topic, rest, hphase⟩ := hconnected <;> simp [hphase, Phase.rank]
  | failed hphase =>
    rw [except, if_neg (by simp [hstopped])]
    refine ⟨.of_phase hstopped (Nat.zero_le _) (by simp), ?_⟩
    obtain hphase | ⟨exit, hphase⟩ := hphase <;> simp [hphase, Phase.rank]
  | returned hphase =>
    rw [loop, if_neg (by simp [hstopped])]
    exact ⟨.of_phase hstopped (Nat.zero_le _) (by simp), by simp [hphase, Phase.rank]⟩
  | slept hphase =>
    have hback : WindsDown s (back_off lib s) := ⟨hstopped, rfl, rfl, le_refl _, id⟩
    rw [loop, if_neg (by simp [back_off, hstopped])]
    exact ⟨hback.trans (.of_phase hstopped (Nat.zero_le _) (by simp)), by simp [hphase, Phase.rank]⟩
  | cancelled hphase =>
    refine ⟨.of_phase hstopped (Nat.zero_le _) (by simp), ?_⟩
    obtain hphase | hphase | ⟨exit, hphase⟩ := hphase <;> simp [hphase, Phase.rank]

/-- The actions other than calls of `stop`. -/
def Action.goes_on : Action → Bool
  | .stop => false
  | _ => true

theorem step_winds_down (hstep : step lib mqtt_topics s a = some s') (hstopped : s._running = false) :
    WindsDown s s' ∧ s'.phase.rank mqtt_topics + (if a.goes_on then 1 else 0) ≤ s.phase.rank mqtt_topics := by
  obtain ⟨rfl, rfl⟩ | ⟨hother, hmoves⟩ := step_cases hstep
  · exact ⟨⟨rfl, rfl, rfl, le_refl _, id⟩, le_refl _⟩
  · obtain ⟨hwinds, hrank⟩ := hmoves.winds_down hstopped
    refine ⟨hwinds, ?_⟩
    split <;> omega

theorem rank_le (h : Subscribes mqtt_topics s) : s.phase.rank mqtt_topics ≤ mqtt_topics.length + 3 := by
  cases hphase : s.phase with
  | subscribing topic rest =>
    have htopics : s.subscribed ++ topic :: rest = mqtt_topics := h _ (by rw [hphase]; rfl)
    rw [← htopics, Phase.rank, List.length_append, List.length_cons]
    omega
  | _ => simp [Phase.rank]

/-- Once it is told to stop, a subscriber takes no further message and opens no further connection, publishes the
message in hand at most, and is through after one await for each topic and three more. -/
theorem stop_winds_down (hreach : (system lib mqtt_topics).Reachable s) (hstopped : s._running = false)
    {actions : List Action} (hreplay : (system lib mqtt_topics).replay (fun _ _ => true) s actions = some s') :
    WindsDown s s' ∧ actions.countP Action.goes_on ≤ mqtt_topics.length + 3 := by
  have hrank := rank_le (reachable_invariant hreach).2.1
  have hstep : ∀ mid a next, WindsDown s mid → (system lib mqtt_topics).step mid a = some next → WindsDown s next ∧
      next.phase.rank mqtt_topics + (if a.goes_on then 1 else 0) ≤ mid.phase.rank mqtt_topics := by
    intro mid a next hwinds hstep
    obtain ⟨hnext, hlower⟩ := step_winds_down hstep hwinds.stopped
    exact ⟨hwinds.trans hnext, hlower⟩
  obtain ⟨hwinds, hcount⟩ := TransitionSystem.replay_rank hstep (WindsDown.refl hstopped) hreplay
  exact ⟨hwinds, by omega⟩

end Moves

section Status

open Arrival (sample_libraries sample_time Accepted)

def mqtt_topics : List String := ["devices/+/telemetry"]

def status_text : String :=
  "\x7b\"device_id\":\"00000000-0000-0000-0000-000000000007\",\"device_type\":\"sensor\",\"payload\":\x7b\x7d\x7d"

/-- Libraries that read this text. -/
def status_libraries : Libraries :=
  { sample_libraries with loads := fun text => if text = status_text then .ok Arrival.sample_data.value else .error .ValueError }

def status : MqttMessage := { topic := "devices/7/telemetry", payload := status_text.toUTF8.toList }

theorem status_published : ∃ entry : Entry status_libraries.writer,
    (_handle_message status_libraries sample_time (.added "1735732800000-0") status.topic status.payload).entry = some entry := by
  have haccepted : Accepted status_libraries ⟨.mqtt status.topic status.payload, sample_time, 0, .added "1735732800000-0"⟩
      Arrival.sample_data := by
    have hid : Arrival.sample_data.get? "device_id" = some (.str "00000000-0000-0000-0000-000000000007") := by simp [Arrival.sample_data]
    have htype : Arrival.sample_data.get? "device_type" = some (.str "sensor") := by simp [Arrival.sample_data]
    have htime : Arrival.sample_data.get? "timestamp" = none := by simp [Arrival.sample_data]
    have hpayload : Arrival.sample_data.get? "payload" = some PyDict.empty.value := by simp [Arrival.sample_data]
    have hmetadata : Arrival.sample_data.get? "metadata" = none := by simp [Arrival.sample_data]
    have hparse : Uuid.parse "00000000-0000-0000-0000-000000000007" = some 7 := Uuid.parse_str 7
    have htext : decodeUtf8 status.payload = some status_text := by decide +kernel
    refine ⟨?_, ?_, ⟨7, ?_⟩, ⟨"sensor", ?_⟩, ⟨sample_time, ?_⟩, ⟨.empty, ?_, rfl⟩, ⟨.empty, ?_, rfl⟩, by simp⟩
    · simp only [Message.decode, decode_utf8, htext]
      rfl
    · simp [Message.passes, Arrival.sample_data]
      rfl
    · simp only [Message.field, hid, required, status_libraries, sample_libraries]
      simp [Decoded.str, hparse]
    · simp [Message.field, htype, required, status_libraries, sample_libraries, Decoded.str]
    · simp only [Message.field, htime, default_field, String.reduceEq, if_false, if_true, Option.none_or, defaulted]
      simp [status_libraries, sample_libraries, Decoded.str, PyDatetime.fromisoformat_isoformat]
    · simp only [Message.field, hpayload, required]
      rfl
    · simp [Message.field, hmetadata, default_field, defaulted]
  obtain ⟨entry, hentry, _⟩ := haccepted.entry
  exact ⟨entry, hentry⟩

/-- The first connection fails, the second one receives a message. -/
def reconnects : List Action :=
  [.raised, .slept, .connected, .subscribed, .message status, .handled sample_time (.added "1735732800000-0")]

theorem subscriber_sound_reconnects : ∃ s, s.connections = 2 ∧ s.entries.length = 1 ∧
    @Sound status_libraries mqtt_topics s := by
  obtain ⟨s, hs⟩ : ∃ s, (system status_libraries mqtt_topics).replay (fun _ _ => true) { phase := .connecting, connections := 1 }
    reconnects = some s := ⟨_, rfl⟩
  have hreach : (system status_libraries mqtt_topics).Reachable s :=
    TransitionSystem.replay_reachable (fun _ _ _ => trivial) (.initial rfl) hs
  obtain ⟨entry, hentry⟩ := status_published
  cases hs
  refine ⟨_, rfl, ?_, subscriber_sound hreach⟩
  change (_handle_message status_libraries sample_time (.added "1735732800000-0") status.topic
    status.payload).entry.toList.length = 1
  rw [hentry]
  rfl

/-- A subscriber is told to stop with a message in hand. The message after that one is dropped. -/
theorem stop_winds_down_status : ∃ s s', s._running = false ∧ s'.phase = .stopped ∧ s'.received = [status] ∧
    @WindsDown status_libraries s s' := by
  obtain ⟨s, hs⟩ : ∃ s, (system status_libraries mqtt_topics).replay (fun _ _ => true) { phase := .connecting, connections := 1 }
    [.connected, .subscribed, .message status, .stop] = some s := ⟨_, rfl⟩
  have hreach : (system status_libraries mqtt_topics).Reachable s :=
    TransitionSystem.replay_reachable (fun _ _ _ => trivial) (.initial rfl) hs
  obtain ⟨s', hs'⟩ : ∃ s', (system status_libraries mqtt_topics).replay (fun _ _ => true) s
    [.handled sample_time .failed, .message status, .left] = some s' := by
    cases hs
    exact ⟨_, rfl⟩
  have hwinds := stop_winds_down hreach (by cases hs; rfl) hs'
  cases hs
  cases hs'
  exact ⟨_, _, rfl, rfl, rfl, hwinds.1⟩

end Status

end gateway.data_ingestion.mqtt_subscriber
