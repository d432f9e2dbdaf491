import Mathlib.Data.List.Basic
import Mathlib.Data.Nat.Basic
import EdgeGateway.Library.Daemon

/-- A Redis stream and one consumer group of it. The ids of the entries count up
from 0, so the log is every entry ever added; those below `trimmed` are gone. The
group has got past the entries below `next`, of which the pending ones are not
acknowledged. -/
structure ConsumerGroup (δ : Type*) where
  log : List δ
  trimmed : ℕ
  next : ℕ
  pending : List ℕ
  trimmed_le : trimmed ≤ log.length
  next_le : next ≤ log.length
  pending_lt : ∀ id ∈ pending, id < next

namespace ConsumerGroup

variable {δ : Type*} (g : ConsumerGroup δ)

def empty : ConsumerGroup δ :=
  { log := [], trimmed := 0, next := 0, pending := [], trimmed_le := Nat.le_refl _, next_le := Nat.le_refl _
    pending_lt := fun _ h => by cases h }

/-- XADD. -/
def xadd (data : δ) : ConsumerGroup δ :=
  { g with
    log := g.log ++ [data]
    trimmed_le := Nat.le_trans g.trimmed_le (by simp)
    next_le := Nat.le_trans g.next_le (by simp) }

/-- XTRIM, which takes the oldest entries away. -/
def xtrim (count : ℕ) : ConsumerGroup δ :=
  { g with trimmed := min (g.trimmed + count) g.log.length, trimmed_le := Nat.min_le_right _ _ }

/-- The first entry that XREADGROUP may return. -/
def first : ℕ := max g.next g.trimmed

/-- What XREADGROUP with the id `>` returns: entries never delivered to the group. -/
def fresh (count : ℕ) : List (ℕ × δ) :=
  (((g.log.drop g.first).take count).zipIdx g.first).map Prod.swap

theorem first_le : g.first ≤ g.log.length := Nat.max_le.mpr ⟨g.next_le, g.trimmed_le⟩

theorem length_fresh (count : ℕ) : (g.fresh count).length = min count (g.log.length - g.first) := by
  simp [fresh]

/-- A delivered entry is in the log, and the group had not got to it. -/
theorem mem_fresh {count id : ℕ} {data : δ} (h : (id, data) ∈ g.fresh count) :
    g.first ≤ id ∧ id < g.first + (g.fresh count).length ∧ g.log[id]? = some data := by
  rw [length_fresh]
  obtain ⟨⟨data', id'⟩, hmem, heq⟩ := List.mem_map.mp h
  cases heq
  obtain ⟨hle, hlt, hdata⟩ := List.mem_zipIdx hmem
  simp only [List.length_take, List.length_drop] at hlt
  refine ⟨hle, hlt, ?_⟩
  rw [hdata, List.getElem_take, List.getElem_drop, List.getElem?_eq_getElem (by omega)]
  simp [Nat.add_sub_cancel' hle]

/-- The ids of what is delivered follow one another. -/
theorem fresh_ids (count : ℕ) : (g.fresh count).map Prod.fst = List.range' g.first (g.fresh count).length := by
  have hswap : (Prod.fst ∘ Prod.swap : δ × ℕ → ℕ) = Prod.snd := rfl
  rw [length_fresh, fresh, List.map_map, hswap, List.zipIdx_map_snd]
  simp

/-- Entries are delivered in the order of their ids. -/
theorem fresh_sorted (count : ℕ) : (g.fresh count).Pairwise fun a b => a.1 < b.1 := by
  have hsorted : ((g.fresh count).map Prod.fst).Pairwise (· < ·) := by
    rw [fresh_ids]
    exact List.pairwise_lt_range'
  exact List.pairwise_map.mp hsorted

/-- A group that has got through the whole log is given the next entry to come. -/
theorem fresh_xadd {data : δ} (h : g.next = g.log.length) : (g.xadd data).fresh 1 = [(g.log.length, data)] := by
  have hfirst : (g.xadd data).first = g.log.length := by
    change max g.next g.trimmed = g.log.length
    rw [h]
    exact Nat.max_eq_left g.trimmed_le
  have hlog : (g.xadd data).log = g.log ++ [data] := rfl
  rw [fresh, hfirst, hlog, List.drop_left]
  rfl

/-- XREADGROUP with the id `>`. -/
def xreadgroup (count : ℕ) : ConsumerGroup δ :=
  { g with
    next := g.first + (g.fresh count).length
    pending := g.pending ++ (g.fresh count).map Prod.fst
    next_le := by
      have hle := g.first_le
      rw [length_fresh]
      omega
    pending_lt := by
      intro id hid
      obtain hold | hnew := List.mem_append.mp hid
      · have hlt := g.pending_lt id hold
        have hle : g.next ≤ g.first := Nat.le_max_left _ _
        omega
      · obtain ⟨⟨id', data⟩, hmem, rfl⟩ := List.mem_map.mp hnew
        exact (g.mem_fresh hmem).2.1 }

/-- XACK. -/
def xack (ids : List ℕ) : ConsumerGroup δ :=
  { g with
    pending := g.pending.filter (· ∉ ids)
    pending_lt := fun id h => g.pending_lt id (List.mem_of_mem_filter h) }

theorem mem_pending_xreadgroup {count id : ℕ} :
    id ∈ (g.xreadgroup count).pending ↔ id ∈ g.pending ∨ ∃ data, (id, data) ∈ g.fresh count := by
  simp [xreadgroup]

theorem mem_pending_xack {ids : List ℕ} {id : ℕ} : id ∈ (g.xack ids).pending ↔ id ∈ g.pending ∧ id ∉ ids := by
  simp [xack]

theorem next_le_xreadgroup (count : ℕ) : g.next ≤ (g.xreadgroup count).next :=
  Nat.le_trans (Nat.le_max_left _ _) (Nat.le_add_right _ _)

/-- What was delivered is never among the entries a later read returns. -/
theorem next_le_of_mem_fresh {count id : ℕ} {data : δ} (h : (id, data) ∈ g.fresh count) : g.next ≤ id :=
  Nat.le_trans (Nat.le_max_left _ _) (g.mem_fresh h).1

end ConsumerGroup

variable {S L π χ ρ μ ε δ : Type*}

/-- A daemon that reads a stream with the id `>` for a consumer group: which group the
server keeps for it, what a reply hands out, and what calls and events do to the group. -/
structure StreamReader (D : Daemon S L π χ ρ μ ε) (δ : Type*) where
  group : S → ConsumerGroup δ
  entries : ρ → List (ℕ × δ)
  exec_group : ∀ s pc choice s' r, D.exec s pc choice = some (s', r) →
    (∃ count, group s' = (group s).xreadgroup count ∧ entries r = (group s).fresh count) ∨
      (entries r = [] ∧ (group s').next = (group s).next ∧ ∀ id ∈ (group s').pending, id ∈ (group s).pending)
  event_group : ∀ s e s', D.event s e = some s' →
    (group s').next = (group s).next ∧ (group s').pending = (group s).pending

namespace StreamReader

variable {D : Daemon S L π χ ρ μ ε} (R : StreamReader D δ)

theorem next_le_exec {s s' : S} {pc : π} {choice : χ} {r : ρ} (h : D.exec s pc choice = some (s', r)) :
    (R.group s).next ≤ (R.group s').next := by
  obtain ⟨count, hgroup, _⟩ | ⟨_, hnext, _⟩ := R.exec_group s pc choice s' r h
  · rw [hgroup]
    exact (R.group s).next_le_xreadgroup count
  · exact Nat.le_of_eq hnext.symm

/-- What a call hands out was never delivered before. -/
theorem next_le_of_mem_entries {s s' : S} {pc : π} {choice : χ} {r : ρ} (h : D.exec s pc choice = some (s', r))
    {id : ℕ} {data : δ} (hmem : (id, data) ∈ R.entries r) : (R.group s).next ≤ id := by
  obtain ⟨count, _, hentries⟩ | ⟨hempty, _⟩ := R.exec_group s pc choice s' r h
  · rw [hentries] at hmem
    exact (R.group s).next_le_of_mem_fresh hmem
  · rw [hempty] at hmem
    cases hmem

theorem next_le_step {s s' : Daemon.State S L π ρ} {a : Daemon.Action χ μ ε} (h : D.step s a = some s') :
    (R.group s.server).next ≤ (R.group s'.server).next := by
  cases a with
  | start moment =>
    obtain ⟨_, rfl⟩ := Daemon.step_start h
    exact Nat.le_refl _
  | exec choice =>
    obtain ⟨vars, pc, server, r, _, hexec, rfl⟩ := Daemon.step_exec h
    exact R.next_le_exec hexec
  | finish moment how =>
    obtain ⟨p, o, _, _, rfl⟩ := Daemon.step_finish h
    exact Nat.le_refl _
  | crash =>
    obtain ⟨_, rfl⟩ := Daemon.step_crash h
    exact Nat.le_refl _
  | event e =>
    obtain ⟨server, hevent, rfl⟩ := Daemon.step_event h
    exact Nat.le_of_eq (R.event_group _ e server hevent).1.symm

/-- A read that the daemon performs from here on returns the entry. -/
def Obtainable (initial : S → Prop) (s : Daemon.State S L π ρ) (id : ℕ) : Prop :=
  ∃ s₁ s₂ choice p r data, (D.system initial).StepsWhere (fun _ _ => True) s s₁ ∧
    D.step s₁ (.exec choice) = some s₂ ∧ s₂.process = some p ∧ p.reply = some r ∧ (id, data) ∈ R.entries r

/-- What was delivered to the group is out of reach of every later read. -/
theorem not_obtainable {initial : S → Prop} {s : Daemon.State S L π ρ} (hreach : (D.system initial).Reachable s)
    {id : ℕ} (hdelivered : id < (R.group s.server).next) : ¬ R.Obtainable initial s id := by
  rintro ⟨s₁, s₂, choice, p, r, data, hsteps, hstep, hprocess, hreply, hmem⟩
  have hle : (R.group s.server).next ≤ (R.group s₁.server).next :=
    hsteps.monotone (f := fun s => (R.group s.server).next) (fun _ _ _ _ _ hstep => R.next_le_step hstep) hreach
  obtain ⟨vars, pc, server, r', _, hexec, rfl⟩ := Daemon.step_exec hstep
  cases hprocess
  cases hreply
  have hfresh := R.next_le_of_mem_entries hexec hmem
  omega

end StreamReader
