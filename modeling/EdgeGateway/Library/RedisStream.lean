import Mathlib.Data.List.Basic
import Mathlib.Order.BoundedOrder.Lattice

/-! A stream whose ids increase, and a reader that remembers the newest id of its last look at it. -/

/-- The entries, oldest first, and the id of the last one that was ever added. -/
structure RedisStream (ι δ : Type*) [LinearOrder ι] [OrderBot ι] where
  entries : List (ι × δ)
  last_generated_id : ι
  increasing : entries.Pairwise fun a b => a.1 < b.1
  positive : ∀ entry ∈ entries, ⊥ < entry.1
  newest : ∀ entry ∈ entries.getLast?, entry.1 = last_generated_id

namespace RedisStream

variable {ι δ : Type*} [LinearOrder ι] [OrderBot ι] (s : RedisStream ι δ)

def empty : RedisStream ι δ where
  entries := []
  last_generated_id := ⊥
  increasing := .nil
  positive := List.forall_mem_nil _
  newest _ h := by cases h

variable {s} in
theorem le_last_generated_id {entry : ι × δ} (h : entry ∈ s.entries) : entry.1 ≤ s.last_generated_id := by
  obtain hnil | ⟨init, last, hentries⟩ := List.eq_nil_or_concat s.entries
  · rw [hnil] at h
    cases h
  · have hlast : last.1 = s.last_generated_id := s.newest last (by rw [hentries, List.concat_eq_append]; simp)
    have hincreasing := s.increasing
    rw [hentries, List.concat_eq_append] at h hincreasing
    rw [← hlast]
    obtain hmem | hmem := List.mem_append.mp h
    · exact ((List.pairwise_append.mp hincreasing).2.2 entry hmem last List.mem_cons_self).le
    · rw [List.mem_singleton.mp hmem]

/-- XADD, of an id above all earlier ones. -/
def xadd (id : ι) (data : δ) (h : s.last_generated_id < id) : RedisStream ι δ where
  entries := s.entries ++ [(id, data)]
  last_generated_id := id
  increasing := List.pairwise_append.mpr ⟨s.increasing, List.pairwise_singleton _ _, fun entry hentry entry' hentry' => by
    rw [List.mem_singleton.mp hentry']
    exact (le_last_generated_id hentry).trans_lt h⟩
  positive := List.forall_mem_append.mpr ⟨s.positive, List.forall_mem_singleton.mpr (bot_le.trans_lt h)⟩
  newest entry h := by
    rw [List.getLast?_concat] at h
    cases h
    rfl

/-- XTRIM, which takes the oldest entries. -/
def xtrim (n : ℕ) : RedisStream ι δ where
  entries := s.entries.drop n
  last_generated_id := s.last_generated_id
  increasing := s.increasing.sublist (List.drop_sublist n _)
  positive entry h := s.positive entry (List.mem_of_mem_drop h)
  newest entry h := by
    rw [List.getLast?_drop] at h
    split at h
    · cases h
    · exact s.newest entry h

/-- XREVRANGE over the whole stream: newest first. -/
def xrevrange (count : ℕ) : List (ι × δ) := s.entries.reverse.take count

variable {s} in
theorem mem_of_mem_xrevrange {count : ℕ} {entry : ι × δ} (h : entry ∈ s.xrevrange count) : entry ∈ s.entries :=
  List.mem_reverse.mp (List.mem_of_mem_take h)

/-- A reply starts with the newest entry. -/
theorem head?_xrevrange {count : ℕ} (h : 0 < count) : (s.xrevrange count).head? = s.entries.getLast? := by
  rw [xrevrange, List.head?_take, if_neg (Nat.ne_of_gt h), List.head?_reverse]

theorem increasing_xrevrange_reverse (count : ℕ) : (s.xrevrange count).reverse.Pairwise fun a b => a.1 < b.1 := by
  have hsublist : (s.xrevrange count).reverse.Sublist s.entries := by
    rw [← List.reverse_sublist, List.reverse_reverse]
    exact List.take_sublist count _
  exact s.increasing.sublist hsublist

/-- The id that a reader remembers: the newest one it has seen. -/
structure Cursor (seen : List ι) (cursor : ι) : Prop where
  seen_le : ∀ id ∈ seen, id ≤ cursor
  attained : cursor ∈ seen ∨ seen = [] ∧ cursor = ⊥
  le_last : cursor ≤ s.last_generated_id

/-- What has arrived since some moment is what the stream ends with, less what was trimmed of it. -/
structure Arrived (arrived : List ι) : Prop where
  split : ∃ old new, s.entries = old ++ new ∧ new.map Prod.fst <:+ arrived ∧ ∀ entry ∈ old, entry.1 ∉ arrived
  le_last : ∀ id ∈ arrived, id ≤ s.last_generated_id

/-- The cursor once a reply has been read. -/
def advance (cursor : ι) (count : ℕ) : ι := ((s.xrevrange count).head?.map Prod.fst).getD cursor

section Reader

variable {s} {seen arrived : List ι} {cursor id : ι} {count n : ℕ} {data : δ}

theorem cursor_start : s.Cursor [] ⊥ where
  seen_le := List.forall_mem_nil _
  attained := .inr ⟨rfl, rfl⟩
  le_last := bot_le

theorem Cursor.xadd (h : s.Cursor seen cursor) (hid : s.last_generated_id < id) :
    (s.xadd id data hid).Cursor seen cursor where
  seen_le := h.seen_le
  attained := h.attained
  le_last := h.le_last.trans hid.le

theorem Cursor.xtrim (h : s.Cursor seen cursor) (n : ℕ) : (s.xtrim n).Cursor seen cursor where
  seen_le := h.seen_le
  attained := h.attained
  le_last := h.le_last

/-- An entry is past the cursor exactly if it is newer than everything seen. -/
theorem Cursor.lt_iff (h : s.Cursor seen cursor) {entry : ι × δ} (hentry : entry ∈ s.entries) :
    cursor < entry.1 ↔ ∀ id ∈ seen, id < entry.1 := by
  constructor
  · intro hlt id hid
    exact (h.seen_le id hid).trans_lt hlt
  · intro hall
    obtain hmem | ⟨_, hbot⟩ := h.attained
    · exact hall cursor hmem
    · rw [hbot]
      exact s.positive entry hentry

theorem advance_cases (s : RedisStream ι δ) (cursor : ι) (hcount : 0 < count) :
    (s.entries = [] ∧ s.xrevrange count = [] ∧ s.advance cursor count = cursor) ∨
      s.advance cursor count = s.last_generated_id ∧ s.last_generated_id ∈ (s.xrevrange count).map Prod.fst := by
  have hhead := s.head?_xrevrange hcount
  unfold advance
  cases hlast : s.entries.getLast? with
  | none =>
    rw [hlast] at hhead
    rw [hhead]
    exact .inl ⟨List.getLast?_eq_none_iff.mp hlast, List.head?_eq_none_iff.mp hhead, rfl⟩
  | some entry =>
    rw [hlast] at hhead
    rw [hhead]
    have hnewest : entry.1 = s.last_generated_id := s.newest entry hlast
    refine .inr ⟨hnewest, ?_⟩
    rw [← hnewest]
    exact List.mem_map_of_mem (List.mem_of_head? hhead)

theorem Cursor.le_advance (h : s.Cursor seen cursor) (hcount : 0 < count) : cursor ≤ s.advance cursor count := by
  obtain ⟨_, _, hsame⟩ | ⟨hlast, _⟩ := advance_cases s cursor hcount
  · exact hsame.ge
  · exact h.le_last.trans hlast.ge

theorem le_advance_of_mem {entry : ι × δ} (hcount : 0 < count) (hentry : entry ∈ s.entries) : entry.1 ≤ s.advance cursor count := by
  obtain ⟨hnil, _⟩ | ⟨hlast, _⟩ := advance_cases s cursor hcount
  · rw [hnil] at hentry
    cases hentry
  · exact (le_last_generated_id hentry).trans hlast.ge

/-- Reading keeps the cursor at the newest id seen. -/
theorem Cursor.read (h : s.Cursor seen cursor) (hcount : 0 < count) :
    s.Cursor (seen ++ (s.xrevrange count).map Prod.fst) (s.advance cursor count) where
  seen_le id hid := by
    obtain hid | hid := List.mem_append.mp hid
    · exact (h.seen_le id hid).trans (h.le_advance hcount)
    · obtain ⟨entry, hentry, rfl⟩ := List.mem_map.mp hid
      exact le_advance_of_mem hcount (mem_of_mem_xrevrange hentry)
  attained := by
    obtain ⟨_, hnil, hsame⟩ | ⟨hlast, hmem⟩ := advance_cases s cursor hcount
    · rw [hnil, hsame, List.map_nil, List.append_nil]
      exact h.attained
    · rw [hlast]
      exact .inl (List.mem_append_right _ hmem)
  le_last := by
    obtain ⟨_, _, hsame⟩ | ⟨hlast, _⟩ := advance_cases s cursor hcount
    · rw [hsame]
      exact h.le_last
    · exact hlast.le

theorem arrived_start : s.Arrived [] where
  split := ⟨s.entries, [], (List.append_nil _).symm, List.suffix_refl _, fun _ _ => List.not_mem_nil⟩
  le_last := List.forall_mem_nil _

theorem Arrived.xadd (h : s.Arrived arrived) (hid : s.last_generated_id < id) :
    (s.xadd id data hid).Arrived (arrived ++ [id]) where
  split := by
    obtain ⟨old, new, hentries, hsuffix, hold⟩ := h.split
    refine ⟨old, new ++ [(id, data)], ?_, ?_, fun entry hentry hmem => ?_⟩
    · rw [← List.append_assoc, ← hentries]
      rfl
    · rw [List.map_append]
      exact (List.suffix_append_inj_of_length_eq rfl).mpr ⟨hsuffix, rfl⟩
    · obtain hmem | hmem := List.mem_append.mp hmem
      · exact hold entry hentry hmem
      · have hle : entry.1 ≤ s.last_generated_id :=
          le_last_generated_id (by rw [hentries]; exact List.mem_append_left _ hentry)
        rw [List.mem_singleton.mp hmem] at hle
        exact absurd hid (not_lt.mpr hle)
  le_last := List.forall_mem_append.mpr
    ⟨fun id' hid' => (h.le_last id' hid').trans hid.le, List.forall_mem_singleton.mpr (le_refl _)⟩

theorem Arrived.xtrim (h : s.Arrived arrived) (n : ℕ) : (s.xtrim n).Arrived arrived where
  split := by
    obtain ⟨old, new, hentries, hsuffix, hold⟩ := h.split
    refine ⟨old.drop n, new.drop (n - old.length), ?_, ?_, fun entry hentry => hold entry (List.mem_of_mem_drop hentry)⟩
    · change s.entries.drop n = _
      rw [hentries, List.drop_append]
    · rw [List.map_drop]
      exact (List.drop_suffix _ _).trans hsuffix
  le_last := h.le_last

/-- No more arrivals than the reply has room for, and each that is left in the stream is in it. -/
theorem Arrived.mem_xrevrange (h : s.Arrived arrived) (hcount : arrived.length ≤ count) {entry : ι × δ}
    (hentry : entry ∈ s.entries) (hmem : entry.1 ∈ arrived) : entry ∈ s.xrevrange count := by
  obtain ⟨old, new, hentries, hsuffix, hold⟩ := h.split
  have hlength : new.reverse.length ≤ count := by
    rw [List.length_reverse, ← List.length_map (f := Prod.fst)]
    exact Nat.le_trans hsuffix.length_le hcount
  rw [hentries] at hentry
  obtain hentry | hentry := List.mem_append.mp hentry
  · exact absurd hmem (hold entry hentry)
  · rw [xrevrange, hentries, List.reverse_append, List.take_append, List.take_of_length_le hlength]
    exact List.mem_append_left _ (List.mem_reverse.mpr hentry)

end Reader

end RedisStream
