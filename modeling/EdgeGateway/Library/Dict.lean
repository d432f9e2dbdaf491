import Mathlib.Data.List.Induction
import Mathlib.Data.List.Nodup

/-- A finite map that iterates in insertion order: a new key goes last, and
overwriting leaves a key in its place. -/
structure Dict (κ α : Type*) where
  items : List (κ × α)
  nodup : (items.map Prod.fst).Nodup

namespace Dict

variable {κ α : Type*}

def empty : Dict κ α := { items := [], nodup := List.nodup_nil }

def keys (d : Dict κ α) : List κ := d.items.map Prod.fst

/-- `d.values()`. -/
def values (d : Dict κ α) : List α := d.items.map Prod.snd

/-- The map with the entries that pass. -/
def filter (p : κ → α → Bool) (d : Dict κ α) : Dict κ α where
  items := d.items.filter fun item => p item.1 item.2
  nodup := d.nodup.sublist (List.filter_sublist.map Prod.fst)

variable [DecidableEq κ]

def get? (d : Dict κ α) (k : κ) : Option α := d.items.lookup k

def getD (d : Dict κ α) (k : κ) (default : α) : α := (d.get? k).getD default

/-- Overwrite the first entry of the key, or append one. -/
def setItem (k : κ) (a : α) : List (κ × α) → List (κ × α)
  | [] => [(k, a)]
  | (k', a') :: rest => if k' = k then (k, a) :: rest else (k', a') :: setItem k a rest

theorem keys_setItem (k : κ) (a : α) (l : List (κ × α)) :
    (setItem k a l).map Prod.fst =
      if k ∈ l.map Prod.fst then l.map Prod.fst else l.map Prod.fst ++ [k] := by
  induction l with
  | nil => rfl
  | cons head rest ih =>
    obtain ⟨k', a'⟩ := head
    by_cases heq : k' = k
    · simp [setItem, heq]
    · have hne : ¬ k = k' := fun h => heq h.symm
      simp only [setItem, if_neg heq, List.map_cons, List.mem_cons, hne, false_or, ih]
      split <;> rfl

theorem nodup_setItem (k : κ) (a : α) {l : List (κ × α)} (h : (l.map Prod.fst).Nodup) :
    ((setItem k a l).map Prod.fst).Nodup := by
  rw [keys_setItem]
  split
  · exact h
  · rename_i hk
    exact List.nodup_append.mpr ⟨h, List.nodup_singleton k,
      fun x hx y hy heq => hk (by rw [List.mem_singleton.mp hy] at heq; exact heq ▸ hx)⟩

theorem lookup_cons_eq_ite (j k : κ) (a : α) (rest : List (κ × α)) :
    ((k, a) :: rest).lookup j = if j = k then some a else rest.lookup j := by
  by_cases h : j = k
  · subst h
    simp
  · simp only [List.lookup_cons, beq_eq_false_iff_ne.mpr h, if_neg h]

theorem lookup_setItem (k j : κ) (a : α) (l : List (κ × α)) :
    (setItem k a l).lookup j = if j = k then some a else l.lookup j := by
  induction l with
  | nil => simp [setItem, lookup_cons_eq_ite]
  | cons head rest ih =>
    obtain ⟨k', a'⟩ := head
    by_cases heq : k' = k
    · subst heq
      simp only [setItem, ↓reduceIte, lookup_cons_eq_ite]
      split <;> rfl
    · simp only [setItem, if_neg heq, lookup_cons_eq_ite, ih]
      by_cases h : j = k'
      · rw [if_pos h, if_neg (fun hk => heq (h.symm.trans hk)), if_pos h]
      · rw [if_neg h, if_neg h]

/-- A new key goes last. -/
theorem setItem_of_not_mem {k : κ} (a : α) {l : List (κ × α)} (h : k ∉ l.map Prod.fst) : setItem k a l = l ++ [(k, a)] := by
  induction l with
  | nil => rfl
  | cons head rest ih =>
    obtain ⟨k', a'⟩ := head
    simp only [List.map_cons, List.mem_cons, not_or] at h
    rw [setItem, if_neg (Ne.symm h.1), ih h.2, List.cons_append]

/-- A key that is left out of a listing does not show when it is set. -/
theorem filterMap_setItem {β : Type*} {f : κ × α → Option β} {k : κ} (h : ∀ a, f (k, a) = none) (a : α)
    (l : List (κ × α)) : (setItem k a l).filterMap f = l.filterMap f := by
  induction l with
  | nil => exact List.filterMap_cons_none (h a)
  | cons head rest ih =>
    obtain ⟨k', a'⟩ := head
    by_cases heq : k' = k
    · subst heq
      rw [setItem, if_pos rfl, List.filterMap_cons_none (h a), List.filterMap_cons_none (h a')]
    · rw [setItem, if_neg heq, List.filterMap_cons, List.filterMap_cons, ih]

def set (d : Dict κ α) (k : κ) (a : α) : Dict κ α :=
  { items := setItem k a d.items, nodup := nodup_setItem k a d.nodup }

theorem get?_set (d : Dict κ α) (k j : κ) (a : α) :
    (d.set k a).get? j = if j = k then some a else d.get? j :=
  lookup_setItem k j a d.items

@[simp] theorem get?_set_self (d : Dict κ α) (k : κ) (a : α) : (d.set k a).get? k = some a := by
  rw [get?_set, if_pos rfl]

theorem get?_set_of_ne (d : Dict κ α) {k j : κ} (a : α) (h : j ≠ k) :
    (d.set k a).get? j = d.get? j := by
  rw [get?_set, if_neg h]

theorem getD_set (d : Dict κ α) (k j : κ) (a b : α) :
    (d.set k a).getD j b = if j = k then a else d.getD j b := by
  unfold getD
  rw [get?_set]
  split <;> rfl

theorem get?_eq_some_iff {d : Dict κ α} {k : κ} {a : α} : d.get? k = some a ↔ (k, a) ∈ d.items := by
  obtain ⟨l, hl⟩ := d
  simp only [get?]
  induction l with
  | nil => simp
  | cons head rest ih =>
    obtain ⟨k', a'⟩ := head
    simp only [List.map_cons, List.nodup_cons] at hl
    simp only [lookup_cons_eq_ite, List.mem_cons, Prod.mk.injEq]
    by_cases h : k = k'
    · subst h
      have hnot : (k, a) ∉ rest := fun hmem => hl.1 (List.mem_map_of_mem (f := Prod.fst) hmem)
      simp [hnot, eq_comm]
    · simp only [h, if_false, false_and, false_or, ih hl.2]

theorem mem_keys_iff {d : Dict κ α} {k : κ} : k ∈ d.keys ↔ ∃ a, d.get? k = some a := by
  simp only [keys, List.mem_map, get?_eq_some_iff]
  constructor
  · rintro ⟨⟨k', a⟩, hmem, rfl⟩
    exact ⟨a, hmem⟩
  · rintro ⟨a, hmem⟩
    exact ⟨(k, a), hmem, rfl⟩

theorem mem_keys_set {d : Dict κ α} {k j : κ} {a : α} : j ∈ (d.set k a).keys ↔ j = k ∨ j ∈ d.keys := by
  rw [mem_keys_iff, mem_keys_iff, get?_set]
  by_cases h : j = k
  · simp [h]
  · simp [h]

theorem getD_of_not_mem {d : Dict κ α} {k : κ} (h : k ∉ d.keys) (a : α) : d.getD k a = a := by
  have hnone : d.get? k = none :=
    Option.eq_none_iff_forall_ne_some.mpr fun b hb => h (mem_keys_iff.mpr ⟨b, hb⟩)
  rw [getD, hnone, Option.getD_none]

/-- `del d[k]`, or the map as it is. -/
def erase (d : Dict κ α) (k : κ) : Dict κ α where
  items := d.items.filter fun item => item.1 ≠ k
  nodup := d.nodup.sublist (List.filter_sublist.map Prod.fst)

theorem get?_erase (d : Dict κ α) (k j : κ) : (d.erase k).get? j = if j = k then none else d.get? j := by
  apply Option.ext
  intro a
  rw [get?_eq_some_iff]
  simp only [erase, List.mem_filter, decide_eq_true_eq]
  by_cases h : j = k
  · simp [h]
  · simp [h, get?_eq_some_iff]

/-- A map has an entry exactly if setting it changes nothing. -/
theorem set_eq_self_iff {d : Dict κ α} {k : κ} {a : α} : d.set k a = d ↔ d.get? k = some a := by
  constructor
  · intro hsame
    rw [← hsame, get?_set_self]
  · obtain ⟨l, hl⟩ := d
    simp only [get?, set, mk.injEq]
    clear hl
    induction l with
    | nil => exact nofun
    | cons head rest ih =>
      obtain ⟨k', a'⟩ := head
      rw [lookup_cons_eq_ite, setItem]
      by_cases heq : k = k'
      · rw [if_pos heq, if_pos heq.symm, Option.some.injEq]
        rintro rfl
        rw [heq]
      · rw [if_neg heq, if_neg (Ne.symm heq)]
        intro hrest
        rw [ih hrest]

/-- A map lacks a key exactly if leaving it out changes nothing. -/
theorem erase_eq_self_iff {d : Dict κ α} {k : κ} : d.erase k = d ↔ d.get? k = none := by
  constructor
  · intro hsame
    rw [← hsame, get?_erase, if_pos rfl]
  · intro hnone
    obtain ⟨l, hl⟩ := d
    simp only [erase, mk.injEq, List.filter_eq_self, decide_eq_true_eq]
    rintro ⟨k', a⟩ hitem rfl
    rw [get?_eq_some_iff.mpr hitem] at hnone
    cases hnone

theorem erase_set (d : Dict κ α) (k : κ) (a : α) : (d.set k a).erase k = d.erase k := by
  obtain ⟨l, hl⟩ := d
  simp only [erase, set, mk.injEq]
  clear hl
  induction l with
  | nil => simp [setItem]
  | cons head rest ih =>
    obtain ⟨k', a'⟩ := head
    by_cases heq : k' = k
    · simp [setItem, heq]
    · simp only [setItem, if_neg heq, List.filter_cons, ih]

theorem get?_filter (p : κ → α → Bool) (d : Dict κ α) (k : κ) : (d.filter p).get? k = (d.get? k).filter (p k) := by
  apply Option.ext
  intro a
  rw [get?_eq_some_iff, Option.filter_eq_some_iff, get?_eq_some_iff]
  exact List.mem_filter

theorem mem_values_iff {d : Dict κ α} {a : α} : a ∈ d.values ↔ ∃ k, d.get? k = some a := by
  simp only [values, List.mem_map, get?_eq_some_iff]
  constructor
  · rintro ⟨⟨k, a'⟩, hmem, rfl⟩
    exact ⟨k, hmem⟩
  · rintro ⟨k, hmem⟩
    exact ⟨(k, a), hmem, rfl⟩

theorem countP_setItem (p : α → Bool) (k : κ) (a : α) (l : List (κ × α)) :
    ((setItem k a l).map Prod.snd).countP p + (l.lookup k).toList.countP p = (l.map Prod.snd).countP p + [a].countP p := by
  induction l with
  | nil => exact (Nat.zero_add _).symm
  | cons head rest ih =>
    obtain ⟨k', a'⟩ := head
    by_cases heq : k' = k
    · subst heq
      simp only [setItem, if_true, List.map_cons, List.lookup_cons_self, Option.toList_some, List.countP_cons, List.countP_nil]
      omega
    · have hlookup : ((k', a') :: rest).lookup k = rest.lookup k := by
        rw [lookup_cons_eq_ite, if_neg (Ne.symm heq)]
      rw [setItem, if_neg heq, hlookup, List.map_cons, List.map_cons, List.countP_cons, List.countP_cons]
      omega

/-- Setting a key counts the new value and no longer the old one. -/
theorem countP_values_set (p : α → Bool) (d : Dict κ α) (k : κ) (a : α) :
    (d.set k a).values.countP p + (d.get? k).toList.countP p = d.values.countP p + [a].countP p :=
  countP_setItem p k a d.items

/-- `{k: a for k, a in l}`. -/
def ofList (l : List (κ × α)) : Dict κ α := l.foldl (fun d item => d.set item.1 item.2) .empty

theorem get?_foldl_set (l : List (κ × α)) (d : Dict κ α) (k : κ) :
    (l.foldl (fun d item => d.set item.1 item.2) d).get? k = (l.reverse.lookup k).or (d.get? k) := by
  induction l using List.reverseRecOn with
  | nil => rfl
  | append_singleton l item ih =>
    obtain ⟨k', a⟩ := item
    rw [List.foldl_append, List.foldl_cons, List.foldl_nil, get?_set, ih, List.reverse_append, List.reverse_singleton,
      List.singleton_append, lookup_cons_eq_ite]
    split <;> rfl

/-- The last item of a key counts. -/
theorem get?_ofList (l : List (κ × α)) (k : κ) : (ofList l).get? k = l.reverse.lookup k := by
  rw [ofList, get?_foldl_set]
  exact Option.or_none

theorem mem_of_get?_ofList {l : List (κ × α)} {k : κ} {a : α} (h : (ofList l).get? k = some a) : (k, a) ∈ l := by
  rw [get?_ofList] at h
  obtain ⟨before, after, hsplit, _⟩ := List.lookup_eq_some_iff.mp h
  rw [← List.mem_reverse, hsplit]
  exact List.mem_append_right _ List.mem_cons_self

theorem mem_keys_ofList {l : List (κ × α)} {k : κ} : k ∈ (ofList l).keys ↔ k ∈ l.map Prod.fst := by
  rw [mem_keys_iff]
  constructor
  · rintro ⟨a, hget⟩
    exact List.mem_map_of_mem (mem_of_get?_ofList hget)
  · intro hmem
    obtain ⟨⟨k', a⟩, hitem, rfl⟩ := List.mem_map.mp hmem
    cases hget : (ofList l).get? k' with
    | some b => exact ⟨b, rfl⟩
    | none =>
      rw [get?_ofList, List.lookup_eq_none_iff] at hget
      exact absurd (hget _ (List.mem_reverse.mpr hitem)) (by simp)

/-- Items with keys of their own are the items of the map. -/
theorem items_ofList {l : List (κ × α)} (h : (l.map Prod.fst).Nodup) : (ofList l).items = l := by
  induction l using List.reverseRecOn with
  | nil => rfl
  | append_singleton l item ih =>
    rw [List.map_append, List.nodup_append] at h
    have hbefore := ih h.1
    have hnew : item.1 ∉ (ofList l).items.map Prod.fst := by
      rw [hbefore]
      exact fun hmem => h.2.2 _ hmem _ List.mem_cons_self rfl
    have hlast : ofList (l ++ [item]) = (ofList l).set item.1 item.2 := List.foldl_append
    rw [hlast]
    refine (setItem_of_not_mem item.2 hnew).trans ?_
    rw [hbefore]

section Map

variable {β : Type*}

omit [DecidableEq κ] in
theorem keys_map_snd (f : α → β) (l : List (κ × α)) :
    (l.map fun (k, a) => (k, f a)).map Prod.fst = l.map Prod.fst := by
  rw [List.map_map]
  rfl

/-- Every value of the map, changed by the function. -/
def mapValues (f : α → β) (d : Dict κ α) : Dict κ β :=
  { items := d.items.map fun (k, a) => (k, f a), nodup := by rw [keys_map_snd]; exact d.nodup }

theorem get?_mapValues (f : α → β) (d : Dict κ α) (k : κ) : (d.mapValues f).get? k = (d.get? k).map f := by
  obtain ⟨l, hl⟩ := d
  simp only [get?, mapValues]
  clear hl
  induction l with
  | nil => rfl
  | cons head rest ih =>
    obtain ⟨k', a'⟩ := head
    simp only [List.map_cons, lookup_cons_eq_ite, ih]
    split <;> rfl

variable {κ' : Type*} {f : κ → κ'}

omit [DecidableEq κ] in
theorem nodup_map_keys (hf : Function.Injective f) (g : α → β) {l : List (κ × α)} (h : (l.map Prod.fst).Nodup) :
    ((l.map fun (k, a) => (f k, g a)).map Prod.fst).Nodup := by
  have hkeys : (l.map fun (k, a) => (f k, g a)).map Prod.fst = (l.map Prod.fst).map f := by
    rw [List.map_map, List.map_map]
    rfl
  rw [hkeys]
  exact h.map hf

/-- The map with other names for its keys, and with its values changed. -/
def mapKeys (hf : Function.Injective f) (g : α → β) (d : Dict κ α) : Dict κ' β :=
  { items := d.items.map fun (k, a) => (f k, g a), nodup := nodup_map_keys hf g d.nodup }

variable [DecidableEq κ']

theorem get?_mapKeys (hf : Function.Injective f) (g : α → β) (d : Dict κ α) (k : κ) :
    (d.mapKeys hf g).get? (f k) = (d.get? k).map g := by
  obtain ⟨l, hl⟩ := d
  simp only [get?, mapKeys]
  clear hl
  induction l with
  | nil => rfl
  | cons head rest ih =>
    obtain ⟨k', a'⟩ := head
    simp only [List.map_cons, lookup_cons_eq_ite, ih, hf.eq_iff]
    split <;> rfl

theorem mapKeys_set (hf : Function.Injective f) (g : α → β) (d : Dict κ α) (k : κ) (a : α) :
    (d.set k a).mapKeys hf g = (d.mapKeys hf g).set (f k) (g a) := by
  obtain ⟨l, hl⟩ := d
  simp only [set, mapKeys, mk.injEq]
  clear hl
  induction l with
  | nil => rfl
  | cons head rest ih =>
    obtain ⟨k', a'⟩ := head
    by_cases h : k' = k
    · subst h
      simp only [setItem, if_true, List.map_cons]
    · simp only [setItem, if_neg h, List.map_cons, hf.eq_iff, ih]

end Map

end Dict
