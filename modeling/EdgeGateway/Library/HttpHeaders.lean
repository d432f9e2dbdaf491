import Mathlib.Data.List.Count
import EdgeGateway.Library.Dict

/-! Header lists, in which names may repeat, and the dicts that are made from them. -/

namespace HttpHeaders

variable {κ α : Type} [DecidableEq κ]

/-- Enter the pairs one after the other. `merge` says what becomes of the value a key has. -/
def collect (merge : Option α → α → α) (d : Dict κ α) : List (κ × α) → Dict κ α
  | [] => d
  | (k, a) :: rest => collect merge (d.set k (merge (d.get? k) a)) rest

/-- `{k: v for k, v in pairs}`. -/
def of_pairs (pairs : List (κ × α)) : Dict κ α := collect (fun _ a => a) .empty pairs

/-- `httpx.Headers.items()`, which joins the values of a repeated name. -/
def joined (pairs : List (String × String)) : Dict String String :=
  collect (fun old value => match old with | some text => text ++ ", " ++ value | none => value) .empty
    (pairs.map fun (name, value) => (name.toLower, value))

section LowerCase

theorem toLower_toLower_char (c : Char) : c.toLower.toLower = c.toLower := by
  unfold Char.toLower
  by_cases h : c.val ≥ 'A'.val ∧ c.val ≤ 'Z'.val
  · have hlower : ¬ (c.val + ('a'.val - 'A'.val) ≥ 'A'.val ∧ c.val + ('a'.val - 'A'.val) ≤ 'Z'.val) := by
      simp [UInt32.le_iff_toNat_le] at h ⊢
      omega
    rw [dif_pos h, dif_neg hlower]
  · rw [dif_neg h, dif_neg h]

theorem toLower_toLower (s : String) : s.toLower.toLower = s.toLower := by
  refine String.toList_inj.mp ?_
  unfold String.toLower
  rw [String.toList_map, String.toList_map, List.map_map]
  exact List.map_congr_left fun c _ => toLower_toLower_char c

end LowerCase

section Filter

variable {p : κ → Bool} {d : Dict κ α} {k : κ} {a : α}

theorem filter_setItem (l : List (κ × α)) :
    (Dict.setItem k a l).filter (p ·.1) =
      if p k then Dict.setItem k a (l.filter (p ·.1)) else l.filter (p ·.1) := by
  induction l with
  | nil => rw [Dict.setItem, List.filter_cons]; rfl
  | cons head rest ih =>
    obtain ⟨k', a'⟩ := head
    rw [Dict.setItem]
    by_cases heq : k' = k
    · subst heq
      rw [if_pos rfl, List.filter_cons, List.filter_cons]
      split
      · rw [Dict.setItem, if_pos rfl]
      · rfl
    · rw [if_neg heq, List.filter_cons, List.filter_cons, ih]
      by_cases hk' : p k' = true
      · rw [if_pos hk', if_pos hk', Dict.setItem, if_neg heq]
        split <;> rfl
      · rw [if_neg hk', if_neg hk']

theorem filter_set : (d.set k a).filter (fun k _ => p k) =
    if p k then (d.filter fun k _ => p k).set k a else d.filter fun k _ => p k := by
  have hitems := filter_setItem (p := p) (k := k) (a := a) d.items
  split
  · rename_i hk
    rw [if_pos hk] at hitems
    exact Dict.mk.injEq .. ▸ hitems
  · rename_i hk
    rw [if_neg hk] at hitems
    exact Dict.mk.injEq .. ▸ hitems

end Filter

section Collect

variable {merge : Option α → α → α} {d : Dict κ α} {pairs : List (κ × α)}

theorem mem_keys_collect {k : κ} : k ∈ (collect merge d pairs).keys ↔ k ∈ d.keys ∨ k ∈ pairs.map Prod.fst := by
  induction pairs generalizing d with
  | nil => simp [collect]
  | cons p rest ih =>
    rw [collect, ih, Dict.mem_keys_set, List.map_cons, List.mem_cons]
    tauto

/-- Names that do not repeat are entered as they are. -/
theorem items_collect (hmerge : ∀ a, merge none a = a) (hnodup : (pairs.map Prod.fst).Nodup)
    (hfresh : ∀ k ∈ pairs.map Prod.fst, k ∉ d.keys) : (collect merge d pairs).items = d.items ++ pairs := by
  induction pairs generalizing d with
  | nil => exact (List.append_nil _).symm
  | cons p rest ih =>
    obtain ⟨k, a⟩ := p
    obtain ⟨hk, hrest⟩ := List.nodup_cons.mp hnodup
    have hnew : k ∉ d.keys := hfresh k List.mem_cons_self
    have hnone : d.get? k = none := by
      by_contra hsome
      obtain ⟨b, hb⟩ := Option.ne_none_iff_exists'.mp hsome
      exact hnew (Dict.mem_keys_iff.mpr ⟨b, hb⟩)
    have hitems : (d.set k a).items = d.items ++ [(k, a)] := Dict.setItem_of_not_mem a hnew
    rw [collect, hnone, hmerge, ih hrest, hitems, List.append_assoc, List.singleton_append]
    intro j hj hmem
    obtain rfl | hmem := Dict.mem_keys_set.mp hmem
    · exact hk hj
    · exact hfresh j (List.mem_cons_of_mem _ hj) hmem

/-- The pairs survive as a multiset exactly if no name repeats. -/
theorem items_collect_perm_iff (hmerge : ∀ a, merge none a = a) :
    (collect merge .empty pairs).items.Perm pairs ↔ (pairs.map Prod.fst).Nodup := by
  constructor
  · intro hperm
    exact (hperm.map Prod.fst).nodup_iff.mp (collect merge .empty pairs).nodup
  · intro hnodup
    rw [items_collect hmerge hnodup fun _ _ => List.not_mem_nil]
    rfl

/-- Leaving out names beforehand and afterwards is the same. -/
theorem filter_collect (p : κ → Bool) :
    (collect merge d pairs).filter (fun k _ => p k) =
      collect merge (d.filter fun k _ => p k) (pairs.filter (p ·.1)) := by
  induction pairs generalizing d with
  | nil => rfl
  | cons pair rest ih =>
    obtain ⟨k, a⟩ := pair
    rw [collect, ih, filter_set, List.filter_cons]
    split
    · rename_i hk
      rw [collect, Dict.get?_filter]
      congr 3
      cases d.get? k with
      | none => rfl
      | some b => exact (if_pos hk).symm
    · rfl

end Collect

end HttpHeaders
