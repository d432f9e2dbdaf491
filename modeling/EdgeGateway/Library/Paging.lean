import Mathlib.Data.List.Count
import Mathlib.Data.List.Nodup
import Mathlib.Data.List.Perm.Basic
import Mathlib.Data.List.Sort
import Mathlib.Order.Lattice

/-! Reading a sorted list page by page, where each page may come from another sorting. -/

namespace Paging

variable {α κ : Type*}

/-- The page at the offset. -/
def page (l : List α) (limit offset : ℕ) : List α := (l.drop offset).take limit

/-- The pages that cover a number of elements. -/
def pageCount (total limit : ℕ) : ℕ := (total + limit - 1) / limit

theorem le_pageCount_mul {limit : ℕ} (hlimit : 0 < limit) (total : ℕ) : total ≤ pageCount total limit * limit := by
  have hdiv := Nat.div_add_mod (total + limit - 1) limit
  have hmod := Nat.mod_lt (total + limit - 1) hlimit
  have hcomm : limit * ((total + limit - 1) / limit) = pageCount total limit * limit := Nat.mul_comm _ _
  omega

theorem div_lt_pageCount {limit total i : ℕ} (hlimit : 0 < limit) (hi : i < total) : i / limit < pageCount total limit := by
  rw [Nat.div_lt_iff_lt_mul hlimit]
  exact hi.trans_le (le_pageCount_mul hlimit total)

/-- The pages of one list are the list. -/
theorem flatMap_page_eq_take (l : List α) (limit n : ℕ) :
    (List.range n).flatMap (fun k => page l limit (k * limit)) = l.take (n * limit) := by
  induction n with
  | zero => simp
  | succ n ih =>
    rw [List.range_succ, List.flatMap_append, ih, List.flatMap_singleton, Nat.succ_mul, List.take_add, page]

theorem flatMap_page {limit : ℕ} (hlimit : 0 < limit) (l : List α) :
    (List.range (pageCount l.length limit)).flatMap (fun k => page l limit (k * limit)) = l := by
  rw [flatMap_page_eq_take, List.take_of_length_le (le_pageCount_mul hlimit l.length)]

/-- The classes of a numbering make up the list. -/
theorem flatMap_filter_perm (f : α → ℕ) (l : List α) {n : ℕ} (h : ∀ a ∈ l, f a < n) :
    ((List.range n).flatMap fun k => l.filter (f · = k)).Perm l := by
  have hbelow : ∀ m, ((List.range m).flatMap fun k => l.filter (f · = k)).Perm (l.filter (f · < m)) := by
    intro m
    induction m with
    | zero => simp
    | succ m ih =>
      rw [List.range_succ, List.flatMap_append, List.flatMap_singleton]
      have hsplit := List.filter_append_perm (fun a => decide (f a < m)) (l.filter (f · < m + 1))
      rw [List.filter_filter, List.filter_filter] at hsplit
      refine (ih.append_right _).trans (.trans (.of_eq ?_) hsplit)
      congr 1
      · refine List.filter_congr fun a _ => ?_
        simp only [← Bool.decide_and, decide_eq_decide]
        omega
      · refine List.filter_congr fun a _ => ?_
        simp only [← decide_not, ← Bool.decide_and, decide_eq_decide]
        omega
  have hall : l.filter (f · < n) = l := List.filter_eq_self.mpr fun a ha => decide_eq_true (h a ha)
  exact (hbelow n).trans (.of_eq hall)

theorem eq_append_cons_of_lt {l : List α} {i : ℕ} (hi : i < l.length) : l = l.take i ++ l[i] :: l.drop (i + 1) := by
  rw [← List.drop_eq_getElem_cons hi, List.take_append_drop]

/-- A numbering by the place puts the elements on their pages. -/
theorem page_eq_filter {f : α → ℕ} {limit : ℕ} (hlimit : 0 < limit) {l : List α}
    (h : ∀ i (hi : i < l.length), f l[i] = i / limit) (k : ℕ) : page l limit (k * limit) = l.filter (f · = k) := by
  have hbefore : (l.take (k * limit)).filter (f · = k) = [] := by
    refine List.filter_eq_nil_iff.mpr fun a ha => ?_
    obtain ⟨i, hi, rfl⟩ := List.mem_iff_getElem.mp ha
    rw [List.length_take] at hi
    rw [List.getElem_take, h i (by omega), decide_eq_true_eq]
    exact ((Nat.div_lt_iff_lt_mul hlimit).mpr (by omega)).ne
  have hpage : (page l limit (k * limit)).filter (f · = k) = page l limit (k * limit) := by
    refine List.filter_eq_self.mpr fun a ha => ?_
    obtain ⟨i, hi, rfl⟩ := List.mem_iff_getElem.mp ha
    simp only [page, List.length_take, List.length_drop] at hi
    simp only [page, List.getElem_take, List.getElem_drop, decide_eq_true_eq]
    rw [h, Nat.mul_comm, Nat.mul_add_div hlimit, Nat.div_eq_of_lt (by omega), Nat.add_zero]
  have hafter : ((l.drop (k * limit)).drop limit).filter (f · = k) = [] := by
    refine List.filter_eq_nil_iff.mpr fun a ha => ?_
    rw [List.drop_drop] at ha
    obtain ⟨i, hi, rfl⟩ := List.mem_iff_getElem.mp ha
    rw [List.length_drop] at hi
    rw [List.getElem_drop, h, decide_eq_true_eq]
    have hle : k + 1 ≤ (k * limit + limit + i) / limit := by
      rw [Nat.le_div_iff_mul_le hlimit, Nat.succ_mul]
      omega
    omega
  calc page l limit (k * limit)
      = (l.take (k * limit)).filter (f · = k) ++ ((page l limit (k * limit)).filter (f · = k) ++
          ((l.drop (k * limit)).drop limit).filter (f · = k)) := by
        rw [hbefore, hpage, hafter, List.nil_append, List.append_nil]
    _ = l.filter (f · = k) := by
        rw [page, ← List.filter_append, List.take_append_drop, ← List.filter_append, List.take_append_drop]

section Sorted

variable [LinearOrder κ] {key : α → κ}

/-- In a sorted list the elements that meet a condition come first, if the condition holds of
all that is sorted before them. -/
theorem lt_countP_iff {r : α → α → Prop} {p : α → Bool} (hp : ∀ a b, r a b → p b = true → p a = true)
    {before after : List α} {a : α} (hsorted : (before ++ a :: after).Pairwise r) :
    before.length < (before ++ a :: after).countP p ↔ p a = true := by
  obtain ⟨_, hafter, hbefore⟩ := List.pairwise_append.mp hsorted
  have hafter := (List.pairwise_cons.mp hafter).1
  rw [List.countP_append, List.countP_cons]
  by_cases ha : p a = true
  · have hall : before.countP p = before.length :=
      List.countP_eq_length.mpr fun b hb => hp b a (hbefore b hb a List.mem_cons_self) ha
    rw [hall, if_pos ha]
    exact iff_of_true (by omega) ha
  · have hnone : after.countP p = 0 := List.countP_eq_zero.mpr fun b hb hpb => ha (hp a b (hafter b hb) hpb)
    have hle : before.countP p ≤ before.length := List.countP_le_length
    rw [hnone, if_neg ha]
    exact iff_of_false (by omega) ha

variable (key)

/-- The elements that come before a key in descending order. -/
def above (l : List α) (v : κ) : ℕ := l.countP fun a => v < key a

/-- The elements that come before a key, or have it. -/
def upto (l : List α) (v : κ) : ℕ := l.countP fun a => v ≤ key a

/-- The elements of one key take the places from `above` to `upto`, in any order, and these
are places of one page. -/
def OnOnePage (rows : List α) (limit : ℕ) (v : κ) : Prop := above key rows v / limit = (upto key rows v - 1) / limit

/-- A query with `ORDER BY key DESC`, in the order of this execution. -/
structure OrderBy where
  sort : List α → List α
  perm : ∀ rows, (sort rows).Perm rows
  sorted : ∀ rows, (sort rows).Pairwise fun a b => key b ≤ key a

/-- The first rows of equal keys stay first. -/
def OrderBy.stable : OrderBy key where
  sort rows := rows.insertionSort fun a b => key b ≤ key a
  perm := List.perm_insertionSort _
  sorted rows :=
    have : Std.Total fun a b : α => key b ≤ key a := ⟨fun a b => le_total (key b) (key a)⟩
    have : IsTrans α fun a b => key b ≤ key a := ⟨fun _ _ _ hba hcb => hcb.trans hba⟩
    List.pairwise_insertionSort _ rows

/-- The pages up to the number of rows, each by a query of its own. -/
def pages (orders : ℕ → OrderBy key) (rows : List α) (limit : ℕ) : List α :=
  (List.range (pageCount rows.length limit)).flatMap fun k => page ((orders k).sort rows) limit (k * limit)

variable {key}

/-- Where the rows of a key are in a sorted list of the rows. -/
theorem key_eq_iff {rows l before after : List α} {a : α} (hperm : l.Perm rows)
    (hsorted : l.Pairwise fun a b => key b ≤ key a) (hsplit : l = before ++ a :: after) (v : κ) :
    key a = v ↔ above key rows v ≤ before.length ∧ before.length < upto key rows v := by
  subst hsplit
  have habove := lt_countP_iff (p := fun a => v < key a)
    (fun a b hle hb => decide_eq_true ((of_decide_eq_true hb).trans_le hle)) hsorted
  have hupto := lt_countP_iff (p := fun a => v ≤ key a)
    (fun a b hle hb => decide_eq_true ((of_decide_eq_true hb).trans hle)) hsorted
  rw [hperm.countP_eq, decide_eq_true_eq] at habove hupto
  rw [above, upto, ← not_lt, habove, hupto, not_lt, le_antisymm_iff]

theorem above_lt_upto {rows : List α} {a : α} (ha : a ∈ rows) : above key rows (key a) < upto key rows (key a) := by
  have hmono : ∀ l : List α, above key l (key a) ≤ upto key l (key a) := fun l =>
    List.countP_mono_left fun b _ hlt => decide_eq_true (of_decide_eq_true hlt).le
  obtain ⟨before, after, rfl⟩ := List.append_of_mem ha
  have hbefore := hmono before
  have hafter := hmono after
  unfold above upto at *
  rw [List.countP_append, List.countP_append, List.countP_cons, List.countP_cons, if_neg (by simp), if_pos (by simp)]
  omega

/-- When the rows of each key are on one page, every order gives all rows. -/
theorem pages_perm {rows : List α} {limit : ℕ} (hlimit : 0 < limit)
    (h : ∀ a ∈ rows, OnOnePage key rows limit (key a)) (orders : ℕ → OrderBy key) : (pages key orders rows limit).Perm rows := by
  have hpage : ∀ k, page ((orders k).sort rows) limit (k * limit) =
      ((orders k).sort rows).filter fun a => above key rows (key a) / limit = k := by
    intro k
    have hperm := (orders k).perm rows
    refine page_eq_filter (f := fun a => above key rows (key a) / limit) hlimit (fun i hi => ?_) k
    obtain ⟨habove, hupto⟩ := (key_eq_iff hperm ((orders k).sorted rows) (eq_append_cons_of_lt hi) _).mp rfl
    rw [List.length_take, Nat.min_eq_left hi.le] at habove hupto
    have honePage := h _ (hperm.subset (List.getElem_mem hi))
    refine le_antisymm (Nat.div_le_div_right habove) ?_
    rw [honePage]
    exact Nat.div_le_div_right (by omega)
  have hbound : ∀ a ∈ rows, above key rows (key a) / limit < pageCount rows.length limit := by
    intro a ha
    exact div_lt_pageCount hlimit ((above_lt_upto ha).trans_le List.countP_le_length)
  unfold pages
  simp only [hpage]
  refine (List.Perm.flatMap_left _ fun k _ => ((orders k).perm rows).filter _).trans ?_
  exact flatMap_filter_perm _ rows hbound

/-- The database may choose any order that is sorted. -/
theorem exists_orderBy {rows l : List α} (hperm : l.Perm rows) (hsorted : l.Pairwise fun a b => key b ≤ key a) :
    ∃ order : OrderBy key, order.sort rows = l := by
  classical
  refine ⟨⟨fun other => if other = rows then l else (OrderBy.stable key).sort other, ?_, ?_⟩, if_pos rfl⟩
  · intro other
    split
    · rename_i hsame
      exact hsame ▸ hperm
    · exact (OrderBy.stable key).perm other
  · intro other
    split
    · exact hsorted
    · exact (OrderBy.stable key).sorted other

theorem exists_boundary {l : List α} {b : ℕ} (hpos : 0 < b) (hb : b < l.length) :
    ∃ before x y after, l = before ++ x :: y :: after ∧ before.length + 1 = b := by
  have hlast : b - 1 < l.length := by omega
  refine ⟨l.take (b - 1), l[b - 1], l[b], l.drop (b + 1), ?_, ?_⟩
  · rw [← List.drop_eq_getElem_cons hb]
    have hsplit := eq_append_cons_of_lt hlast
    rw [Nat.sub_add_cancel hpos] at hsplit
    exact hsplit
  · rw [List.length_take]
    omega

theorem mem_page_last {before after : List α} {x : α} {limit k : ℕ} (hlimit : 0 < limit)
    (hlength : before.length + 1 = (k + 1) * limit) : x ∈ page (before ++ x :: after) limit (k * limit) := by
  rw [Nat.succ_mul] at hlength
  have hle : k * limit ≤ before.length := by omega
  have hdrop : (before.drop (k * limit)).length = limit - 1 := by
    rw [List.length_drop]
    omega
  rw [page, List.drop_append_of_le_length hle, List.take_append, hdrop]
  refine List.mem_append_right _ ?_
  rw [Nat.sub_sub_self hlimit]
  exact List.mem_cons_self

theorem mem_page_first {before after : List α} {x y : α} {limit k : ℕ} (hlimit : 0 < limit)
    (hlength : before.length + 1 = k * limit) : x ∈ page (before ++ y :: x :: after) limit (k * limit) := by
  have hdrop : (before ++ y :: x :: after).drop (k * limit) = x :: after := by
    rw [List.append_cons, List.drop_left' (by rw [List.length_append, List.length_singleton, hlength])]
  rw [page, hdrop, ← Nat.sub_add_cancel hlimit, List.take_succ_cons]
  exact List.mem_cons_self

/-- Rows of one key that are not on one page have a page boundary among them. -/
theorem exists_inner_boundary {rows : List α} {limit : ℕ} (hlimit : 0 < limit) {v : κ}
    (hbetween : above key rows v < upto key rows v) (h : ¬ OnOnePage key rows limit v) :
    ∃ k, above key rows v < (k + 1) * limit ∧ (k + 1) * limit < upto key rows v := by
  have hle : above key rows v / limit ≤ (upto key rows v - 1) / limit := Nat.div_le_div_right (by omega)
  have hnext : above key rows v / limit + 1 ≤ (upto key rows v - 1) / limit := lt_of_le_of_ne hle h
  have hupper := (Nat.le_div_iff_mul_le hlimit).mp hnext
  refine ⟨above key rows v / limit, ?_, by omega⟩
  rw [← Nat.div_lt_iff_lt_mul hlimit]
  exact Nat.lt_succ_self _

theorem sorted_swap {before after : List α} {x y : α} (hkey : key x = key y)
    (hsorted : (before ++ x :: y :: after).Pairwise fun a b => key b ≤ key a) :
    (before ++ y :: x :: after).Pairwise fun a b => key b ≤ key a := by
  have hkeys : (before ++ y :: x :: after).map key = (before ++ x :: y :: after).map key := by
    rw [List.map_append, List.map_append, List.map_cons, List.map_cons, List.map_cons, List.map_cons, hkey]
  have hmap : ((before ++ x :: y :: after).map key).Pairwise fun v w => w ≤ v := List.pairwise_map.mpr hsorted
  rw [← hkeys] at hmap
  exact List.pairwise_map.mp hmap

/-- Two rows of one key at a page boundary may change places between the two queries, and the
first of them is then on both pages. -/
theorem exists_not_nodup {rows : List α} {limit : ℕ} (hlimit : 0 < limit) {a : α} (ha : a ∈ rows)
    (h : ¬ OnOnePage key rows limit (key a)) : ∃ orders : ℕ → OrderBy key, ¬ (pages key orders rows limit).Nodup := by
  obtain ⟨k, hlower, hupper⟩ := exists_inner_boundary hlimit (above_lt_upto ha) h
  have hperm := (OrderBy.stable key).perm rows
  have hsorted := (OrderBy.stable key).sorted rows
  have hlast : (k + 1) * limit < ((OrderBy.stable key).sort rows).length := by
    rw [hperm.length_eq]
    exact hupper.trans_le List.countP_le_length
  have hpos : 0 < (k + 1) * limit := Nat.mul_pos (Nat.succ_pos k) hlimit
  obtain ⟨before, x, y, after, hsplit, hlength⟩ := exists_boundary hpos hlast
  have hx : key x = key a := (key_eq_iff hperm hsorted hsplit _).mpr (by omega)
  have hy : key y = key a := by
    refine (key_eq_iff hperm hsorted (hsplit.trans (List.append_cons before x _)) _).mpr ?_
    rw [List.length_append, List.length_singleton]
    omega
  have hswap : (before ++ y :: x :: after).Perm (before ++ x :: y :: after) := (List.Perm.swap x y after).append_left before
  rw [hsplit] at hperm hsorted
  obtain ⟨later, hlater⟩ := exists_orderBy (hswap.trans hperm) (sorted_swap (hx.trans hy.symm) hsorted)
  -- All queries but the one for the second of the two pages have the rows in the stable order.
  refine ⟨fun j => if j = k + 1 then later else OrderBy.stable key, fun hnodup => ?_⟩
  have hdisjoint := List.pairwise_iff_getElem.mp (List.nodup_flatMap.mp hnodup).2
  have hcount : k + 1 < pageCount rows.length limit := by
    have hdiv : (k + 1) * limit / limit = k + 1 := Nat.mul_div_cancel _ hlimit
    rw [← hdiv]
    exact div_lt_pageCount hlimit (hupper.trans_le List.countP_le_length)
  have hpages := hdisjoint k (k + 1) (by rw [List.length_range]; omega) (by rw [List.length_range]; omega) (by omega)
  simp only [Function.onFun, List.getElem_range, if_pos, if_neg (Nat.succ_ne_self k).symm, hsplit, hlater] at hpages
  exact hpages (mem_page_last hlimit hlength) (mem_page_first hlimit hlength)

/-- Reading all pages shows every row once, in whatever orders the queries have them, exactly
if the rows of each key are on one page. -/
theorem map_pages_perm_iff {β : Type*} {f : α → β} {rows : List α} {limit : ℕ} (hlimit : 0 < limit)
    (hnodup : (rows.map f).Nodup) :
    (∀ orders : ℕ → OrderBy key, ((pages key orders rows limit).map f).Perm (rows.map f)) ↔
      ∀ a ∈ rows, OnOnePage key rows limit (key a) := by
  constructor
  · intro hall a ha
    by_contra hsplit
    obtain ⟨orders, htwice⟩ := exists_not_nodup hlimit ha hsplit
    exact htwice (((hall orders).nodup_iff.mpr hnodup).of_map f)
  · exact fun h orders => (pages_perm hlimit h orders).map f

end Sorted

end Paging
