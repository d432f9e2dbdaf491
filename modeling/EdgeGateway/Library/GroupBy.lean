import Mathlib

/-! `GROUP BY`, and what is left to know of the rows when the groups are grouped again. -/

namespace GroupBy

variable {ρ κ κ' M β : Type*} [DecidableEq κ] [DecidableEq κ']

/-- The keys of the groups, each of them once. -/
def keys (key : ρ → κ) (rows : List ρ) : List κ := (rows.map key).dedup

/-- The rows of a group. -/
def group (key : ρ → κ) (rows : List ρ) (k : κ) : List ρ := rows.filter (key · = k)

/-- The groups with what a function makes of their rows. -/
def aggregate (key : ρ → κ) (f : List ρ → β) (rows : List ρ) : List (κ × β) :=
  (keys key rows).map fun k => (k, f (group key rows k))

variable {key : ρ → κ} {rows rows' : List ρ}

theorem keys_nodup (key : ρ → κ) (rows : List ρ) : (keys key rows).Nodup := List.nodup_dedup _

theorem mem_keys_iff {k : κ} : k ∈ keys key rows ↔ ∃ row ∈ rows, key row = k := by
  rw [keys, List.mem_dedup, List.mem_map]

theorem keys_perm (h : rows.Perm rows') : (keys key rows).Perm (keys key rows') := (h.map key).dedup

theorem group_perm (h : rows.Perm rows') (k : κ) : (group key rows k).Perm (group key rows' k) := h.filter _

theorem aggregate_fst (f : List ρ → β) : (aggregate key f rows).map Prod.fst = keys key rows := by
  rw [aggregate, List.map_map]
  exact List.map_id _

theorem mem_aggregate_iff {f : List ρ → β} {k : κ} {b : β} :
    (k, b) ∈ aggregate key f rows ↔ (∃ row ∈ rows, key row = k) ∧ b = f (group key rows k) := by
  rw [aggregate, List.mem_map]
  constructor
  · rintro ⟨k', hk', heq⟩
    cases heq
    exact ⟨mem_keys_iff.mp hk', rfl⟩
  · rintro ⟨hk, rfl⟩
    exact ⟨k, mem_keys_iff.mpr hk, rfl⟩

/-- The order of the rows only matters to the order of the groups. -/
theorem aggregate_perm {f : List ρ → β} (hf : ∀ l l' : List ρ, l.Perm l' → f l = f l') (h : rows.Perm rows') :
    (aggregate key f rows).Perm (aggregate key f rows') := by
  have hgroups : ∀ k, f (group key rows k) = f (group key rows' k) := fun k => hf _ _ (group_perm h k)
  simp only [aggregate, hgroups]
  exact (keys_perm h).map _

omit [DecidableEq κ] in
/-- Rows under different keys have only one order by their keys. -/
theorem insertionSort_eq_of_perm {O : Type*} [LinearOrder O] {order : κ → O} (horder : Function.Injective order)
    {l l' : List (κ × β)} (h : l.Perm l') (hnodup : (l.map Prod.fst).Nodup) :
    l.insertionSort (fun a b => order a.1 ≤ order b.1) = l'.insertionSort fun a b => order a.1 ≤ order b.1 := by
  have htotal : Std.Total fun a b : κ × β => order a.1 ≤ order b.1 := ⟨fun a b => le_total _ _⟩
  have htrans : IsTrans (κ × β) fun a b => order a.1 ≤ order b.1 := ⟨fun a b c => le_trans⟩
  have hl := List.perm_insertionSort (fun a b : κ × β => order a.1 ≤ order b.1) l
  have hl' := List.perm_insertionSort (fun a b : κ × β => order a.1 ≤ order b.1) l'
  refine List.Perm.eq_of_pairwise (fun a b ha hb hab hba => ?_) (List.pairwise_insertionSort _ _)
    (List.pairwise_insertionSort _ _) (hl.trans (h.trans hl'.symm))
  have hkey : a.1 = b.1 := horder (le_antisymm hab hba)
  exact List.inj_on_of_nodup_map hnodup (hl.mem_iff.mp ha) (h.mem_iff.mpr (hl'.mem_iff.mp hb)) hkey

section Totals

variable [AddCommMonoid M] (measure : ρ → M)

/-- What a measure of the rows adds up to. -/
def total (rows : List ρ) : M := (rows.map measure).sum

theorem total_perm (h : rows.Perm rows') : total measure rows = total measure rows' := (h.map measure).sum_eq

/-- The totals of the groups add up to the total. -/
theorem sum_groups {ks : List κ} (hnodup : ks.Nodup) (hks : ∀ row ∈ rows, key row ∈ ks) :
    (ks.map fun k => total measure (group key rows k)).sum = total measure rows := by
  induction rows with
  | nil => simp [group, total]
  | cons row rest ih =>
    have hgroup : ∀ k, total measure (group key (row :: rest) k) =
        (if key row = k then measure row else 0) + total measure (group key rest k) := by
      intro k
      by_cases hk : key row = k
      · simp [group, total, hk]
      · simp [group, total, hk]
    have hhead : (ks.map fun k => if key row = k then measure row else 0).sum = measure row := by
      rw [← List.sum_toFinset _ hnodup, Finset.sum_ite_eq, if_pos (List.mem_toFinset.mpr (hks row List.mem_cons_self))]
    have hrest := ih fun r hr => hks r (List.mem_cons_of_mem row hr)
    simp only [hgroup]
    rw [List.sum_map_add, hhead, hrest, total, total, List.map_cons, List.sum_cons]

/-- The sizes of the groups add up to the number of rows. -/
theorem sum_length (key : ρ → κ) (rows : List ρ) : ((keys key rows).map fun k => (group key rows k).length).sum = rows.length := by
  have hlength : ∀ l : List ρ, total (fun _ => 1) l = l.length := by
    intro l
    simp [total]
  simp only [← hlength]
  exact sum_groups _ (keys_nodup key rows) fun row hrow => mem_keys_iff.mpr ⟨row, hrow, rfl⟩

/-- The groups whose keys fall together make up the group of the coarser key. -/
theorem sum_coarser (key : ρ → κ) (rows : List ρ) (coarse : κ → κ') (k' : κ') :
    (((keys key rows).filter (coarse · = k')).map fun k => total measure (group key rows k)).sum =
      total measure (group (fun row => coarse (key row)) rows k') := by
  have hgroup : ∀ k ∈ (keys key rows).filter (coarse · = k'),
      total measure (group key rows k) = total measure (group key (group (fun row => coarse (key row)) rows k') k) := by
    intro k hk
    have hcoarse : coarse k = k' := of_decide_eq_true (List.mem_filter.mp hk).2
    rw [group, group, group, List.filter_filter]
    refine congrArg (total measure) (List.filter_congr fun row _ => ?_)
    by_cases hrow : key row = k
    · simp [hrow, hcoarse]
    · simp [hrow]
  rw [List.map_congr_left hgroup]
  refine sum_groups measure ((keys_nodup key rows).filter _) fun row hrow => ?_
  obtain ⟨hmem, hcoarse⟩ := List.mem_filter.mp hrow
  exact List.mem_filter.mpr ⟨mem_keys_iff.mpr ⟨row, hmem, rfl⟩, hcoarse⟩

/-- Groups by a coarser key are found from the groups, if their totals can be told from what was made of these. -/
theorem aggregate_aggregate (key : ρ → κ) (rows : List ρ) (finish : M → β) (recover : β → M) (coarse : κ → κ')
    (hrecover : ∀ k, recover (finish (total measure (group key rows k))) = total measure (group key rows k)) :
    (aggregate (fun row => coarse (key row)) (fun l => finish (total measure l)) rows).Perm
      (aggregate (fun g => coarse g.1) (fun l => finish (total (fun g => recover g.2) l))
        (aggregate key (fun l => finish (total measure l)) rows)) := by
  have hkeys : (keys (fun row => coarse (key row)) rows).Perm
      (keys (fun g => coarse g.1) (aggregate key (fun l => finish (total measure l)) rows)) := by
    rw [List.perm_ext_iff_of_nodup (keys_nodup _ _) (keys_nodup _ _)]
    intro k'
    rw [mem_keys_iff, mem_keys_iff]
    constructor
    · rintro ⟨row, hrow, rfl⟩
      exact ⟨_, List.mem_map_of_mem (mem_keys_iff.mpr ⟨row, hrow, rfl⟩), rfl⟩
    · rintro ⟨g, hg, rfl⟩
      obtain ⟨k, hk, rfl⟩ := List.mem_map.mp hg
      obtain ⟨row, hrow, rfl⟩ := mem_keys_iff.mp hk
      exact ⟨row, hrow, rfl⟩
  have htotal : ∀ k', total (fun g => recover g.2)
      (group (fun g => coarse g.1) (aggregate key (fun l => finish (total measure l)) rows) k') =
        total measure (group (fun row => coarse (key row)) rows k') := by
    intro k'
    rw [← sum_coarser measure key rows, group, aggregate, List.filter_map, total, List.map_map]
    exact congrArg List.sum (List.map_congr_left fun k _ => hrecover k)
  have hgroups : (aggregate (fun g => coarse g.1) (fun l => finish (total (fun g => recover g.2) l))
      (aggregate key (fun l => finish (total measure l)) rows)) =
        (keys (fun g => coarse g.1) (aggregate key (fun l => finish (total measure l)) rows)).map fun k' =>
          (k', finish (total measure (group (fun row => coarse (key row)) rows k'))) :=
    List.map_congr_left fun k' _ => congrArg (fun t => (k', finish t)) (htotal k')
  rw [hgroups]
  exact hkeys.map _

end Totals

end GroupBy
