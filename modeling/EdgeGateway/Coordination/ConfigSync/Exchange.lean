import Mathlib.Data.Int.Order.Basic
import EdgeGateway.Coordination.ConfigSync

namespace gateway.config_sync

/-- The servicer's side of the stream: its cache after it, and what it yielded. -/
def SyncConfig (config : LocalConfig) : List Entry → LocalConfig × List Entry
  | [] => (config, [])
  | entry :: rest =>
    let (config, response) := sync_entry config entry
    let (config, responses) := SyncConfig config rest
    (config, response.toList ++ responses)

def entry_of (item : String × String × ℤ) : Entry := { key := item.1, value := item.2.1, version := item.2.2 }

/-- The caller streams all its entries, and stores every returned one with `set_local`. -/
def exchange (caller servicer : LocalConfig) : LocalConfig × LocalConfig :=
  let (servicer, responses) := SyncConfig servicer (caller.items.map entry_of)
  (responses.foldl set_local caller, servicer)

/-- The newer one of two cached values. -/
def newer : Option (String × ℤ) → Option (String × ℤ) → Option (String × ℤ)
  | some a, some b => if a.2 < b.2 then some b else some a
  | some a, none => some a
  | none, b => b

/-- Equal versions of a key carry equal values. -/
def Agree (caller servicer : LocalConfig) : Prop :=
  ∀ key a b, caller.get? key = some a → servicer.get? key = some b → a.2 = b.2 → a = b

/-- Both caches have the key-wise newer entries of the original ones. -/
def Reconciled (caller servicer : LocalConfig) : Prop :=
  ∀ key, (exchange caller servicer).1.get? key = newer (caller.get? key) (servicer.get? key) ∧
    (exchange caller servicer).2.get? key = newer (caller.get? key) (servicer.get? key)

/-- What the servicer finds in its cache for a key. -/
def found (cached : Option (String × ℤ)) : String × ℤ := cached.getD ("", 0)

/-- What becomes of a key at the servicer, of which the caller sends `sent`. -/
def servicer_after : Option (String × ℤ) → Option (String × ℤ) → Option (String × ℤ)
  | none, cached => cached
  | some sent, cached => if (found cached).2 < sent.2 then some sent else cached

/-- What becomes of the key at the caller. -/
def caller_after : Option (String × ℤ) → Option (String × ℤ) → Option (String × ℤ)
  | none, _ => none
  | some sent, cached => if sent.2 < (found cached).2 then some (found cached) else some sent

theorem get_local_eq (config : LocalConfig) (key : String) : get_local config key = found (config.get? key) := rfl

/-- One entry changes its own key only, and is answered from what the servicer had. -/
theorem sync_entry_spec (config : LocalConfig) (item : String × String × ℤ) :
    (∀ key, (sync_entry config (entry_of item)).1.get? key =
        if key = item.1 then servicer_after (some item.2) (config.get? item.1) else config.get? key) ∧
      (sync_entry config (entry_of item)).2 =
        if item.2.2 < (found (config.get? item.1)).2 then some (entry_of (item.1, found (config.get? item.1))) else none := by
  obtain ⟨sent_key, value, version⟩ := item
  have hkept : ∀ key, config.get? key = if key = sent_key then config.get? sent_key else config.get? key := by
    intro key
    split
    · rename_i heq
      rw [heq]
    · rfl
  simp only [sync_entry, entry_of, get_local_eq, servicer_after, gt_iff_lt]
  obtain hlt | heq | hgt := lt_trichotomy version (found (config.get? sent_key)).2
  · rw [if_pos hlt, if_pos hlt]
    refine ⟨fun key => ?_, rfl⟩
    rw [if_neg (not_lt_of_gt hlt)]
    exact hkept key
  · have hirrefl : ¬ version < (found (config.get? sent_key)).2 := by omega
    have hirrefl' : ¬ (found (config.get? sent_key)).2 < version := by omega
    rw [if_neg hirrefl, if_neg hirrefl', if_neg hirrefl]
    refine ⟨fun key => ?_, rfl⟩
    rw [if_neg hirrefl']
    exact hkept key
  · rw [if_neg (not_lt_of_gt hgt), if_pos hgt, if_neg (not_lt_of_gt hgt)]
    refine ⟨fun key => ?_, rfl⟩
    rw [get?_set_local, if_pos hgt]

theorem lookup_of_nodup {item : String × String × ℤ} {rest : List (String × String × ℤ)}
    (h : item.1 ∉ rest.map Prod.fst) : rest.lookup item.1 = none := by
  rw [List.lookup_eq_none_iff]
  intro pair hmem
  exact bne_iff_ne.mpr fun heq => h (heq ▸ List.mem_map_of_mem hmem)

/-- The servicer's cache after the stream, key by key. -/
theorem get?_SyncConfig {items : List (String × String × ℤ)} (hnodup : (items.map Prod.fst).Nodup)
    (config : LocalConfig) (key : String) :
    (SyncConfig config (items.map entry_of)).1.get? key = servicer_after (items.lookup key) (config.get? key) := by
  induction items generalizing config with
  | nil => rfl
  | cons item rest ih =>
    obtain ⟨hfresh, hrest⟩ := List.nodup_cons.mp hnodup
    obtain ⟨hcache, _⟩ := sync_entry_spec config item
    change (SyncConfig (sync_entry config (entry_of item)).1 (rest.map entry_of)).1.get? key = _
    rw [ih hrest, hcache, Dict.lookup_cons_eq_ite key item.1 item.2 rest]
    by_cases heq : key = item.1
    · subst heq
      rw [if_pos rfl, if_pos rfl, lookup_of_nodup hfresh]
      rfl
    · rw [if_neg heq, if_neg heq]

/-- What the caller stores of the answers, key by key. -/
theorem get?_responses {items : List (String × String × ℤ)} (hnodup : (items.map Prod.fst).Nodup)
    (config caller : LocalConfig) (key : String) :
    ((SyncConfig config (items.map entry_of)).2.foldl set_local caller).get? key =
      match items.lookup key with
      | none => caller.get? key
      | some sent => if sent.2 < (found (config.get? key)).2 then some (found (config.get? key)) else caller.get? key := by
  induction items generalizing config caller with
  | nil => rfl
  | cons item rest ih =>
    obtain ⟨hfresh, hrest⟩ := List.nodup_cons.mp hnodup
    obtain ⟨hcache, hresponse⟩ := sync_entry_spec config item
    change (((sync_entry config (entry_of item)).2.toList ++
      (SyncConfig (sync_entry config (entry_of item)).1 (rest.map entry_of)).2).foldl set_local caller).get? key = _
    rw [List.foldl_append, ih hrest, hcache, hresponse, Dict.lookup_cons_eq_ite key item.1 item.2 rest]
    by_cases heq : key = item.1
    · subst heq
      rw [lookup_of_nodup hfresh]
      simp only [↓reduceIte]
      by_cases hlt : item.2.2 < (found (config.get? item.1)).2
      · rw [if_pos hlt, if_pos hlt]
        exact (get?_set_local caller _ item.1).trans (if_pos rfl)
      · rw [if_neg hlt, if_neg hlt]
        rfl
    · rw [if_neg heq, if_neg heq]
      have hcaller : ((if item.2.2 < (found (config.get? item.1)).2 then some (entry_of (item.1, found (config.get? item.1)))
          else none).toList.foldl set_local caller).get? key = caller.get? key := by
        split
        · simp [get?_set_local, entry_of, heq]
        · rfl
      rw [hcaller]

/-- The exchange works on each key apart. -/
theorem get?_exchange (caller servicer : LocalConfig) (key : String) :
    (exchange caller servicer).1.get? key = caller_after (caller.get? key) (servicer.get? key) ∧
      (exchange caller servicer).2.get? key = servicer_after (caller.get? key) (servicer.get? key) := by
  refine ⟨?_, get?_SyncConfig caller.nodup servicer key⟩
  refine (get?_responses caller.nodup servicer caller key).trans ?_
  change (match caller.get? key with | none => caller.get? key | some sent => _) = _
  cases hsent : caller.get? key with
  | none => rfl
  | some sent => rfl

/-- One exchange reconciles two caches exactly if the caller has every key that the servicer
has, and the versions of the keys that only the caller has are positive. -/
theorem reconciled_iff {caller servicer : LocalConfig} (hagree : Agree caller servicer) :
    Reconciled caller servicer ↔
      (∀ key ∈ servicer.keys, key ∈ caller.keys) ∧
        ∀ key sent, caller.get? key = some sent → key ∉ servicer.keys → 0 < sent.2 := by
  have hkey : ∀ key, (caller_after (caller.get? key) (servicer.get? key) = newer (caller.get? key) (servicer.get? key) ∧
      servicer_after (caller.get? key) (servicer.get? key) = newer (caller.get? key) (servicer.get? key)) ↔
        (key ∈ servicer.keys → key ∈ caller.keys) ∧
          ∀ sent, caller.get? key = some sent → key ∉ servicer.keys → 0 < sent.2 := by
    intro key
    rw [Dict.mem_keys_iff, Dict.mem_keys_iff]
    cases hsent : caller.get? key with
    | none =>
      cases hcached : servicer.get? key with
      | none => simp [caller_after, servicer_after, newer]
      | some cached => simp [caller_after, servicer_after, newer]
    | some sent =>
      cases hcached : servicer.get? key with
      | none =>
        simp only [caller_after, servicer_after, newer, found, Option.getD_none]
        by_cases hpos : 0 < sent.2
        · simp [hpos, not_lt_of_gt hpos]
        · simp [hpos]
      | some cached =>
        have hsame := hagree key sent cached hsent hcached
        simp only [caller_after, servicer_after, newer, found, Option.getD_some]
        obtain hlt | heq | hgt := lt_trichotomy sent.2 cached.2
        · simp [hlt, not_lt_of_gt hlt]
        · obtain rfl := hsame heq
          simp
        · simp [hgt, not_lt_of_gt hgt]
  have hall : Reconciled caller servicer ↔ ∀ key, (key ∈ servicer.keys → key ∈ caller.keys) ∧
      ∀ sent, caller.get? key = some sent → key ∉ servicer.keys → 0 < sent.2 := by
    refine forall_congr' fun key => ?_
    rw [(get?_exchange caller servicer key).1, (get?_exchange caller servicer key).2]
    exact hkey key
  rw [hall]
  exact forall_and

theorem agree_of_items {caller servicer : LocalConfig}
    (h : ∀ x ∈ caller.items, ∀ y ∈ servicer.items, x.1 = y.1 → x.2.2 = y.2.2 → x.2 = y.2) : Agree caller servicer :=
  fun key a b ha hb heq => h (key, a) (Dict.get?_eq_some_iff.mp ha) (key, b) (Dict.get?_eq_some_iff.mp hb) rfl heq

/-- The newer entry of one key is at the caller, that of the other at the servicer. -/
theorem reconciled_two_keys :
    Reconciled ((Dict.empty.set "mode" ("eco", 2)).set "rate" ("5", 1))
      ((Dict.empty.set "rate" ("10", 3)).set "mode" ("boost", 1)) := by
  refine (reconciled_iff (agree_of_items (by decide))).mpr ⟨by decide, fun key sent hsent hmissing => ?_⟩
  have hkeys : ∀ key ∈ ((Dict.empty.set "mode" ("eco", (2 : ℤ))).set "rate" ("5", 1)).keys,
      key ∈ ((Dict.empty.set "rate" ("10", (3 : ℤ))).set "mode" ("boost", 1)).keys := by decide
  exact absurd (hkeys key (Dict.mem_keys_iff.mpr ⟨sent, hsent⟩)) hmissing

/-- The servicer's own key never gets to the caller. -/
theorem servicer_key_not_returned : ¬ ∀ caller servicer : LocalConfig, Agree caller servicer → Reconciled caller servicer := by
  intro hclaim
  have hreconciled := hclaim .empty (Dict.empty.set "mode" ("eco", 1)) (agree_of_items (by decide))
  exact absurd (hreconciled "mode").1 (by decide)

end gateway.config_sync
