import Mathlib.Algebra.Group.Int.Defs
import EdgeGateway.Library.Dict
import EdgeGateway.Library.PyDecimal
import Mathlib.Algebra.Order.Field.Rat

/-- The string keys of a Redis database, none of which expires. -/
abbrev RedisKeyspace := Dict String String

namespace RedisKeyspace

/-- The 64-bit integers are stored as decimal text without padding. -/
def integer? (text : String) : Option ℤ :=
  match PyDecimal.toInt text with
  | some n => if toString n = text && -2 ^ 63 ≤ n && n < 2 ^ 63 then some n else none
  | none => none

/-- INCR, the second component being the reply; `none` is an error reply. -/
def incr (store : RedisKeyspace) (key : String) : Option (RedisKeyspace × ℤ) :=
  match integer? (store.getD key "0") with
  | some n => if n + 1 < 2 ^ 63 then some (store.set key (toString (n + 1)), n + 1) else none
  | none => none

/-- The key is missing, or holds an integer that one can be added to. -/
def Countable (store : RedisKeyspace) (key : String) : Prop :=
  ∃ n, integer? (store.getD key "0") = some n ∧ n + 1 < 2 ^ 63

theorem incr_eq_none_iff {store : RedisKeyspace} {key : String} : incr store key = none ↔ ¬ store.Countable key := by
  unfold incr Countable
  cases integer? (store.getD key "0") with
  | none => simp
  | some n => simp

/-- What a key holds after `n` INCRs, and nothing else, were executed on it. -/
def counter : ℕ → Option String
  | 0 => none
  | n + 1 => some (toString (n + 1))

theorem getD_counter {store : RedisKeyspace} {key : String} {n : ℕ} (h : store.get? key = counter n) :
    store.getD key "0" = toString n := by
  rw [Dict.getD, h]
  cases n <;> rfl

theorem integer?_toString {n : ℕ} {m : ℤ} (h : integer? (toString n) = some m) : m = n := by
  rw [integer?, PyDecimal.toInt_toString] at h
  simp only [Option.ite_none_right_eq_some, Option.some.injEq] at h
  exact h.2.symm

/-- INCR counts. -/
theorem incr_counter {store store' : RedisKeyspace} {key : String} {n : ℕ} {reply : ℤ}
    (h : store.get? key = counter n) (hincr : incr store key = some (store', reply)) :
    reply = (n + 1 : ℕ) ∧ store' = store.set key (toString (n + 1)) := by
  rw [incr, getD_counter h] at hincr
  split at hincr
  · rename_i m hm
    obtain rfl := integer?_toString hm
    simp only [Option.ite_none_right_eq_some, Option.some.injEq, Prod.mk.injEq] at hincr
    obtain ⟨_, rfl, rfl⟩ := hincr
    exact ⟨rfl, rfl⟩
  · cases hincr

end RedisKeyspace

/-- A counter that may expire. -/
structure ExpiringCounter where
  value : ℕ
  expires_at : Option ℚ := none

def ExpiringCounter.live (now : ℚ) (counter : ExpiringCounter) : Bool := counter.expires_at.all fun t => now < t

/-- The counters of a Redis database, those that have expired included. -/
abbrev ExpiringCounters := Dict String ExpiringCounter

namespace ExpiringCounters

/-- What a command finds at a key. -/
def find (store : ExpiringCounters) (now : ℚ) (key : String) : Option ExpiringCounter :=
  (store.get? key).filter fun counter => counter.live now

/-- INCR, the second component being the reply. -/
def incr (store : ExpiringCounters) (now : ℚ) (key : String) : ExpiringCounters × ℕ :=
  match store.find now key with
  | some counter => (store.set key { counter with value := counter.value + 1 }, counter.value + 1)
  | none => (store.set key { value := 1 }, 1)

/-- EXPIRE, which does nothing to a key that is missing. -/
def expire (store : ExpiringCounters) (now : ℚ) (key : String) (seconds : ℤ) : ExpiringCounters :=
  match store.find now key with
  | some counter => store.set key { counter with expires_at := some (now + seconds) }
  | none => store

/-- The value of a key, whether it has expired or not. -/
def value (store : ExpiringCounters) (key : String) : ℕ := (store.get? key).elim 0 ExpiringCounter.value

/-- The key has no counter that has expired. -/
def Unexpired (store : ExpiringCounters) (now : ℚ) (key : String) : Prop := (store.get? key).all fun counter => counter.live now

instance (store : ExpiringCounters) (now : ℚ) (key : String) : Decidable (store.Unexpired now key) :=
  inferInstanceAs (Decidable (_ = true))

variable {store : ExpiringCounters} {now : ℚ} {key key' : String} {seconds : ℤ}

@[simp] theorem value_empty : value .empty key = 0 := rfl

theorem value_set (counter : ExpiringCounter) :
    value (store.set key counter) key' = if key' = key then counter.value else store.value key' := by
  unfold value
  rw [Dict.get?_set]
  split <;> rfl

theorem find_eq_get? (h : store.Unexpired now key) : store.find now key = store.get? key := by
  unfold find
  unfold Unexpired at h
  cases hget : store.get? key with
  | none => rfl
  | some counter =>
    rw [hget] at h
    exact Option.filter_eq_some_iff.mpr ⟨rfl, h⟩

/-- INCR replies with the value that the key has afterwards. -/
theorem incr_snd (store : ExpiringCounters) (now : ℚ) (key : String) :
    (store.incr now key).2 = (store.incr now key).1.value key := by
  unfold incr
  split <;> rw [value_set, if_pos rfl]

theorem incr_pos (store : ExpiringCounters) (now : ℚ) (key : String) : 0 < (store.incr now key).2 := by
  unfold incr
  split
  · exact Nat.succ_pos _
  · exact Nat.one_pos

/-- A counter that has not expired goes up by one. -/
theorem incr_of_unexpired (h : store.Unexpired now key) : (store.incr now key).2 = store.value key + 1 := by
  unfold incr value
  rw [find_eq_get? h]
  cases store.get? key <;> rfl

theorem get?_incr_of_ne (h : key' ≠ key) : (store.incr now key).1.get? key' = store.get? key' := by
  unfold incr
  split <;> exact Dict.get?_set_of_ne _ _ h

theorem get?_expire_of_ne (h : key' ≠ key) : (store.expire now key seconds).get? key' = store.get? key' := by
  unfold expire
  split
  · exact Dict.get?_set_of_ne _ _ h
  · rfl

theorem value_incr_of_ne (h : key' ≠ key) : (store.incr now key).1.value key' = store.value key' := by
  unfold value
  rw [get?_incr_of_ne h]

@[simp] theorem value_expire : (store.expire now key seconds).value key' = store.value key' := by
  unfold expire
  split
  · rename_i counter hfind
    rw [value_set]
    split
    · rename_i heq
      rw [heq, value, (Option.filter_eq_some_iff.mp hfind).1]
      rfl
    · rfl
  · rfl

/-- A command depends on what its key holds only. -/
theorem incr_congr {store' : ExpiringCounters} (now : ℚ) (h : store.get? key = store'.get? key) :
    (store.incr now key).2 = (store'.incr now key).2 ∧
      (store.incr now key).1.get? key = (store'.incr now key).1.get? key := by
  have hfind : store.find now key = store'.find now key := by
    unfold find
    rw [h]
  unfold incr
  rw [hfind]
  split <;> simp only [Dict.get?_set_self, and_self]

theorem expire_congr {store' : ExpiringCounters} (h : store.get? key = store'.get? key) :
    (store.expire now key seconds).get? key = (store'.expire now key seconds).get? key := by
  have hfind : store.find now key = store'.find now key := by
    unfold find
    rw [h]
  unfold expire
  rw [hfind]
  split
  · simp only [Dict.get?_set_self]
  · exact h

/-- INCR sets no expiry, and EXPIRE sets the one it is given. -/
theorem expires_at_incr {counter : ExpiringCounter} {t : ℚ} (h : (store.incr now key).1.get? key' = some counter)
    (ht : counter.expires_at = some t) : ∃ old, store.get? key' = some old ∧ old.expires_at = some t := by
  by_cases hkey : key' = key
  · subst hkey
    unfold incr at h
    split at h
    · rename_i old hfind
      rw [Dict.get?_set_self, Option.some.injEq] at h
      subst h
      exact ⟨old, (Option.filter_eq_some_iff.mp hfind).1, ht⟩
    · rw [Dict.get?_set_self, Option.some.injEq] at h
      subst h
      cases ht
  · rw [get?_incr_of_ne hkey] at h
    exact ⟨counter, h, ht⟩

theorem expires_at_expire {counter : ExpiringCounter} {t : ℚ} (h : (store.expire now key seconds).get? key' = some counter)
    (ht : counter.expires_at = some t) :
    key' = key ∧ t = now + seconds ∨ ∃ old, store.get? key' = some old ∧ old.expires_at = some t := by
  by_cases hkey : key' = key
  · subst hkey
    unfold expire at h
    split at h
    · rw [Dict.get?_set_self, Option.some.injEq] at h
      subst h
      exact .inl ⟨rfl, (Option.some.inj ht).symm⟩
    · exact .inr ⟨counter, h, ht⟩
  · rw [get?_expire_of_ne hkey] at h
    exact .inr ⟨counter, h, ht⟩

end ExpiringCounters
