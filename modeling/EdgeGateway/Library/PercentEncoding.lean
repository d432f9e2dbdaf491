import Mathlib.Data.List.Basic
import Mathlib.Tactic.Common

/-! Percent-encoding, and splitting a text at the first place of a separator. -/

namespace PercentEncoding

/-- A digit in base sixteen, in upper case. -/
def hex_digit (n : ℕ) : Char := (Nat.digitChar n).toUpper

def escape (byte : UInt8) : List Char := ['%', hex_digit (byte.toNat / 16), hex_digit (byte.toNat % 16)]

/-- A character as it is if it is safe, and otherwise the bytes of its UTF-8. -/
def quote_char (safe : Char → Bool) (c : Char) : List Char :=
  if safe c then [c] else (String.utf8EncodeChar c).flatMap escape

/-- `quote(text)`. -/
def quote (safe : Char → Bool) (text : List Char) : List Char := text.flatMap (quote_char safe)

/-- `text.split(separator, 1)`, where the separator is in the text. -/
def split_once (separator : List Char) : List Char → Option (List Char × List Char)
  | [] => none
  | c :: rest =>
    if separator.isPrefixOf (c :: rest) then some ([], (c :: rest).drop separator.length)
    else (split_once separator rest).map fun (before, after) => (c :: before, after)

section Quote

variable {safe : Char → Bool} {text : List Char} {c : Char}

theorem hex_digit_isAlphanum {n : ℕ} (h : n < 16) : (hex_digit n).isAlphanum = true := by
  have hall : ∀ n < 16, (hex_digit n).isAlphanum = true := by decide
  exact hall n h

theorem escape_alphanum {byte : UInt8} (h : c ∈ escape byte) : c = '%' ∨ c.isAlphanum = true := by
  have hbyte : byte.toNat < 256 := byte.toNat_lt
  simp only [escape, List.mem_cons, List.not_mem_nil, or_false] at h
  obtain rfl | rfl | rfl := h
  · exact .inl rfl
  · exact .inr (hex_digit_isAlphanum (by omega))
  · exact .inr (hex_digit_isAlphanum (by omega))

/-- No character stands in an encoded text that is neither safe nor part of an escape. -/
theorem not_mem_quote (hsafe : safe c = false) (hpercent : c ≠ '%') (halphanum : c.isAlphanum = false) :
    c ∉ quote safe text := by
  intro hmem
  obtain ⟨d, _, hd⟩ := List.mem_flatMap.mp hmem
  unfold quote_char at hd
  split at hd
  · rename_i hsafe'
    rw [List.mem_singleton.mp hd, hsafe'] at hsafe
    cases hsafe
  · obtain ⟨byte, _, hbyte⟩ := List.mem_flatMap.mp hd
    obtain hc | hc := escape_alphanum hbyte
    · exact hpercent hc
    · rw [hc] at halphanum
      cases halphanum

theorem three_le_length_escaped (c : Char) : 3 ≤ ((String.utf8EncodeChar c).flatMap escape).length := by
  have hpos : 0 < (String.utf8EncodeChar c).length := by
    rw [String.length_utf8EncodeChar]
    exact c.utf8Size_pos
  cases hbytes : String.utf8EncodeChar c with
  | nil =>
    rw [hbytes] at hpos
    cases hpos
  | cons byte rest =>
    rw [List.flatMap_cons, List.length_append]
    exact Nat.le_add_right 3 _

theorem one_le_length_quote_char (safe : Char → Bool) (c : Char) : 1 ≤ (quote_char safe c).length := by
  unfold quote_char
  split
  · exact Nat.le_refl 1
  · exact Nat.le_trans (by decide) (three_le_length_escaped c)

theorem length_le_length_quote (safe : Char → Bool) (text : List Char) : text.length ≤ (quote safe text).length := by
  induction text with
  | nil => exact Nat.le_refl 0
  | cons c rest ih =>
    have hc := one_le_length_quote_char safe c
    simp only [quote, List.flatMap_cons, List.length_append, List.length_cons] at ih ⊢
    omega

/-- A text is encoded as itself exactly if it has only safe characters. -/
theorem quote_eq_self_iff : quote safe text = text ↔ ∀ c ∈ text, safe c = true := by
  induction text with
  | nil => exact iff_of_true rfl (List.forall_mem_nil _)
  | cons c rest ih =>
    rw [List.forall_mem_cons, ← ih]
    change quote_char safe c ++ quote safe rest = c :: rest ↔ _
    cases hsafe : safe c with
    | true =>
      rw [quote_char, if_pos hsafe, List.singleton_append, List.cons_inj_right]
      exact (and_iff_right rfl).symm
    | false =>
      refine iff_of_false (fun heq => ?_) fun h => Bool.false_ne_true h.1
      -- An escape is longer than what it stands for.
      have hlength := congrArg List.length heq
      have hescaped := three_le_length_escaped c
      have hrest := length_le_length_quote safe rest
      rw [quote_char, if_neg (by rw [hsafe]; exact Bool.false_ne_true), List.length_append, List.length_cons] at hlength
      omega

end Quote

/-- A separator is found where it comes after a text without its first character. -/
theorem split_once_append {d : Char} {separator before : List Char} (h : d ∉ before) (after : List Char) :
    split_once (d :: separator) (before ++ d :: (separator ++ after)) = some (before, after) := by
  induction before with
  | nil =>
    have hprefix : (d :: separator).isPrefixOf (d :: (separator ++ after)) = true := by
      rw [List.isPrefixOf_iff_prefix]
      exact List.prefix_append (d :: separator) after
    rw [List.nil_append, split_once, if_pos hprefix]
    simp
  | cons c rest ih =>
    simp only [List.mem_cons, not_or] at h
    have hprefix : ¬ (d :: separator).isPrefixOf (c :: (rest ++ d :: (separator ++ after))) = true := by
      rw [List.isPrefixOf_iff_prefix, List.cons_prefix_cons]
      exact fun hboth => h.1 hboth.1
    rw [List.cons_append, split_once, if_neg hprefix, ih h.2]
    rfl

end PercentEncoding
