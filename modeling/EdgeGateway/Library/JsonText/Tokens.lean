import EdgeGateway.Library.JsonText

/-! Strings and numbers as a JSON writer prints them, and that they are read back. -/

namespace JsonText

/-- The letters that stand for characters after a backslash. -/
def shortEscapes : List (Char × Char) :=
  [('"', '"'), ('\\', '\\'), ('\x08', 'b'), ('\x0c', 'f'), ('\n', 'n'), ('\r', 'r'), ('\t', 't')]

def escape (c : Char) : List Char :=
  match shortEscapes.lookup c with
  | some letter => ['\\', letter]
  | none => if c.toNat < 0x20 then '\\' :: 'u' :: PaddedDigits.digits 16 4 c.toNat else [c]

def quote (s : String) : List Char := '"' :: (s.toList.flatMap escape ++ ['"'])

theorem scanEscape_shortEscapes {c letter : Char} (h : shortEscapes.lookup c = some letter) (rest : List Char) :
    scanEscape (letter :: rest) = some (c, rest) := by
  have hall : ∀ pair ∈ shortEscapes, pair.2 ≠ 'u' ∧ escapes.lookup pair.2 = some pair.1 := by decide
  obtain ⟨hne, hlookup⟩ := hall (c, letter) (List.lookup_eq_some_iff.mp h |> fun ⟨l₁, l₂, heq, _⟩ => by rw [heq]; simp)
  simp [scanEscape, hne, hlookup]

theorem scanEscape_control {c : Char} (h : c.toNat < 0x20) (rest : List Char) :
    scanEscape ('u' :: (PaddedDigits.digits 16 4 c.toNat ++ rest)) = some (c, rest) := by
  have hbound : c.toNat < 16 ^ 4 := by omega
  have hscan := PaddedDigits.scan_digits (by decide) (by decide) hbound rest
  have hlow : ¬ (0xd800 ≤ c.toNat ∧ c.toNat < 0xdc00) := by omega
  have hhigh : ¬ (0xdc00 ≤ c.toNat ∧ c.toNat < 0xe000) := by omega
  simp only [scanEscape, if_true, scanUnicode, hscan, Option.bind_eq_bind, Option.bind_some, if_neg hlow, if_neg hhigh,
    Char.ofNat_toNat]

/-- One character of a string. -/
theorem scanString_escape (n : ℕ) (c : Char) (rest : List Char) :
    scanString (n + 1) (escape c ++ rest) = (scanString n rest).map fun (text, rest) => (c :: text, rest) := by
  unfold escape
  split
  · rename_i letter hletter
    have hquote : ('\\' : Char) ≠ '"' := by decide
    simp only [List.cons_append, List.nil_append, scanString, if_neg hquote, if_true,
      scanEscape_shortEscapes hletter, Option.bind_eq_bind, Option.bind_some]
    cases scanString n rest <;> rfl
  · rename_i hnone
    split
    · rename_i hcontrol
      have hquote : ('\\' : Char) ≠ '"' := by decide
      simp only [List.cons_append, scanString, if_neg hquote, if_true, scanEscape_control hcontrol,
        Option.bind_eq_bind, Option.bind_some]
      cases scanString n rest <;> rfl
    · rename_i hplain
      have hquote : c ≠ '"' := by
        rintro rfl
        exact absurd hnone (by decide)
      have hslash : c ≠ '\\' := by
        rintro rfl
        exact absurd hnone (by decide)
      simp only [List.cons_append, List.nil_append, scanString, if_neg hquote, if_neg hslash, if_neg hplain,
        Option.bind_eq_bind]
      cases scanString n rest <;> rfl

section Escapes

variable {esc : Char → List Char}
  (hesc : ∀ n c rest, scanString (n + 1) (esc c ++ rest) = (scanString n rest).map fun (text, rest) => (c :: text, rest))
include hesc

/-- What is read as a character is not empty. -/
theorem length_le_flatMap (s : List Char) : s.length ≤ (s.flatMap esc).length := by
  induction s with
  | nil => simp
  | cons c s ih =>
    have hpos : 0 < (esc c).length := by
      apply List.length_pos_of_ne_nil
      intro hnil
      have hquote := hesc 0 c ['"']
      rw [hnil] at hquote
      simp [scanString] at hquote
    simp only [List.flatMap_cons, List.length_append, List.length_cons]
    omega

/-- A string is read back. -/
theorem scanString_flatMap {n : ℕ} {s rest : List Char} (hn : (s.flatMap esc ++ '"' :: rest).length ≤ n) :
    scanString n (s.flatMap esc ++ '"' :: rest) = some (s, rest) := by
  have hlength := length_le_flatMap hesc s
  obtain ⟨m, rfl⟩ : ∃ m, n = s.length + 1 + m := by
    simp only [List.length_append, List.length_cons] at hn
    exact ⟨n - (s.length + 1), by omega⟩
  clear hn hlength
  induction s with
  | nil => simp [scanString, Nat.add_comm]
  | cons c s ih =>
    have hfuel : (c :: s).length + 1 + m = s.length + 1 + m + 1 := by
      rw [List.length_cons]
      omega
    rw [List.flatMap_cons, List.append_assoc, hfuel, hesc, ih]
    rfl

end Escapes

/-- A JSON number, in the parts that it is printed in. -/
structure Number where
  sign : List Char
  whole : List Char
  fraction : List Char
  exponent : List Char
  sign_ok : sign = [] ∨ sign = ['-']
  whole_ne : whole ≠ []
  whole_digits : ∀ c ∈ whole, c.isDigit
  whole_zero : whole.head? = some '0' → whole = ['0']
  fraction_ok : fraction = [] ∨ ∃ digits, digits ≠ [] ∧ (∀ c ∈ digits, c.isDigit) ∧ fraction = '.' :: digits
  exponent_ok : exponent = [] ∨
    ∃ sign digits, (sign = [] ∨ sign = ['-']) ∧ digits ≠ [] ∧ (∀ c ∈ digits, c.isDigit) ∧ exponent = 'e' :: (sign ++ digits)

namespace Number

def text (number : Number) : List Char := number.sign ++ number.whole ++ number.fraction ++ number.exponent

def value (number : Number) : Option JsonValue :=
  numberValue number.sign number.whole number.fraction number.exponent

end Number

/-- The text ends, or the list or dict around it goes on or ends. -/
def Delimited (rest : List Char) : Prop := ∀ c, rest.head? = some c → c = ',' ∨ c = ']' ∨ c = '\x7d'

section Digits

variable {digits rest : List Char} (hdigits : ∀ c ∈ digits, c.isDigit)
include hdigits

theorem takeWhile_digits (hrest : ∀ c, rest.head? = some c → ¬ c.isDigit) :
    (digits ++ rest).takeWhile Char.isDigit = digits := by
  rw [List.takeWhile_append_of_pos hdigits]
  cases rest with
  | nil => simp
  | cons c rest =>
    have hc := hrest c rfl
    simp [hc]

theorem head_ne_of_digits {c : Char} (hc : ¬ c.isDigit) : digits.head? ≠ some c := by
  intro hhead
  exact hc (hdigits c (List.mem_of_mem_head? hhead))

end Digits

namespace Delimited

variable {rest : List Char} (h : Delimited rest)
include h

theorem head_ne {c : Char} (hc : c ≠ ',' ∧ c ≠ ']' ∧ c ≠ '\x7d') : rest.head? ≠ some c := by
  intro hhead
  obtain rfl | rfl | rfl := h c hhead
  · exact hc.1 rfl
  · exact hc.2.1 rfl
  · exact hc.2.2 rfl

theorem not_isDigit : ∀ c, rest.head? = some c → ¬ c.isDigit := by
  intro c hhead
  obtain rfl | rfl | rfl := h c hhead <;> decide

end Delimited

namespace Number

variable {rest : List Char}

theorem scanExponent_text (number : Number) (h : Delimited rest) :
    scanExponent (number.exponent ++ rest) = number.exponent := by
  obtain hnil | ⟨sign, digits, hsign, hne, hdigits, heq⟩ := number.exponent_ok
  · have he : rest.take 1 ≠ ['e'] ∧ rest.take 1 ≠ ['E'] := by
      cases rest with
      | nil => simp
      | cons c rest =>
        have hlow : c ≠ 'e' := by simpa using h.head_ne (c := 'e') (by decide)
        have hhigh : c ≠ 'E' := by simpa using h.head_ne (c := 'E') (by decide)
        simp [hlow, hhigh]
    simp [scanExponent, hnil, he]
  · have htake := takeWhile_digits hdigits h.not_isDigit
    obtain rfl | rfl := hsign
    · have hplus : digits.head? ≠ some '+' := head_ne_of_digits hdigits (by decide)
      have hminus : digits.head? ≠ some '-' := head_ne_of_digits hdigits (by decide)
      have hhead : (digits ++ rest).head? = digits.head? := List.head?_append_of_ne_nil _ hne
      simp [scanExponent, heq, hhead, hplus, hminus, htake, hne]
    · simp [scanExponent, heq, htake, hne]

/-- What follows the digits of a number is neither one of them nor a point. -/
theorem exponent_head (number : Number) (h : Delimited rest) {c : Char} (hhead : (number.exponent ++ rest).head? = some c) :
    ¬ c.isDigit ∧ c ≠ '.' := by
  obtain hnil | ⟨sign, digits, _, _, _, heq⟩ := number.exponent_ok
  · rw [hnil, List.nil_append] at hhead
    obtain rfl | rfl | rfl := h c hhead <;> decide
  · rw [heq] at hhead
    cases hhead
    decide

theorem scanFraction_text (number : Number) (h : Delimited rest) :
    scanFraction (number.fraction ++ (number.exponent ++ rest)) = number.fraction := by
  obtain hnil | ⟨digits, hne, hdigits, heq⟩ := number.fraction_ok
  · have hpoint : (number.exponent ++ rest).head? ≠ some '.' := fun hhead => (number.exponent_head h hhead).2 rfl
    simp only [scanFraction, hnil, List.nil_append, hpoint, decide_false, Bool.false_and, Bool.false_eq_true, if_false]
  · have htake := takeWhile_digits hdigits fun c hhead => (number.exponent_head h hhead).1
    simp [scanFraction, heq, htake, hne]

/-- What follows the whole part of a number is no digit. -/
theorem fraction_head (number : Number) (h : Delimited rest) :
    ∀ c, (number.fraction ++ (number.exponent ++ rest)).head? = some c → ¬ c.isDigit := by
  intro c hhead
  obtain hnil | ⟨digits, _, _, heq⟩ := number.fraction_ok
  · rw [hnil, List.nil_append] at hhead
    exact (number.exponent_head h hhead).1
  · rw [heq] at hhead
    cases hhead
    decide

/-- A number is read back. -/
theorem scanNumber_text (number : Number) (h : Delimited rest) :
    scanNumber (number.text ++ rest) = number.value.map fun value => (value, rest) := by
  obtain ⟨first, tail, hwhole⟩ := List.exists_cons_of_ne_nil number.whole_ne
  have hfirst : first.isDigit := number.whole_digits first (by rw [hwhole]; exact List.mem_cons_self)
  have hminus : first ≠ '-' := by
    rintro rfl
    exact absurd hfirst (by decide)
  let after := number.fraction ++ (number.exponent ++ rest)
  have htext : number.text ++ rest = number.sign ++ (number.whole ++ after) := by simp [text, after]
  -- the sign, then the whole part, then the rest are taken off one after the other
  have hsign : (if (number.text ++ rest).head? = some '-' then ['-'] else []) = number.sign := by
    rw [htext]
    obtain hsign | hsign := number.sign_ok
    · simp [hsign, hwhole, hminus]
    · simp [hsign]
  have hdrop : (number.text ++ rest).drop number.sign.length = number.whole ++ after := by
    rw [htext, List.drop_left]
  have hscan : (if (number.whole ++ after).head? = some '0' then ['0'] else (number.whole ++ after).takeWhile Char.isDigit) =
      number.whole := by
    rw [takeWhile_digits number.whole_digits (number.fraction_head h), List.head?_append_of_ne_nil _ number.whole_ne]
    split
    · rename_i hzero
      exact (number.whole_zero hzero).symm
    · rfl
  simp only [scanNumber, hsign, hdrop, hscan, List.drop_left, if_neg number.whole_ne, after,
    number.scanFraction_text h, number.scanExponent_text h, value]

/-- The decimal text of a number has no zero in front. -/
theorem toDigits_zero_head (n : ℕ) (h : (Nat.toDigits 10 n).head? = some '0') : Nat.toDigits 10 n = ['0'] := by
  induction n using Nat.strongRecOn with
  | ind n ih =>
    by_cases hn : n < 10
    · rw [Nat.toDigits_of_lt_base hn] at h ⊢
      simpa using h
    · have hsplit := Nat.toDigits_of_base_le (b := 10) (by decide) (Nat.le_of_not_lt hn)
      rw [hsplit, List.head?_append_of_ne_nil _ Nat.toDigits_ne_nil] at h
      have hzero := ih (n / 10) (by omega) h
      have hvalue := Nat.ofDigitChars_ten_toDigits (n := n / 10)
      rw [hzero] at hvalue
      have : n / 10 = 0 := hvalue.symm
      omega

/-- The decimal text of an integer. -/
def ofInt (n : ℤ) : Number where
  sign := if n < 0 then ['-'] else []
  whole := Nat.toDigits 10 n.natAbs
  fraction := []
  exponent := []
  sign_ok := by split <;> simp
  whole_ne := Nat.toDigits_ne_nil
  whole_digits _ hc := Nat.isDigit_of_mem_toDigits (by decide) (by decide) hc
  whole_zero := toDigits_zero_head n.natAbs
  fraction_ok := .inl rfl
  exponent_ok := .inl rfl

theorem value_ofInt (n : ℤ) : (ofInt n).value =
    if (Nat.toDigits 10 n.natAbs).length ≤ maxDigits then some (.int n) else none := by
  have hvalue : (Nat.ofDigitChars 10 (Nat.toDigits 10 n.natAbs) 0 : ℕ) = n.natAbs := Nat.ofDigitChars_ten_toDigits
  simp only [value, numberValue, ofInt, List.append_nil, if_true, hvalue]
  by_cases hn : n < 0
  · have habs : -(n.natAbs : ℤ) = n := by omega
    simp only [if_pos hn, List.cons_ne_nil, if_false, habs]
  · have habs : (n.natAbs : ℤ) = n := by omega
    simp only [if_neg hn, if_true, habs]

end Number

end JsonText
