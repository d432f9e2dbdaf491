import EdgeGateway.Library.JsonText.ReadBack

/-! The text that Python's `json.dumps` has for a dict of strings, and that `json.loads`
reads it back. -/

namespace JsonText

/-- `\uXXXX`. -/
def escapeUnit (unit : ℕ) : List Char := '\\' :: 'u' :: PaddedDigits.digits 16 4 unit

/-- A character under `ensure_ascii`: one beyond the Basic Multilingual Plane is printed
as a surrogate pair. -/
def escapeAscii (c : Char) : List Char :=
  match shortEscapes.lookup c with
  | some letter => ['\\', letter]
  | none =>
    if 0x20 ≤ c.toNat ∧ c.toNat ≤ 0x7e then [c]
    else if c.toNat < 0x10000 then escapeUnit c.toNat
    else escapeUnit (0xd800 + (c.toNat - 0x10000) / 0x400) ++ escapeUnit (0xdc00 + (c.toNat - 0x10000) % 0x400)

def quoteAscii (s : String) : List Char := '"' :: (s.toList.flatMap escapeAscii ++ ['"'])

def dumpsItems : List (String × String) → List Char
  | [] => []
  | (key, value) :: items =>
    quoteAscii key ++ ':' :: ' ' :: (quoteAscii value ++ if items.isEmpty then [] else ',' :: ' ' :: dumpsItems items)

/-- `json.dumps` of a dict with these items. -/
def dumps (items : List (String × String)) : String := String.ofList ('\x7b' :: (dumpsItems items ++ ['\x7d']))

theorem toNat_valid (c : Char) : c.toNat < 0xd800 ∨ 0xe000 ≤ c.toNat ∧ c.toNat < 0x110000 := by
  have hvalid := c.valid
  simp only [UInt32.isValidChar, Nat.isValidChar] at hvalid
  change c.toNat < 0xd800 ∨ 0xdfff < c.toNat ∧ c.toNat < 0x110000 at hvalid
  omega

/-- A code unit that is no surrogate is a character. -/
theorem scanUnicode_unit {c : Char} (h : c.toNat < 0x10000) (rest : List Char) :
    scanUnicode (PaddedDigits.digits 16 4 c.toNat ++ rest) = some (c, rest) := by
  have hbound : c.toNat < 16 ^ 4 := h
  have hscan := PaddedDigits.scan_digits (by decide) (by decide) hbound rest
  have hvalid := toNat_valid c
  have hhigh : ¬ (0xd800 ≤ c.toNat ∧ c.toNat < 0xdc00) := by omega
  have hlow : ¬ (0xdc00 ≤ c.toNat ∧ c.toNat < 0xe000) := by omega
  simp only [scanUnicode, hscan, Option.bind_eq_bind, Option.bind_some, if_neg hhigh, if_neg hlow, Char.ofNat_toNat]

/-- The two units of a surrogate pair are one character. -/
theorem scanUnicode_pair (high low : ℕ) (hhigh : 0xd800 ≤ high ∧ high < 0xdc00) (hlow : 0xdc00 ≤ low ∧ low < 0xe000)
    (rest : List Char) :
    scanUnicode (PaddedDigits.digits 16 4 high ++ (escapeUnit low ++ rest)) =
      some (Char.ofNat (0x10000 + (high - 0xd800) * 0x400 + (low - 0xdc00)), rest) := by
  have hhigh_bound : high < 16 ^ 4 := by omega
  have hlow_bound : low < 16 ^ 4 := by omega
  have hscan_high := PaddedDigits.scan_digits (by decide) (by decide) hhigh_bound (escapeUnit low ++ rest)
  have hscan_low := PaddedDigits.scan_digits (by decide) (by decide) hlow_bound rest
  have htake : (escapeUnit low ++ rest).take 2 = ['\\', 'u'] := rfl
  have hdrop : (escapeUnit low ++ rest).drop 2 = PaddedDigits.digits 16 4 low ++ rest := rfl
  simp only [scanUnicode, hscan_high, Option.bind_eq_bind, Option.bind_some, if_pos hhigh, htake, if_true, hdrop,
    hscan_low, if_pos hlow]

/-- One character of a string. -/
theorem scanString_escapeAscii (n : ℕ) (c : Char) (rest : List Char) :
    scanString (n + 1) (escapeAscii c ++ rest) = (scanString n rest).map fun (text, rest) => (c :: text, rest) := by
  have hquote : ('\\' : Char) ≠ '"' := by decide
  have hescaped : ∀ text : List Char, scanEscape text = some (c, rest) →
      scanString (n + 1) ('\\' :: text) = (scanString n rest).map fun (text, rest) => (c :: text, rest) := by
    intro text htext
    simp only [scanString, if_neg hquote, if_true, htext, Option.bind_eq_bind, Option.bind_some]
    cases scanString n rest <;> rfl
  unfold escapeAscii
  split
  · rename_i letter hletter
    exact hescaped _ (scanEscape_shortEscapes hletter rest)
  · rename_i hnone
    split
    · rename_i hprintable
      have hplain := scanString_escape n c rest
      have hcontrol : ¬ c.toNat < 0x20 := by omega
      rwa [escape, hnone, if_neg hcontrol] at hplain
    · split
      · rename_i hbasic
        exact hescaped _ (scanUnicode_unit hbasic rest)
      · rename_i hbeyond
        have hvalid := toNat_valid c
        have hhigh : (c.toNat - 0x10000) / 0x400 < 0x400 := by omega
        have hlow : (c.toNat - 0x10000) % 0x400 < 0x400 := Nat.mod_lt _ (by decide)
        have hpair := scanUnicode_pair (0xd800 + (c.toNat - 0x10000) / 0x400) (0xdc00 + (c.toNat - 0x10000) % 0x400)
          (by omega) (by omega) rest
        have hvalue : 0x10000 + (0xd800 + (c.toNat - 0x10000) / 0x400 - 0xd800) * 0x400 +
            (0xdc00 + (c.toNat - 0x10000) % 0x400 - 0xdc00) = c.toNat := by omega
        rw [hvalue, Char.ofNat_toNat] at hpair
        rw [List.append_assoc]
        exact hescaped _ hpair

theorem quoteAscii_append (s : String) (rest : List Char) :
    quoteAscii s ++ rest = '"' :: (s.toList.flatMap escapeAscii ++ '"' :: rest) := by
  simp [quoteAscii]

theorem scanValue_quoteAscii (n : ℕ) (s : String) (rest : List Char) :
    scanValue (n + 1) (quoteAscii s ++ rest) = some (.str s, rest) := by
  have hscan : scanString ((s.toList.flatMap escapeAscii ++ '"' :: rest).length + 1)
      (s.toList.flatMap escapeAscii ++ '"' :: rest) = some (s.toList, rest) :=
    scanString_flatMap scanString_escapeAscii (Nat.le_succ _)
  rw [quoteAscii_append, scanValue, if_pos rfl, hscan]
  simp

theorem skip_space_quoteAscii (s : String) (rest : List Char) : skip (' ' :: (quoteAscii s ++ rest)) = quoteAscii s ++ rest := by
  have hspace : isWhitespace ' ' = true := by decide
  rw [skip, List.dropWhile_cons_of_pos hspace, quoteAscii_append]
  exact skip_cons (by decide) _

/-- One item of a dict of strings. -/
theorem scanPairs_quoteAscii (n : ℕ) (key value : String) (text : List Char) :
    scanPairs (n + 2) (quoteAscii key ++ ':' :: ' ' :: (quoteAscii value ++ text)) =
      if (skip text).head? = some '\x7d' then some ([(key, .str value)], (skip text).tail)
      else if (skip text).head? = some ',' then
        (scanPairs (n + 1) (skip (skip text).tail)).map fun (pairs, rest) => ((key, .str value) :: pairs, rest)
      else none := by
  let rest := ':' :: ' ' :: (quoteAscii value ++ text)
  have hhead : (quoteAscii key ++ rest).head? = some '"' := by rw [quoteAscii_append, List.head?_cons]
  have htail : (quoteAscii key ++ rest).tail = key.toList.flatMap escapeAscii ++ '"' :: rest := by
    rw [quoteAscii_append, List.tail_cons]
  have hlength : (key.toList.flatMap escapeAscii ++ '"' :: rest).length ≤ (quoteAscii key ++ rest).length + 1 := by
    rw [← htail, List.length_tail]
    omega
  have hscan := scanString_flatMap scanString_escapeAscii hlength
  have hcolon : skip rest = rest := skip_cons (by decide) _
  rw [scanPairs, hhead, if_pos rfl, htail, hscan]
  simp only [Option.bind_eq_bind, Option.bind_some, hcolon, rest, List.head?_cons, if_true, List.tail_cons,
    skip_space_quoteAscii, scanValue_quoteAscii, String.ofList_toList]
  cases scanPairs (n + 1) (skip (skip text).tail) <;> rfl

/-- The items of a dict of strings are read back. -/
theorem scanPairs_dumpsItems {items : List (String × String)} (hne : items ≠ []) {n : ℕ} (hn : items.length < n)
    (rest : List Char) :
    scanPairs n (dumpsItems items ++ '\x7d' :: rest) = some (items.map fun item => (item.1, .str item.2), rest) := by
  induction items generalizing n with
  | nil => exact absurd rfl hne
  | cons item items ih =>
    obtain ⟨key, value⟩ := item
    rw [List.length_cons] at hn
    obtain ⟨n, rfl⟩ : ∃ m, n = m + 2 := ⟨n - 2, by omega⟩
    cases items with
    | nil =>
      have hskip : skip ('\x7d' :: rest) = '\x7d' :: rest := skip_cons (by decide) _
      simp [dumpsItems, scanPairs_quoteAscii, hskip]
    | cons next items =>
      have htext : dumpsItems ((key, value) :: next :: items) ++ '\x7d' :: rest =
          quoteAscii key ++ ':' :: ' ' ::
            (quoteAscii value ++ ',' :: ' ' :: (dumpsItems (next :: items) ++ '\x7d' :: rest)) := by
        simp [dumpsItems]
      have hcomma : skip (',' :: ' ' :: (dumpsItems (next :: items) ++ '\x7d' :: rest)) =
          ',' :: ' ' :: (dumpsItems (next :: items) ++ '\x7d' :: rest) := skip_cons (by decide) _
      have hspace : skip (' ' :: (dumpsItems (next :: items) ++ '\x7d' :: rest)) =
          dumpsItems (next :: items) ++ '\x7d' :: rest := by
        rw [dumpsItems, List.append_assoc, skip_space_quoteAscii]
      have hne : ',' ≠ '\x7d' := by decide
      have hrest := ih (List.cons_ne_nil next items) (n := n + 1) (by omega)
      rw [htext, scanPairs_quoteAscii, hcomma, List.head?_cons, List.tail_cons, if_neg (by simp), if_pos rfl, hspace, hrest]
      rfl

theorem length_le_dumpsItems (items : List (String × String)) : items.length ≤ (dumpsItems items).length := by
  induction items with
  | nil => exact Nat.zero_le _
  | cons item items ih =>
    obtain ⟨key, value⟩ := item
    cases items with
    | nil => simp [dumpsItems, quoteAscii]
    | cons next items =>
      simp only [List.length_cons, dumpsItems, quoteAscii, List.isEmpty_cons, Bool.false_eq_true, if_false,
        List.length_append] at ih ⊢
      omega

/-- A dict of strings is read back. -/
theorem loads_dumps {items : List (String × String)} (hne : items ≠ []) (hnodup : (items.map Prod.fst).Nodup) :
    loads (dumps items) = some (.dict (items.map fun item => (item.1, .str item.2))) := by
  have hkeys : ((items.map fun item => (item.1, JsonValue.str item.2)).map Prod.fst).Nodup := by
    rw [List.map_map]
    exact hnodup
  obtain ⟨tail, hquote⟩ : ∃ tail, dumpsItems items ++ ['\x7d'] = '"' :: tail := by
    cases items with
    | nil => exact absurd rfl hne
    | cons item items => exact ⟨_, by rw [dumpsItems, List.append_assoc, quoteAscii_append]⟩
  have hskip : skip (dumpsItems items ++ ['\x7d']) = dumpsItems items ++ ['\x7d'] := by
    rw [hquote]
    exact skip_cons (by decide) tail
  have hhead : (dumpsItems items ++ ['\x7d']).head? ≠ some '\x7d' := by
    rw [hquote]
    simp
  have hlength : items.length < ('\x7d' :: (dumpsItems items ++ ['\x7d'])).length := by
    have hitems := length_le_dumpsItems items
    simp only [List.length_cons, List.length_append]
    omega
  have hbrace : skip ('\x7b' :: (dumpsItems items ++ ['\x7d'])) = '\x7b' :: (dumpsItems items ++ ['\x7d']) :=
    skip_cons (by decide) _
  rw [loads, dumps, String.toList_ofList, hbrace, scanValue_brace hskip hhead]
  have hscan := scanPairs_dumpsItems hne hlength []
  rw [List.length_cons] at hscan ⊢
  simp only [hscan, Option.map_some, ofPairs_of_nodup hkeys]
  rfl

/-! Dicts whose values are strings or lists of strings. -/

/-- The items of a list of strings. -/
def dumpsStringItems : List String → List Char
  | [] => []
  | item :: items => quoteAscii item ++ if items.isEmpty then [] else ',' :: ' ' :: dumpsStringItems items

/-- `json.dumps` of a list of strings. -/
def dumpsStrings (items : List String) : List Char := '[' :: (dumpsStringItems items ++ [']'])

theorem skip_quoteAscii (s : String) (rest : List Char) : skip (quoteAscii s ++ rest) = quoteAscii s ++ rest := by
  rw [quoteAscii_append]
  exact skip_cons (by decide) _

theorem dumpsStringItems_cons (item next : String) (items : List String) (rest : List Char) :
    dumpsStringItems (item :: next :: items) ++ rest =
      quoteAscii item ++ ',' :: ' ' :: (dumpsStringItems (next :: items) ++ rest) := by
  simp [dumpsStringItems]

/-- The items of a list of strings are read back. -/
theorem scanItems_dumpsStringItems {items : List String} (hne : items ≠ []) {n : ℕ} (hn : items.length < n)
    (rest : List Char) : scanItems n (dumpsStringItems items ++ ']' :: rest) = some (items.map .str, rest) := by
  induction items generalizing n with
  | nil => exact absurd rfl hne
  | cons item items ih =>
    rw [List.length_cons] at hn
    obtain ⟨n, rfl⟩ : ∃ m, n = m + 2 := ⟨n - 2, by omega⟩
    cases items with
    | nil =>
      have hskip : skip (']' :: rest) = ']' :: rest := skip_cons (by decide) _
      rw [dumpsStringItems, List.isEmpty_nil, if_pos rfl, List.append_nil, scanItems, scanValue_quoteAscii]
      simp [hskip]
    | cons next items =>
      have hcomma : skip (',' :: ' ' :: (dumpsStringItems (next :: items) ++ ']' :: rest)) =
          ',' :: ' ' :: (dumpsStringItems (next :: items) ++ ']' :: rest) := skip_cons (by decide) _
      have hspace : skip (' ' :: (dumpsStringItems (next :: items) ++ ']' :: rest)) =
          dumpsStringItems (next :: items) ++ ']' :: rest := by
        rw [dumpsStringItems, List.append_assoc, skip_space_quoteAscii]
      have hrest : scanItems (n + 1) (dumpsStringItems (next :: items) ++ ']' :: rest) =
          some ((next :: items).map .str, rest) := ih (List.cons_ne_nil next items) (by omega)
      rw [dumpsStringItems_cons, scanItems, scanValue_quoteAscii]
      simp only [Option.bind_eq_bind, Option.bind_some, hcomma, List.head?_cons, List.tail_cons, hspace, hrest]
      simp

/-- A list of strings is read back. -/
theorem scanValue_dumpsStrings {items : List String} {n : ℕ} (hn : items.length < n) (rest : List Char) :
    scanValue (n + 1) (dumpsStrings items ++ rest) = some (.list (items.map .str), rest) := by
  cases items with
  | nil =>
    have hne : ('[' : Char) ≠ '"' := by decide
    have hskip : skip (']' :: rest) = ']' :: rest := skip_cons (by decide) _
    change scanValue (n + 1) ('[' :: ']' :: rest) = _
    rw [scanValue, if_neg hne, if_pos rfl, hskip, List.head?_cons, if_pos rfl]
    rfl
  | cons item items =>
    have htext : dumpsStrings (item :: items) ++ rest = '[' :: (dumpsStringItems (item :: items) ++ ']' :: rest) := by
      simp [dumpsStrings]
    have hskip : skip (dumpsStringItems (item :: items) ++ ']' :: rest) = dumpsStringItems (item :: items) ++ ']' :: rest := by
      rw [dumpsStringItems, List.append_assoc, skip_quoteAscii]
    have hhead : (dumpsStringItems (item :: items) ++ ']' :: rest).head? ≠ some ']' := by
      rw [dumpsStringItems, List.append_assoc, quoteAscii_append, List.head?_cons]
      decide
    rw [htext, scanValue_bracket hskip hhead, scanItems_dumpsStringItems (List.cons_ne_nil item items) hn]
    rfl

theorem length_le_dumpsStringItems (items : List String) : items.length ≤ (dumpsStringItems items).length := by
  induction items with
  | nil => exact Nat.zero_le _
  | cons item items ih =>
    cases items with
    | nil => simp [dumpsStringItems, quoteAscii]
    | cons next items =>
      simp only [List.length_cons, dumpsStringItems, quoteAscii, List.isEmpty_cons, Bool.false_eq_true, if_false,
        List.length_append] at ih ⊢
      omega

theorem loads_dumpsStrings (items : List String) : loads (String.ofList (dumpsStrings items)) = some (.list (items.map .str)) := by
  have hskip : skip (dumpsStrings items) = dumpsStrings items := skip_cons (by decide) _
  have hlength : items.length < (dumpsStrings items).length := by
    have hitems := length_le_dumpsStringItems items
    simp only [dumpsStrings, List.length_cons, List.length_append]
    omega
  have hscan := scanValue_dumpsStrings hlength []
  rw [List.append_nil] at hscan
  rw [loads, String.toList_ofList, hskip, hscan]
  rfl

/-- A value of a record. -/
inductive TextField where
  | str (s : String)
  | strs (items : List String)

namespace TextField

def value : TextField → JsonValue
  | str s => .str s
  | strs items => .list (items.map .str)

def text : TextField → List Char
  | str s => quoteAscii s
  | strs items => dumpsStrings items

/-- A bound of the nesting. -/
def size : TextField → ℕ
  | str _ => 0
  | strs items => items.length + 1

theorem scanValue_text (field : TextField) {n : ℕ} (hn : field.size < n) (rest : List Char) :
    scanValue n (field.text ++ rest) = some (field.value, rest) := by
  obtain ⟨n, rfl⟩ : ∃ m, n = m + 1 := ⟨n - 1, by omega⟩
  cases field with
  | str s => exact scanValue_quoteAscii n s rest
  | strs items => exact scanValue_dumpsStrings (Nat.lt_of_succ_lt_succ hn) rest

theorem skip_space_text (field : TextField) (rest : List Char) : skip (' ' :: (field.text ++ rest)) = field.text ++ rest := by
  cases field with
  | str s => exact skip_space_quoteAscii s rest
  | strs items =>
    have hspace : isWhitespace ' ' = true := by decide
    rw [skip, List.dropWhile_cons_of_pos hspace]
    exact skip_cons (by decide) _

theorem size_le_text (field : TextField) : field.size ≤ field.text.length := by
  cases field with
  | str s => exact Nat.zero_le _
  | strs items =>
    have hitems := length_le_dumpsStringItems items
    simp only [size, text, dumpsStrings, List.length_cons, List.length_append]
    omega

end TextField

def dumpsFields : List (String × TextField) → List Char
  | [] => []
  | (key, field) :: items =>
    quoteAscii key ++ ':' :: ' ' :: (field.text ++ if items.isEmpty then [] else ',' :: ' ' :: dumpsFields items)

/-- `json.dumps` of a record with these items. -/
def dumpsRecord (items : List (String × TextField)) : String := String.ofList ('\x7b' :: (dumpsFields items ++ ['\x7d']))

/-- One item of a record. -/
theorem scanPairs_field {n : ℕ} (key : String) {field : TextField} (hn : field.size < n + 1) (text : List Char) :
    scanPairs (n + 2) (quoteAscii key ++ ':' :: ' ' :: (field.text ++ text)) =
      if (skip text).head? = some '\x7d' then some ([(key, field.value)], (skip text).tail)
      else if (skip text).head? = some ',' then
        (scanPairs (n + 1) (skip (skip text).tail)).map fun (pairs, rest) => ((key, field.value) :: pairs, rest)
      else none := by
  let rest := ':' :: ' ' :: (field.text ++ text)
  have hhead : (quoteAscii key ++ rest).head? = some '"' := by rw [quoteAscii_append, List.head?_cons]
  have htail : (quoteAscii key ++ rest).tail = key.toList.flatMap escapeAscii ++ '"' :: rest := by
    rw [quoteAscii_append, List.tail_cons]
  have hlength : (key.toList.flatMap escapeAscii ++ '"' :: rest).length ≤ (quoteAscii key ++ rest).length + 1 := by
    rw [← htail, List.length_tail]
    omega
  have hscan := scanString_flatMap scanString_escapeAscii hlength
  have hcolon : skip rest = rest := skip_cons (by decide) _
  rw [scanPairs, hhead, if_pos rfl, htail, hscan]
  simp only [Option.bind_eq_bind, Option.bind_some, hcolon, rest, List.head?_cons, if_true, List.tail_cons,
    field.skip_space_text, field.scanValue_text hn, String.ofList_toList]
  cases scanPairs (n + 1) (skip (skip text).tail) <;> rfl

theorem dumpsFields_cons (item next : String × TextField) (items : List (String × TextField)) (rest : List Char) :
    dumpsFields (item :: next :: items) ++ rest =
      quoteAscii item.1 ++ ':' :: ' ' :: (item.2.text ++ ',' :: ' ' :: (dumpsFields (next :: items) ++ rest)) := by
  simp [dumpsFields]

/-- The items of a record are read back. -/
theorem scanPairs_dumpsFields {items : List (String × TextField)} (hne : items ≠ []) {n : ℕ}
    (hn : ∀ item ∈ items, items.length + item.2.size < n) (rest : List Char) :
    scanPairs n (dumpsFields items ++ '\x7d' :: rest) = some (items.map fun item => (item.1, item.2.value), rest) := by
  induction items generalizing n with
  | nil => exact absurd rfl hne
  | cons item items ih =>
    have hfirst := hn item List.mem_cons_self
    rw [List.length_cons] at hfirst
    obtain ⟨n, rfl⟩ : ∃ m, n = m + 2 := ⟨n - 2, by omega⟩
    have hsize : item.2.size < n + 1 := by omega
    cases items with
    | nil =>
      have hskip : skip ('\x7d' :: rest) = '\x7d' :: rest := skip_cons (by decide) _
      simp [dumpsFields, scanPairs_field item.1 hsize, hskip]
    | cons next items =>
      have hcomma : skip (',' :: ' ' :: (dumpsFields (next :: items) ++ '\x7d' :: rest)) =
          ',' :: ' ' :: (dumpsFields (next :: items) ++ '\x7d' :: rest) := skip_cons (by decide) _
      have hspace : skip (' ' :: (dumpsFields (next :: items) ++ '\x7d' :: rest)) =
          dumpsFields (next :: items) ++ '\x7d' :: rest := by
        rw [dumpsFields, List.append_assoc, skip_space_quoteAscii]
      have hrest : scanPairs (n + 1) (dumpsFields (next :: items) ++ '\x7d' :: rest) =
          some ((next :: items).map fun item => (item.1, item.2.value), rest) := by
        refine ih (List.cons_ne_nil next items) fun later hlater => ?_
        have hlater := hn later (List.mem_cons_of_mem _ hlater)
        rw [List.length_cons] at hlater
        omega
      rw [dumpsFields_cons, scanPairs_field item.1 hsize, hcomma, List.head?_cons, List.tail_cons, if_neg (by simp),
        if_pos rfl, hspace, hrest]
      rfl

theorem size_le_dumpsFields {items : List (String × TextField)} {item : String × TextField} (hitem : item ∈ items) :
    items.length + item.2.size ≤ (dumpsFields items).length := by
  induction items with
  | nil => cases hitem
  | cons first items ih =>
    have hsize := first.2.size_le_text
    have hlength : items.length ≤ (dumpsFields items).length := by
      clear ih hitem
      induction items with
      | nil => exact Nat.zero_le _
      | cons next items ih =>
        rw [dumpsFields]
        cases items with
        | nil => simp [quoteAscii]
        | cons later items =>
          simp only [List.isEmpty_cons, Bool.false_eq_true, if_false, List.length_append, List.length_cons] at ih ⊢
          omega
    have htext : (dumpsFields (first :: items)).length =
        (quoteAscii first.1).length + 2 + first.2.text.length + if items.isEmpty then 0 else 2 + (dumpsFields items).length := by
      rw [dumpsFields]
      cases items with
      | nil => simp; omega
      | cons next items => simp; omega
    have hquote : 2 ≤ (quoteAscii first.1).length := by simp [quoteAscii]
    rw [htext, List.length_cons]
    obtain rfl | hlater := List.mem_cons.mp hitem
    · cases items <;> simp at hlength ⊢ <;> omega
    · have hbound := ih hlater
      cases items with
      | nil => cases hlater
      | cons next items =>
        simp only [List.isEmpty_cons, Bool.false_eq_true, if_false]
        omega

/-- A record is read back. -/
theorem loads_dumpsRecord {items : List (String × TextField)} (hne : items ≠ []) (hnodup : (items.map Prod.fst).Nodup) :
    loads (dumpsRecord items) = some (.dict (items.map fun item => (item.1, item.2.value))) := by
  have hkeys : ((items.map fun item => (item.1, item.2.value)).map Prod.fst).Nodup := by
    rw [List.map_map]
    exact hnodup
  obtain ⟨tail, hquote⟩ : ∃ tail, dumpsFields items ++ ['\x7d'] = '"' :: tail := by
    cases items with
    | nil => exact absurd rfl hne
    | cons item items => exact ⟨_, by rw [dumpsFields, List.append_assoc, quoteAscii_append]⟩
  have hskip : skip (dumpsFields items ++ ['\x7d']) = dumpsFields items ++ ['\x7d'] := by
    rw [hquote]
    exact skip_cons (by decide) tail
  have hhead : (dumpsFields items ++ ['\x7d']).head? ≠ some '\x7d' := by
    rw [hquote]
    simp
  have hlength : ∀ item ∈ items, items.length + item.2.size < ('\x7b' :: (dumpsFields items ++ ['\x7d'])).length := by
    intro item hitem
    have hbound := size_le_dumpsFields hitem
    simp only [List.length_cons, List.length_append]
    omega
  have hbrace : skip ('\x7b' :: (dumpsFields items ++ ['\x7d'])) = '\x7b' :: (dumpsFields items ++ ['\x7d']) :=
    skip_cons (by decide) _
  rw [loads, dumpsRecord, String.toList_ofList, hbrace, scanValue_brace hskip hhead]
  have hscan := scanPairs_dumpsFields hne hlength []
  rw [List.length_cons] at hscan ⊢
  simp only [hscan, Option.map_some, ofPairs_of_nodup hkeys]
  rfl

end JsonText
