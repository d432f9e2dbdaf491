import EdgeGateway.Library.JsonText.Writer

/-! What `json.loads` makes of the text that the writer has for a JSON value. -/

namespace JsonText

/-- The float is printed with a fraction or an exponent, and `float` reads it back. -/
def Writer.ReadsBack (w : Writer) (x : ℚ) : Prop :=
  (w.float_text x).fraction ++ (w.float_text x).exponent ≠ [] ∧
    PyFloat.ofString (String.ofList (w.float_text x).text) = some (.finite x)

mutual

/-- What is read from the text of a value: an infinity or a NaN has become None, and
an integer of too many digits is not read. -/
def reread : JsonValue → Option JsonValue
  | .int n => if (Nat.toDigits 10 n.natAbs).length ≤ maxDigits then some (.int n) else none
  | .float (.finite x) => some (.float (.finite x))
  | .float _ => some .null
  | .list items => (rereadItems items).map .list
  | .dict items => (rereadDict items).map fun items => .dict (ofPairs items)
  | v => some v

def rereadItems : List JsonValue → Option (List JsonValue)
  | [] => some []
  | item :: items => do
    let item ← reread item
    let items ← rereadItems items
    some (item :: items)

def rereadDict : List (String × JsonValue) → Option (List (String × JsonValue))
  | [] => some []
  | (key, value) :: items => do
    let value ← reread value
    let items ← rereadDict items
    some ((key, value) :: items)

end

theorem Number.text_head (number : Number) : ∃ c rest, number.text = c :: rest ∧ (c = '-' ∨ c.isDigit) := by
  obtain ⟨first, tail, hwhole⟩ := List.exists_cons_of_ne_nil number.whole_ne
  obtain hsign | hsign := number.sign_ok
  · have hfirst : first.isDigit := number.whole_digits first (by rw [hwhole]; exact List.mem_cons_self)
    exact ⟨first, tail ++ number.fraction ++ number.exponent, by simp [text, hsign, hwhole], .inr hfirst⟩
  · exact ⟨'-', number.whole ++ number.fraction ++ number.exponent, by simp [text, hsign], .inl rfl⟩

/-- A number is no keyword. -/
theorem Number.scanKeyword_text (number : Number) (rest : List Char) : scanKeyword (number.text ++ rest) = none := by
  obtain ⟨first, tail, hwhole⟩ := List.exists_cons_of_ne_nil number.whole_ne
  have hfirst : first.isDigit := number.whole_digits first (by rw [hwhole]; exact List.mem_cons_self)
  have hne : ∀ c : Char, ¬ c.isDigit → first ≠ c := by
    rintro c hc rfl
    exact hc hfirst
  have hletters : 'n' ≠ first ∧ 't' ≠ first ∧ 'f' ≠ first ∧ 'N' ≠ first ∧ 'I' ≠ first ∧ '-' ≠ first :=
    ⟨(hne _ (by decide)).symm, (hne _ (by decide)).symm, (hne _ (by decide)).symm, (hne _ (by decide)).symm,
      (hne _ (by decide)).symm, (hne _ (by decide)).symm⟩
  obtain hsign | hsign := number.sign_ok
  · simp [scanKeyword, keywords, text, hsign, hwhole, List.isPrefixOf, hletters]
  · simp [scanKeyword, keywords, text, hsign, hwhole, List.isPrefixOf, hletters]

/-- A number in front of a text is scanned as one. -/
theorem Number.scanValue_text (number : Number) {n : ℕ} {rest : List Char} (hrest : Delimited rest) :
    scanValue (n + 1) (number.text ++ rest) = number.value.map fun value => (value, rest) := by
  obtain ⟨c, tail, htext, hc⟩ := number.text_head
  have hne : c ≠ '"' ∧ c ≠ '[' ∧ c ≠ '\x7b' := by
    obtain rfl | hdigit := hc
    · decide
    · refine ⟨?_, ?_, ?_⟩ <;> rintro rfl <;> exact absurd hdigit (by decide)
  have hkeyword := number.scanKeyword_text rest
  have hnumber := number.scanNumber_text hrest
  rw [htext, List.cons_append] at hkeyword hnumber ⊢
  rw [scanValue, if_neg hne.1, if_neg hne.2.1, if_neg hne.2.2, hkeyword, hnumber, Option.none_or]

section Heads

variable (w : Writer)

/-- The text of a JSON value starts with a character that neither is blank nor ends a
list or a dict. -/
theorem write_head {depth : ℕ} {v : JsonValue} {text : List Char} (h : w.write depth (.ofJson v) = some text) :
    ∃ c rest, text = c :: rest ∧ isWhitespace c = false ∧ c ≠ ']' ∧ c ≠ '\x7d' := by
  have hnumber : ∀ number : Number, text = number.text →
      ∃ c rest, text = c :: rest ∧ isWhitespace c = false ∧ c ≠ ']' ∧ c ≠ '\x7d' := by
    rintro number rfl
    obtain ⟨c, rest, htext, hc⟩ := number.text_head
    refine ⟨c, rest, htext, ?_⟩
    obtain rfl | hdigit := hc
    · decide
    · have hne : ∀ d : Char, ¬ d.isDigit → c ≠ d := by
        rintro d hd rfl
        exact hd hdigit
      refine ⟨?_, hne _ (by decide), hne _ (by decide)⟩
      simp only [isWhitespace, Bool.or_eq_false_iff, beq_eq_false_iff_ne]
      exact ⟨⟨⟨hne _ (by decide), hne _ (by decide)⟩, hne _ (by decide)⟩, hne _ (by decide)⟩
  cases v with
  | null =>
    cases h
    exact ⟨_, _, rfl, by decide⟩
  | bool b =>
    cases h
    cases b
    · exact ⟨_, _, rfl, by decide⟩
    · exact ⟨_, _, rfl, by decide⟩
  | int n => exact hnumber _ (Option.some.inj h).symm
  | float x =>
    cases x with
    | finite x => exact hnumber _ (Option.some.inj h).symm
    | _ =>
      cases h
      exact ⟨_, _, rfl, by decide⟩
  | str s =>
    cases h
    exact ⟨_, _, rfl, by decide⟩
  | list items =>
    cases depth with
    | zero => cases h
    | succ depth =>
      obtain ⟨texts, _, rfl⟩ := Option.map_eq_some_iff.mp h
      exact ⟨_, _, rfl, by decide⟩
  | dict items =>
    cases depth with
    | zero => cases h
    | succ depth =>
      obtain ⟨texts, _, rfl⟩ := Option.map_eq_some_iff.mp h
      exact ⟨_, _, rfl, by decide⟩

theorem skip_cons {c : Char} (hc : isWhitespace c = false) (rest : List Char) : skip (c :: rest) = c :: rest := by
  rw [skip, List.dropWhile_cons_of_neg (by rw [hc]; decide)]

theorem skip_write {depth : ℕ} {v : JsonValue} {text : List Char} (h : w.write depth (.ofJson v) = some text)
    (rest : List Char) : skip (text ++ rest) = text ++ rest := by
  obtain ⟨c, tail, rfl, hc, _⟩ := write_head w h
  exact skip_cons hc _

/-- Fuel that covers the text of a JSON value is not exhausted at its first character. -/
theorem exists_fuel_of_write {depth n : ℕ} {v : JsonValue} {text : List Char}
    (h : w.write depth (.ofJson v) = some text) (hn : text.length ≤ n) : ∃ m, n = m + 1 := by
  obtain ⟨c, rest, rfl, _⟩ := write_head w h
  exact Nat.exists_eq_add_one_of_ne_zero (Nat.ne_of_gt (Nat.lt_of_lt_of_le (Nat.succ_pos _) hn))

theorem writeItems_cons {depth : ℕ} {item : PyValue} {items : List PyValue} {text : List Char}
    (h : w.writeItems depth (item :: items) = some text) :
    ∃ first texts, w.write depth item = some first ∧ w.writeItems depth items = some texts ∧
      text = if items.isEmpty then first else first ++ ',' :: texts := by
  rw [Writer.writeItems] at h
  split at h
  · rename_i first texts hfirst htexts
    cases h
    exact ⟨first, texts, hfirst, htexts, rfl⟩
  · cases h

theorem writeItems_head {depth : ℕ} {item : JsonValue} {items : List JsonValue} {text : List Char}
    (h : w.writeItems depth (PyValue.ofJsonItems (item :: items)) = some text) :
    ∃ c rest, text = c :: rest ∧ isWhitespace c = false ∧ c ≠ ']' := by
  obtain ⟨first, texts, hfirst, _, rfl⟩ := writeItems_cons w h
  obtain ⟨c, rest, rfl, hblank, hbracket, _⟩ := write_head w hfirst
  split
  · exact ⟨c, rest, rfl, hblank, hbracket⟩
  · exact ⟨c, rest ++ ',' :: texts, rfl, hblank, hbracket⟩

theorem writeDict_cons {depth : ℕ} {key : String} {value : PyValue} {items : List (PyValue × PyValue)} {text : List Char}
    (h : w.writeDict depth ((.str key, value) :: items) = some text) :
    ∃ first texts, w.write depth value = some first ∧ w.writeDict depth items = some texts ∧
      text = quote key ++ ':' :: (if items.isEmpty then first else first ++ ',' :: texts) := by
  rw [Writer.writeDict] at h
  split at h
  · rename_i k first texts hkey hfirst htexts
    cases hkey
    cases h
    exact ⟨first, texts, hfirst, htexts, rfl⟩
  · cases h

end Heads

theorem delimited_comma (rest : List Char) : Delimited (',' :: rest) := by
  rintro c ⟨⟩
  exact .inl rfl

theorem delimited_bracket (rest : List Char) : Delimited (']' :: rest) := by
  rintro c ⟨⟩
  exact .inr (.inl rfl)

theorem delimited_brace (rest : List Char) : Delimited ('\x7d' :: rest) := by
  rintro c ⟨⟩
  exact .inr (.inr rfl)

/-- The key of an item of a dict. -/
theorem scanPairs_quote (n : ℕ) (key : String) (text : List Char) :
    scanPairs (n + 1) (quote key ++ ':' :: text) = (do
      let (value, rest) ← scanValue n (skip text)
      let rest := skip rest
      if rest.head? = some '\x7d' then some ([(key, value)], rest.tail)
      else if rest.head? = some ',' then do
        let (pairs, rest) ← scanPairs n (skip rest.tail)
        some ((key, value) :: pairs, rest)
      else none) := by
  have htext : quote key ++ ':' :: text = '"' :: (key.toList.flatMap escape ++ '"' :: ':' :: text) := by simp [quote]
  have hlength : (key.toList.flatMap escape ++ '"' :: ':' :: text).length ≤ (quote key ++ ':' :: text).length + 1 := by
    rw [htext, List.length_cons]
    omega
  have hscan := scanString_flatMap scanString_escape hlength
  have hskip : skip (':' :: text) = ':' :: text := skip_cons (by decide) text
  rw [scanPairs, htext, List.head?_cons, if_pos rfl, List.tail_cons, ← htext, hscan]
  simp only [Option.bind_eq_bind, Option.bind_some, hskip, List.head?_cons, if_true, List.tail_cons, String.ofList_toList]

section Containers

variable {text : List Char} {m : ℕ}

/-- A bracket in front of items that are read. -/
theorem scanValue_bracket (hskip : skip text = text) (hhead : text.head? ≠ some ']') :
    scanValue (m + 1) ('[' :: text) = (scanItems m text).map fun (items, rest) => (.list items, rest) := by
  have hne : ('[' : Char) ≠ '"' := by decide
  rw [scanValue, if_neg hne, if_pos rfl, hskip, if_neg hhead]

/-- A brace in front of pairs that are read. -/
theorem scanValue_brace (hskip : skip text = text) (hhead : text.head? ≠ some '\x7d') :
    scanValue (m + 1) ('\x7b' :: text) = (scanPairs m text).map fun (pairs, rest) => (.dict (ofPairs pairs), rest) := by
  have hquote : ('\x7b' : Char) ≠ '"' := by decide
  have hbracket : ('\x7b' : Char) ≠ '[' := by decide
  rw [scanValue, if_neg hquote, if_neg hbracket, if_pos rfl, hskip, if_neg hhead]

end Containers

theorem scanValue_null (m : ℕ) (rest : List Char) : scanValue (m + 1) (null ++ rest) = some (.null, rest) := by
  simp [scanValue, null, scanKeyword, keywords]

section ReadBack

variable {w : Writer}

mutual

/-- The text of a JSON value, in front of another text, is read as `reread` tells. -/
theorem scanValue_write : ∀ (v : JsonValue) {depth n : ℕ} {text rest : List Char},
    (PyValue.ofJson v).AllFloats w.ReadsBack → w.write depth (.ofJson v) = some text → text.length ≤ n → Delimited rest →
    scanValue n (text ++ rest) = (reread v).map fun v => (v, rest)
  | .null, depth, n, text, rest, _, htext, hn, _ => by
    obtain ⟨m, rfl⟩ := exists_fuel_of_write w htext hn
    cases htext
    exact scanValue_null m rest
  | .bool b, depth, n, text, rest, _, htext, hn, _ => by
    obtain ⟨m, rfl⟩ := exists_fuel_of_write w htext hn
    cases htext
    cases b <;> simp [scanValue, boolText, scanKeyword, keywords, reread]
  | .int i, depth, n, text, rest, _, htext, hn, hrest => by
    obtain ⟨m, rfl⟩ := exists_fuel_of_write w htext hn
    cases htext
    rw [Number.scanValue_text _ hrest, Number.value_ofInt, reread]
  | .float x, depth, n, text, rest, hfloats, htext, hn, hrest => by
    obtain ⟨m, rfl⟩ := exists_fuel_of_write w htext hn
    cases x with
    | finite x =>
      cases htext
      obtain ⟨hne, hread⟩ := hfloats
      have hvalue : (w.float_text x).value = some (.float (.finite x)) := by
        rw [Number.value, numberValue, if_neg hne]
        change (PyFloat.ofString (String.ofList (w.float_text x).text)).map _ = _
        rw [hread]
        rfl
      rw [Number.scanValue_text _ hrest, hvalue, reread]
    | _ =>
      cases htext
      exact scanValue_null m rest
  | .str s, depth, n, text, rest, _, htext, hn, _ => by
    obtain ⟨m, rfl⟩ := exists_fuel_of_write w htext hn
    cases htext
    have hscan := scanString_flatMap scanString_escape (Nat.le_succ (s.toList.flatMap escape ++ '"' :: rest).length)
    rw [quote, List.cons_append, List.append_assoc, List.singleton_append, scanValue, if_pos rfl, hscan]
    simp only [Option.map_some, String.ofList_toList, reread]
  | .list [], depth + 1, n, text, rest, _, htext, hn, _ => by
    obtain ⟨m, rfl⟩ := exists_fuel_of_write w htext hn
    cases htext
    have hskip : skip (']' :: rest) = ']' :: rest := skip_cons (by decide) rest
    simp [scanValue, hskip, reread, rereadItems]
  | .list (item :: items), depth + 1, n, text, rest, hfloats, htext, hn, _ => by
    obtain ⟨m, rfl⟩ := exists_fuel_of_write w htext hn
    obtain ⟨texts, htexts, rfl⟩ := Option.map_eq_some_iff.mp htext
    obtain ⟨c, tail, hcons, hblank, hbracket⟩ := writeItems_head w htexts
    have hscan := scanItems_write item items rest hfloats htexts (n := m) (by simp at hn; omega)
    have hskip : skip (texts ++ ']' :: rest) = texts ++ ']' :: rest := by
      rw [hcons]
      exact skip_cons hblank _
    have hhead : (texts ++ ']' :: rest).head? ≠ some ']' := by
      rw [hcons]
      simpa using hbracket
    rw [List.cons_append, List.append_assoc, List.singleton_append, scanValue_bracket hskip hhead, hscan, reread,
      Option.map_map, Option.map_map]
    rfl
  | .dict [], depth + 1, n, text, rest, _, htext, hn, _ => by
    obtain ⟨m, rfl⟩ := exists_fuel_of_write w htext hn
    cases htext
    have hskip : skip ('\x7d' :: rest) = '\x7d' :: rest := skip_cons (by decide) rest
    simp [scanValue, hskip, reread, rereadDict, ofPairs]
  | .dict ((key, value) :: items), depth + 1, n, text, rest, hfloats, htext, hn, _ => by
    obtain ⟨m, rfl⟩ := exists_fuel_of_write w htext hn
    obtain ⟨texts, htexts, rfl⟩ := Option.map_eq_some_iff.mp htext
    have hscan := scanPairs_write key value items rest hfloats htexts (n := m) (by simp at hn; omega)
    obtain ⟨tail, hcons⟩ : ∃ tail, texts = '"' :: tail := by
      obtain ⟨_, _, _, _, rfl⟩ := writeDict_cons w htexts
      exact ⟨_, rfl⟩
    have hskip : skip (texts ++ '\x7d' :: rest) = texts ++ '\x7d' :: rest := by
      rw [hcons]
      exact skip_cons (by decide) _
    have hhead : (texts ++ '\x7d' :: rest).head? ≠ some '\x7d' := by
      rw [hcons]
      simp
    rw [List.cons_append, List.append_assoc, List.singleton_append, scanValue_brace hskip hhead, hscan, reread,
      Option.map_map, Option.map_map]
    rfl
termination_by _ _ n => n

theorem scanItems_write : ∀ (item : JsonValue) (items : List JsonValue) {depth n : ℕ} {text : List Char} (rest : List Char),
    PyValue.AllFloatsItems w.ReadsBack (PyValue.ofJsonItems (item :: items)) →
    w.writeItems depth (PyValue.ofJsonItems (item :: items)) = some text → text.length < n →
    scanItems n (text ++ ']' :: rest) = (rereadItems (item :: items)).map fun items => (items, rest)
  | item, [], depth, n, text, rest, hfloats, htext, hn => by
    obtain ⟨m, rfl⟩ : ∃ m, n = m + 1 := ⟨n - 1, by omega⟩
    obtain ⟨first, texts, hfirst, _, heq⟩ := writeItems_cons w htext
    obtain rfl : text = first := heq
    have hscan := scanValue_write item hfloats.1 hfirst (Nat.le_of_lt_succ hn) (delimited_bracket rest)
    have hskip : skip (']' :: rest) = ']' :: rest := skip_cons (by decide) rest
    rw [scanItems, hscan, rereadItems]
    cases reread item with
    | none => rfl
    | some item => simp [hskip, rereadItems]
  | item, next :: items, depth, n, text, rest, hfloats, htext, hn => by
    obtain ⟨m, rfl⟩ : ∃ m, n = m + 1 := ⟨n - 1, by omega⟩
    obtain ⟨first, texts, hfirst, htexts, heq⟩ := writeItems_cons w htext
    obtain rfl : text = first ++ ',' :: texts := heq
    simp only [List.length_append, List.length_cons] at hn
    have hscan := scanValue_write item hfloats.1 hfirst (n := m) (by omega) (delimited_comma (texts ++ ']' :: rest))
    have hrest := scanItems_write next items rest hfloats.2 htexts (n := m) (by omega)
    obtain ⟨c, tail, hcons, hblank, _⟩ := writeItems_head w htexts
    have hcomma : skip (',' :: (texts ++ ']' :: rest)) = ',' :: (texts ++ ']' :: rest) := skip_cons (by decide) _
    have hskip : skip (texts ++ ']' :: rest) = texts ++ ']' :: rest := by
      rw [hcons]
      exact skip_cons hblank _
    rw [List.append_assoc, List.cons_append, scanItems, hscan, rereadItems]
    cases reread item with
    | none => rfl
    | some item =>
      simp only [Option.map_some, Option.bind_eq_bind, Option.bind_some, hcomma, List.head?_cons, List.tail_cons, hskip, hrest]
      cases rereadItems (next :: items) <;> rfl
termination_by _ _ _ n => n

theorem scanPairs_write : ∀ (key : String) (value : JsonValue) (items : List (String × JsonValue)) {depth n : ℕ}
    {text : List Char} (rest : List Char), PyValue.AllFloatsDict w.ReadsBack (PyValue.ofJsonDict ((key, value) :: items)) →
    w.writeDict depth (PyValue.ofJsonDict ((key, value) :: items)) = some text → text.length < n →
    scanPairs n (text ++ '\x7d' :: rest) = (rereadDict ((key, value) :: items)).map fun items => (items, rest)
  | key, value, [], depth, n, text, rest, hfloats, htext, hn => by
    obtain ⟨m, rfl⟩ : ∃ m, n = m + 1 := ⟨n - 1, by omega⟩
    obtain ⟨first, texts, hfirst, _, heq⟩ := writeDict_cons w htext
    obtain rfl : text = quote key ++ ':' :: first := heq
    have hlength : first.length ≤ m := by simp at hn; omega
    have hscan := scanValue_write value hfloats.1.2 hfirst hlength (delimited_brace rest)
    have hskip : skip ('\x7d' :: rest) = '\x7d' :: rest := skip_cons (by decide) rest
    have hfirst_skip := skip_write w hfirst ('\x7d' :: rest)
    rw [List.append_assoc, List.cons_append, scanPairs_quote, hfirst_skip, hscan, rereadDict]
    cases reread value with
    | none => rfl
    | some value => simp [hskip, rereadDict]
  | key, value, (key', value') :: items, depth, n, text, rest, hfloats, htext, hn => by
    obtain ⟨m, rfl⟩ : ∃ m, n = m + 1 := ⟨n - 1, by omega⟩
    obtain ⟨first, texts, hfirst, htexts, heq⟩ := writeDict_cons w htext
    obtain rfl : text = quote key ++ ':' :: (first ++ ',' :: texts) := heq
    simp only [List.length_append, List.length_cons] at hn
    have hscan := scanValue_write value hfloats.1.2 hfirst (n := m) (by omega) (delimited_comma (texts ++ '\x7d' :: rest))
    have hrest := scanPairs_write key' value' items rest hfloats.2 htexts (n := m) (by omega)
    have hcomma : skip (',' :: (texts ++ '\x7d' :: rest)) = ',' :: (texts ++ '\x7d' :: rest) := skip_cons (by decide) _
    have hfirst_skip := skip_write w hfirst (',' :: (texts ++ '\x7d' :: rest))
    have hskip : skip (texts ++ '\x7d' :: rest) = texts ++ '\x7d' :: rest := by
      obtain ⟨_, _, _, _, rfl⟩ := writeDict_cons w htexts
      exact skip_cons (by decide) _
    have hassoc : quote key ++ ':' :: (first ++ ',' :: texts) ++ '\x7d' :: rest =
        quote key ++ ':' :: (first ++ ',' :: (texts ++ '\x7d' :: rest)) := by simp
    rw [hassoc, scanPairs_quote, hfirst_skip, hscan, rereadDict]
    cases reread value with
    | none => rfl
    | some value =>
      simp only [Option.map_some, Option.bind_eq_bind, Option.bind_some, hcomma, List.head?_cons, List.tail_cons, hskip, hrest]
      cases rereadDict ((key', value') :: items) <;> rfl
termination_by _ _ _ _ n => n

end

/-- `json.loads` of the text of a JSON value. -/
theorem loads_write {depth : ℕ} {v : JsonValue} {text : List Char}
    (hfloats : (PyValue.ofJson v).AllFloats w.ReadsBack) (htext : w.write depth (.ofJson v) = some text) :
    loads (String.ofList text) = reread v := by
  have hskip : skip text = text := by simpa using skip_write w htext []
  have hend : Delimited [] := by
    rintro c ⟨⟩
  have hscan := scanValue_write v hfloats htext (Nat.le_succ _) hend
  rw [List.append_nil] at hscan
  rw [loads, String.toList_ofList, hskip, hscan]
  cases reread v with
  | none => rfl
  | some v => rfl

end ReadBack

mutual

/-- Nothing is lost when the value is printed and read: no infinity or NaN is in it,
and no integer of too many digits. -/
def exact : JsonValue → Bool
  | .int n => (Nat.toDigits 10 n.natAbs).length ≤ maxDigits
  | .float (.finite _) => true
  | .float _ => false
  | .list items => exactItems items
  | .dict items => exactDict items
  | _ => true

def exactItems : List JsonValue → Bool
  | [] => true
  | item :: items => exact item && exactItems items

def exactDict : List (String × JsonValue) → Bool
  | [] => true
  | (_, value) :: items => exact value && exactDict items

end

theorem ofPairs_of_nodup {items : List (String × JsonValue)} (h : (items.map Prod.fst).Nodup) : ofPairs items = items := by
  have key : ∀ (items acc : List (String × JsonValue)), ((acc ++ items).map Prod.fst).Nodup →
      items.foldl (fun items entry => Dict.setItem entry.1 entry.2 items) acc = acc ++ items := by
    intro items
    induction items with
    | nil => simp
    | cons item items ih =>
      intro acc hnodup
      obtain ⟨k, v⟩ := item
      have hnot : k ∉ acc.map Prod.fst := by
        intro hmem
        rw [List.map_append, List.nodup_append] at hnodup
        exact hnodup.2.2 k hmem k (by simp) rfl
      have hnew : Dict.setItem k v acc = acc ++ [(k, v)] := Dict.setItem_of_not_mem v hnot
      have hrest := ih (acc ++ [(k, v)]) (by simpa using hnodup)
      simp only [List.foldl_cons, hnew, hrest, List.append_assoc, List.singleton_append]
  exact key items [] h

theorem rereadDict_keys {items items' : List (String × JsonValue)} (h : rereadDict items = some items') :
    items'.map Prod.fst = items.map Prod.fst := by
  induction items generalizing items' with
  | nil =>
    cases h
    rfl
  | cons item items ih =>
    obtain ⟨key, value⟩ := item
    simp only [rereadDict, Option.bind_eq_bind, Option.bind_eq_some_iff, Option.some.injEq] at h
    obtain ⟨value', _, rest, hrest, rfl⟩ := h
    simp [ih hrest]

mutual

/-- Printing and reading gives exactly the exact values back. -/
theorem reread_eq_iff : ∀ v : JsonValue, (PyValue.ofJson v).DistinctKeys → (reread v = some v ↔ exact v = true)
  | .null, _ => by simp [reread, exact]
  | .bool _, _ => by simp [reread, exact]
  | .int n, _ => by simp [reread, exact]
  | .float (.finite _), _ => by simp [reread, exact]
  | .float (.inf _), _ => by simp [reread, exact]
  | .float .nan, _ => by simp [reread, exact]
  | .str _, _ => by simp [reread, exact]
  | .list items, hkeys => by
    have hiff := rereadItems_eq_iff items hkeys
    simp [reread, exact, hiff]
  | .dict items, hkeys => by
    obtain ⟨hnodup, hkeys⟩ := hkeys
    have hiff := rereadDict_eq_iff items hkeys
    rw [PyValue.filterMap_ofJsonDict] at hnodup
    have hpairs : ∀ items', rereadDict items = some items' → ofPairs items' = items' := by
      intro items' heq
      apply ofPairs_of_nodup
      rw [rereadDict_keys heq]
      exact hnodup
    rw [exact, ← hiff, reread, Option.map_eq_some_iff]
    constructor
    · rintro ⟨items', heq, hsame⟩
      rw [hpairs items' heq] at hsame
      cases hsame
      exact heq
    · intro heq
      exact ⟨items, heq, by rw [hpairs items heq]⟩

theorem rereadItems_eq_iff : ∀ items : List JsonValue, PyValue.DistinctKeysItems (PyValue.ofJsonItems items) →
    (rereadItems items = some items ↔ exactItems items = true)
  | [], _ => by simp [rereadItems, exactItems]
  | item :: items, hkeys => by
    have hitem := reread_eq_iff item hkeys.1
    have hitems := rereadItems_eq_iff items hkeys.2
    simp only [rereadItems, exactItems, Bool.and_eq_true, ← hitem, ← hitems, Option.bind_eq_bind, Option.bind_eq_some_iff,
      Option.some.injEq, List.cons.injEq]
    constructor
    · rintro ⟨_, hitem, _, hitems, rfl, rfl⟩
      exact ⟨hitem, hitems⟩
    · rintro ⟨hitem, hitems⟩
      exact ⟨_, hitem, _, hitems, rfl, rfl⟩

theorem rereadDict_eq_iff : ∀ items : List (String × JsonValue), PyValue.DistinctKeysDict (PyValue.ofJsonDict items) →
    (rereadDict items = some items ↔ exactDict items = true)
  | [], _ => by simp [rereadDict, exactDict]
  | (key, value) :: items, hkeys => by
    have hvalue := reread_eq_iff value hkeys.1.2
    have hitems := rereadDict_eq_iff items hkeys.2
    simp only [rereadDict, exactDict, Bool.and_eq_true, ← hvalue, ← hitems, Option.bind_eq_bind, Option.bind_eq_some_iff,
      Option.some.injEq, List.cons.injEq, Prod.mk.injEq, true_and]
    constructor
    · rintro ⟨_, hvalue, _, hitems, rfl, rfl⟩
      exact ⟨hvalue, hitems⟩
    · rintro ⟨hvalue, hitems⟩
      exact ⟨_, hvalue, _, hitems, rfl, rfl⟩

end

end JsonText
