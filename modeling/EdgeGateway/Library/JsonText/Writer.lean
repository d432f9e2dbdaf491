import EdgeGateway.Library.JsonText.Tokens
import EdgeGateway.Library.PyValue

/-! JSON text as Pydantic writes it for a value of any type, and what `json.loads`
makes of it. -/

namespace JsonText

/-- What a writer is free to choose: how deep it goes, and how it prints floats. -/
structure Writer where
  max_depth : ℕ
  float_text : ℚ → Number
  float_key : PyFloat → String

def null : List Char := ['n', 'u', 'l', 'l']

def boolText (b : Bool) : List Char := if b then ['t', 'r', 'u', 'e'] else ['f', 'a', 'l', 's', 'e']

def decodeUtf8 (raw : List UInt8) : Option String := String.fromUTF8? raw.toByteArray

namespace Writer

variable (w : Writer)

mutual

/-- The text of a key; `none` when it is of a type that has none. -/
def key : PyValue → Option String
  | .none => some "None"
  | .bool b => some (String.ofList (boolText b))
  | .int n => some (toString n)
  | .float x => some (w.float_key x)
  | .str s => some s
  | .bytes raw => decodeUtf8 raw
  | .tuple items => (keys items).map fun texts => ",".intercalate texts
  | .surrogates _ | .list _ | .dict _ => none
  | .object _ text => text

def keys : List PyValue → Option (List String)
  | [] => some []
  | item :: items =>
    match key item, keys items with
    | some text, some texts => some (text :: texts)
    | _, _ => none

end

mutual

/-- The text of a value, of which at most `depth` levels are containers; `none` when
the writer raises. -/
def write : ℕ → PyValue → Option (List Char)
  | _, .none => some null
  | _, .bool b => some (boolText b)
  | _, .int n => some (Number.ofInt n).text
  | _, .float (.finite x) => some (w.float_text x).text
  | _, .float _ => some null
  | _, .str s => some (quote s)
  | _, .surrogates _ => none
  | _, .bytes raw => (decodeUtf8 raw).map quote
  | 0, .list _ | 0, .tuple _ | 0, .dict _ => none
  | depth + 1, .list items => (writeItems depth items).map fun text => '[' :: (text ++ [']'])
  | depth + 1, .tuple items => (writeItems depth items).map fun text => '[' :: (text ++ [']'])
  | depth + 1, .dict items => (writeDict depth items).map fun text => '\x7b' :: (text ++ ['\x7d'])
  | _, .object text _ => text.map String.toList

def writeItems : ℕ → List PyValue → Option (List Char)
  | _, [] => some []
  | depth, item :: items =>
    match write depth item, writeItems depth items with
    | some text, some texts => some (if items.isEmpty then text else text ++ ',' :: texts)
    | _, _ => none

def writeDict : ℕ → List (PyValue × PyValue) → Option (List Char)
  | _, [] => some []
  | depth, (k, v) :: items =>
    match key w k, write depth v, writeDict depth items with
    | some k, some text, some texts =>
      some (quote k ++ ':' :: (if items.isEmpty then text else text ++ ',' :: texts))
    | _, _, _ => none

end

mutual

/-- The writer has a text for the key. -/
def takesKey : PyValue → Bool
  | .bytes raw => (decodeUtf8 raw).isSome
  | .tuple items => takesKeys items
  | .surrogates _ | .list _ | .dict _ => false
  | .object _ text => text.isSome
  | _ => true

def takesKeys : List PyValue → Bool
  | [] => true
  | item :: items => takesKey item && takesKeys items

end

mutual

/-- The writer has a text for the value: nothing in it is nested too deep, is of a
type that it does not know, or is made of bytes that are no text. -/
def takes : ℕ → PyValue → Bool
  | _, .surrogates _ => false
  | _, .bytes raw => (decodeUtf8 raw).isSome
  | 0, .list _ | 0, .tuple _ | 0, .dict _ => false
  | depth + 1, .list items => takesItems depth items
  | depth + 1, .tuple items => takesItems depth items
  | depth + 1, .dict items => takesDict depth items
  | _, .object text _ => text.isSome
  | _, _ => true

def takesItems : ℕ → List PyValue → Bool
  | _, [] => true
  | depth, item :: items => takes depth item && takesItems depth items

def takesDict : ℕ → List (PyValue × PyValue) → Bool
  | _, [] => true
  | depth, (k, v) :: items => (takesKey k && takes depth v) && takesDict depth items

end

mutual

theorem isSome_key : ∀ v : PyValue, (w.key v).isSome = takesKey v
  | .none | .bool _ | .int _ | .float _ | .str _ | .surrogates _ | .bytes _ | .list _ | .dict _ | .object _ _ => by
    simp [key, takesKey]
  | .tuple items => by simp [key, takesKey, isSome_keys items]

theorem isSome_keys : ∀ items : List PyValue, (w.keys items).isSome = takesKeys items
  | [] => by simp [keys, takesKeys]
  | item :: items => by
    rw [takesKeys, ← isSome_key item, ← isSome_keys items, keys]
    cases w.key item <;> cases w.keys items <;> rfl

end

mutual

theorem isSome_write : ∀ (depth : ℕ) (v : PyValue), (w.write depth v).isSome = takes depth v
  | _, .none | _, .bool _ | _, .int _ | _, .float (.finite _) | _, .float (.inf _) | _, .float .nan | _, .str _
  | _, .surrogates _ | _, .bytes _ | _, .object _ _ | 0, .list _ | 0, .tuple _ | 0, .dict _ => by simp [write, takes]
  | depth + 1, .list items => by simp [write, takes, isSome_writeItems depth items]
  | depth + 1, .tuple items => by simp [write, takes, isSome_writeItems depth items]
  | depth + 1, .dict items => by simp [write, takes, isSome_writeDict depth items]

theorem isSome_writeItems : ∀ (depth : ℕ) (items : List PyValue), (w.writeItems depth items).isSome = takesItems depth items
  | _, [] => by simp [writeItems, takesItems]
  | depth, item :: items => by
    rw [takesItems, ← isSome_write depth item, ← isSome_writeItems depth items, writeItems]
    cases w.write depth item <;> cases w.writeItems depth items <;> rfl

theorem isSome_writeDict : ∀ (depth : ℕ) (items : List (PyValue × PyValue)),
    (w.writeDict depth items).isSome = takesDict depth items
  | _, [] => by simp [writeDict, takesDict]
  | depth, (k, v) :: items => by
    rw [takesDict, ← isSome_key w k, ← isSome_write depth v, ← isSome_writeDict depth items, writeDict]
    cases w.key k <;> cases w.write depth v <;> cases w.writeDict depth items <;> rfl

end

end Writer

end JsonText
