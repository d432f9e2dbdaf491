import EdgeGateway.Library.Dict
import EdgeGateway.Library.JsonValue
import EdgeGateway.Library.PyDecimal

/-! JSON text as Python's `json.loads` reads it, and the tokens of a writer. -/

namespace JsonText

def isWhitespace (c : Char) : Bool := c == ' ' || c == '\t' || c == '\n' || c == '\r'

def skip (text : List Char) : List Char := text.dropWhile isWhitespace

/-- What follows `\u`: one code unit, or two of a surrogate pair. A lone surrogate is
no character, and is not read. -/
def scanUnicode (text : List Char) : Option (Char × List Char) := do
  let (unit, rest) ← PaddedDigits.scan 16 4 text
  if 0xd800 ≤ unit ∧ unit < 0xdc00 then
    if rest.take 2 = ['\\', 'u'] then do
      let (low, rest) ← PaddedDigits.scan 16 4 (rest.drop 2)
      if 0xdc00 ≤ low ∧ low < 0xe000 then
        some (Char.ofNat (0x10000 + (unit - 0xd800) * 0x400 + (low - 0xdc00)), rest)
      else none
    else none
  else if 0xdc00 ≤ unit ∧ unit < 0xe000 then none
  else some (Char.ofNat unit, rest)

/-- The characters that a letter after a backslash stands for. -/
def escapes : List (Char × Char) :=
  [('"', '"'), ('\\', '\\'), ('/', '/'), ('b', '\x08'), ('f', '\x0c'), ('n', '\n'), ('r', '\r'), ('t', '\t')]

/-- What follows a backslash. -/
def scanEscape : List Char → Option (Char × List Char)
  | [] => none
  | c :: rest => if c = 'u' then scanUnicode rest else (escapes.lookup c).map fun c => (c, rest)

/-- What follows the opening quote of a string, which has fewer than `n` characters. -/
def scanString : ℕ → List Char → Option (List Char × List Char)
  | 0, _ => none
  | _ + 1, [] => none
  | n + 1, c :: rest =>
    if c = '"' then some ([], rest)
    else if c = '\\' then do
      let (c, rest) ← scanEscape rest
      let (text, rest) ← scanString n rest
      some (c :: text, rest)
    else if c.toNat < 0x20 then none
    else do
      let (text, rest) ← scanString n rest
      some (c :: text, rest)

/-- A point and digits, if there are any. -/
def scanFraction (text : List Char) : List Char :=
  let digits := text.tail.takeWhile Char.isDigit
  if text.head? = some '.' && digits ≠ [] then '.' :: digits else []

/-- An exponent, if there is one. -/
def scanExponent (text : List Char) : List Char :=
  let e := text.take 1
  let sign := if text.tail.head? = some '+' || text.tail.head? = some '-' then text.tail.take 1 else []
  let digits := (text.drop (1 + sign.length)).takeWhile Char.isDigit
  if (e = ['e'] || e = ['E']) && digits ≠ [] then e ++ sign ++ digits else []

/-- `sys.get_int_max_str_digits()`. -/
def maxDigits : ℕ := 4300

/-- The value of a number of these parts. -/
def numberValue (sign whole fraction exponent : List Char) : Option JsonValue :=
  if fraction ++ exponent = [] then
    if whole.length ≤ maxDigits then
      let n : ℕ := Nat.ofDigitChars 10 whole 0
      some (.int (if sign = [] then n else -n))
    else none
  else (PyFloat.ofString (String.ofList (sign ++ whole ++ fraction ++ exponent))).map .float

def scanNumber (text : List Char) : Option (JsonValue × List Char) :=
  let sign := if text.head? = some '-' then ['-'] else []
  let text := text.drop sign.length
  let whole := if text.head? = some '0' then ['0'] else text.takeWhile Char.isDigit
  let text := text.drop whole.length
  let fraction := scanFraction text
  let text := text.drop fraction.length
  let exponent := scanExponent text
  if whole = [] then none
  else (numberValue sign whole fraction exponent).map fun value => (value, text.drop exponent.length)

def keywords : List (List Char × JsonValue) :=
  [(['n', 'u', 'l', 'l'], .null), (['t', 'r', 'u', 'e'], .bool true), (['f', 'a', 'l', 's', 'e'], .bool false),
    (['N', 'a', 'N'], .float .nan), (['I', 'n', 'f', 'i', 'n', 'i', 't', 'y'], .float (.inf false)),
    (['-', 'I', 'n', 'f', 'i', 'n', 'i', 't', 'y'], .float (.inf true))]

def scanKeyword (text : List Char) : Option (JsonValue × List Char) :=
  (keywords.find? fun (word, _) => word.isPrefixOf text).map fun (word, value) => (value, text.drop word.length)

/-- A dict of the pairs, of which a later one with the same key replaces the value. -/
def ofPairs (pairs : List (String × JsonValue)) : List (String × JsonValue) :=
  pairs.foldl (fun items (key, value) => Dict.setItem key value items) []

mutual

/-- A value in front of a text, of whose nesting `n` bounds the depth. -/
def scanValue : ℕ → List Char → Option (JsonValue × List Char)
  | 0, _ => none
  | _ + 1, [] => none
  | n + 1, c :: rest =>
    if c = '"' then (scanString (rest.length + 1) rest).map fun (text, rest) => (.str (String.ofList text), rest)
    else if c = '[' then
      if (skip rest).head? = some ']' then some (.list [], (skip rest).tail)
      else (scanItems n (skip rest)).map fun (items, rest) => (.list items, rest)
    else if c = '\x7b' then
      if (skip rest).head? = some '\x7d' then some (.dict [], (skip rest).tail)
      else (scanPairs n (skip rest)).map fun (pairs, rest) => (.dict (ofPairs pairs), rest)
    else (scanKeyword (c :: rest)).or (scanNumber (c :: rest))

/-- The items of a list from one of them on. -/
def scanItems : ℕ → List Char → Option (List JsonValue × List Char)
  | 0, _ => none
  | n + 1, text => do
    let (item, rest) ← scanValue n text
    let rest := skip rest
    if rest.head? = some ']' then some ([item], rest.tail)
    else if rest.head? = some ',' then do
      let (items, rest) ← scanItems n (skip rest.tail)
      some (item :: items, rest)
    else none

/-- The items of a dict from one of them on. -/
def scanPairs : ℕ → List Char → Option (List (String × JsonValue) × List Char)
  | 0, _ => none
  | n + 1, text =>
    if text.head? = some '"' then do
      let (key, rest) ← scanString (text.length + 1) text.tail
      let rest := skip rest
      if rest.head? = some ':' then do
        let (value, rest) ← scanValue n (skip rest.tail)
        let rest := skip rest
        if rest.head? = some '\x7d' then some ([(String.ofList key, value)], rest.tail)
        else if rest.head? = some ',' then do
          let (pairs, rest) ← scanPairs n (skip rest.tail)
          some ((String.ofList key, value) :: pairs, rest)
        else none
      else none
    else none

end

/-- `json.loads(text)`; `none` stands for ValueError. -/
def loads (text : String) : Option JsonValue :=
  match scanValue (text.toList.length + 1) (skip text.toList) with
  | some (value, rest) => if skip rest = [] then some value else none
  | none => none

end JsonText
