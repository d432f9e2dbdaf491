import Mathlib.Algebra.Order.Floor.Semiring
import Mathlib.Data.Int.Log
import Mathlib.Data.Rat.Floor
import EdgeGateway.Library.PyDecimal

/-- A binary floating-point value by what it denotes. Zero carries no sign. -/
inductive PyFloat where
  | nan
  | inf (negative : Bool)
  | finite (value : ℚ)
  deriving DecidableEq

namespace PyFloat

open PyDecimal

/-- An IEEE binary format: significand bits, the exponent of the smallest unit in
the last place, and the power of two that values stay below. -/
structure Format where
  precision : ℕ
  emin : ℤ
  emax : ℤ
  deriving DecidableEq

def binary64 : Format := { precision := 53, emin := -1074, emax := 1024 }

/-- The nearest integer, ties going to the even one. -/
def roundHalfEven (x : ℚ) : ℤ :=
  let n := ⌊x⌋
  if x - n < 1 / 2 then n
  else if 1 / 2 < x - n then n + 1
  else if n % 2 = 0 then n else n + 1

/-- Round to the format; too large a magnitude becomes an infinity. -/
def ofRat (f : Format) (q : ℚ) : PyFloat :=
  if q = 0 then .finite 0
  else
    let exponent := max (Int.log 2 |q| - (f.precision - 1)) f.emin
    let value := roundHalfEven (q / 2 ^ exponent) * (2 : ℚ) ^ exponent
    if 2 ^ f.emax ≤ |value| then .inf (q < 0) else .finite value

/-- A decimal number without a sign: digits with an optional point, at least one of
them, and an optional exponent up to the end of the text. -/
def parseNumber (text : List Char) : Option ℚ :=
  let whole := takeDigits text
  let text := text.drop whole.length
  let fraction := if text.head? = some '.' then takeDigits text.tail else []
  let text := if text.head? = some '.' then text.tail.drop fraction.length else text
  let mantissa : ℚ := natOfDigits (whole ++ fraction) / 10 ^ fraction.length
  if whole ++ fraction = [] then none
  else
    match text with
    | [] => some mantissa
    | e :: exponent =>
      let (sign, exponent) := takeSign exponent
      let digits := takeDigits exponent
      if (e = 'e' || e = 'E') && digits ≠ [] && exponent.drop digits.length = [] then
        some (mantissa * 10 ^ (sign * natOfDigits digits))
      else none

/-- `float(text)`; `none` stands for ValueError. -/
def ofString (text : String) : Option PyFloat := do
  let plain ← dropUnderscores false (strip text.toList)
  let (sign, unsigned) := takeSign plain
  let word := String.ofList (unsigned.map Char.toLower)
  if word = "inf" || word = "infinity" then some (.inf (sign < 0))
  else if word = "nan" then some .nan
  else (parseNumber unsigned).map fun q => ofRat binary64 (sign * q)

/-- `float(n)`; `none` stands for OverflowError. -/
def ofInt (n : ℤ) : Option PyFloat :=
  match ofRat binary64 n with
  | .finite x => some (.finite x)
  | _ => none

/-- `a < b`. Nothing compares with a NaN. -/
def lt : PyFloat → PyFloat → Bool
  | .nan, _ | _, .nan => false
  | .inf negative, .inf negative' => negative && !negative'
  | .inf negative, .finite _ => negative
  | .finite _, .inf negative => !negative
  | .finite a, .finite b => a < b

/-- `a <= b`. -/
def le : PyFloat → PyFloat → Bool
  | .nan, _ | _, .nan => false
  | a, b => !lt b a

def neg : PyFloat → PyFloat
  | .nan => .nan
  | .inf negative => .inf !negative
  | .finite a => .finite (-a)

def add : PyFloat → PyFloat → PyFloat
  | .nan, _ | _, .nan => .nan
  | .inf negative, .inf negative' => if negative = negative' then .inf negative else .nan
  | .inf negative, .finite _ | .finite _, .inf negative => .inf negative
  | .finite a, .finite b => ofRat binary64 (a + b)

def sub (a b : PyFloat) : PyFloat := add a (neg b)

/-- `a / b`; `none` stands for ZeroDivisionError. -/
def div : PyFloat → PyFloat → Option PyFloat
  | _, .finite 0 => none
  | .nan, _ | _, .nan => some .nan
  | .inf _, .inf _ => some .nan
  | .inf negative, .finite b => some (.inf (negative != decide (b < 0)))
  | .finite _, .inf _ => some (.finite 0)
  | .finite a, .finite b => some (ofRat binary64 (a / b))

def mul : PyFloat → PyFloat → PyFloat
  | .nan, _ | _, .nan => .nan
  | .inf negative, .inf negative' => .inf (negative != negative')
  | .inf negative, .finite b | .finite b, .inf negative => if b = 0 then .nan else .inf (negative != decide (b < 0))
  | .finite a, .finite b => ofRat binary64 (a * b)

/-- `int(x)`, which drops the fraction; `none` stands for the error of an infinity or a NaN. -/
def toInt : PyFloat → Option ℤ
  | .finite a => some (if a < 0 then -⌊-a⌋ else ⌊a⌋)
  | _ => none

end PyFloat
