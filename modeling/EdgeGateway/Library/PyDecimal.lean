import Mathlib.Data.Int.Notation
import Mathlib.Data.List.Basic
import Mathlib.Data.Nat.Notation
import Mathlib.Tactic.Common
import Mathlib.Tactic.Ring

/-! Decimal text as Python's `int` and `float` read it. -/

namespace PyDecimal

/-- The code points where the blocks of ten Unicode decimal digits start. -/
def digitBlocks : List ℕ :=
  [0x30, 0x660, 0x6f0, 0x7c0, 0x966, 0x9e6, 0xa66, 0xae6, 0xb66, 0xbe6, 0xc66, 0xce6, 0xd66, 0xde6,
    0xe50, 0xed0, 0xf20, 0x1040, 0x1090, 0x17e0, 0x1810, 0x1946, 0x19d0, 0x1a80, 0x1a90, 0x1b50,
    0x1bb0, 0x1c40, 0x1c50, 0xa620, 0xa8d0, 0xa900, 0xa9d0, 0xa9f0, 0xaa50, 0xabf0, 0xff10, 0x104a0,
    0x10d30, 0x11066, 0x110f0, 0x11136, 0x111d0, 0x112f0, 0x11450, 0x114d0, 0x11650, 0x116c0, 0x11730,
    0x118e0, 0x11950, 0x11c50, 0x11d50, 0x11da0, 0x11f50, 0x16a60, 0x16ac0, 0x16b50, 0x1d7ce, 0x1d7d8,
    0x1d7e2, 0x1d7ec, 0x1d7f6, 0x1e140, 0x1e2f0, 0x1e4f0, 0x1e950, 0x1fbf0]

def digit? (c : Char) : Option ℕ :=
  (digitBlocks.find? fun start => start ≤ c.toNat && c.toNat < start + 10).map (c.toNat - ·)

def isSpace (c : Char) : Bool :=
  let n := c.toNat
  (0x9 ≤ n && n ≤ 0xd) || (0x1c ≤ n && n ≤ 0x20) || n == 0x85 || n == 0xa0 || n == 0x1680 ||
    (0x2000 ≤ n && n ≤ 0x200a) || n == 0x2028 || n == 0x2029 || n == 0x202f || n == 0x205f || n == 0x3000

def strip (text : List Char) : List Char :=
  ((text.dropWhile isSpace).reverse.dropWhile isSpace).reverse

/-- Drop underscores, each of which must stand between two digits. `previous` says
whether the character before was a digit. -/
def dropUnderscores : Bool → List Char → Option (List Char)
  | _, [] => some []
  | previous, c :: rest =>
    if c = '_' then
      if previous && (rest.head?.bind digit?).isSome then dropUnderscores false rest else none
    else (dropUnderscores (digit? c).isSome rest).map (c :: ·)

def takeDigits : List Char → List ℕ
  | [] => []
  | c :: rest =>
    match digit? c with
    | none => []
    | some d => d :: takeDigits rest

def natOfDigits (digits : List ℕ) : ℕ := digits.foldl (fun n d => 10 * n + d) 0

/-- An optional sign, as a factor, and what follows it. -/
def takeSign : List Char → ℤ × List Char
  | '+' :: rest => (1, rest)
  | '-' :: rest => (-1, rest)
  | rest => (1, rest)

/-- `int(text)`; `none` stands for ValueError. -/
def toInt (text : String) : Option ℤ := do
  let plain ← dropUnderscores false (strip text.toList)
  let (sign, unsigned) := takeSign plain
  let digits := takeDigits unsigned
  if digits ≠ [] && unsigned.drop digits.length = [] then some (sign * natOfDigits digits) else none

section Digits

variable {text : List Char} (h : ∀ c ∈ text, c.isDigit)
include h

theorem digit?_of_isDigit {c : Char} (hc : c ∈ text) : digit? c = some (c.toNat - 48) := by
  have hbounds := h c hc
  simp only [Char.isDigit, Bool.and_eq_true, decide_eq_true_eq] at hbounds
  have hlow : 48 ≤ c.toNat := hbounds.1
  have hhigh : c.toNat ≤ 57 := hbounds.2
  have hblock : (48 ≤ c.toNat && c.toNat < 58) = true := by
    simp only [Bool.and_eq_true, decide_eq_true_eq]
    omega
  simp only [digit?, digitBlocks, List.find?_cons, hblock, Option.map_some]

theorem isSpace_eq_false {c : Char} (hc : c ∈ text) : isSpace c = false := by
  have hbounds := h c hc
  simp only [Char.isDigit, Bool.and_eq_true, decide_eq_true_eq] at hbounds
  have hlow : 48 ≤ c.toNat := hbounds.1
  have hhigh : c.toNat ≤ 57 := hbounds.2
  simp only [isSpace, Bool.or_eq_false_iff, Bool.and_eq_false_iff, decide_eq_false_iff_not, beq_eq_false_iff_ne]
  omega

theorem dropWhile_isSpace : text.dropWhile isSpace = text := by
  cases text with
  | nil => rfl
  | cons c rest =>
    have hc : isSpace c = false := isSpace_eq_false h List.mem_cons_self
    simp [List.dropWhile, hc]

theorem strip_digits : strip text = text := by
  have hreverse : ∀ c ∈ text.reverse, c.isDigit := fun c hc => h c (List.mem_reverse.mp hc)
  rw [strip, dropWhile_isSpace h, dropWhile_isSpace hreverse, List.reverse_reverse]

theorem dropUnderscores_digits (previous : Bool) : dropUnderscores previous text = some text := by
  induction text generalizing previous with
  | nil => rfl
  | cons c rest ih =>
    have hne : c ≠ '_' := by
      rintro rfl
      exact absurd (h '_' List.mem_cons_self) (by decide)
    have hrest := ih fun d hd => h d (List.mem_cons_of_mem c hd)
    simp only [dropUnderscores, if_neg hne, hrest, Option.map_some]

theorem takeSign_digits : takeSign text = (1, text) := by
  unfold takeSign
  split
  · exact absurd (h '+' List.mem_cons_self) (by decide)
  · exact absurd (h '-' List.mem_cons_self) (by decide)
  · rfl

theorem takeDigits_digits : takeDigits text = text.map (·.toNat - 48) := by
  induction text with
  | nil => rfl
  | cons c rest ih =>
    have hrest := ih fun d hd => h d (List.mem_cons_of_mem c hd)
    simp only [takeDigits, digit?_of_isDigit h List.mem_cons_self, hrest, List.map_cons]

end Digits

/-- `int` reads back the decimal digits of a natural number. -/
theorem toInt_toString (n : ℕ) : toInt (toString n) = some (n : ℤ) := by
  have hdigits : ∀ c ∈ Nat.toDigits 10 n, c.isDigit := fun c hc =>
    Nat.isDigit_of_mem_toDigits (by decide) (by decide) hc
  have hvalue : natOfDigits (takeDigits (Nat.toDigits 10 n)) = n := by
    rw [takeDigits_digits hdigits, natOfDigits, List.foldl_map]
    exact Nat.ofDigitChars_ten_toDigits
  have hlength : (takeDigits (Nat.toDigits 10 n)).length = (Nat.toDigits 10 n).length := by
    rw [takeDigits_digits hdigits, List.length_map]
  have hne : takeDigits (Nat.toDigits 10 n) ≠ [] := by
    rw [← List.length_pos_iff, hlength]
    exact Nat.length_toDigits_pos
  have hlist : (toString n).toList = Nat.toDigits 10 n := Nat.toList_repr
  rw [toInt, hlist, strip_digits hdigits, dropUnderscores_digits hdigits]
  simp [takeSign_digits hdigits, hvalue, hlength, hne]

theorem toString_nat_inj {m n : ℕ} (h : toString m = toString n) : m = n := by
  have hm := toInt_toString m
  rw [h, toInt_toString n] at hm
  exact Int.ofNat.inj (Option.some.inj hm).symm

/-- The text of a natural number does not start with a sign. -/
theorem toString_ne_minus (n : ℕ) (text : String) : toString n ≠ "-" ++ text := by
  intro h
  have hlist : (toString n).toList = Nat.toDigits 10 n := Nat.toList_repr
  have hminus : '-' ∈ Nat.toDigits 10 n := by
    rw [← hlist, h, String.toList_append]
    exact List.mem_cons_self
  exact absurd (Nat.isDigit_of_mem_toDigits (by decide) (by decide) hminus) (by decide)

theorem toString_int_inj {m n : ℤ} (h : toString m = toString n) : m = n := by
  cases m with
  | ofNat a =>
    cases n with
    | ofNat b => exact congrArg Int.ofNat (toString_nat_inj h)
    | negSucc b => exact absurd h (toString_ne_minus a _)
  | negSucc a =>
    cases n with
    | ofNat b => exact absurd h.symm (toString_ne_minus b _)
    | negSucc b =>
      have hdigits : toString (a + 1) = toString (b + 1) := (String.append_right_inj "-").mp h
      exact congrArg Int.negSucc (Nat.succ.inj (toString_nat_inj hdigits))

/-- The text of an integer has digits and a sign only. -/
theorem not_mem_toString {c : Char} (hdigit : c.isDigit = false) (hminus : c ≠ '-') (n : ℤ) : c ∉ (toString n).toList := by
  have hnat : ∀ n : ℕ, c ∉ (toString n).toList := by
    intro n hc
    have hlist : (toString n).toList = Nat.toDigits 10 n := Nat.toList_repr
    rw [hlist] at hc
    have htrue := Nat.isDigit_of_mem_toDigits (by decide) (by decide) hc
    rw [hdigit] at htrue
    cases htrue
  cases n with
  | ofNat n => exact hnat n
  | negSucc n =>
    have hlist : (toString (Int.negSucc n)).toList = '-' :: (toString (n + 1)).toList := String.toList_append
    rw [hlist, List.mem_cons, not_or]
    exact ⟨hminus, hnat _⟩

end PyDecimal

/-! Numbers printed with a fixed number of digits, in a base up to sixteen. -/

namespace PaddedDigits

/-- The value of a digit in lower or upper case. -/
def digit? (c : Char) : Option ℕ :=
  if '0' ≤ c ∧ c ≤ '9' then some (c.toNat - 48)
  else if 'a' ≤ c ∧ c ≤ 'f' then some (c.toNat - 87)
  else if 'A' ≤ c ∧ c ≤ 'F' then some (c.toNat - 55)
  else none

/-- The last `width` digits of a number. -/
def digits (base : ℕ) : ℕ → ℕ → List Char
  | 0, _ => []
  | width + 1, n => digits base width (n / base) ++ [Nat.digitChar (n % base)]

/-- The number that the digits of a text denote, read on from `n`; `none` when one is
no digit of the base. -/
def read (base n : ℕ) : List Char → Option ℕ
  | [] => some n
  | c :: rest => (digit? c).bind fun d => if d < base then read base (base * n + d) rest else none

/-- A number of `width` digits in front of a text. -/
def scan (base width : ℕ) (text : List Char) : Option (ℕ × List Char) :=
  if (text.take width).length = width then (read base 0 (text.take width)).map fun n => (n, text.drop width) else none

theorem digit?_digitChar {d : ℕ} (h : d < 16) : digit? (Nat.digitChar d) = some d := by
  have hall : ∀ d < 16, digit? (Nat.digitChar d) = some d := by decide
  exact hall d h

section Base

variable {base : ℕ} (hpos : 0 < base) (hbase : base ≤ 16)

theorem length_digits (base width n : ℕ) : (digits base width n).length = width := by
  induction width generalizing n with
  | zero => rfl
  | succ width ih => simp [digits, ih]

theorem read_append (n : ℕ) (text rest : List Char) :
    read base n (text ++ rest) = (read base n text).bind fun m => read base m rest := by
  induction text generalizing n with
  | nil => rfl
  | cons c text ih =>
    simp only [List.cons_append, read]
    cases digit? c with
    | none => rfl
    | some d =>
      simp only [Option.bind_some]
      split
      · exact ih _
      · rfl

include hpos hbase

/-- Reading the digits of a number that has no more of them gives the number. -/
theorem read_digits {width n : ℕ} (h : n < base ^ width) (m : ℕ) :
    read base m (digits base width n) = some (base ^ width * m + n) := by
  induction width generalizing n with
  | zero =>
    have hzero : n = 0 := Nat.lt_one_iff.mp h
    simp [digits, read, hzero]
  | succ width ih =>
    have hdiv : n / base < base ^ width := by
      rw [Nat.div_lt_iff_lt_mul hpos]
      rw [pow_succ] at h
      exact h
    have hmod : n % base < base := Nat.mod_lt n hpos
    rw [digits, read_append, ih hdiv]
    simp only [Option.bind_some, read, digit?_digitChar (Nat.lt_of_lt_of_le hmod hbase), if_pos hmod, Option.some.injEq,
      pow_succ]
    have hsplit := Nat.div_add_mod n base
    calc base * (base ^ width * m + n / base) + n % base
        = base ^ width * base * m + (base * (n / base) + n % base) := by ring
      _ = base ^ width * base * m + n := by rw [hsplit]

theorem scan_digits {width n : ℕ} (h : n < base ^ width) (rest : List Char) :
    scan base width (digits base width n ++ rest) = some (n, rest) := by
  have hlength := length_digits base width n
  have htake : (digits base width n ++ rest).take width = digits base width n := List.take_left' hlength
  have hdrop : (digits base width n ++ rest).drop width = rest := List.drop_left' hlength
  rw [scan, htake, hdrop, if_pos hlength, read_digits hpos hbase h]
  simp

end Base

end PaddedDigits
