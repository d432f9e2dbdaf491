import EdgeGateway.Library.JsonValue
import EdgeGateway.Library.PyDecimal
import Mathlib.Data.Int.Notation

/-! Datetimes of the proleptic Gregorian calendar, and their ISO 8601 texts. -/

/-- A time of day, or a distance below one day. -/
structure PyTime where
  hour : ℕ
  minute : ℕ
  second : ℕ
  microsecond : ℕ
  deriving DecidableEq

namespace PyTime

def Valid (t : PyTime) : Prop := t.hour < 24 ∧ t.minute < 60 ∧ t.second < 60 ∧ t.microsecond < 1000000

instance (t : PyTime) : Decidable t.Valid := inferInstanceAs (Decidable (_ ∧ _))

def microseconds (t : PyTime) : ℕ := ((t.hour * 60 + t.minute) * 60 + t.second) * 1000000 + t.microsecond

end PyTime

/-- The fields of a datetime; `utcoffset` is the distance from UTC, westward when
`negative`, and None of a naive datetime. -/
structure PyDatetimeFields where
  year : ℕ
  month : ℕ
  day : ℕ
  time : PyTime
  utcoffset : Option (Bool × PyTime)
  deriving DecidableEq

namespace PyDatetime

def is_leap (year : ℕ) : Bool := year % 4 == 0 && (year % 100 != 0 || year % 400 == 0)

def days_in_month (year month : ℕ) : ℕ :=
  if month = 2 then (if is_leap year then 29 else 28)
  else if month = 4 ∨ month = 6 ∨ month = 9 ∨ month = 11 then 30 else 31

/-- A datetime that can be built. An offset of zero has no sign. -/
def Valid (t : PyDatetimeFields) : Prop :=
  (1 ≤ t.year ∧ t.year ≤ 9999) ∧ (1 ≤ t.month ∧ t.month ≤ 12) ∧ (1 ≤ t.day ∧ t.day ≤ days_in_month t.year t.month) ∧
    t.time.Valid ∧
    match t.utcoffset with
    | none => True
    | some (negative, offset) => offset.Valid ∧ (negative = true → offset.microseconds ≠ 0)

instance (t : PyDatetimeFields) : Decidable (Valid t) :=
  match h : t.utcoffset with
  | none => decidable_of_iff _ (by rw [Valid, h])
  | some (_, _) => decidable_of_iff _ (by rw [Valid, h])

end PyDatetime

abbrev PyDatetime := { t : PyDatetimeFields // PyDatetime.Valid t }

namespace PyDatetime

open PaddedDigits

/-- `HH:MM`, seconds unless `short` and zero, and microseconds unless zero. -/
def timeText (short : Bool) (t : PyTime) : List Char :=
  digits 10 2 t.hour ++ ':' :: (digits 10 2 t.minute ++
    if short = true ∧ t.second = 0 ∧ t.microsecond = 0 then []
    else ':' :: (digits 10 2 t.second ++ if t.microsecond = 0 then [] else '.' :: digits 10 6 t.microsecond))

def offsetText : Option (Bool × PyTime) → List Char
  | none => []
  | some (negative, offset) => (if negative then '-' else '+') :: timeText true offset

/-- `t.isoformat(separator)`. -/
def isoformatWith (separator : Char) (t : PyDatetime) : String :=
  String.ofList (digits 10 4 t.1.year ++ '-' :: (digits 10 2 t.1.month ++ '-' :: (digits 10 2 t.1.day ++
    separator :: (timeText false t.1.time ++ offsetText t.1.utcoffset))))

/-- `t.isoformat()`. -/
def isoformat (t : PyDatetime) : String := isoformatWith 'T' t

/-- `str(t)`. -/
def str (t : PyDatetime) : String := isoformatWith ' ' t

/-- Three or six digits of a second. -/
def scanFraction (text : List Char) : Option (ℕ × List Char) :=
  (scan 10 6 text).or ((scan 10 3 text).map fun (n, rest) => (n * 1000, rest))

/-- `HH[:MM[:SS[.fff[fff]]]]` in front of a text. -/
def scanTime (text : List Char) : Option (PyTime × List Char) := do
  let (hour, rest) ← scan 10 2 text
  if rest.head? = some ':' then do
    let (minute, rest) ← scan 10 2 rest.tail
    if rest.head? = some ':' then do
      let (second, rest) ← scan 10 2 rest.tail
      if rest.head? = some '.' then do
        let (microsecond, rest) ← scanFraction rest.tail
        some ({ hour, minute, second, microsecond }, rest)
      else some ({ hour, minute, second, microsecond := 0 }, rest)
    else some ({ hour, minute, second := 0, microsecond := 0 }, rest)
  else some ({ hour, minute := 0, second := 0, microsecond := 0 }, rest)

/-- What follows the time of day. -/
def scanOffset : List Char → Option (Option (Bool × PyTime))
  | [] => some none
  | sign :: rest => do
    let (offset, rest) ← scanTime rest
    if (sign = '+' ∨ sign = '-') ∧ rest = [] then
      some (some (sign = '-' && offset.microseconds != 0, offset))
    else none

/-- `datetime.fromisoformat(text)`, which takes more texts from Python 3.11 on; `none`
stands for ValueError. -/
def fromisoformat (text : String) : Option PyDatetime := do
  let (year, rest) ← scan 10 4 text.toList
  let (month, rest) ← if rest.head? = some '-' then scan 10 2 rest.tail else none
  let (day, rest) ← if rest.head? = some '-' then scan 10 2 rest.tail else none
  let (time, rest) ← if rest = [] then some ({ hour := 0, minute := 0, second := 0, microsecond := 0 }, [])
    else scanTime rest.tail
  let utcoffset ← scanOffset rest
  let t : PyDatetimeFields := { year, month, day, time, utcoffset }
  if h : Valid t then some ⟨t, h⟩ else none

/-- The days before the first of January of a year. -/
def days_before_year (year : ℕ) : ℕ := (year - 1) * 365 + (year - 1) / 4 - (year - 1) / 100 + (year - 1) / 400

/-- The days of a year before the first of a month. -/
def days_before_month (year month : ℕ) : ℕ := ((List.range' 1 (month - 1)).map (days_in_month year)).sum

/-- The days since the first day of the calendar. -/
def days (t : PyDatetime) : ℕ := days_before_year t.1.year + days_before_month t.1.year t.1.month + (t.1.day - 1)

/-- What a clock shows, in microseconds since the first day of the calendar. -/
def wall (t : PyDatetime) : ℤ := t.days * 86400000000 + t.1.time.microseconds

/-- The clock of UTC at the datetime, a naive one being in UTC. -/
def instant (t : PyDatetime) : ℤ :=
  match t.1.utcoffset with
  | none => t.wall
  | some (negative, offset) => if negative then t.wall + offset.microseconds else t.wall - offset.microseconds

/-- The end of the calendar. -/
def max_wall : ℤ := 3652059 * 86400000000

/-- `t + timedelta` by the clock; OverflowError outside of the calendar. -/
def plus (wall microseconds : ℤ) : Except PyExc ℤ :=
  if 0 ≤ wall + microseconds ∧ wall + microseconds < max_wall then .ok (wall + microseconds) else .error .OverflowError

theorem scan_pad {width n : ℕ} (h : n < 10 ^ width) (rest : List Char) :
    scan 10 width (digits 10 width n ++ rest) = some (n, rest) := scan_digits (by decide) (by decide) h rest

/-- A time of day is read back when neither a digit nor a separator follows. -/
theorem scanTime_timeText {t : PyTime} (ht : t.Valid) (short : Bool) {rest : List Char}
    (hrest : rest.head? ≠ some ':' ∧ rest.head? ≠ some '.') : scanTime (timeText short t ++ rest) = some (t, rest) := by
  obtain ⟨hour, minute, second, microsecond⟩ := t
  obtain ⟨hhour, hminute, hsecond, hmicrosecond⟩ : hour < 24 ∧ minute < 60 ∧ second < 60 ∧ microsecond < 1000000 := ht
  have hh : ∀ rest, scan 10 2 (digits 10 2 hour ++ rest) = some (hour, rest) := scan_pad (by omega)
  have hm : ∀ rest, scan 10 2 (digits 10 2 minute ++ rest) = some (minute, rest) := scan_pad (by omega)
  have hs : ∀ rest, scan 10 2 (digits 10 2 second ++ rest) = some (second, rest) := scan_pad (by omega)
  have hus : ∀ rest, scan 10 6 (digits 10 6 microsecond ++ rest) = some (microsecond, rest) := scan_pad (by omega)
  by_cases hshort : short = true ∧ second = 0 ∧ microsecond = 0
  · obtain ⟨rfl, rfl, rfl⟩ := hshort
    simp [timeText, scanTime, hh, hm, hrest]
  · by_cases hzero : microsecond = 0
    · simp only [timeText, if_neg hshort, if_pos hzero, scanTime, List.append_assoc, List.cons_append]
      simp [hh, hm, hs, hrest, hzero]
    · simp only [timeText, if_neg hshort, if_neg hzero, scanTime, List.append_assoc, List.cons_append]
      simp [hh, hm, hs, hus, scanFraction]

theorem offsetText_head (utcoffset : Option (Bool × PyTime)) :
    (offsetText utcoffset).head? ≠ some ':' ∧ (offsetText utcoffset).head? ≠ some '.' := by
  cases utcoffset with
  | none => simp [offsetText]
  | some pair =>
    obtain ⟨negative, offset⟩ := pair
    cases negative <;> simp [offsetText]

theorem scanOffset_offsetText {t : PyDatetimeFields} (ht : Valid t) : scanOffset (offsetText t.utcoffset) = some t.utcoffset := by
  obtain ⟨_, _, _, _, hoffset⟩ := ht
  cases hutcoffset : t.utcoffset with
  | none => rfl
  | some pair =>
    obtain ⟨negative, offset⟩ := pair
    rw [hutcoffset] at hoffset
    obtain ⟨hvalid, hnonzero⟩ := hoffset
    have hscan : scanTime (timeText true offset ++ []) = some (offset, []) := scanTime_timeText hvalid true (by simp)
    rw [List.append_nil] at hscan
    cases negative with
    | true =>
      have hne : (offset.microseconds != 0) = true := bne_iff_ne.mpr (hnonzero rfl)
      simp [offsetText, scanOffset, hscan, hne]
    | false => simp [offsetText, scanOffset, hscan]

/-- A datetime is read back from its text. -/
theorem fromisoformat_isoformat (t : PyDatetime) : fromisoformat t.isoformat = some t := by
  obtain ⟨t, hvalid⟩ := t
  obtain ⟨hyear, hmonth, hday, htime, _⟩ := id hvalid
  have hdays : days_in_month t.year t.month ≤ 31 := by
    unfold days_in_month
    split
    · split <;> omega
    · split <;> omega
  have hy : ∀ rest, scan 10 4 (digits 10 4 t.year ++ rest) = some (t.year, rest) := scan_pad (by omega)
  have hm : ∀ rest, scan 10 2 (digits 10 2 t.month ++ rest) = some (t.month, rest) := scan_pad (by omega)
  have hd : ∀ rest, scan 10 2 (digits 10 2 t.day ++ rest) = some (t.day, rest) := scan_pad (by omega)
  have hclock := scanTime_timeText htime false (offsetText_head t.utcoffset)
  have hoffset := scanOffset_offsetText hvalid
  simp [fromisoformat, isoformat, isoformatWith, hy, hm, hd, hclock, hoffset, hvalid]

end PyDatetime
