import EdgeGateway.Library.PyDecimal

/-- A UUID by its 128-bit number. -/
abbrev Uuid := Fin (2 ^ 128)

namespace Uuid

instance : NeZero (2 ^ 128) := ⟨by decide⟩

open PaddedDigits

/-- `str(uuid)`. -/
def str (u : Uuid) : String :=
  let hex := digits 16 32 u
  String.ofList (hex.take 8 ++ '-' :: ((hex.drop 8).take 4 ++ '-' :: ((hex.drop 12).take 4 ++ '-' ::
    ((hex.drop 16).take 4 ++ '-' :: hex.drop 20))))

/-- The digits of a text in groups of 8, 4, 4, 4 and 12. -/
def hyphenated (text : List Char) : Option (List Char) :=
  if text.length = 36 ∧ text[8]? = some '-' ∧ text[13]? = some '-' ∧ text[18]? = some '-' ∧ text[23]? = some '-' then
    some (text.take 8 ++ (text.drop 9).take 4 ++ (text.drop 14).take 4 ++ (text.drop 19).take 4 ++ text.drop 24)
  else none

/-- A text as a parser of UUIDs takes it: the digits alone, in groups, and the groups
in braces or as a URN. -/
def parse (text : String) : Option Uuid := do
  let text := text.toList
  let hex ←
    if text.length = 32 then some text
    else if text.length = 36 then hyphenated text
    else if text.head? = some '\x7b' ∧ text.getLast? = some '\x7d' then hyphenated text.tail.dropLast
    else if text.take 9 = "urn:uuid:".toList then hyphenated (text.drop 9)
    else none
  let n ← read 16 0 hex
  if h : n < 2 ^ 128 then some ⟨n, h⟩ else none

theorem hyphenated_groups {a b c d e : List Char} (ha : a.length = 8) (hb : b.length = 4) (hc : c.length = 4)
    (hd : d.length = 4) (he : e.length = 12) :
    hyphenated (a ++ '-' :: (b ++ '-' :: (c ++ '-' :: (d ++ '-' :: e)))) = some (a ++ b ++ c ++ d ++ e) := by
  rw [hyphenated, if_pos]
  · simp (disch := omega) [List.drop_append, List.drop_eq_nil_of_le, ha, hb, hc, hd]
  · simp [ha, hb, hc, hd, he]

/-- A UUID is read back from its text. -/
theorem parse_str (u : Uuid) : parse u.str = some u := by
  obtain ⟨n, hn⟩ := u
  have hhex : (digits 16 32 n).length = 32 := length_digits 16 32 n
  generalize hdigits : digits 16 32 n = hex at hhex
  have hbound : n < 16 ^ 32 := hn
  have hread := read_digits (by decide) (by decide) hbound 0
  rw [hdigits] at hread
  have hgroups : hyphenated (hex.take 8 ++ '-' :: ((hex.drop 8).take 4 ++ '-' :: ((hex.drop 12).take 4 ++ '-' ::
      ((hex.drop 16).take 4 ++ '-' :: hex.drop 20)))) = some hex := by
    rw [hyphenated_groups (by simp [hhex]) (by simp [hhex]) (by simp [hhex]) (by simp [hhex]) (by simp [hhex])]
    have h16 := List.take_append_drop 4 (hex.drop 16)
    have h12 := List.take_append_drop 4 (hex.drop 12)
    have h8 := List.take_append_drop 4 (hex.drop 8)
    rw [List.drop_drop] at h16 h12 h8
    rw [List.append_assoc, List.append_assoc, List.append_assoc, h16, h12, h8, List.take_append_drop]
  have hstr : (str ⟨n, hn⟩).toList = hex.take 8 ++ '-' :: ((hex.drop 8).take 4 ++ '-' :: ((hex.drop 12).take 4 ++ '-' ::
      ((hex.drop 16).take 4 ++ '-' :: hex.drop 20))) := by
    rw [str, String.toList_ofList, hdigits]
  have hlength : (str ⟨n, hn⟩).toList.length = 36 := by
    rw [hstr]
    simp [hhex]
  have hnot : ¬ (str ⟨n, hn⟩).toList.length = 32 := by omega
  rw [← hstr] at hgroups
  simp only [parse, if_neg hnot, if_pos hlength, hgroups, Option.bind_eq_bind, Option.bind_some, hread, Nat.mul_zero,
    Nat.zero_add, dif_pos hn]

theorem str_injective : Function.Injective str := by
  intro u v h
  have hparse := parse_str u
  rw [h, parse_str] at hparse
  exact (Option.some.inj hparse).symm

end Uuid
