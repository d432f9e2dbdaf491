import Mathlib.Data.List.Basic
import Mathlib.Logic.Basic

/-! The text of a table with separated fields, and how it is read. -/

/-- The characters of a dialect, whose records end with a carriage return and a line feed. -/
structure CsvDialect where
  delimiter : Char
  quotechar : Char
  delimiter_ne_quotechar : delimiter ≠ quotechar
  delimiter_ne_newline : delimiter ≠ '\r' ∧ delimiter ≠ '\n'
  quotechar_ne_newline : quotechar ≠ '\r' ∧ quotechar ≠ '\n'

namespace Csv

variable (d : CsvDialect)

/-- A field with the character is set in quotes. -/
def special (c : Char) : Bool := c = d.delimiter || c = d.quotechar || c = '\r' || c = '\n'

def doubled (text : List Char) : List Char :=
  text.flatMap fun c => if c = d.quotechar then [d.quotechar, d.quotechar] else [c]

def quoted (text : List Char) : List Char := d.quotechar :: (doubled d text ++ [d.quotechar])

/-- A field, in quotes where it needs them. -/
def writeField (text : List Char) : List Char := if text.any (special d) then quoted d text else text

/-- The fields of a record. One empty field is quoted, for it not to look like no field. -/
def writeFields : List (List Char) → List Char
  | [[]] => quoted d []
  | fields => [d.delimiter].intercalate (fields.map (writeField d))

def writeRecord (fields : List (List Char)) : List Char := writeFields d fields ++ ['\r', '\n']

def write (records : List (List (List Char))) : List Char := records.flatMap (writeRecord d)

/-- Where in a record the reader is. -/
inductive Mode where
  /-- Nothing of the record is read. -/
  | record
  /-- Nothing of the field is read. -/
  | field
  | plain
  | quoted
  /-- A quote in a quoted field may be the first of two. -/
  | quote
  /-- A line feed after a carriage return ends no other record. -/
  | newline
  deriving DecidableEq

structure Reader where
  mode : Mode := .record
  text : List Char := []
  fields : List (List Char) := []
  records : List (List (List Char)) := []

namespace Reader

variable (r : Reader)

def endField : Reader := { r with mode := .field, text := [], fields := r.fields ++ [r.text] }

def endRecord (c : Char) : Reader :=
  { mode := if c = '\r' then .newline else .record, records := r.records ++ [r.fields ++ [r.text]] }

/-- A record without fields. -/
def endEmpty (c : Char) : Reader := { mode := if c = '\r' then .newline else .record, records := r.records ++ [[]] }

def push (mode : Mode) (c : Char) : Reader := { r with mode, text := r.text ++ [c] }

def isNewline (c : Char) : Bool := c = '\r' || c = '\n'

/-- A character behind a field that is not, or not any more, in quotes. -/
def separate (c : Char) : Option Reader :=
  if c = d.delimiter then some r.endField else if isNewline c then some (r.endRecord c) else none

/-- The first character of a field. -/
def feedField (c : Char) : Reader :=
  if c = d.quotechar then { r with mode := .quoted } else (r.separate d c).getD (r.push .plain c)

/-- The first character of a record. -/
def feedRecord (c : Char) : Reader := if isNewline c then r.endEmpty c else r.feedField d c

def feed (c : Char) : Option Reader :=
  match r.mode with
  | .record => some (r.feedRecord d c)
  | .field => some (r.feedField d c)
  | .plain => some ((r.separate d c).getD (r.push .plain c))
  | .quoted => if c = d.quotechar then some { r with mode := .quote } else some (r.push .quoted c)
  | .quote => if c = d.quotechar then some (r.push .quoted c) else r.separate d c
  | .newline => if c = '\n' then some { r with mode := .record } else some (r.feedRecord d c)

def run (text : List Char) : Option Reader := text.foldlM (feed d) r

/-- The records at the end of the text, unless it ends in a quoted field. -/
def finish : Option (List (List (List Char))) :=
  match r.mode with
  | .record | .newline => some r.records
  | .field | .plain | .quote => some (r.records ++ [r.fields ++ [r.text]])
  | .quoted => none

end Reader

/-- The records of a text. -/
def read (text : List Char) : Option (List (List (List Char))) := (Reader.run d {} text).bind Reader.finish

namespace Reader

variable {d} {r : Reader}

theorem run_append (r : Reader) (a b : List Char) : r.run d (a ++ b) = (r.run d a).bind fun r' => r'.run d b :=
  List.foldlM_append ..

theorem run_cons (r : Reader) (c : Char) (rest : List Char) :
    r.run d (c :: rest) = (r.feed d c).bind fun r' => r'.run d rest :=
  List.foldlM_cons ..

theorem run_nil (r : Reader) : r.run d [] = some r := rfl

/-- The reader is ready for a field, of a record that `fields` begins. -/
structure Awaits (r : Reader) (fields : List (List Char)) : Prop where
  mode : r.mode = .field
  text : r.text = []
  fields : r.fields = fields

/-- The reader has read a field, which ends before the next separator. -/
structure Holds (r : Reader) (fields : List (List Char)) (text : List Char) : Prop where
  mode : r.mode = .field ∧ text = [] ∨ r.mode = .plain ∨ r.mode = .quote
  text : r.text = text
  fields : r.fields = fields

theorem isNewline_delimiter : isNewline d.delimiter = false := by
  simp [isNewline, d.delimiter_ne_newline]

theorem isNewline_quotechar : isNewline d.quotechar = false := by
  simp [isNewline, d.quotechar_ne_newline]

/-- What follows a field that the reader holds. -/
theorem Holds.feed {fields : List (List Char)} {text : List Char} (h : r.Holds fields text) {c : Char} {r' : Reader}
    (hc : c ≠ d.quotechar) (hseparate : r.separate d c = some r') : r.feed d c = some r' := by
  obtain ⟨hmode, -⟩ | hmode | hmode := h.mode
  all_goals
    unfold Reader.feed
    rw [hmode]
  · simp [feedField, hc, hseparate]
  · simp [hseparate]
  · simp [hc, hseparate]

/-- The quotes of a field that the writer has doubled. -/
theorem run_doubled (hmode : r.mode = .quoted) (text : List Char) :
    r.run d (doubled d text) = some { r with text := r.text ++ text } := by
  induction text generalizing r with
  | nil =>
    rw [List.append_nil]
    rfl
  | cons c rest ih =>
    have hstep : r.run d (if c = d.quotechar then [d.quotechar, d.quotechar] else [c]) = some (r.push .quoted c) := by
      split
      · rename_i hquote
        subst hquote
        simp [run, feed, hmode, push]
      · rename_i hquote
        simp [run, feed, hmode, hquote]
    have hcons : doubled d (c :: rest) =
        (if c = d.quotechar then [d.quotechar, d.quotechar] else [c]) ++ doubled d rest := rfl
    have hrest : (r.push .quoted c).run d (doubled d rest) = _ := ih rfl
    rw [hcons, run_append, hstep, Option.bind_some, hrest]
    simp [push, hmode]

theorem run_quoted {fields : List (List Char)} (h : r.Awaits fields) (text : List Char) :
    ∃ r', r.run d (quoted d text) = some r' ∧ r'.Holds fields text ∧ r'.records = r.records := by
  have hopen : r.feed d d.quotechar = some { r with mode := .quoted } := by
    simp [feed, h.mode, feedField]
  have hbody : ({ r with mode := .quoted } : Reader).run d (doubled d text) = _ := run_doubled rfl text
  refine ⟨{ r with mode := .quote, text := r.text ++ text }, ?_, ⟨.inr (.inr rfl), ?_, h.fields⟩, rfl⟩
  · rw [quoted, run_cons, hopen, Option.bind_some, run_append, hbody, Option.bind_some, run_cons]
    simp [feed, run_nil]
  · rw [h.text, List.nil_append]

/-- A character that needs no quotes. -/
theorem push_of_not_special {c : Char} (hc : special d c = false) :
    r.feedField d c = r.push .plain c ∧ r.separate d c = none := by
  simp only [special, Bool.or_eq_false_iff, decide_eq_false_iff_not] at hc
  obtain ⟨⟨⟨hdelimiter, hquote⟩, hreturn⟩, hfeed⟩ := hc
  have hseparate : r.separate d c = none := by simp [separate, hdelimiter, isNewline, hreturn, hfeed]
  exact ⟨by simp [feedField, hquote, hseparate], hseparate⟩

theorem run_plain {text : List Char} (hplain : text.any (special d) = false) (hmode : r.mode = .plain) :
    r.run d text = some { r with text := r.text ++ text } := by
  induction text generalizing r with
  | nil =>
    rw [List.append_nil]
    rfl
  | cons c rest ih =>
    rw [List.any_cons, Bool.or_eq_false_iff] at hplain
    have hstep : r.feed d c = some (r.push .plain c) := by
      simp [feed, hmode, (push_of_not_special hplain.1).2]
    have hrest : (r.push .plain c).run d rest = _ := ih hplain.2 rfl
    rw [run_cons, hstep, Option.bind_some, hrest]
    simp [push, hmode]

/-- A field is read as it was written. -/
theorem run_writeField {fields : List (List Char)} (h : r.Awaits fields) (text : List Char) :
    ∃ r', r.run d (writeField d text) = some r' ∧ r'.Holds fields text ∧ r'.records = r.records := by
  unfold writeField
  split
  · exact run_quoted h text
  · rename_i hplain
    rw [Bool.not_eq_true] at hplain
    cases text with
    | nil => exact ⟨r, rfl, ⟨.inl ⟨h.mode, rfl⟩, h.text, h.fields⟩, rfl⟩
    | cons c rest =>
      rw [List.any_cons, Bool.or_eq_false_iff] at hplain
      have hstep : r.feed d c = some (r.push .plain c) := by
        simp [feed, h.mode, (push_of_not_special hplain.1).1]
      have hrest : (r.push .plain c).run d rest = _ := run_plain hplain.2 rfl
      refine ⟨{ r with mode := .plain, text := r.text ++ c :: rest }, ?_, ⟨.inr (.inl rfl), ?_, h.fields⟩, rfl⟩
      · rw [run_cons, hstep, Option.bind_some, hrest]
        simp [push]
      · rw [h.text, List.nil_append]

theorem Holds.feed_delimiter {fields : List (List Char)} {text : List Char} (h : r.Holds fields text) :
    ∃ r', r.feed d d.delimiter = some r' ∧ r'.Awaits (fields ++ [text]) ∧ r'.records = r.records := by
  refine ⟨r.endField, h.feed d.delimiter_ne_quotechar (by simp [separate]), ⟨rfl, rfl, ?_⟩, rfl⟩
  rw [endField, h.fields, h.text]

/-- The end of a record, of which the reader holds the last field. -/
theorem Holds.run_newline {fields : List (List Char)} {text : List Char} (h : r.Holds fields text) :
    r.run d ['\r', '\n'] = some { records := r.records ++ [fields ++ [text]] } := by
  have hreturn : r.feed d '\r' = some (r.endRecord '\r') := by
    refine h.feed d.quotechar_ne_newline.1.symm ?_
    simp [separate, d.delimiter_ne_newline.1.symm, isNewline]
  rw [run_cons, hreturn, Option.bind_some, run_cons]
  simp [Reader.feed, endRecord, run_nil, h.fields, h.text]

/-- The fields after the first one. -/
theorem run_rest {before : List (List Char)} {first : List Char} (h : r.Holds before first) (rest : List (List Char)) :
    ∃ r' last fields, r.run d (rest.flatMap fun text => d.delimiter :: writeField d text) = some r' ∧
      r'.Holds fields last ∧ r'.records = r.records ∧ fields ++ [last] = before ++ first :: rest := by
  induction rest generalizing r before first with
  | nil => exact ⟨r, first, before, rfl, h, rfl, rfl⟩
  | cons text rest ih =>
    obtain ⟨r₁, hdelimiter, hawaits, hrecords₁⟩ := h.feed_delimiter (d := d)
    obtain ⟨r₂, hfield, hholds, hrecords₂⟩ := run_writeField (d := d) hawaits text
    obtain ⟨r₃, last, fields, hrest, hlast, hrecords₃, heq⟩ := ih hholds
    refine ⟨r₃, last, fields, ?_, hlast, hrecords₃.trans (hrecords₂.trans hrecords₁), ?_⟩
    · rw [List.flatMap_cons, run_append, run_cons, hdelimiter, Option.bind_some, hfield, Option.bind_some, hrest]
    · rw [heq, List.append_assoc]
      rfl

/-- A record that does not begin with a newline begins with a field. -/
theorem run_of_not_isNewline (hmode : r.mode = .record) {c : Char} (hc : isNewline c = false) (rest : List Char) :
    r.run d (c :: rest) = ({ r with mode := .field } : Reader).run d (c :: rest) := by
  have hstep : r.feed d c = ({ r with mode := .field } : Reader).feed d c := by
    simp only [feed, hmode, feedRecord, hc, Bool.false_eq_true, if_false]
    rfl
  rw [run_cons, run_cons, hstep]

end Reader

variable {d}

theorem intercalate_cons (first : List Char) (rest : List (List Char)) :
    [d.delimiter].intercalate ((first :: rest).map (writeField d)) =
      writeField d first ++ rest.flatMap fun text => d.delimiter :: writeField d text := by
  induction rest generalizing first with
  | nil => simp [List.intercalate]
  | cons second rest ih =>
    have hsecond := ih second
    rw [List.map_cons] at hsecond
    rw [List.map_cons, List.map_cons, List.intercalate_cons_cons, hsecond]
    simp

/-- The fields of a record do not look like the end of one. -/
theorem writeFields_head (first : List Char) (rest : List (List Char)) :
    ∃ c text, writeFields d (first :: rest) = c :: text ∧ Reader.isNewline c = false := by
  have hquoted : ∀ text, ∃ c rest, quoted d text = c :: rest ∧ Reader.isNewline c = false :=
    fun text => ⟨_, _, rfl, Reader.isNewline_quotechar⟩
  cases first with
  | nil =>
    cases rest with
    | nil => exact hquoted []
    | cons second rest => exact ⟨d.delimiter, _, rfl, Reader.isNewline_delimiter⟩
  | cons c text =>
    have hwrite : writeFields d ((c :: text) :: rest) = _ := intercalate_cons (c :: text) rest
    rw [hwrite, writeField]
    split
    · obtain ⟨c', text', hhead, hc'⟩ := hquoted (c :: text)
      rw [hhead]
      exact ⟨c', _, rfl, hc'⟩
    · rename_i hplain
      rw [List.any_cons, Bool.not_eq_true, Bool.or_eq_false_iff] at hplain
      obtain ⟨hc, -⟩ := hplain
      simp only [special, Bool.or_eq_false_iff] at hc
      exact ⟨c, _, rfl, by simp [Reader.isNewline, hc]⟩

theorem run_writeFields {r : Reader} (h : r.Awaits []) (first : List Char) (rest : List (List Char)) :
    ∃ r' last fields, r.run d (writeFields d (first :: rest)) = some r' ∧ r'.Holds fields last ∧
      r'.records = r.records ∧ fields ++ [last] = first :: rest := by
  by_cases hempty : first = [] ∧ rest = []
  · obtain ⟨rfl, rfl⟩ := hempty
    obtain ⟨r', hrun, hholds, hrecords⟩ := Reader.run_quoted h []
    exact ⟨r', [], [], hrun, hholds, hrecords, rfl⟩
  · have hwrite : writeFields d (first :: rest) = [d.delimiter].intercalate ((first :: rest).map (writeField d)) := by
      cases first with
      | nil =>
        cases rest with
        | nil => exact absurd ⟨rfl, rfl⟩ hempty
        | cons => rfl
      | cons => rfl
    obtain ⟨r₁, hfirst, hholds, hrecords₁⟩ := Reader.run_writeField h first
    obtain ⟨r₂, last, fields, hrest, hlast, hrecords₂, heq⟩ := Reader.run_rest (d := d) hholds rest
    refine ⟨r₂, last, fields, ?_, hlast, hrecords₂.trans hrecords₁, heq⟩
    rw [hwrite, intercalate_cons, Reader.run_append, hfirst, Option.bind_some, hrest]

/-- A record is read as it was written. -/
theorem run_writeRecord (records : List (List (List Char))) (fields : List (List Char)) :
    ({ records } : Reader).run d (writeRecord d fields) = some { records := records ++ [fields] } := by
  unfold writeRecord
  rw [Reader.run_append]
  cases fields with
  | nil => rfl
  | cons first rest =>
    obtain ⟨c, text, hhead, hc⟩ := writeFields_head (d := d) first rest
    have hawaits : ({ mode := .field, records } : Reader).Awaits [] := ⟨rfl, rfl, rfl⟩
    obtain ⟨r', last, fields, hrun, hholds, hrecords, hfields⟩ := run_writeFields (d := d) hawaits first rest
    rw [hhead] at hrun
    rw [hhead, Reader.run_of_not_isNewline rfl hc, hrun, Option.bind_some, hholds.run_newline, hrecords, hfields]

/-- A table is read as it was written. -/
theorem read_write (d : CsvDialect) (records : List (List (List Char))) : read d (write d records) = some records := by
  have hrun : ∀ (records before : List (List (List Char))),
      ({ records := before } : Reader).run d (write d records) = some { records := before ++ records } := by
    intro records
    induction records with
    | nil =>
      intro before
      rw [List.append_nil]
      rfl
    | cons fields rest ih =>
      intro before
      have hwrite : write d (fields :: rest) = writeRecord d fields ++ write d rest := rfl
      rw [hwrite, Reader.run_append, run_writeRecord, Option.bind_some, ih, List.append_assoc]
      rfl
  have hread := hrun records []
  rw [List.nil_append] at hread
  rw [read, hread]
  rfl

variable (d)

/-- The text of records of texts. -/
def render (records : List (List String)) : String :=
  String.ofList (write d (records.map fun fields => fields.map String.toList))

def parse (text : String) : Option (List (List String)) :=
  (read d text.toList).map fun records => records.map fun fields => fields.map String.ofList

theorem parse_render (records : List (List String)) : parse d (render d records) = some records := by
  rw [parse, render, String.toList_ofList, read_write]
  simp

end Csv
