import Mathlib.Data.List.Basic
import Mathlib.Data.List.TakeWhile
import EdgeGateway.Library.Dict
import EdgeGateway.Library.JsonValue
import EdgeGateway.Library.Raising

/-- A POSIX path as `pathlib` holds it: without empty and `.` components. -/
structure PurePath where
  root : String
  parts : List String
  deriving DecidableEq

namespace PurePath

/-- Two leading slashes are kept, any other number of them counts as one. -/
def parse (path : String) : PurePath :=
  let slashes := path.toList.takeWhile (· = '/')
  { root := if slashes.length = 2 then "//" else if slashes = [] then "" else "/"
    parts := ((path.toList.splitOn '/').filter fun part => part ≠ [] && part ≠ ['.']).map String.ofList }

/-- The name up to its last dot, if that dot neither starts nor ends it. -/
def stem (name : String) : String :=
  let suffix := name.toList.reverse.takeWhile (· ≠ '.')
  match name.toList.reverse.drop suffix.length with
  | _ :: before => if suffix = [] || before = [] then name else String.ofList before.reverse
  | [] => name

/-- `with_suffix`; `none` stands for the ValueError of a path without a name. -/
def with_suffix (path : PurePath) (suffix : String) : Option PurePath :=
  path.parts.getLast?.map fun name => { path with parts := path.parts.dropLast ++ [stem name ++ suffix] }

example : (parse "/models//edge.v2.onnx").with_suffix ".json" =
    some { root := "/", parts := ["models", "edge.v2.json"] } := by decide

/-- A text that names a file together with what is in front of it. -/
structure IsExtension (ext : List Char) : Prop where
  no_slash : '/' ∉ ext
  length : 2 ≤ ext.length

theorem isExtension_onnx : IsExtension ".onnx".toList := ⟨by decide, by decide⟩

theorem isExtension_json : IsExtension ".json".toList := ⟨by decide, by decide⟩

/-- The part of a text behind its last slash. -/
theorem exists_last_part (text : List Char) :
    ('/' ∉ text) ∨ ∃ before last, text = before ++ '/' :: last ∧ '/' ∉ last := by
  induction text with
  | nil => exact .inl List.not_mem_nil
  | cons c rest ih =>
    obtain hnone | ⟨before, last, heq, hlast⟩ := ih
    · by_cases hc : c = '/'
      · exact .inr ⟨[], rest, by rw [hc, List.nil_append], hnone⟩
      · left
        rw [List.mem_cons, not_or]
        exact ⟨Ne.symm hc, hnone⟩
    · exact .inr ⟨c :: before, last, by rw [heq, List.cons_append], hlast⟩

theorem takeWhile_slash_append {ext : List Char} (hext : IsExtension ext) (text : List Char) :
    (text ++ ext).takeWhile (· = '/') = text.takeWhile (· = '/') := by
  have hnone : ext.takeWhile (· = '/') = [] := by
    cases ext with
    | nil => rfl
    | cons c rest =>
      have hc : c ≠ '/' := fun heq => hext.no_slash (heq ▸ List.mem_cons_self)
      rw [List.takeWhile_cons, if_neg (by simpa using hc)]
  rw [List.takeWhile_append]
  split
  · rename_i hlength
    rw [hnone, List.append_nil, (List.takeWhile_prefix _).eq_of_length hlength]
  · rfl

/-- An extension only changes the name of the file. -/
theorem parse_append (text : List Char) :
    ∃ root parts last, (last = [] → text = [] ∨ text.getLast? = some '/') ∧ ∀ ext, IsExtension ext →
      parse (String.ofList (text ++ ext)) = { root, parts := parts ++ [String.ofList (last ++ ext)] } := by
  have hlast : ∀ (parts : List (List Char)) (last ext : List Char), IsExtension ext →
      ((parts ++ [last ++ ext]).filter fun part => part ≠ [] && part ≠ ['.']).map String.ofList =
        (parts.filter fun part => part ≠ [] && part ≠ ['.']).map String.ofList ++ [String.ofList (last ++ ext)] := by
    intro parts last ext hext
    have hlength : 2 ≤ (last ++ ext).length := by
      have hext := hext.length
      rw [List.length_append]
      omega
    have hkeep : (last ++ ext ≠ [] && last ++ ext ≠ ['.']) = true := by
      rw [Bool.and_eq_true, decide_eq_true_iff, decide_eq_true_iff]
      constructor <;> intro heq <;> rw [heq] at hlength <;> simp at hlength
    rw [List.filter_append, List.map_append, List.filter_singleton, hkeep, cond_true, List.map_singleton]
  obtain hnone | ⟨before, last, rfl, hno⟩ := exists_last_part text
  · refine ⟨(parse (String.ofList text)).root, [], text, .inl, fun ext hext => ?_⟩
    have hsplit : (text ++ ext).splitOn '/' = [] ++ [text ++ ext] := by
      rw [List.nil_append]
      refine List.splitOn_eq_singleton fun hmem => ?_
      exact (List.mem_append.mp hmem).elim hnone hext.no_slash
    simp only [parse, String.toList_ofList, hsplit, hlast [] text ext hext, takeWhile_slash_append hext,
      List.filter_nil, List.map_nil]
  · refine ⟨(parse (String.ofList (before ++ '/' :: last))).root,
      ((before.splitOn '/').filter fun part => part ≠ [] && part ≠ ['.']).map String.ofList, last, ?_,
      fun ext hext => ?_⟩
    · rintro rfl
      exact .inr (by simp)
    · have hsplit : (before ++ '/' :: last ++ ext).splitOn '/' = before.splitOn '/' ++ [last ++ ext] := by
        rw [List.append_assoc, List.cons_append, List.splitOn_append_cons_self]
        refine congrArg _ (List.splitOn_eq_singleton fun hmem => ?_)
        exact (List.mem_append.mp hmem).elim hno hext.no_slash
      simp only [parse, String.toList_ofList, hsplit, hlast _ last ext hext, takeWhile_slash_append hext]

/-- The stem of a name with an extension. -/
theorem stem_append {name ext : List Char} (hname : name ≠ []) (hext : ext ≠ []) (hdot : '.' ∉ ext) :
    stem (String.ofList (name ++ '.' :: ext)) = String.ofList name := by
  have hreverse : (name ++ '.' :: ext).reverse = ext.reverse ++ '.' :: name.reverse := by simp
  have htake : (ext.reverse ++ '.' :: name.reverse).takeWhile (· ≠ '.') = ext.reverse := by
    rw [List.takeWhile_append_of_pos, List.takeWhile_cons, if_neg (by simp), List.append_nil]
    intro c hc
    simp only [decide_eq_true_eq]
    rintro rfl
    exact hdot (List.mem_reverse.mp hc)
  simp only [stem, String.toList_ofList, hreverse, htake, List.drop_left, List.reverse_eq_nil_iff, hext, hname,
    decide_false, Bool.or_self, Bool.false_eq_true, if_false, List.reverse_reverse]

/-- The path of a file `*.onnx` that is not hidden. -/
def IsOnnx (path : PurePath) : Prop :=
  ∃ name, name ≠ [] ∧ path.parts.getLast? = some (String.ofList (name ++ ".onnx".toList))

theorem with_suffix_of_onnx {path : PurePath} {name : List Char} (hname : name ≠ [])
    (h : path.parts.getLast? = some (String.ofList (name ++ ".onnx".toList))) :
    path.with_suffix ".json" =
      some { path with parts := path.parts.dropLast ++ [String.ofList (name ++ ".json".toList)] } := by
  have hstem : stem (String.ofList (name ++ ".onnx".toList)) = String.ofList name :=
    stem_append hname (by decide) (by decide)
  have hjson : String.ofList (name ++ ".json".toList) = String.ofList name ++ ".json" := by
    rw [String.ofList_append, String.ofList_toList]
  rw [with_suffix, h, Option.map_some, hstem, hjson]

/-- Different models have different sidecars. -/
theorem with_suffix_inj {p q : PurePath} (hp : p.IsOnnx) (hq : q.IsOnnx)
    (h : p.with_suffix ".json" = q.with_suffix ".json") : p = q := by
  obtain ⟨n, hn, hpname⟩ := hp
  obtain ⟨m, hm, hqname⟩ := hq
  rw [with_suffix_of_onnx hn hpname, with_suffix_of_onnx hm hqname, Option.some.injEq] at h
  obtain ⟨hroot, hparts⟩ := PurePath.mk.inj h
  obtain ⟨hdirectory, hlast⟩ := List.append_inj' hparts rfl
  have hnm : n = m := by
    have hchars := String.ofList_injective (List.singleton_injective hlast)
    exact List.append_cancel_right hchars
  have hsame : p.parts = q.parts := by
    rw [← List.dropLast_append_getLast? _ hpname, ← List.dropLast_append_getLast? _ hqname, hdirectory, hnm]
  obtain ⟨root, parts⟩ := p
  obtain ⟨root', parts'⟩ := q
  exact PurePath.mk.injEq .. ▸ ⟨hroot, hsame⟩

/-- A sidecar is no model. -/
theorem IsOnnx.with_suffix_ne {p q : PurePath} (hp : p.IsOnnx) (hq : q.IsOnnx) : p.with_suffix ".json" ≠ some q := by
  intro h
  obtain ⟨n, hn, hname⟩ := hp
  obtain ⟨m, -, hqname⟩ := hq
  rw [with_suffix_of_onnx hn hname, Option.some.injEq] at h
  rw [← h, List.getLast?_concat, Option.some.injEq] at hqname
  have hchars := congrArg List.getLast? (String.ofList_injective hqname)
  rw [List.getLast?_append, List.getLast?_append] at hchars
  cases hchars

/-- The sidecar of a file by its path, and by its text. -/
theorem parse_onnx {text : List Char} (htext : text ≠ []) (hslash : text.getLast? ≠ some '/') :
    (parse (String.ofList (text ++ ".onnx".toList))).IsOnnx ∧
      (parse (String.ofList (text ++ ".onnx".toList))).with_suffix ".json" =
        some (parse (String.ofList (text ++ ".json".toList))) := by
  obtain ⟨root, parts, last, hlast, hparse⟩ := parse_append text
  have hne : last ≠ [] := fun heq => (hlast heq).elim htext hslash
  have hname : (parse (String.ofList (text ++ ".onnx".toList))).parts.getLast? =
      some (String.ofList (last ++ ".onnx".toList)) := by
    rw [hparse _ isExtension_onnx, List.getLast?_concat]
  refine ⟨⟨last, hne, hname⟩, ?_⟩
  rw [with_suffix_of_onnx hne hname, hparse _ isExtension_onnx, hparse _ isExtension_json, List.dropLast_concat]

end PurePath

structure File where
  content : List UInt8
  mtime : ℤ
  deriving DecidableEq

/-- The files by their paths. There are no links. -/
abbrev FileSystem := Dict PurePath File

/-- What comes of writing to a file. -/
inductive WriteOutcome where
  | completes
  | refused (e : PyExc)
  /-- The file was emptied, and only so many bytes came through. -/
  | interrupted (written : ℕ) (e : PyExc)

/-- `os.path.join` of two parts. -/
def path_join (a b : String) : String :=
  if b.toList.head? = some '/' then b
  else if a = "" ∨ a.toList.getLast? = some '/' then a ++ b
  else a ++ "/" ++ b

namespace FileSystem

def has (files : FileSystem) (path : String) : Bool := (files.get? (PurePath.parse path)).isSome

/-- `with open(path, "wb") as f: f.write(content)`. -/
def write (path : String) (content : List UInt8) (mtime : ℤ) : WriteOutcome → Raising FileSystem PyExc Unit
  | .completes => modify fun files => files.set (PurePath.parse path) { content, mtime }
  | .refused e => throw e
  | .interrupted written e => do
    modify fun files => files.set (PurePath.parse path) { content := content.take written, mtime }
    throw e

end FileSystem
