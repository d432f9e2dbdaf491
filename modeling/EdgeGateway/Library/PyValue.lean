import EdgeGateway.Library.JsonValue

/-- A value that a decoder of JSON or CBOR returns. -/
inductive PyValue where
  | none
  | bool (b : Bool)
  | int (n : ℤ)
  | float (x : PyFloat)
  | str (s : String)
  /-- A text with a lone surrogate, which is no `String`, by its code points. -/
  | surrogates (points : List ℕ)
  | bytes (bytes : List UInt8)
  | list (items : List PyValue)
  | tuple (items : List PyValue)
  | dict (items : List (PyValue × PyValue))
  /-- A value of any other class, such as a date or a set: what a JSON serializer
  writes for it, and for a key that it is. -/
  | object (text key : Option String)

namespace PyValue

mutual

/-- What `json.loads` returns, as a value among others. -/
def ofJson : JsonValue → PyValue
  | .null => .none
  | .bool b => .bool b
  | .int n => .int n
  | .float x => .float x
  | .str s => .str s
  | .list items => .list (ofJsonItems items)
  | .dict items => .dict (ofJsonDict items)

def ofJsonItems : List JsonValue → List PyValue
  | [] => []
  | item :: items => ofJson item :: ofJsonItems items

def ofJsonDict : List (String × JsonValue) → List (PyValue × PyValue)
  | [] => []
  | (key, value) :: items => (.str key, ofJson value) :: ofJsonDict items

end

mutual

theorem ofJson_inj : ∀ {v w : JsonValue}, ofJson v = ofJson w → v = w := by
  intro v w h
  match v, w with
  | .null, .null => rfl
  | .bool _, .bool _ => simpa [ofJson] using h
  | .int _, .int _ => simpa [ofJson] using h
  | .float _, .float _ => simpa [ofJson] using h
  | .str _, .str _ => simpa [ofJson] using h
  | .list items, .list items' =>
    simp only [ofJson, list.injEq] at h
    rw [ofJsonItems_inj h]
  | .dict items, .dict items' =>
    simp only [ofJson, dict.injEq] at h
    rw [ofJsonDict_inj h]

theorem ofJsonItems_inj : ∀ {v w : List JsonValue}, ofJsonItems v = ofJsonItems w → v = w := by
  intro v w h
  match v, w with
  | [], [] => rfl
  | item :: items, item' :: items' =>
    simp only [ofJsonItems, List.cons.injEq] at h
    rw [ofJson_inj h.1, ofJsonItems_inj h.2]

theorem ofJsonDict_inj : ∀ {v w : List (String × JsonValue)}, ofJsonDict v = ofJsonDict w → v = w := by
  intro v w h
  match v, w with
  | [], [] => rfl
  | (key, value) :: items, (key', value') :: items' =>
    simp only [ofJsonDict, List.cons.injEq, Prod.mk.injEq, str.injEq] at h
    rw [h.1.1, ofJson_inj h.1.2, ofJsonDict_inj h.2]

end

/-- The text that the value is, if it is one. -/
def str? : PyValue → Option String
  | .str s => some s
  | _ => Option.none

@[simp] theorem str?_str (s : String) : (str s).str? = some s := rfl

mutual

/-- No two items of a dict have one text as their key. -/
def DistinctKeys : PyValue → Prop
  | .list items => DistinctKeysItems items
  | .tuple items => DistinctKeysItems items
  | .dict items => (items.filterMap fun (key, _) => key.str?).Nodup ∧ DistinctKeysDict items
  | _ => True

def DistinctKeysItems : List PyValue → Prop
  | [] => True
  | item :: items => DistinctKeys item ∧ DistinctKeysItems items

def DistinctKeysDict : List (PyValue × PyValue) → Prop
  | [] => True
  | (key, value) :: items => (DistinctKeys key ∧ DistinctKeys value) ∧ DistinctKeysDict items

end

mutual

/-- Every finite float in the value satisfies the predicate. -/
def AllFloats (p : ℚ → Prop) : PyValue → Prop
  | .float (.finite x) => p x
  | .list items => AllFloatsItems p items
  | .tuple items => AllFloatsItems p items
  | .dict items => AllFloatsDict p items
  | _ => True

def AllFloatsItems (p : ℚ → Prop) : List PyValue → Prop
  | [] => True
  | item :: items => AllFloats p item ∧ AllFloatsItems p items

def AllFloatsDict (p : ℚ → Prop) : List (PyValue × PyValue) → Prop
  | [] => True
  | (key, value) :: items => (AllFloats p key ∧ AllFloats p value) ∧ AllFloatsDict p items

end

theorem filterMap_ofJsonDict (items : List (String × JsonValue)) :
    ((ofJsonDict items).filterMap fun (key, _) => key.str?) = items.map Prod.fst := by
  induction items with
  | nil => rfl
  | cons item items ih =>
    obtain ⟨key, value⟩ := item
    simp [ofJsonDict, ih]

theorem DistinctKeysDict.mem {items : List (PyValue × PyValue)} (h : DistinctKeysDict items) {item : PyValue × PyValue}
    (hmem : item ∈ items) : item.2.DistinctKeys := by
  induction items with
  | nil => simp at hmem
  | cons first items ih =>
    obtain ⟨key, value⟩ := first
    obtain rfl | hmem := List.mem_cons.mp hmem
    · exact h.1.2
    · exact ih h.2 hmem

theorem DistinctKeysDict.filter {items : List (PyValue × PyValue)} (h : DistinctKeysDict items) (p : PyValue × PyValue → Bool) :
    DistinctKeysDict (items.filter p) := by
  induction items with
  | nil => trivial
  | cons first items ih =>
    obtain ⟨key, value⟩ := first
    rw [List.filter_cons]
    split
    · exact ⟨h.1, ih h.2⟩
    · exact ih h.2

theorem DistinctKeysDict.append_one {items : List (PyValue × PyValue)} (h : DistinctKeysDict items) {key value : PyValue}
    (hkey : key.DistinctKeys) (hvalue : value.DistinctKeys) : DistinctKeysDict (items ++ [(key, value)]) := by
  induction items with
  | nil => exact ⟨⟨hkey, hvalue⟩, trivial⟩
  | cons first items ih =>
    obtain ⟨key', value'⟩ := first
    exact ⟨h.1, ih h.2⟩

end PyValue

/-- A value as a decoder builds it. -/
abbrev Decoded := { v : PyValue // v.DistinctKeys }

/-- A dict as a decoder builds it. -/
abbrev PyDict := { items : List (PyValue × PyValue) // (PyValue.dict items).DistinctKeys }

namespace Decoded

def str (s : String) : Decoded := ⟨.str s, trivial⟩

/-- The dict that the value is, if it is one. -/
def dict? : Decoded → Option PyDict
  | ⟨.dict items, h⟩ => some ⟨items, h⟩
  | _ => none

end Decoded

namespace PyDict

def empty : PyDict := ⟨[], by simp [PyValue.DistinctKeys, PyValue.DistinctKeysDict]⟩

/-- The items of `d` as a value. -/
def value (d : PyDict) : Decoded := ⟨.dict d.1, d.2⟩

@[simp] theorem dict?_value (d : PyDict) : d.value.dict? = some d := rfl

/-- The value of the text `key`. -/
def get? (d : PyDict) (key : String) : Option Decoded :=
  match h : d.1.find? fun item => item.1.str? == some key with
  | some item => some ⟨item.2, d.2.2.mem (List.mem_of_find?_eq_some h)⟩
  | none => none

@[simp] theorem get?_empty (key : String) : empty.get? key = none := rfl

/-- Every key is a text, so that the dict can be passed as `**d`. -/
def keywords (d : PyDict) : Bool :=
  d.1.all fun item =>
    match item.1 with
    | .str _ | .surrogates _ => true
    | _ => false

/-- The items of which `p` holds. -/
def filter (p : PyValue → Bool) (d : PyDict) : PyDict :=
  ⟨d.1.filter fun item => p item.1, (d.2.1.sublist ((List.filter_sublist).filterMap _)), d.2.2.filter _⟩

theorem get?_eq_none_iff {d : PyDict} {key : String} : d.get? key = none ↔ ∀ item ∈ d.1, item.1.str? ≠ some key := by
  unfold get?
  split
  · rename_i item hfind
    have hkey : item.1.str? = some key := by simpa using List.find?_some hfind
    simp only [reduceCtorEq, false_iff]
    intro hall
    exact hall item (List.mem_of_find?_eq_some hfind) hkey
  · rename_i hfind
    simpa using hfind

/-- `if key not in d: d[key] = value`. -/
def setdefault (d : PyDict) (key : String) (value : Decoded) : PyDict :=
  match h : d.get? key with
  | some _ => d
  | none => ⟨d.1 ++ [(.str key, value.1)], by
      have hnew := get?_eq_none_iff.mp h
      refine ⟨?_, d.2.2.append_one trivial value.2⟩
      rw [List.filterMap_append, List.nodup_append]
      refine ⟨d.2.1, by simp, ?_⟩
      rintro text hmem text' hmem' rfl
      obtain ⟨item, hitem, htext⟩ := List.mem_filterMap.mp hmem
      obtain rfl : text = key := by simpa using hmem'
      exact hnew item hitem htext⟩

theorem setdefault_eq_self {d : PyDict} {key : String} {value found : Decoded} (h : d.get? key = some found) :
    d.setdefault key value = d := by
  unfold setdefault
  split
  · rfl
  · simp_all

theorem setdefault_items {d : PyDict} {key : String} {value : Decoded} (h : d.get? key = none) :
    (d.setdefault key value).1 = d.1 ++ [(.str key, value.1)] := by
  unfold setdefault
  split
  · simp_all
  · rfl

section Lookup

variable (d : PyDict) (key : String) (value : Decoded)

theorem get?_val : (d.get? key).map Subtype.val = (d.1.find? fun item => item.1.str? == some key).map Prod.snd := by
  unfold get?
  split
  · rename_i item hfind
    simp only [hfind, Option.map_some]
  · rename_i hfind
    simp only [hfind, Option.map_none]

@[simp] theorem get?_setdefault (key' : String) :
    (d.setdefault key value).get? key' = if key' = key then (d.get? key).or (some value) else d.get? key' := by
  cases hget : d.get? key with
  | some found =>
    rw [setdefault_eq_self hget, Option.some_or]
    split
    · rename_i heq
      rw [heq, hget]
    · rfl
  | none =>
    have habsent : (d.1.find? fun item => item.1.str? == some key) = none := by
      have hval := get?_val d key
      rw [hget] at hval
      simpa using hval.symm
    apply Option.map_injective Subtype.val_injective
    rw [get?_val, setdefault_items hget, List.find?_append]
    split
    · rename_i heq
      simp [heq, habsent]
    · rename_i hne
      have hother : ((PyValue.str key).str? == some key') = false := by simpa using fun heq => hne heq.symm
      rw [get?_val, List.find?_cons_of_neg (by rw [hother]; decide), List.find?_nil, Option.or_none]

@[simp] theorem keywords_setdefault : (d.setdefault key value).keywords = d.keywords := by
  cases hget : d.get? key with
  | some found => rw [setdefault_eq_self hget]
  | none => simp [keywords, setdefault_items hget]

end Lookup

end PyDict

theorem Decoded.dict?_eq_some_iff {v : Decoded} {d : PyDict} : v.dict? = some d ↔ v = d.value := by
  constructor
  · intro h
    unfold Decoded.dict? at h
    split at h
    · cases h
      rfl
    · cases h
  · rintro rfl
    exact PyDict.dict?_value d
