import EdgeGateway.Library.PyFloat

/-- The exception classes of Python and of the libraries that calls raise. -/
inductive PyExc where
  | AttributeError
  | IndexError
  | KeyError
  | OSError
  | OverflowError
  | RuntimeError
  | TypeError
  | ValueError
  | ZeroDivisionError
  | LibraryError
  deriving DecidableEq

/-- What a call can raise: an `Exception`, or the cancellation of its task, which is none. -/
inductive PyBaseException where
  | exception (e : PyExc)
  | cancelled
  deriving DecidableEq

/-- A value that `json.loads` returns. -/
inductive JsonValue where
  | null
  | bool (b : Bool)
  | int (n : ℤ)
  | float (x : PyFloat)
  | str (s : String)
  | list (items : List JsonValue)
  | dict (items : List (String × JsonValue))

namespace JsonValue

/-- `value[key]` for a string key. Only a dict takes one. -/
def getItem (value : JsonValue) (key : String) : Except PyExc JsonValue :=
  match value with
  | .dict items =>
    match items.lookup key with
    | some item => .ok item
    | none => .error .KeyError
  | _ => .error .TypeError

/-- `value.get(key, default)`. -/
def get (value : JsonValue) (key : String) (default : JsonValue) : Except PyExc JsonValue :=
  match value with
  | .dict items => .ok ((items.lookup key).getD default)
  | _ => .error .AttributeError

/-- `float(value)`. -/
def toFloat : JsonValue → Except PyExc PyFloat
  | .bool b => .ok (.finite (if b then 1 else 0))
  | .int n =>
    match PyFloat.ofInt n with
    | some x => .ok x
    | none => .error .OverflowError
  | .float x => .ok x
  | .str s =>
    match PyFloat.ofString s with
    | some x => .ok x
    | none => .error .ValueError
  | .null | .list _ | .dict _ => .error .TypeError

/-- `bool(value)`. -/
def truthy : JsonValue → Bool
  | .null => false
  | .bool b => b
  | .int n => n ≠ 0
  | .float x => x ≠ .finite 0
  | .str s => s ≠ ""
  | .list items => !items.isEmpty
  | .dict items => !items.isEmpty

/-- `hash(value)` works. -/
def hashable : JsonValue → Bool
  | .list _ | .dict _ => false
  | _ => true

/-- Whatever can be subscripted with a string also has `get`. -/
theorem get_of_getItem {key other : String} {default value v : JsonValue} (h : value.getItem key = .ok v) :
    ∃ w, value.get other default = .ok w := by
  cases value with
  | dict items => exact ⟨_, rfl⟩
  | _ => cases h

end JsonValue
