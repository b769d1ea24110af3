import Mathlib.Data.List.Basic

/-!
# Decoded payloads

`json.loads` turns a message payload into a Python object built from `None`, `bool`,
`int`, `float`, `str`, `list` and `dict`; the widget handlers then read it with
`payload.get(key, default)` and test values for truth (`if slewing:`).  This module models
those objects, the errors the handlers can raise on them, and the two operations.

A `float` is kept as the decimal its JSON literal denotes, `mantissa * 10 ^ exponent`.  The
rounding of that decimal to binary64 is modelled only where a modelled function observes it:
`bool(x)` is false on a decimal that rounds to `0.0`.  Python's `repr` of a float is not
modelled.

CPython refuses to convert an `int` of more than 4300 decimal digits between `int` and `str`
(`sys.get_int_max_str_digits()`, since 3.11); `intsFit` says a value has no such `int`.
-/

namespace BigSkies.Json

/-- A Python `float` produced by `json.loads`: a finite decimal, or one of the constants
    `NaN`, `Infinity`, `-Infinity` that `json.loads` also accepts. -/
inductive PyFloat where
  | decimal (mantissa exponent : Int)
  | nan
  | infinity (negative : Bool)
deriving Repr, DecidableEq

/-- A Python object as `json.loads` builds it.  An `obj` is a `dict`: `json.loads` keeps the
    first position and the last value of a repeated key, so its keys are distinct. -/
inductive JsonValue where
  | null
  | bool (b : Bool)
  | int (n : Int)
  | float (f : PyFloat)
  | str (s : String)
  | arr (items : List JsonValue)
  | obj (fields : List (String × JsonValue))
deriving Repr, Inhabited

/-- The exceptions a handler body can raise on a decoded payload. -/
inductive PyError where
  /-- `AttributeError: '<type>' object has no attribute '<attr>'`. -/
  | attributeError (typeName attr : String)
  /-- `TypeError`, with the operation that raised it. -/
  | typeError (operation typeName : String)
  /-- `ValueError`, with the operation that raised it. -/
  | valueError (operation typeName : String)
deriving Repr, DecidableEq

/-- `sys.get_int_max_str_digits()` as CPython starts: `int(s)` and `str(n)` raise `ValueError`
    on a decimal of more digits. -/
def intMaxStrDigits : Nat := 4300

/-- The opening of the `ValueError` text CPython raises past `intMaxStrDigits`. -/
def intMaxStrDigitsError : String :=
  "Exceeds the limit (4300 digits) for integer string conversion"

namespace JsonValue

/-- `type(v).__name__`. -/
def typeName : JsonValue → String
  | null => "NoneType"
  | bool _ => "bool"
  | int _ => "int"
  | float _ => "float"
  | str _ => "str"
  | arr _ => "list"
  | obj _ => "dict"

/-- `v.get(key, default)`: a `dict` looks the key up; any other object has no `get`. -/
def get (v : JsonValue) (key : String) (default : JsonValue) : Except PyError JsonValue :=
  match v with
  | obj fields => .ok ((fields.lookup key).getD default)
  | other => .error (.attributeError other.typeName "get")

/-- `bool(v)`: `None`, `False`, zero and empty containers are false.  A decimal float is
    false when it is zero or rounds to `0.0`, that is when it is at most half the least
    subnormal, `2 ^ -1075` (the tie rounds to the even `0.0`); one that overflows is `inf`, which
    is true. -/
def truthy : JsonValue → Bool
  | null => false
  | bool b => b
  | int n => n ≠ 0
  | float (.decimal m e) => m ≠ 0 && (0 ≤ e || Nat.pow 10 e.natAbs < m.natAbs * Nat.pow 2 1075)
  | float _ => true
  | str s => s ≠ ""
  | arr items => !items.isEmpty
  | obj fields => !fields.isEmpty

/-- `isinstance(v, dict)`. -/
def isDict : JsonValue → Bool
  | obj _ => true
  | _ => false

mutual

/-- Every `dict` inside the value has distinct keys, as every Python `dict` has. -/
def distinctKeys : JsonValue → Bool
  | arr items => itemsDistinctKeys items
  | obj fields => decide (fields.map Prod.fst).Nodup && fieldsDistinctKeys fields
  | _ => true

/-- `distinctKeys` of every item of a list. -/
def itemsDistinctKeys : List JsonValue → Bool
  | [] => true
  | v :: vs => v.distinctKeys && itemsDistinctKeys vs

/-- `distinctKeys` of the value of every member of a dict. -/
def fieldsDistinctKeys : List (String × JsonValue) → Bool
  | [] => true
  | (_, v) :: fs => v.distinctKeys && fieldsDistinctKeys fs

end

mutual

/-- Every `int` inside the value has at most `intMaxStrDigits` decimal digits, so that
    CPython converts it to and from its text. -/
def intsFit : JsonValue → Bool
  | int n => (Nat.toDigits 10 n.natAbs).length ≤ intMaxStrDigits
  | arr items => itemsIntsFit items
  | obj fields => fieldsIntsFit fields
  | _ => true

/-- `intsFit` of every item of a list. -/
def itemsIntsFit : List JsonValue → Bool
  | [] => true
  | v :: vs => v.intsFit && itemsIntsFit vs

/-- `intsFit` of the value of every member of a dict. -/
def fieldsIntsFit : List (String × JsonValue) → Bool
  | [] => true
  | (_, v) :: fs => v.intsFit && fieldsIntsFit fs

end

@[simp] theorem get_obj (fields : List (String × JsonValue)) (key : String)
    (default : JsonValue) : (obj fields).get key default = .ok ((fields.lookup key).getD default) :=
  rfl

/-- `get` succeeds exactly on a `dict`. -/
theorem get_isOk_iff (v : JsonValue) (key : String) (default : JsonValue) :
    (∃ w, v.get key default = .ok w) ↔ v.isDict = true := by
  cases v <;> simp [get, isDict]

end JsonValue

end BigSkies.Json
