import BigSkies.Json.Value

/-!
# Encoding a payload: `json.dumps` and `str.encode('utf-8')`

`publish` serialises its payload with `json.dumps` (client.py:93) and paho sends the text as
UTF-8.  `dumps` follows `json.dumps` with its defaults: `ensure_ascii=True`, so every
character outside `' '..'~'` is escaped (`\uXXXX` in lower-case hex, a surrogate pair past
U+FFFF), the separators `", "` and `": "`, and the constants `NaN`, `Infinity`,
`-Infinity`.  A finite float is written as its decimal `<mantissa>e<exponent>`: Python's
`repr` of the binary64 value is outside the model, and this text denotes the same decimal.
-/

namespace BigSkies.Json

/-- A lower-case hexadecimal digit. -/
def hexDigit (n : Nat) : Char :=
  if n < 10 then Char.ofNat ('0'.toNat + n) else Char.ofNat ('a'.toNat + n - 10)

/-- The four hexadecimal digits of a code unit. -/
def hex4Chars (u : Nat) : List Char :=
  [hexDigit (u / 4096 % 16), hexDigit (u / 256 % 16), hexDigit (u / 16 % 16), hexDigit (u % 16)]

/-- `ESCAPE_DCT` of json/encoder.py, its one-letter escapes.  The other characters below
    `0x20`, which it maps to `\uXXXX`, are escaped as the general case does. -/
def escapeDct : List (Char × Char) :=
  [('\\', '\\'), ('"', '"'), ('\x08', 'b'), ('\x0c', 'f'), ('\n', 'n'), ('\r', 'r'), ('\t', 't')]

/-- `ESCAPE_ASCII`, `([\\"]|[^\ -~])`: the characters `py_encode_basestring_ascii`
    replaces. -/
def escapeAscii (c : Char) : Bool := c = '\\' ∨ c = '"' ∨ ¬(' ' ≤ c ∧ c ≤ '~')

/-- The text `py_encode_basestring_ascii` writes for one character: the character itself, or
    its replacement, from `ESCAPE_DCT` or else `\uXXXX`, a surrogate pair past U+FFFF. -/
def escapeChar (c : Char) : List Char :=
  if !escapeAscii c then [c]
  else
    match escapeDct.lookup c with
    | some e => ['\\', e]
    | none =>
      if c.toNat < 0x10000 then '\\' :: 'u' :: hex4Chars c.toNat
      else
        let n := c.toNat - 0x10000
        '\\' :: 'u' :: hex4Chars (0xD800 + n / 1024) ++ '\\' :: 'u' :: hex4Chars (0xDC00 + n % 1024)

/-- `py_encode_basestring_ascii`: a string literal. -/
def encodeString (s : String) : List Char := '"' :: s.data.flatMap escapeChar ++ ['"']

/-- A float's text. -/
def floatText : PyFloat → List Char
  | .decimal m e => (toString m ++ "e" ++ toString e).data
  | .nan => "NaN".data
  | .infinity false => "Infinity".data
  | .infinity true => "-Infinity".data

mutual

/-- `json.dumps`, as characters. -/
def dumpsValue : JsonValue → List Char
  | .null => "null".data
  | .bool true => "true".data
  | .bool false => "false".data
  | .int n => (toString n).data
  | .float f => floatText f
  | .str s => encodeString s
  | .arr items => '[' :: dumpsItems items ++ [']']
  | .obj fields => '{' :: dumpsFields fields ++ ['}']

/-- The items of a list, joined by `", "`. -/
def dumpsItems : List JsonValue → List Char
  | [] => []
  | [v] => dumpsValue v
  | v :: vs => dumpsValue v ++ ", ".data ++ dumpsItems vs

/-- The members of a dict, joined by `", "`. -/
def dumpsFields : List (String × JsonValue) → List Char
  | [] => []
  | [(k, v)] => encodeString k ++ ": ".data ++ dumpsValue v
  | (k, v) :: fs => encodeString k ++ ": ".data ++ dumpsValue v ++ ", ".data ++ dumpsFields fs

end

/-- `json.dumps(v)`. -/
def dumps (v : JsonValue) : String := String.mk (dumpsValue v)

/-- The UTF-8 bytes of one character. -/
def utf8Bytes (c : Char) : List UInt8 :=
  let n := c.toNat
  if n < 0x80 then [n.toUInt8]
  else if n < 0x800 then [(0xC0 + n / 64).toUInt8, (0x80 + n % 64).toUInt8]
  else if n < 0x10000 then
    [(0xE0 + n / 4096).toUInt8, (0x80 + n / 64 % 64).toUInt8, (0x80 + n % 64).toUInt8]
  else [(0xF0 + n / 262144).toUInt8, (0x80 + n / 4096 % 64).toUInt8,
    (0x80 + n / 64 % 64).toUInt8, (0x80 + n % 64).toUInt8]

/-- `str.encode('utf-8')`. -/
def encodeUtf8 (cs : List Char) : List UInt8 := cs.flatMap utf8Bytes

end BigSkies.Json
