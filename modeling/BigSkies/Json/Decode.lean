import BigSkies.Json.Value

/-!
# Decoding a payload: `bytes.decode('utf-8')` and `json.loads`

`_on_message` turns the payload bytes into a Python object in two library calls (client.py
lines 128-129).  Neither is code of this repository; both are modelled here after their
documented behaviour, so that the client can be run on concrete payloads.

* `decodeUtf8` is the strict UTF-8 decoder: the well-formed sequences of RFC 3629, with the
  overlong forms, the surrogates and the code points past U+10FFFF rejected.
* `loads` is `json.loads` on a `str`: a leading BOM is refused, whitespace `[ \t\n\r]` may
  surround every token, the top-level value may be of any kind, numbers follow
  `-?(0|[1-9]\d*)(\.\d+)?([eE][-+]?\d+)?` (an integer unless a fraction or an exponent is
  present), `NaN`, `Infinity` and `-Infinity` are accepted, strings refuse raw control
  characters, and an object keeps the first position and the last value of a repeated key.
  An integer literal of more than `intMaxStrDigits` digits raises `ValueError` in `int(...)`.
  An escape of an unpaired surrogate, which Python keeps as a lone surrogate code point, has
  no Lean `String` counterpart and is refused.

The parser follows json/decoder.py: `scan_once`, the loops of `JSONArray` and `JSONObject`
(whose pairs become a `dict` at the end), and `py_scanstring` cut at its escapes; the next
character is read as the code's `s[end:end + 1]`, a `head?`.  Nesting is bounded by a fuel
argument; `loads` gives twice the length of the text, more than any text needs
(`loads_dumps` in `BigSkies.Json.RoundTrip`).

CPython bounds nesting by its recursion limit instead, and raises `RecursionError` past it.
Where that happens depends on the interpreter's version and on how deep the stack already is
when `json.loads` is called, so the model does not decide it: `loads` accepts every nesting.
A result that assumes `loads` succeeded holds of CPython for the payloads it decodes within
its recursion limit.
-/

namespace BigSkies.Json

/-! ### UTF-8 -/

/-- A continuation byte `%x80-BF`. -/
def isTail (b : UInt8) : Bool := 0x80 ≤ b.toNat && b.toNat ≤ 0xBF

/-- The range of the byte after the lead byte `a` (RFC 3629 §4): it excludes the overlong
    forms (after `E0` and `F0`), the surrogates (after `ED`) and the code points past
    U+10FFFF (after `F4`). -/
def secondOk (a : Nat) (b : UInt8) : Bool :=
  if a = 0xE0 then 0xA0 ≤ b.toNat && b.toNat ≤ 0xBF
  else if a = 0xED then 0x80 ≤ b.toNat && b.toNat ≤ 0x9F
  else if a = 0xF0 then 0x90 ≤ b.toNat && b.toNat ≤ 0xBF
  else if a = 0xF4 then 0x80 ≤ b.toNat && b.toNat ≤ 0x8F
  else isTail b

/-- `bytes.decode('utf-8')`, strict. -/
def decodeUtf8 : List UInt8 → Except String (List Char)
  | [] => .ok []
  | b0 :: rest =>
    let a := b0.toNat
    if a ≤ 0x7F then (Char.ofNat a :: ·) <$> decodeUtf8 rest
    else if a < 0xC2 ∨ 0xF4 < a then .error "invalid start byte"
    else match rest with
      | [] => .error "unexpected end of data"
      | b1 :: rest1 =>
        if !secondOk a b1 then .error "invalid continuation byte"
        else if a ≤ 0xDF then
          (Char.ofNat ((a - 0xC0) * 64 + (b1.toNat - 0x80)) :: ·) <$> decodeUtf8 rest1
        else match rest1 with
          | [] => .error "unexpected end of data"
          | b2 :: rest2 =>
            if !isTail b2 then .error "invalid continuation byte"
            else if a ≤ 0xEF then
              (Char.ofNat ((a - 0xE0) * 4096 + (b1.toNat - 0x80) * 64 + (b2.toNat - 0x80)) :: ·)
                <$> decodeUtf8 rest2
            else match rest2 with
              | [] => .error "unexpected end of data"
              | b3 :: rest3 =>
                if !isTail b3 then .error "invalid continuation byte"
                else (Char.ofNat ((a - 0xF0) * 262144 + (b1.toNat - 0x80) * 4096 +
                    (b2.toNat - 0x80) * 64 + (b3.toNat - 0x80)) :: ·) <$> decodeUtf8 rest3

/-! ### Tokens -/

/-- `WHITESPACE = r'[ \t\n\r]*'`. -/
def isWs (c : Char) : Bool := c = ' ' || c = '\t' || c = '\n' || c = '\r'

def skipWs (cs : List Char) : List Char := cs.dropWhile isWs

/-- The value of a run of decimal digits. -/
def digitsValue (ds : List Char) : Nat := ds.foldl (fun n d => 10 * n + (d.toNat - '0'.toNat)) 0

/-- `\d+`: a run of digits and the rest. -/
def matchDigitRun : List Char → Option (List Char × List Char)
  | [] => none
  | d :: r =>
    if d.isDigit then some (d :: r.takeWhile Char.isDigit, r.dropWhile Char.isDigit) else none

/-- `0|[1-9]\d*`: the digits and the rest. -/
def matchDigits : List Char → Option (List Char × List Char)
  | [] => none
  | d :: r =>
    if d = '0' then some (['0'], r)
    else if '1' ≤ d ∧ d ≤ '9' then matchDigitRun (d :: r)
    else none

/-- The integer group `-?(?:0|[1-9]\d*)`: the sign, the digits and the rest. -/
def matchInteger : List Char → Option (Bool × List Char × List Char)
  | [] => none
  | c :: r =>
    if c = '-' then (fun (ds, rest) => (true, ds, rest)) <$> matchDigits r
    else (fun (ds, rest) => (false, ds, rest)) <$> matchDigits (c :: r)

/-- The fraction group `(\.\d+)?`: its digits (none when absent) and the rest. -/
def matchFrac : List Char → List Char × List Char
  | [] => ([], [])
  | c :: r =>
    if c = '.' then
      match matchDigitRun r with
      | some (ds, rest) => (ds, rest)
      | none => ([], c :: r)
    else ([], c :: r)

/-- `[-+]?`: whether the sign is `-`, and the rest. -/
def matchSign : List Char → Bool × List Char
  | [] => (false, [])
  | c :: r => if c = '-' then (true, r) else if c = '+' then (false, r) else (false, c :: r)

/-- The exponent group `([eE][-+]?\d+)?`: its value (none when absent) and the rest. -/
def matchExp : List Char → Option Int × List Char
  | [] => (none, [])
  | e :: r =>
    if e = 'e' ∨ e = 'E' then
      match matchDigitRun (matchSign r).2 with
      | some (ds, rest) =>
        (some (if (matchSign r).1 then -(digitsValue ds : Int) else digitsValue ds), rest)
      | none => (none, e :: r)
    else (none, e :: r)

/-- `match_number`, then `parse_int` or `parse_float`. -/
def parseNumber (cs : List Char) : Option (JsonValue × List Char) := do
  let (neg, intDigits, r) ← matchInteger cs
  let (frac, r) := matchFrac r
  let (exp, r) := matchExp r
  let sign : Int → Int := if neg then Neg.neg else id
  if frac.isEmpty ∧ exp.isNone then some (.int (sign (digitsValue intDigits)), r)
  else some (.float (.decimal (sign (digitsValue (intDigits ++ frac)))
    (exp.getD 0 - frac.length)), r)

/-- A hexadecimal digit. -/
def hexValue (c : Char) : Option Nat :=
  if c.isDigit then some (c.toNat - '0'.toNat)
  else if 'a' ≤ c ∧ c ≤ 'f' then some (c.toNat - 'a'.toNat + 10)
  else if 'A' ≤ c ∧ c ≤ 'F' then some (c.toNat - 'A'.toNat + 10)
  else none

/-- The code unit of a `\uXXXX` escape. -/
def hex4 (h1 h2 h3 h4 : Char) : Option Nat := do
  pure ((← hexValue h1) * 4096 + (← hexValue h2) * 256 + (← hexValue h3) * 16 + (← hexValue h4))

def isHighSurrogate (u : Nat) : Bool := 0xD800 ≤ u && u ≤ 0xDBFF

def isLowSurrogate (u : Nat) : Bool := 0xDC00 ≤ u && u ≤ 0xDFFF

/-- `BACKSLASH` of json/decoder.py: the character each one-letter escape stands for. -/
def backslash : List (Char × Char) :=
  [('"', '"'), ('\\', '\\'), ('/', '/'), ('b', '\x08'), ('f', '\x0c'), ('n', '\n'), ('r', '\r'),
   ('t', '\t')]

mutual

/-- `scanstring` (`py_scanstring`): the body of a string after its opening quote, with the
    characters read so far reversed in `acc`; the string and what follows its closing
    quote. -/
def scanString : List Char → List Char → Except String (String × List Char)
  | [], _ => .error "Unterminated string starting at"
  | c :: cs, acc =>
    if c = '"' then .ok (String.mk acc.reverse, cs)
    else if c = '\\' then scanEscape cs acc
    else if c.toNat < 0x20 then .error "Invalid control character"
    else scanString cs (c :: acc)
termination_by structural cs _ => cs

/-- The character after a backslash: `u` starts a `\uXXXX` escape, any other must be a key
    of `BACKSLASH`. -/
def scanEscape : List Char → List Char → Except String (String × List Char)
  | [], _ => .error "Unterminated string starting at"
  | esc :: cs, acc =>
    if esc = 'u' then scanUnicode cs acc
    else
      match backslash.lookup esc with
      | some ch => scanString cs (ch :: acc)
      | none => .error "Invalid \\escape"
termination_by structural cs _ => cs

/-- `_decode_uXXXX` after `\u`; a high surrogate looks for its low half. -/
def scanUnicode : List Char → List Char → Except String (String × List Char)
  | h1 :: h2 :: h3 :: h4 :: cs, acc =>
    match hex4 h1 h2 h3 h4 with
    | none => .error "Invalid \\uXXXX escape"
    | some u =>
      if isHighSurrogate u then scanLowSurrogate u cs acc
      else if isLowSurrogate u then .error "lone surrogate"
      else scanString cs (Char.ofNat u :: acc)
  | _, _ => .error "Invalid \\uXXXX escape"
termination_by structural cs _ => cs

/-- The `\uXXXX` after the high surrogate `u`: a low surrogate joins it into one character,
    `0x10000 + (u - 0xD800) * 1024 + (u2 - 0xDC00)` (the code's `<< 10 |`). -/
def scanLowSurrogate (u : Nat) : List Char → List Char → Except String (String × List Char)
  | b :: v :: l1 :: l2 :: l3 :: l4 :: cs, acc =>
    if b = '\\' ∧ v = 'u' then
      match hex4 l1 l2 l3 l4 with
      | none => .error "Invalid \\uXXXX escape"
      | some u2 =>
        if isLowSurrogate u2 then
          scanString cs (Char.ofNat (0x10000 + (u - 0xD800) * 1024 + (u2 - 0xDC00)) :: acc)
        else .error "lone surrogate"
    else .error "lone surrogate"
  | _, _ => .error "lone surrogate"
termination_by structural cs _ => cs

end

/-- One pair of `dict(pairs)`: a repeated key keeps its first position and takes the later
    value. -/
def dictInsert (d : List (String × JsonValue)) (kv : String × JsonValue) :
    List (String × JsonValue) :=
  if kv.1 ∈ d.map Prod.fst then d.map fun e => if e.1 = kv.1 then kv else e else d ++ [kv]

/-- `dict(pairs)`, the last step of `JSONObject`. -/
def dict (pairs : List (String × JsonValue)) : List (String × JsonValue) :=
  pairs.foldl dictInsert []

/-! ### Values -/

mutual

/-- `scan_once` at the first character of a value. -/
def parseValue : Nat → List Char → Except String (JsonValue × List Char)
  | 0, _ => .error "nesting too deep"
  | _ + 1, [] => .error "Expecting value"
  | fuel + 1, c :: cs =>
    if c = '"' then (fun (s, rest) => (.str s, rest)) <$> scanString cs []
    else if c = '{' then parseObject fuel (skipWs cs)
    else if c = '[' then parseArray fuel (skipWs cs)
    else if (c :: cs).take 4 = "null".data then .ok (.null, (c :: cs).drop 4)
    else if (c :: cs).take 4 = "true".data then .ok (.bool true, (c :: cs).drop 4)
    else if (c :: cs).take 5 = "false".data then .ok (.bool false, (c :: cs).drop 5)
    else
      match parseNumber (c :: cs) with
      | some vr => if vr.1.intsFit then .ok vr else .error intMaxStrDigitsError
      | none =>
        if (c :: cs).take 3 = "NaN".data then .ok (.float .nan, (c :: cs).drop 3)
        else if (c :: cs).take 8 = "Infinity".data then
          .ok (.float (.infinity false), (c :: cs).drop 8)
        else if (c :: cs).take 9 = "-Infinity".data then
          .ok (.float (.infinity true), (c :: cs).drop 9)
        else .error "Expecting value"

/-- `JSONArray` after `[` and its whitespace. -/
def parseArray : Nat → List Char → Except String (JsonValue × List Char)
  | 0, _ => .error "nesting too deep"
  | fuel + 1, cs =>
    if cs.head? = some ']' then .ok (.arr [], cs.drop 1) else parseElements fuel cs []

/-- The loop of `JSONArray` from the first character of a value, `values` holding those
    before it. -/
def parseElements : Nat → List Char → List JsonValue → Except String (JsonValue × List Char)
  | 0, _, _ => .error "nesting too deep"
  | fuel + 1, cs, values => do
    let (v, r) ← parseValue fuel cs
    let r := skipWs r
    if r.head? = some ']' then .ok (.arr (values ++ [v]), r.drop 1)
    else if r.head? = some ',' then parseElements fuel (skipWs (r.drop 1)) (values ++ [v])
    else .error "Expecting ',' delimiter"

/-- `JSONObject` after `{` and its whitespace. -/
def parseObject : Nat → List Char → Except String (JsonValue × List Char)
  | 0, _ => .error "nesting too deep"
  | fuel + 1, cs =>
    if cs.head? = some '}' then .ok (.obj [], cs.drop 1)
    else if cs.head? = some '"' then parseMembers fuel (cs.drop 1) []
    else .error "Expecting property name enclosed in double quotes"

/-- The loop of `JSONObject` from just after the opening quote of a key, `pairs` holding the
    members before it. -/
def parseMembers : Nat → List Char → List (String × JsonValue) →
    Except String (JsonValue × List Char)
  | 0, _, _ => .error "nesting too deep"
  | fuel + 1, cs, pairs => do
    let (key, r) ← scanString cs []
    let r := skipWs r
    if r.head? ≠ some ':' then .error "Expecting ':' delimiter" else
    let (v, r) ← parseValue fuel (skipWs (r.drop 1))
    let r := skipWs r
    if r.head? = some '}' then .ok (.obj (dict (pairs ++ [(key, v)])), r.drop 1)
    else if r.head? ≠ some ',' then .error "Expecting ',' delimiter"
    else
      let r := skipWs (r.drop 1)
      if r.head? = some '"' then parseMembers fuel (r.drop 1) (pairs ++ [(key, v)])
      else .error "Expecting property name enclosed in double quotes"

end

/-- `json.loads` on a `str`: `JSONDecoder.decode`, after the check for a BOM. -/
def loads (s : String) : Except String JsonValue :=
  if s.data.head? = some '\uFEFF' then .error "Unexpected UTF-8 BOM (decode using utf-8-sig)"
  else do
    let (v, rest) ← parseValue (2 * s.length + 1) (skipWs s.data)
    if skipWs rest = [] then pure v else .error "Extra data"

end BigSkies.Json
