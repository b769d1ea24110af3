import BigSkies.Json.Decode
import BigSkies.Json.Encode
import Mathlib.Data.List.Nodup

/-!
# `json.loads` inverts `json.dumps`

A payload that `publish` sends is `json.dumps(payload)` encoded as UTF-8; the `_on_message`
of a subscriber decodes the bytes and calls `json.loads`.  The two ends agree: for every
value whose dicts have distinct keys, as every Python value's do, and whose `int`s CPython
converts to text and back (`intsFit`), `loads (dumps v) = ok v` (`loads_dumps`), and UTF-8
decoding inverts the encoding (`decodeUtf8_encodeUtf8`).  In the other direction every value
`loads` builds has distinct keys, since `JSONObject` ends with `dict(pairs)`, which keeps the
first position and the last value of a repeated key (`loads_keeps_last_value`).

The proof reads `dumps v` token by token, each lemma generalised over what follows the
token: the digits `Nat.toDigits` writes, then numbers, string escapes, and last values,
arrays and objects by mutual recursion on the value, with twice the length of the text as
fuel.
-/

namespace BigSkies.Json

/-! ### Characters and digits -/

theorem isDigit_iff (c : Char) : c.isDigit = true ↔ 48 ≤ c.toNat ∧ c.toNat ≤ 57 := by
  simp only [Char.isDigit, Bool.and_eq_true, decide_eq_true_eq]
  exact Iff.rfl

theorem char_eq_iff {c d : Char} : c = d ↔ c.toNat = d.toNat :=
  ⟨congrArg _, fun h => by rw [← Char.ofNat_toNat c, h, Char.ofNat_toNat]⟩

theorem digitsValue_append_singleton (ds : List Char) (d : Char) :
    digitsValue (ds ++ [d]) = 10 * digitsValue ds + (d.toNat - '0'.toNat) := by
  simp [digitsValue, List.foldl_append]

theorem digitChar_spec : ∀ d, d < 10 →
    (Nat.digitChar d).isDigit = true ∧ (Nat.digitChar d).toNat - '0'.toNat = d ∧
      (Nat.digitChar d = '0' → d = 0) := by
  decide

/-- The digits `Nat.toDigitsCore` writes for `n` ahead of `ds`: decimal digits with no leading
    zero, of value `n`. -/
theorem toDigitsCore_spec (f n : Nat) (ds : List Char) (h : n < f) :
    ∃ d tl, Nat.toDigitsCore 10 f n ds = d :: tl ++ ds ∧ (∀ c ∈ d :: tl, c.isDigit = true) ∧
      digitsValue (d :: tl) = n ∧ (d = '0' → n = 0 ∧ tl = []) := by
  induction f generalizing n ds with
  | zero => omega
  | succ f ih =>
    obtain ⟨hdig, hval, hzero⟩ := digitChar_spec (n % 10) (Nat.mod_lt _ (by omega))
    rw [show Nat.toDigitsCore 10 (f + 1) n ds = if n / 10 = 0 then Nat.digitChar (n % 10) :: ds
      else Nat.toDigitsCore 10 f (n / 10) (Nat.digitChar (n % 10) :: ds) from rfl]
    split
    · refine ⟨_, [], rfl, by simpa using hdig, ?_, fun h0 => ⟨by have := hzero h0; omega, rfl⟩⟩
      simp only [digitsValue, List.foldl]
      omega
    · obtain ⟨d, tl, heq, hds, hv, hz⟩ := ih (n / 10) (Nat.digitChar (n % 10) :: ds) (by omega)
      refine ⟨d, tl ++ [Nat.digitChar (n % 10)], by simp [heq], ?_, ?_,
        fun h0 => absurd (hz h0).1 ‹_›⟩
      · simp only [← List.cons_append, List.mem_append, List.mem_singleton]
        rintro c (hc | rfl)
        exacts [hds c hc, hdig]
      · rw [← List.cons_append, digitsValue_append_singleton, hv, hval]
        omega

theorem toDigits_spec (n : Nat) :
    ∃ d tl, Nat.toDigits 10 n = d :: tl ∧ (∀ c ∈ d :: tl, c.isDigit = true) ∧
      digitsValue (d :: tl) = n ∧ (d = '0' → n = 0 ∧ tl = []) := by
  obtain ⟨d, tl, h, hds, hv, hz⟩ := toDigitsCore_spec (n + 1) n [] (Nat.lt_succ_self n)
  rw [List.append_nil] at h
  exact ⟨d, tl, h, hds, hv, hz⟩

/-- The text of an `int`: its sign, then the digits of its absolute value. -/
theorem toString_int_data (n : Int) :
    (toString n).data = (if n < 0 then ['-'] else []) ++ Nat.toDigits 10 n.natAbs := by
  cases n with
  | ofNat m => rfl
  | negSucc m => rw [if_pos (Int.negSucc_lt_zero m)]; rfl

theorem digitsValue_toDigits (n : Nat) : digitsValue (Nat.toDigits 10 n) = n := by
  obtain ⟨d, tl, heq, -, hv, -⟩ := toDigits_spec n
  rw [heq, hv]

/-! ### Numbers -/

/-- What follows a value in the text `json.dumps` writes: nothing, or the `,`, `]` or `}` of
    the list or dict around it. -/
def ValueEnd (rest : List Char) : Prop := ∀ c ∈ rest.head?, c = ',' ∨ c = ']' ∨ c = '}'

/-- Nothing that may follow a value continues a number. -/
theorem ValueEnd.not_number {rest : List Char} (h : ValueEnd rest) :
    ∀ c ∈ rest.head?, c.isDigit = false ∧ c ≠ '.' ∧ c ≠ 'e' ∧ c ≠ 'E' := by
  intro c hc
  rcases h c hc with rfl | rfl | rfl <;> decide

theorem takeWhile_dropWhile_of_head {p : Char → Bool} {rest : List Char}
    (h : ∀ c ∈ rest.head?, p c = false) : rest.takeWhile p = [] ∧ rest.dropWhile p = rest := by
  cases rest with
  | nil => simp
  | cons c r => simp [List.takeWhile, List.dropWhile, h c rfl]

theorem matchDigitRun_append {ds rest : List Char} (hds : ∀ c ∈ ds, c.isDigit = true)
    (hne : ds ≠ []) (hr : ∀ c ∈ rest.head?, c.isDigit = false) :
    matchDigitRun (ds ++ rest) = some (ds, rest) := by
  obtain ⟨ht, hd⟩ := takeWhile_dropWhile_of_head hr
  cases ds with
  | nil => contradiction
  | cons d tl =>
    have htl : ∀ c ∈ tl, c.isDigit = true := fun c hc => hds c (.tail _ hc)
    simp [matchDigitRun, hds d (.head _), List.takeWhile_append_of_pos htl,
      List.dropWhile_append_of_pos htl, ht, hd]

theorem matchDigits_toDigits (n : Nat) {rest : List Char}
    (hr : ∀ c ∈ rest.head?, c.isDigit = false) :
    matchDigits (Nat.toDigits 10 n ++ rest) = some (Nat.toDigits 10 n, rest) := by
  obtain ⟨d, tl, heq, hds, -, hz⟩ := toDigits_spec n
  rw [heq]
  by_cases h0 : d = '0'
  · obtain ⟨-, rfl⟩ := hz h0
    simp [matchDigits, h0]
  · have hd := (isDigit_iff d).1 (hds d (.head _))
    have h48 : d.toNat ≠ 48 := fun e => h0 (char_eq_iff.2 e)
    have h19 : '1' ≤ d ∧ d ≤ '9' := ⟨show 49 ≤ d.toNat by omega, show d.toNat ≤ 57 from hd.2⟩
    simp only [List.cons_append, matchDigits, h0, h19, and_self, if_true, if_false]
    exact matchDigitRun_append hds (List.cons_ne_nil _ _) hr

theorem toDigits_head_ne {n : Nat} {x : Char} (hx : x.isDigit = false) :
    ∃ d tl, Nat.toDigits 10 n = d :: tl ∧ d ≠ x := by
  obtain ⟨d, tl, heq, hds, -⟩ := toDigits_spec n
  exact ⟨d, tl, heq, by rintro rfl; simp [hds _ (.head _)] at hx⟩

/-- `matchInteger` reads back the text of an `int`. -/
theorem matchInteger_toString (n : Int) {rest : List Char}
    (hr : ∀ c ∈ rest.head?, c.isDigit = false) :
    matchInteger ((toString n).data ++ rest) =
      some (decide (n < 0), Nat.toDigits 10 n.natAbs, rest) := by
  rw [toString_int_data]
  split
  · simp [matchInteger, matchDigits_toDigits _ hr, *]
  · obtain ⟨d, tl, heq, hd⟩ := toDigits_head_ne (n := n.natAbs) (x := '-') rfl
    have hD := matchDigits_toDigits n.natAbs hr
    rw [heq] at hD ⊢
    simp only [List.cons_append] at hD
    simp [matchInteger, hd, hD, *]

theorem matchSign_toString (n : Int) (rest : List Char) :
    matchSign ((toString n).data ++ rest) = (decide (n < 0), Nat.toDigits 10 n.natAbs ++ rest) := by
  rw [toString_int_data]
  split
  · simp [matchSign, *]
  · obtain ⟨d, tl, heq, h1⟩ := toDigits_head_ne (n := n.natAbs) (x := '-') rfl
    obtain ⟨d', tl', heq', h2⟩ := toDigits_head_ne (n := n.natAbs) (x := '+') rfl
    rw [heq] at heq' ⊢
    obtain ⟨rfl, rfl⟩ := List.cons.inj heq'
    simp [matchSign, *]

theorem matchFrac_of_head {cs : List Char} (h : ∀ c ∈ cs.head?, c ≠ '.') :
    matchFrac cs = ([], cs) := by
  cases cs with
  | nil => rfl
  | cons c r => simp [matchFrac, h c rfl]

theorem matchExp_of_head {cs : List Char} (h : ∀ c ∈ cs.head?, c ≠ 'e' ∧ c ≠ 'E') :
    matchExp cs = (none, cs) := by
  cases cs with
  | nil => rfl
  | cons c r => simp [matchExp, (h c rfl).1, (h c rfl).2]

theorem sign_natAbs (n : Int) : (if n < 0 then Neg.neg else id) (n.natAbs : Int) = n := by
  split
  · show -(n.natAbs : Int) = n; omega
  · show (n.natAbs : Int) = n; omega

/-- The text after a number's integer digits when it is followed by what may follow a
    value: no fraction and no exponent. -/
theorem matchFrac_matchExp_of_valueEnd {rest : List Char} (hr : ValueEnd rest) :
    matchFrac rest = ([], rest) ∧ matchExp rest = (none, rest) :=
  ⟨matchFrac_of_head fun c hc => (hr.not_number c hc).2.1,
    matchExp_of_head fun c hc => (hr.not_number c hc).2.2⟩

/-- An `int`'s text is read back as that `int`. -/
theorem parseNumber_int (n : Int) {rest : List Char} (hr : ValueEnd rest) :
    parseNumber ((toString n).data ++ rest) = some (.int n, rest) := by
  obtain ⟨hf, he⟩ := matchFrac_matchExp_of_valueEnd hr
  simp only [parseNumber, matchInteger_toString n (fun c hc => (hr.not_number c hc).1), hf, he,
    List.isEmpty_eq_true, Option.isNone_iff_eq_none, Option.bind_eq_bind, Option.some_bind,
    and_self, reduceIte, decide_eq_true_eq, digitsValue_toDigits, sign_natAbs]

theorem matchExp_toString (e : Int) (rest : List Char)
    (hr : ∀ c ∈ rest.head?, c.isDigit = false) :
    matchExp ('e' :: ((toString e).data ++ rest)) = (some e, rest) := by
  obtain ⟨d, tl, heq, hds, -⟩ := toDigits_spec e.natAbs
  have hrun := matchDigitRun_append hds (List.cons_ne_nil _ _) hr
  rw [← heq] at hrun
  simp only [matchExp, matchSign_toString, hrun]
  simp only [true_or, if_true, digitsValue_toDigits, decide_eq_true_eq]
  rw [show (if e < 0 then -(e.natAbs : Int) else e.natAbs) = e by split <;> omega]

/-- A finite float's text `<mantissa>e<exponent>` is read back as that float. -/
theorem parseNumber_decimal (m e : Int) {rest : List Char} (hr : ValueEnd rest) :
    parseNumber (floatText (.decimal m e) ++ rest) = some (.float (.decimal m e), rest) := by
  have hint : matchInteger ((toString m).data ++ 'e' :: ((toString e).data ++ rest)) =
      some (decide (m < 0), Nat.toDigits 10 m.natAbs, 'e' :: ((toString e).data ++ rest)) :=
    matchInteger_toString m fun c hc => by simp at hc; subst hc; rfl
  have hexp := matchExp_toString e rest fun c hc => (hr.not_number c hc).1
  simp only [floatText, String.data_append, List.append_assoc, List.cons_append,
    List.nil_append]
  simp only [parseNumber, hint, List.isEmpty_eq_true, Option.isNone_iff_eq_none,
    Option.bind_eq_bind, Option.some_bind, List.head?_cons, Option.mem_def, Option.some.injEq,
    ne_eq, forall_eq', Char.reduceEq, not_false_eq_true, matchFrac_of_head, hexp, reduceCtorEq,
    and_false, reduceIte, decide_eq_true_eq, List.append_nil, digitsValue_toDigits, sign_natAbs,
    Option.getD_some, List.length_nil, Int.Nat.cast_ofNat_Int, Int.sub_zero]

/-! ### Strings -/

theorem hexValue_hexDigit : ∀ d, d < 16 → hexValue (hexDigit d) = some d := by
  decide

theorem hex4_hex4Chars {u : Nat} (hu : u < 0x10000) :
    hex4 (hexDigit (u / 4096 % 16)) (hexDigit (u / 256 % 16)) (hexDigit (u / 16 % 16))
      (hexDigit (u % 16)) = some u := by
  simp only [hex4, hexValue_hexDigit _ (Nat.mod_lt _ (by omega : 16 > 0))]
  simp only [Option.pure_def, Option.bind_eq_bind, Option.some_bind, Option.some.injEq]
  omega

/-- A one-letter escape is read back through `BACKSLASH`. -/
theorem scanString_backslash {e c : Char} (h : backslash.lookup e = some c) (he : e ≠ 'u')
    (r acc : List Char) : scanString ('\\' :: e :: r) acc = scanString r (c :: acc) := by
  simp [scanString, scanEscape, he, h]

/-- A `\\uXXXX` escape of a code point that is not a surrogate. -/
theorem scanString_unicode {u : Nat} (hu : u < 0x10000) (hh : isHighSurrogate u = false)
    (hl : isLowSurrogate u = false) (r acc : List Char) :
    scanString ('\\' :: 'u' :: hex4Chars u ++ r) acc = scanString r (Char.ofNat u :: acc) := by
  simp [scanString, scanEscape, scanUnicode, hex4Chars, hex4_hex4Chars hu, hh, hl]

/-- A surrogate pair `\\uD8XX\\uDCXX`. -/
theorem scanString_pair {hi lo : Nat} (hh : isHighSurrogate hi = true)
    (hl : isLowSurrogate lo = true) (r acc : List Char) :
    scanString ('\\' :: 'u' :: hex4Chars hi ++ ('\\' :: 'u' :: hex4Chars lo ++ r)) acc =
      scanString r (Char.ofNat (0x10000 + (hi - 0xD800) * 1024 + (lo - 0xDC00)) :: acc) := by
  simp only [isHighSurrogate, isLowSurrogate, Bool.and_eq_true, decide_eq_true_eq] at hh hl
  simp [scanString, scanEscape, scanUnicode, scanLowSurrogate, hex4Chars,
    hex4_hex4Chars (by omega : hi < 0x10000), hex4_hex4Chars (by omega : lo < 0x10000),
    isHighSurrogate, isLowSurrogate, hh, hl]

/-- Every one-letter escape `json.dumps` writes is a key of `BACKSLASH` that stands for the
    escaped character. -/
theorem backslash_of_escapeDct {c e : Char} (h : escapeDct.lookup c = some e) :
    backslash.lookup e = some c ∧ e ≠ 'u' := by
  obtain ⟨l₁, l₂, hl, -⟩ := List.lookup_eq_some_iff.1 h
  have hmem : (c, e) ∈ escapeDct := hl ▸ List.mem_append_right _ (.head _)
  have hall : ∀ p ∈ escapeDct, backslash.lookup p.2 = some p.1 ∧ p.2 ≠ 'u' := by decide
  exact hall _ hmem

/-- `scanString` reads back the escaped text of every character. -/
theorem scanString_escapeChar (c : Char) (r acc : List Char) :
    scanString (escapeChar c ++ r) acc = scanString r (c :: acc) := by
  have hv : c.toNat < 0xD800 ∨ (0xDFFF < c.toNat ∧ c.toNat < 0x110000) := c.valid
  unfold escapeChar
  split
  · rename_i hc
    simp only [escapeAscii, Bool.not_eq_true', decide_eq_false_iff_not, not_or, not_not] at hc
    have : ¬c.toNat < 0x20 := Nat.not_lt.2 hc.2.2.1
    simp [scanString, hc.1, hc.2.1, this]
  · split
    · rename_i e he
      obtain ⟨hb, hu⟩ := backslash_of_escapeDct he
      exact scanString_backslash hb hu r acc
    · split
      · rw [scanString_unicode ‹_› (by simp [isHighSurrogate]; omega)
          (by simp [isLowSurrogate]; omega), Char.ofNat_toNat]
      · have hh : isHighSurrogate (0xD800 + (c.toNat - 0x10000) / 1024) = true := by
          simp [isHighSurrogate]; omega
        have hl : isLowSurrogate (0xDC00 + (c.toNat - 0x10000) % 1024) = true := by
          simp [isLowSurrogate]; omega
        have hc : 0x10000 + (0xD800 + (c.toNat - 0x10000) / 1024 - 0xD800) * 1024 +
            (0xDC00 + (c.toNat - 0x10000) % 1024 - 0xDC00) = c.toNat := by omega
        simp only [List.append_assoc]
        rw [scanString_pair hh hl, hc, Char.ofNat_toNat]

/-- The body of a string literal `json.dumps` writes is read back as the string. -/
theorem scanString_escaped (cs rest acc : List Char) :
    scanString (cs.flatMap escapeChar ++ '"' :: rest) acc =
      .ok (String.mk (acc.reverse ++ cs), rest) := by
  induction cs generalizing acc with
  | nil => simp [scanString]
  | cons c cs ih => simp [List.append_assoc, scanString_escapeChar, ih]

/-! ### The parser's steps -/

theorem skipWs_of_head {cs : List Char} (h : ∀ c ∈ cs.head?, isWs c = false) : skipWs cs = cs :=
  (takeWhile_dropWhile_of_head h).2

theorem skipWs_cons {c : Char} (h : isWs c = false) (r : List Char) : skipWs (c :: r) = c :: r :=
  skipWs_of_head (by simpa using h)

theorem skipWs_space (r : List Char) : skipWs (' ' :: r) = skipWs r := by
  simp [skipWs, isWs]

theorem parseValue_str (n : Nat) (cs : List Char) :
    parseValue (n + 1) ('"' :: cs) = (fun (s, rest) => (.str s, rest)) <$> scanString cs [] := by
  simp [parseValue]

theorem parseValue_arr (n : Nat) (cs : List Char) :
    parseValue (n + 1) ('[' :: cs) = parseArray n (skipWs cs) := by
  simp [parseValue]

theorem parseValue_obj (n : Nat) (cs : List Char) :
    parseValue (n + 1) ('{' :: cs) = parseObject n (skipWs cs) := by
  simp [parseValue]

theorem parseArray_close (n : Nat) (rest : List Char) :
    parseArray (n + 1) (']' :: rest) = .ok (.arr [], rest) := by
  simp [parseArray]

theorem parseArray_open {n : Nat} {cs : List Char} (h : cs.head? ≠ some ']') :
    parseArray (n + 1) cs = parseElements n cs [] := by
  simp [parseArray, h]

theorem parseObject_close (n : Nat) (rest : List Char) :
    parseObject (n + 1) ('}' :: rest) = .ok (.obj [], rest) := by
  simp [parseObject]

theorem parseObject_open (n : Nat) (cs : List Char) :
    parseObject (n + 1) ('"' :: cs) = parseMembers n cs [] := by
  simp [parseObject]

theorem parseElements_last {n : Nat} {cs r rest : List Char} {values : List JsonValue}
    {v : JsonValue} (hv : parseValue n cs = .ok (v, r)) (hr : skipWs r = ']' :: rest) :
    parseElements (n + 1) cs values = .ok (.arr (values ++ [v]), rest) := by
  simp [parseElements, hv, hr, bind, Except.bind]

theorem parseElements_next {n : Nat} {cs r r' : List Char} {values : List JsonValue}
    {v : JsonValue} (hv : parseValue n cs = .ok (v, r)) (hr : skipWs r = ',' :: r') :
    parseElements (n + 1) cs values = parseElements n (skipWs r') (values ++ [v]) := by
  simp [parseElements, hv, hr, bind, Except.bind]

theorem parseMembers_last {n : Nat} {cs r r' r'' rest : List Char} {key : String}
    {pairs : List (String × JsonValue)} {v : JsonValue} (hk : scanString cs [] = .ok (key, r))
    (hc : skipWs r = ':' :: r') (hv : parseValue n (skipWs r') = .ok (v, r''))
    (he : skipWs r'' = '}' :: rest) :
    parseMembers (n + 1) cs pairs = .ok (.obj (dict (pairs ++ [(key, v)])), rest) := by
  simp [parseMembers, hk, hc, hv, he, bind, Except.bind]

theorem parseMembers_next {n : Nat} {cs r r' r'' r3 r4 : List Char} {key : String}
    {pairs : List (String × JsonValue)} {v : JsonValue} (hk : scanString cs [] = .ok (key, r))
    (hc : skipWs r = ':' :: r') (hv : parseValue n (skipWs r') = .ok (v, r''))
    (he : skipWs r'' = ',' :: r3) (hq : skipWs r3 = '"' :: r4) :
    parseMembers (n + 1) cs pairs = parseMembers n r4 (pairs ++ [(key, v)]) := by
  simp [parseMembers, hk, hc, hv, he, hq, bind, Except.bind]

/-! ### Dicts -/

theorem foldl_dictInsert_of_nodup (pairs acc : List (String × JsonValue))
    (h : ((acc ++ pairs).map Prod.fst).Nodup) : pairs.foldl dictInsert acc = acc ++ pairs := by
  induction pairs generalizing acc with
  | nil => simp
  | cons kv pairs ih =>
    have hk : kv.1 ∉ acc.map Prod.fst := by
      simp only [List.map_append, List.map_cons, List.nodup_append, List.disjoint_cons_right] at h
      exact h.2.2.1
    rw [List.foldl_cons, dictInsert, if_neg hk, ih _ (by simpa using h)]
    simp

/-- `dict(pairs)` keeps pairs whose keys are distinct as they are. -/
theorem dict_of_nodup {pairs : List (String × JsonValue)} (h : (pairs.map Prod.fst).Nodup) :
    dict pairs = pairs :=
  foldl_dictInsert_of_nodup pairs [] (by simpa using h)

/-! The keys of a `dict` are those of its pairs in order of first occurrence: `eraseDups`. -/

theorem eraseDups_loop_cons_of_mem {α : Type} [DecidableEq α] {a : α} {bs : List α}
    (l : List α) (ha : a ∈ bs) : List.eraseDups.loop (a :: l) bs = List.eraseDups.loop l bs := by
  simp [List.eraseDups.loop, List.elem_eq_mem, ha]

theorem eraseDups_loop_cons_of_not_mem {α : Type} [DecidableEq α] {a : α} {bs : List α}
    (l : List α) (ha : a ∉ bs) :
    List.eraseDups.loop (a :: l) bs = List.eraseDups.loop l (a :: bs) := by
  simp [List.eraseDups.loop, List.elem_eq_mem, ha]

theorem mem_eraseDups_loop {α : Type} [DecidableEq α] (x : α) :
    ∀ (l bs : List α), x ∈ List.eraseDups.loop l bs ↔ x ∈ l ∨ x ∈ bs
  | [], bs => by simp [List.eraseDups.loop]
  | a :: l, bs => by
    by_cases ha : a ∈ bs
    · rw [eraseDups_loop_cons_of_mem l ha, mem_eraseDups_loop x l bs]
      by_cases hx : x = a <;> simp_all
    · rw [eraseDups_loop_cons_of_not_mem l ha, mem_eraseDups_loop x l (a :: bs)]
      simp only [List.mem_cons]
      tauto

theorem mem_eraseDups {α : Type} [DecidableEq α] {x : α} {l : List α} :
    x ∈ l.eraseDups ↔ x ∈ l := by
  simp [List.eraseDups, mem_eraseDups_loop]

theorem eraseDups_loop_append_singleton {α : Type} [DecidableEq α] (x : α) :
    ∀ (l bs : List α), List.eraseDups.loop (l ++ [x]) bs =
      if x ∈ l ∨ x ∈ bs then List.eraseDups.loop l bs else List.eraseDups.loop l bs ++ [x]
  | [], bs => by
    by_cases hx : x ∈ bs <;> simp [List.eraseDups.loop, List.elem_eq_mem, hx]
  | a :: l, bs => by
    by_cases ha : a ∈ bs
    · rw [List.cons_append, eraseDups_loop_cons_of_mem _ ha, eraseDups_loop_cons_of_mem _ ha,
        eraseDups_loop_append_singleton x l bs]
      by_cases hx : x = a <;> simp_all
    · rw [List.cons_append, eraseDups_loop_cons_of_not_mem _ ha,
        eraseDups_loop_cons_of_not_mem _ ha, eraseDups_loop_append_singleton x l (a :: bs)]
      by_cases hx : x = a <;> simp_all

/-- Appending an element keeps the first occurrences and adds the element if it is new. -/
theorem eraseDups_append_singleton {α : Type} [DecidableEq α] (l : List α) (x : α) :
    (l ++ [x]).eraseDups = if x ∈ l then l.eraseDups else l.eraseDups ++ [x] := by
  simp [List.eraseDups, eraseDups_loop_append_singleton]

/-- The characters the text of a value starts with. -/
def valueStarts : List Char := "\"[\x7b-0123456789INfnt".data

theorem valueStarts_spec : ∀ c ∈ valueStarts, isWs c = false ∧ c ≠ ']' ∧ c ≠ '\uFEFF' := by
  decide

theorem digit_mem {c : Char} (h : c.isDigit = true) : c ∈ "0123456789".data := by
  have hdigits : ∀ k < 58, 48 ≤ k → Char.ofNat k ∈ "0123456789".data := by decide
  have hb := (isDigit_iff c).1 h
  rw [← Char.ofNat_toNat c]
  exact hdigits _ (by omega) hb.1

theorem toString_head (n : Int) :
    ∃ c t, (toString n).data = c :: t ∧ c ∈ "-0123456789".data := by
  rw [toString_int_data]
  obtain ⟨d, tl, heq, hds, -⟩ := toDigits_spec n.natAbs
  split
  · exact ⟨'-', _, rfl, by decide⟩
  · exact ⟨d, tl, by simp [heq], List.mem_cons_of_mem _ (digit_mem (hds d (.head _)))⟩

theorem dumpsValue_head (v : JsonValue) : ∃ c t, dumpsValue v = c :: t ∧ c ∈ valueStarts := by
  have hnum : "-0123456789".data ⊆ valueStarts := by decide
  cases v with
  | null => exact ⟨_, _, rfl, by decide⟩
  | bool b => cases b <;> exact ⟨_, _, rfl, by decide⟩
  | int n =>
    obtain ⟨c, t, h, hc⟩ := toString_head n
    exact ⟨c, t, h, hnum hc⟩
  | float f =>
    cases f with
    | decimal m e =>
      obtain ⟨c, t, h, hc⟩ := toString_head m
      exact ⟨c, t ++ 'e' :: (toString e).data, by simp [dumpsValue, floatText, h], hnum hc⟩
    | nan => exact ⟨_, _, rfl, by decide⟩
    | infinity b => cases b <;> exact ⟨_, _, rfl, by decide⟩
  | str s => exact ⟨_, _, rfl, by decide⟩
  | arr items => exact ⟨_, _, rfl, by decide⟩
  | obj fields => exact ⟨_, _, rfl, by decide⟩

theorem skipWs_dumpsValue (v : JsonValue) (r : List Char) :
    skipWs (dumpsValue v ++ r) = dumpsValue v ++ r := by
  obtain ⟨c, t, h, hc⟩ := dumpsValue_head v
  exact skipWs_of_head (by simp [h, (valueStarts_spec c hc).1])

theorem parseValue_number {c : Char} {t : List Char} {vr : JsonValue × List Char}
    (hc : c ∈ "-0123456789".data) (h : parseNumber (c :: t) = some vr)
    (hfit : vr.1.intsFit = true) (n : Nat) : parseValue (n + 1) (c :: t) = .ok vr := by
  have hne : c ≠ '"' ∧ c ≠ '{' ∧ c ≠ '[' ∧ c ≠ 'n' ∧ c ≠ 't' ∧ c ≠ 'f' := by
    revert hc; generalize c = d; revert d; decide
  simp [parseValue, hne, h, hfit]

theorem dumpsItems_cons (v : JsonValue) (vs : List JsonValue) :
    ∃ t, dumpsItems (v :: vs) = dumpsValue v ++ t := by
  cases vs with
  | nil => exact ⟨[], by simp [dumpsItems]⟩
  | cons w ws => exact ⟨", ".data ++ dumpsItems (w :: ws), by simp [dumpsItems]⟩

theorem dumpsFields_cons (f : String × JsonValue) (fs : List (String × JsonValue)) :
    dumpsFields (f :: fs) = '"' :: (dumpsFields (f :: fs)).tail := by
  obtain ⟨k, v⟩ := f
  cases fs <;> rfl

theorem valueEnd_cons {c : Char} {r : List Char} (h : c = ',' ∨ c = ']' ∨ c = '}') :
    ValueEnd (c :: r) := by
  simpa [ValueEnd] using h

mutual

/-- **`json.loads` reads back what `json.dumps` writes**, for every value whose dicts have
    distinct keys and whatever may follow it in an enclosing text, given twice the length of
    its text as fuel. -/
theorem parseValue_dumpsValue : ∀ (v : JsonValue), v.distinctKeys = true → v.intsFit = true →
    ∀ n, 2 * (dumpsValue v).length < n → ∀ rest, ValueEnd rest →
      parseValue n (dumpsValue v ++ rest) = .ok (v, rest)
  | _, _, _, 0, hn, _, _ => absurd hn (Nat.not_lt_zero _)
  | .null, _, _, _ + 1, _, _, _ => by simp [dumpsValue, parseValue]
  | .bool true, _, _, _ + 1, _, _, _ => by simp [dumpsValue, parseValue]
  | .bool false, _, _, _ + 1, _, _, _ => by simp [dumpsValue, parseValue]
  | .int i, _, hfit, n + 1, _, rest, hr => by
    obtain ⟨c, t, h, hc⟩ := toString_head i
    have hp := parseNumber_int i hr
    simp only [h, List.cons_append] at hp
    simpa [dumpsValue, h] using parseValue_number hc hp hfit n
  | .float (.decimal m e), _, _, n + 1, _, rest, hr => by
    obtain ⟨c, t, h, hc⟩ := toString_head m
    have hp := parseNumber_decimal m e hr
    simp only [floatText, String.data_append, h, List.cons_append, List.append_assoc] at hp
    simpa [dumpsValue, floatText, h] using parseValue_number hc hp rfl n
  | .float .nan, _, _, _ + 1, _, _, _ => by
    simp [dumpsValue, floatText, parseValue, parseNumber, matchInteger, matchDigits]
  | .float (.infinity false), _, _, _ + 1, _, _, _ => by
    simp [dumpsValue, floatText, parseValue, parseNumber, matchInteger, matchDigits]
  | .float (.infinity true), _, _, _ + 1, _, _, _ => by
    simp [dumpsValue, floatText, parseValue, parseNumber, matchInteger, matchDigits]
  | .str s, _, _, _ + 1, _, rest, _ => by
    simp [dumpsValue, encodeString, parseValue, scanString_escaped]
  | .arr [], _, _, n + 1, hn, rest, _ => by
    obtain ⟨k, rfl⟩ : ∃ k, n = k + 1 := ⟨n - 1, by simp [dumpsValue, dumpsItems] at hn; omega⟩
    simp [dumpsValue, dumpsItems, parseValue, parseArray, skipWs, isWs]
  | .arr (v :: vs), hv, hfit, n + 1, hn, rest, _ => by
    obtain ⟨k, rfl⟩ : ∃ k, n = k + 1 := ⟨n - 1, by simp [dumpsValue] at hn; omega⟩
    obtain ⟨t, ht⟩ := dumpsItems_cons v vs
    obtain ⟨c, t', hc, hcs⟩ := dumpsValue_head v
    have hitems := parseElements_dumpsItems (v :: vs) (List.cons_ne_nil _ _) hv hfit k
      (by simp [dumpsValue] at hn; omega) [] rest
    rw [ht, List.append_assoc] at hitems
    have hne : (dumpsValue v ++ (t ++ ']' :: rest)).head? ≠ some ']' := by
      simp [hc, (valueStarts_spec c hcs).2.1]
    simp only [dumpsValue, ht, List.cons_append, List.append_assoc, List.singleton_append,
      parseValue_arr, skipWs_dumpsValue, parseArray_open hne, hitems, List.nil_append]
  | .obj [], _, _, n + 1, hn, rest, _ => by
    obtain ⟨k, rfl⟩ : ∃ k, n = k + 1 := ⟨n - 1, by simp [dumpsValue, dumpsFields] at hn; omega⟩
    simp [dumpsValue, dumpsFields, parseValue, parseObject, skipWs, isWs]
  | .obj (f :: fs), hv, hfit, n + 1, hn, rest, _ => by
    obtain ⟨k, rfl⟩ : ∃ k, n = k + 1 := ⟨n - 1, by simp [dumpsValue] at hn; omega⟩
    simp only [JsonValue.distinctKeys, Bool.and_eq_true, decide_eq_true_eq] at hv
    have hfields := parseMembers_dumpsFields (f :: fs) (List.cons_ne_nil _ _) hv.2 hfit k
      (by simp [dumpsValue] at hn; omega) [] rest
    rw [List.nil_append, dict_of_nodup hv.1] at hfields
    obtain ⟨t, ht⟩ : ∃ t, dumpsFields (f :: fs) = '"' :: t := ⟨_, dumpsFields_cons f fs⟩
    rw [ht, List.tail_cons] at hfields
    simp [dumpsValue, ht, parseValue, parseObject, skipWs, isWs, hfields]

/-- The items of a list after `[`: each value is read back, then the `,` or the `]` after
    it. -/
theorem parseElements_dumpsItems : ∀ (vs : List JsonValue), vs ≠ [] →
    JsonValue.itemsDistinctKeys vs = true → JsonValue.itemsIntsFit vs = true →
      ∀ n, 2 * (dumpsItems vs).length + 1 < n →
      ∀ values rest, parseElements n (dumpsItems vs ++ ']' :: rest) values =
        .ok (.arr (values ++ vs), rest)
  | [], hne, _, _, _, _, _, _ => absurd rfl hne
  | _, _, _, _, 0, hn, _, _ => absurd hn (Nat.not_lt_zero _)
  | [v], _, hv, hfit, n + 1, hn, values, rest => by
    simp only [JsonValue.itemsDistinctKeys, JsonValue.itemsIntsFit, Bool.and_true] at hv hfit
    simp only [dumpsItems] at hn ⊢
    exact parseElements_last (parseValue_dumpsValue v hv hfit n (by omega) _ (valueEnd_cons (by simp)))
      (by simp [skipWs, isWs])
  | v :: w :: vs, _, hv, hfit, n + 1, hn, values, rest => by
    rw [JsonValue.itemsDistinctKeys, Bool.and_eq_true] at hv
    rw [JsonValue.itemsIntsFit, Bool.and_eq_true] at hfit
    simp [dumpsItems] at hn
    have hrest := parseElements_dumpsItems (w :: vs) (List.cons_ne_nil _ _) hv.2 hfit.2 n
      (by omega) (values ++ [v]) rest
    have hv' := parseValue_dumpsValue v hv.1 hfit.1 n (by omega)
      (',' :: ' ' :: (dumpsItems (w :: vs) ++ ']' :: rest)) (valueEnd_cons (by simp))
    obtain ⟨t, ht⟩ := dumpsItems_cons w vs
    have hskip : skipWs (' ' :: (dumpsItems (w :: vs) ++ ']' :: rest)) =
        dumpsItems (w :: vs) ++ ']' :: rest := by
      rw [skipWs_space, ht, List.append_assoc, skipWs_dumpsValue]
    simp only [dumpsItems, List.append_assoc, List.cons_append, List.nil_append]
    rw [parseElements_next hv' (skipWs_cons (c := ',') (by decide) _), hskip, hrest]
    simp

/-- The members of a dict after `{"`: each key and value is read back, then the `,` or the
    `}` after them. -/
theorem parseMembers_dumpsFields : ∀ (fs : List (String × JsonValue)), fs ≠ [] →
    JsonValue.fieldsDistinctKeys fs = true → JsonValue.fieldsIntsFit fs = true →
      ∀ n, 2 * (dumpsFields fs).length < n →
      ∀ pairs rest, parseMembers n ((dumpsFields fs).tail ++ '}' :: rest) pairs =
        .ok (.obj (dict (pairs ++ fs)), rest)
  | [], hne, _, _, _, _, _, _ => absurd rfl hne
  | _, _, _, _, 0, hn, _, _ => absurd hn (Nat.not_lt_zero _)
  | [(k, v)], _, hv, hfit, n + 1, hn, pairs, rest => by
    simp only [JsonValue.fieldsDistinctKeys, JsonValue.fieldsIntsFit, Bool.and_true] at hv hfit
    simp [dumpsFields, encodeString] at hn
    have hkey : scanString (k.data.flatMap escapeChar ++ '"' :: ':' :: ' ' ::
        (dumpsValue v ++ '}' :: rest)) [] = .ok (k, ':' :: ' ' :: (dumpsValue v ++ '}' :: rest)) := by
      simpa using scanString_escaped k.data (':' :: ' ' :: (dumpsValue v ++ '}' :: rest)) []
    have hval : parseValue n (skipWs (' ' :: (dumpsValue v ++ '}' :: rest))) =
        .ok (v, '}' :: rest) := by
      rw [skipWs_space, skipWs_dumpsValue]
      exact parseValue_dumpsValue v hv hfit n (by omega) _ (valueEnd_cons (by simp))
    simp only [dumpsFields, encodeString, List.cons_append, List.tail_cons, List.append_assoc,
      List.nil_append]
    exact parseMembers_last hkey (skipWs_cons (c := ':') (by decide) _) hval
      (skipWs_cons (c := '}') (by decide) _)
  | (k, v) :: f :: fs, _, hv, hfit, n + 1, hn, pairs, rest => by
    rw [JsonValue.fieldsDistinctKeys, Bool.and_eq_true] at hv
    rw [JsonValue.fieldsIntsFit, Bool.and_eq_true] at hfit
    simp [dumpsFields, encodeString] at hn
    obtain ⟨t, ht⟩ : ∃ t, dumpsFields (f :: fs) = '"' :: t := ⟨_, dumpsFields_cons f fs⟩
    have hrest := parseMembers_dumpsFields (f :: fs) (List.cons_ne_nil _ _) hv.2 hfit.2 n
      (by omega) (pairs ++ [(k, v)]) rest
    rw [ht, List.tail_cons] at hrest
    have hkey : scanString (k.data.flatMap escapeChar ++ '"' :: ':' :: ' ' ::
        (dumpsValue v ++ ',' :: ' ' :: '"' :: (t ++ '}' :: rest))) [] =
          .ok (k, ':' :: ' ' :: (dumpsValue v ++ ',' :: ' ' :: '"' :: (t ++ '}' :: rest))) := by
      simpa using scanString_escaped k.data
        (':' :: ' ' :: (dumpsValue v ++ ',' :: ' ' :: '"' :: (t ++ '}' :: rest))) []
    have hval : parseValue n (skipWs (' ' :: (dumpsValue v ++ ',' :: ' ' :: '"' ::
        (t ++ '}' :: rest)))) = .ok (v, ',' :: ' ' :: '"' :: (t ++ '}' :: rest)) := by
      rw [skipWs_space, skipWs_dumpsValue]
      exact parseValue_dumpsValue v hv.1 hfit.1 n (by omega) _ (valueEnd_cons (by simp))
    have hquote : skipWs (' ' :: '"' :: (t ++ '}' :: rest)) = '"' :: (t ++ '}' :: rest) := by
      rw [skipWs_space, skipWs_cons (by decide)]
    simp only [dumpsFields, encodeString, ht, List.cons_append, List.tail_cons, List.append_assoc,
      List.nil_append]
    rw [parseMembers_next hkey (skipWs_cons (c := ':') (by decide) _) hval
      (skipWs_cons (c := ',') (by decide) _) hquote, hrest]
    simp

end

/-- `loads` on the text of a value, from what the parser reads there. -/
theorem loads_dumps_of_parse {v w : JsonValue}
    (hp : ∀ rest, ValueEnd rest → parseValue (2 * (dumpsValue v).length + 1)
      (dumpsValue v ++ rest) = .ok (w, rest)) : loads (dumps v) = .ok w := by
  obtain ⟨c, t, hc, hcs⟩ := dumpsValue_head v
  have hbom : (dumpsValue v).head? ≠ some '\uFEFF' := by
    simp [hc, (valueStarts_spec c hcs).2.2]
  have hp := hp [] (by simp [ValueEnd])
  rw [List.append_nil] at hp
  have hskip := skipWs_dumpsValue v []
  rw [List.append_nil] at hskip
  simp only [loads, dumps, String.length_mk, hbom, reduceIte, hskip, hp]
  rfl

/-- **`json.loads(json.dumps(v)) == v`** for every value whose dicts have distinct keys and
    whose `int`s CPython converts. -/
theorem loads_dumps (v : JsonValue) (hv : v.distinctKeys = true) (hfit : v.intsFit = true) :
    loads (dumps v) = .ok v :=
  loads_dumps_of_parse (parseValue_dumpsValue v hv hfit _ (by omega))

theorem toNat_toUInt8 {x : Nat} (h : x < 256) : x.toUInt8.toNat = x :=
  UInt8.toNat_ofNat_of_lt h

/-! The four branches of `decodeUtf8`, by the length of the sequence. -/

theorem decodeUtf8_one {b0 : UInt8} (bs : List UInt8) (h : b0.toNat ≤ 0x7F) :
    decodeUtf8 (b0 :: bs) = (Char.ofNat b0.toNat :: ·) <$> decodeUtf8 bs := by
  rw [decodeUtf8.eq_def]
  simp only [if_pos h]

theorem decodeUtf8_two {b0 b1 : UInt8} (bs : List UInt8) (h0 : 0xC2 ≤ b0.toNat)
    (h0' : b0.toNat ≤ 0xDF) (h1 : secondOk b0.toNat b1 = true) :
    decodeUtf8 (b0 :: b1 :: bs) =
      (Char.ofNat ((b0.toNat - 0xC0) * 64 + (b1.toNat - 0x80)) :: ·) <$> decodeUtf8 bs := by
  rw [decodeUtf8.eq_def]
  simp only [if_neg (show ¬b0.toNat ≤ 0x7F by omega),
    if_neg (show ¬(b0.toNat < 0xC2 ∨ 0xF4 < b0.toNat) by omega), h1, Bool.not_true,
    Bool.false_eq_true, reduceIte, if_pos h0']

theorem decodeUtf8_three {b0 b1 b2 : UInt8} (bs : List UInt8) (h0 : 0xE0 ≤ b0.toNat)
    (h0' : b0.toNat ≤ 0xEF) (h1 : secondOk b0.toNat b1 = true) (h2 : isTail b2 = true) :
    decodeUtf8 (b0 :: b1 :: b2 :: bs) =
      (Char.ofNat ((b0.toNat - 0xE0) * 4096 + (b1.toNat - 0x80) * 64 + (b2.toNat - 0x80)) :: ·)
        <$> decodeUtf8 bs := by
  rw [decodeUtf8.eq_def]
  simp only [if_neg (show ¬b0.toNat ≤ 0x7F by omega),
    if_neg (show ¬(b0.toNat < 0xC2 ∨ 0xF4 < b0.toNat) by omega), h1, h2, Bool.not_true,
    Bool.false_eq_true, reduceIte, if_neg (show ¬b0.toNat ≤ 0xDF by omega), if_pos h0']

theorem decodeUtf8_four {b0 b1 b2 b3 : UInt8} (bs : List UInt8) (h0 : 0xF0 ≤ b0.toNat)
    (h0' : b0.toNat ≤ 0xF4) (h1 : secondOk b0.toNat b1 = true) (h2 : isTail b2 = true)
    (h3 : isTail b3 = true) :
    decodeUtf8 (b0 :: b1 :: b2 :: b3 :: bs) =
      (Char.ofNat ((b0.toNat - 0xF0) * 262144 + (b1.toNat - 0x80) * 4096 +
        (b2.toNat - 0x80) * 64 + (b3.toNat - 0x80)) :: ·) <$> decodeUtf8 bs := by
  rw [decodeUtf8.eq_def]
  simp only [if_neg (show ¬b0.toNat ≤ 0x7F by omega),
    if_neg (show ¬(b0.toNat < 0xC2 ∨ 0xF4 < b0.toNat) by omega), h1, h2, h3, Bool.not_true,
    Bool.false_eq_true, reduceIte, if_neg (show ¬b0.toNat ≤ 0xDF by omega),
    if_neg (show ¬b0.toNat ≤ 0xEF by omega)]

theorem isTail_toUInt8 {x : Nat} (h : x < 64) : isTail (0x80 + x).toUInt8 = true := by
  simp only [isTail, toNat_toUInt8 (by omega : 0x80 + x < 256)]
  simp only [Bool.and_eq_true, decide_eq_true_eq]
  omega

theorem secondOk_of_ne {a : Nat} {b : UInt8} (h : a ≠ 0xE0 ∧ a ≠ 0xED ∧ a ≠ 0xF0 ∧ a ≠ 0xF4)
    (hb : isTail b = true) : secondOk a b = true := by
  simp [secondOk, h.1, h.2.1, h.2.2.1, h.2.2.2, hb]

theorem secondOk_three {n : Nat} (h1 : 0x800 ≤ n) (h2 : n < 0x10000)
    (hs : n < 0xD800 ∨ 0xDFFF < n) :
    secondOk (0xE0 + n / 4096) (0x80 + n / 64 % 64).toUInt8 = true := by
  simp only [secondOk, isTail, toNat_toUInt8 (by omega : 0x80 + n / 64 % 64 < 256)]
  split_ifs <;> simp <;> omega

theorem secondOk_four {n : Nat} (h1 : 0x10000 ≤ n) (h2 : n < 0x110000) :
    secondOk (0xF0 + n / 262144) (0x80 + n / 4096 % 64).toUInt8 = true := by
  simp only [secondOk, isTail, toNat_toUInt8 (by omega : 0x80 + n / 4096 % 64 < 256)]
  split_ifs <;> simp <;> omega

/-- Decoding the UTF-8 bytes of a character gives the character back, whatever follows. -/
theorem decodeUtf8_utf8Bytes (c : Char) (bs : List UInt8) :
    decodeUtf8 (utf8Bytes c ++ bs) = (c :: ·) <$> decodeUtf8 bs := by
  have hv : c.toNat < 0xD800 ∨ (0xDFFF < c.toNat ∧ c.toNat < 0x110000) := c.valid
  unfold utf8Bytes
  dsimp only
  split_ifs with h1 h2 h3
  · have e0 := toNat_toUInt8 (x := c.toNat) (by omega)
    rw [List.singleton_append, decodeUtf8_one _ (by omega), e0, Char.ofNat_toNat]
  · have e0 := toNat_toUInt8 (x := 0xC0 + c.toNat / 64) (by omega)
    have e1 := toNat_toUInt8 (x := 0x80 + c.toNat % 64) (by omega)
    rw [List.cons_append, List.singleton_append, decodeUtf8_two _ (by omega) (by omega)
      (secondOk_of_ne (by omega) (isTail_toUInt8 (by omega))), e0, e1,
      show (0xC0 + c.toNat / 64 - 0xC0) * 64 + (0x80 + c.toNat % 64 - 0x80) = c.toNat by simp only [Nat.add_sub_cancel_left]; omega,
      Char.ofNat_toNat]
  · have e0 := toNat_toUInt8 (x := 0xE0 + c.toNat / 4096) (by omega)
    have e1 := toNat_toUInt8 (x := 0x80 + c.toNat / 64 % 64) (by omega)
    have e2 := toNat_toUInt8 (x := 0x80 + c.toNat % 64) (by omega)
    have hs := secondOk_three (by omega) h3 (by omega)
    rw [← e0] at hs
    rw [List.cons_append, List.cons_append, List.singleton_append,
      decodeUtf8_three _ (by omega) (by omega) hs (isTail_toUInt8 (by omega)), e0, e1, e2,
      show (0xE0 + c.toNat / 4096 - 0xE0) * 4096 + (0x80 + c.toNat / 64 % 64 - 0x80) * 64 +
        (0x80 + c.toNat % 64 - 0x80) = c.toNat by simp only [Nat.add_sub_cancel_left]; omega, Char.ofNat_toNat]
  · have e0 := toNat_toUInt8 (x := 0xF0 + c.toNat / 262144) (by omega)
    have e1 := toNat_toUInt8 (x := 0x80 + c.toNat / 4096 % 64) (by omega)
    have e2 := toNat_toUInt8 (x := 0x80 + c.toNat / 64 % 64) (by omega)
    have e3 := toNat_toUInt8 (x := 0x80 + c.toNat % 64) (by omega)
    have hs := secondOk_four (by omega) (by omega : c.toNat < 0x110000)
    rw [← e0] at hs
    rw [List.cons_append, List.cons_append, List.cons_append, List.singleton_append,
      decodeUtf8_four _ (by omega) (by omega) hs (isTail_toUInt8 (by omega))
        (isTail_toUInt8 (by omega)), e0, e1, e2, e3,
      show (0xF0 + c.toNat / 262144 - 0xF0) * 262144 + (0x80 + c.toNat / 4096 % 64 - 0x80) * 4096 +
        (0x80 + c.toNat / 64 % 64 - 0x80) * 64 + (0x80 + c.toNat % 64 - 0x80) = c.toNat by simp only [Nat.add_sub_cancel_left]; omega,
      Char.ofNat_toNat]

/-- **`bytes.decode('utf-8')` inverts `str.encode('utf-8')`.** -/
theorem decodeUtf8_encodeUtf8 (cs : List Char) : decodeUtf8 (encodeUtf8 cs) = .ok cs := by
  induction cs with
  | nil => rfl
  | cons c cs ih =>
    rw [encodeUtf8, List.flatMap_cons, decodeUtf8_utf8Bytes, ← encodeUtf8, ih]
    rfl

end BigSkies.Json
