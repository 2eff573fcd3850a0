import LogicalBackup.Proofs.Calendar.Reading
import LogicalBackup.Proofs.Value.Lexer

/-!
# Literals stand for their values

The lexer finds the end of every literal and gives the tokens of its value (`Value.tokens`), which
stand for that value (`Denotes`).  Between the quotation marks of a string the escaped bytes stand
behind backslashes only, and all other bytes as they are (`IsBody`).  `literal_decodes` says all of
this at once.
-/

namespace LogicalBackup

open Decimal Lexer

/-! ## Numerals -/

/-- The number of a numeral without superfluous zeros at its start. -/
def natural? (w : Bytes) : Option Nat :=
  if w ≠ [] ∧ (∀ b ∈ w, 0x30 ≤ b ∧ b ≤ 0x39) ∧ (w.head? = some 0x30 → w.length = 1) then
    some (w.foldl (fun n b => 10 * n + (b.toNat - 0x30)) 0)
  else none

/-- The integer that tokens stand for.  There is a minus sign before numbers that are not zero. -/
def integer? : List Token → Option Int
  | [.word w] => (natural? w).map Int.ofNat
  | [.minus, .word w] => (natural? w).bind fun n => if n = 0 then none else some (-(n : Int))
  | _ => none

/-- The tokens of a sign: a minus, or nothing. -/
def signTokens (negative : Bool) : List Token := if negative then [.minus] else []

theorem utf8_ofNat (n : Nat) : utf8 (ofNat n) = (Nat.toDigits 10 n).map asciiByte :=
  utf8_ofList_eq_map fun _ hc => toNat_lt_of_isDigit (isDigit_of_mem_toDigits hc)

/-- The bytes of digits make up the number of those digits. -/
theorem foldl_asciiByte {digits : List Char} (h : ∀ c ∈ digits, c.isDigit) (n : Nat) :
    (digits.map asciiByte).foldl (fun n b => 10 * n + (b.toNat - 0x30)) n =
      digits.foldl (fun n c => 10 * n + digitValue c) n := by
  induction digits generalizing n with
  | nil => rfl
  | cons c digits ih =>
    obtain ⟨hc, hdigits⟩ := List.forall_mem_cons.1 h
    rw [List.map_cons, List.foldl_cons, toNat_asciiByte (toNat_lt_of_isDigit hc), ih hdigits]
    rfl

theorem natural?_ofNat (n : Nat) : natural? (utf8 (ofNat n)) = some n := by
  have isDigit : ∀ c ∈ Nat.toDigits 10 n, c.isDigit := fun c => isDigit_of_mem_toDigits
  have ne : (Nat.toDigits 10 n).map asciiByte ≠ [] := by
    rw [ne_eq, List.map_eq_nil_iff]
    exact Nat.toDigits_ne_nil
  have range : ∀ b ∈ (Nat.toDigits 10 n).map asciiByte, 0x30 ≤ b ∧ b ≤ 0x39 := by
    intro b hb
    obtain ⟨c, hc, rfl⟩ := List.mem_map.1 hb
    have bounds : 48 ≤ c.toNat ∧ c.toNat ≤ 57 := Char.isDigit_iff_toNat.1 (isDigit c hc)
    rw [UInt8.le_iff_toNat_le, UInt8.le_iff_toNat_le, toNat_asciiByte (by omega)]
    exact bounds
  have first (zero : ((Nat.toDigits 10 n).map asciiByte).head? = some 0x30) :
      ((Nat.toDigits 10 n).map asciiByte).length = 1 := by
    rcases Nat.eq_zero_or_pos n with rfl | pos
    · rfl
    · exfalso
      rw [List.head?_map, Option.map_eq_some_iff] at zero
      obtain ⟨c, hc, e⟩ := zero
      have ascii := toNat_lt_of_isDigit (isDigit c (List.mem_of_head? hc))
      have isZero : c = '0' := asciiByte_inj ascii (by decide) e
      rw [isZero] at hc
      exact head?_toDigits_ne_zero pos hc
  rw [utf8_ofNat, natural?, if_pos ⟨ne, range, first⟩, foldl_asciiByte isDigit]
  exact congrArg some (value_toDigits n)

/-- The tokens of an integer. -/
def integerTokens (i : Int) : List Token :=
  signTokens (i < 0) ++ [.word (utf8 (ofNat i.natAbs))]

theorem integer?_integerTokens (i : Int) : integer? (integerTokens i) = some i := by
  unfold integerTokens signTokens
  by_cases h : i < 0
  · have ne : i.natAbs ≠ 0 := by omega
    have value : -(i.natAbs : Int) = i := by omega
    rw [decide_eq_true h, if_pos rfl]
    simp only [List.singleton_append, integer?, natural?_ofNat, Option.bind_some, ne, if_false,
      value]
  · have value : (i.natAbs : Int) = i := by omega
    rw [decide_eq_false h, if_neg Bool.false_ne_true]
    simp only [List.nil_append, integer?, natural?_ofNat, Option.map_some, Int.ofNat_eq_natCast,
      value]

/-! ## Values -/

/-- The tokens of a floating-point number. -/
def floatTokens {format : BinaryFormat} : Binary format → List Token
  | .nan => [.word (utf8 "NaN")]
  | .infinite negative => signTokens negative ++ [.word (utf8 "inf")]
  | .finite negative mantissa exponent => signTokens negative ++
      [.word (utf8 (String.ofList (Binary.finiteText format mantissa exponent)))]

namespace Value

/-- The tokens of the literal of a value. -/
def tokens : Value → List Token
  | null => [.word (utf8 "NULL")]
  | bool b => [.word (utf8 (if b then "1" else "0"))]
  | int64 n => integerTokens n.toInt
  | uint64 n => integerTokens n.toNat
  | float64 x => floatTokens x
  | text s => [.string (utf8 s)]
  | bytes b => if b.isEmpty then [.word (utf8 "NULL")] else [.word (utf8 "_binary"), .string b]
  | date d => [.string (utf8 d.text)]
  | dateTime m => [.string (utf8 m.text)]
  | other s => [.string (utf8 s)]

end Value

/-- Whether tokens stand for a value.  An integer stands there as its canonical numeral, and a date
or time as a string that is read as that date, or as that time to the second. -/
def Denotes : Value → List Token → Prop
  | .null, ts => ts = [.word (utf8 "NULL")]
  | .bool b, ts => ts = [.word (utf8 (if b then "1" else "0"))]
  | .int64 n, ts => integer? ts = some n.toInt
  | .uint64 n, ts => integer? ts = some (n.toNat : Int)
  | .float64 x, ts => ts = floatTokens x
  | .text s, ts => ts = [.string (utf8 s)]
  | .bytes b, ts =>
    ts = if b = [] then [.word (utf8 "NULL")] else [.word (utf8 "_binary"), .string b]
  | .date d, ts => ∃ s, ts = [.string (utf8 s)] ∧ Date.read s.toList = some d
  | .dateTime m, ts => ∃ s, ts = [.string (utf8 s)] ∧
      DateTime.read s.toList = some ⟨m.date, m.time.toSecond⟩
  | .other s, ts => ts = [.string (utf8 s)]

theorem denotes_tokens (v : Value) : Denotes v v.tokens := by
  cases v with
  | null | bool | float64 | text | other => rfl
  | int64 n => exact integer?_integerTokens n.toInt
  | uint64 n => exact integer?_integerTokens n.toNat
  | bytes b => simp only [Denotes, Value.tokens, List.isEmpty_iff]
  | date d => exact ⟨d.text, rfl, d.read_text⟩
  | dateTime m => exact ⟨m.text, rfl, m.read_text⟩

/-! ## The body of a string -/

/-- The bytes of a string's body that no backslash takes along. -/
def bare : Bytes → Bytes
  | [] => []
  | [b] => [b]
  | b :: c :: s => if b = Byte.backslash then bare s else b :: bare (c :: s)

/-- How a body shows the bytes of a string.  No control character for which there is an escape
stands in it, and outside of escapes it has the bytes for which there is none, in their order. -/
structure IsBody (body b : Bytes) : Prop where
  noControls : ∀ x ∈ body, x ∉ [0, Byte.lineFeed, Byte.carriageReturn, 0x1a, 0x08]
  bare_eq : bare body = b.filter fun x => x ∉ escaped

theorem bare_cons {b : UInt8} (h : b ≠ Byte.backslash) (s : Bytes) :
    bare (b :: s) = b :: bare s := by
  cases s with
  | nil => rfl
  | cons c s => rw [bare, if_neg h]

theorem bare_backslash (c : UInt8) (s : Bytes) : bare (Byte.backslash :: c :: s) = bare s := by
  rw [bare, if_pos rfl]

theorem isBody_escape (b : Bytes) : IsBody (escape b) b := by
  induction b with
  | nil => exact ⟨fun _ h => absurd h List.not_mem_nil, rfl⟩
  | cons x b ih =>
    obtain ⟨noControls, bare_eq⟩ := ih
    rw [escape_cons]
    rcases escapeByte_cases x with ⟨c, written, pair⟩ | ⟨written, bare⟩
    · have marked : x ∈ escaped := List.mem_map_of_mem pair
      have shown : ∀ p ∈ escapes, p.1 ∉ [0, Byte.lineFeed, Byte.carriageReturn, 0x1a, 0x08] := by
        decide
      rw [written]
      constructor
      · intro y hy
        rcases List.mem_cons.1 hy with rfl | hy
        · decide
        · rcases List.mem_cons.1 hy with rfl | hy
          · exact shown _ pair
          · exact noControls y hy
      · rw [List.cons_append, List.singleton_append, bare_backslash, bare_eq,
          List.filter_cons_of_neg (by simpa using marked)]
    · have controls : ∀ y ∈ [0, Byte.lineFeed, Byte.carriageReturn, 0x1a, 0x08], y ∈ escaped := by
        decide
      have backslash : x ≠ Byte.backslash := by rintro rfl; exact bare (by decide)
      rw [written, List.singleton_append]
      constructor
      · intro y hy
        rcases List.mem_cons.1 hy with rfl | hy
        · exact fun control => bare (controls y control)
        · exact noControls y hy
      · rw [bare_cons backslash, bare_eq, List.filter_cons_of_pos (by simpa using bare)]

/-! ## Writing to a buffer -/

theorem escapeInto_eq (out b : Bytes) : escapeInto out b = out ++ escape b :=
  List.foldl_append_eq_append

theorem quoteInto_eq (out b : Bytes) : quoteInto out b = out ++ quote b := by
  rw [quoteInto, escapeInto_eq, quote, List.append_assoc, List.append_assoc, List.singleton_append]

theorem writeLiteral_eq (out : Bytes) (v : Value) : writeLiteral out v = out ++ literal v := by
  cases v with
  | null | bool | int64 | uint64 | float64 => rfl
  | text s => exact quoteInto_eq out (utf8 s)
  | bytes b =>
    by_cases empty : b.isEmpty
    · rw [writeLiteral, literal, if_pos empty, if_pos empty]
    · rw [writeLiteral, literal, if_neg empty, if_neg empty, quoteInto_eq, List.append_assoc]
  | date d => exact quoteInto_eq out (utf8 d.text)
  | dateTime m => exact quoteInto_eq out (utf8 m.text)
  | other s => exact quoteInto_eq out (utf8 s)

/-! ## Lexing literals -/

/-- A sign comes before the digits. -/
theorem utf8_signed (negative : Bool) (s : List Char) :
    utf8 (String.ofList (if negative then '-' :: s else s)) =
      (if negative then utf8 "-" else []) ++ utf8 (String.ofList s) := by
  cases negative with
  | false => rfl
  | true => simp only [if_true, utf8, String.toList_ofList, List.flatMap_cons]; rfl

namespace Lexer

theorem isWordByte_asciiByte {c : Char} (h : IsDecimalChar c) : isWordByte (asciiByte c) := by
  have ascii : c.toNat < 128 := by
    rcases h with digit | rfl
    · exact toNat_lt_of_isDigit digit
    · decide
  have low : asciiByte c < 0x80 := by
    rw [UInt8.lt_iff_toNat_lt, toNat_asciiByte ascii]
    exact ascii
  have word : c.isAlphanum ∨ c = '.' := h.imp_left fun digit => by
    rw [Char.isAlphanum, digit, Bool.or_true]
  unfold isWordByte
  rw [toNat_asciiByte ascii, Char.ofNat_toNat]
  rcases word with alphanum | rfl
  · simp only [low, alphanum, decide_true, Bool.true_or, Bool.and_true]
  · decide

variable {next : UInt8} (h : isDelimiter next) (rest : Bytes)

include h

theorem lex_signed (negative : Bool) {w : Bytes} (word : ∀ b ∈ w, isWordByte b) (ne : w ≠ []) :
    lex ((if negative then utf8 "-" else []) ++ w ++ next :: rest) =
      some (signTokens negative ++ [.word w], next :: rest) := by
  have body (ts : List Token) : run ⟨ts, .between⟩ (w ++ next :: rest) =
      some (ts ++ [.word w], next :: rest) := by
    rw [run_word word ne]
    exact run_delimiter rfl h rest
  cases negative with
  | false => exact body []
  | true => exact body [.minus]

theorem lex_decimal (negative : Bool) {s : List Char} (decimal : ∀ c ∈ s, IsDecimalChar c)
    (ne : s ≠ []) :
    lex ((if negative then utf8 "-" else []) ++ utf8 (String.ofList s) ++ next :: rest) =
      some (signTokens negative ++ [.word (utf8 (String.ofList s))], next :: rest) := by
  have ascii : ∀ c ∈ s, c.toNat < 128 := by
    intro c hc
    rcases decimal c hc with digit | rfl
    · exact toNat_lt_of_isDigit digit
    · decide
  apply lex_signed h
  · rw [utf8_ofList_eq_map ascii]
    intro b hb
    obtain ⟨c, hc, rfl⟩ := List.mem_map.1 hb
    exact isWordByte_asciiByte (decimal c hc)
  · rwa [ne_eq, utf8_eq_nil_iff, String.toList_ofList]

theorem lex_integer (i : Int) : lex (utf8 (ofInt i) ++ next :: rest) =
    some (integerTokens i, next :: rest) := by
  have found := lex_decimal h rest (i < 0)
    (fun c hc => Or.inl (isDigit_of_mem_toDigits hc) : ∀ c ∈ Nat.toDigits 10 i.natAbs, _)
    Nat.toDigits_ne_nil
  have split : utf8 (ofInt i) = (if decide (i < 0) then utf8 "-" else []) ++
      utf8 (ofNat i.natAbs) := by
    unfold ofInt
    by_cases negative : i < 0
    · rw [if_pos negative, decide_eq_true negative, if_pos rfl, utf8_append]
    · rw [if_neg negative, decide_eq_false negative, if_neg Bool.false_ne_true, List.nil_append]
  rw [split]
  exact found

theorem lex_float {format : BinaryFormat} (x : Binary format) :
    lex (utf8 x.text ++ next :: rest) = some (floatTokens x, next :: rest) := by
  cases x with
  | nan =>
    exact lex_signed h rest false (by decide : ∀ b ∈ utf8 "NaN", _) (by decide : utf8 "NaN" ≠ [])
  | infinite negative =>
    have found := lex_signed h rest negative (by decide : ∀ b ∈ utf8 "inf", _) (by decide)
    have split : utf8 (Binary.infinite negative : Binary format).text =
        (if negative then utf8 "-" else []) ++ utf8 "inf" := by
      cases negative with
      | false => rfl
      | true => exact (by decide : utf8 "-inf" = utf8 "-" ++ utf8 "inf")
    rw [split]
    exact found
  | finite negative mantissa exponent =>
    have found := lex_decimal h rest negative (isDecimalChar_finiteText format mantissa exponent)
      (finiteText_ne_nil format mantissa exponent)
    have split : utf8 (Binary.finite negative mantissa exponent : Binary format).text =
        (if negative then utf8 "-" else []) ++
          utf8 (String.ofList (Binary.finiteText format mantissa exponent)) := by
      rw [Binary.text, utf8_signed]
    rw [split]
    exact found

theorem lex_quote (b : Bytes) :
    lex (quote b ++ next :: rest) = some ([.string b], next :: rest) := by
  rw [lex, run_quote]
  exact run_delimiter rfl h rest

/-- The introducer and the space behind it come before a string. -/
theorem lex_binary (b : Bytes) : lex (utf8 "_binary " ++ quote b ++ next :: rest) =
    some ([.word (utf8 "_binary"), .string b], next :: rest) := by
  have introducer (tail : Bytes) : lex (utf8 "_binary " ++ tail) =
      run ⟨[.word (utf8 "_binary")], .between⟩ tail := rfl
  rw [List.append_assoc, introducer, run_quote]
  exact run_delimiter rfl h rest

theorem lex_literal (v : Value) :
    lex (literal v ++ next :: rest) = some (v.tokens, next :: rest) := by
  have null : lex (utf8 "NULL" ++ next :: rest) = some ([.word (utf8 "NULL")], next :: rest) :=
    lex_signed h rest false (by decide : ∀ b ∈ utf8 "NULL", _) (by decide)
  cases v with
  | null => exact null
  | bool b =>
    cases b with
    | false => exact lex_signed h rest false (by decide : ∀ b ∈ utf8 "0", _) (by decide)
    | true => exact lex_signed h rest false (by decide : ∀ b ∈ utf8 "1", _) (by decide)
  | int64 n => exact lex_integer h rest n.toInt
  | uint64 n => exact lex_integer h rest n.toNat
  | float64 x => exact lex_float h rest x
  | text s => exact lex_quote h rest (utf8 s)
  | bytes b =>
    by_cases empty : b.isEmpty
    · rw [literal, Value.tokens, if_pos empty, if_pos empty]
      exact null
    · rw [literal, Value.tokens, if_neg empty, if_neg empty]
      exact lex_binary h rest b
  | date d => exact lex_quote h rest (utf8 d.text)
  | dateTime m => exact lex_quote h rest (utf8 m.text)
  | other s => exact lex_quote h rest (utf8 s)

end Lexer

theorem string_not_mem_signed (negative : Bool) (w b : Bytes) :
    .string b ∉ signTokens negative ++ [.word w] := by
  cases negative <;> simp [signTokens]

/-- A string among the tokens of a value is quoted at the end of its literal. -/
theorem literal_of_string_mem_tokens {v : Value} {b : Bytes} (h : .string b ∈ v.tokens) :
    ∃ head ∈ [[], utf8 "_binary "], literal v = head ++ quote b := by
  have only {x : Bytes} (h : Token.string b ∈ [Token.string x]) :
      ∃ head ∈ [[], utf8 "_binary "], quote x = head ++ quote b := by
    cases List.mem_singleton.1 h
    exact ⟨[], List.mem_cons_self, rfl⟩
  cases v with
  | null => exact absurd h (string_not_mem_signed false _ b)
  | bool => exact absurd h (string_not_mem_signed false _ b)
  | int64 => exact absurd h (string_not_mem_signed _ _ b)
  | uint64 => exact absurd h (string_not_mem_signed _ _ b)
  | float64 x =>
    cases x with
    | nan => exact absurd h (string_not_mem_signed false _ b)
    | infinite => exact absurd h (string_not_mem_signed _ _ b)
    | finite => exact absurd h (string_not_mem_signed _ _ b)
  | text => exact only h
  | bytes x =>
    by_cases empty : x.isEmpty
    · rw [Value.tokens, if_pos empty] at h
      exact absurd h (string_not_mem_signed false _ b)
    · rw [Value.tokens, if_neg empty] at h
      obtain rfl : b = x := by simpa using h
      exact ⟨utf8 "_binary ", by decide, by rw [literal, if_neg empty]⟩
  | date => exact only h
  | dateTime => exact only h
  | other => exact only h

/-- A lexer that starts at the literal of a value stops at the end of the literal, if a comma or a
closing parenthesis follows, and its tokens stand for the value. -/
theorem literal_decodes (v : Value) {next : UInt8} (h : isDelimiter next) (rest : Bytes) :
    lex (literal v ++ next :: rest) = some (v.tokens, next :: rest) ∧ Denotes v v.tokens ∧
      (∀ b, .string b ∈ v.tokens → ∃ head ∈ [[], utf8 "_binary "], ∃ body, IsBody body b ∧
        literal v = head ++ Byte.quote :: (body ++ [Byte.quote])) ∧
      ∀ out, writeLiteral out v = out ++ literal v := by
  refine ⟨lex_literal h rest v, denotes_tokens v, fun b mem => ?_, fun out => writeLiteral_eq out v⟩
  obtain ⟨head, known, e⟩ := literal_of_string_mem_tokens mem
  exact ⟨head, known, escape b, isBody_escape b, e⟩

theorem literal_decodes_bytes :
    isDelimiter Byte.comma ∧
      lex (utf8 "_binary '" ++ [0xff, 0x5c, 0x27, 0x5c, 0x30, 0x09, 0x5c, 0x5c, 0x27, 0x2c, 0x37]) =
        some ([.word (utf8 "_binary"), .string [0xff, 0x27, 0x00, 0x09, 0x5c]], [0x2c, 0x37]) :=
  ⟨by decide, (literal_decodes (.bytes [0xff, 0x27, 0x00, 0x09, 0x5c])
    (by decide : isDelimiter Byte.comma) [0x37]).1⟩

end LogicalBackup
