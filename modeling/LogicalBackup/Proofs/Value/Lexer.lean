import LogicalBackup.Proofs.Value.Literal

/-!
# A lexer of literals

A lexer of the server's SQL, as far as literals need one: words, minus signs and strings.  Between
quotation marks a backslash takes the next byte along, which must be one of `escapes`, and a doubled
quotation mark stands for one.  The lexer stops before the first comma or closing parenthesis
outside a string (`Lexer.lex`).
-/

namespace LogicalBackup

/-- What a literal is made of. -/
inductive Token where
  /-- A keyword, an introducer or a numeral. -/
  | word (w : Bytes)
  | minus
  /-- A string literal, by the bytes that it stands for. -/
  | string (b : Bytes)
  deriving DecidableEq, Repr

namespace Lexer

/-- The byte that a byte behind a backslash stands for. -/
def unescape? (b : UInt8) : Option UInt8 := escapes.lookup b

/-- Whether a byte belongs to words and numerals. -/
def isWordByte (b : UInt8) : Bool :=
  let c := Char.ofNat b.toNat
  b < 0x80 && (c.isAlphanum || c = '_' || c = '.')

/-- Whether a byte ends a literal in a tuple. -/
def isDelimiter (b : UInt8) : Bool := b = Byte.comma || b = 0x29

/-- Where a lexer stands, with the token that is not complete yet. -/
inductive Place where
  | between
  | inWord (w : Bytes)
  | inString (b : Bytes)
  | behindBackslash (b : Bytes)
  /-- Behind a quotation mark that ends the string, unless another one follows. -/
  | behindQuote (b : Bytes)
  deriving DecidableEq, Repr

/-- The tokens read so far, and where the lexer stands. -/
structure State where
  tokens : List Token := []
  place : Place := .between
  deriving DecidableEq, Repr

/-- Reads a byte outside words and strings. -/
def start (tokens : List Token) (b : UInt8) : Option State :=
  if b = 0x20 then some ⟨tokens, .between⟩
  else if b = 0x2d then some ⟨tokens ++ [.minus], .between⟩
  else if b = Byte.quote then some ⟨tokens, .inString []⟩
  else if isWordByte b then some ⟨tokens, .inWord [b]⟩
  else none

/-- Reads a byte, if it may stand there. -/
def step (s : State) (b : UInt8) : Option State :=
  match s.place with
  | .between => start s.tokens b
  | .inWord w =>
    if isWordByte b then some { s with place := .inWord (w ++ [b]) }
    else start (s.tokens ++ [.word w]) b
  | .inString x =>
    some { s with place :=
      if b = Byte.quote then .behindQuote x
      else if b = Byte.backslash then .behindBackslash x
      else .inString (x ++ [b]) }
  | .behindBackslash x => (unescape? b).map fun c => { s with place := .inString (x ++ [c]) }
  | .behindQuote x =>
    if b = Byte.quote then some { s with place := .inString (x ++ [Byte.quote]) }
    else start (s.tokens ++ [.string x]) b

/-- The tokens read, unless a string is open. -/
def State.complete? (s : State) : Option (List Token) :=
  match s.place with
  | .between => some s.tokens
  | .inWord w => some (s.tokens ++ [.word w])
  | .behindQuote x => some (s.tokens ++ [.string x])
  | .inString _ | .behindBackslash _ => none

/-- Reads on to a delimiter, and gives the tokens and what is left from the delimiter on. -/
def run (s : State) : Bytes → Option (List Token × Bytes)
  | [] => none
  | b :: rest =>
    match isDelimiter b, s.complete? with
    | true, some tokens => some (tokens, b :: rest)
    | _, _ => (step s b).bind fun s => run s rest

/-- The tokens before the first delimiter outside a string, and what is left. -/
def lex (b : Bytes) : Option (List Token × Bytes) := run {} b

/-! ## Delimiters and words -/

theorem run_delimiter {s : State} {tokens : List Token} {next : UInt8}
    (complete : s.complete? = some tokens) (h : isDelimiter next) (rest : Bytes) :
    run s (next :: rest) = some (tokens, next :: rest) := by
  rw [run, h, complete]

/-- A byte that is no delimiter is read. -/
theorem run_cons_of_not_isDelimiter {b : UInt8} (h : ¬isDelimiter b) (s : State) (rest : Bytes) :
    run s (b :: rest) = (step s b).bind fun s => run s rest := by
  rw [run, Bool.eq_false_iff.2 h]

/-- In an open string every byte is read. -/
theorem run_cons_of_open {s : State} (h : s.complete? = none) (b : UInt8) (rest : Bytes) :
    run s (b :: rest) = (step s b).bind fun s => run s rest := by
  rw [run, h]
  cases isDelimiter b <;> rfl

theorem not_isDelimiter_of_isWordByte {b : UInt8} (h : isWordByte b) : ¬isDelimiter b := by
  intro delimiter
  simp only [isDelimiter, Bool.or_eq_true, decide_eq_true_eq] at delimiter
  rcases delimiter with rfl | rfl <;> exact absurd h (by decide)

theorem start_of_isWordByte {b : UInt8} (h : isWordByte b) (ts : List Token) :
    start ts b = some ⟨ts, .inWord [b]⟩ := by
  have space : b ≠ 0x20 := by rintro rfl; exact absurd h (by decide)
  have minus : b ≠ 0x2d := by rintro rfl; exact absurd h (by decide)
  have quote : b ≠ Byte.quote := by rintro rfl; exact absurd h (by decide)
  rw [start, if_neg space, if_neg minus, if_neg quote, if_pos h]

theorem run_inWord {w' : Bytes} (h : ∀ b ∈ w', isWordByte b) (ts : List Token) (w rest : Bytes) :
    run ⟨ts, .inWord w⟩ (w' ++ rest) = run ⟨ts, .inWord (w ++ w')⟩ rest := by
  induction w' generalizing w with
  | nil => rw [List.nil_append, List.append_nil]
  | cons b w' ih =>
    obtain ⟨hb, hw'⟩ := List.forall_mem_cons.1 h
    have one : step ⟨ts, .inWord w⟩ b = some ⟨ts, .inWord (w ++ [b])⟩ := by
      simp only [step, hb, if_true]
    rw [List.cons_append, run_cons_of_not_isDelimiter (not_isDelimiter_of_isWordByte hb), one,
      Option.bind_some, ih hw', List.append_assoc, List.singleton_append]

theorem run_word {w : Bytes} (h : ∀ b ∈ w, isWordByte b) (ne : w ≠ []) (ts : List Token)
    (rest : Bytes) : run ⟨ts, .between⟩ (w ++ rest) = run ⟨ts, .inWord w⟩ rest := by
  obtain ⟨b, w, rfl⟩ := List.exists_cons_of_ne_nil ne
  obtain ⟨hb, hw⟩ := List.forall_mem_cons.1 h
  have one : step ⟨ts, .between⟩ b = some ⟨ts, .inWord [b]⟩ := start_of_isWordByte hb ts
  rw [List.cons_append, run_cons_of_not_isDelimiter (not_isDelimiter_of_isWordByte hb), one,
    Option.bind_some, run_inWord hw, List.singleton_append]

/-! ## Strings -/

theorem unescape?_of_mem {c b : UInt8} (h : (c, b) ∈ escapes) : unescape? c = some b :=
  (by decide : ∀ p ∈ escapes, unescape? p.1 = some p.2) (c, b) h

/-- The form of a byte in a string is read as that byte. -/
theorem run_escapeByte (b : UInt8) (ts : List Token) (x rest : Bytes) :
    run ⟨ts, .inString x⟩ (escapeByte b ++ rest) = run ⟨ts, .inString (x ++ [b])⟩ rest := by
  rcases escapeByte_cases b with ⟨c, written, pair⟩ | ⟨written, bare⟩
  · have opened : step ⟨ts, .inString x⟩ Byte.backslash = some ⟨ts, .behindBackslash x⟩ := rfl
    have closed : step ⟨ts, .behindBackslash x⟩ c = some ⟨ts, .inString (x ++ [b])⟩ := by
      simp only [step, unescape?_of_mem pair, Option.map_some]
    rw [written, List.cons_append, run_cons_of_open rfl, opened, Option.bind_some,
      List.singleton_append, run_cons_of_open rfl, closed, Option.bind_some]
  · have quote : b ≠ Byte.quote := by rintro rfl; exact bare (by decide)
    have backslash : b ≠ Byte.backslash := by rintro rfl; exact bare (by decide)
    have one : step ⟨ts, .inString x⟩ b = some ⟨ts, .inString (x ++ [b])⟩ := by
      simp only [step, quote, backslash, if_false]
    rw [written, List.singleton_append, run_cons_of_open rfl, one, Option.bind_some]

theorem run_escape (b : Bytes) (ts : List Token) (x rest : Bytes) :
    run ⟨ts, .inString x⟩ (escape b ++ rest) = run ⟨ts, .inString (x ++ b)⟩ rest := by
  induction b generalizing x with
  | nil => rw [List.append_nil]; rfl
  | cons c b ih =>
    rw [escape_cons, List.append_assoc, run_escapeByte, ih, List.append_assoc, List.singleton_append]

/-- A quoted byte string is read as that byte string, up to its last quotation mark. -/
theorem run_quote (b : Bytes) (ts : List Token) (rest : Bytes) :
    run ⟨ts, .between⟩ (quote b ++ rest) = run ⟨ts, .behindQuote b⟩ rest := by
  have opened : step ⟨ts, .between⟩ Byte.quote = some ⟨ts, .inString []⟩ := rfl
  have closed : step ⟨ts, .inString b⟩ Byte.quote = some ⟨ts, .behindQuote b⟩ := rfl
  have first : ¬isDelimiter Byte.quote := by decide
  rw [quote, List.cons_append, run_cons_of_not_isDelimiter first, opened, Option.bind_some,
    List.append_assoc, run_escape, List.nil_append, List.singleton_append, run_cons_of_open rfl,
    closed, Option.bind_some]

end Lexer

end LogicalBackup
