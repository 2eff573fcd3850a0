import LogicalBackup.Calendar.Reading
import LogicalBackup.Datum

/-!
# Scalars of a TOML document

Readers for the parts of a line: white space and comments, keys, strings, numbers and moments.  Each
takes what it reads off the start of a text, or fails.
-/

namespace LogicalBackup.Toml

/-- A reader: what it reads, and the rest of the text. -/
abbrev Reader (α : Type) : Type := List Char → Option (α × List Char)

/-- Whether a character is white space within a line. -/
def isSpace (c : Char) : Bool := c = ' ' || c = '\t'

/-- Skips white space within a line. -/
def skipSpace (s : List Char) : List Char := s.dropWhile isSpace

/-- Whether a character may stand in a comment or a literal string. -/
def isPlain (c : Char) : Bool := c = '\t' || (0x20 ≤ c.toNat && c.toNat ≠ 0x7f)

/-- Skips a comment, if one begins here. -/
def skipComment : List Char → List Char
  | '#' :: s => s.dropWhile isPlain
  | s => s

/-- Takes the end of a line. -/
def takeLineEnd : List Char → Option (List Char)
  | '\n' :: s => some s
  | '\r' :: '\n' :: s => some s
  | _ => none

/-- Skips white space, comments and ends of lines, of which there are fewer than `fuel`. -/
def skipLines : Nat → List Char → List Char
  | 0, s => s
  | fuel + 1, s =>
    let rest := skipComment (skipSpace s)
    match takeLineEnd rest with
    | some rest => skipLines fuel rest
    | none => rest

/-! ## Strings -/

/-- The number of a hexadecimal digit in either case. -/
def hexValue? (c : Char) : Option Nat :=
  if '0' ≤ c ∧ c ≤ '9' then some (c.toNat - '0'.toNat)
  else if 'a' ≤ c ∧ c ≤ 'f' then some (c.toNat - 'a'.toNat + 10)
  else if 'A' ≤ c ∧ c ≤ 'F' then some (c.toNat - 'A'.toNat + 10)
  else none

/-- Takes a character by its code point in `n` hexadecimal digits. -/
def takeCodePoint (n : Nat) : Reader Char := fun s => do
  if s.length < n then none
  let digits ← (s.take n).mapM hexValue?
  let code := digits.foldl (fun n d => 16 * n + d) 0
  if code.isValidChar then some (Char.ofNat code, s.drop n) else none

/-- Takes what follows the backslash of an escaped character. -/
def takeEscaped : Reader Char
  | 'b' :: s => some (Char.ofNat 8, s)
  | 't' :: s => some ('\t', s)
  | 'n' :: s => some ('\n', s)
  | 'f' :: s => some (Char.ofNat 12, s)
  | 'r' :: s => some ('\r', s)
  | '"' :: s => some ('"', s)
  | '\\' :: s => some ('\\', s)
  | 'u' :: s => takeCodePoint 4 s
  | 'U' :: s => takeCodePoint 8 s
  | _ => none

/-- Takes the rest of a basic string, where `taken` is the reversed part before it, and fewer than
`fuel` characters are left. -/
def takeBasic (taken : List Char) : Nat → Reader String
  | 0, _ => none
  | fuel + 1, s =>
    match s with
    | '"' :: rest => some (String.ofList taken.reverse, rest)
    | '\\' :: rest => do
      let (c, rest) ← takeEscaped rest
      takeBasic (c :: taken) fuel rest
    | c :: rest => if isPlain c then takeBasic (c :: taken) fuel rest else none
    | [] => none

/-- The mark of literal strings. -/
def apostrophe : Char := Char.ofNat 0x27

/-- Takes the rest of a literal string within a line. -/
def takeLiteral (s : List Char) : Option (String × List Char) :=
  let body := s.takeWhile fun c => isPlain c && c != apostrophe
  match s.drop body.length with
  | c :: rest => if c = apostrophe then some (String.ofList body, rest) else none
  | [] => none

/-- Takes the marks at the end of a string of several lines: three, before which up to two more
belong to the string.  The result is how many do. -/
def takeClosing (mark : Char) (s : List Char) : Option (Nat × List Char) :=
  let count := ((s.take 5).takeWhile (· == mark)).length
  if count < 3 then none else some (count - 3, s.drop count)

/-- Skips white space and ends of lines after a backslash at the end of a line. -/
def skipContinuation (s : List Char) : Option (List Char) := do
  let rest ← takeLineEnd (skipSpace s)
  return rest.dropWhile fun c => isSpace c || c = '\n' || c = '\r'

/-- Takes the rest of a basic string of several lines. -/
def takeBasicLines (taken : List Char) : Nat → Reader String
  | 0, _ => none
  | fuel + 1, s =>
    match takeClosing '"' s with
    | some (more, rest) => some (String.ofList (taken.reverse ++ List.replicate more '"'), rest)
    | none =>
      match s with
      | '\\' :: rest =>
        match skipContinuation rest with
        | some rest => takeBasicLines taken fuel rest
        | none => do
          let (c, rest) ← takeEscaped rest
          takeBasicLines (c :: taken) fuel rest
      | c :: rest =>
        match takeLineEnd (c :: rest) with
        | some rest => takeBasicLines ('\n' :: taken) fuel rest
        | none => if isPlain c then takeBasicLines (c :: taken) fuel rest else none
      | [] => none

/-- Takes the rest of a literal string of several lines. -/
def takeLiteralLines (taken : List Char) : Nat → Reader String
  | 0, _ => none
  | fuel + 1, s =>
    match takeClosing apostrophe s with
    | some (more, rest) =>
      some (String.ofList (taken.reverse ++ List.replicate more apostrophe), rest)
    | none =>
      match s with
      | c :: rest =>
        match takeLineEnd (c :: rest) with
        | some rest => takeLiteralLines ('\n' :: taken) fuel rest
        | none => if isPlain c then takeLiteralLines (c :: taken) fuel rest else none
      | [] => none

/-- Takes a string within a line. -/
def takeLine : Reader String
  | '"' :: s => takeBasic [] (s.length + 1) s
  | c :: s => if c = apostrophe then takeLiteral s else none
  | [] => none

/-- Takes a string.  The end of a line right after the opening marks is left out. -/
def takeString (s : List Char) : Option (String × List Char) :=
  let body := s.drop 3
  let body := (takeLineEnd body).getD body
  if s.take 3 = ['"', '"', '"'] then takeBasicLines [] (s.length + 1) body
  else if s.take 3 = [apostrophe, apostrophe, apostrophe] then
    takeLiteralLines [] (s.length + 1) body
  else takeLine s

/-! ## Keys -/

/-- Whether a character may stand in a key without quotes. -/
def isKeyChar (c : Char) : Bool := c.isAlphanum || c = '_' || c = '-'

/-- Takes one part of a key, in quotes or without. -/
def takeKeyPart (s : List Char) : Option (String × List Char) :=
  let word := s.takeWhile isKeyChar
  if word.isEmpty then takeLine s else some (String.ofList word, s.drop word.length)

/-- Takes a key of one or more parts with dots between them, of which there are at most `fuel`. -/
def takeKey : Nat → Reader (List String)
  | 0, _ => none
  | fuel + 1, s => do
    let (part, rest) ← takeKeyPart (skipSpace s)
    match skipSpace rest with
    | '.' :: rest =>
      let (parts, rest) ← takeKey fuel rest
      return (part :: parts, rest)
    | rest => return ([part], rest)

/-! ## Numbers -/

/-- Takes digits with single underscores between them. -/
def takeDigits (isDigit : Char → Bool) (taken : List Char) :
    List Char → Option (List Char × List Char)
  | [] => if taken.isEmpty then none else some (taken.reverse, [])
  | '_' :: c :: s =>
    if !taken.isEmpty && isDigit c then takeDigits isDigit (c :: taken) s
    else if taken.isEmpty then none else some (taken.reverse, '_' :: c :: s)
  | c :: s =>
    if isDigit c then takeDigits isDigit (c :: taken) s
    else if taken.isEmpty then none else some (taken.reverse, c :: s)

/-- The datum of an integer, which has to fit into 64 bits. -/
def integer? (n : Int) : Option Datum :=
  if Int64.minValue.toInt ≤ n ∧ n ≤ Int64.maxValue.toInt then some (.integer n) else none

/-- Takes an integer to a base, after the mark of the base. -/
def takeBased (base : Nat) (s : List Char) : Option (Datum × List Char) := do
  let isDigit (c : Char) : Bool :=
    match hexValue? c with
    | some d => d < base
    | none => false
  let (digits, rest) ← takeDigits isDigit [] s
  let n := digits.foldl (fun n c => base * n + (hexValue? c).getD 0) 0
  return (← integer? n, rest)

/-- Takes decimal digits that do not begin with a zero, or a zero. -/
def takeWhole (s : List Char) : Option (List Char × List Char) :=
  match s with
  | '0' :: rest => some (['0'], rest)
  | s => takeDigits Char.isDigit [] s

/-- Takes an exponent. -/
def takeExponent : List Char → Option (List Char)
  | c :: s =>
    if c = 'e' || c = 'E' then
      let s := match s with
        | '+' :: s => s
        | '-' :: s => s
        | s => s
      (takeDigits Char.isDigit [] s).map (·.2)
    else none
  | [] => none

/-- Takes what makes a number no integer: a fraction, an exponent, or both. -/
def takeRealPart : List Char → Option (List Char)
  | '.' :: s => do
    let (_, rest) ← takeDigits Char.isDigit [] s
    return (takeExponent rest).getD rest
  | s => takeExponent s

/-- Takes a decimal number behind its sign. -/
def takeUnsigned (negative : Bool) (s : List Char) : Option (Datum × List Char) := do
  let (digits, rest) ← takeWhole s
  match takeRealPart rest with
  | some after => return (.real (String.ofList (s.take (s.length - after.length))), after)
  | none =>
    let n : Int := Decimal.value digits
    return (← integer? (if negative then -n else n), rest)

/-- Takes one of the words for numbers that are not finite. -/
def takeSpecial (s : List Char) : Option (Datum × List Char) :=
  if s.take 3 = ['i', 'n', 'f'] || s.take 3 = ['n', 'a', 'n'] then
    some (.real (String.ofList (s.take 3)), s.drop 3)
  else none

/-- Takes a number, which may begin with a sign or with the mark of a base. -/
def takeNumber (s : List Char) : Option (Datum × List Char) :=
  match s with
  | '0' :: 'x' :: s => takeBased 16 s
  | '0' :: 'o' :: s => takeBased 8 s
  | '0' :: 'b' :: s => takeBased 2 s
  | '+' :: s => (takeSpecial s).or (takeUnsigned false s)
  | '-' :: s => (takeSpecial s).or (takeUnsigned true s)
  | s => (takeSpecial s).or (takeUnsigned false s)

/-! ## Moments -/

/-- Takes a number of exactly `n` digits that is at most `max`. -/
def takeFixed (n max : Nat) (s : List Char) : Option (Nat × List Char) :=
  let digits := s.take n
  if digits.length = n && digits.all Char.isDigit && Decimal.value digits ≤ max then
    some (Decimal.value digits, s.drop n)
  else none

/-- Takes a time of day. -/
def takeTime (s : List Char) : Option (List Char) := do
  let (_, s) ← takeFixed 2 23 s
  let s ← Calendar.takeMark ':' s
  let (_, s) ← takeFixed 2 59 s
  let s ← Calendar.takeMark ':' s
  let (_, s) ← takeFixed 2 60 s
  match s with
  | '.' :: rest =>
    let after := rest.dropWhile Char.isDigit
    if after.length = rest.length then none else return after
  | s => return s

/-- Takes the distance of a zone. -/
def takeZone : List Char → Option (List Char)
  | c :: s =>
    if c = 'Z' || c = 'z' then some s
    else if c = '+' || c = '-' then do
      let (_, s) ← takeFixed 2 23 s
      let s ← Calendar.takeMark ':' s
      let (_, s) ← takeFixed 2 59 s
      return s
    else none
  | [] => none

/-- Takes a day that the calendar has. -/
def takeDate (s : List Char) : Option (List Char) := do
  let (year, s) ← takeFixed 4 9999 s
  let s ← Calendar.takeMark '-' s
  let (month, s) ← takeFixed 2 12 s
  let s ← Calendar.takeMark '-' s
  let (day, s) ← takeFixed 2 31 s
  let _ ← Date.of? year month day
  return s

/-- Takes the time of day and the zone after a date, if they are there. -/
def skipTime (s : List Char) : List Char :=
  match s with
  | c :: rest =>
    if c = 'T' || c = 't' || c = ' ' then
      match takeTime rest with
      | some after => (takeZone after).getD after
      | none => s
    else s
  | [] => s

/-- Takes a date, a time, or both. -/
def takeMoment (s : List Char) : Option (Datum × List Char) := do
  let after ← match takeDate s with
    | some rest => some (skipTime rest)
    | none => takeTime s
  return (.moment (String.ofList (s.take (s.length - after.length))), after)

/-- Takes a truth value. -/
def takeBool (s : List Char) : Option (Datum × List Char) :=
  if s.take 4 = "true".toList then some (.bool true, s.drop 4)
  else if s.take 5 = "false".toList then some (.bool false, s.drop 5)
  else none

/-- Takes a datum that is neither an array nor a table. -/
def takeScalar (s : List Char) : Option (Datum × List Char) :=
  match takeString s with
  | some (text, rest) => some (.string text, rest)
  | none => (takeBool s).or ((takeMoment s).or (takeNumber s))

end LogicalBackup.Toml
