import LogicalBackup.Text.Blank
import LogicalBackup.Text.Word

/-!
# The definition of a view

The statement that creates a view has three parts: a head, a clause that begins with `DEFINER=` and
ends with the word after `SQL SECURITY`, and the body from `VIEW` on.  `ViewDefinition.split` cuts
it.  Letters may be of either case, and the long s counts as an s.
-/

namespace LogicalBackup

/-- A statement that creates a view, cut around its definer clause. -/
structure ViewDefinition where
  /-- What stands before the clause, such as `CREATE ALGORITHM=UNDEFINED`. -/
  head : String
  /-- The clause, such as `DEFINER=... SQL SECURITY DEFINER`. -/
  definer : String
  /-- The statement from `VIEW` on. -/
  body : String
  deriving DecidableEq, Repr

namespace Text

/-- The letter that a character counts as when case is ignored. -/
def foldCase (c : Char) : Char := if c.toNat = 0x17f then 'S' else c.toUpper

/-- Takes a word in capitals off the start of a text, in letters of either case. -/
def takeKeyword : List Char → List Char → Option (List Char)
  | [], s => some s
  | _ :: _, [] => none
  | k :: word, c :: s => if foldCase c = k then takeKeyword word s else none

/-- Takes white space off the start of a text, at least one character of it. -/
def takeBlanks : List Char → Option (List Char)
  | [] => none
  | c :: s => if isBlank c then some (dropBlank s) else none

end Text

namespace ViewDefinition

open Text

/-- Whether no word goes on at the start of a text. -/
def endsWord : List Char → Bool
  | [] => true
  | c :: _ => !isWord c

/-- The body of the definition at the start of a text, where the words `VIEW` and what follows
stand. -/
def takeBody (s : List Char) : Option (List Char) := do
  let rest ← takeKeyword "VIEW".toList s
  if endsWord rest then some s else none

/-- Reads the end of the clause and the body from a text that begins with white space, `SQL`,
`SECURITY` and a word: the rest after that word, and the body. -/
def takeSecurity (s : List Char) : Option (List Char × List Char) := do
  let s ← takeBlanks s
  let s ← takeKeyword "SQL".toList s
  let s ← takeBlanks s
  let s ← takeKeyword "SECURITY".toList s
  let s ← takeBlanks s
  if (s.takeWhile isWord).isEmpty then none
  else do
    let rest := s.dropWhile isWord
    let body ← takeBlanks rest
    let body ← takeBody body
    return (rest, body)

/-- The first place of a text at which `read` succeeds: what stands before it, reversed, what stands
from it on, and what was read. -/
def findFirst {α : Type} (read : List Char → Option α) (before : List Char) :
    List Char → Option (List Char × List Char × α)
  | [] => (read []).map fun a => (before, [], a)
  | c :: s =>
    match read (c :: s) with
    | some a => some (before, c :: s, a)
    | none => findFirst read (c :: before) s

/-- Cuts a statement that creates a view, unless it has no definer clause. -/
def split (createSql : String) : Option ViewDefinition := do
  let (before, clause, afterMark) ←
    findFirst (takeKeyword "DEFINER=".toList) [] createSql.toList
  let (_, _, rest, body) ← findFirst takeSecurity [] afterMark
  return {
    head := String.ofList (before.dropWhile isBlank).reverse
    definer := String.ofList (clause.take (clause.length - rest.length))
    body := String.ofList body }

end ViewDefinition

end LogicalBackup
