import LogicalBackup.Catalog.ViewDefinition
import LogicalBackup.Identifier
import LogicalBackup.Options

/-!
# Renaming databases

A restore can give the databases of a dump other names.  Only the two statements that create and
choose a database are changed, and only between their first backtick and the last one that can end
the name (`Preamble.locate`).  Letters of the keywords may be of either case, and the long s counts
as an s.
-/

namespace LogicalBackup

/-- A statement that names a database, cut around the name. -/
structure Preamble where
  before : List Char
  name : List Char
  after : List Char
  deriving DecidableEq, Repr

namespace Preamble

open Text

/-- Whether a text is white space and then a semicolon, its last character. -/
def isEnd (s : List Char) : Bool := dropBlank s == [';']

/-- Whether a text is a comment within one line, white space and a semicolon, its last character. -/
def isCommentEnd (s : List Char) : Bool :=
  match s, s.reverse with
  | '/' :: '*' :: inner, ';' :: reversed =>
    match dropBlank reversed with
    | '/' :: '*' :: reversed =>
      let length := reversed.length - 2
      2 ≤ reversed.length && !(inner.take length).contains '\n'
    | _ => false
  | _, _ => false

/-- Whether a text can follow the backtick after the name in a `CREATE DATABASE` statement. -/
def isCreateEnd (s : List Char) : Bool := isEnd s || isCommentEnd (dropBlank s)

/-- Cuts `name` off the start of a text as far as possible: it has no white space, is not empty, and
is followed by a backtick and then by an end.  Here `taken` is the reversed part that is passed
already. -/
def takeName (isEnd : List Char → Bool) (taken : List Char) :
    List Char → Option (List Char × List Char)
  | [] => none
  | c :: s =>
    if isBlank c then none
    else
      match takeName isEnd (c :: taken) s with
      | some found => some found
      | none =>
        if c = backtick && !taken.isEmpty && isEnd s then some (taken.reverse, c :: s) else none

/-- Cuts a text after an opening backtick, where `before` is the reversed part up to it. -/
def takeQuoted (isEnd : List Char → Bool) (before : List Char) : List Char → Option Preamble
  | [] => none
  | c :: s =>
    if c = backtick then
      (takeName isEnd [] s).map fun (name, after) =>
        { before := (c :: before).reverse, name, after }
    else none

/-- Moves white space from the start of a text to the reversed part before it. -/
def passBlanks (before s : List Char) : List Char × List Char :=
  ((s.takeWhile isBlank).reverse ++ before, dropBlank s)

/-- Cuts a text that goes on within a comment, which ends as late in the line as possible and is
followed by a quoted name. -/
def takeAfterComment (isEnd : List Char → Bool) (before : List Char) : List Char → Option Preamble
  | [] => none
  | c :: s =>
    let further := if c = '\n' then none else takeAfterComment isEnd (c :: before) s
    match further with
    | some found => some found
    | none =>
      match c, s with
      | '*', '/' :: s =>
        let (before, s) := passBlanks ('/' :: '*' :: before) s
        takeQuoted isEnd before s
      | _, _ => none

/-- Moves a keyword from the start of a text to the reversed part before it. -/
def passKeyword (keyword : String) (before s : List Char) : Option (List Char × List Char) :=
  (takeKeyword keyword.toList s).map fun rest =>
    ((s.take keyword.length).reverse ++ before, rest)

/-- Cuts a statement that creates a database. -/
def locateCreate (s : List Char) : Option Preamble := do
  let (before, s) ← passKeyword "CREATE" [] s
  let _ ← takeBlanks s
  let (before, s) := passBlanks before s
  let (before, s) ← passKeyword "DATABASE" before s
  match passBlanks before s with
  | (before, '/' :: '*' :: s) => takeAfterComment isCreateEnd ('*' :: '/' :: before) s
  | (before, s) => takeQuoted isCreateEnd before s

/-- Cuts a statement that chooses a database. -/
def locateUse (s : List Char) : Option Preamble := do
  let (before, s) ← passKeyword "USE" [] s
  let (before, s) := passBlanks before s
  takeQuoted isEnd before s

/-- Cuts a statement that names a database. -/
def locate (s : List Char) : Option Preamble :=
  match locateCreate s with
  | some found => some found
  | none => locateUse s

/-- The statement with another name. -/
def rename (p : Preamble) (name : String) : String :=
  String.ofList (p.before ++ name.toList ++ p.after)

end Preamble

/-- The names that databases are given, by the names they have in a dump. -/
structure DatabaseMapping where
  names : List (String × String) := []
  deriving DecidableEq, Repr

namespace DatabaseMapping

/-- The mapping that the options of a restore ask for. -/
def ofOptions (options : RestoreOptions) : DatabaseMapping := { names := options.databaseMapping }

/-- Whether no database is renamed. -/
def isEmpty (m : DatabaseMapping) : Bool := m.names.isEmpty

/-- The name that a database is given, if it is renamed. -/
def get? (m : DatabaseMapping) (name : String) : Option String := m.names.lookup name

/-- A statement without a line feed at its end, and that line feed. -/
def cutEnd (statement : Bytes) : Bytes × Bytes :=
  if statement.getLast? = some Byte.lineFeed then (statement.dropLast, [Byte.lineFeed])
  else (statement, [])

/-- The statement with the database renamed, if it is one that names a renamed database. -/
def renamed? (m : DatabaseMapping) (statement : Bytes) : Option Bytes :=
  if m.isEmpty then none
  else do
    let (body, lineEnd) := cutEnd statement
    let text ← body.text?
    let found ← Preamble.locate text.toList
    let name ← m.get? (String.ofList found.name)
    return utf8 (found.rename name) ++ lineEnd

/-- The statement that is executed for one of a dump. -/
def remap (m : DatabaseMapping) (statement : Bytes) : Bytes := (m.renamed? statement).getD statement

end DatabaseMapping

end LogicalBackup
