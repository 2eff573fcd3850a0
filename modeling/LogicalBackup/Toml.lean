import LogicalBackup.Toml.Scalar
import LogicalBackup.Toml.Tree

/-!
# TOML documents

A document is a sequence of lines that add keys to tables and of headers that begin tables
(`Toml.read`).
-/

namespace LogicalBackup.Toml

mutual

/-- Takes a datum, which is nested at most `fuel` deep and as long. -/
def takeDatum : Nat → Reader Datum
  | 0, _ => none
  | fuel + 1, s =>
    match s with
    | '[' :: rest => (takeItems fuel [] rest).map fun (items, rest) => (.array items, rest)
    | '\x7b' :: rest => do
      let (node, rest) ←
        match skipSpace rest with
        | '\x7d' :: rest => some (Node.defined, rest)
        | rest => takeEntries fuel .defined rest
      return (node.datum, rest)
    | s => takeScalar s

/-- Takes the rest of an array, where `taken` are the reversed items before it. -/
def takeItems : Nat → List Datum → Reader (List Datum)
  | 0, _, _ => none
  | fuel + 1, taken, s =>
    match skipLines (s.length + 1) s with
    | ']' :: rest => some (taken.reverse, rest)
    | s => do
      let (d, rest) ← takeDatum fuel s
      match skipLines (rest.length + 1) rest with
      | ',' :: rest => takeItems fuel (d :: taken) rest
      | ']' :: rest => return ((d :: taken).reverse, rest)
      | _ => none

/-- Takes the rest of a table within a line, where `node` holds the entries before it. -/
def takeEntries : Nat → Node → Reader Node
  | 0, _, _ => none
  | fuel + 1, node, s => do
    let (key, rest) ← takeKey (s.length + 1) s
    let rest ← Calendar.takeMark '=' rest
    let (d, rest) ← takeDatum fuel (skipSpace rest)
    let node ← node.addKey key.dropLast (key.getLastD "") d
    match skipSpace rest with
    | ',' :: rest => takeEntries fuel node rest
    | '\x7d' :: rest => return (node, rest)
    | _ => none

end

/-- What a line of a document says. -/
inductive Line where
  | blank
  | key (path : List String) (d : Datum)
  | header (path : List String)
  | arrayHeader (path : List String)

/-- Takes the path of a header, up to the marks that close it. -/
def takeHeader (close : List Char) (s : List Char) : Option (List String × List Char) := do
  let (path, rest) ← takeKey (s.length + 1) s
  if rest.take close.length = close then some (path, rest.drop close.length) else none

/-- Takes what a line says, up to white space and a comment at its end. -/
def takeStatement (s : List Char) : Option (Line × List Char) :=
  match s with
  | [] => some (.blank, [])
  | '[' :: '[' :: rest =>
    (takeHeader [']', ']'] rest).map fun (path, rest) => (.arrayHeader path, rest)
  | '[' :: rest => (takeHeader [']'] rest).map fun (path, rest) => (.header path, rest)
  | c :: rest =>
    if c = '#' || c = '\n' || c = '\r' then some (.blank, c :: rest)
    else do
      let (path, rest) ← takeKey (rest.length + 1) (c :: rest)
      let rest ← Calendar.takeMark '=' rest
      let (d, rest) ← takeDatum (2 * rest.length + 2) (skipSpace rest)
      return (.key path d, rest)

/-- Takes a line with its end. -/
def takeFullLine (s : List Char) : Option (Line × List Char) := do
  let (line, rest) ← takeStatement (skipSpace s)
  match skipComment (skipSpace rest) with
  | [] => return (line, [])
  | rest => return (line, ← takeLineEnd rest)

/-- The document after a line, where `current` is the path of the table that keys are added to. -/
def Line.add (root : Node) (current : List String) : Line → Option (Node × List String)
  | blank => some (root, current)
  | key path d => do
    let root ← root.changeAt false current (Node.addKey path.dropLast (path.getLastD "") d)
    return (root, current)
  | header path => do return (← root.define path.dropLast (path.getLastD ""), path)
  | arrayHeader path => do return (← root.append path.dropLast (path.getLastD ""), path)

/-- Reads the lines of a document, of which there are fewer than `fuel`. -/
def readLines (root : Node) (current : List String) : Nat → List Char → Option Node
  | 0, _ => none
  | fuel + 1, s =>
    if s.isEmpty then some root
    else do
      let (line, rest) ← takeFullLine s
      let (root, current) ← line.add root current
      readLines root current fuel rest

/-- Reads a document.  A byte order mark at its start is left out. -/
def read (text : String) : Option Datum :=
  let s := match text.toList with
    | c :: rest => if c.toNat = 0xfeff then rest else c :: rest
    | [] => []
  (readLines .defined [] (s.length + 1) s).map Node.datum

end LogicalBackup.Toml
