import LogicalBackup.Session
import LogicalBackup.Sink
import LogicalBackup.Value.Literal

/-!
# Batches of rows

A `Batch` gathers the tuples of a table's rows into `INSERT` statements.  An extended statement
takes rows until the next one would make it as long as the server's packets may be; a simple
statement takes one row.  Each statement is written when it is full, and the last one by
`Batch.finish`.
-/

namespace LogicalBackup

/-- The numbers of rows taken and of statements written. -/
structure BatchStats where
  rows : Nat := 0
  statements : Nat := 0
  deriving DecidableEq, Repr

/-- The rows of one table on their way into statements. -/
structure Batch where
  /-- What each statement begins with, up to its first tuple. -/
  stem : Bytes
  /-- The greatest length of a packet of the server. -/
  packet : Nat
  /-- Whether a statement may hold several rows. -/
  extended : Bool
  /-- The classes of the columns of the result set. -/
  classes : List ColumnClass := []
  /-- The statement that is not written yet. -/
  pending : Bytes := []
  stats : BatchStats := {}

namespace Batch

/-- Writes a statement with its end, and counts it if nothing fails. -/
def emit (b : Batch) (statement : Bytes) : Writing (Except IoFault Unit × Batch) := do
  match ← Writing.write statement with
  | .error fault => return (.error fault, b)
  | .ok () =>
    match ← Writing.write (utf8 ";\n") with
    | .error fault => return (.error fault, b)
    | .ok () =>
      return (.ok (), { b with stats := { b.stats with statements := b.stats.statements + 1 } })

/-- Adds a tuple to the pending statement, which it begins if there is none. -/
def append (b : Batch) (row : Bytes) : Batch :=
  { b with
    pending := if b.pending.isEmpty then b.stem ++ row else b.pending ++ Byte.comma :: row }

/-- The greatest length to which a pending statement may grow. -/
def bound (b : Batch) : Nat := b.packet - 1

/-- Whether a tuple has no place in the pending statement. -/
def isFull (b : Batch) (row : Bytes) : Bool :=
  !b.pending.isEmpty && b.bound < b.pending.length + row.length

/-- Takes a tuple, either into a statement of its own or into the pending one, which is written
first if it is full. -/
def pushRow (b : Batch) (row : Bytes) : Writing (Except IoFault Unit × Batch) :=
  let b := { b with stats := { b.stats with rows := b.stats.rows + 1 } }
  if !b.extended then b.emit (b.stem ++ row)
  else if b.isFull row then do
    match ← { b with pending := [] }.emit b.pending with
    | (.error fault, b) => return (.error fault, b)
    | (.ok (), b) => return (.ok (), b.append row)
  else return (.ok (), b.append row)

/-- Takes the columns of a result set, which decide how its cells are scanned. -/
def start (b : Batch) (columns : List Column) : Batch :=
  { b with classes := columns.map Column.cellClass }

/-- The values of a row that has a cell for each column. -/
def scanRow (b : Batch) (cells : List Cell) : Except Fault (List Value) :=
  if cells.length = b.classes.length then
    (b.classes.zip cells).mapM fun (c, cell) => c.scan cell
  else .error <| .serialization <|
    "row has " ++ Decimal.ofNat cells.length ++ " cells but the result set has " ++
      Decimal.ofNat b.classes.length ++ " columns"

/-- Takes a row of a result set.  One that cannot be scanned changes nothing. -/
def pushCells (b : Batch) (cells : List Cell) : Writing (Except Fault Unit × Batch) :=
  match b.scanRow cells with
  | .error fault => return (.error fault, b)
  | .ok values => do
    let (result, b) ← b.pushRow (renderRow values)
    return (result.mapError Fault.io, b)

/-- Takes rows of a result set, up to the first that fails. -/
def pushAll (b : Batch) : List (List Cell) → Writing (Except Fault Unit × Batch)
  | [] => return (.ok (), b)
  | cells :: rest => do
    match ← b.pushCells cells with
    | (.error fault, b) => return (.error fault, b)
    | (.ok (), b) => b.pushAll rest

/-- Takes a result set, up to the first row that fails or the fault that ends the query. -/
def receive (b : Batch) (stream : ResultStream) : Writing (Except Fault Unit × Batch) := do
  match ← (b.start stream.columns).pushAll stream.rows with
  | (.error fault, b) => return (.error fault, b)
  | (.ok (), b) =>
    return (match stream.failure with
      | some fault => .error fault
      | none => .ok (), b)

/-- Writes the last statement, if there is one. -/
def finish (b : Batch) : Writing (Except IoFault BatchStats) := do
  if b.pending.isEmpty then return .ok b.stats
  else
    match ← { b with pending := [] }.emit b.pending with
    | (.error fault, _) => return .error fault
    | (.ok (), b) => return .ok b.stats

end Batch

end LogicalBackup
