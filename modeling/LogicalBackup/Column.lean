import LogicalBackup.Calendar.Reading
import LogicalBackup.Fault
import LogicalBackup.Text.Quoted
import LogicalBackup.Text.Utf8
import LogicalBackup.Value

/-!
# Columns and their classes

A `Column` describes a column of a result set.  Its `ColumnClass` is chosen from that description
(`Column.cellClass`) before any row is read, and decides what the cells of the column stand for
(`ColumnClass.scan`).
-/

namespace LogicalBackup

/-- A cell as the server sends it: `none` for `NULL`, else the bytes of the value. -/
abbrev Cell := Option Bytes

/-- What the server's metadata say the cells of a column hold. -/
inductive CellKind where
  | signedInteger
  | unsignedInteger
  | float
  | text
  | bytes
  | temporal
  deriving DecidableEq, Repr

/-- A column of a result set, as the server describes it. -/
structure Column where
  name : String
  /-- The type in capitals, such as `VARCHAR`. -/
  typeName : String
  kind : CellKind
  nullable : Bool := true
  deriving DecidableEq, Repr

/-- What the cells of a column are scanned as. -/
inductive ColumnClass where
  | integer
  | floating
  | text
  | rawBytes
  | date
  | dateTime
  /-- What the metadata say. -/
  | native (kind : CellKind)
  deriving DecidableEq, Repr

/-- The class for the name of a type, where there is one. -/
def ColumnClass.ofTypeName? (typeName : String) : Option ColumnClass :=
  if typeName ∈ ["BLOB", "BINARY"] then some .rawBytes
  else if typeName ∈ ["VARCHAR", "TEXT", "DECIMAL", "TIME", "JSON"] then some .text
  else if typeName ∈ ["BIGINT", "TINYINT", "INT"] then some .integer
  else if typeName = "DOUBLE" then some .floating
  else if typeName ∈ ["TIMESTAMP", "DATETIME"] then some .dateTime
  else if typeName = "DATE" then some .date
  else none

/-- The class of a column.  Numbers and texts are known from the metadata; the name of the type
decides the rest. -/
def Column.cellClass (c : Column) : ColumnClass :=
  match c.kind with
  | .signedInteger | .unsignedInteger => .integer
  | .float => .floating
  | .text => .text
  | .bytes | .temporal => (ColumnClass.ofTypeName? c.typeName).getD (.native c.kind)

namespace ColumnClass

/-- The text of a cell, where `what` names what is expected. -/
def decodeAs (what : String) (b : Bytes) : Except Fault String :=
  match b.decode with
  | .ok s => .ok s
  | .error fault => .error (.serialization ("invalid " ++ what ++ ": " ++ fault.message))

/-- The fault of a cell whose text is not what is expected. -/
def notScanned (s what : String) : Fault :=
  .serialization ("cannot scan " ++ Text.quoted s ++ " as " ++ what)

/-- The value of an integer: signed if 64 bits with a sign hold it, else unsigned if 64 bits
without one do. -/
def integerValue? (n : Int) : Option Value :=
  if Int64.minValue.toInt ≤ n ∧ n ≤ Int64.maxValue.toInt then some (.int64 (Int64.ofInt n))
  else if 0 ≤ n ∧ n < UInt64.size then some (.uint64 (UInt64.ofNat n.toNat))
  else none

/-- Scans an integer, which has to fit into 64 bits with or without a sign. -/
def scanInteger (b : Bytes) : Except Fault Value := do
  let s ← decodeAs "integer bytes" b
  match (Decimal.readInt s.toList).bind integerValue? with
  | some v => return v
  | none => throw (notScanned s "an integer")

/-- Scans a number of double precision. -/
def scanFloat (b : Bytes) : Except Fault Value := do
  let s ← decodeAs "float bytes" b
  match Binary.read s.toList with
  | some x => return .float64 x
  | none => throw (notScanned s "a float")

/-- Scans a text. -/
def scanText (b : Bytes) : Except Fault String := decodeAs "UTF-8 in text column" b

/-- Scans a date.  What the calendar does not have stays in the server's text. -/
def scanDate (b : Bytes) : Except Fault Value := do
  let s ← scanText b
  return match Date.read s.toList with
    | some d => .date d
    | none => .other s

/-- Scans a time on a day.  What the calendar does not have stays in the server's text. -/
def scanDateTime (b : Bytes) : Except Fault Value := do
  let s ← scanText b
  return match DateTime.read s.toList with
    | some m => .dateTime m
    | none => .other s

/-- Scans a cell that is not `NULL`. -/
def scanBytes : ColumnClass → Bytes → Except Fault Value
  | integer, b => scanInteger b
  | floating, b => scanFloat b
  | text, b => .text <$> scanText b
  | rawBytes, b => .ok (.bytes b)
  | date, b => scanDate b
  | dateTime, b => scanDateTime b
  | native .signedInteger, b => scanInteger b
  | native .unsignedInteger, b => scanInteger b
  | native .float, b => scanFloat b
  | native .text, b => .text <$> scanText b
  | native .bytes, b => .ok (.bytes b)
  | native .temporal, b => .other <$> scanText b

/-- Scans a cell.  `NULL` is itself in every class. -/
def scan (c : ColumnClass) : Cell → Except Fault Value
  | none => .ok .null
  | some b => c.scanBytes b

end ColumnClass

end LogicalBackup
