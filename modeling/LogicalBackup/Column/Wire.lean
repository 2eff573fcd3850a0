import LogicalBackup.Column

/-!
# Columns and cells on the wire

The server's protocol describes a column by a type, flags and a collation (`WireColumn`), from which
`WireColumn.describe` makes a `Column`.  A server that answers with binary values sends numbers and
times in fields of their own (`WireValue`); `WireValue.cell` gives them the text that the text
protocol would send.
-/

namespace LogicalBackup

/-- The types of columns that the protocol knows. -/
inductive WireType where
  | decimal | tiny | short | long | float | double | null | timestamp | longLong | int24
  | date | time | dateTime | year | newDate | varchar | bit | timestamp2 | dateTime2 | time2
  | typedArray | vector | unknown | json | newDecimal | enumeration | set
  | tinyBlob | mediumBlob | longBlob | blob | varString | string | geometry
  deriving DecidableEq, Repr

namespace WireType

/-- The types in the order of their codes, and the code of the first of each run. -/
def codes : List (Nat × List WireType) := [
  (0, [decimal, tiny, short, long, float, double, null, timestamp, longLong, int24, date, time,
    dateTime, year, newDate, varchar, bit, timestamp2, dateTime2, time2, typedArray]),
  (242, [vector, unknown]),
  (245, [json, newDecimal, enumeration, set, tinyBlob, mediumBlob, longBlob, blob, varString,
    string, geometry])]

/-- The type of a code, if the code has one. -/
def ofCode? (code : Nat) : Option WireType :=
  codes.findSome? fun (first, types) => if first ≤ code then types[code - first]? else none

end WireType

/-- A column of a result set, as the protocol describes it. -/
structure WireColumn where
  name : String
  type : WireType
  flags : Nat := 0
  collation : Nat := 45
  deriving DecidableEq, Repr

namespace WireColumn

/-- The collation of the character set `binary`. -/
def binaryCollation : Nat := 63

/-- Whether the column holds bytes and not text. -/
def isBinary (c : WireColumn) : Bool := c.collation = binaryCollation

/-- Whether the column never holds `NULL`. -/
def isNotNull (c : WireColumn) : Bool := c.flags.testBit 0

/-- Whether the column holds numbers without a sign. -/
def isUnsigned (c : WireColumn) : Bool := c.flags.testBit 5

/-- What the cells hold.  Decimals, times of day, bits and geometries come as bytes. -/
def kind (c : WireColumn) : CellKind :=
  match c.type with
  | .tiny | .short | .int24 | .long | .longLong | .year =>
    if c.isUnsigned then .unsignedInteger else .signedInteger
  | .float | .double => .float
  | .varchar | .varString | .string | .enumeration | .set
  | .tinyBlob | .mediumBlob | .longBlob | .blob | .json => if c.isBinary then .bytes else .text
  | .date | .newDate | .dateTime | .dateTime2 | .timestamp | .timestamp2 => .temporal
  | _ => .bytes

/-- The name of the type, of which some have one for bytes and one for text. -/
def typeName (c : WireColumn) : String :=
  let either (bytes text : String) := if c.isBinary then bytes else text
  match c.type with
  | .bit => "BIT"
  | .blob => either "BLOB" "TEXT"
  | .tinyBlob => either "TINYBLOB" "TINYTEXT"
  | .mediumBlob => either "MEDIUMBLOB" "MEDIUMTEXT"
  | .longBlob => either "LONGBLOB" "LONGTEXT"
  | .date | .newDate => "DATE"
  | .dateTime | .dateTime2 => "DATETIME"
  | .timestamp | .timestamp2 => "TIMESTAMP"
  | .decimal | .newDecimal => "DECIMAL"
  | .double => "DOUBLE"
  | .float => "FLOAT"
  | .enumeration => "ENUM"
  | .set => "SET"
  | .geometry => "GEOMETRY"
  | .json => "JSON"
  | .tiny => "TINYINT"
  | .short => "SMALLINT"
  | .int24 => "MEDIUMINT"
  | .long => "INT"
  | .longLong => "BIGINT"
  | .year => "YEAR"
  | .null => "NULL"
  | .time | .time2 => "TIME"
  | .string => either "BINARY" "CHAR"
  | .varchar | .varString => either "VARBINARY" "VARCHAR"
  | .typedArray | .vector | .unknown => ""

/-- The description of the column that classes are chosen from. -/
def describe (c : WireColumn) : Column :=
  { name := c.name, typeName := c.typeName, kind := c.kind, nullable := !c.isNotNull }

end WireColumn

/-- A value as the protocol sends it.  The text protocol only has `null` and `bytes`. -/
inductive WireValue where
  | null
  | bytes (b : Bytes)
  | int (n : Int64)
  | uint (n : UInt64)
  | float (x : Binary .single)
  | double (x : Binary .double)
  | date (year : UInt16) (month day hour minute second : UInt8) (micros : UInt32)
  | time (negative : Bool) (days : UInt32) (hours minutes seconds : UInt8) (micros : UInt32)
  deriving DecidableEq

namespace WireValue

/-- The text `HH:MM:SS`, where the hours may have more digits. -/
def clockText (hours minutes seconds : Nat) : String :=
  Decimal.padded 2 hours ++ ":" ++ Decimal.padded 2 minutes ++ ":" ++ Decimal.padded 2 seconds

/-- The text of a fraction of a second, which is left out when it is zero. -/
def fractionText (micros : Nat) : String :=
  if micros = 0 then "" else "." ++ Decimal.padded 6 micros

/-- The cell of the text protocol.  Days of a time count as 24 hours each, in 32 bits. -/
def cell : WireValue → Cell
  | null => none
  | bytes b => some b
  | int n => some (utf8 (Decimal.ofInt n.toInt))
  | uint n => some (utf8 (Decimal.ofNat n.toNat))
  | float x => some (utf8 x.text)
  | double x => some (utf8 x.text)
  | date year month day hour minute second micros =>
    some (utf8 (Decimal.padded 4 year.toNat ++ "-" ++ Decimal.padded 2 month.toNat ++ "-" ++
      Decimal.padded 2 day.toNat ++ " " ++
      clockText hour.toNat minute.toNat second.toNat ++ fractionText micros.toNat))
  | time negative days hours minutes seconds micros =>
    let total : UInt32 := days * 24 + hours.toUInt32
    some (utf8 ((if negative then "-" else "") ++
      clockText total.toNat minutes.toNat seconds.toNat ++ fractionText micros.toNat))

end WireValue

end LogicalBackup
