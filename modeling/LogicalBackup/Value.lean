import LogicalBackup.Calendar
import LogicalBackup.Number.Shortest

/-!
# Values

A `Value` is what a cell of a result set stands for.
-/

namespace LogicalBackup

/-- What a cell stands for. -/
inductive Value where
  | null
  | bool (b : Bool)
  | int64 (n : Int64)
  | uint64 (n : UInt64)
  | float64 (x : Binary .double)
  | text (s : String)
  | bytes (b : Bytes)
  | date (d : Date)
  | dateTime (m : DateTime)
  /-- Anything else, in the server's own text. -/
  | other (s : String)
  deriving DecidableEq

/-- A value as it is shown to people. -/
def Value.shown : Value → String
  | null => "NULL"
  | bool b => if b then "true" else "false"
  | int64 n => Decimal.ofInt n.toInt
  | uint64 n => Decimal.ofNat n.toNat
  | float64 x => x.text
  | text s => s
  | bytes b => "<" ++ Decimal.ofNat b.length ++ " bytes>"
  | date d => d.text
  | dateTime m => m.text
  | other s => s

end LogicalBackup
