import LogicalBackup.Bytes

/-!
# Decimal numerals

Integers are written with the digits they need and a minus sign below zero (`ofNat`, `ofInt`); they
are read with an optional sign and any number of leading zeros (`readInt`).
-/

namespace LogicalBackup.Decimal

/-- The numeral of a natural number. -/
def ofNat (n : Nat) : String := String.ofList (Nat.toDigits 10 n)

/-- The numeral of an integer. -/
def ofInt (i : Int) : String := if i < 0 then "-" ++ ofNat i.natAbs else ofNat i.natAbs

/-- The numeral of a natural number, filled up with zeros to a width. -/
def padded (width n : Nat) : String :=
  let digits := Nat.toDigits 10 n
  String.ofList (List.replicate (width - digits.length) '0' ++ digits)

/-- The number that a digit stands for. -/
def digitValue (c : Char) : Nat := c.toNat - '0'.toNat

/-- The number that a list of digits stands for. -/
def value (digits : List Char) : Nat := digits.foldl (fun n c => 10 * n + digitValue c) 0

/-- Reads a numeral of at least one digit. -/
def readNat (s : List Char) : Option Nat :=
  if s.isEmpty || !s.all Char.isDigit then none else some (value s)

/-- Reads a numeral of at least one digit, with or without a sign. -/
def readInt : List Char → Option Int
  | '-' :: s => (readNat s).map fun n => -(n : Int)
  | '+' :: s => (readNat s).map fun n => (n : Int)
  | s => (readNat s).map fun n => (n : Int)

end LogicalBackup.Decimal
