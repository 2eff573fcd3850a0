import LogicalBackup.Number.Decimal

/-!
# Binary floating-point numbers

A finite number of a binary format is a mantissa times a power of two.  This file rounds a quotient
of natural numbers to the nearest number of a format (`Binary.ofQuotient`), and reads the decimal
form of a number, with or without a point and an exponent, or one of the words for infinities and
for what is no number (`Binary.read`).
-/

namespace LogicalBackup

/-- A binary format: mantissas below `2 ^ precision`, and the exponents of their last bit. -/
structure BinaryFormat where
  precision : Nat
  minExponent : Int
  maxExponent : Int

namespace BinaryFormat

/-- The format of 64 bits. -/
def double : BinaryFormat := ⟨53, -1074, 971⟩

/-- The format of 32 bits. -/
def single : BinaryFormat := ⟨24, -149, 104⟩

end BinaryFormat

/-- A number of a binary format. -/
inductive Binary (format : BinaryFormat) where
  /-- What is no number. -/
  | nan
  /-- Beyond all finite numbers. -/
  | infinite (negative : Bool)
  /-- The number `mantissa * 2 ^ exponent`, or its negative. -/
  | finite (negative : Bool) (mantissa : Nat) (exponent : Int)
  deriving DecidableEq, Repr

/-- The quotient rounded to the nearest natural number, halves to the even neighbour. -/
def roundQuotient (num den : Nat) : Nat :=
  let q := num / den
  let twice := 2 * (num % den)
  if twice < den then q else if den < twice then q + 1 else q + q % 2

namespace Binary

variable {format : BinaryFormat}

/-- The quotient `num / den` scaled by `2 ^ (-exponent)`, as numerator and denominator. -/
def scale (num den : Nat) (exponent : Int) : Nat × Nat :=
  if 0 ≤ exponent then (num, den * Nat.pow 2 exponent.toNat)
  else (num * Nat.pow 2 (-exponent).toNat, den)

/-- The nearest number to `num / den`, of two equally near the one with an even mantissa. -/
def ofQuotient (negative : Bool) (num den : Nat) : Binary format :=
  if num = 0 then finite negative 0 format.minExponent
  else
    let guess : Int := (num.log2 : Int) - den.log2 - (format.precision - 1)
    let (n, d) := scale num den guess
    let exact := if n < Nat.pow 2 (format.precision - 1) * d then guess - 1 else guess
    let exponent := max exact format.minExponent
    let (n, d) := scale num den exponent
    let mantissa := roundQuotient n d
    let (mantissa, exponent) :=
      if mantissa = Nat.pow 2 format.precision then
        (Nat.pow 2 (format.precision - 1), exponent + 1)
      else (mantissa, exponent)
    if format.maxExponent < exponent then infinite negative
    else finite negative mantissa exponent

/-- The number nearest to `digits * 10 ^ exponent`.  A number of more than 400 places before or
after the point is beyond every format, or nearest to zero. -/
def ofDecimal (negative : Bool) (digits : List Char) (exponent : Int) : Binary format :=
  let significant := digits.dropWhile (· == '0')
  let places : Int := significant.length + exponent
  if significant.isEmpty || places < -400 then finite negative 0 format.minExponent
  else if 400 < places then infinite negative
  else
    let value := Decimal.value significant
    if 0 ≤ exponent then ofQuotient negative (value * Nat.pow 10 exponent.toNat) 1
    else ofQuotient negative value (Nat.pow 10 (-exponent).toNat)

/-- Reads the exponent of a decimal number, which may be missing. -/
def readExponent : List Char → Option Int
  | [] => some 0
  | c :: s => if c == 'e' || c == 'E' then Decimal.readInt s else none

/-- Reads a decimal number without sign. -/
def readDecimal (negative : Bool) (s : List Char) : Option (Binary format) :=
  let whole := s.takeWhile Char.isDigit
  let (fraction, rest) :=
    match s.dropWhile Char.isDigit with
    | '.' :: s => (s.takeWhile Char.isDigit, s.dropWhile Char.isDigit)
    | s => ([], s)
  if whole.isEmpty && fraction.isEmpty then none
  else (readExponent rest).map fun exponent =>
    ofDecimal negative (whole ++ fraction) (exponent - fraction.length)

/-- Reads a number without sign, in digits or in words. -/
def readUnsigned (negative : Bool) (s : List Char) : Option (Binary format) :=
  let word := String.ofList (s.map Char.toLower)
  if word = "nan" then some nan
  else if word = "inf" || word = "infinity" then some (infinite negative)
  else readDecimal negative s

/-- Reads a number with or without a sign. -/
def read : List Char → Option (Binary format)
  | '-' :: s => readUnsigned true s
  | '+' :: s => readUnsigned false s
  | s => readUnsigned false s

end Binary

end LogicalBackup
