import LogicalBackup.Number.Binary

/-!
# Shortest decimal forms

The decimal form of a binary number has the fewest digits that are read back as that number, and of
those the ones nearest to it.  It is written positionally, without an exponent.
-/

namespace LogicalBackup.Binary

/-- The reals that are rounded to one finite number, in units of `10 ^ unit`: those between `low`
and `high`, with the ends if `closed`.  The number itself is `value`. -/
structure Interval where
  low : Nat
  value : Nat
  high : Nat
  closed : Bool
  unit : Int

namespace Interval

/-- Whether `x` is rounded to the number. -/
def contains (i : Interval) (x : Nat) : Bool :=
  if i.closed then i.low ≤ x && x ≤ i.high else i.low < x && x < i.high

/-- The digits of the shortest form and the place of the last one, among the forms whose last digit
stands at place `places` or below.  Of two equally near ones the larger is taken. -/
def shortest (i : Interval) : Nat → Nat × Int
  | 0 => (i.value, i.unit)
  | places + 1 =>
    let grid := Nat.pow 10 (places + 1)
    let below := i.value / grid * grid
    let above := below + grid
    let nearest := if i.value - below < above - i.value then below else above
    let other := if nearest = below then above else below
    if i.contains nearest then (nearest / grid, i.unit + (places + 1))
    else if i.contains other then (other / grid, i.unit + (places + 1))
    else shortest i places

end Interval

variable {format : BinaryFormat}

/-- The reals that are rounded to `mantissa * 2 ^ exponent`.  They reach half a unit of the last bit
to both sides, but downward only a quarter from the least mantissa of an exponent. -/
def interval (format : BinaryFormat) (mantissa : Nat) (exponent : Int) : Interval :=
  let below :=
    if mantissa = Nat.pow 2 (format.precision - 1) ∧ format.minExponent < exponent then 1 else 2
  let quarter := exponent - 2
  let (factor, unit) :=
    if 0 ≤ quarter then (Nat.pow 2 quarter.toNat, (0 : Int))
    else (Nat.pow 5 (-quarter).toNat, quarter)
  { low := (4 * mantissa - below) * factor
    value := 4 * mantissa * factor
    high := (4 * mantissa + 2) * factor
    closed := mantissa % 2 = 0
    unit }

/-- Zeros that fill a numeral up. -/
def zeros (n : Nat) : List Char := List.replicate n '0'

/-- The positional form of `digits * 10 ^ place`. -/
def positional (digits : List Char) (place : Int) : List Char :=
  if 0 ≤ place then digits ++ zeros place.toNat
  else
    let point := digits.length + place
    if 0 < point then digits.take point.toNat ++ '.' :: digits.drop point.toNat
    else '0' :: '.' :: zeros (-point).toNat ++ digits

/-- The digits of a number and the place of the last one, without zeros at the end. -/
def trimZeros (digits : List Char) (place : Int) : List Char × Int :=
  let trimmed := (digits.reverse.dropWhile (· == '0')).reverse
  (trimmed, place + (digits.length - trimmed.length : Nat))

/-- The shortest form of a finite number without its sign. -/
def finiteText (format : BinaryFormat) (mantissa : Nat) (exponent : Int) : List Char :=
  if mantissa = 0 then ['0']
  else
    let i := interval format mantissa exponent
    let (n, place) := i.shortest ((Nat.toDigits 10 i.value).length - 1)
    let (digits, place) := trimZeros (Nat.toDigits 10 n) place
    positional digits place

/-- The shortest decimal form of a number. -/
def text : Binary format → String
  | nan => "NaN"
  | infinite negative => if negative then "-inf" else "inf"
  | finite negative mantissa exponent =>
    let digits := finiteText format mantissa exponent
    String.ofList (if negative then '-' :: digits else digits)

end LogicalBackup.Binary
