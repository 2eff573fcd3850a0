import LogicalBackup.Calendar
import LogicalBackup.Text.Blank

/-!
# Reading dates and times

Dates are read in the form `YYYY-MM-DD` and times on a day in the form `YYYY-MM-DD HH:MM:SS` with an
optional fraction.  White space may precede each number and may stand or lack between the two parts;
numbers may have fewer digits, and a year with a sign may have more than four.
-/

namespace LogicalBackup

namespace Calendar

/-- Takes a number of at least one and at most `width` digits off the start of a text. -/
def takeNumber (width : Nat) (s : List Char) : Option (Nat × List Char) :=
  let digits := (s.take width).takeWhile Char.isDigit
  if digits.isEmpty then none else some (Decimal.value digits, s.drop digits.length)

/-- Takes a year, which has at most four digits unless a sign precedes it. -/
def takeYear (s : List Char) : Option (Int × List Char) :=
  match Text.dropBlank s with
  | '-' :: s => (takeNumber s.length s).map fun (n, rest) => (-(n : Int), rest)
  | '+' :: s => (takeNumber s.length s).map fun (n, rest) => ((n : Int), rest)
  | s => (takeNumber 4 s).map fun (n, rest) => ((n : Int), rest)

/-- Takes a number of at most two digits. -/
def takeField (s : List Char) : Option (Nat × List Char) := takeNumber 2 (Text.dropBlank s)

/-- Takes one character that has to stand there. -/
def takeMark (mark : Char) : List Char → Option (List Char)
  | [] => none
  | c :: s => if c = mark then some s else none

/-- Takes a day that the calendar has. -/
def takeDate (s : List Char) : Option (Date × List Char) := do
  let (year, s) ← takeYear s
  let s ← takeMark '-' s
  let (month, s) ← takeField s
  let s ← takeMark '-' s
  let (day, s) ← takeField s
  let date ← Date.of? year month day
  return (date, s)

/-- Takes a fraction of a second in nanoseconds: none, or a point and digits, of which nine
count. -/
def takeFraction : List Char → Option (Nat × List Char)
  | '.' :: s => do
    let digits := (s.take 9).takeWhile Char.isDigit
    if digits.isEmpty then none
    else return (Decimal.value digits * Nat.pow 10 (9 - digits.length), s.dropWhile Char.isDigit)
  | s => some (0, s)

/-- The time of these numbers, where the second 60 is a leap second. -/
def timeOf? (hour minute second nanosecond : Nat) : Option TimeOfDay :=
  if second = 60 then TimeOfDay.of? hour minute 59 (nanosecond + 1000000000)
  else TimeOfDay.of? hour minute second nanosecond

/-- Takes a time of day with or without a fraction. -/
def takeTime (s : List Char) : Option (TimeOfDay × List Char) := do
  let (hour, s) ← takeField s
  let s ← takeMark ':' s
  let (minute, s) ← takeField s
  let s ← takeMark ':' s
  let (second, s) ← takeField s
  let (nanosecond, s) ← takeFraction s
  let time ← timeOf? hour minute second nanosecond
  return (time, s)

end Calendar

/-- Reads a text that is a day as a whole. -/
def Date.read (s : List Char) : Option Date :=
  match Calendar.takeDate s with
  | some (date, []) => some date
  | _ => none

/-- Reads a text that is a day and a time as a whole. -/
def DateTime.read (s : List Char) : Option DateTime :=
  match Calendar.takeDate s with
  | some (date, s) =>
    match Calendar.takeTime s with
    | some (time, []) => some ⟨date, time⟩
    | _ => none
  | none => none

end LogicalBackup
