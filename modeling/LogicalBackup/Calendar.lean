import LogicalBackup.Number.Decimal

/-!
# Dates and times of day

A `Date` is a day of the proleptic Gregorian calendar, a `TimeOfDay` a time to the nanosecond, which
may lie in a leap second.  Both are written to the second.
-/

namespace LogicalBackup

/-- Whether February has 29 days. -/
def isLeapYear (year : Int) : Bool := year % 4 = 0 && (year % 100 ≠ 0 || year % 400 = 0)

/-- The number of days of a month. -/
def daysIn (year : Int) (month : Nat) : Nat :=
  if month = 2 then if isLeapYear year then 29 else 28
  else if month = 4 ∨ month = 6 ∨ month = 9 ∨ month = 11 then 30
  else 31

/-- A day of the proleptic Gregorian calendar. -/
structure Date where
  year : Int
  month : Nat
  day : Nat
  year_mem : -262143 ≤ year ∧ year ≤ 262142
  month_mem : 1 ≤ month ∧ month ≤ 12
  day_mem : 1 ≤ day ∧ day ≤ daysIn year month
  deriving DecidableEq

namespace Date

/-- The day of these numbers, if the calendar has it. -/
def of? (year : Int) (month day : Nat) : Option Date :=
  if h : (-262143 ≤ year ∧ year ≤ 262142) ∧ (1 ≤ month ∧ month ≤ 12) ∧
      (1 ≤ day ∧ day ≤ daysIn year month) then
    some ⟨year, month, day, h.1, h.2.1, h.2.2⟩
  else none

/-- A year: four digits, and a sign before a year that has more or lies before the year zero. -/
def yearText (year : Int) : String :=
  if year < 0 then "-" ++ Decimal.padded 4 year.natAbs
  else if year ≤ 9999 then Decimal.padded 4 year.natAbs
  else "+" ++ Decimal.padded 4 year.natAbs

/-- The form `YYYY-MM-DD`. -/
def text (d : Date) : String :=
  yearText d.year ++ "-" ++ Decimal.padded 2 d.month ++ "-" ++ Decimal.padded 2 d.day

/-- The day that lies `n` days after 1 March of the year zero, in the calendar of 400 years that
begin in March. -/
def ofDayNumber? (n : Int) : Option Date :=
  let era := n.fdiv 146097
  let dayOfEra := (n - era * 146097).toNat
  let yearOfEra := (dayOfEra - dayOfEra / 1460 + dayOfEra / 36524 - dayOfEra / 146096) / 365
  let dayOfYear := dayOfEra - (365 * yearOfEra + yearOfEra / 4 - yearOfEra / 100)
  let fromMarch := (5 * dayOfYear + 2) / 153
  let day := dayOfYear - (153 * fromMarch + 2) / 5 + 1
  let month := if fromMarch < 10 then fromMarch + 3 else fromMarch - 9
  let year := era * 400 + yearOfEra + (if month ≤ 2 then 1 else 0)
  of? year month day

end Date

/-- A time of day.  In a leap second, which follows the second 59 of a minute, the nanoseconds count
on from that second. -/
structure TimeOfDay where
  hour : Nat
  minute : Nat
  second : Nat
  nanosecond : Nat
  hour_lt : hour < 24
  minute_lt : minute < 60
  second_lt : second < 60
  nanosecond_lt : nanosecond < 2000000000
  leap : second = 59 ∨ nanosecond < 1000000000
  deriving DecidableEq

namespace TimeOfDay

/-- The time of these numbers, if a day has it. -/
def of? (hour minute second nanosecond : Nat) : Option TimeOfDay :=
  if h : hour < 24 ∧ minute < 60 ∧ second < 60 ∧ nanosecond < 2000000000 ∧
      (second = 59 ∨ nanosecond < 1000000000) then
    some ⟨hour, minute, second, nanosecond, h.1, h.2.1, h.2.2.1, h.2.2.2.1, h.2.2.2.2⟩
  else none

/-- The second as it is shown: a leap second is the second 60. -/
def shownSecond (t : TimeOfDay) : Nat := t.second + t.nanosecond / 1000000000

/-- The form `HH:MM:SS`. -/
def text (t : TimeOfDay) : String :=
  Decimal.padded 2 t.hour ++ ":" ++ Decimal.padded 2 t.minute ++ ":" ++
    Decimal.padded 2 t.shownSecond

end TimeOfDay

/-- A time on a day, in no zone. -/
structure DateTime where
  date : Date
  time : TimeOfDay
  deriving DecidableEq

namespace DateTime

/-- The form `YYYY-MM-DD HH:MM:SS`. -/
def text (m : DateTime) : String := m.date.text ++ " " ++ m.time.text

/-- The beginning of 1970. -/
def epoch : DateTime where
  date := ⟨1970, 1, 1, by decide, by decide, by decide⟩
  time := ⟨0, 0, 0, 0, by decide, by decide, by decide, by decide, by decide⟩

/-- The moment that lies a number of seconds after the beginning of 1970. -/
def ofUnixSeconds? (seconds : Int) : Option DateTime :=
  let second := (seconds.fmod 86400).toNat
  match Date.ofDayNumber? (seconds.fdiv 86400 + 719468),
      TimeOfDay.of? (second / 3600) (second / 60 % 60) (second % 60) 0 with
  | some date, some time => some ⟨date, time⟩
  | _, _ => none

end DateTime

end LogicalBackup
