import LogicalBackup.Calendar.Reading
import LogicalBackup.Proofs.Number.Decimal
import Mathlib.Data.List.TakeWhile
import Mathlib.Tactic.SplitIfs

/-!
# Dates and times are read as they are written

Numerals of the right width are taken off a text as they stand (`takeField_append`,
`takeYear_append`).  So a date is read back from its text, whatever its year (`Date.read_text`), and
a time on a day is read back to the second (`DateTime.read_text`).
-/

namespace LogicalBackup

open Decimal (Numeral padded)

namespace Calendar

/-! ## Numbers -/

theorem isBlank_of_isDigit {c : Char} (h : c.isDigit) : Text.isBlank c = false := by
  have bounds : 48 ≤ c.toNat ∧ c.toNat ≤ 57 := Char.isDigit_iff_toNat.1 h
  apply Bool.eq_false_iff.2
  intro blank
  simp only [Text.isBlank, Bool.or_eq_true, Bool.and_eq_true, decide_eq_true_eq,
    beq_iff_eq] at blank
  omega

theorem dropBlank_append {digits : List Char} (isDigit : ∀ c ∈ digits, c.isDigit)
    (ne : digits ≠ []) (rest : List Char) :
    Text.dropBlank (digits ++ rest) = digits ++ rest := by
  obtain ⟨c, s, rfl⟩ := List.exists_cons_of_ne_nil ne
  have first : ¬Text.isBlank c := by
    rw [isBlank_of_isDigit (isDigit c List.mem_cons_self)]
    exact Bool.false_ne_true
  exact List.dropWhile_cons_of_neg first

/-- Digits are taken all at once if there is no room for more or no digit follows. -/
theorem takeNumber_append {width : Nat} {digits rest : List Char}
    (isDigit : ∀ c ∈ digits, c.isDigit) (ne : digits ≠ []) (fits : digits.length ≤ width)
    (stops : digits.length = width ∨ ∀ c ∈ rest.head?, ¬c.isDigit) :
    takeNumber width (digits ++ rest) = some (Decimal.value digits, rest) := by
  have behind : (rest.take (width - digits.length)).takeWhile Char.isDigit = [] := by
    rcases stops with full | other
    · rw [full, Nat.sub_self, List.take_zero, List.takeWhile_nil]
    · cases rest with
      | nil => rw [List.take_nil, List.takeWhile_nil]
      | cons c rest =>
        cases width - digits.length with
        | zero => rw [List.take_zero, List.takeWhile_nil]
        | succ room =>
          rw [List.take_succ_cons]
          exact List.takeWhile_cons_of_neg (other c rfl)
  have taken : ((digits ++ rest).take width).takeWhile Char.isDigit = digits := by
    rw [List.take_append, List.take_of_length_le fits, List.takeWhile_append_of_pos isDigit,
      behind, List.append_nil]
  have full : ¬digits.isEmpty := by
    rw [List.isEmpty_iff]
    exact ne
  unfold takeNumber
  simp only [taken, List.drop_left]
  rw [if_neg full]

theorem takeField_append (x : Numeral 2) (rest : List Char) :
    takeField (x.digits ++ rest) = some (x.value, rest) := by
  have ne := x.ne_nil (by decide)
  rw [takeField, dropBlank_append x.isDigit ne]
  exact takeNumber_append x.isDigit ne x.length_eq.le (Or.inl x.length_eq)

/-- A year without a sign has at most four digits. -/
theorem takeYear_eq_of_isDigit {c : Char} (h : c.isDigit) (s : List Char) :
    takeYear (c :: s) = (takeNumber 4 (c :: s)).map fun (n, rest) => ((n : Int), rest) := by
  have keeps : Text.dropBlank ([c] ++ s) = [c] ++ s :=
    dropBlank_append (List.forall_mem_singleton.2 h) (List.cons_ne_nil _ _) s
  rw [List.singleton_append] at keeps
  rw [takeYear, keeps]
  split
  · next e =>
    rw [List.cons.injEq] at e
    rw [e.1] at h
    exact absurd h (by decide)
  · next e =>
    rw [List.cons.injEq] at e
    rw [e.1] at h
    exact absurd h (by decide)
  · rfl

theorem takeYear_append (x : Numeral 4) (rest : List Char) :
    takeYear (x.digits ++ rest) = some ((x.value : Int), rest) := by
  have ne := x.ne_nil (by decide)
  have number : takeNumber 4 (x.digits ++ rest) = some (x.value, rest) :=
    takeNumber_append x.isDigit ne x.length_eq.le (Or.inl x.length_eq)
  obtain ⟨c, s, e⟩ := List.exists_cons_of_ne_nil ne
  have first : c.isDigit := x.isDigit c (e ▸ List.mem_cons_self)
  rw [e, List.cons_append] at number ⊢
  rw [takeYear_eq_of_isDigit first, number]
  rfl

theorem takeYear_minus (s : List Char) :
    takeYear ('-' :: s) = (takeNumber s.length s).map fun (n, rest) => (-(n : Int), rest) := rfl

theorem takeYear_plus (s : List Char) :
    takeYear ('+' :: s) = (takeNumber s.length s).map fun (n, rest) => ((n : Int), rest) := rfl

/-- Behind a sign there is room for all digits, and a hyphen ends them. -/
theorem takeNumber_padded (width n : Nat) (rest : List Char) :
    takeNumber ((padded width n).toList ++ '-' :: rest).length
      ((padded width n).toList ++ '-' :: rest) = some (n, '-' :: rest) := by
  have fits : (padded width n).toList.length ≤
      ((padded width n).toList ++ '-' :: rest).length := by
    rw [List.length_append]
    exact Nat.le_add_right _ _
  have stops : ∀ c ∈ ('-' :: rest).head?, ¬c.isDigit := by
    intro c hc
    rw [← Option.some.inj hc]
    decide
  rw [takeNumber_append (fun c => Decimal.isDigit_of_mem_padded)
    (Decimal.toList_padded_ne_nil width n) fits (Or.inr stops), Decimal.value_padded]

/-- A year is read back from its text before a hyphen. -/
theorem takeYear_yearText (year : Int) (rest : List Char) :
    takeYear ((Date.yearText year).toList ++ '-' :: rest) = some (year, '-' :: rest) := by
  unfold Date.yearText
  split_ifs with before short
  · have sign : "-".toList = ['-'] := rfl
    have value : -(year.natAbs : Int) = year := by omega
    rw [String.toList_append, sign, List.append_assoc, List.singleton_append, takeYear_minus,
      takeNumber_padded]
    exact congrArg (fun y => some (y, '-' :: rest)) value
  · have value : (year.natAbs : Int) = year := by omega
    have number := takeYear_append (Numeral.ofNat 4 year.natAbs (by decide) (by omega))
      ('-' :: rest)
    rwa [Numeral.value_ofNat, Numeral.digits_ofNat, value] at number
  · have sign : "+".toList = ['+'] := rfl
    have value : (year.natAbs : Int) = year := by omega
    rw [String.toList_append, sign, List.append_assoc, List.singleton_append, takeYear_plus,
      takeNumber_padded]
    exact congrArg (fun y => some (y, '-' :: rest)) value

/-! ## Dates and times -/

theorem takeDate_of_takeYear {s : List Char} {year : Int} (month day : Numeral 2)
    (rest : List Char)
    (h : takeYear s = some (year, '-' :: (month.digits ++ '-' :: (day.digits ++ rest)))) :
    takeDate s = (Date.of? year month.value day.value).map fun date => (date, rest) := by
  unfold takeDate
  simp only [h, Option.bind_eq_bind, Option.bind_some, takeMark, if_true, takeField_append]
  cases Date.of? year month.value day.value <;> rfl

theorem takeTime_append (hour minute second : Numeral 2) {fraction : List Char} {n : Nat}
    {rest : List Char} (h : takeFraction fraction = some (n, rest)) :
    takeTime (hour.digits ++ ':' :: (minute.digits ++ ':' :: (second.digits ++ fraction))) =
      (timeOf? hour.value minute.value second.value n).map fun time => (time, rest) := by
  unfold takeTime
  simp only [Option.bind_eq_bind, Option.bind_some, takeMark, if_true, takeField_append, h]
  cases timeOf? hour.value minute.value second.value n <;> rfl

theorem takeTime_cons_space (s : List Char) : takeTime (' ' :: s) = takeTime s := rfl

end Calendar

open Calendar

namespace Date

theorem of?_fields (d : Date) : of? d.year d.month d.day = some d := by
  rw [of?, dif_pos ⟨d.year_mem, d.month_mem, d.day_mem⟩]

theorem day_le (d : Date) : d.day ≤ 31 := by
  have upper := d.day_mem.2
  unfold daysIn at upper
  split_ifs at upper <;> omega

/-- A date is taken off a text that begins with it. -/
theorem takeDate_text (d : Date) (rest : List Char) :
    takeDate (d.text.toList ++ rest) = some (d, rest) := by
  have months := d.month_mem.2
  have days := d.day_le
  let month := Numeral.ofNat 2 d.month (by decide) (by omega)
  let day := Numeral.ofNat 2 d.day (by decide) (by omega)
  have split : d.text.toList ++ rest = (yearText d.year).toList ++
      '-' :: (month.digits ++ '-' :: (day.digits ++ rest)) := by
    have mark : "-".toList = ['-'] := rfl
    simp only [text, month, day, Numeral.digits_ofNat, String.toList_append, mark,
      List.append_assoc, List.cons_append, List.nil_append]
  rw [split, takeDate_of_takeYear month day rest (takeYear_yearText d.year _),
    Numeral.value_ofNat, Numeral.value_ofNat, of?_fields]
  rfl

/-- A date is read back from its text. -/
theorem read_text (d : Date) : read d.text.toList = some d := by
  have taken := d.takeDate_text []
  rw [List.append_nil] at taken
  rw [read, taken]

end Date

namespace TimeOfDay

/-- The time without what lies below the second. -/
def toSecond (t : TimeOfDay) : TimeOfDay where
  hour := t.hour
  minute := t.minute
  second := t.second
  nanosecond := t.nanosecond / 1000000000 * 1000000000
  hour_lt := t.hour_lt
  minute_lt := t.minute_lt
  second_lt := t.second_lt
  nanosecond_lt := Nat.lt_of_le_of_lt (Nat.div_mul_le_self _ _) t.nanosecond_lt
  leap := t.leap.imp_right fun h => Nat.lt_of_le_of_lt (Nat.div_mul_le_self _ _) h

theorem timeOf?_shownSecond (t : TimeOfDay) :
    timeOf? t.hour t.minute t.shownSecond 0 = some t.toSecond := by
  have hour := t.hour_lt
  have minute := t.minute_lt
  have second := t.second_lt
  have nanosecond := t.nanosecond_lt
  have leap := t.leap
  by_cases inLeap : t.nanosecond < 1000000000
  · have shown : t.shownSecond = t.second := by
      unfold shownSecond
      omega
    rw [timeOf?, shown, if_neg (by omega), of?, dif_pos (by omega)]
    simp only [toSecond, Nat.div_eq_of_lt inLeap, Nat.zero_mul]
  · have whole : t.nanosecond / 1000000000 = 1 := by omega
    have last : t.second = 59 := by omega
    have shown : t.shownSecond = 60 := by rw [shownSecond, whole, last]
    rw [timeOf?, shown, if_pos rfl, of?, dif_pos (by omega)]
    simp only [toSecond, whole, last, Nat.zero_add, Nat.one_mul]

theorem shownSecond_le (t : TimeOfDay) : t.shownSecond ≤ 60 := by
  have second := t.second_lt
  have nanosecond := t.nanosecond_lt
  unfold shownSecond
  omega

theorem takeTime_text (t : TimeOfDay) : takeTime t.text.toList = some (t.toSecond, []) := by
  have hours := t.hour_lt
  have minutes := t.minute_lt
  have seconds := t.shownSecond_le
  let hour := Numeral.ofNat 2 t.hour (by decide) (by omega)
  let minute := Numeral.ofNat 2 t.minute (by decide) (by omega)
  let second := Numeral.ofNat 2 t.shownSecond (by decide) (by omega)
  have split : t.text.toList =
      hour.digits ++ ':' :: (minute.digits ++ ':' :: (second.digits ++ [])) := by
    have mark : ":".toList = [':'] := rfl
    simp only [text, hour, minute, second, Numeral.digits_ofNat, String.toList_append, mark,
      List.append_assoc, List.cons_append, List.nil_append, List.append_nil]
  have none : takeFraction [] = some (0, []) := rfl
  rw [split, takeTime_append hour minute second none, Numeral.value_ofNat, Numeral.value_ofNat,
    Numeral.value_ofNat, timeOf?_shownSecond]
  rfl

end TimeOfDay

/-- A time on a day is read back from its text to the second. -/
theorem DateTime.read_text (m : DateTime) :
    DateTime.read m.text.toList = some ⟨m.date, m.time.toSecond⟩ := by
  have split : m.text.toList = m.date.text.toList ++ ' ' :: m.time.text.toList := by
    have mark : " ".toList = [' '] := rfl
    simp only [text, String.toList_append, mark, List.append_assoc, List.cons_append,
      List.nil_append]
  rw [read, split, Date.takeDate_text]
  simp only [takeTime_cons_space, TimeOfDay.takeTime_text]

end LogicalBackup
