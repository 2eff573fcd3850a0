import LogicalBackup.Proofs.Calendar.Reading

/-!
# Texts in the form of dates and times

A `DateForm` is a text `YYYY-MM-DD`, a `TimeForm` a text `HH:MM:SS` and a `FractionForm` a fraction
of a second, whatever their digits.  Such a text is read if the calendar and the clock have its
numbers (`IsValid`), and then what is read is written as the text was, without its fraction
(`DateForm.read_text_of_isValid`, `DateTime.exists_read_forms_of_isValid`).  Otherwise nothing is
read.
-/

namespace LogicalBackup

open Decimal (Numeral padded)

open Calendar

/-! ## Dates -/

/-- The digits of a day: four of the year, two of the month and two of the day. -/
structure DateForm where
  year : Numeral 4
  month : Numeral 2
  day : Numeral 2

namespace DateForm

variable (f : DateForm)

/-- The form as it is written. -/
def text : String := f.year.text ++ "-" ++ f.month.text ++ "-" ++ f.day.text

/-- Whether the calendar has the day. -/
def IsValid : Prop :=
  (1 ≤ f.month.value ∧ f.month.value ≤ 12) ∧
    (1 ≤ f.day.value ∧ f.day.value ≤ daysIn f.year.value f.month.value)

instance : Decidable f.IsValid := inferInstanceAs (Decidable (_ ∧ _))

theorem year_mem : -262143 ≤ (f.year.value : Int) ∧ (f.year.value : Int) ≤ 262142 := by
  have := f.year.value_lt
  omega

variable {f}

/-- The day of a valid form. -/
def date (h : f.IsValid) : Date where
  year := f.year.value
  month := f.month.value
  day := f.day.value
  year_mem := f.year_mem
  month_mem := h.1
  day_mem := h.2

theorem of?_of_isValid (h : f.IsValid) :
    Date.of? f.year.value f.month.value f.day.value = some (f.date h) := by
  rw [Date.of?, dif_pos ⟨f.year_mem, h⟩]
  rfl

theorem of?_of_not_isValid (h : ¬f.IsValid) :
    Date.of? f.year.value f.month.value f.day.value = none := by
  rw [Date.of?, dif_neg fun valid => h valid.2]

/-- The day of a valid form is written in that form. -/
theorem text_date (h : f.IsValid) : (f.date h).text = f.text := by
  have year : Date.yearText f.year.value = f.year.text := by
    have := f.year.value_lt
    rw [Date.yearText, if_neg (by omega), if_pos (by omega), Int.natAbs_natCast,
      f.year.padded_value (by decide)]
  have month : padded 2 f.month.value = f.month.text := f.month.padded_value (by decide)
  have day : padded 2 f.day.value = f.day.text := f.day.padded_value (by decide)
  change Date.yearText f.year.value ++ "-" ++ padded 2 f.month.value ++ "-" ++
    padded 2 f.day.value = _
  rw [year, month, day]
  rfl

theorem takeDate_text (rest : List Char) : takeDate (f.text.toList ++ rest) =
    (Date.of? f.year.value f.month.value f.day.value).map fun date => (date, rest) := by
  have split : f.text.toList ++ rest =
      f.year.digits ++ '-' :: (f.month.digits ++ '-' :: (f.day.digits ++ rest)) := by
    have mark : "-".toList = ['-'] := rfl
    simp only [text, String.toList_append, Numeral.toList_text, mark, List.append_assoc,
      List.cons_append, List.nil_append]
  rw [split]
  exact takeDate_of_takeYear f.month f.day rest (takeYear_append f.year _)

theorem read_text : Date.read f.text.toList =
    Date.of? f.year.value f.month.value f.day.value := by
  have taken := takeDate_text (f := f) []
  rw [List.append_nil] at taken
  rw [Date.read, taken]
  cases Date.of? f.year.value f.month.value f.day.value <;> rfl

theorem read_text_of_isValid (h : f.IsValid) : Date.read f.text.toList = some (f.date h) := by
  rw [read_text, of?_of_isValid h]

theorem read_text_of_not_isValid (h : ¬f.IsValid) : Date.read f.text.toList = none := by
  rw [read_text, of?_of_not_isValid h]

end DateForm

/-! ## Times -/

/-- The digits of a time: two of the hour, two of the minute and two of the second. -/
structure TimeForm where
  hour : Numeral 2
  minute : Numeral 2
  second : Numeral 2

namespace TimeForm

variable (f : TimeForm)

/-- The form as it is written. -/
def text : String := f.hour.text ++ ":" ++ f.minute.text ++ ":" ++ f.second.text

/-- Whether the clock has the time.  The second 60 is a leap second. -/
def IsValid : Prop := f.hour.value < 24 ∧ f.minute.value < 60 ∧ f.second.value ≤ 60

instance : Decidable f.IsValid := inferInstanceAs (Decidable (_ ∧ _))

variable {f}

/-- A time with the numbers of a form is written in that form. -/
theorem text_eq {t : TimeOfDay} (hour : t.hour = f.hour.value) (minute : t.minute = f.minute.value)
    (second : t.shownSecond = f.second.value) : t.text = f.text := by
  rw [TimeOfDay.text, hour, minute, second, f.hour.padded_value (by decide),
    f.minute.padded_value (by decide), f.second.padded_value (by decide)]
  rfl

theorem exists_timeOf?_of_isValid (h : f.IsValid) {n : Nat} (below : n < 1000000000) :
    ∃ t, timeOf? f.hour.value f.minute.value f.second.value n = some t ∧ t.text = f.text := by
  obtain ⟨hour, minute, second⟩ := h
  by_cases leap : f.second.value = 60
  · have shown : 59 + (n + 1000000000) / 1000000000 = f.second.value := by omega
    rw [timeOf?, if_pos leap, TimeOfDay.of?, dif_pos (by omega)]
    exact ⟨_, rfl, text_eq rfl rfl shown⟩
  · have shown : f.second.value + n / 1000000000 = f.second.value := by omega
    rw [timeOf?, if_neg leap, TimeOfDay.of?, dif_pos (by omega)]
    exact ⟨_, rfl, text_eq rfl rfl shown⟩

theorem timeOf?_of_not_isValid (h : ¬f.IsValid) (n : Nat) :
    timeOf? f.hour.value f.minute.value f.second.value n = none := by
  unfold IsValid at h
  by_cases leap : f.second.value = 60
  · rw [timeOf?, if_pos leap, TimeOfDay.of?, dif_neg (by omega)]
  · rw [timeOf?, if_neg leap, TimeOfDay.of?, dif_neg (by omega)]

end TimeForm

/-! ## Fractions and times on a day -/

/-- A point and one to six digits. -/
structure FractionForm where
  width : Nat
  numeral : Numeral width
  width_mem : 1 ≤ width ∧ width ≤ 6

/-- The fraction as it is written. -/
def FractionForm.text (f : FractionForm) : String := "." ++ f.numeral.text

/-- A fraction is read whole and is less than a second. -/
theorem FractionForm.exists_takeFraction (f : FractionForm) :
    ∃ n < 1000000000, takeFraction f.text.toList = some (n, []) := by
  obtain ⟨width, x, least, most⟩ := f
  have full : ¬x.digits.isEmpty := by
    rw [List.isEmpty_iff]
    exact x.ne_nil least
  have counted : (x.digits.take 9).takeWhile Char.isDigit = x.digits := by
    rw [List.take_of_length_le (by rw [x.length_eq]; omega), List.takeWhile_eq_self_iff]
    exact x.isDigit
  have read : x.digits.dropWhile Char.isDigit = [] := List.dropWhile_eq_nil_iff.2 x.isDigit
  refine ⟨x.value * Nat.pow 10 (9 - width), ?_, ?_⟩
  · have split : 10 ^ width * Nat.pow 10 (9 - width) = 1000000000 := by
      change 10 ^ width * 10 ^ (9 - width) = 10 ^ 9
      rw [← Nat.pow_add, Nat.add_sub_cancel' (by omega)]
    rw [← split]
    exact Nat.mul_lt_mul_of_pos_right x.value_lt (Nat.pow_pos (by decide))
  · have form : (FractionForm.text ⟨width, x, least, most⟩).toList = '.' :: x.digits := by
      rw [text, String.toList_append, x.toList_text]
      rfl
    rw [form, takeFraction]
    simp only [counted, read, full, x.length_eq]
    rfl

/-- The text of a fraction that may be missing. -/
def fractionText (f : Option FractionForm) : String := (f.map FractionForm.text).getD ""

theorem exists_takeFraction (f : Option FractionForm) :
    ∃ n < 1000000000, takeFraction (fractionText f).toList = some (n, []) := by
  cases f with
  | none => exact ⟨0, by decide, rfl⟩
  | some f => exact f.exists_takeFraction

namespace DateTime

variable (d : DateForm) (t : TimeForm) (fraction : Option FractionForm)

/-- The numerals of a time are read, and a fraction, which is less than a second. -/
theorem takeTime_forms :
    ∃ n < 1000000000, takeTime (' ' :: (t.text.toList ++ (fractionText fraction).toList)) =
      (timeOf? t.hour.value t.minute.value t.second.value n).map fun time => (time, []) := by
  obtain ⟨n, below, taken⟩ := exists_takeFraction fraction
  have split : t.text.toList ++ (fractionText fraction).toList =
      t.hour.digits ++ ':' ::
        (t.minute.digits ++ ':' :: (t.second.digits ++ (fractionText fraction).toList)) := by
    have mark : ":".toList = [':'] := rfl
    simp only [TimeForm.text, String.toList_append, Numeral.toList_text, mark, List.append_assoc,
      List.cons_append, List.nil_append]
  exact ⟨n, below, by rw [takeTime_cons_space, split, takeTime_append _ _ _ taken]⟩

theorem toList_forms : (d.text ++ " " ++ t.text ++ fractionText fraction).toList =
    d.text.toList ++ ' ' :: (t.text.toList ++ (fractionText fraction).toList) := by
  have mark : " ".toList = [' '] := rfl
  simp only [String.toList_append, mark, List.append_assoc, List.cons_append, List.nil_append]

variable {d t}

theorem exists_read_forms_of_isValid (hd : d.IsValid) (ht : t.IsValid) :
    ∃ m, read (d.text ++ " " ++ t.text ++ fractionText fraction).toList = some m ∧
      m.text = d.text ++ " " ++ t.text := by
  obtain ⟨n, below, taken⟩ := takeTime_forms t fraction
  obtain ⟨time, found, shown⟩ := TimeForm.exists_timeOf?_of_isValid ht below
  refine ⟨⟨d.date hd, time⟩, ?_, ?_⟩
  · rw [toList_forms, read, DateForm.takeDate_text, DateForm.of?_of_isValid hd]
    simp only [Option.map_some, taken, found]
  · rw [text, DateForm.text_date hd, shown]

theorem read_forms_of_not_isValid (h : ¬(d.IsValid ∧ t.IsValid)) :
    read (d.text ++ " " ++ t.text ++ fractionText fraction).toList = none := by
  obtain ⟨n, -, taken⟩ := takeTime_forms t fraction
  rw [toList_forms, read, DateForm.takeDate_text]
  by_cases hd : d.IsValid
  · have ht : ¬t.IsValid := fun ht => h ⟨hd, ht⟩
    rw [DateForm.of?_of_isValid hd]
    simp only [Option.map_some, taken, TimeForm.timeOf?_of_not_isValid ht, Option.map_none]
  · rw [DateForm.of?_of_not_isValid hd]
    rfl

end DateTime

end LogicalBackup
