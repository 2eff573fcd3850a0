import LogicalBackup.Proofs.Column.Integers

/-!
# Values of both protocols

A server sends the value of a column as a text (`ColumnValue.text`) or as a binary value
(`ColumnValue.wire`).  Both are scanned, and their literals are the same one just where the text has
the form that the binary value is given (`ColumnValue.HasOneForm`, `protocols_agree_iff`): never for
a date, which is given a time, and not for a time of more hours than 32 bits count.
-/

namespace LogicalBackup

open Decimal (Numeral padded IntegerForm)

/-! ## Values -/

/-- The number of microseconds that a fraction of a second stands for. -/
def FractionForm.micros (f : FractionForm) : Nat := f.numeral.value * 10 ^ (6 - f.width)

/-- The microseconds of a fraction that may be missing. -/
def fractionMicros (fraction : Option FractionForm) : Nat := fraction.elim 0 FractionForm.micros

/-- A value of a column of integers, dates or times. -/
inductive ColumnValue where
  | signed (n : Int64)
  /-- An integer without a sign, with zeros before it up to a width. -/
  | unsigned (n : UInt64) (width : Nat)
  | date (d : DateForm)
  /-- A time on a day, with a fraction if the column has one. -/
  | dateTime (d : DateForm) (t : TimeForm) (fraction : Option FractionForm)
  | time (negative : Bool) (days : UInt32) (hours minutes seconds : UInt8) (micros : UInt32)

/-- The form `[-]HH:MM:SS`, where the hours may have more digits, with six digits of a fraction that
is not zero. -/
def timeText (negative : Bool) (hours : Nat) (minutes seconds : UInt8) (micros : UInt32) : String :=
  (if negative then "-" else "") ++
    (padded 2 hours ++ ":" ++ padded 2 minutes.toNat ++ ":" ++ padded 2 seconds.toNat) ++
    if micros.toNat = 0 then "" else "." ++ padded 6 micros.toNat

namespace ColumnValue

/-- The types of columns that have such values. -/
def types : ColumnValue → List WireType
  | signed _ | unsigned .. => [.tiny, .short, .int24, .long, .longLong, .year]
  | date _ => [.date, .newDate]
  | dateTime .. => [.dateTime, .dateTime2, .timestamp, .timestamp2]
  | time .. => [.time, .time2]

/-- The class of these columns. -/
def cellClass : ColumnValue → ColumnClass
  | signed _ | unsigned .. => .integer
  | date _ => .date
  | dateTime .. => .dateTime
  | time .. => .text

/-- The binary value. -/
def wire : ColumnValue → WireValue
  | signed n => .int n
  | unsigned n _ => .uint n
  | date d =>
    .date (UInt16.ofNat d.year.value) (UInt8.ofNat d.month.value) (UInt8.ofNat d.day.value) 0 0 0 0
  | dateTime d t fraction =>
    .date (UInt16.ofNat d.year.value) (UInt8.ofNat d.month.value) (UInt8.ofNat d.day.value)
      (UInt8.ofNat t.hour.value) (UInt8.ofNat t.minute.value) (UInt8.ofNat t.second.value)
      (UInt32.ofNat (fractionMicros fraction))
  | time negative days hours minutes seconds micros =>
    .time negative days hours minutes seconds micros

/-- The text. -/
def text : ColumnValue → String
  | signed n => Decimal.ofInt n.toInt
  | unsigned n width => padded width n.toNat
  | date d => d.text
  | dateTime d t fraction => d.text ++ " " ++ t.text ++ fractionText fraction
  | time negative days hours minutes seconds micros =>
    timeText negative (24 * days.toNat + hours.toNat) minutes seconds micros

/-- The text is the one that the binary value is given, apart from what a literal leaves out: zeros
before an integer, and the fraction of a time on a day that the calendar has.  A binary value is
given six digits of a fraction, or none if it is zero. -/
def HasOneForm : ColumnValue → Prop
  | signed _ | unsigned .. => True
  | date _ => False
  | dateTime d t fraction =>
    (d.IsValid ∧ t.IsValid) ∨ ∀ f ∈ fraction, f.width = 6 ∧ f.numeral.value ≠ 0
  | time _ days hours _ _ _ => 24 * days.toNat + hours.toNat < 2 ^ 32

end ColumnValue

/-! ## Columns -/

namespace WireColumn

variable {c : WireColumn}

theorem cellClass_of_integer (h : c.type ∈ [.tiny, .short, .int24, .long, .longLong, .year]) :
    c.describe.cellClass = .integer := by
  have kind : c.kind = .unsignedInteger ∨ c.kind = .signedInteger := by
    have either : c.kind = if c.isUnsigned then .unsignedInteger else .signedInteger := by
      unfold WireColumn.kind
      simp only [List.mem_cons, List.not_mem_nil, or_false] at h
      rcases h with h | h | h | h | h | h <;> rw [h]
    rw [either]
    split_ifs
    · exact Or.inl rfl
    · exact Or.inr rfl
  unfold describe Column.cellClass
  rcases kind with kind | kind <;> rw [kind]

theorem cellClass_of_date (h : c.type ∈ [.date, .newDate]) : c.describe.cellClass = .date := by
  simp only [List.mem_cons, List.not_mem_nil, or_false] at h
  rcases h with h | h <;> simp only [describe, Column.cellClass, kind, typeName, h] <;> decide

theorem cellClass_of_dateTime
    (h : c.type ∈ [.dateTime, .dateTime2, .timestamp, .timestamp2]) :
    c.describe.cellClass = .dateTime := by
  simp only [List.mem_cons, List.not_mem_nil, or_false] at h
  rcases h with h | h | h | h <;> simp only [describe, Column.cellClass, kind, typeName, h] <;>
    decide

theorem cellClass_of_time (h : c.type ∈ [.time, .time2]) : c.describe.cellClass = .text := by
  refine cellClass_of_holdsText (Or.inr ?_)
  simp only [List.mem_cons, List.not_mem_nil, or_false] at h ⊢
  exact Or.inr (Or.inr (Or.inr h))

/-- The metadata of a column lead to the class of its values. -/
theorem cellClass_of_mem_types {v : ColumnValue} (h : c.type ∈ v.types) :
    c.describe.cellClass = v.cellClass := by
  cases v with
  | signed n => exact cellClass_of_integer h
  | unsigned n width => exact cellClass_of_integer h
  | date d => exact cellClass_of_date h
  | dateTime d t fraction => exact cellClass_of_dateTime h
  | time negative days hours minutes seconds micros => exact cellClass_of_time h

end WireColumn

/-! ## Integers -/

theorem literal_scan_integer {f : IntegerForm} (h : FitsWord f.value) :
    literal <$> ColumnClass.integer.scan (some (utf8 f.text)) =
      .ok (utf8 (Decimal.ofInt f.value)) := by
  change literal <$> ColumnClass.scanInteger (utf8 f.text) = _
  rw [ColumnClass.scanInteger_text h, ← Value.literal_ofInteger h]
  rfl

theorem literal_scan_signed (n : Int64) :
    literal <$> ColumnClass.integer.scan (some (utf8 (Decimal.ofInt n.toInt))) =
      .ok (utf8 (Decimal.ofInt n.toInt)) := by
  have value := IntegerForm.value_ofInt n.toInt
  have fits : FitsWord n.toInt := by
    have low := n.le_toInt
    have high := n.toInt_lt
    unfold FitsWord
    omega
  have scanned := literal_scan_integer (f := IntegerForm.ofInt n.toInt) (by rwa [value])
  rwa [value, IntegerForm.text_ofInt] at scanned

/-- A numeral that is filled up with zeros. -/
def Decimal.IntegerForm.ofPadded (width n : Nat) : IntegerForm where
  sign := .none
  digits := (padded width n).toList
  ne_nil := Decimal.toList_padded_ne_nil width n
  isDigit _ := Decimal.isDigit_of_mem_padded

theorem text_ofPadded (width n : Nat) : (IntegerForm.ofPadded width n).text = padded width n := by
  rw [← String.toList_inj, IntegerForm.toList_text, IntegerForm.ofPadded, Decimal.Sign.chars,
    List.nil_append]

theorem value_ofPadded (width n : Nat) : (IntegerForm.ofPadded width n).value = n := by
  have plain (n : Nat) : Decimal.Sign.none.apply n = n := rfl
  rw [IntegerForm.value, IntegerForm.ofPadded, plain, Decimal.value_padded]

/-- Zeros before an integer are not kept. -/
theorem literal_scan_padded (n : UInt64) (width : Nat) :
    literal <$> ColumnClass.integer.scan (some (utf8 (padded width n.toNat))) =
      .ok (utf8 (Decimal.ofNat n.toNat)) := by
  have value := value_ofPadded width n.toNat
  have fits : FitsWord (n.toNat : Int) := by
    have high := n.toNat_lt
    unfold FitsWord
    omega
  have canonical : Decimal.ofInt n.toNat = Decimal.ofNat n.toNat := by
    rw [Decimal.ofInt, if_neg (by omega), Int.natAbs_natCast]
  have scanned := literal_scan_integer (f := .ofPadded width n.toNat) (by rwa [value])
  rwa [text_ofPadded, value, canonical] at scanned

/-! ## Dates and times on a day -/

/-- The fraction that a binary value is given. -/
def FractionForm.ofMicros? (n : Nat) (h : n < 10 ^ 6) : Option FractionForm :=
  if n = 0 then none else some ⟨6, Numeral.ofNat 6 n (by decide) h, by decide⟩

theorem FractionForm.micros_lt (f : FractionForm) : f.micros < 10 ^ 6 := by
  have split : 10 ^ f.width * 10 ^ (6 - f.width) = 10 ^ 6 := by
    rw [← Nat.pow_add, Nat.add_sub_cancel' f.width_mem.2]
  rw [← split]
  exact Nat.mul_lt_mul_of_pos_right f.numeral.value_lt (Nat.pow_pos (by decide))

theorem fractionMicros_lt (fraction : Option FractionForm) : fractionMicros fraction < 10 ^ 6 := by
  cases fraction with
  | none => decide
  | some f => exact f.micros_lt

theorem FractionForm.micros_eq_zero_iff (f : FractionForm) :
    f.micros = 0 ↔ f.numeral.value = 0 := by
  have pos : 10 ^ (6 - f.width) ≠ 0 := (Nat.pow_pos (by decide)).ne'
  rw [micros, Nat.mul_eq_zero, or_iff_left pos]

theorem fractionText_ofMicros? {n : Nat} (h : n < 10 ^ 6) :
    fractionText (FractionForm.ofMicros? n h) = WireValue.fractionText n := by
  unfold FractionForm.ofMicros? WireValue.fractionText
  split_ifs
  · rfl
  · have digits := Numeral.digits_ofNat 6 n (by decide) h
    change "." ++ String.ofList _ = _
    rw [digits, String.ofList_toList]

/-- A numeral is filled up to six digits just if it has six. -/
theorem padded_micros_iff (f : FractionForm) :
    padded 6 f.micros = f.numeral.text ↔ f.width = 6 := by
  have digits := Decimal.length_padded (by decide : 0 < 6) f.micros_lt
  obtain ⟨width, x, width_mem⟩ := f
  constructor
  · intro same
    rw [same, x.toList_text, x.length_eq] at digits
    exact digits
  · rintro rfl
    have micros : FractionForm.micros ⟨6, x, width_mem⟩ = x.value := Nat.mul_one _
    rw [micros, x.padded_value (by decide)]

/-- A fraction is written as a binary value's just if it has six digits and is not zero. -/
theorem fractionText_ofMicros?_iff (fraction : Option FractionForm) :
    fractionText (FractionForm.ofMicros? _ (fractionMicros_lt fraction)) = fractionText fraction ↔
      ∀ f ∈ fraction, f.width = 6 ∧ f.numeral.value ≠ 0 := by
  rw [fractionText_ofMicros?]
  cases fraction with
  | none => exact iff_of_true rfl nofun
  | some f =>
    have written : fractionText (some f) = "." ++ f.numeral.text := rfl
    have micros : fractionMicros (some f) = f.micros := rfl
    simp only [Option.mem_def, Option.some.injEq, forall_eq']
    rw [written, micros, WireValue.fractionText]
    by_cases zero : f.numeral.value = 0
    · rw [if_pos (f.micros_eq_zero_iff.2 zero)]
      refine iff_of_false (fun same => ?_) fun h => h.2 zero
      rw [← String.toList_inj, String.toList_append] at same
      exact List.cons_ne_nil _ _ same.symm
    · rw [if_neg fun none => zero (f.micros_eq_zero_iff.1 none), String.append_right_inj,
        padded_micros_iff, and_iff_left zero]

/-- The cell of a binary value whose fields are these numbers. -/
theorem cell_date (d : DateForm) (t : TimeForm) {micros : Nat} (h : micros < 10 ^ 6) :
    (WireValue.date (UInt16.ofNat d.year.value) (UInt8.ofNat d.month.value)
      (UInt8.ofNat d.day.value) (UInt8.ofNat t.hour.value) (UInt8.ofNat t.minute.value)
      (UInt8.ofNat t.second.value) (UInt32.ofNat micros)).cell =
    some (utf8 (d.text ++ " " ++ t.text ++ fractionText (FractionForm.ofMicros? micros h))) := by
  have year : (UInt16.ofNat d.year.value).toNat = d.year.value := by
    have := d.year.value_lt
    exact UInt16.toNat_ofNat_of_lt' (by change _ < 65536; omega)
  have field (x : Numeral 2) : (UInt8.ofNat x.value).toNat = x.value := by
    have := x.value_lt
    exact UInt8.toNat_ofNat_of_lt' (by change _ < 256; omega)
  have fraction : (UInt32.ofNat micros).toNat = micros :=
    UInt32.toNat_ofNat_of_lt' (by change _ < 4294967296; omega)
  have text : d.text = padded 4 d.year.value ++ "-" ++ padded 2 d.month.value ++ "-" ++
      padded 2 d.day.value := by
    rw [d.year.padded_value (by decide), d.month.padded_value (by decide),
      d.day.padded_value (by decide)]
    rfl
  have clock : t.text =
      WireValue.clockText t.hour.value t.minute.value t.second.value := by
    rw [WireValue.clockText, t.hour.padded_value (by decide), t.minute.padded_value (by decide),
      t.second.padded_value (by decide)]
    rfl
  rw [WireValue.cell, year, field, field, field, field, field, fraction, fractionText_ofMicros?,
    text, clock]

/-- The beginning of a day. -/
def TimeForm.midnight : TimeForm :=
  let zero := Numeral.ofNat 2 0 (by decide) (by decide)
  ⟨zero, zero, zero⟩

theorem cell_date_midnight (d : DateForm) : (ColumnValue.date d).wire.cell =
    some (utf8 (d.text ++ " " ++ TimeForm.midnight.text)) := by
  have none : 0 < 10 ^ 6 := by decide
  have moment := cell_date d TimeForm.midnight none
  have whole : fractionText (FractionForm.ofMicros? 0 none) = "" := rfl
  rw [whole, String.append_empty] at moment
  exact moment

/-- A day with a time is no date. -/
theorem literal_scan_date_dateTime (d : DateForm) (t : TimeForm) :
    literal <$> ColumnClass.date.scan (some (utf8 (d.text ++ " " ++ t.text))) =
      .ok (quote (utf8 (d.text ++ " " ++ t.text))) := by
  have split : (d.text ++ " " ++ t.text).toList = d.text.toList ++ ' ' :: t.text.toList := by
    have mark : " ".toList = [' '] := rfl
    simp only [String.toList_append, mark, List.append_assoc, List.singleton_append]
  have unread : Date.read (d.text ++ " " ++ t.text).toList = none := by
    rw [split, Date.read, DateForm.takeDate_text]
    cases Date.of? d.year.value d.month.value d.day.value <;> rfl
  rw [ColumnClass.scan_date_utf8, unread]
  rfl

/-- A date and that date with a time have literals of their own. -/
theorem quote_dateTime_ne_quote_date (d : DateForm) (t : TimeForm) :
    quote (utf8 (d.text ++ " " ++ t.text)) ≠ quote (utf8 d.text) := by
  rw [ne_eq, quote_eq_quote_iff (isUnescaped_dateTime d t) (isUnescaped_dateForm d),
    ← String.toList_inj, String.append_assoc, String.toList_append, List.append_right_eq_self,
    String.toList_append]
  exact List.cons_ne_nil _ _

theorem isUnescaped_fractionText (d : DateForm) (t : TimeForm) (fraction : Option FractionForm) :
    ∀ c ∈ (d.text ++ " " ++ t.text ++ fractionText fraction).toList, IsUnescaped c := by
  cases fraction with
  | none =>
    have bare : d.text ++ " " ++ t.text ++ fractionText none = d.text ++ " " ++ t.text :=
      String.append_empty
    rw [bare]
    exact isUnescaped_dateTime d t
  | some f => exact isUnescaped_fraction d t f

/-- A time on a day has the same literal with two fractions if the calendar has it, and else if the
fractions are written in the same way. -/
theorem quote_fraction_eq_iff (d : DateForm) (t : TimeForm) (f g : Option FractionForm) :
    quote (utf8 (if d.IsValid ∧ t.IsValid then d.text ++ " " ++ t.text
      else d.text ++ " " ++ t.text ++ fractionText f)) =
    quote (utf8 (if d.IsValid ∧ t.IsValid then d.text ++ " " ++ t.text
      else d.text ++ " " ++ t.text ++ fractionText g)) ↔
    (d.IsValid ∧ t.IsValid) ∨ fractionText f = fractionText g := by
  split_ifs with valid
  · exact iff_of_true rfl (Or.inl valid)
  · rw [quote_eq_quote_iff (isUnescaped_fractionText d t f) (isUnescaped_fractionText d t g),
      or_iff_right valid]
    exact String.append_right_inj _

/-! ## Times -/

theorem literal_scan_text (s : String) :
    literal <$> ColumnClass.text.scan (some (utf8 s)) = .ok (quote (utf8 s)) := by
  change literal <$> (Value.text <$> ColumnClass.decodeAs _ (utf8 s)) = _
  rw [ColumnClass.decodeAs_utf8]
  rfl

/-- The hours of a binary value count up to 32 bits. -/
theorem cell_time (negative : Bool) (days : UInt32) (hours minutes seconds : UInt8)
    (micros : UInt32) :
    (WireValue.time negative days hours minutes seconds micros).cell =
      some (utf8 (timeText negative ((24 * days.toNat + hours.toNat) % 2 ^ 32) minutes seconds
        micros)) := by
  have total : (days * 24 + hours.toUInt32).toNat = (24 * days.toNat + hours.toNat) % 2 ^ 32 := by
    rw [UInt32.toNat_add, UInt32.toNat_mul, UInt8.toNat_toUInt32]
    change (days.toNat * 24 % 2 ^ 32 + hours.toNat) % 2 ^ 32 = _
    omega
  rw [WireValue.cell, total]
  rfl

theorem isUnescaped_padded (width n : Nat) : ∀ c ∈ (padded width n).toList, IsUnescaped c :=
  fun _ hc => isUnescaped_of_isDigit (Decimal.isDigit_of_mem_padded hc)

theorem isUnescaped_timeText (negative : Bool) (hours : Nat) (minutes seconds : UInt8)
    (micros : UInt32) :
    ∀ c ∈ (timeText negative hours minutes seconds micros).toList, IsUnescaped c := by
  have sign : ∀ c ∈ (if negative then "-" else "").toList, IsUnescaped c := by
    cases negative <;> decide
  have mark : ∀ c ∈ ":".toList, IsUnescaped c := by decide
  have clock := isUnescaped_join
    (isUnescaped_join (isUnescaped_padded 2 hours) mark (isUnescaped_padded 2 minutes.toNat)) mark
    (isUnescaped_padded 2 seconds.toNat)
  have fraction : ∀ c ∈ (if micros.toNat = 0 then "" else "." ++ padded 6 micros.toNat).toList,
      IsUnescaped c := by
    split_ifs
    · decide
    · rw [String.toList_append]
      exact List.forall_mem_append.2 ⟨by decide, isUnescaped_padded _ _⟩
  unfold timeText
  rw [String.toList_append, String.toList_append]
  exact List.forall_mem_append.2 ⟨List.forall_mem_append.2 ⟨sign, clock⟩, fraction⟩

/-- The hours are read off a time. -/
theorem timeText_eq_iff {negative : Bool} {hours hours' : Nat} {minutes seconds : UInt8}
    {micros : UInt32} :
    timeText negative hours minutes seconds micros =
      timeText negative hours' minutes seconds micros ↔ hours = hours' := by
  rw [timeText, timeText, String.append_left_inj, String.append_right_inj]
  simp only [String.append_left_inj, Decimal.padded_eq_iff]

/-! ## Both protocols -/

/-- The value of a column is scanned in both protocols, in the class that the metadata of the column
lead to.  The literals are the same just where the value has one form. -/
theorem protocols_agree_iff (v : ColumnValue) :
    (∀ c : WireColumn, c.type ∈ v.types → c.describe.cellClass = v.cellClass) ∧
    ∃ ofBinary ofText, literal <$> v.cellClass.scan v.wire.cell = .ok ofBinary ∧
      literal <$> v.cellClass.scan (some (utf8 v.text)) = .ok ofText ∧
      (ofBinary = ofText ↔ v.HasOneForm) := by
  refine ⟨fun c => WireColumn.cellClass_of_mem_types, ?_⟩
  cases v with
  | signed n => exact ⟨_, _, literal_scan_signed n, literal_scan_signed n, iff_of_true rfl trivial⟩
  | unsigned n width =>
    have ofBinary := literal_scan_padded n 0
    rw [Decimal.padded_zero] at ofBinary
    exact ⟨_, _, ofBinary, literal_scan_padded n width, iff_of_true rfl trivial⟩
  | date d =>
    rw [cell_date_midnight]
    exact ⟨_, _, literal_scan_date_dateTime d _, literal_scan_date d,
      iff_of_false (quote_dateTime_ne_quote_date d _) id⟩
  | dateTime d t fraction =>
    have cell : (ColumnValue.dateTime d t fraction).wire.cell = _ :=
      cell_date d t (fractionMicros_lt fraction)
    rw [cell, ColumnValue.cellClass, ColumnValue.text]
    refine ⟨_, _, literal_scan_dateTime d t _, literal_scan_dateTime d t fraction, ?_⟩
    rw [quote_fraction_eq_iff, fractionText_ofMicros?_iff]
    rfl
  | time negative days hours minutes seconds micros =>
    have cell : (ColumnValue.time negative days hours minutes seconds micros).wire.cell = _ :=
      cell_time negative days hours minutes seconds micros
    rw [cell, ColumnValue.cellClass, ColumnValue.text]
    refine ⟨_, _, literal_scan_text _, literal_scan_text _, ?_⟩
    rw [quote_eq_quote_iff (isUnescaped_timeText _ _ _ _ _)
      (isUnescaped_timeText _ _ _ _ _), timeText_eq_iff, Nat.mod_eq_iff_lt (by decide)]
    rfl

/-- A day that the calendar has not, with a fraction, and the last time whose hours 32 bits
count. -/
theorem protocols_agree_of_zero_date_and_long_time :
    let zero := Numeral.ofNat 2 0 (by decide) (by decide)
    let micro : FractionForm := ⟨6, Numeral.ofNat 6 1 (by decide) (by decide), by decide⟩
    let moment : ColumnValue :=
      .dateTime ⟨Numeral.ofNat 4 0 (by decide) (by decide), zero, zero⟩ .midnight (some micro)
    let time : ColumnValue := .time true 178956970 15 59 59 0
    let column : WireColumn := { name := "t", type := .time2, collation := 63 }
    moment.text = "0000-00-00 00:00:00.000001" ∧
    (∃ l, literal <$> ColumnClass.dateTime.scan moment.wire.cell = .ok l ∧
      literal <$> ColumnClass.dateTime.scan (some (utf8 moment.text)) = .ok l) ∧
    time.text = "-4294967295:59:59" ∧ column.describe.cellClass = .text ∧
    ∃ l, literal <$> ColumnClass.text.scan time.wire.cell = .ok l ∧
      literal <$> ColumnClass.text.scan (some (utf8 time.text)) = .ok l := by
  intro zero micro moment time column
  obtain ⟨-, l, l', binary, text, same⟩ := protocols_agree_iff moment
  obtain ⟨classes, k, k', binary', text', same'⟩ := protocols_agree_iff time
  have oneForm : moment.HasOneForm := by
    refine Or.inr fun f hf => ?_
    obtain rfl := Option.some.inj hf
    exact ⟨rfl, by decide⟩
  have oneForm' : time.HasOneForm := by
    change 24 * 178956970 + 15 < 2 ^ 32
    decide
  rw [← same.2 oneForm] at text
  rw [← same'.2 oneForm'] at text'
  have written : moment.text = "0000-00-00 00:00:00.000001" := by decide +kernel
  have written' : time.text = "-4294967295:59:59" := by decide +kernel
  exact ⟨written, ⟨l, binary, text⟩, written', classes column (by decide), k, binary', text'⟩

/-- A date is given a time, and so is not scanned as a date. -/
theorem protocols_disagree_on_date :
    let column : WireColumn := { name := "d", type := .date, collation := 63 }
    let binary : WireValue := .date 2024 2 29 0 0 0 0
    column.describe.cellClass = .date ∧
    literal <$> column.describe.cellClass.scan binary.cell =
      .ok (utf8 "'2024-02-29 00:00:00'") ∧
    literal <$> column.describe.cellClass.scan (some (utf8 "2024-02-29")) =
      .ok (utf8 "'2024-02-29'") ∧
    literal <$> column.describe.cellClass.scan binary.cell ≠
      literal <$> column.describe.cellClass.scan (some (utf8 "2024-02-29")) := by
  decide +kernel

end LogicalBackup
