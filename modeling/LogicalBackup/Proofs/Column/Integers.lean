import LogicalBackup.Column
import LogicalBackup.Proofs.Column.Scanning
import LogicalBackup.Proofs.Number.Integer

/-!
# Cells that hold integers

A column of integers takes the texts of digits, with or without a sign, whose integer has a place in
64 bits, with a sign of its own or without one.  Its literal is that integer in canonical form, and
is scanned as the same value again (`integer_cells_keep_value`).
-/

namespace LogicalBackup

open Decimal (IntegerForm readInt readInt_text readInt_eq_some_iff)

/-- The integers of 64 bits, with a sign or without. -/
def FitsWord (n : Int) : Prop := -2 ^ 63 ≤ n ∧ n ≤ 2 ^ 64 - 1

instance (n : Int) : Decidable (FitsWord n) := inferInstanceAs (Decidable (_ ∧ _))

/-- The value that stands for an integer of 64 bits. -/
def Value.ofInteger (n : Int) : Value :=
  if n < 2 ^ 63 then .int64 (Int64.ofInt n) else .uint64 (UInt64.ofNat n.toNat)

theorem Value.literal_ofInteger {n : Int} (h : FitsWord n) :
    literal (.ofInteger n) = utf8 (Decimal.ofInt n) := by
  obtain ⟨low, high⟩ := h
  unfold ofInteger
  split_ifs with signed
  · have same : (Int64.ofInt n).toInt = n := Int64.toInt_ofInt_of_le low signed
    rw [literal, same]
  · have same : (UInt64.ofNat n.toNat).toNat = n.toNat := UInt64.toNat_ofNat_of_lt' (by
      change n.toNat < 2 ^ 64
      omega)
    have natural : Decimal.ofInt n = Decimal.ofNat n.toNat := by
      rw [Decimal.ofInt, if_neg (by omega), show n.natAbs = n.toNat by omega]
    rw [literal, same, natural]

namespace ColumnClass

/-- The classes of columns that hold integers. -/
def integers : List ColumnClass := [.integer, .native .signedInteger, .native .unsignedInteger]

theorem scan_of_mem_integers {c : ColumnClass} (h : c ∈ integers) (b : Bytes) :
    c.scan (some b) = scanInteger b := by
  have cases : c = .integer ∨ c = .native .signedInteger ∨ c = .native .unsignedInteger := by
    simpa [integers] using h
  rcases cases with rfl | rfl | rfl <;> rfl

/-- The bounds of both ranges, in numbers. -/
theorem integerValue?_eq (n : Int) : integerValue? n =
    if -2 ^ 63 ≤ n ∧ n ≤ 2 ^ 63 - 1 then some (.int64 (Int64.ofInt n))
    else if 0 ≤ n ∧ n < 2 ^ 64 then some (.uint64 (UInt64.ofNat n.toNat))
    else none := by
  have least : Int64.minValue.toInt = -2 ^ 63 := by decide
  have greatest : Int64.maxValue.toInt = 2 ^ 63 - 1 := by decide
  have size : (UInt64.size : Int) = 2 ^ 64 := by decide
  rw [integerValue?, least, greatest, size]

theorem integerValue?_of_fits {n : Int} (h : FitsWord n) :
    integerValue? n = some (.ofInteger n) := by
  obtain ⟨low, high⟩ := h
  rw [integerValue?_eq, Value.ofInteger]
  by_cases signed : n < 2 ^ 63
  · rw [if_pos ⟨low, by omega⟩, if_pos signed]
  · rw [if_neg (by omega), if_pos (by omega), if_neg signed]

theorem integerValue?_of_not_fits {n : Int} (h : ¬FitsWord n) : integerValue? n = none := by
  rw [FitsWord] at h
  rw [integerValue?_eq, if_neg (by omega), if_neg (by omega)]

theorem scanInteger_utf8 (s : String) :
    scanInteger (utf8 s) = match (readInt s.toList).bind integerValue? with
      | some v => .ok v
      | none => .error (notScanned s "an integer") := by
  unfold scanInteger
  rw [decodeAs_utf8]
  change (match (readInt s.toList).bind integerValue? with
    | some v => pure v
    | none => throw (notScanned s "an integer")) = _
  cases (readInt s.toList).bind integerValue? <;> rfl

theorem scanInteger_text {f : IntegerForm} (h : FitsWord f.value) :
    scanInteger (utf8 f.text) = .ok (.ofInteger f.value) := by
  rw [scanInteger_utf8, readInt_text, Option.bind_some, integerValue?_of_fits h]

/-- A text is refused that has not the form of an integer, or of one that is too large. -/
theorem scanInteger_of_not_form {s : String}
    (h : ∀ f : IntegerForm, f.text = s → ¬FitsWord f.value) :
    scanInteger (utf8 s) = .error (notScanned s "an integer") := by
  have none : (readInt s.toList).bind integerValue? = none := by
    rw [Option.bind_eq_none_iff]
    intro n hn
    obtain ⟨f, text, rfl⟩ := readInt_eq_some_iff.1 hn
    exact integerValue?_of_not_fits (h f (String.toList_inj.1 text))
  rw [scanInteger_utf8, none]

theorem scanInteger_of_not_utf8 {b : Bytes} (h : ∀ s, utf8 s ≠ b) :
    ∃ why, scanInteger b = .error (.serialization ("invalid integer bytes: " ++ why)) := by
  obtain ⟨why, found⟩ := decodeAs_of_not_utf8 "integer bytes" h
  refine ⟨why, ?_⟩
  unfold scanInteger
  rw [found]
  rfl

/-- Just the forms of integers of 64 bits are scanned. -/
theorem scanInteger_eq_ok_iff {b : Bytes} {v : Value} : scanInteger b = .ok v ↔
    ∃ f : IntegerForm, b = utf8 f.text ∧ FitsWord f.value ∧ v = .ofInteger f.value := by
  constructor
  · intro h
    by_cases text : ∃ s, utf8 s = b
    · obtain ⟨s, rfl⟩ := text
      by_cases form : ∃ f : IntegerForm, f.text = s ∧ FitsWord f.value
      · obtain ⟨f, rfl, fits⟩ := form
        rw [scanInteger_text fits] at h
        exact ⟨f, rfl, fits, (Except.ok.inj h).symm⟩
      · rw [scanInteger_of_not_form fun f same fits => form ⟨f, same, fits⟩] at h
        cases h
    · obtain ⟨why, found⟩ := scanInteger_of_not_utf8 fun s same => text ⟨s, same⟩
      rw [found] at h
      cases h
  · rintro ⟨f, rfl, fits, rfl⟩
    exact scanInteger_text fits

end ColumnClass

/-- A cell of integers is scanned if it has the form of an integer of 64 bits, and then as that
integer.  The literal is its canonical form, and is scanned as the same value again.  All other
cells are errors. -/
theorem integer_cells_keep_value {c : ColumnClass} (h : c ∈ ColumnClass.integers) :
    (∀ b v, c.scan (some b) = .ok v ↔
      ∃ f : IntegerForm, b = utf8 f.text ∧ FitsWord f.value ∧ v = .ofInteger f.value) ∧
    (∀ n, FitsWord n → ∃ f : IntegerForm, f.IsCanonical ∧ f.value = n ∧
      literal (.ofInteger n) = utf8 f.text ∧
      c.scan (some (literal (.ofInteger n))) = .ok (.ofInteger n)) ∧
    (∀ s, (∀ f : IntegerForm, f.text = s → ¬FitsWord f.value) →
      c.scan (some (utf8 s)) =
        .error (.serialization ("cannot scan " ++ Text.quoted s ++ " as an integer"))) ∧
    ∀ b, (∀ s, utf8 s ≠ b) → ∃ why,
      c.scan (some b) = .error (.serialization ("invalid integer bytes: " ++ why)) := by
  simp only [ColumnClass.scan_of_mem_integers h]
  refine ⟨fun b v => ColumnClass.scanInteger_eq_ok_iff, fun n fits => ?_, fun s other => ?_,
    fun b => ColumnClass.scanInteger_of_not_utf8⟩
  · have value := IntegerForm.value_ofInt n
    have written : literal (.ofInteger n) = utf8 (IntegerForm.ofInt n).text := by
      rw [Value.literal_ofInteger fits, IntegerForm.text_ofInt]
    have scanned := ColumnClass.scanInteger_text (f := IntegerForm.ofInt n) (by rwa [value])
    rw [value, ← written] at scanned
    exact ⟨IntegerForm.ofInt n, IntegerForm.isCanonical_ofInt n, value, written, scanned⟩
  · rw [ColumnClass.scanInteger_of_not_form other, ColumnClass.notScanned, String.append_assoc]
    rfl

/-- The greatest integer is scanned behind a sign and a zero, and the next one is refused. -/
theorem integer_cells_keep_greatest :
    ColumnClass.integer.scan (some (utf8 "+018446744073709551615")) =
      .ok (.uint64 18446744073709551615) ∧
    ColumnClass.integer.scan (some (utf8 "18446744073709551616")) =
      .error (.serialization ("cannot scan " ++ Text.quoted "18446744073709551616" ++
        " as an integer")) ∧
    ∃ why, ColumnClass.integer.scan (some [0x31, 0xff]) =
      .error (.serialization ("invalid integer bytes: " ++ why)) := by
  have integer : ColumnClass.integer ∈ ColumnClass.integers := by decide
  obtain ⟨scanned, -, refused, invalid⟩ := integer_cells_keep_value integer
  refine ⟨(scanned _ _).2 ⟨⟨.plus, "018446744073709551615".toList, by decide, by decide⟩, rfl,
    by decide, by decide +kernel⟩, refused _ fun f same fits => ?_, invalid _ fun s same => ?_⟩
  · have read := readInt_text f
    rw [same, show readInt "18446744073709551616".toList = some (2 ^ 64) by decide +kernel,
      Option.some.injEq] at read
    exact absurd fits (read ▸ by decide)
  · have read := text?_utf8 s
    rw [same, show Bytes.text? [0x31, 0xff] = none by decide] at read
    cases read

end LogicalBackup
