import LogicalBackup.Column.Wire
import LogicalBackup.Proofs.Calendar.Forms
import LogicalBackup.Proofs.Value.Literal

/-!
# From cells to literals

What the literal of a scanned cell has of the cell's bytes.  A column that holds bytes or text, by
its metadata, hands on the bytes of its cells (`wire_cells_keep_bytes`).  A column of dates or times
hands on their text, whether the calendar has them or not (`temporal_cells_keep_text`).
-/

namespace LogicalBackup

namespace ColumnClass

/-! ## Texts -/

theorem decodeAs_utf8 (what s : String) : decodeAs what (utf8 s) = .ok s := by
  rw [decodeAs, Bytes.decode_eq_ok_iff.2 rfl]

theorem decodeAs_of_not_utf8 (what : String) {b : Bytes} (h : ∀ s, utf8 s ≠ b) :
    ∃ why, decodeAs what b = .error (.serialization ("invalid " ++ what ++ ": " ++ why)) := by
  unfold decodeAs
  cases found : b.decode with
  | ok s => exact absurd (Bytes.decode_eq_ok_iff.1 found) (h s)
  | error fault => exact ⟨fault.message, rfl⟩

theorem scan_date_utf8 (s : String) : date.scan (some (utf8 s)) =
    .ok (match Date.read s.toList with | some d => .date d | none => .other s) := by
  change scanDate (utf8 s) = _
  rw [scanDate, scanText, decodeAs_utf8]
  rfl

theorem scan_dateTime_utf8 (s : String) : dateTime.scan (some (utf8 s)) =
    .ok (match DateTime.read s.toList with | some m => .dateTime m | none => .other s) := by
  change scanDateTime (utf8 s) = _
  rw [scanDateTime, scanText, decodeAs_utf8]
  rfl

end ColumnClass

/-! ## Dates and times -/

theorem isUnescaped_numeral {width : Nat} (x : Decimal.Numeral width) :
    ∀ c ∈ x.text.toList, IsUnescaped c := by
  rw [x.toList_text]
  exact fun c hc => isUnescaped_of_isDigit (x.isDigit c hc)

/-- A mark stands between two parts of a date or time. -/
theorem isUnescaped_join {s t mark : String} (hs : ∀ c ∈ s.toList, IsUnescaped c)
    (hmark : ∀ c ∈ mark.toList, IsUnescaped c) (ht : ∀ c ∈ t.toList, IsUnescaped c) :
    ∀ c ∈ (s ++ mark ++ t).toList, IsUnescaped c := by
  rw [String.toList_append, String.toList_append]
  exact List.forall_mem_append.2 ⟨List.forall_mem_append.2 ⟨hs, hmark⟩, ht⟩

/-- Numerals with marks between them. -/
theorem isUnescaped_numerals {width : Nat} {mark : String} (x : Decimal.Numeral width)
    (y z : Decimal.Numeral 2) (hmark : ∀ c ∈ mark.toList, IsUnescaped c) :
    ∀ c ∈ (x.text ++ mark ++ y.text ++ mark ++ z.text).toList, IsUnescaped c :=
  isUnescaped_join (isUnescaped_join (isUnescaped_numeral x) hmark (isUnescaped_numeral y)) hmark
    (isUnescaped_numeral z)

theorem isUnescaped_dateForm (d : DateForm) : ∀ c ∈ d.text.toList, IsUnescaped c :=
  isUnescaped_numerals d.year d.month d.day (by decide)

theorem isUnescaped_dateTime (d : DateForm) (t : TimeForm) :
    ∀ c ∈ (d.text ++ " " ++ t.text).toList, IsUnescaped c :=
  isUnescaped_join (isUnescaped_dateForm d) (by decide)
    (isUnescaped_numerals t.hour t.minute t.second (by decide))

theorem isUnescaped_fraction (d : DateForm) (t : TimeForm) (f : FractionForm) :
    ∀ c ∈ (d.text ++ " " ++ t.text ++ f.text).toList, IsUnescaped c := by
  rw [FractionForm.text, ← String.append_assoc]
  exact isUnescaped_join (isUnescaped_dateTime d t) (by decide) (isUnescaped_numeral f.numeral)

theorem literal_scan_date (d : DateForm) :
    literal <$> ColumnClass.date.scan (some (utf8 d.text)) = .ok (quote (utf8 d.text)) := by
  rw [ColumnClass.scan_date_utf8]
  by_cases h : d.IsValid
  · rw [DateForm.read_text_of_isValid h]
    change Except.ok (quote (utf8 (d.date h).text)) = _
    rw [DateForm.text_date h]
  · rw [DateForm.read_text_of_not_isValid h]
    rfl

theorem literal_scan_dateTime (d : DateForm) (t : TimeForm) (fraction : Option FractionForm) :
    literal <$> ColumnClass.dateTime.scan
        (some (utf8 (d.text ++ " " ++ t.text ++ fractionText fraction))) =
      .ok (quote (utf8 (if d.IsValid ∧ t.IsValid then d.text ++ " " ++ t.text
        else d.text ++ " " ++ t.text ++ fractionText fraction))) := by
  rw [ColumnClass.scan_dateTime_utf8]
  split_ifs with h
  · obtain ⟨m, read, written⟩ := DateTime.exists_read_forms_of_isValid fraction h.1 h.2
    rw [read]
    change Except.ok (quote (utf8 m.text)) = _
    rw [written]
  · rw [DateTime.read_forms_of_not_isValid fraction h]
    rfl

/-- Cells in the form of a date or time keep their text, whether the calendar has them or not.  A
fraction of a second is left out of those that it has. -/
theorem temporal_cells_keep_text :
    (∀ d : DateForm, literal <$> ColumnClass.date.scan (some (utf8 d.text)) =
      .ok (utf8 ("'" ++ d.text ++ "'"))) ∧
    (∀ (d : DateForm) (t : TimeForm),
      literal <$> ColumnClass.dateTime.scan (some (utf8 (d.text ++ " " ++ t.text))) =
        .ok (utf8 ("'" ++ (d.text ++ " " ++ t.text) ++ "'"))) ∧
    ∀ (d : DateForm) (t : TimeForm) (f : FractionForm),
      literal <$> ColumnClass.dateTime.scan (some (utf8 (d.text ++ " " ++ t.text ++ f.text))) =
        .ok (utf8 ("'" ++ (if d.IsValid ∧ t.IsValid then d.text ++ " " ++ t.text
          else d.text ++ " " ++ t.text ++ f.text) ++ "'")) := by
  refine ⟨fun d => ?_, fun d t => ?_, fun d t f => ?_⟩
  · rw [literal_scan_date, quote_of_isUnescaped (isUnescaped_dateForm d)]
  · have whole := literal_scan_dateTime d t none
    rw [show fractionText none = "" from rfl, String.append_empty, ite_self,
      quote_of_isUnescaped (isUnescaped_dateTime d t)] at whole
    exact whole
  · have plain : ∀ c ∈ (if d.IsValid ∧ t.IsValid then d.text ++ " " ++ t.text
        else d.text ++ " " ++ t.text ++ f.text).toList, IsUnescaped c := by
      split_ifs
      · exact isUnescaped_dateTime d t
      · exact isUnescaped_fraction d t f
    rw [← quote_of_isUnescaped plain]
    exact literal_scan_dateTime d t (some f)

/-! ## Columns on the wire -/

namespace WireColumn

/-- The types of strings, whose collation tells bytes from text. -/
def stringTypes : List WireType :=
  [.varchar, .varString, .string, .enumeration, .set, .tinyBlob, .mediumBlob, .longBlob, .blob]

variable (c : WireColumn)

/-- The cells of the column are byte strings. -/
def HoldsBytes : Prop :=
  c.type ∈ stringTypes ∧ c.collation = binaryCollation ∨ c.type ∈ [.bit, .geometry]

/-- The cells of the column are texts. -/
def HoldsText : Prop :=
  c.type ∈ stringTypes ∧ c.collation ≠ binaryCollation ∨
    c.type ∈ [.json, .decimal, .newDecimal, .time, .time2]

instance : Decidable c.HoldsBytes := inferInstanceAs (Decidable (_ ∨ _))

instance : Decidable c.HoldsText := inferInstanceAs (Decidable (_ ∨ _))

variable {c}

/-- The types of strings, one by one. -/
theorem type_of_mem_stringTypes (h : c.type ∈ stringTypes) :
    c.type = .varchar ∨ c.type = .varString ∨ c.type = .string ∨ c.type = .enumeration ∨
      c.type = .set ∨ c.type = .tinyBlob ∨ c.type = .mediumBlob ∨ c.type = .longBlob ∨
      c.type = .blob := by
  simpa [stringTypes] using h

theorem kind_of_mem_stringTypes (h : c.type ∈ stringTypes) :
    c.kind = if c.isBinary then .bytes else .text := by
  unfold kind
  rcases type_of_mem_stringTypes h with h | h | h | h | h | h | h | h | h <;> rw [h]

/-- The names of the types of strings, where they hold bytes. -/
theorem typeName_of_mem_stringTypes (h : c.type ∈ stringTypes) (binary : c.isBinary) :
    c.typeName ∈ ["VARBINARY", "BINARY", "ENUM", "SET", "TINYBLOB", "MEDIUMBLOB", "LONGBLOB",
      "BLOB"] := by
  unfold typeName
  simp only [binary, if_true]
  rcases type_of_mem_stringTypes h with h | h | h | h | h | h | h | h | h <;> rw [h] <;> decide

/-- Most names of types of bytes are in no table, and then the metadata decide. -/
theorem cellClass_of_holdsBytes (h : c.HoldsBytes) :
    c.describe.cellClass = .rawBytes ∨ c.describe.cellClass = .native .bytes := by
  have named (name : String) (kind : c.kind = .bytes) (typeName : c.typeName = name)
      (known : ColumnClass.ofTypeName? name = some .rawBytes ∨
        ColumnClass.ofTypeName? name = none) :
      c.describe.cellClass = .rawBytes ∨ c.describe.cellClass = .native .bytes := by
    simp only [describe, Column.cellClass, kind, typeName]
    rcases known with known | known <;> rw [known]
    · exact Or.inl rfl
    · exact Or.inr rfl
  rcases h with ⟨string, binary⟩ | bytes
  · have binary : c.isBinary := decide_eq_true binary
    have kind : c.kind = .bytes := by rw [kind_of_mem_stringTypes string, if_pos binary]
    have known : ∀ name ∈ ["VARBINARY", "BINARY", "ENUM", "SET", "TINYBLOB", "MEDIUMBLOB",
        "LONGBLOB", "BLOB"], ColumnClass.ofTypeName? name = some .rawBytes ∨
          ColumnClass.ofTypeName? name = none := by
      decide
    exact named c.typeName kind rfl (known _ (typeName_of_mem_stringTypes string binary))
  · simp only [List.mem_cons, List.not_mem_nil, or_false] at bytes
    rcases bytes with bit | geometry
    · exact named "BIT" (by rw [kind, bit]) (by rw [typeName, bit]) (by decide)
    · exact named "GEOMETRY" (by rw [kind, geometry]) (by rw [typeName, geometry]) (by decide)

/-- A column of text is known by what its cells hold or by the name of its type. -/
theorem cellClass_of_holdsText (h : c.HoldsText) : c.describe.cellClass = .text := by
  have named (name : String) (kind : c.kind = .bytes) (typeName : c.typeName = name)
      (known : ColumnClass.ofTypeName? name = some .text) : c.describe.cellClass = .text := by
    simp only [describe, Column.cellClass, kind, typeName, known, Option.getD_some]
  rcases h with ⟨string, other⟩ | text
  · have other : ¬c.isBinary := fun binary => other (of_decide_eq_true binary)
    have kind : c.kind = .text := by rw [kind_of_mem_stringTypes string, if_neg other]
    simp only [describe, Column.cellClass, kind]
  · simp only [List.mem_cons, List.not_mem_nil, or_false] at text
    rcases text with json | decimal | decimal | time | time
    · by_cases binary : c.isBinary
      · have kind : c.kind = .bytes := by simp only [WireColumn.kind, json, binary, if_true]
        exact named "JSON" kind (by rw [typeName, json]) (by decide)
      · have kind : c.kind = .text := by
          simp only [WireColumn.kind, json, binary, Bool.false_eq_true, if_false]
        simp only [describe, Column.cellClass, kind]
    · exact named "DECIMAL" (by rw [kind, decimal]) (by rw [typeName, decimal]) (by decide)
    · exact named "DECIMAL" (by rw [kind, decimal]) (by rw [typeName, decimal]) (by decide)
    · exact named "TIME" (by rw [kind, time]) (by rw [typeName, time]) (by decide)
    · exact named "TIME" (by rw [kind, time]) (by rw [typeName, time]) (by decide)

/-- A column of bytes hands on every cell. -/
theorem literal_scan_of_holdsBytes (h : c.HoldsBytes) (cell : Cell) :
    literal <$> c.describe.cellClass.scan cell =
      .ok (match cell with
        | none | some [] => utf8 "NULL"
        | some b => utf8 "_binary " ++ quote b) := by
  rcases cell with _ | _ | ⟨x, b⟩
  · rfl
  · rcases cellClass_of_holdsBytes h with e | e <;> rw [e] <;> rfl
  · rcases cellClass_of_holdsBytes h with e | e <;> rw [e] <;> rfl

end WireColumn

/-- The bytes of a cell are the bytes of its literal, in columns of bytes and in columns of text.
What is no UTF-8 is an error in a column of text, and an empty cell is `NULL` in a column of
bytes only. -/
theorem wire_cells_keep_bytes (c : WireColumn) :
    (c.HoldsBytes → ∀ cell, literal <$> c.describe.cellClass.scan cell =
      .ok (match cell with
        | none | some [] => utf8 "NULL"
        | some b => utf8 "_binary " ++ quote b)) ∧
    (c.HoldsText →
      literal <$> c.describe.cellClass.scan none = .ok (utf8 "NULL") ∧
      (∀ s, literal <$> c.describe.cellClass.scan (some (utf8 s)) = .ok (quote (utf8 s))) ∧
      ∀ b, (∀ s, utf8 s ≠ b) → ∃ why, c.describe.cellClass.scan (some b) =
        .error (.serialization ("invalid UTF-8 in text column: " ++ why))) := by
  refine ⟨WireColumn.literal_scan_of_holdsBytes, fun h => ?_⟩
  rw [WireColumn.cellClass_of_holdsText h]
  refine ⟨rfl, fun s => ?_, fun b invalid => ?_⟩
  · have scanned : ColumnClass.text.scan (some (utf8 s)) = .ok (.text s) := by
      change Value.text <$> ColumnClass.decodeAs _ (utf8 s) = _
      rw [ColumnClass.decodeAs_utf8]
      rfl
    rw [scanned]
    rfl
  · obtain ⟨why, found⟩ := ColumnClass.decodeAs_of_not_utf8 "UTF-8 in text column" invalid
    refine ⟨why, ?_⟩
    change Value.text <$> ColumnClass.decodeAs _ b = _
    rw [found]
    rfl

theorem wire_cells_keep_bytes_of_blob_and_decimal :
    literal <$> (WireColumn.mk "b" .longBlob 0 63).describe.cellClass.scan
        (some [0xff, 0x27, 0x00]) =
      .ok (utf8 "_binary '" ++ [0xff, 0x5c, 0x27, 0x5c, 0x30, 0x27]) ∧
    literal <$> (WireColumn.mk "d" .newDecimal 0 63).describe.cellClass.scan
        (some (utf8 "-0.50")) = .ok (utf8 "'-0.50'") ∧
    ∃ why, (WireColumn.mk "d" .newDecimal 0 63).describe.cellClass.scan (some [0xff]) =
      .error (.serialization ("invalid UTF-8 in text column: " ++ why)) := by
  have invalid : ∀ s, utf8 s ≠ [0xff] := by
    intro s e
    have read := text?_utf8 s
    rw [e, (by decide : Bytes.text? [0xff] = none)] at read
    cases read
  have decimal := (wire_cells_keep_bytes (WireColumn.mk "d" .newDecimal 0 63)).2 (by decide)
  exact ⟨(wire_cells_keep_bytes (WireColumn.mk "b" .longBlob 0 63)).1 (by decide) _,
    decimal.2.1 "-0.50", decimal.2.2 [0xff] invalid⟩

end LogicalBackup
