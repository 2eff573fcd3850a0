/-!
# Byte strings

Statements, cells and dump files are byte strings: a binary literal may hold any byte, so none of
them need be a text.  `utf8` gives the byte string of a text, and `Bytes.text?` reads one back; the
two are inverse to each other (`text?_utf8`, `utf8_of_text?`).
-/

namespace LogicalBackup

/-- A byte string. -/
abbrev Bytes := List UInt8

namespace Byte

/-- The byte that ends lines. -/
@[match_pattern] abbrev lineFeed : UInt8 := 10

/-- The byte that may stand before the one that ends a line. -/
@[match_pattern] abbrev carriageReturn : UInt8 := 13

/-- The quotation mark that encloses a string literal. -/
@[match_pattern] abbrev quote : UInt8 := 0x27

/-- The mark of an escaped byte in a string literal. -/
@[match_pattern] abbrev backslash : UInt8 := 0x5c

/-- The end of a statement. -/
@[match_pattern] abbrev semicolon : UInt8 := 0x3b

/-- What stands between literals and between tuples. -/
@[match_pattern] abbrev comma : UInt8 := 0x2c

end Byte

/-- The byte string of a text. -/
def utf8 (s : String) : Bytes := s.toList.flatMap String.utf8EncodeChar

@[simp] theorem utf8_append (s t : String) : utf8 (s ++ t) = utf8 s ++ utf8 t := by
  simp [utf8]

theorem toByteArray_eq_utf8 (s : String) : s.toByteArray = (utf8 s).toByteArray := by
  rw [← String.utf8Encode_toList]; rfl

/-- The text that a byte string is the UTF-8 form of, if there is one. -/
def Bytes.text? (b : Bytes) : Option String := String.fromUTF8? b.toByteArray

theorem toByteArray_injective {a b : Bytes} (h : a.toByteArray = b.toByteArray) : a = b := by
  have := congrArg (fun x => x.data.toList) h
  simpa using this

theorem utf8_of_text? {b : Bytes} {s : String} (h : Bytes.text? b = some s) : utf8 s = b := by
  unfold Bytes.text? String.fromUTF8? at h
  split at h
  · next valid =>
    cases h
    have bytes := toByteArray_eq_utf8 (String.fromUTF8 b.toByteArray valid)
    change b.toByteArray = _ at bytes
    exact (toByteArray_injective bytes).symm
  · cases h

theorem text?_utf8 (s : String) : Bytes.text? (utf8 s) = some s := by
  unfold Bytes.text? String.fromUTF8?
  rw [← toByteArray_eq_utf8, dif_pos s.isValidUTF8]
  rfl

theorem utf8_injective {s t : String} (h : utf8 s = utf8 t) : s = t := by
  have := text?_utf8 t
  rw [← h, text?_utf8] at this
  exact Option.some.inj this

end LogicalBackup
