import LogicalBackup.Bytes

/-!
# Faults of UTF-8

A byte string that is the UTF-8 form of no text has a first fault: either some bytes from which no
character can come, or the start of a character at the very end.  `Bytes.decode` reads a text and
reports that fault.
-/

namespace LogicalBackup

/-- Why a byte string is no UTF-8, and at which index. -/
inductive Utf8Fault where
  /-- The first `length` bytes from `index` begin no character. -/
  | invalid (length index : Nat)
  /-- The bytes from `index` to the end are the start of a character. -/
  | incomplete (index : Nat)
  deriving DecidableEq, Repr

namespace Utf8Fault

/-- The text of a fault. -/
def message : Utf8Fault → String
  | invalid length index => s!"invalid utf-8 sequence of {length} bytes from index {index}"
  | incomplete index => s!"incomplete utf-8 byte sequence from index {index}"

/-- The ranges of the bytes that must follow the first byte of a character. -/
def followers (first : UInt8) : Option (List (UInt8 × UInt8)) :=
  let tail : UInt8 × UInt8 := (0x80, 0xbf)
  if first ≤ 0x7f then some []
  else if first < 0xc2 then none
  else if first ≤ 0xdf then some [tail]
  else if first = 0xe0 then some [(0xa0, 0xbf), tail]
  else if first = 0xed then some [(0x80, 0x9f), tail]
  else if first ≤ 0xef then some [tail, tail]
  else if first = 0xf0 then some [(0x90, 0xbf), tail, tail]
  else if first ≤ 0xf3 then some [tail, tail, tail]
  else if first = 0xf4 then some [(0x80, 0x8f), tail, tail]
  else none

/-- The first fault of `bytes`, of which the character begun at `index` has `seen` bytes so far and
still expects bytes of the ranges `expected`. -/
def findFrom (index seen : Nat) (expected : List (UInt8 × UInt8)) : Bytes → Option Utf8Fault
  | [] => if expected.isEmpty then none else some (incomplete index)
  | b :: rest =>
    match expected with
    | [] =>
      match followers b with
      | none => some (invalid 1 index)
      | some [] => findFrom (index + 1) 0 [] rest
      | some ranges => findFrom index 1 ranges rest
    | (low, high) :: more =>
      if low ≤ b ∧ b ≤ high then
        if more.isEmpty then findFrom (index + seen + 1) 0 [] rest
        else findFrom index (seen + 1) more rest
      else some (invalid seen index)

/-- The first fault of a byte string that is no UTF-8. -/
def find (bytes : Bytes) : Utf8Fault := (findFrom 0 0 [] bytes).getD (incomplete bytes.length)

end Utf8Fault

/-- Reads a text from its UTF-8 form. -/
def Bytes.decode (b : Bytes) : Except Utf8Fault String :=
  match b.text? with
  | some s => .ok s
  | none => .error (Utf8Fault.find b)

theorem Bytes.decode_eq_ok_iff {b : Bytes} {s : String} : b.decode = .ok s ↔ utf8 s = b := by
  constructor
  · intro h
    unfold Bytes.decode at h
    split at h
    · next found => cases h; exact utf8_of_text? found
    · cases h
  · rintro rfl
    simp [Bytes.decode, text?_utf8]

end LogicalBackup
