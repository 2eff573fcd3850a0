import LogicalBackup.Text.Printable

/-!
# Quoted texts

The form in which messages show a name: between double quotes, with quotes and backslashes marked by
a backslash, four controls by a letter, and every other character that is not printable by its code
point in braces.
-/

namespace LogicalBackup.Text

/-- The hexadecimal form of a number, in lower case. -/
def hex (n : Nat) : String := String.ofList (Nat.toDigits 16 n)

/-- The form of one character between the quotes. -/
def quotedChar (c : Char) : String :=
  if c.toNat = 0x22 then "\\\""
  else if c.toNat = 0x5c then "\\\\"
  else if c.toNat = 0 then "\\0"
  else if c = '\t' then "\\t"
  else if c = '\n' then "\\n"
  else if c = '\r' then "\\r"
  else if isPrintable c then String.singleton c
  else "\\u\x7b" ++ hex c.toNat ++ "\x7d"

/-- The quoted form of a text. -/
def quoted (s : String) : String :=
  "\"" ++ String.join (s.toList.map quotedChar) ++ "\""

/-- Texts in their quoted form, as a list between square brackets. -/
def quotedList (names : List String) : String :=
  "[" ++ String.intercalate ", " (names.map quoted) ++ "]"

end LogicalBackup.Text
