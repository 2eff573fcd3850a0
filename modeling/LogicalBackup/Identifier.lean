/-!
# Identifiers

The name of a schema, a table, a view or a column stands between backticks in a statement, with
every backtick of the name written twice.
-/

namespace LogicalBackup

/-- The character that encloses identifiers. -/
def backtick : Char := Char.ofNat 0x60

/-- The form of one character of a name. -/
def identifierChar (c : Char) : List Char := if c = backtick then [backtick, backtick] else [c]

/-- A name as an identifier of a statement. -/
def quoteIdentifier (name : String) : String :=
  "`" ++ String.ofList (name.toList.flatMap identifierChar) ++ "`"

end LogicalBackup
