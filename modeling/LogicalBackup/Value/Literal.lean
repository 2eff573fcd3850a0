import LogicalBackup.Value

/-!
# Literals

The SQL literal of a value.  Strings and bytes stand between quotation marks, with eight bytes
marked by a backslash (`escape`); a binary literal keeps all other bytes as they are, so a literal
is a byte string.  `renderRow` makes the tuple of a row.
-/

namespace LogicalBackup

/-- The form of one byte inside a string literal. -/
def escapeByte (b : UInt8) : Bytes :=
  if b = 0 then utf8 "\\0"
  else if b = Byte.quote then utf8 "\\'"
  else if b = 0x22 then utf8 "\\\""
  else if b = 0x08 then utf8 "\\b"
  else if b = Byte.lineFeed then utf8 "\\n"
  else if b = Byte.carriageReturn then utf8 "\\r"
  else if b = 0x1a then utf8 "\\Z"
  else if b = Byte.backslash then utf8 "\\\\"
  else [b]

/-- The form of a byte string inside a string literal. -/
def escape (b : Bytes) : Bytes := b.flatMap escapeByte

/-- The string literal of a byte string. -/
def quote (b : Bytes) : Bytes := Byte.quote :: (escape b ++ [Byte.quote])

/-- The literal of a value.  Bytes carry the binary introducer, and the empty byte string is
`NULL`; times are written to the second. -/
def literal : Value → Bytes
  | .null => utf8 "NULL"
  | .bool b => utf8 (if b then "1" else "0")
  | .int64 n => utf8 (Decimal.ofInt n.toInt)
  | .uint64 n => utf8 (Decimal.ofNat n.toNat)
  | .float64 x => utf8 x.text
  | .text s => quote (utf8 s)
  | .bytes b => if b.isEmpty then utf8 "NULL" else utf8 "_binary " ++ quote b
  | .date d => quote (utf8 d.text)
  | .dateTime m => quote (utf8 m.text)
  | .other s => quote (utf8 s)

/-- Appends the form of a byte string inside a string literal to a buffer. -/
def escapeInto (out b : Bytes) : Bytes := b.foldl (fun out x => out ++ escapeByte x) out

/-- Appends the string literal of a byte string to a buffer. -/
def quoteInto (out b : Bytes) : Bytes := escapeInto (out ++ [Byte.quote]) b ++ [Byte.quote]

/-- Appends the literal of a value to a buffer. -/
def writeLiteral (out : Bytes) : Value → Bytes
  | .null => out ++ utf8 "NULL"
  | .bool b => out ++ utf8 (if b then "1" else "0")
  | .int64 n => out ++ utf8 (Decimal.ofInt n.toInt)
  | .uint64 n => out ++ utf8 (Decimal.ofNat n.toNat)
  | .float64 x => out ++ utf8 x.text
  | .text s => quoteInto out (utf8 s)
  | .bytes b => if b.isEmpty then out ++ utf8 "NULL" else quoteInto (out ++ utf8 "_binary ") b
  | .date d => quoteInto out (utf8 d.text)
  | .dateTime m => quoteInto out (utf8 m.text)
  | .other s => quoteInto out (utf8 s)

/-- The tuple of a row: its literals between parentheses, with commas between them. -/
def renderRow (values : List Value) : Bytes :=
  utf8 "(" ++ [Byte.comma].intercalate (values.map literal) ++ utf8 ")"

end LogicalBackup
