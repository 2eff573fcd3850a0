import LogicalBackup.Column.Wire

/-!
# Statements and replies

What is said to a server in SQL, and what it says in return.  A session begins with a login; each
`Statement` after it has one `Reply`.
-/

namespace LogicalBackup

/-- A statement, which is either sent as it is or prepared and given parameters. -/
structure Statement where
  sql : Bytes
  parameters : Option (List String) := none
  deriving DecidableEq, Repr

namespace Statement

/-- The statement that is sent as it is. -/
def plain (sql : String) : Statement := { sql := utf8 sql }

/-- The statement that is prepared and given parameters. -/
def prepared (sql : String) (parameters : List String) : Statement :=
  { sql := utf8 sql, parameters := some parameters }

end Statement

/-- An error that a server reports. -/
structure ServerError where
  code : Nat
  /-- The class of the error, such as `42000`. -/
  state : String
  message : String
  deriving DecidableEq, Repr

/-- The form in which an error is shown. -/
def ServerError.shown (e : ServerError) : String :=
  "Server error: `ERROR " ++ e.state ++ " (" ++ Decimal.ofNat e.code ++ "): " ++ e.message ++ "'"

/-- A result set as it arrives: the columns, then the rows, and then perhaps an error. -/
structure WireRows where
  columns : List WireColumn
  rows : List (List Cell)
  failure : Option ServerError := none
  deriving DecidableEq, Repr

/-- What a server says to a statement. -/
inductive Reply where
  /-- The statement is done, and that many rows are affected. -/
  | done (affected : UInt64)
  | failed (error : ServerError)
  | rows (result : WireRows)
  deriving DecidableEq, Repr

/-- What a session says to a server. -/
inductive StatementOp where
  | login
  | say (statement : Statement)
  deriving DecidableEq, Repr

/-- What a session gets in return. -/
abbrev StatementOp.Reply : StatementOp → Type
  | login => Except ServerError Unit
  | say _ => LogicalBackup.Reply

end LogicalBackup
