import LogicalBackup.Identifier
import LogicalBackup.Session
import LogicalBackup.Statement

/-!
# The statements of a session

Each call of a session is a program of statements (`Call.statements`), so whatever replies to
statements is a server (`Server.ofStatements`).
-/

namespace LogicalBackup

/-- A program that runs statements and may fail. -/
abbrev Speaking (α : Type) : Type := ExceptT Fault (Program StatementOp.Reply) α

/-- The fault of an error of the server, where `what` says what could not be done. -/
def ServerError.toFault (kind : String → Fault) (what : String) (e : ServerError) : Fault :=
  kind (what ++ ": " ++ e.shown)

namespace Speaking

/-- Logs in. -/
def login (wrap : ServerError → Fault) : Speaking Unit :=
  ExceptT.mk <| Program.step .login fun result => .done (result.mapError wrap)

/-- Runs a statement; an error of the server fails the program as `wrap` says. -/
def say (wrap : ServerError → Fault) (statement : Statement) : Speaking Reply :=
  ExceptT.mk <| Program.step (.say statement) fun
    | .failed e => .done (.error (wrap e))
    | reply => .done (.ok reply)

/-- Runs a statement and receives all of its rows.  The result is their number for those that are
affected, and the rows themselves for those that are delivered. -/
def sayWhole (wrap : ServerError → Fault) (statement : Statement) :
    Speaking (UInt64 × List (List Cell)) := do
  match ← say wrap statement with
  | .rows { rows, failure := none, .. } => return (0, rows)
  | .rows { failure := some e, .. } | .failed e => throw (wrap e)
  | .done affected => return (affected, [])

/-- Runs a statement for its effect. -/
def command (wrap : ServerError → Fault) (statement : Statement) : Speaking Unit := do
  let _ ← sayWhole wrap statement

/-- The texts of a row, unless one is no text. -/
def texts? (row : List Cell) : Option (List (Option String)) :=
  row.mapM fun
    | none => some none
    | some b => b.text?.map some

/-- Reads a row of texts. -/
def readRow {α : Type} (read : List (Option String) → Option α) (row : List Cell) : Speaking α :=
  match (texts? row).bind read with
  | some a => return a
  | none => throw (.query "Server returned an unexpected row")

/-- Runs a statement and reads all of its rows. -/
def readAll {α : Type} (wrap : ServerError → Fault) (read : List (Option String) → Option α)
    (statement : Statement) : Speaking (List α) := do
  let (_, rows) ← sayWhole wrap statement
  rows.mapM (readRow read)

/-- Runs a statement and reads its first row, without which it fails as `missing` says. -/
def readFirst {α : Type} (wrap : ServerError → Fault) (missing : Fault)
    (read : List (Option String) → Option α) (statement : Statement) : Speaking α := do
  match ← sayWhole wrap statement with
  | (_, row :: _) => readRow read row
  | (_, []) => throw missing

/-- Logs in and begins a transaction.  The first statement that fails ends this. -/
def begin (statements : List String) : Speaking Unit := do
  let wrap := ServerError.toFault .transaction "Failed to begin transaction"
  login wrap
  statements.forM fun sql => command wrap (.plain sql)

end Speaking

open Speaking in
/-- The program of a call. -/
def Call.statements : (c : Call) → Speaking c.Result
  | .listSchemas => do
    login (ServerError.toFault .connection "Failed to get MySQL connection")
    readAll (ServerError.toFault .query "Failed to list databases")
      (fun
        | [some name] => some name
        | _ => none)
      (.plain "SHOW DATABASES")
  | .beginSnapshot =>
    begin ["SET TRANSACTION ISOLATION LEVEL REPEATABLE READ", "SET TRANSACTION READ ONLY",
      "START TRANSACTION WITH CONSISTENT SNAPSHOT"]
  | .useSchema schema =>
    command (ServerError.toFault .schema ("Failed to select database " ++ schema))
      (.plain ("USE " ++ quoteIdentifier schema))
  | .serverInfo =>
    readFirst (ServerError.toFault .query "Failed to query server info")
      (.query "Server returned no version information")
      (fun
        | [some version, charset, collation] =>
          some { version, charset := charset.getD "utf8mb4", collation := collation.getD "" }
        | _ => none)
      (.plain "SELECT VERSION(), @@character_set_database, @@collation_database")
  | .listObjects schema =>
    readAll (ServerError.toFault .query ("Failed to list tables of " ++ schema))
      (fun
        | [some name, some kind] => some { name, kind }
        | _ => none)
      (.plain ("SHOW FULL TABLES FROM " ++ quoteIdentifier schema))
  | .listColumns schema object =>
    readAll (ServerError.toFault .query ("Failed to list columns of " ++ schema ++ "." ++ object))
      (fun
        | [some name, extra] => some { name, extra := extra.getD "" }
        | _ => none)
      (.prepared ("SELECT COLUMN_NAME, EXTRA FROM INFORMATION_SCHEMA.COLUMNS " ++
        "WHERE TABLE_SCHEMA = ? AND TABLE_NAME = ? ORDER BY ORDINAL_POSITION") [schema, object])
  | .showCreateTable table =>
    readFirst (ServerError.toFault .query ("Failed to show create table " ++ table))
      (.schema ("No CREATE TABLE returned for " ++ table))
      (fun
        | [some _, createSql] => createSql
        | _ => none)
      (.plain ("SHOW CREATE TABLE " ++ quoteIdentifier table))
  | .showCreateView view =>
    readFirst (ServerError.toFault .query ("Failed to show create view " ++ view))
      (.schema ("No CREATE VIEW returned for " ++ view))
      (fun
        | [some _, createSql, some _, some _] => createSql
        | _ => none)
      (.plain ("SHOW CREATE VIEW " ++ quoteIdentifier view))
  | .viewCharset schema view =>
    readFirst
      (ServerError.toFault .query ("Failed to query charset of view " ++ schema ++ "." ++ view))
      (.schema ("View " ++ schema ++ "." ++ view ++ " is missing from the view catalog"))
      (fun
        | [some viewName, some charset, some collation] => some { viewName, charset, collation }
        | _ => none)
      (.prepared ("SELECT TABLE_NAME, CHARACTER_SET_CLIENT, COLLATION_CONNECTION " ++
        "FROM INFORMATION_SCHEMA.VIEWS WHERE TABLE_SCHEMA = ? AND TABLE_NAME = ?") [schema, view])
  | .execute sql => command (ServerError.toFault .query "Failed to execute statement") (.plain sql)
  | .select sql => do
    match ← say (ServerError.toFault .query "Failed to execute query") (.plain sql) with
    | .rows { columns, rows, failure } =>
      return {
        columns := columns.map WireColumn.describe
        rows
        failure := failure.map (ServerError.toFault .query "Failed to fetch row") }
    | _ => return { columns := [], rows := [] }
  | .endSnapshot =>
    command (ServerError.toFault .transaction "Failed to end snapshot") (.plain "ROLLBACK")
  | .beginRestore =>
    begin ["SET TRANSACTION ISOLATION LEVEL SERIALIZABLE", "START TRANSACTION"]
  | .apply statement => do
    let (affected, _) ←
      sayWhole (ServerError.toFault .query "Failed to execute statement") { sql := statement }
    return affected
  | .commit =>
    command (ServerError.toFault .transaction "Failed to commit transaction") (.plain "COMMIT")
  | .rollback =>
    command (ServerError.toFault .transaction "Failed to rollback transaction") (.plain "ROLLBACK")

/-- The server that replies to statements as `answer` says. -/
def Server.ofStatements {σ : Type} (answer : (op : StatementOp) → σ → op.Reply × σ) : Server σ :=
  fun c s => Program.run answer c.statements.run s

end LogicalBackup
