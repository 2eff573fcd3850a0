import LogicalBackup.Catalog.ViewDefinition
import LogicalBackup.Identifier

/-!
# Tables and views

The objects of a schema that a dump holds, each with its effective columns, and the statements that
read, fill and lock tables.
-/

namespace LogicalBackup

/-- The kinds of objects that can be dumped. -/
inductive ObjectKind where
  | table
  | view
  deriving DecidableEq, Repr

/-- The kind that the server's words stand for. -/
def ObjectKind.ofWords? (kind : String) : Option ObjectKind :=
  if kind = "BASE TABLE" then some .table
  else if kind = "VIEW" then some .view
  else none

/-- A table with its effective columns. -/
structure Table where
  schema : String := ""
  name : String
  columns : List String := []
  deriving DecidableEq, Repr

/-- A view with what its stub and its definition are made from. -/
structure View where
  schema : String := ""
  name : String
  columns : List String := []
  charset : String := ""
  collation : String := ""
  createSql : String := ""
  definition : Option ViewDefinition := none
  deriving DecidableEq, Repr

/-- An object of a schema, as it is dumped. -/
inductive SchemaObject where
  | table (t : Table)
  | view (v : View)
  deriving DecidableEq, Repr

/-- The object's table, if it is one. -/
def SchemaObject.table? : SchemaObject → Option Table
  | table t => some t
  | view _ => none

/-- Names as identifiers with commas between them. -/
def quoteIdentifiers (names : List String) : String :=
  String.intercalate ", " (names.map quoteIdentifier)

namespace Table

/-- The query of the effective columns in their order. -/
def selectSql (t : Table) : String :=
  "SELECT " ++ quoteIdentifiers t.columns ++ " FROM " ++ quoteIdentifier t.name

/-- What each `INSERT` statement of the table begins with. -/
def insertStem (t : Table) : String :=
  "INSERT INTO " ++ quoteIdentifier t.name ++ " (" ++ quoteIdentifiers t.columns ++ ") VALUES "

/-- The statement that keeps tables from being changed. -/
def lockSql (tables : List Table) : String :=
  "LOCK TABLES " ++
    String.intercalate ", " (tables.map fun t => quoteIdentifier t.name ++ " READ")

end Table

/-- The statement that ends the locks. -/
def unlockSql : String := "UNLOCK TABLES"

end LogicalBackup
