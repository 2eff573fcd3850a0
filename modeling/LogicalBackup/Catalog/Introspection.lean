import LogicalBackup.Catalog
import LogicalBackup.Dump.Error
import LogicalBackup.Options
import LogicalBackup.Session

/-!
# Introspection

The objects of a schema are found by asking the server for its list of objects and then for the
properties of each (`introspect`).  A generated column is no effective column of an object, unless
it is stored and the options keep it.
-/

namespace LogicalBackup

/-- Whether a word stands for a keyword in capitals, in ASCII letters of either case. -/
def isKeyword (keyword : String) (word : List Char) : Bool :=
  word.map Char.toUpper == keyword.toList

/-- Whether a column with these properties belongs in a dump. -/
def isEffective (extra : String) (includeGenerated : Bool) : Bool :=
  let words := Text.words extra.toList
  !words.any (isKeyword "VIRTUAL") && (includeGenerated || !words.any (isKeyword "GENERATED"))

/-- The names of the columns that belong in a dump, in their order. -/
def effectiveColumns (entries : List ColumnEntry) (includeGenerated : Bool) : List String :=
  (entries.filter fun c => isEffective c.extra includeGenerated).map (·.name)

/-- A program that asks the server and may fail. -/
abbrev Asking (α : Type) : Type := ExceptT DumpError (Program Call.Answer) α

namespace Asking

/-- Makes a call; its fault fails the program as `wrap` says. -/
def ask (c : Call) (wrap : Fault → DumpError) : Asking c.Result :=
  ExceptT.mk <| Program.step c fun answer => .done (answer.mapError wrap)

end Asking

/-- Asks for what a dump needs to know of one object. -/
def describeObject (schema : String) (options : DumpOptions) (entry : ObjectEntry) :
    Asking SchemaObject := do
  let wrap := DumpError.object schema entry.name
  match ObjectKind.ofWords? entry.kind with
  | none => throw (.unknownObjectKind schema entry.name entry.kind)
  | some kind =>
    let entries ← Asking.ask (.listColumns schema entry.name) wrap
    let columns := effectiveColumns entries options.includeGeneratedColumns
    match kind with
    | .table => return .table { schema, name := entry.name, columns }
    | .view =>
      let createSql ← Asking.ask (.showCreateView entry.name) wrap
      let found ← Asking.ask (.viewCharset schema entry.name) wrap
      if found.viewName ≠ entry.name then
        throw (.viewCatalogMismatch schema entry.name found.viewName)
      return .view {
        schema, name := entry.name, columns, createSql
        charset := found.charset
        collation := found.collation
        definition := ViewDefinition.split createSql }

/-- Describes objects in their order, up to the first that fails. -/
def describeObjects (schema : String) (options : DumpOptions) :
    List ObjectEntry → Asking (List SchemaObject)
  | [] => return []
  | entry :: rest => do
    let object ← describeObject schema options entry
    return object :: (← describeObjects schema options rest)

/-- Finds and describes the objects of a schema in the server's order. -/
def introspect (schema : String) (options : DumpOptions) : Asking (List SchemaObject) := do
  let entries ← Asking.ask (.listObjects schema) .fault
  describeObjects schema options entries

end LogicalBackup
