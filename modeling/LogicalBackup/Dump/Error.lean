import LogicalBackup.Fault
import LogicalBackup.Number.Decimal
import LogicalBackup.Text.Quoted

/-!
# Errors of a dump

The causes for which a dump fails, each with the object, schema or target it belongs to.
-/

namespace LogicalBackup

/-- Why a dump fails. -/
inductive DumpError where
  /-- The request cannot be met. -/
  | configuration (text : String)
  /-- The server lists an object of a kind that cannot be dumped. -/
  | unknownObjectKind (schema object kind : String)
  /-- The catalog of views answered for another view. -/
  | viewCatalogMismatch (schema view found : String)
  /-- An object could not be read or written. -/
  | object (schema object : String) (source : Fault)
  /-- A schema could not be dumped. -/
  | schema (schema : String) (source : DumpError)
  /-- The sink failed. -/
  | io (source : IoFault)
  /-- A target came to no end of its own. -/
  | worker (text : String)
  /-- Of the targets of a run, `total` in number, some failed. -/
  | aggregate (total : Nat) (errors : List DumpError)
  /-- A fault of a call or of the options. -/
  | fault (source : Fault)
  deriving Repr

namespace DumpError

mutual

/-- The text of an error, with the texts of its causes. -/
def message : DumpError → String
  | configuration text => "Configuration error: " ++ text
  | unknownObjectKind name objectName kind =>
    "Unsupported object kind " ++ Text.quoted kind ++ " for " ++ name ++ "." ++ objectName
  | viewCatalogMismatch name view found =>
    "View catalog returned " ++ Text.quoted found ++ " when asked for " ++ name ++ "." ++ view
  | object name objectName source =>
    "Failed to dump " ++ name ++ "." ++ objectName ++ ": " ++ source.message
  | schema name source => "Failed to dump schema " ++ name ++ ": " ++ source.message
  | io source => "IO error: " ++ source.message
  | worker text => "Dump worker failed: " ++ text
  | aggregate total errors =>
    Decimal.ofNat errors.length ++ " of " ++ Decimal.ofNat total ++ " dump targets failed: " ++
      String.intercalate "; " (messages errors)
  | fault source => source.message

/-- The texts of errors in their order. -/
def messages : List DumpError → List String
  | [] => []
  | e :: rest => e.message :: messages rest

end

/-- The schema that an error belongs to, if it belongs to one. -/
def schema? : DumpError → Option String
  | unknownObjectKind name .. | viewCatalogMismatch name .. | object name .. | schema name .. =>
    some name
  | _ => none

/-- The errors of the targets of a run, or the error itself. -/
def failures : DumpError → List DumpError
  | aggregate _ errors => errors
  | e => [e]

end DumpError

end LogicalBackup
