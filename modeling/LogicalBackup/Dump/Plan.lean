import LogicalBackup.Catalog.Introspection

/-!
# Planning a dump

A request names schemas, or none to mean all that are not the system's, and has a list of sinks.
`Dump.plan` makes targets of it: one for all schemas if there is one sink, else one for each
schema.
-/

namespace LogicalBackup

/-- Schemas that are dumped one after another into one sink. -/
structure Target (ω : Type) where
  schemas : List String
  sink : ω
  deriving DecidableEq, Repr

/-- The form in which a target is shown. -/
def Target.shown {ω : Type} (t : Target ω) : String :=
  "DumpTarget \x7b schemas: " ++ Text.quotedList t.schemas ++ ", .. \x7d"

namespace Dump

/-- The schemas that the server keeps for itself, in lower case. -/
def systemSchemas : List String := ["information_schema", "mysql", "performance_schema", "sys"]

/-- Whether a schema belongs to the system, in ASCII letters of either case. -/
def isSystemSchema (name : String) : Bool :=
  systemSchemas.any fun s => s.toList == name.toList.map Char.toLower

/-- The reason for which a name is no name of a schema. -/
def schemaNameFault? (name : String) : Option DumpError :=
  if name.isEmpty then some (.configuration "schema name must not be empty")
  else if name.toList.contains (Char.ofNat 0) then
    some (.configuration ("schema name " ++ Text.quoted name ++ " contains a NUL character"))
  else none

/-- Accepts names that can all be names of schemas. -/
def validateSchemaNames (names : List String) : Except DumpError Unit :=
  match names.findSome? schemaNameFault? with
  | some e => .error e
  | none => .ok ()

/-- The schemas on the server that are not the system's, in the server's order. -/
def listUserSchemas : Asking (List String) := do
  let schemas ← Asking.ask .listSchemas .fault
  return schemas.filter (!isSystemSchema ·)

/-- The targets of schemas and sinks, which one sink or one sink for each schema makes. -/
def pair {ω : Type} (schemas : List String) : List ω → Except DumpError (List (Target ω))
  | [sink] => .ok [⟨schemas, sink⟩]
  | sinks =>
    if sinks.length = schemas.length then
      .ok (schemas.zipWith (fun schema sink => ⟨[schema], sink⟩) sinks)
    else .error <| .configuration <|
      Decimal.ofNat sinks.length ++ " sinks cannot be paired with " ++
        Decimal.ofNat schemas.length ++ " schemas"

/-- Makes targets of a request. -/
def plan {ω : Type} (schemas : List String) (sinks : List ω) : Asking (List (Target ω)) := do
  if sinks.isEmpty then throw (.configuration "at least one sink is required")
  ExceptT.mk (pure (validateSchemaNames schemas))
  let schemas ← if schemas.isEmpty then listUserSchemas else pure schemas
  ExceptT.mk (pure (pair schemas sinks))

end Dump

end LogicalBackup
