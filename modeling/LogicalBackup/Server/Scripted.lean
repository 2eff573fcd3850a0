import LogicalBackup.Session

/-!
# Scripted servers

A server in memory that answers from a catalog.  Its script may plan failures: the call of a kind
that is to fail is told by its number among the calls of that kind.
-/

namespace LogicalBackup

/-- The name of a call's kind.  Statements of dumps and of restores are of one kind, and so are the
ends of snapshots and of abandoned restores. -/
def Call.kindName : Call → String
  | listSchemas => "list_schemas"
  | beginSnapshot => "begin_snapshot"
  | useSchema _ => "use_schema"
  | serverInfo => "server_info"
  | listObjects _ => "list_objects"
  | listColumns .. => "list_columns"
  | showCreateTable _ => "show_create_table"
  | showCreateView _ => "show_create_view"
  | viewCharset .. => "view_charset"
  | execute _ | apply _ => "execute"
  | select _ => "select"
  | endSnapshot | rollback => "rollback"
  | beginRestore => "begin_restore"
  | commit => "commit"

/-- An object of the catalog, with all that is told of it. -/
structure ScriptedObject where
  name : String
  kind : String := "BASE TABLE"
  columns : List ColumnEntry := []
  /-- The columns of the result set of its rows. -/
  result : List Column := []
  rows : List (List Cell) := []
  createSql : String := ""
  /-- The name under which the catalog of views has it. -/
  catalogName : String := name
  charset : String := ""
  collation : String := ""
  deriving DecidableEq, Repr

/-- A schema of the catalog. -/
structure ScriptedSchema where
  name : String
  objects : List ScriptedObject := []
  deriving DecidableEq, Repr

/-- A call that is to fail. -/
structure PlannedFailure where
  kindName : String
  /-- The number of the call among those of its kind, from one. -/
  ordinal : Nat := 1
  /-- The number of rows that a query delivers before it fails, if any. -/
  afterRows : Nat := 0
  fault : Fault
  deriving DecidableEq, Repr

/-- What a scripted server answers. -/
structure Script where
  info : ServerInfo :=
    { version := "8.0.36", charset := "utf8mb4", collation := "utf8mb4_0900_ai_ci" }
  schemas : List ScriptedSchema := []
  /-- The names of the schemas that are listed. -/
  visible : List String := schemas.map (·.name)
  failures : List PlannedFailure := []
  /-- The numbers of rows that restored statements affect, in their order. -/
  affected : List UInt64 := []

/-- What a scripted server remembers of its calls. -/
structure ScriptState where
  /-- The kinds of the calls so far. -/
  history : List String := []
  schema : Option String := none
  /-- The table whose structure was shown last. -/
  table : Option String := none
  /-- The number of restored statements that did not fail. -/
  applied : Nat := 0

namespace Script

/-- The first schema of a name. -/
def schema? (script : Script) (name : String) : Except Fault ScriptedSchema :=
  match script.schemas.find? (·.name = name) with
  | some s => .ok s
  | none => .error (.schema ("Unknown database '" ++ name ++ "'"))

/-- The first object of a name in a schema. -/
def object? (script : Script) (schema name : String) : Except Fault ScriptedObject :=
  match (script.schemas.find? (·.name = schema)).bind fun s =>
    s.objects.find? (·.name = name) with
  | some o => .ok o
  | none => .error (.query ("Unknown object '" ++ name ++ "'"))

/-- The answer of a call that does not fail by plan. -/
def reply (script : Script) (state : ScriptState) : (c : Call) → c.Answer × ScriptState
  | .listSchemas => (.ok script.visible, state)
  | .beginSnapshot => (.ok (), { state with schema := none, table := none })
  | .useSchema s =>
    match script.schema? s with
    | .ok _ => (.ok (), { state with schema := some s })
    | .error fault => (.error fault, state)
  | .serverInfo => (.ok script.info, state)
  | .listObjects s =>
    ((script.schema? s).map fun schema => schema.objects.map fun o => ⟨o.name, o.kind⟩, state)
  | .listColumns s o => ((script.object? s o).map (·.columns), state)
  | .showCreateTable t =>
    match script.object? (state.schema.getD "") t with
    | .ok o => (.ok o.createSql, { state with table := some t })
    | .error fault => (.error fault, state)
  | .showCreateView v => ((script.object? (state.schema.getD "") v).map (·.createSql), state)
  | .viewCharset s v =>
    ((script.object? s v).map fun o => ⟨o.catalogName, o.charset, o.collation⟩, state)
  | .execute _ => (.ok (), state)
  | .select _ =>
    ((script.object? (state.schema.getD "") (state.table.getD "")).map fun o =>
      { columns := o.result, rows := o.rows }, state)
  | .endSnapshot => (.ok (), state)
  | .beginRestore => (.ok (), state)
  | .apply _ => (.ok (script.affected.getD state.applied 0),
      { state with applied := state.applied + 1 })
  | .commit => (.ok (), state)
  | .rollback => (.ok (), state)

/-- The answer of a call that fails by plan. -/
def failed (failure : PlannedFailure) (c : Call) (answer : c.Answer) : c.Answer :=
  match c, answer with
  | .select _, .ok stream =>
    if failure.afterRows = 0 then .error failure.fault
    else .ok { stream with
      rows := stream.rows.take failure.afterRows
      failure := some failure.fault }
  | _, _ => .error failure.fault

/-- The server that follows a script. -/
def server (script : Script) : Server ScriptState := fun c state =>
  let history := state.history ++ [c.kindName]
  let ordinal := history.count c.kindName
  let planned := script.failures.find? fun f => f.kindName = c.kindName && f.ordinal = ordinal
  match planned with
  | some failure =>
    (failed failure c (script.reply state c).1, { state with history })
  | none =>
    let (answer, state) := script.reply state c
    (answer, { state with history })

end Script

end LogicalBackup
