import LogicalBackup.Dump.Effect

/-!
# Dumping a schema

A schema is dumped within one snapshot, which is ended whatever happens (`dumpInSnapshot`).  The
tables and the stubs of the views are written first, in the order in which the server lists them,
and then the definitions of the views.  If the tables are locked, they are unlocked again also when
one of them could not be dumped.
-/

namespace LogicalBackup

/-- What was written of one schema. -/
structure SchemaSummary where
  schema : String
  tables : Nat := 0
  views : Nat := 0
  rows : Nat := 0
  statements : Nat := 0
  deriving DecidableEq, Repr

/-- What was written by a run, in the order of its targets. -/
structure DumpSummary where
  schemas : List SchemaSummary := []
  deriving DecidableEq, Repr

namespace DumpSummary

/-- The number of rows of all schemas. -/
def totalRows (s : DumpSummary) : Nat := (s.schemas.map (·.rows)).foldr (· + ·) 0

/-- The number of `INSERT` statements of all schemas. -/
def totalStatements (s : DumpSummary) : Nat := (s.schemas.map (·.statements)).foldr (· + ·) 0

end DumpSummary

namespace Dump

/-- Writes the rows of a table in `INSERT` statements. -/
def dumpRows (table : Table) (options : DumpOptions) : Dumping BatchStats := do
  let wrap := DumpError.object table.schema table.name
  let batch : Batch := {
    stem := utf8 table.insertStem
    packet := options.maxAllowedPacket
    extended := !options.skipExtendedInsert }
  let stream ← Dumping.ask (.select table.selectSql) wrap
  let (received, batch) ← ExceptT.lift (batch.receive stream).toDump
  ExceptT.mk (pure (received.mapError wrap))
  let finished ← ExceptT.lift batch.finish.toDump
  ExceptT.mk (pure (finished.mapError fun fault => wrap (.io fault)))

/-- Writes a table: its structure and, if it has effective columns, its rows. -/
def dumpTable (table : Table) (options : DumpOptions) (style : DumpStyle) : Dumping BatchStats := do
  let createSql ←
    Dumping.ask (.showCreateTable table.name) (DumpError.object table.schema table.name)
  Dumping.writeSection (Section.tableHead style table.name createSql)
  let stats ← if table.columns.isEmpty then pure {} else dumpRows table options
  Dumping.writeSection (Section.tableTail style table.name)
  return stats

/-- Writes the tables and the stubs of the views. -/
def dumpTablesAndStubs (options : DumpOptions) (style : DumpStyle) :
    SchemaSummary → List SchemaObject → Dumping SchemaSummary
  | summary, [] => return summary
  | summary, .table t :: rest => do
    let stats ← dumpTable t options style
    dumpTablesAndStubs options style
      { summary with
        tables := summary.tables + 1
        rows := summary.rows + stats.rows
        statements := summary.statements + stats.statements } rest
  | summary, .view v :: rest => do
    Dumping.writeSection (Section.viewStub style v)
    dumpTablesAndStubs options style summary rest

/-- Writes the definitions of the views. -/
def dumpViews (style : DumpStyle) : SchemaSummary → List SchemaObject → Dumping SchemaSummary
  | summary, [] => return summary
  | summary, .table _ :: rest => dumpViews style summary rest
  | summary, .view v :: rest => do
    Dumping.writeSection (Section.viewFinal style v)
    dumpViews style { summary with views := summary.views + 1 } rest

/-- Writes objects: tables and stubs first, definitions of views after them. -/
def dumpObjects (schema : String) (objects : List SchemaObject) (options : DumpOptions)
    (style : DumpStyle) : Dumping SchemaSummary := do
  let summary ← dumpTablesAndStubs options style { schema } objects
  dumpViews style summary objects

/-- Writes objects while their tables are locked. -/
def dumpLocked (schema : String) (objects : List SchemaObject) (options : DumpOptions)
    (style : DumpStyle) : Dumping SchemaSummary := do
  Dumping.ask (.execute (Table.lockSql (objects.filterMap (·.table?)))) .fault
  let result ← ExceptT.lift (dumpObjects schema objects options style).run
  let unlocked ← ExceptT.lift (Dumping.ask (.execute unlockSql) .fault).run
  let summary ← ExceptT.mk (pure result)
  ExceptT.mk (pure unlocked)
  return summary

/-- Writes a schema within an open snapshot.  Times are read in the zone in which the header of a
full dump restores them. -/
def dumpSchema (schema : String) (options : DumpOptions) (style : DumpStyle) :
    Dumping SchemaSummary := do
  Dumping.ask (.useSchema schema) .fault
  if style = .full then Dumping.ask (.execute "SET TIME_ZONE='+00:00'") .fault
  let server ← Dumping.ask .serverInfo .fault
  Dumping.writeSection (Section.header style schema server (!options.suppressUseDatabase))
  let objects ← (introspect schema options).toDump
  let locking := options.lockTables && !(objects.filterMap (·.table?)).isEmpty
  let summary ←
    if locking then dumpLocked schema objects options style
    else dumpObjects schema objects options style
  Dumping.writeSection (Section.footer style (← Dumping.now))
  Dumping.flush
  return summary

/-- Writes a schema within a snapshot of its own.  An error of the dump outweighs one of ending the
snapshot. -/
def dumpInSnapshot (schema : String) (options : DumpOptions) (style : DumpStyle) :
    Dumping SchemaSummary := do
  Dumping.ask .beginSnapshot .fault
  let result ← ExceptT.lift (dumpSchema schema options style).run
  let ended ← ExceptT.lift (Dumping.ask .endSnapshot .fault).run
  let summary ← ExceptT.mk (pure result)
  ExceptT.mk (pure ended)
  return summary

end Dump

end LogicalBackup
