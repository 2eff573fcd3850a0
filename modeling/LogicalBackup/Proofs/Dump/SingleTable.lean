import LogicalBackup.Proofs.Dump.Statements
import LogicalBackup.Proofs.Restore.Names

/-!
# Schemas with one table

What is dumped of a schema with one table depends on its names (`TableNames`) and on what else the
server tells of it (`TableTold`).  `WritesTable` says that a dump writes a text; its lines are
`TableTold.lines` (`WritesTable.exists_lines`).  Whatever the names are, there is such a dump
(`exists_writesTable`).
-/

namespace LogicalBackup

open Program DumpEvent SchemaContents

/-- The names that are printed in a dump of a schema with one table. -/
structure TableNames where
  schema : String
  table : String
  columns : List String

/-- What a server tells, beside the names, of a schema with one table. -/
structure TableTold where
  server : ServerInfo
  createSql : String
  stream : ResultStream

/-- The table with its effective columns. -/
def TableNames.object (names : TableNames) : Table :=
  { schema := names.schema, name := names.table, columns := names.columns }

/-- A call that is answered with these names, if it is answered. -/
def TableTold.Answers (told : TableTold) (options : DumpOptions) (names : TableNames) :
    CallEvent → Prop
  | ⟨.serverInfo, answer⟩ => answer = .ok told.server
  | ⟨.listObjects _, answer⟩ => answer = .ok [⟨names.table, "BASE TABLE"⟩]
  | ⟨.listColumns _ _, answer⟩ => OkWith
    (fun entries => effectiveColumns entries options.includeGeneratedColumns = names.columns) answer
  | ⟨.showCreateTable _, answer⟩ => answer = .ok told.createSql
  | ⟨.select _, answer⟩ => answer = .ok told.stream
  | _ => True

/-- A full dump that succeeds writes this text, where the server tells this of its one table and the
writer does not fail. -/
inductive WritesTable (options : DumpOptions) (told : TableTold) (names : TableNames) : Bytes → Prop
  | run {σ ω : Type} {world : DumpWorld σ ω} {fit : ω → Prop} {content : ω → Bytes}
    (records : world.writer.Records fit content) {s : σ} {w : ω} (hw : fit w)
    {summary : SchemaSummary} {text : Bytes}
    (answers : ∀ e ∈ exchanges (trace world.answer (Dump.dumpSchema names.schema options .full).run
      (s, w)), told.Answers options names e)
    (ok : (Program.run world.answer (Dump.dumpSchema names.schema options .full).run (s, w)).1 =
      .ok summary)
    (grown : content (Program.run world.answer (Dump.dumpSchema names.schema options .full).run
      (s, w)).2.2 = content w ++ text) : WritesTable options told names text

/-! ## The lines of the dump -/

/-- The line of a simple statement with one row. -/
def Table.rowLine (t : Table) (row : List Value) : Bytes :=
  utf8 t.insertStem ++ renderRow row ++ [Byte.semicolon]

/-- The lines of a dump of a schema with one table, each row of which has a statement of its own. -/
def TableTold.lines (told : TableTold) (options : DumpOptions) (names : TableNames)
    (rows : List (List Value)) (completed : DateTime) : List Bytes :=
  (Section.header .full names.schema told.server (!options.suppressUseDatabase)).map utf8 ++
    ((Section.tableHead .full names.table told.createSql).map utf8 ++
      (rows.map names.object.rowLine ++
        ((Section.tableTail .full names.table).map utf8 ++
          (Section.footer .full completed).map utf8)))

theorem Lines.bytes_eq_joinLines (lines : Lines) : lines.bytes = joinLines (lines.map utf8) := by
  induction lines with
  | nil => rfl
  | cons l lines ih =>
    rw [← List.singleton_append, Lines.bytes_append, Lines.bytes_singleton, ih, List.map_append,
      joinLines_append, List.map_singleton, joinLines_singleton]

theorem statements_of_simple (t : Table) {options : DumpOptions}
    (simple : options.skipExtendedInsert) (rows : List (List Value)) :
    ((t.batch options).statements rows).flatten = joinLines (rows.map t.rowLine) := by
  have plain : (t.batch options).extended = false := by
    simp [Table.batch, simple]
  rw [Batch.statements, Batch.groups_of_simple plain, List.map_map, List.map_map, joinLines,
    ← List.flatMap_def, List.flatMap_map, stem_batch]
  refine List.flatMap_congr fun row _ => ?_
  simp [Table.rowLine, Batch.line, Batch.statement, utf8]
  decide

/-- What is dumped of a table. -/
theorem SchemaContents.bytes_of_table {c : SchemaContents} {names : TableNames} {data : TableData}
    {options : DumpOptions} (simple : options.skipExtendedInsert)
    (one : c.contents = [.table names.object data]) (completed : DateTime) :
    c.bytes names.schema options .full completed =
      joinLines (TableTold.lines ⟨c.server, data.createSql, data.stream⟩ options names
        (if names.columns.isEmpty then [] else data.rows) completed) := by
  have rows : (if names.columns.isEmpty then [] else
      ((names.object.batch options).statements data.rows).flatten) =
      joinLines ((if names.columns.isEmpty then [] else data.rows).map names.object.rowLine) := by
    split_ifs
    · rfl
    · exact statements_of_simple _ simple _
  have content : (Content.table names.object data).bytes options .full =
      (Section.tableHead .full names.table data.createSql).bytes ++
        ((if names.columns.isEmpty then [] else
          ((names.object.batch options).statements data.rows).flatten) ++
          (Section.tableTail .full names.table).bytes) := rfl
  have finals : ([Content.table names.object data].map (·.object)).flatMap
      (·.finalBytes .full) = [] := rfl
  rw [SchemaContents.bytes, one, List.flatMap_singleton, content, rows, finals, List.append_nil]
  simp only [TableTold.lines, joinLines_append, ← Lines.bytes_eq_joinLines, List.append_assoc]

/-- The rows of a table that are dumped, which has columns or else no rows. -/
def TableTold.Rows (told : TableTold) (names : TableNames) (rows : List (List Value)) : Prop :=
  if names.columns.isEmpty then rows = [] else told.stream.Holds rows

section Contents

variable {c : SchemaContents} {names : TableNames} {options : DumpOptions} {told : TableTold}
  (h : c.Arrived names.schema options)
  (answers : ∀ e ∈ c.exchanges names.schema options .full, told.Answers options names e)

include h answers

/-- The one object of the schema is the table. -/
theorem SchemaContents.Arrived.object_of_table :
    c.contents.map (·.object) = [.table names.object] := by
  obtain ⟨server, found, contents⟩ := c
  obtain ⟨objects, -⟩ := h
  dsimp only at objects
  have list : Except.ok (found.map (·.entry)) = Except.ok [⟨names.table, "BASE TABLE"⟩] :=
    answers ⟨.listObjects names.schema, _⟩ (List.mem_append_right _ List.mem_cons_self)
  obtain ⟨a, rfl, entry⟩ := List.map_eq_singleton_iff.1 (Except.ok.inj list)
  have described {e : CallEvent} (he : e ∈ a.exchanges names.schema) :
      told.Answers options names e :=
    answers e (mem_exchanges_of_found _ _ _ (List.mem_singleton_self _) he)
  cases a with
  | view => simp [ObjectAnswers.entry] at entry
  | table name entries =>
    obtain rfl : name = names.table := by simpa [ObjectAnswers.entry] using entry
    have columns := okWith_ok_iff.1 (described (List.mem_singleton_self _))
    rw [objects, List.map_singleton, ObjectAnswers.object]
    simp only [columns]
    rfl

/-- What a server tells of a schema with one table are its contents. -/
theorem SchemaContents.Arrived.of_table :
    c.server = told.server ∧ ∃ data : TableData, c.contents = [.table names.object data] ∧
      data.createSql = told.createSql ∧ (names.columns.isEmpty = false →
        data.stream = told.stream ∧ data.stream.Holds data.rows) := by
  obtain ⟨x, one, object⟩ := List.map_eq_singleton_iff.1 (h.object_of_table answers)
  obtain ⟨server, found, contents⟩ := c
  obtain ⟨-, arrived⟩ := h
  obtain rfl : contents = [x] := one
  dsimp only at arrived
  have opening : ⟨.serverInfo, .ok server⟩ ∈ SchemaContents.opening names.schema .full server := by
    simp [SchemaContents.opening]
  have same : server = told.server := Except.ok.inj (answers _ (List.mem_append_left _ opening))
  have read {e : CallEvent} (he : e ∈ x.exchanges) : told.Answers options names e :=
    answers e (mem_exchanges_of_content _ _ _ (List.mem_singleton_self _) he)
  cases x with
  | view => cases object
  | table t data =>
    obtain rfl : t = names.object := SchemaObject.table.inj object
    have create : told.Answers options names ⟨.showCreateTable names.table, .ok data.createSql⟩ :=
      read List.mem_cons_self
    refine ⟨same, data, rfl, Except.ok.inj create, fun some => ?_⟩
    have query := read (Content.select_mem_exchanges some)
    exact ⟨Except.ok.inj query, arrived _ (List.mem_singleton_self _)⟩

/-- The rows of a table that has columns are asked for. -/
theorem SchemaContents.Arrived.select_mem_exchanges (some : names.columns.isEmpty = false) :
    ⟨.select names.object.selectSql, .ok told.stream⟩ ∈
      c.exchanges names.schema options .full := by
  obtain ⟨-, data, contents, -, read⟩ := h.of_table answers
  have one : .table names.object data ∈ c.contents := by
    rw [contents]
    exact List.mem_singleton_self _
  rw [← (read some).1]
  exact c.mem_exchanges_of_content _ _ _ one (Content.select_mem_exchanges some)

end Contents

/-- What a dump writes are these lines. -/
theorem WritesTable.exists_lines {options : DumpOptions} {told : TableTold} {names : TableNames}
    {text : Bytes} (h : WritesTable options told names text)
    (simple : options.skipExtendedInsert) :
    ∃ rows completed, told.Rows names rows ∧
      text = joinLines (told.lines options names rows completed) := by
  obtain ⟨records, hw, answers, ok, grown⟩ := h
  rename_i σ ω world fit content s w summary
  obtain ⟨sound, -, taken⟩ := DumpWorld.sound_trace records
    (Dump.dumpSchema names.schema options .full).run (s := s) hw
  have path := path_trace world.answer (Dump.dumpSchema names.schema options .full).run (s, w)
  obtain ⟨ps, wrote, ⟨a, -, c, arrived, told', rfl, -⟩, -⟩ :=
    composes_dumpSchema (m := ⟨options, .full, world.clock⟩) names.schema _ _ path sound
      ⟨summary, ok, trivial⟩
  have same : text = c.bytes names.schema options .full world.clock := by
    rw [taken, wrote, SchemaContents.text_pieces] at grown
    exact (List.append_cancel_left grown).symm
  rw [told'] at answers
  obtain ⟨server, data, one, create, read⟩ := arrived.of_table answers
  refine ⟨if names.columns.isEmpty then [] else data.rows, world.clock, ?_, ?_⟩
  · unfold TableTold.Rows
    split_ifs with none
    · rfl
    · obtain ⟨stream, holds⟩ := read (Bool.eq_false_iff.2 none)
      rwa [stream] at holds
  · rw [same, SchemaContents.bytes_of_table simple one, server, create]
    rfl

/-! ## A server with one table -/

/-- The server that tells this. -/
def TableTold.serve (told : TableTold) (names : TableNames) : Server Unit := fun c s =>
  (match c with
    | .serverInfo => .ok told.server
    | .listObjects _ => .ok [⟨names.table, "BASE TABLE"⟩]
    | .listColumns _ _ => .ok (names.columns.map (⟨·, ""⟩))
    | .showCreateTable _ => .ok told.createSql
    | .select _ => .ok told.stream
    | .showCreateView _ => .ok ""
    | .viewCharset _ view => .ok ⟨view, "", ""⟩
    | .listSchemas => .ok [names.schema]
    | .apply _ => .ok 0
    | .beginSnapshot | .useSchema _ | .execute _ | .endSnapshot | .beginRestore | .commit
    | .rollback => .ok (), s)

theorem TableTold.answers_serve (told : TableTold) (options : DumpOptions) (names : TableNames)
    (c : Call) (s : Unit) : told.Answers options names ⟨c, (told.serve names c s).1⟩ := by
  cases c with
  | listColumns schema object =>
    refine ⟨_, rfl, ?_⟩
    have kept : isEffective "" options.includeGeneratedColumns = true := by
      cases options.includeGeneratedColumns <;> decide
    have all : (names.columns.map fun c => (⟨c, ""⟩ : ColumnEntry)).filter
        (fun entry => isEffective entry.extra options.includeGeneratedColumns) =
          names.columns.map fun c => ⟨c, ""⟩ := by
      refine List.filter_eq_self.2 fun entry h => ?_
      obtain ⟨c, -, rfl⟩ := List.mem_map.1 h
      exact kept
    calc effectiveColumns (names.columns.map fun c => ⟨c, ""⟩) options.includeGeneratedColumns
        = (names.columns.map fun c => (⟨c, ""⟩ : ColumnEntry)).map (·.name) := by
          unfold effectiveColumns
          rw [all]
      _ = names.columns := by
          rw [List.map_map]
          exact List.map_id names.columns
  | serverInfo => rfl
  | listObjects schema => rfl
  | showCreateTable table => rfl
  | select sql => rfl
  | _ => trivial

theorem TableTold.not_faulty_serve {told : TableTold} (scans : told.stream.Scans)
    (names : TableNames) (c : Call) (s : Unit) :
    ¬Call.Faulty ⟨c, (told.serve names c s).1⟩ := by
  refine not_not.2 ?_
  cases c with
  | listObjects schema =>
    refine ⟨_, rfl, ?_⟩
    rintro ⟨entry, h, unknown⟩
    obtain rfl := List.mem_singleton.1 h
    simp [ObjectKind.ofWords?] at unknown
  | viewCharset schema view => exact ⟨_, rfl, not_not.2 rfl⟩
  | select sql => exact ⟨_, rfl, not_not.2 scans⟩
  | _ => exact ⟨_, rfl, id⟩

/-- There is a dump with these names, whatever they are. -/
theorem exists_writesTable (options : DumpOptions) {told : TableTold} (scans : told.stream.Scans)
    (names : TableNames) : ∃ text, WritesTable options told names text := by
  let world : DumpWorld Unit Medium := {
    server := told.serve names
    writer := Medium.sink.writer
    clock := DateTime.epoch }
  have records : world.writer.Records _ _ := Medium.neverFails_sink.records
  let program := (Dump.dumpSchema names.schema options .full).run
  obtain ⟨sound, -, grown⟩ := DumpWorld.sound_trace records program (s := ()) (w := {}) ⟨rfl, rfl⟩
  have fit := world.forall_mem_exchanges (P := fun e => ¬Call.Faulty e)
    (TableTold.not_faulty_serve scans names) program ((), {})
  have path := path_trace world.answer program ((), {})
  obtain ⟨summary, ok, -⟩ := (Dump.surfaces_dumpSchema names.schema options .full _ _ path).2
    (forall_mem_not_faulty sound fit)
  have answers := world.forall_mem_exchanges (told.answers_serve options names) program ((), {})
  exact ⟨_, .run records ⟨rfl, rfl⟩ answers ok grown⟩

end LogicalBackup
