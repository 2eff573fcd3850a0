import LogicalBackup.Proofs.Catalog.TableStatements
import LogicalBackup.Proofs.Dump.SingleTable

/-!
# Cells and the columns they are inserted into

The stem of an `INSERT` statement names the columns to which the literals of each row are assigned
(`readAssignments`).  In what is dumped of a table, the columns are the ones that the query selects,
and each is assigned the literal of the cell at its place (`Assigns`).
-/

namespace LogicalBackup

open Program DumpEvent

/-- The columns of a row with the literals that statements with this stem assign to them. -/
def readAssignments (stem : String) (statements : List Bytes) :
    Option (List (List (String × Bytes))) := do
  let (_, columns) ← readStem stem
  let rows ← readInserts (utf8 stem) statements
  rows.mapM fun literals =>
    if literals.length = columns.length then some (columns.zip literals) else none

/-- Each name is assigned the literal of the cell at its place in a row with these columns. -/
structure Assigns (names : List String) (columns : List Column) (cells : List Cell)
    (assigned : List (String × Bytes)) : Prop where
  length_cells : cells.length = names.length
  length_assigned : assigned.length = names.length
  at_place : ∀ ⦃k : Nat⦄ ⦃name : String⦄ ⦃column : Column⦄ ⦃cell : Cell⦄, names[k]? = some name →
    columns[k]? = some column → cells[k]? = some cell →
      ∃ v, column.cellClass.scan cell = .ok v ∧ assigned[k]? = some (name, literal v)

variable {stream : ResultStream} {values : List (List Value)}

theorem readAssignments_of_rows {stem table : String} {names : List String}
    {statements : List Bytes} (names_eq : readStem stem = some (table, names))
    (rows_eq : readInserts (utf8 stem) statements = some (values.map (·.map literal)))
    (fits : ∀ vs ∈ values, vs.length = names.length) :
    readAssignments stem statements =
      some (values.map fun vs => names.zip (vs.map literal)) := by
  have zips : ∀ literals ∈ values.map (·.map literal),
      (if literals.length = names.length then some (names.zip literals) else none) =
        some (names.zip literals) := by
    intro literals h
    obtain ⟨vs, hvs, rfl⟩ := List.mem_map.1 h
    exact if_pos ((List.length_map _).trans (fits vs hvs))
  rw [readAssignments, names_eq, rows_eq]
  refine (mapM_eq_some_map zips).trans ?_
  rw [List.map_map]
  rfl

/-- A row that is scanned has a value for each column. -/
theorem length_of_scanned {columns : List Column} {cells : List Cell} {vs : List Value}
    (length : cells.length = columns.length)
    (scanned : ((columns.map Column.cellClass).zip cells).mapM (fun (c, cell) => c.scan cell) =
      .ok vs) : vs.length = columns.length := by
  rw [← (mapM_eq_ok_iff.1 scanned).length_eq, List.length_zip, List.length_map, length, min_self]

/-- The values of a row assign each name the literal of the cell at its place. -/
theorem assigns_zip {names : List String} {columns : List Column} {cells : List Cell}
    {vs : List Value} (width : columns.length = names.length)
    (length : cells.length = columns.length)
    (scanned : ((columns.map Column.cellClass).zip cells).mapM (fun (c, cell) => c.scan cell) =
      .ok vs) : Assigns names columns cells (names.zip (vs.map literal)) := by
  have each := mapM_eq_ok_iff.1 scanned
  have count : vs.length = names.length := (length_of_scanned length scanned).trans width
  refine ⟨length.trans width, ?_, ?_⟩
  · rw [List.length_zip, List.length_map, count, min_self]
  · intro k name column cell hname hcolumn hcell
    have pair : ((columns.map Column.cellClass).zip cells)[k]? = some (column.cellClass, cell) := by
      rw [List.getElem?_zip_eq_some, List.getElem?_map, hcolumn]
      exact ⟨rfl, hcell⟩
    -- the value at this place was scanned from the cell at this place
    obtain ⟨inside, same⟩ := List.getElem?_eq_some_iff.1 pair
    have insideValues : k < vs.length := each.length_eq ▸ inside
    have value := each.get inside insideValues
    refine ⟨vs[k], ?_, ?_⟩
    · simpa only [List.get_eq_getElem, same] using value
    · rw [List.getElem?_zip_eq_some, List.getElem?_map, List.getElem?_eq_getElem insideValues]
      exact ⟨hname, rfl⟩

theorem forall_mem_length_of_holds (h : stream.Holds values) :
    ∀ vs ∈ values, vs.length = stream.columns.length := by
  obtain ⟨-, rows⟩ := h
  generalize stream.rows = cellRows at rows
  induction rows with
  | nil => exact fun vs hvs => absurd hvs List.not_mem_nil
  | cons row rows ih => exact List.forall_mem_cons.2 ⟨length_of_scanned row.1 row.2, ih⟩

namespace Dump

variable {m : Manner} {wrap : Fault → DumpError} {batch : Batch}

/-- Rows that arrive and can be scanned are taken where writes succeed. -/
theorem isOk_of_path_takeRows (hs : batch.stem ≠ []) (hp : batch.pending = [])
    (h : stream.Holds values) {t : List DumpEvent} {r : Except DumpError BatchStats}
    (path : Path (takeRows wrap batch stream).run t r) (sound : ∀ e ∈ t, Sound m.clock e) :
    IsOk r := by
  have received := Batch.writes_receive hs hp stream ⟨rfl, h.2⟩
  have ending : stream.ending = .ok () := by rw [ResultStream.ending, h.1]
  rw [ending] at received
  obtain ⟨t₁, result, rest, rfl, taking, restPath⟩ := path_lift_bind_iff.1 path
  obtain ⟨takingSound, restSound⟩ := List.forall_mem_append.1 sound
  obtain ⟨rfl, -⟩ := received.path_toDump taking takingSound
  obtain ⟨t₂, finished, t₃, rfl, finishing, last⟩ := path_lift_bind_iff.1 restPath
  obtain ⟨finishingSound, -⟩ := List.forall_mem_append.1 restSound
  obtain ⟨rfl, -⟩ :=
    (Batch.writes_finish (b := batch.start stream.columns) hs _ _).path_toDump finishing
      finishingSound
  obtain ⟨-, rfl⟩ := path_done_iff.1 last
  exact ⟨_, rfl, trivial⟩

end Dump

section Runs

variable {σ ω : Type} {world : DumpWorld σ ω} {fit : ω → Prop} {content : ω → Bytes}

/-- After the query has been answered, its rows are taken. -/
theorem run_dumpRows {s : σ} (w : ω) {t : Table} (options : DumpOptions)
    (answer : (world.server (.select t.selectSql) s).1 = .ok stream) :
    Program.run world.answer (Dump.dumpRows t options).run (s, w) =
      Program.run world.answer
        (Dump.takeRows (DumpError.object t.schema t.name) (t.batch options) stream).run
        ((world.server (.select t.selectSql) s).2, w) := by
  let wrap := DumpError.object t.schema t.name
  have asked : Program.run world.answer (Dumping.ask (.select t.selectSql) wrap).run (s, w) =
      ((world.server (.select t.selectSql) s).1.mapError wrap,
        ((world.server (.select t.selectSql) s).2, w)) := rfl
  rw [answer] at asked
  rw [Dump.dumpRows_eq, ExceptT.run_bind, run_bind, asked]
  rfl

/-- The rows that answer the query of a table are dumped in its statements. -/
theorem exists_run_dumpRows (records : world.writer.Records fit content) {s : σ} {w : ω}
    (hw : fit w) {t : Table} (options : DumpOptions)
    (answer : (world.server (.select t.selectSql) s).1 = .ok stream) (h : stream.Holds values) :
    let final := Program.run world.answer (Dump.dumpRows t options).run (s, w)
    ∃ stats, final.1 = .ok stats ∧
      content final.2.2 = content w ++ ((t.batch options).statements values).flatten := by
  let taking := (Dump.takeRows (DumpError.object t.schema t.name) (t.batch options) stream).run
  let m : Manner := ⟨options, .full, world.clock⟩
  obtain ⟨sound, -, grown⟩ := DumpWorld.sound_trace records taking
    (s := (world.server (.select t.selectSql) s).2) hw
  have path := path_trace world.answer taking ((world.server (.select t.selectSql) s).2, w)
  have hs := stem_batch_ne_nil t options
  have text (groups : List (List Bytes)) :
      groups.flatMap (Batch.line (t.batch options).stem) =
        Piece.text m (groups.map (.insert t)) := by
    rw [Piece.text_insert, stem_batch]
  obtain ⟨stats, ok, -⟩ := Dump.isOk_of_path_takeRows (m := m) hs rfl h path sound
  obtain ⟨ps, wrote, ⟨_, -, -, rfl, -⟩, -⟩ :=
    Dump.composes_takeRows hs rfl text h _ _ path sound ⟨stats, ok, trivial⟩
  intro final
  have same : final = Program.run world.answer taking _ := run_dumpRows w options answer
  refine ⟨stats, same ▸ ok, ?_⟩
  rw [same, grown, wrote, ← text, Batch.statements, List.flatMap_def]

end Runs

/-- A reader that knows identifiers only finds in the statements of tables exactly the names they
were made of, whatever characters these have, so statements are equal only if their names are.  And
where a server answers the query of a table with rows that can be scanned, they are dumped in
statements that assign the literal of each cell to the column that the query selects at its
place. -/
theorem statements_name_identifiers :
    (∀ t : Table, t.columns ≠ [] →
      readSelect t.selectSql = some (t.columns, t.name) ∧
      readStem t.insertStem = some (t.name, t.columns)) ∧
    (∀ tables : List Table, tables ≠ [] →
      readLock (Table.lockSql tables) = some (tables.map (·.name))) ∧
    (∀ t t' : Table, t.columns ≠ [] → t'.columns ≠ [] →
      (t.selectSql = t'.selectSql ↔ t.name = t'.name ∧ t.columns = t'.columns) ∧
      (t.insertStem = t'.insertStem ↔ t.name = t'.name ∧ t.columns = t'.columns)) ∧
    (∀ tables tables' : List Table, tables ≠ [] → tables' ≠ [] →
      (Table.lockSql tables = Table.lockSql tables' ↔
        tables.map (·.name) = tables'.map (·.name))) ∧
    ∀ {σ ω : Type} {world : DumpWorld σ ω} {fit : ω → Prop} {content : ω → Bytes},
      world.writer.Records fit content →
      ∀ (s : σ) (w : ω) (t : Table) (options : DumpOptions) (stream : ResultStream)
        (values : List (List Value)),
      fit w → t.columns ≠ [] → (world.server (.select t.selectSql) s).1 = .ok stream →
      stream.columns.length = t.columns.length → stream.Holds values →
      let final := Program.run world.answer (Dump.dumpRows t options).run (s, w)
      ∃ stats statements assigned, final.1 = .ok stats ∧
        content final.2.2 = content w ++ statements.flatten ∧
        readAssignments t.insertStem statements = some assigned ∧
        List.Forall₂ (Assigns t.columns stream.columns) stream.rows assigned := by
  refine ⟨fun t h => ⟨t.readSelect_selectSql h, t.readStem_insertStem h⟩,
    fun tables h => Table.readLock_lockSql h,
    fun t t' h h' => ⟨Table.selectSql_eq_iff h h', Table.insertStem_eq_iff h h'⟩,
    fun tables tables' h h' => Table.lockSql_eq_iff h h', ?_⟩
  intro σ ω world fit content records s w t options stream values hw named answer width holds final
  obtain ⟨stats, ok, grown⟩ := exists_run_dumpRows records hw options answer holds
  have rows := Batch.readInserts_statements (t.batch options) values
  rw [stem_batch] at rows
  have fits : ∀ vs ∈ values, vs.length = t.columns.length := fun vs hvs =>
    (forall_mem_length_of_holds holds vs hvs).trans width
  refine ⟨stats, _, _, ok, grown,
    readAssignments_of_rows (t.readStem_insertStem named) rows fits, ?_⟩
  rw [List.forall₂_map_right_iff]
  exact holds.2.imp fun cells vs row => assigns_zip width row.1 row.2

/-- Names that look like the texts around them are read back, and each cell stays with its
column. -/
theorem statements_name_identifiers_of_separators :
    let t : Table := { name := "``", columns := ["` FROM `", "a`, `b", "`) VALUES (`"] }
    let other : Table := { name := "``", columns := ["` FROM `", "a", "b", "`) VALUES (`"] }
    let cell : Column := { name := "c", typeName := "VARCHAR", kind := .text }
    let stream : ResultStream :=
      { columns := [cell, cell, cell], rows := [[some (utf8 "x"), none, some (utf8 "'")]] }
    let told : TableTold := ⟨{}, "", stream⟩
    let world : DumpWorld Unit Medium :=
      { server := told.serve ⟨"", t.name, t.columns⟩, writer := Medium.sink.writer,
        clock := DateTime.epoch }
    let final := Program.run world.answer (Dump.dumpRows t {}).run ((), {})
    readSelect t.selectSql = some (["` FROM `", "a`, `b", "`) VALUES (`"], "``") ∧
    readStem t.insertStem = some ("``", ["` FROM `", "a`, `b", "`) VALUES (`"]) ∧
    readLock (Table.lockSql [{ name := "a` READ, `b" }, t]) = some ["a` READ, `b", "``"] ∧
    t.selectSql ≠ other.selectSql ∧ t.insertStem ≠ other.insertStem ∧
    Table.lockSql [{ name := "a` READ, `b" }] ≠ Table.lockSql [{ name := "a" }, { name := "b" }] ∧
    ∃ stats statements assigned, final.1 = .ok stats ∧
      final.2.2.content = statements.flatten ∧
      readAssignments t.insertStem statements = some assigned ∧
      List.Forall₂ (Assigns t.columns stream.columns) stream.rows assigned := by
  intro t other cell stream told world
  obtain ⟨names, locks, same, sameLocks, rows⟩ := statements_name_identifiers
  have named : t.columns ≠ [] := List.cons_ne_nil _ _
  have columns : t.columns ≠ other.columns := by decide
  obtain ⟨select, stem⟩ := names t named
  obtain ⟨sameSelect, sameStem⟩ := same t other named (List.cons_ne_nil _ _)
  have records : world.writer.Records _ _ := Medium.neverFails_sink.records
  have answer : (world.server (.select t.selectSql) ()).1 = .ok stream := rfl
  have holds : stream.Holds [[.text "x", .null, .text "'"]] :=
    ⟨rfl, .cons ⟨rfl, by decide⟩ .nil⟩
  have run := rows records () {} t {} stream _ ⟨rfl, rfl⟩ named answer rfl holds
  -- the run is not to be unfolded
  generalize Program.run world.answer (Dump.dumpRows t {}).run ((), {}) = final at run ⊢
  obtain ⟨stats, statements, assigned, ok, grown, read, each⟩ := run
  refine ⟨select, stem, locks _ (List.cons_ne_nil _ _), fun h => columns (sameSelect.1 h).2,
    fun h => columns (sameStem.1 h).2, fun h => ?_, stats, statements, assigned, ok, grown, read,
    each⟩
  have names := (sameLocks _ _ (List.cons_ne_nil _ _) (List.cons_ne_nil _ _)).1 h
  exact absurd names (by decide)

end LogicalBackup
