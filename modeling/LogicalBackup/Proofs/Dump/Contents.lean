import LogicalBackup.Proofs.Dump.Bracketing
import LogicalBackup.Proofs.Dump.Pieces

/-!
# The contents of a schema

What a server tells of a schema while it is dumped are its `SchemaContents`.  They say which calls
are made in which order (`SchemaContents.exchanges`), which pieces are written
(`SchemaContents.pieces`), and what is counted: every dump that succeeds has such contents, and
breaks off between its pieces where a call fails (`composes_dumpSchema`).
-/

namespace LogicalBackup

open Program DumpEvent

/-- What a server tells of a table when it is dumped: its text, and its rows as they arrive and as
values. -/
structure TableData where
  createSql : String := ""
  stream : ResultStream := { columns := [], rows := [] }
  rows : List (List Value) := []

/-- An object with what is read to dump it. -/
inductive Content where
  | table (t : Table) (data : TableData)
  | view (v : View)

namespace Content

/-- The object itself. -/
def object : Content → SchemaObject
  | table t _ => .table t
  | view v => .view v

/-- The calls by which the object is read.  Rows are only read from a table with columns. -/
def exchanges : Content → List CallEvent
  | table t data =>
    ⟨.showCreateTable t.name, .ok data.createSql⟩ ::
      if t.columns.isEmpty then [] else [⟨.select t.selectSql, .ok data.stream⟩]
  | view _ => []

theorem select_mem_exchanges {t : Table} {data : TableData} (some : t.columns.isEmpty = false) :
    ⟨.select t.selectSql, .ok data.stream⟩ ∈ (table t data).exchanges := by
  simp [exchanges, some]

/-- What is written of the object in the first pass over all objects. -/
def bytes (options : DumpOptions) (style : DumpStyle) : Content → Bytes
  | table t data =>
    (Section.tableHead style t.name data.createSql).bytes ++
      ((if t.columns.isEmpty then [] else ((t.batch options).statements data.rows).flatten) ++
        (Section.tableTail style t.name).bytes)
  | view v => (Section.viewStub style v).bytes

/-- The groups of the tuples of the object. -/
def groups (options : DumpOptions) : Content → List (List Bytes)
  | table t data =>
    if t.columns.isEmpty then [] else (t.batch options).groups (data.rows.map renderRow)
  | view _ => []

/-- What is written of the object in the first pass over all objects, in pieces. -/
def pieces (options : DumpOptions) : Content → List Piece
  | table t data =>
    .tableHead t data.createSql ::
      (((table t data).groups options).map (.insert t) ++ [.tableTail t])
  | view v => [.viewStub v]

/-- The counts of a summary after the first pass over the object. -/
def counted (options : DumpOptions) (summary : SchemaSummary) (c : Content) : SchemaSummary :=
  { summary with
    tables := summary.tables + (if c.object.table?.isSome then 1 else 0)
    rows := summary.rows + (c.groups options).flatten.length
    statements := summary.statements + (c.groups options).length }

/-- The rows that were read arrived without a fault. -/
def Arrived : Content → Prop
  | table _ data => data.stream.Holds data.rows
  | view _ => True

/-- What was read fits the object. -/
def Fits : Content → Prop
  | table t data => t.Prints ∧ IsQuiet data.createSql ∧ data.stream.Holds data.rows
  | view v => v.Prints

end Content

/-- What is counted of objects in both passes. -/
def SchemaSummary.ofContents (schema : String) (options : DumpOptions) (contents : List Content) :
    SchemaSummary :=
  let summary := contents.foldl (Content.counted options) { schema }
  { summary with
    views := summary.views + (contents.map (·.object)).countP (·.table?.isNone) }

/-- What is written of an object in the second pass over all objects. -/
def SchemaObject.finalBytes (style : DumpStyle) : SchemaObject → Bytes
  | .table _ => []
  | .view v => (Section.viewFinal style v).bytes

/-- What is written of an object in the second pass, in pieces. -/
def SchemaObject.finalPieces : SchemaObject → List Piece
  | .table _ => []
  | .view v => [.viewFinal v]

variable {m : Manner}

theorem stem_batch (t : Table) (options : DumpOptions) :
    (t.batch options).stem = utf8 t.insertStem := by
  unfold Table.batch
  dsimp only

theorem stem_batch_ne_nil (t : Table) (options : DumpOptions) : (t.batch options).stem ≠ [] := by
  have start : t.insertStem.toList ≠ [] := by
    unfold Table.insertStem
    simp
  rwa [stem_batch, ne_eq, utf8_eq_nil_iff]

/-! ## Tables and views -/

namespace Dump

/-- What is done with the rows of a table. -/
def takeRows (wrap : Fault → DumpError) (batch : Batch) (stream : ResultStream) :
    Dumping BatchStats := do
  let (received, batch) ← ExceptT.lift (batch.receive stream).toDump
  ExceptT.mk (pure (received.mapError wrap))
  let finished ← ExceptT.lift batch.finish.toDump
  ExceptT.mk (pure (finished.mapError fun fault => wrap (.io fault)))

theorem dumpRows_eq (t : Table) (options : DumpOptions) :
    dumpRows t options =
      Dumping.ask (.select t.selectSql) (DumpError.object t.schema t.name) >>=
        takeRows (DumpError.object t.schema t.name) (t.batch options) := rfl

section TakeRows

variable {wrap : Fault → DumpError} {batch : Batch} {stream : ResultStream}
  {rows : List (List Value)} {piece : List Bytes → Piece}

theorem composes_takeRows (hs : batch.stem ≠ []) (hp : batch.pending = [])
    (text : ∀ groups : List (List Bytes),
      groups.flatMap (Batch.line batch.stem) = Piece.text m (groups.map piece))
    (h : stream.Holds rows) :
    Composes m (takeRows wrap batch stream) fun e ps stats =>
      let groups := batch.groups (rows.map renderRow)
      e = [] ∧ ps = groups.map piece ∧ stats = Batch.counted batch.stats rows.length groups := by
  have received := Batch.writes_receive hs hp stream ⟨rfl, h.2⟩
  have ending : stream.ending = .ok () := by rw [ResultStream.ending, h.1]
  rw [ending] at received
  have finished := Batch.writes_finish (b := batch.start stream.columns) hs
  refine (composes_writing received (text _)).bind ?_
  rintro e ps r ⟨rfl, rfl, rfl⟩
  refine (composes_result (Q := fun e ps _ => e = [] ∧ ps = []) fun _ _ => ⟨rfl, rfl⟩).bind ?_
  rintro e ps u ⟨rfl, rfl⟩
  refine (composes_writing (finished _ _) (text _)).bind ?_
  rintro e ps r ⟨rfl, rfl, rfl⟩
  refine composes_result fun stats same => ⟨rfl, ?_, ?_⟩
  · rw [← Batch.groups_start stream.columns, Batch.groups, List.map_append, List.append_nil,
      List.nil_append]
  · rw [← Except.ok.inj same, ← Batch.groups_start stream.columns, Batch.groups]
    simp [Batch.counted, Nat.add_assoc]

/-- Of rows that cease to arrive, the full statements are written. -/
theorem takeRows_of_failure (hs : batch.stem ≠ []) (hp : batch.pending = [])
    (arrived : { stream with failure := none }.Holds rows) {fault : Fault}
    (failed : stream.failure = some fault) {t : List DumpEvent} {r : Except DumpError BatchStats}
    (path : Path (takeRows wrap batch stream).run t r) (sound : ∀ e ∈ t, Sound m.clock e) :
    ¬IsOk r ∧
      dumped t = (batch.placeAll [] (rows.map renderRow)).1.flatMap (Batch.line batch.stem) := by
  have received := Batch.writes_receive hs hp _ arrived
  have ending : stream.ending = .error fault := by rw [ResultStream.ending, failed]
  rw [ending] at received
  obtain ⟨t₁, result, t₂, rfl, h₁, h₂⟩ := path_lift_bind_iff.1 path
  obtain ⟨rfl, -, -, wrote⟩ := received.path_toDump h₁ fun e he =>
    sound e (List.mem_append_left _ he)
  obtain ⟨rfl, rfl⟩ := path_done_iff.1 h₂
  refine ⟨not_okWith_error, ?_⟩
  rw [List.append_nil, wrote, Batch.placeAll_start]

end TakeRows

/-- The rows of a successful dump arrived without a fault. -/
theorem exists_of_path_dumpRows {t : Table} {options : DumpOptions} {trace : List DumpEvent}
    {stats : BatchStats} (path : Path (dumpRows t options).run trace (.ok stats)) :
    ∃ (stream : ResultStream) (rows : List (List Value)) (trace' : List DumpEvent),
      stream.Holds rows ∧ trace = ⟨.ask (.select t.selectSql), .ok stream⟩ :: trace' ∧
        Path (takeRows (DumpError.object t.schema t.name) (t.batch options) stream).run trace'
          (.ok stats) := by
  have faultless := (surfaces_dumpRows t options trace _ path).1 ⟨stats, rfl, trivial⟩
  rw [dumpRows_eq] at path
  obtain ⟨t₁, stream, t₂, rfl, query, rest⟩ := path_exceptBind_ok_iff.1 path
  obtain ⟨answer, rfl, hr⟩ := Dumping.path_ask_iff.1 query
  cases answer with
  | error fault => cases hr
  | ok stream' =>
    cases hr
    obtain ⟨_, ⟨⟩, scans⟩ := not_not.1
      (faultless _ (List.mem_append_left _ (List.mem_singleton_self _)))
    obtain ⟨rows, holds⟩ := Batch.exists_holds (not_not.1 scans)
    exact ⟨stream, rows, t₂, holds, rfl, rest⟩

theorem composes_dumpRows (t : Table) :
    Composes m (dumpRows t m.options) fun e ps stats => ∃ stream rows,
      let groups := (t.batch m.options).groups (rows.map renderRow)
      stream.Holds rows ∧ e = [⟨.select t.selectSql, .ok stream⟩] ∧ ps = groups.map (.insert t) ∧
        stats = { rows := groups.flatten.length, statements := groups.length } := by
  have hs := stem_batch_ne_nil t m.options
  have hp : (t.batch m.options).pending = [] := rfl
  have text (groups : List (List Bytes)) :
      groups.flatMap (Batch.line (t.batch m.options).stem) =
        Piece.text m (groups.map (.insert t)) := by
    rw [Piece.text_insert, stem_batch]
  rintro trace r path sound ⟨stats, rfl, -⟩
  obtain ⟨stream, rows, rest, holds, rfl, taken⟩ := exists_of_path_dumpRows path
  have restSound := (List.forall_mem_cons.1 sound).2
  obtain ⟨ps, same, ⟨stats', hstats, silent, rfl, rfl⟩, -⟩ :=
    composes_takeRows hs hp text holds rest _ taken restSound ⟨stats, rfl, trivial⟩
  cases hstats
  refine ⟨_, same, ⟨_, rfl, stream, rows, holds, congrArg (_ :: ·) silent, rfl, ?_⟩, ?_⟩
  · have fresh : (t.batch m.options).stats = {} := rfl
    rw [Batch.flatten_groups, List.length_map, Batch.counted, fresh, Nat.zero_add, Nat.zero_add]
  · intro t₀ c answer t₁ t₁' r cut split cutPath cutSound
    cases t₀ with
    | cons e t₀ =>
      -- there is no call after the query
      obtain ⟨rfl, rfl⟩ := List.cons.inj split
      simp [exchanges, exchange?] at silent
    | nil =>
      cases split
      rw [dumpRows_eq] at cutPath
      rcases cut with fault | ⟨n, fault⟩
      · rcases path_exceptBind_iff.1 cutPath with ⟨e, query, rfl⟩ | ⟨u, stream', v, parts, query, -⟩
        · obtain ⟨answer, same, -⟩ := Dumping.path_ask_iff.1 query
          cases same
          exact ⟨not_okWith_error, [], [], List.nil_prefix, rfl, rfl, .refused _ fault⟩
        · obtain ⟨answer, rfl, hr⟩ := Dumping.path_ask_iff.1 query
          cases parts
          cases hr
      · have arrived : { stream with rows := stream.rows.take n, failure := none }.Holds
            (rows.take n) := ⟨rfl, List.forall₂_take n holds.2⟩
        have early : (rows.take n).map renderRow <+: rows.map renderRow :=
          (List.take_prefix n rows).map renderRow
        rcases path_exceptBind_iff.1 cutPath with ⟨e, query, rfl⟩ | ⟨u, stream', v, parts, query, rest'⟩
        · obtain ⟨answer, same, hr⟩ := Dumping.path_ask_iff.1 query
          cases same
          cases hr
        · obtain ⟨answer, rfl, hr⟩ := Dumping.path_ask_iff.1 query
          cases parts
          cases hr
          obtain ⟨failed, wrote⟩ := takeRows_of_failure hs hp arrived rfl rest' cutSound
          exact ⟨failed, [], _, (Batch.placeAll_prefix_groups early).map _, rfl,
            wrote.trans (text _), .rows arrived⟩

end Dump

theorem composes_dumpTable (t : Table) :
    Composes m (Dump.dumpTable t m.options m.style) fun e ps stats => ∃ data,
      let c := Content.table t data
      c.Arrived ∧ e = c.exchanges ∧ ps = c.pieces m.options ∧
        stats = { rows := (c.groups m.options).flatten.length
                  statements := (c.groups m.options).length } := by
  unfold Dump.dumpTable
  refine (composes_ask (c := .showCreateTable t.name) nofun _).bind ?_
  rintro e ps createSql ⟨rfl, rfl⟩
  refine (composes_piece (p := .tableHead t createSql) rfl).bind ?_
  rintro e ps u ⟨rfl, rfl⟩
  by_cases none : t.columns.isEmpty
  · dsimp only
    rw [if_pos none]
    have empty : ({ columns := [], rows := [] } : ResultStream).Holds [] := ⟨rfl, .nil⟩
    refine (composes_pure (Q := fun e ps a => e = [] ∧ ps = [] ∧ a = {}) ⟨rfl, rfl, rfl⟩).bind ?_
    rintro e ps stats ⟨rfl, rfl, rfl⟩
    refine (composes_piece (p := .tableTail t) rfl).bind ?_
    rintro e ps u ⟨rfl, rfl⟩
    refine composes_pure ⟨{ createSql }, empty, ?_, ?_, ?_⟩
    · simp [Content.exchanges, none]
    · simp [Content.pieces, Content.groups, none]
    · simp [Content.groups, none]
  · dsimp only
    rw [if_neg none]
    refine (Dump.composes_dumpRows t).bind ?_
    rintro e ps stats ⟨stream, rows, holds, rfl, rfl, rfl⟩
    refine (composes_piece (p := .tableTail t) rfl).bind ?_
    rintro e ps u ⟨rfl, rfl⟩
    refine composes_pure ⟨{ createSql, stream, rows }, holds, ?_, ?_, ?_⟩
    · simp [Content.exchanges, none]
    · simp [Content.pieces, Content.groups, none]
    · simp [Content.groups, none]

theorem composes_dumpTablesAndStubs (summary : SchemaSummary) (objects : List SchemaObject) :
    Composes m (Dump.dumpTablesAndStubs m.options m.style summary objects) fun e ps a =>
      ∃ contents : List Content, contents.map (·.object) = objects ∧
        (∀ c ∈ contents, c.Arrived) ∧ e = contents.flatMap (·.exchanges) ∧
        ps = contents.flatMap (·.pieces m.options) ∧
        a = contents.foldl (Content.counted m.options) summary := by
  induction objects generalizing summary with
  | nil => exact composes_pure ⟨[], rfl, nofun, rfl, rfl, rfl⟩
  | cons object objects ih =>
    cases object with
    | table t =>
      refine (composes_dumpTable t).bind ?_
      rintro e ps stats ⟨data, arrived, rfl, rfl, rfl⟩
      refine (ih _).imp ?_
      rintro e ps a ⟨contents, rfl, all, rfl, rfl, rfl⟩
      exact ⟨.table t data :: contents, rfl, List.forall_mem_cons.2 ⟨arrived, all⟩, rfl, rfl, rfl⟩
    | view v =>
      refine (composes_piece (p := .viewStub v) rfl).bind ?_
      rintro e ps u ⟨rfl, rfl⟩
      refine (ih _).imp ?_
      rintro e ps a ⟨contents, rfl, all, rfl, rfl, rfl⟩
      exact ⟨.view v :: contents, rfl, List.forall_mem_cons.2 ⟨trivial, all⟩, rfl, rfl, rfl⟩

theorem composes_dumpViews (summary : SchemaSummary) (objects : List SchemaObject) :
    Composes m (Dump.dumpViews m.style summary objects) fun e ps a =>
      e = [] ∧ ps = objects.flatMap (·.finalPieces) ∧
        a = { summary with
              views := summary.views + objects.countP (·.table?.isNone) } := by
  induction objects generalizing summary with
  | nil => exact composes_pure ⟨rfl, rfl, rfl⟩
  | cons object objects ih =>
    cases object with
    | table t => exact ih _
    | view v =>
      refine (composes_piece (p := .viewFinal v) rfl).bind ?_
      rintro e ps u ⟨rfl, rfl⟩
      refine (ih _).imp ?_
      rintro e ps a ⟨rfl, rfl, rfl⟩
      refine ⟨rfl, rfl, ?_⟩
      rw [List.countP_cons_of_pos rfl, Nat.add_right_comm, Nat.add_assoc]

/-- What a server tells of a schema. -/
structure SchemaContents where
  server : ServerInfo
  found : List ObjectAnswers
  contents : List Content

namespace SchemaContents

/-- The calls that read objects, with those that lock and unlock their tables around them. -/
def locking (options : DumpOptions) (objects : List SchemaObject) (reading : List CallEvent) :
    List CallEvent :=
  if Dump.locks options objects then
    ⟨.execute (Table.lockSql (objects.filterMap (·.table?))), .ok ()⟩ ::
      (reading ++ [⟨.execute unlockSql, .ok ()⟩])
  else reading

/-- The calls that come before the objects of a schema. -/
def opening (schema : String) (style : DumpStyle) (server : ServerInfo) : List CallEvent :=
  match style with
  | .full => [
    ⟨.useSchema schema, .ok ()⟩,
    ⟨.execute "SET TIME_ZONE='+00:00'", .ok ()⟩,
    ⟨.serverInfo, .ok server⟩]
  | .compact => [⟨.useSchema schema, .ok ()⟩, ⟨.serverInfo, .ok server⟩]

/-- The calls of a dump with their answers, in order. -/
def exchanges (c : SchemaContents) (schema : String) (options : DumpOptions) (style : DumpStyle) :
    List CallEvent :=
  opening schema style c.server ++
    ⟨.listObjects schema, .ok (c.found.map (·.entry))⟩ ::
      (c.found.flatMap (·.exchanges schema) ++
        locking options (c.contents.map (·.object)) (c.contents.flatMap (·.exchanges)))

/-- What a dump writes. -/
def bytes (c : SchemaContents) (schema : String) (options : DumpOptions) (style : DumpStyle)
    (completed : DateTime) : Bytes :=
  (Section.header style schema c.server (!options.suppressUseDatabase)).bytes ++
    (c.contents.flatMap (·.bytes options style) ++
      (c.contents.map (·.object)).flatMap (·.finalBytes style) ++
      (Section.footer style completed).bytes)

/-- What a dump writes, in pieces. -/
def pieces (c : SchemaContents) (schema : String) (options : DumpOptions) : List Piece :=
  .header schema c.server ::
    (c.contents.flatMap (·.pieces options) ++
      (c.contents.map (·.object)).flatMap (·.finalPieces) ++ [.footer])

/-- The objects are those that were found, and their rows arrived without a fault. -/
structure Arrived (c : SchemaContents) (schema : String) (options : DumpOptions) : Prop where
  objects : c.contents.map (·.object) = c.found.map (·.object schema options)
  contents : ∀ x ∈ c.contents, x.Arrived

/-- The objects are those that were found, and what was read fits them. -/
structure Fits (c : SchemaContents) (schema : String) (options : DumpOptions) : Prop where
  server : Call.serverInfo.Suits c.server
  objects : c.contents.map (·.object) = c.found.map (·.object schema options)
  contents : ∀ x ∈ c.contents, x.Fits

end SchemaContents

open SchemaContents

theorem composes_dumpObjects (schema : String) (objects : List SchemaObject) :
    Composes m (Dump.dumpObjects schema objects m.options m.style) fun e ps a =>
      ∃ contents : List Content, contents.map (·.object) = objects ∧
        (∀ c ∈ contents, c.Arrived) ∧ e = contents.flatMap (·.exchanges) ∧
        ps = contents.flatMap (·.pieces m.options) ++ objects.flatMap (·.finalPieces) ∧
        a = SchemaSummary.ofContents schema m.options contents := by
  refine (composes_dumpTablesAndStubs _ objects).bind ?_
  rintro e ps summary ⟨contents, rfl, all, rfl, rfl, rfl⟩
  refine (composes_dumpViews _ _).imp ?_
  rintro e ps a ⟨rfl, rfl, rfl⟩
  exact ⟨contents, rfl, all, List.append_nil _, rfl, rfl⟩

theorem composes_survey (schema : String) :
    Composes m (Dump.survey schema m.options m.style) fun e ps objects =>
      ∃ (server : ServerInfo) (found : List ObjectAnswers),
        e = ⟨.serverInfo, .ok server⟩ :: ⟨.listObjects schema, .ok (found.map (·.entry))⟩ ::
          found.flatMap (·.exchanges schema) ∧
        ps = [.header schema server] ∧ objects = found.map (·.object schema m.options) := by
  have calm : Only (fun e => ∀ sql, e.1 ≠ .select sql) (introspect schema m.options).run :=
    (Dump.only_introspect schema m.options).imp fun _ he => he.ne_select
  refine (composes_ask (c := .serverInfo) nofun _).bind ?_
  rintro e ps server ⟨rfl, rfl⟩
  refine (composes_piece (p := .header schema server) rfl).bind ?_
  rintro e ps u ⟨rfl, rfl⟩
  refine (composes_asking (fun _ _ => path_introspect)
    (surfaces_introspect schema m.options) calm).imp ?_
  rintro e ps objects ⟨rfl, found, rfl, rfl⟩
  exact ⟨server, found, rfl, rfl, rfl⟩

theorem composes_prepare (schema : String) :
    Composes m (Dump.prepare schema m.options m.style) fun e ps objects =>
      ∃ (server : ServerInfo) (found : List ObjectAnswers),
        e = opening schema m.style server ++
          ⟨.listObjects schema, .ok (found.map (·.entry))⟩ :: found.flatMap (·.exchanges schema) ∧
        ps = [.header schema server] ∧ objects = found.map (·.object schema m.options) := by
  have survey := composes_survey (m := m) schema
  refine (composes_ask (c := .useSchema schema) nofun _).bind ?_
  rintro e ps u ⟨rfl, rfl⟩
  obtain ⟨options, style, clock⟩ := m
  cases style with
  | compact =>
    refine survey.imp ?_
    rintro e ps objects ⟨server, found, rfl, rfl, rfl⟩
    exact ⟨server, found, rfl, rfl, rfl⟩
  | full =>
    refine (composes_ask (c := .execute _) nofun _).bind ?_
    rintro e ps u ⟨rfl, rfl⟩
    refine survey.imp ?_
    rintro e ps objects ⟨server, found, rfl, rfl, rfl⟩
    exact ⟨server, found, rfl, rfl, rfl⟩

theorem composes_dumpFound (schema : String) (objects : List SchemaObject) :
    Composes m (Dump.dumpFound schema m.options m.style objects) fun e ps a =>
      ∃ contents : List Content, contents.map (·.object) = objects ∧
        (∀ c ∈ contents, c.Arrived) ∧
        e = locking m.options objects (contents.flatMap (·.exchanges)) ∧
        ps = contents.flatMap (·.pieces m.options) ++ objects.flatMap (·.finalPieces) ∧
        a = SchemaSummary.ofContents schema m.options contents := by
  have all := composes_dumpObjects (m := m) schema objects
  unfold Dump.dumpFound locking
  split_ifs with locked
  · rw [Dump.dumpLocked_eq]
    refine (composes_ask (c := .execute _) nofun _).bind ?_
    rintro e ps u ⟨rfl, rfl⟩
    refine (composes_followedBy all (c := .execute unlockSql) nofun).imp ?_
    rintro e ps a ⟨e', last, rfl, contents, same, arrived, rfl, rfl, rfl⟩
    exact ⟨contents, same, arrived, rfl, rfl, rfl⟩
  · exact all

theorem composes_complete (summary : SchemaSummary) :
    Composes m (Dump.complete m.style summary) fun e ps a =>
      e = [] ∧ ps = [.footer] ∧ a = summary := by
  refine composes_now.bind ?_
  rintro e ps time ⟨rfl, rfl, rfl⟩
  refine (composes_piece (p := .footer) rfl).bind ?_
  rintro e ps u ⟨rfl, rfl⟩
  refine composes_flush.bind ?_
  rintro e ps u ⟨rfl, rfl⟩
  exact composes_pure ⟨rfl, rfl, rfl⟩

/-- A dump that succeeds makes the calls of some contents, writes their pieces and counts them. -/
theorem composes_dumpSchema (schema : String) :
    Composes m (Dump.dumpSchema schema m.options m.style) fun e ps a =>
      ∃ c : SchemaContents, c.Arrived schema m.options ∧ e = c.exchanges schema m.options m.style ∧
        ps = c.pieces schema m.options ∧ a = SchemaSummary.ofContents schema m.options c.contents := by
  rw [Dump.dumpSchema_eq, bind_assoc]
  refine (composes_prepare schema).bind ?_
  rintro e ps objects ⟨server, found, rfl, rfl, rfl⟩
  refine (composes_dumpFound schema _).bind ?_
  rintro e ps summary ⟨contents, same, arrived, rfl, rfl, rfl⟩
  refine (composes_complete _).imp ?_
  rintro e ps a ⟨rfl, rfl, rfl⟩
  refine ⟨⟨server, found, contents⟩, ⟨same, arrived⟩, ?_, ?_, rfl⟩
  · simp [SchemaContents.exchanges, same]
  · simp [SchemaContents.pieces, same]

/-! ## Contents that suit a dump -/

theorem Content.text_pieces (m : Manner) (c : Content) :
    Piece.text m (c.pieces m.options) = c.bytes m.options m.style := by
  cases c with
  | view v => exact Piece.text_singleton m _
  | table t data =>
    have cons (p : Piece) (ps : List Piece) : Piece.text m (p :: ps) = p.bytes m ++ Piece.text m ps :=
      rfl
    have statements : ((t.batch m.options).statements data.rows).flatten =
        ((t.batch m.options).groups (data.rows.map renderRow)).flatMap
          (Batch.line (utf8 t.insertStem)) := by
      rw [Batch.statements, stem_batch, List.flatMap_def]
    rw [pieces, cons, Piece.text_append, Piece.text_insert, Piece.text_singleton, bytes, groups,
      statements]
    by_cases none : t.columns.isEmpty
    · rw [if_pos none, if_pos none]
      rfl
    · rw [if_neg none, if_neg none]
      rfl

theorem SchemaObject.text_finalPieces (m : Manner) (o : SchemaObject) :
    Piece.text m o.finalPieces = o.finalBytes m.style := by
  cases o with
  | table t => rfl
  | view v => exact Piece.text_singleton m _

theorem SchemaContents.text_pieces (m : Manner) (c : SchemaContents) (schema : String) :
    Piece.text m (c.pieces schema m.options) = c.bytes schema m.options m.style m.clock := by
  have cons (p : Piece) (ps : List Piece) : Piece.text m (p :: ps) = p.bytes m ++ Piece.text m ps :=
    rfl
  have flat {ι : Type} (xs : List ι) (f : ι → List Piece) :
      Piece.text m (xs.flatMap f) = xs.flatMap fun x => Piece.text m (f x) :=
    List.flatMap_assoc
  rw [pieces, cons, Piece.text_append, Piece.text_append, flat, flat, Piece.text_singleton, bytes]
  simp only [Content.text_pieces, SchemaObject.text_finalPieces]
  rfl

section Exchanges

variable {c : SchemaContents} (schema : String) (options : DumpOptions) (style : DumpStyle)
  {e : CallEvent}

theorem SchemaContents.mem_exchanges_of_found {a : ObjectAnswers} (ha : a ∈ c.found)
    (he : e ∈ a.exchanges schema) : e ∈ c.exchanges schema options style := by
  refine List.mem_append_right _ (List.mem_cons_of_mem _ (List.mem_append_left _ ?_))
  exact List.mem_flatMap.2 ⟨a, ha, he⟩

theorem SchemaContents.mem_exchanges_of_content {x : Content} (hx : x ∈ c.contents)
    (he : e ∈ x.exchanges) : e ∈ c.exchanges schema options style := by
  refine List.mem_append_right _ (List.mem_cons_of_mem _ (List.mem_append_right _ ?_))
  have inner := List.mem_flatMap.2 ⟨x, hx, he⟩
  unfold locking
  split_ifs
  · exact List.mem_cons_of_mem _ (List.mem_append_left _ inner)
  · exact inner

end Exchanges

/-- What served calls tell can be printed. -/
theorem SchemaContents.Arrived.fits {c : SchemaContents} {schema : String} {options : DumpOptions}
    (h : c.Arrived schema options) (style : DumpStyle)
    (served : ∀ e ∈ c.exchanges schema options style, Call.Served e) : c.Fits schema options := by
  have server : ⟨.serverInfo, .ok c.server⟩ ∈ c.exchanges schema options style := by
    cases style <;> simp [exchanges, opening]
  have list : ⟨.listObjects schema, .ok (c.found.map (·.entry))⟩ ∈ c.exchanges schema options style :=
    List.mem_append_right _ List.mem_cons_self
  have prints {x : Content} (hx : x ∈ c.contents) : x.object.Prints := by
    have listed : x.object ∈ c.found.map (·.object schema options) :=
      h.objects ▸ List.mem_map_of_mem hx
    obtain ⟨a, ha, same⟩ := List.mem_map.1 listed
    have names := okWith_ok_iff.1 (served _ list)
    rw [← same]
    exact a.prints options (names _ (List.mem_map_of_mem ha)).2 fun e he =>
      served e (c.mem_exchanges_of_found schema options style ha he)
  refine ⟨okWith_ok_iff.1 (served _ server), h.objects, fun x hx => ?_⟩
  have object := prints hx
  cases x with
  | table t data =>
    have create := served ⟨.showCreateTable t.name, .ok data.createSql⟩
      (c.mem_exchanges_of_content schema options style hx List.mem_cons_self)
    exact ⟨object, okWith_ok_iff.1 create, h.contents _ hx⟩
  | view v => exact object

/-- Where nothing goes wrong, a dump makes the calls and writes the bytes of some contents. -/
theorem dumps_dumpSchema {clock : DateTime} (schema : String) (options : DumpOptions)
    (style : DumpStyle) :
    Dumps clock (Dump.dumpSchema schema options style) fun e b _ =>
      ∃ c : SchemaContents, c.Fits schema options ∧ e = c.exchanges schema options style ∧
        b = c.bytes schema options style clock := by
  intro t r path clean
  obtain ⟨sound, served⟩ := forall_mem_clean_iff.1 clean
  have succeeded := (Dump.surfaces_dumpSchema schema options style t r path).2
    (forall_mem_not_faulty sound fun e he => (served e he).not_faulty)
  obtain ⟨ps, wrote, ⟨a, rfl, c, arrived, told, rfl, -⟩, -⟩ :=
    composes_dumpSchema (m := ⟨options, style, clock⟩) schema t r path sound succeeded
  refine ⟨a, rfl, c, arrived.fits style (told ▸ served), told, ?_⟩
  rw [wrote, SchemaContents.text_pieces]

end LogicalBackup
