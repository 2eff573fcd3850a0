import LogicalBackup.Proofs.Dump.Contents

/-!
# Statements of a dump

The statements that restore finds in a dump are those of its contents
(`SchemaContents.statements`), and after the last of them there is nothing but a comment
(`dumpSchema_splitsInto`).
-/

namespace LogicalBackup

open Program DumpEvent

/-! ## The statements of contents -/

/-- The statements of an object in the first pass over all objects. -/
def Content.statements (options : DumpOptions) (style : DumpStyle) : Content → List Bytes
  | table t data =>
    (Section.tableHeadStatements style t.name data.createSql).map Lines.bytes ++
      ((if t.columns.isEmpty then [] else (t.batch options).statements data.rows) ++
        (Section.tableTailStatements style t.name).map Lines.bytes)
  | view v => (Section.viewStubStatements style v).map Lines.bytes

/-- The statements of an object in the second pass over all objects. -/
def SchemaObject.finalStatements (style : DumpStyle) : SchemaObject → List Bytes
  | .table _ => []
  | .view v => (Section.viewFinalStatements style v).map Lines.bytes

/-- The statements of a dump. -/
def SchemaContents.statements (c : SchemaContents) (schema : String) (options : DumpOptions)
    (style : DumpStyle) : List Bytes :=
  (Section.headerStatements style schema c.server (!options.suppressUseDatabase)).map Lines.bytes ++
    (c.contents.flatMap (·.statements options style) ++
      (c.contents.map (·.object)).flatMap (·.finalStatements style) ++
      (Section.footerStatements style).map Lines.bytes)

theorem lineFeed_not_mem_quoteIdentifiers {names : List String}
    (h : ∀ name ∈ names, '\n' ∉ name.toList) : '\n' ∉ (quoteIdentifiers names).toList := by
  rw [quoteIdentifiers, String.toList_intercalate]
  refine not_mem_intercalate (by decide) fun part hpart => ?_
  obtain ⟨quoted, hquoted, rfl⟩ := List.mem_map.1 hpart
  obtain ⟨name, hname, rfl⟩ := List.mem_map.1 hquoted
  exact lineFeed_not_mem_quoteIdentifier (h name hname)

theorem lineFeed_not_mem_stem {t : Table} (h : t.Prints) (options : DumpOptions) :
    Byte.lineFeed ∉ (t.batch options).stem := by
  have name := lineFeed_not_mem_quoteIdentifier h.name
  have columns := lineFeed_not_mem_quoteIdentifiers h.columns
  have stem : '\n' ∉ t.insertStem.toList := by
    unfold Table.insertStem
    refine lineFeed_not_mem_append (lineFeed_not_mem_append (lineFeed_not_mem_append
      (lineFeed_not_mem_append ?_ name) ?_) columns) ?_
    all_goals exact lineFeed_not_mem_ofList (by decide)
  rwa [stem_batch, lineFeed_mem_utf8_iff]

theorem Content.Fits.forms {c : Content} (h : c.Fits) (options : DumpOptions) (style : DumpStyle) :
    Forms [] (c.bytes options style) (c.statements options style) [] := by
  cases c with
  | table t data =>
    obtain ⟨prints, quiet, -⟩ := h
    have head := (Section.cut_tableHead style prints.name quiet).forms
    have tail := (Section.cut_tableTail style prints.name).forms
    refine head.append (Forms.append ?_ tail)
    by_cases none : t.columns.isEmpty
    · rw [if_pos none, if_pos none]
      exact forms_nil []
    · rw [if_neg none, if_neg none]
      exact Batch.forms_statements (lineFeed_not_mem_stem prints options) data.rows
  | view v => exact (Section.cut_viewStub style h.name h.columns).forms

theorem SchemaObject.Prints.forms {o : SchemaObject} (h : o.Prints) (style : DumpStyle) :
    Forms [] (o.finalBytes style) (o.finalStatements style) [] := by
  cases o with
  | table t => exact forms_nil []
  | view v =>
    exact (Section.cut_viewFinal style h.name h.charset h.collation h.createSql h.definition).forms

theorem Content.Fits.prints {c : Content} (h : c.Fits) : c.object.Prints := by
  cases c with
  | table t data => exact h.1
  | view v => exact h

/-- Restore finds the statements of the contents, and the footer leaves its comment. -/
theorem SchemaContents.Fits.forms {c : SchemaContents} {schema : String} {options : DumpOptions}
    (h : c.Fits schema options) (hs : EndsLine schema) (style : DumpStyle) (completed : DateTime) :
    Forms [] (c.bytes schema options style completed) (c.statements schema options style)
      (Section.footerRest style completed).bytes := by
  obtain ⟨⟨version, charset, collation⟩, -, fits⟩ := h
  have header := (Section.cut_header style hs version charset collation
    (!options.suppressUseDatabase)).forms
  have contents := forms_flatMap fun x hx => (fits x hx).forms options style
  have finals : ∀ o ∈ c.contents.map (·.object),
      Forms [] (o.finalBytes style) (o.finalStatements style) [] := by
    intro o ho
    obtain ⟨x, hx, rfl⟩ := List.mem_map.1 ho
    exact (fits x hx).prints.forms style
  have footer := (Section.cut_footer style completed).forms
  exact header.append ((contents.append (forms_flatMap finals)).append footer)

/-! ## After the last statement -/

/-- A line that begins as a comment does. -/
theorem isSqlLine_comment (b : Bytes) : Splitter.isSqlLine (utf8 "--" ++ b) = false := by
  have bar : utf8 "--" = [0x2d, 0x2d] := by decide
  have kept : (utf8 "--" ++ b).dropWhile Splitter.isAsciiBlank = utf8 "--" ++ b := by
    rw [bar]
    exact List.dropWhile_cons_of_neg (by decide)
  have start : (utf8 "--").isPrefixOf (utf8 "--" ++ b) := by simp
  unfold Splitter.isSqlLine
  rw [kept]
  dsimp only
  rw [start, Bool.not_true, Bool.and_false]

/-- What a footer leaves over holds no statement. -/
theorem remainderHasSql_footerRest (style : DumpStyle) (completed : DateTime) {s : Splitter}
    (h : s.remainder = (Section.footerRest style completed).bytes) :
    s.remainderHasSql = false := by
  unfold Splitter.remainder at h
  unfold Splitter.remainderHasSql
  rw [h]
  cases style with
  | compact => rfl
  | full =>
    have feedless : Byte.lineFeed ∉ utf8 ("-- Dump completed on " ++ completed.text) := by
      rw [lineFeed_mem_utf8_iff]
      exact (Section.isLine_completed completed).not_mem
    have comment :
        Splitter.isSqlLine (utf8 ("-- Dump completed on " ++ completed.text)) = false := by
      have start : "-- Dump completed on " = "--" ++ " Dump completed on " := by decide
      rw [start, String.append_assoc, utf8_append]
      exact isSqlLine_comment _
    rw [Section.footerRest, Lines.bytes_singleton, cutLines_line feedless []]
    generalize utf8 ("-- Dump completed on " ++ completed.text) = line at comment
    have one : [line ++ [Byte.lineFeed]].map List.dropLast = [line] := by simp
    dsimp only [cutLines, List.foldr_nil]
    rw [one, List.any_cons, comment]
    rfl

/-! ## Runs -/

section Runs

variable {α σ ω : Type} {world : DumpWorld σ ω} {fit : ω → Prop} {content : ω → Bytes}

/-- Where the writer does not fail, its content grows by what is dumped. -/
theorem DumpWorld.sound_trace (records : world.writer.Records fit content)
    (p : Program DumpOp.Reply α) {s : σ} {w : ω} (hw : fit w) :
    (∀ e ∈ p.trace world.answer (s, w), Sound world.clock e) ∧
      fit (p.run world.answer (s, w)).2.2 ∧
      content (p.run world.answer (s, w)).2.2 =
        content w ++ dumped (p.trace world.answer (s, w)) := by
  induction p generalizing s w with
  | done a => exact ⟨fun e he => absurd he List.not_mem_nil, hw, (List.append_nil _).symm⟩
  | step op next ih =>
    rw [run_step]
    rw [Program.trace]
    cases op with
    | ask c =>
      obtain ⟨sound, last, grown⟩ := ih (world.server c s).1 (s := (world.server c s).2) hw
      exact ⟨List.forall_mem_cons.2 ⟨trivial, sound⟩, last, grown⟩
    | write op =>
      cases op with
      | write b =>
        obtain ⟨ok, hw', taken⟩ := records.write w b hw
        obtain ⟨sound, last, grown⟩ := ih (world.writer.write w b).1 (s := s) hw'
        refine ⟨List.forall_mem_cons.2 ⟨ok, sound⟩, last, grown.trans ?_⟩
        rw [taken, List.append_assoc]
        rfl
      | flush =>
        obtain ⟨ok, hw', same⟩ := records.flush w hw
        obtain ⟨sound, last, grown⟩ := ih (world.writer.flush w).1 (s := s) hw'
        refine ⟨List.forall_mem_cons.2 ⟨ok, sound⟩, last, grown.trans ?_⟩
        rw [same]
        rfl
    | now =>
      obtain ⟨sound, last, grown⟩ := ih world.clock (s := s) hw
      exact ⟨List.forall_mem_cons.2 ⟨rfl, sound⟩, last, grown⟩

theorem Dumps.run {x : Dumping α} {Q : List CallEvent → Bytes → α → Prop}
    (hx : Dumps world.clock x Q) (records : world.writer.Records fit content) {s : σ} {w : ω}
    (hw : fit w) (served : ∀ e ∈ exchanges (trace world.answer x.run (s, w)), Call.Served e) :
    ∃ a out, (Program.run world.answer x.run (s, w)).1 = .ok a ∧
      content (Program.run world.answer x.run (s, w)).2.2 = content w ++ out ∧
      Q (exchanges (trace world.answer x.run (s, w))) out a := by
  obtain ⟨sound, -, grown⟩ := DumpWorld.sound_trace records x.run (s := s) hw
  obtain ⟨a, ok, hq⟩ := hx _ _ (path_trace world.answer x.run (s, w))
    (forall_mem_clean_iff.2 ⟨sound, served⟩)
  exact ⟨a, _, ok, grown, hq⟩

/-- Where calls are served and the writer does not fail, a schema is dumped, and restore finds in
what is written the statements of what the server told of it, object by object in the order of the
server's list.  Nothing but a comment follows the last of them. -/
theorem dumpSchema_splitsInto (records : world.writer.Records fit content) {s : σ} {w : ω}
    (hw : fit w) {schema : String} (hs : EndsLine schema) (options : DumpOptions)
    (style : DumpStyle) :
    let program := (Dump.dumpSchema schema options style).run
    let told := exchanges (trace world.answer program (s, w))
    let final := Program.run world.answer program (s, w)
    (∀ e ∈ told, Call.Served e) →
      ∃ (c : SchemaContents) (summary : SchemaSummary) (out : Bytes),
        told = c.exchanges schema options style ∧ c.Fits schema options ∧
        final.1 = .ok summary ∧ content final.2.2 = content w ++ out ∧
        SplitsInto out (c.statements schema options style)
          (Section.footerRest style world.clock).bytes ∧
        ∀ chunks : List Bytes, chunks.flatten = out →
          (Splitter.ofSource (chunks.map .ok)).events.2.remainderHasSql = false := by
  intro program told final served
  have dumps : Dumps world.clock _ _ := dumps_dumpSchema schema options style
  obtain ⟨summary, out, ok, grown, c, fits, same, rfl⟩ := dumps.run records hw served
  have forms := fits.forms hs style world.clock
  refine ⟨c, summary, _, same, fits, ok, grown, forms.splitsInto, fun chunks hchunks => ?_⟩
  exact remainderHasSql_footerRest style world.clock (forms.splitsInto chunks hchunks).2

/-- What holds of all answers of a server holds of the calls of a run. -/
theorem DumpWorld.forall_mem_exchanges (world : DumpWorld σ ω) {P : CallEvent → Prop}
    (h : ∀ c s, P ⟨c, (world.server c s).1⟩) (p : Program DumpOp.Reply α) (s : σ × ω) :
    ∀ e ∈ exchanges (p.trace world.answer s), P e := by
  intro e he
  obtain ⟨d, hd, found⟩ := List.mem_filterMap.1 he
  have all : ∀ d ∈ p.trace world.answer s, ∀ e, exchange? d = some e → P e := by
    refine forall_mem_trace (fun op s e found => ?_) p s
    cases op with
    | ask c =>
      cases found
      exact h c s.1
    | write op => cases found
    | now => cases found
  exact all d hd e found

/-- A server whose answers always suit serves every call. -/
theorem DumpWorld.served (world : DumpWorld σ ω) (h : ∀ c s, OkWith c.Suits (world.server c s).1)
    (p : Program DumpOp.Reply α) (s : σ × ω) :
    ∀ e ∈ exchanges (p.trace world.answer s), Call.Served e :=
  world.forall_mem_exchanges h p s

end Runs

/-- A server with a view and a table that has one row. -/
def exampleServer : Server Unit := fun c s =>
  (match c with
    | .serverInfo => .ok { version := "8.0.36", charset := "utf8mb4" }
    | .listObjects _ => .ok [⟨"shown", "VIEW"⟩, ⟨"kept;", "BASE TABLE"⟩]
    | .listColumns _ _ => .ok [⟨"n", ""⟩]
    | .showCreateTable _ => .ok "CREATE TABLE `kept;` (\n  `n` int\n)"
    | .showCreateView _ => .ok "CREATE VIEW `shown` AS select 1 AS `n`"
    | .viewCharset _ view => .ok ⟨view, "utf8mb4", "utf8mb4_bin"⟩
    | .select _ => .ok { columns := [⟨"n", "INT", .signedInteger, true⟩], rows := [[none]] }
    | .listSchemas => .ok []
    | .apply _ => .ok 0
    | .beginSnapshot | .useSchema _ | .execute _ | .endSnapshot | .beginRestore | .commit
    | .rollback => .ok (), s)

theorem exampleServer_suits (c : Call) (s : Unit) : OkWith c.Suits (exampleServer c s).1 := by
  cases c with
  | serverInfo => exact ⟨_, rfl, ⟨by decide, by decide⟩, by decide, by decide⟩
  | listObjects schema =>
    have view : '\n' ∉ "shown".toList := lineFeed_not_mem_ofList (by decide)
    have table : '\n' ∉ "kept;".toList := lineFeed_not_mem_ofList (by decide)
    refine ⟨_, rfl, List.forall_mem_cons.2 ⟨⟨.inr rfl, view⟩, ?_⟩⟩
    exact List.forall_mem_singleton.2 ⟨.inl rfl, table⟩
  | listColumns schema object =>
    have column : '\n' ∉ "n".toList := lineFeed_not_mem_ofList (by decide)
    exact ⟨_, rfl, List.forall_mem_singleton.2 column⟩
  | showCreateTable table => exact ⟨_, rfl, isQuiet_ofList (by decide)⟩
  | showCreateView view => exact ⟨_, rfl, isQuiet_ofList (by decide)⟩
  | viewCharset schema view =>
    exact ⟨_, rfl, rfl, lineFeed_not_mem_ofList (by decide), lineFeed_not_mem_ofList (by decide)⟩
  | select sql =>
    have row : ScansRow [.integer] [none] := ⟨rfl, List.forall_mem_singleton.2 ⟨.null, rfl⟩⟩
    exact ⟨_, rfl, rfl, List.forall_mem_singleton.2 row⟩
  | _ => exact ⟨_, rfl, trivial⟩

/-- A name that ends in a semicolon, as `kept;` does, ends no statement. -/
theorem dumpSchema_splitsInto_of_exampleServer :
    let world : DumpWorld Unit Medium := {
      server := exampleServer
      writer := Medium.sink.writer
      clock := DateTime.epoch }
    let program := (Dump.dumpSchema "shop" { lockTables := true } .full).run
    ∃ (c : SchemaContents) (summary : SchemaSummary) (out : Bytes),
      exchanges (trace world.answer program ((), {})) =
        c.exchanges "shop" { lockTables := true } .full ∧
      (Program.run world.answer program ((), {})).1 = .ok summary ∧
      (Program.run world.answer program ((), {})).2.2.content = out ∧
      SplitsInto out (c.statements "shop" { lockTables := true } .full)
        (Section.footerRest .full world.clock).bytes := by
  intro world program
  have schema : EndsLine "shop" := ⟨by decide, by decide⟩
  have records : world.writer.Records _ _ := Medium.neverFails_sink.records
  have served : ∀ e ∈ exchanges (trace world.answer program ((), {})), Call.Served e :=
    world.served exampleServer_suits program ((), {})
  obtain ⟨c, summary, out, told, -, ok, grown, splits, -⟩ := dumpSchema_splitsInto records (w := {})
    ⟨rfl, rfl⟩ schema { lockTables := true } .full served
  exact ⟨c, summary, out, told, ok, grown, splits⟩

end LogicalBackup
