import LogicalBackup.Proofs.Catalog.ViewDefinition
import LogicalBackup.Proofs.Dump.Sections

/-!
# Statements of tables and views

For each section of a dump, the statements that restore finds in it: `tableHeadStatements` and so
on say which lines stand together, and `cut_tableHead` and so on that the splitter agrees.
-/

namespace LogicalBackup

namespace Section

/-! ## Tables -/

/-- The statements of the section before the rows of a table. -/
def tableHeadStatements (style : DumpStyle) (name createSql : String) : List Lines :=
  let quoted := quoteIdentifier name
  match style with
  | .full => [
    ["--", "-- Table structure for table " ++ quoted, "--",
      "DROP TABLE IF EXISTS " ++ quoted ++ ";"],
    ["/*!40101 SET @saved_cs_client     = @@character_set_client */;"],
    ["/*!50503 SET character_set_client = utf8mb4 */;"],
    [createSql ++ ";"],
    ["/*!40101 SET character_set_client = @saved_cs_client */;"],
    ["--", "-- Dumping data for table " ++ quoted, "--", "LOCK TABLES " ++ quoted ++ " WRITE;"],
    ["/*!40000 ALTER TABLE " ++ quoted ++ " DISABLE KEYS */;"]]
  | .compact => [["DROP TABLE IF EXISTS " ++ quoted ++ ";"], [createSql ++ ";"]]

/-- The statements of the section after the rows of a table. -/
def tableTailStatements (style : DumpStyle) (name : String) : List Lines :=
  match style with
  | .full => [
    ["/*!40000 ALTER TABLE " ++ quoteIdentifier name ++ " ENABLE KEYS */;"],
    ["UNLOCK TABLES;"]]
  | .compact => []

theorem isClosing_saveClient :
    IsClosing "/*!40101 SET @saved_cs_client     = @@character_set_client */;" :=
  isClosing_ofList (by decide) (by decide)

theorem isClosing_setClient : IsClosing "/*!50503 SET character_set_client = utf8mb4 */;" :=
  isClosing_ofList (by decide) (by decide)

theorem cut_tableHead (style : DumpStyle) {name createSql : String} (hn : '\n' ∉ name.toList)
    (hc : IsQuiet createSql) :
    Cut [] (tableHead style name createSql) (tableHeadStatements style name createSql) [] := by
  have quoted := lineFeed_not_mem_quoteIdentifier hn
  have drop : IsClosing ("DROP TABLE IF EXISTS " ++ quoteIdentifier name ++ ";") :=
    isClosing_between quoted (by decide) (by decide) (by decide)
  cases style with
  | compact => exact .closing drop <| .closing hc.isClosing .nil
  | full =>
    have head : IsQuiet ("-- Table structure for table " ++ quoteIdentifier name) :=
      isQuiet_quoted hn (by decide) (by decide) (by decide)
    have restoreClient : IsClosing "/*!40101 SET character_set_client = @saved_cs_client */;" :=
      isClosing_ofList (by decide) (by decide)
    have data : IsQuiet ("-- Dumping data for table " ++ quoteIdentifier name) :=
      isQuiet_quoted hn (by decide) (by decide) (by decide)
    have lock : IsClosing ("LOCK TABLES " ++ quoteIdentifier name ++ " WRITE;") :=
      isClosing_between quoted (by decide) (by decide) (by decide)
    have disable :
        IsClosing ("/*!40000 ALTER TABLE " ++ quoteIdentifier name ++ " DISABLE KEYS */;") :=
      isClosing_between quoted (by decide) (by decide) (by decide)
    exact .blank <| .quiet isQuiet_bar <| .quiet head <| .quiet isQuiet_bar <| .blank <|
      .closing drop <| .closing isClosing_saveClient <| .closing isClosing_setClient <|
      .closing hc.isClosing <| .closing restoreClient <| .blank <| .quiet isQuiet_bar <|
      .quiet data <| .quiet isQuiet_bar <| .blank <| .closing lock <| .closing disable .nil

theorem cut_tableTail (style : DumpStyle) {name : String} (hn : '\n' ∉ name.toList) :
    Cut [] (tableTail style name) (tableTailStatements style name) [] := by
  cases style with
  | compact => exact .nil
  | full =>
    have enable : IsClosing ("/*!40000 ALTER TABLE " ++ quoteIdentifier name ++
        " ENABLE KEYS */;") :=
      isClosing_between (lineFeed_not_mem_quoteIdentifier hn) (by decide) (by decide) (by decide)
    have unlock : IsClosing "UNLOCK TABLES;" := isClosing_ofList (by decide) (by decide)
    exact .closing enable <| .closing unlock .nil

/-! ## Stubs -/

/-- The statements of the stub of a view. -/
def viewStubStatements (style : DumpStyle) (view : View) : List Lines :=
  let quoted := quoteIdentifier view.name
  let create : Lines := [
    "/*!50001 CREATE VIEW " ++ quoted ++ " AS SELECT",
    String.intercalate ",\n" (view.columns.map fun c => " 1 AS " ++ quoteIdentifier c) ++ " */;"]
  match style with
  | .full => [
    ["--", "-- Temporary view structure for view " ++ quoted, "--",
      "/*!50001 DROP VIEW IF EXISTS " ++ quoted ++ "*/;"],
    ["SET @saved_cs_client     = @@character_set_client;"],
    ["/*!50503 SET character_set_client = utf8mb4 */;"],
    create,
    ["SET character_set_client = @saved_cs_client;"]]
  | .compact => [["/*!50001 DROP VIEW IF EXISTS " ++ quoted ++ "*/;"], create]

theorem isClosing_dropView {name : String} (h : '\n' ∉ name.toList) : IsClosing (dropView name) :=
  isClosing_between (lineFeed_not_mem_quoteIdentifier h) (by decide) (by decide) (by decide)

/-- Each column of a stub has a line of its own. -/
theorem isChain_stubColumns {columns : List String} (h : ∀ c ∈ columns, '\n' ∉ c.toList) :
    ('\n' :: (stubColumns columns).toList).IsChain Keeps := by
  unfold stubColumns
  induction columns with
  | nil => exact List.isChain_singleton _
  | cons c columns ih =>
    obtain ⟨first, rest⟩ := List.forall_mem_cons.1 h
    have item : '\n' ∉ (" 1 AS " ++ quoteIdentifier c).toList :=
      lineFeed_not_mem_append (lineFeed_not_mem_ofList (by decide))
        (lineFeed_not_mem_quoteIdentifier first)
    cases columns with
    | nil =>
      rw [List.map_singleton, String.intercalate_singleton]
      exact isChain_keeps_of_not_mem item
    | cons d columns =>
      have line : IsLine (" 1 AS " ++ quoteIdentifier c ++ ",") :=
        IsLine.append_left (isLine_ofList (by decide) (by decide) (by decide)) item
      have feed : (",\n" : String).toList = ",".toList ++ ['\n'] := rfl
      rw [List.map_cons] at ih ⊢
      rw [List.map_cons, String.intercalate_cons_cons, String.toList_append, String.toList_append,
        feed, ← List.append_assoc, ← String.toList_append, List.append_assoc,
        List.singleton_append]
      exact line.isChain (ih rest)

theorem cut_createStub {view : View} (hn : '\n' ∉ view.name.toList)
    (hc : ∀ c ∈ view.columns, '\n' ∉ c.toList) :
    Cut [] (createStub view) [createStub view] [] := by
  have head : IsQuiet ("/*!50001 CREATE VIEW " ++ quoteIdentifier view.name ++ " AS SELECT") := by
    have start := lineFeed_not_mem_append
      (lineFeed_not_mem_ofList (by decide) : '\n' ∉ "/*!50001 CREATE VIEW ".toList)
      (lineFeed_not_mem_quoteIdentifier hn)
    have select : IsLine " AS SELECT" := isLine_ofList (by decide) (by decide) (by decide)
    exact (select.append_left start).isQuiet
  have columns : IsClosing (stubColumns view.columns ++ " */;") := by
    refine ⟨?_, ?_⟩
    · rw [String.toList_append, ← List.cons_append]
      exact isChain_keeps_append (isChain_stubColumns hc) (by decide)
    · rw [String.toList_append, List.getLast?_append]
      rfl
  exact .quiet head <| .closing columns .nil

theorem cut_viewStub (style : DumpStyle) {view : View} (hn : '\n' ∉ view.name.toList)
    (hc : ∀ c ∈ view.columns, '\n' ∉ c.toList) :
    Cut [] (viewStub style view) (viewStubStatements style view) [] := by
  have drop := isClosing_dropView hn
  have stub := cut_createStub hn hc
  cases style with
  | compact => exact .closing drop stub
  | full =>
    have comment :
        IsQuiet ("-- Temporary view structure for view " ++ quoteIdentifier view.name) :=
      isQuiet_quoted hn (by decide) (by decide) (by decide)
    have save : IsClosing "SET @saved_cs_client     = @@character_set_client;" :=
      isClosing_ofList (by decide) (by decide)
    have restore : IsClosing "SET character_set_client = @saved_cs_client;" :=
      isClosing_ofList (by decide) (by decide)
    exact .blank <| .quiet isQuiet_bar <| .quiet comment <| .quiet isQuiet_bar <| .blank <|
      .closing drop <| .closing save <| .closing isClosing_setClient <|
      stub.append <| .closing restore .nil

/-! ## Views -/

/-- The statement that creates a view.  A definition that was cut around its definer clause stands
in three comments. -/
def createViewStatement (view : View) : Lines :=
  match view.definition with
  | some d =>
    if d.definer.isEmpty then ["/*!50001 " ++ view.createSql ++ " */;"]
    else [
      "/*!50001 " ++ d.head ++ " */",
      "/*!50013 " ++ d.definer ++ " */",
      "/*!50001 " ++ d.body ++ " */;"]
  | none => ["/*!50001 " ++ view.createSql ++ " */;"]

/-- The statements of the definition of a view. -/
def viewFinalStatements (style : DumpStyle) (view : View) : List Lines :=
  let quoted := quoteIdentifier view.name
  match style with
  | .full => [
    ["--", "-- Final view structure for view " ++ quoted, "--",
      "/*!50001 DROP VIEW IF EXISTS " ++ quoted ++ "*/;"],
    ["/*!50001 SET @saved_cs_client          = @@character_set_client */;"],
    ["/*!50001 SET @saved_cs_results         = @@character_set_results */;"],
    ["/*!50001 SET @saved_col_connection     = @@collation_connection */;"],
    ["/*!50001 SET character_set_client      = " ++ view.charset ++ " */;"],
    ["/*!50001 SET character_set_results     = " ++ view.charset ++ " */;"],
    ["/*!50001 SET collation_connection      = " ++ view.collation ++ " */;"],
    createViewStatement view,
    ["/*!50001 SET character_set_client      = @saved_cs_client */;"],
    ["/*!50001 SET character_set_results     = @saved_cs_results */;"],
    ["/*!50001 SET collation_connection      = @saved_col_connection */;"]]
  | .compact => [["/*!50001 DROP VIEW IF EXISTS " ++ quoted ++ "*/;"], createViewStatement view]

theorem createView_eq (view : View) : createView view = createViewStatement view := by
  simp only [createView, versioned_semicolon]
  rfl

theorem isLine_versionedStart {version : String} (h : '\n' ∉ version.toList) :
    IsLine ("/*!" ++ version ++ " ") := by
  have start := lineFeed_not_mem_append (lineFeed_not_mem_ofList (by decide) : '\n' ∉ "/*!".toList) h
  have blank : IsLine " " := isLine_ofList (by decide) (by decide) (by decide)
  exact blank.append_left start

/-- A part of a definition in a comment of its own ends nothing. -/
theorem isQuiet_versioned {version sql : String} (h : '\n' ∉ version.toList)
    (hs : sql.toList.IsChain Keeps) : IsQuiet (versioned version sql) := by
  have ending : IsLine " */" := isLine_ofList (by decide) (by decide) (by decide)
  exact isQuiet_frame (isLine_versionedStart h) hs ending

theorem isClosing_versioned {version sql : String} (h : '\n' ∉ version.toList)
    (hs : sql.toList.IsChain Keeps) : IsClosing (versioned version sql ++ ";") := by
  rw [versioned_semicolon]
  exact isClosing_frame (isLine_versionedStart h) hs (by decide) (by decide)

/-- The definition of a view is one statement, whether or not it is cut. -/
theorem cut_createView {view : View} (hc : IsQuiet view.createSql)
    (hd : view.definition = ViewDefinition.split view.createSql) :
    Cut [] (createView view) [createViewStatement view] [] := by
  rw [← createView_eq]
  have whole : IsClosing (versioned "50001" view.createSql ++ ";") :=
    isClosing_versioned (by decide) hc.isChain
  unfold createView
  cases h : view.definition with
  | none => exact .closing whole .nil
  | some d =>
    dsimp only
    split_ifs with simple
    · exact .closing whole .nil
    · rw [h] at hd
      obtain ⟨hhead, hdefiner, hbody⟩ := ViewDefinition.split_infix hd.symm
      have chain := hc.isChain
      have head : IsQuiet (versioned "50001" d.head) :=
        isQuiet_versioned (by decide) <| chain.infix hhead
      have definer : IsQuiet (versioned "50013" d.definer) :=
        isQuiet_versioned (by decide) <| chain.infix hdefiner
      have body : IsClosing (versioned "50001" d.body ++ ";") :=
        isClosing_versioned (by decide) <| chain.infix hbody
      exact .quiet head <| .quiet definer <| .closing body .nil

theorem cut_viewFinal (style : DumpStyle) {view : View} (hn : '\n' ∉ view.name.toList)
    (charset : '\n' ∉ view.charset.toList) (collation : '\n' ∉ view.collation.toList)
    (hc : IsQuiet view.createSql) (hd : view.definition = ViewDefinition.split view.createSql) :
    Cut [] (viewFinal style view) (viewFinalStatements style view) [] := by
  have drop := isClosing_dropView hn
  have create := cut_createView hc hd
  cases style with
  | compact => exact .closing drop create
  | full =>
    have comment : IsQuiet ("-- Final view structure for view " ++ quoteIdentifier view.name) :=
      isQuiet_quoted hn (by decide) (by decide) (by decide)
    have client :
        IsClosing ("/*!50001 SET character_set_client      = " ++ view.charset ++ " */;") :=
      isClosing_between charset (by decide) (by decide) (by decide)
    have results :
        IsClosing ("/*!50001 SET character_set_results     = " ++ view.charset ++ " */;") :=
      isClosing_between charset (by decide) (by decide) (by decide)
    have connection :
        IsClosing ("/*!50001 SET collation_connection      = " ++ view.collation ++ " */;") :=
      isClosing_between collation (by decide) (by decide) (by decide)
    refine .blank <| .quiet isQuiet_bar <| .quiet comment <| .quiet isQuiet_bar <| .blank <|
      .closing drop <| .closing ?_ <| .closing ?_ <| .closing ?_ <| .closing client <|
      .closing results <| .closing connection <| create.append <| .closing ?_ <| .closing ?_ <|
      .closing ?_ .nil
    all_goals exact isClosing_ofList (by decide) (by decide)

end Section

end LogicalBackup
