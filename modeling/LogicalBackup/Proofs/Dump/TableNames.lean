import LogicalBackup.Dump.Plan
import LogicalBackup.Proofs.Dump.SingleTable

/-!
# Names in the dump of a table

A schema, a table and its columns are named in comments, in quoted identifiers and before each row.
The dump with any names is compared line by line with the one with plain names (`Matches`): the
rest of a line is the same in both, so whether the names end a statement is a question about the
names alone.
-/

namespace LogicalBackup

/-! ## Sections with different names -/

theorem EndsLine.not_closesLine {s : String} (h : EndsLine s) : ¬ClosesLine (s ++ "\n").toList := by
  have start : IsLine "--" := isLine_ofList (by decide) (by decide) (by decide)
  have passes : closings (utf8 ("--" ++ s) ++ [Byte.lineFeed]) = 0 :=
    (start.append_right h).isQuiet.passes
  rw [utf8_append, List.append_assoc, closings_append_of_not_mem (by decide)] at passes
  refine (closings_utf8_eq_zero_iff _).1 ?_
  rw [utf8_append]
  exact passes

theorem closesLine_quoteIdentifier (name : String) :
    ¬ClosesLine (quoteIdentifier name ++ "\n").toList ↔ ¬ClosesLine name.toList := by
  have feed : closings (utf8 "\n") = 0 := by decide
  rw [← closings_utf8_eq_zero_iff, ← closings_utf8_eq_zero_iff, utf8_append,
    closings_quoteIdentifier, feed, Nat.add_zero]

namespace Section

theorem matches_blank : Matches True True [utf8 ""] [utf8 ""] :=
  .of_passes (by decide) (by decide)

theorem matches_bar : Matches True True [utf8 "--"] [utf8 "--"] :=
  .of_passes (by decide) (by decide)

/-- A comment that ends in a text of the server or of the clock. -/
theorem matches_comment (start : String) (semi : ';' ∉ start.toList)
    (bar : (Region.code.scan (utf8 start)).1 = .comment) {x y : String} (hx : EndsLine x)
    (hy : EndsLine y) : Matches True True [utf8 (start ++ x)] [utf8 (start ++ y)] :=
  (Matches.comment start semi bar x hy.not_closesLine hy.1).imp
    (iff_of_true hx.not_closesLine trivial) fun _ => hx.1

/-- A comment that ends in an identifier. -/
theorem matches_quotedComment (start : String) (semi : ';' ∉ start.toList)
    (bar : (Region.code.scan (utf8 start)).1 = .comment) (x : String) {y : String}
    (plain : ¬ClosesLine y.toList) (feedless : '\n' ∉ y.toList) :
    Matches (¬ClosesLine x.toList) ('\n' ∉ x.toList) [utf8 (start ++ quoteIdentifier x)]
      [utf8 (start ++ quoteIdentifier y)] :=
  (Matches.comment start semi bar (quoteIdentifier x) ((closesLine_quoteIdentifier y).2 plain)
    (lineFeed_not_mem_quoteIdentifier feedless)).imp (closesLine_quoteIdentifier x)
    lineFeed_not_mem_quoteIdentifier

theorem isFixed_closing {cs : List Char} (h : '\n' ∉ '/' :: cs)
    (last : ('/' :: cs).getLast? = some ';') : IsFixed (utf8 (String.ofList ('/' :: cs))) :=
  .inr ((isClosing_ofList h last).ends (head?_ofList ..) (by decide))

theorem isFixed_of_mem_settings : ∀ l ∈ settings.map utf8, IsFixed l := by
  simp only [settings, List.map_cons, List.map_nil, List.forall_mem_cons]
  refine ⟨?_, ?_, ?_, ?_, ?_, ?_, ?_, ?_, ?_, ?_, fun _ h => absurd h List.not_mem_nil⟩
  all_goals exact isFixed_closing (by decide) (by decide)

theorem matches_preamble (x : String) {y : String} {server : ServerInfo}
    (version : EndsLine server.version) (plain : ¬ClosesLine (y ++ "\n").toList)
    (feedless : '\n' ∉ y.toList) :
    Matches (¬ClosesLine (x ++ "\n").toList) ('\n' ∉ x.toList) ((preamble x server).map utf8)
      ((preamble y server).map utf8) := by
  have banner : Matches True True [utf8 banner] [utf8 banner] :=
    .of_passes isQuiet_banner.passes (by decide)
  have name := Matches.comment "-- Database: " (by decide) (by decide) x plain feedless
  have rule : Matches True True [utf8 "-- ------------------------------------------------------"]
      [utf8 "-- ------------------------------------------------------"] :=
    .of_passes isQuiet_rule.passes (by decide)
  have version := matches_comment "-- Server version\t" (by decide) (by decide) version version
  have settings := Matches.of_fixed isFixed_of_mem_settings
  rw [preamble_eq, preamble_eq]
  exact (banner.cons <| matches_bar.cons <| name.cons <| rule.cons <| version.cons <|
    matches_blank.cons settings).imp (by tauto) (by tauto)

/-- What follows the name of the database in the statement that creates it. -/
def databaseRest (server : ServerInfo) : String :=
  " /*!40100 DEFAULT CHARACTER SET " ++ server.charset ++
    (if server.collation.isEmpty then "" else " COLLATE " ++ server.collation) ++ " */;"

theorem createDatabase_eq (schema : String) (server : ServerInfo) :
    createDatabase schema server =
      "CREATE DATABASE /*!32312 IF NOT EXISTS*/ " ++ quoteIdentifier schema ++
        databaseRest server := by
  have shift (a q b c d e : String) :
      a ++ q ++ b ++ c ++ d ++ e = a ++ q ++ (b ++ c ++ d ++ e) := by
    simp only [String.append_assoc]
  exact shift ..

theorem isClosing_databaseRest {server : ServerInfo} (charset : '\n' ∉ server.charset.toList)
    (collation : '\n' ∉ server.collation.toList) : IsClosing (databaseRest server) := by
  unfold databaseRest
  refine isClosing_append ?_ (by decide) (by decide)
  by_cases h : server.collation.isEmpty
  · simp [h, charset]
  · simp [h, charset, collation]

theorem matches_useDatabase (x : String) {y : String} {server : ServerInfo}
    (charset : '\n' ∉ server.charset.toList) (collation : '\n' ∉ server.collation.toList)
    (plain : ¬ClosesLine y.toList) :
    Matches (¬ClosesLine x.toList) True ((useDatabase x server).map utf8)
      ((useDatabase y server).map utf8) := by
  have rest := isClosing_databaseRest charset collation
  have create := Matches.quoted "CREATE DATABASE /*!32312 IF NOT EXISTS*/ " (databaseRest server)
    (by decide) ⟨rest.closings_eq, rest.2⟩ x plain
  have choose := Matches.quoted "USE " ";" (by decide) (by decide) x plain
  rw [← createDatabase_eq, ← createDatabase_eq] at create
  exact (create.cons (matches_blank.cons choose)).imp (by tauto) (by tauto)

theorem matches_header (suppressed : Bool) (x : String) {y : String} {server : ServerInfo}
    (suits : Call.serverInfo.Suits server) (plain : ¬ClosesLine (y ++ "\n").toList)
    (feedless : '\n' ∉ y.toList) :
    Matches (¬ClosesLine (x ++ "\n").toList) ('\n' ∉ x.toList)
      ((header .full x server !suppressed).map utf8)
      ((header .full y server !suppressed).map utf8) := by
  obtain ⟨version, charset, collation⟩ := suits
  have inner {z : String} (h : ¬ClosesLine (z ++ "\n").toList) : ¬ClosesLine z.toList := by
    rw [String.toList_append] at h
    exact fun closes => h closes.append_right
  have preamble := matches_preamble x version plain feedless
  have database := matches_useDatabase x charset collation (inner plain)
  cases suppressed with
  | true => simpa [header] using preamble
  | false =>
    have full (z : String) : (header .full z server !false).map utf8 =
        (Section.preamble z server).map utf8 ++ utf8 "" :: (useDatabase z server).map utf8 :=
      List.map_append
    rw [full, full]
    refine (preamble.append (matches_blank.cons database)).imp ?_ (by tauto)
    exact ⟨fun h => h.1, fun h => ⟨h, trivial, inner h⟩⟩

theorem matches_tableHead (x createSql : String) {y : String} (create : '\n' ∉ createSql.toList)
    (start : "CREATE".toList <+: createSql.toList) (plain : ¬ClosesLine y.toList)
    (feedless : '\n' ∉ y.toList) :
    Matches (¬ClosesLine x.toList) ('\n' ∉ x.toList) ((tableHead .full x createSql).map utf8)
      ((tableHead .full y createSql).map utf8) := by
  have structure' := matches_quotedComment "-- Table structure for table " (by decide) (by decide) x
    plain feedless
  have drop := Matches.quoted "DROP TABLE IF EXISTS " ";" (by decide) (by decide) x plain
  have save : Ends (utf8 "/*!40101 SET @saved_cs_client     = @@character_set_client */;") :=
    isClosing_saveClient.ends (head?_ofList ..) (by decide)
  have set : Ends (utf8 "/*!50503 SET character_set_client = utf8mb4 */;") :=
    isClosing_setClient.ends (head?_ofList ..) (by decide)
  have sql : Ends (utf8 (createSql ++ ";")) := by
    have closing : IsClosing (createSql ++ ";") := isClosing_append create (by decide) (by decide)
    refine closing.ends (c := 'C') ?_ (by decide)
    obtain ⟨rest, hrest⟩ := start
    rw [String.toList_append, ← hrest]
    rfl
  have restore : Ends (utf8 "/*!40101 SET character_set_client = @saved_cs_client */;") :=
    (isClosing_ofList (by decide) (by decide)).ends (head?_ofList ..) (by decide)
  have data := matches_quotedComment "-- Dumping data for table " (by decide) (by decide) x plain
    feedless
  have lock := Matches.quoted "LOCK TABLES " " WRITE;" (by decide) (by decide) x plain
  have disable := Matches.quoted "/*!40000 ALTER TABLE " " DISABLE KEYS */;" (by decide) (by decide)
    x plain
  exact (matches_blank.cons <| matches_bar.cons <| structure'.cons <| matches_bar.cons <|
    matches_blank.cons <| drop.cons <| (Matches.of_ends save).cons <| (Matches.of_ends set).cons <|
    (Matches.of_ends sql).cons <| (Matches.of_ends restore).cons <| matches_blank.cons <|
    matches_bar.cons <| data.cons <| matches_bar.cons <| matches_blank.cons <| lock.cons
    disable).imp (by tauto) (by tauto)

theorem matches_tableTail (x : String) {y : String} (plain : ¬ClosesLine y.toList) :
    Matches (¬ClosesLine x.toList) True ((tableTail .full x).map utf8)
      ((tableTail .full y).map utf8) := by
  have enable := Matches.quoted "/*!40000 ALTER TABLE " " ENABLE KEYS */;" (by decide) (by decide) x
    plain
  have unlock : Ends (utf8 "UNLOCK TABLES;") :=
    (isClosing_ofList (by decide) (by decide)).ends (head?_ofList ..) (by decide)
  exact (enable.cons (Matches.of_ends unlock)).imp (by tauto) (by tauto)

/-- Footers differ in their times alone. -/
theorem matches_footer (completed completed' : DateTime) :
    Matches True True ((footer .full completed).map utf8) ((footer .full completed').map utf8) := by
  have time := matches_comment "-- Dump completed on " (by decide) (by decide)
    (endsLine_text completed) (endsLine_text completed')
  have restores : ∀ l ∈ (footer .full completed).dropLast.map utf8, IsFixed l := by
    have blank : IsFixed (utf8 "") := .inl (by decide)
    simp only [footer, List.dropLast, List.map_cons, List.map_nil, List.forall_mem_cons]
    refine ⟨blank, ?_, blank, ?_, ?_, ?_, ?_, ?_, ?_, ?_, blank,
      fun _ h => absurd h List.not_mem_nil⟩
    all_goals exact isFixed_closing (by decide) (by decide)
  have split (time : DateTime) : (footer .full time).map utf8 =
      (footer .full completed).dropLast.map utf8 ++ [utf8 ("-- Dump completed on " ++ time.text)] :=
    rfl
  rw [split completed, split completed']
  exact ((Matches.of_fixed restores).append time).imp (by tauto) (by tauto)

end Section

/-! ## Rows -/

/-- The line of a row shows the names of the table and of its columns. -/
theorem closings_rowLine (t : Table) (row : List Value) :
    closings (t.rowLine row ++ [Byte.lineFeed]) =
      closings (utf8 t.name) + (t.columns.map fun c => closings (utf8 c)).sum + 1 := by
  have values : closings (utf8 ") VALUES " ++ (renderRow row ++ [Byte.semicolon] ++
      [Byte.lineFeed])) = 1 := by
    have feed : Byte.lineFeed ∉ renderRow row ++ [Byte.semicolon] := by
      rw [List.mem_append, not_or]
      exact ⟨lineFeed_not_mem_renderRow row, by decide⟩
    rw [closings_append_of_not_mem (by decide), closings_line_of_last feed List.getLast?_concat]
  rw [Table.rowLine, Table.insertStem]
  simp only [utf8_append, List.append_assoc] at values ⊢
  rw [closings_append_of_not_mem (by decide), closings_quoteIdentifier,
    closings_append_of_not_mem (by decide), closings_quoteIdentifiers, values]
  omega

/-- The line of a row reads alike with any other names. -/
theorem scan_rowLine {t t' : Table} (h : t.columns.length = t'.columns.length) (row : List Value) :
    Region.code.scan (t.rowLine row ++ [Byte.lineFeed]) =
      Region.code.scan (t'.rowLine row ++ [Byte.lineFeed]) := by
  have insert : (Region.code.scan (utf8 "INSERT INTO ")).1 = .code := by decide
  have columns : (Region.code.scan (utf8 " (")).1 = .code := by decide
  obtain ⟨same, code⟩ := Region.scan_quoteIdentifiers h
  rw [same] at code
  simp only [Table.rowLine, Table.insertStem, utf8_append, Region.scan_append, insert, columns,
    Region.scan_quoteIdentifier, same, code]

/-- The names of a table end no statement. -/
def Table.Harmless (t : Table) : Prop :=
  ¬ClosesLine t.name.toList ∧ ∀ c ∈ t.columns, ¬ClosesLine c.toList

theorem closings_names_eq_zero_iff (t : Table) :
    closings (utf8 t.name) + (t.columns.map fun c => closings (utf8 c)).sum = 0 ↔ t.Harmless := by
  rw [Nat.add_eq_zero_iff, List.sum_eq_zero_iff_forall_eq_nat, List.forall_mem_map,
    closings_utf8_eq_zero_iff]
  simp only [closings_utf8_eq_zero_iff]
  rfl

theorem matches_rowLine {t t' : Table} (h : t.columns.length = t'.columns.length)
    (plain : t'.Harmless) (row : List Value) :
    Matches t.Harmless True [t.rowLine row] [t'.rowLine row] := by
  have ends {t : Table} (ht : t.Harmless) : Ends (t.rowLine row) := by
    refine ⟨?_, ?_, ?_⟩
    · rw [closings_rowLine, (closings_names_eq_zero_iff t).2 ht]
    · exact List.getLast?_concat
    · have insert : "INSERT INTO ".toList.head? = some 'I' := rfl
      simp only [Table.rowLine, Table.insertStem, utf8_append, List.append_assoc]
      exact hasSql_utf8 insert (by decide) _
  constructor
  · refine ⟨_, ?_, closings_names_eq_zero_iff t⟩
    rw [joinLines_singleton, joinLines_singleton, closings_rowLine, closings_rowLine,
      (closings_names_eq_zero_iff t').2 plain]
    omega
  · exact fun harmless => List.forall_mem_singleton.2 (.inr (ends harmless))
  · exact fun harmless _ => .cons (.ends (ends harmless) (ends plain)
      (congrArg Prod.snd (scan_rowLine h row))) .nil

theorem matches_rowLines {t t' : Table} (h : t.columns.length = t'.columns.length)
    (plain : t'.Harmless) (rows : List (List Value)) :
    Matches (rows = [] ∨ t.Harmless) True (rows.map t.rowLine) (rows.map t'.rowLine) := by
  induction rows with
  | nil => exact Matches.nil.imp (by simp) id
  | cons row rows ih =>
    have first := matches_rowLine h plain row
    refine (first.cons ih).imp ?_ (by tauto)
    simp only [reduceCtorEq, false_or, and_iff_left_iff_imp]
    exact .inr

/-! ## Dumps with different names -/

/-- What a server tells is within its lines, and a table is created by a `CREATE` statement of one
line. -/
structure TableTold.Suits (told : TableTold) : Prop where
  server : Call.serverInfo.Suits told.server
  feedless : '\n' ∉ told.createSql.toList
  create : "CREATE".toList <+: told.createSql.toList

namespace TableNames

/-- Names of letters and digits. -/
def Plain (names : TableNames) : Prop :=
  ∀ name ∈ names.schema :: names.table :: names.columns, ∀ c ∈ name.toList, c.isAlphanum

instance (names : TableNames) : Decidable names.Plain := inferInstanceAs (Decidable (∀ _ ∈ _, _))

/-- No semicolon of a name stands before the end of a line.  The name of a schema is followed by
one, and the names of columns are only printed with rows. -/
structure Harmless (names : TableNames) (told : TableTold) : Prop where
  schema : ¬ClosesLine (names.schema ++ "\n").toList
  table : ¬ClosesLine names.table.toList
  columns : told.stream.rows = [] ∨ ∀ c ∈ names.columns, ¬ClosesLine c.toList

/-- The names that are printed in comments are within a line. -/
structure Feedless (names : TableNames) : Prop where
  schema : '\n' ∉ names.schema.toList
  table : '\n' ∉ names.table.toList

theorem endsLine_of_isAlphanum {s : String} (h : ∀ c ∈ s.toList, c.isAlphanum) : EndsLine s := by
  have other {d : Char} (hd : d.isAlphanum = false) : d ∉ s.toList := by
    intro mem
    rw [h d mem] at hd
    cases hd
  refine ⟨other (by decide), fun c hc => ⟨?_, ?_⟩⟩
  · rintro rfl
    exact other (by decide) (List.mem_of_getLast? hc)
  · rintro rfl
    exact other (by decide) (List.mem_of_getLast? hc)

theorem not_closesLine_of_endsLine {s : String} (h : EndsLine s) : ¬ClosesLine s.toList := by
  rintro (closes | closes)
  · exact h.1 (closes.mem (by simp))
  · exact h.1 (closes.mem (by simp))

end TableNames

theorem ResultStream.Holds.unique {s : ResultStream} {rows rows' : List (List Value)}
    (h : s.Holds rows) (h' : s.Holds rows') : rows = rows' := by
  refine Relator.RightUnique.forall₂ (fun cells vs vs' first second => ?_) h.2 h'.2
  exact Except.ok.inj (first.2.symm.trans second.2)

/-- The rows of a dump do not depend on the names. -/
theorem TableTold.Rows.unique {told : TableTold} {names names' : TableNames}
    (same : names.columns.length = names'.columns.length) {rows rows' : List (List Value)}
    (h : told.Rows names rows) (h' : told.Rows names' rows') : rows = rows' := by
  have empty : names.columns.isEmpty = names'.columns.isEmpty := by
    rw [Bool.eq_iff_iff, List.isEmpty_iff_length_eq_zero, List.isEmpty_iff_length_eq_zero, same]
  unfold TableTold.Rows at h h'
  rw [← empty] at h'
  split_ifs at h h'
  · rw [h, h']
  · exact h.unique h'

theorem TableTold.Rows.eq_nil_iff {told : TableTold} {names : TableNames} {rows : List (List Value)}
    (h : told.Rows names rows) : rows = [] ↔ names.columns = [] ∨ told.stream.rows = [] := by
  unfold TableTold.Rows at h
  split_ifs at h with none
  · exact iff_of_true h (.inl (List.isEmpty_iff.1 none))
  · have columns : names.columns ≠ [] := fun empty => none (List.isEmpty_iff.2 empty)
    have length := h.2.length_eq
    rw [or_iff_right columns, ← List.length_eq_zero_iff, ← List.length_eq_zero_iff, length]

/-- Dumps with these names and with plain ones, line by line. -/
theorem TableTold.Suits.matches_lines {told : TableTold} (suits : told.Suits)
    (options : DumpOptions) {names plain : TableNames}
    (same : names.columns.length = plain.columns.length)
    (hp : plain.Plain) {rows : List (List Value)} (hr : told.Rows names rows)
    (completed completed' : DateTime) :
    Matches (names.Harmless told) names.Feedless (told.lines options names rows completed)
      (told.lines options plain rows completed') := by
  have ends {name : String} (h : name ∈ plain.schema :: plain.table :: plain.columns) :
      EndsLine name := TableNames.endsLine_of_isAlphanum (hp name h)
  have schema := ends List.mem_cons_self
  have table := ends (List.mem_cons_of_mem _ List.mem_cons_self)
  have inner := TableNames.not_closesLine_of_endsLine table
  have object : plain.object.Harmless := by
    refine ⟨inner, fun c hc => TableNames.not_closesLine_of_endsLine (ends ?_)⟩
    exact List.mem_cons_of_mem _ (List.mem_cons_of_mem _ hc)
  have header := Section.matches_header options.suppressUseDatabase names.schema suits.server
    schema.not_closesLine schema.1
  have head := Section.matches_tableHead names.table told.createSql suits.feedless suits.create
    inner table.1
  have lines : Matches _ True (rows.map names.object.rowLine) (rows.map plain.object.rowLine) :=
    matches_rowLines same object rows
  have tail := Section.matches_tableTail names.table inner
  have footer := Section.matches_footer completed completed'
  refine (header.append (head.append (lines.append (tail.append footer)))).imp ⟨?_, ?_⟩ ?_
  · rintro ⟨schema, table, none | object, -⟩
    · refine ⟨schema, table, ?_⟩
      rcases hr.eq_nil_iff.1 none with columns | rows
      · exact .inr fun c hc => absurd hc (columns ▸ List.not_mem_nil)
      · exact .inl rows
    · exact ⟨schema, table, .inr object.2⟩
  · rintro ⟨schema, table, columns⟩
    refine ⟨schema, table, ?_, table, trivial⟩
    exact columns.imp (fun rows => hr.eq_nil_iff.2 (.inr rows)) fun columns => ⟨table, columns⟩
  · exact fun h => ⟨h.schema, h.table, trivial, trivial, trivial⟩

/-- Two dumps are restored in as many statements, and each statement of the first one has SQL. -/
def KeepsStructure (text plain : Bytes) : Prop :=
  ∃ xs ys rest rest', SplitsInto text xs rest ∧ SplitsInto plain ys rest' ∧
    xs.length = ys.length ∧ ∀ statement ∈ xs, HasSql statement

/-- The statements of two dumps are the same outside comments and identifiers. -/
def KeepsCode (text plain : Bytes) : Prop :=
  ∃ xs ys rest rest', SplitsInto text xs rest ∧ SplitsInto plain ys rest' ∧
    xs.map Region.outside = ys.map Region.outside

namespace Matches

variable {harmless feedless : Prop} {ls ls' : List Bytes}

theorem keepsStructure_iff (m : Matches harmless feedless ls ls') :
    KeepsStructure (joinLines ls) (joinLines ls') ↔ harmless := by
  obtain ⟨more, count, zero⟩ := m.count
  have length (ls : List Bytes) : (Splitter.gather [] (rawLines (joinLines ls))).1.length =
      closings (joinLines ls) := length_gather (isClosed_joinLines ls) []
  constructor
  · rintro ⟨xs, ys, rest, rest', hx, hy, same, -⟩
    have first := length ls
    have second := length ls'
    rw [splitsInto_iff.1 hx] at first
    rw [splitsInto_iff.1 hy] at second
    dsimp only at first second
    rw [← zero]
    omega
  · intro h
    refine ⟨_, _, _, _, splitsInto_iff.2 rfl, splitsInto_iff.2 rfl, ?_, ?_⟩
    · rw [length, length, count, zero.2 h, Nat.add_zero]
    · exact hasSql_of_mem_gather (m.ends h) isClosed_nil

theorem keepsCode (m : Matches harmless feedless ls ls') (h : harmless) (h' : feedless) :
    KeepsCode (joinLines ls) (joinLines ls') :=
  ⟨_, _, _, _, splitsInto_iff.2 rfl, splitsInto_iff.2 rfl,
    Region.map_outside_gather (m.alike h h') rfl rfl⟩

end Matches

/-- Names keep the structure of a dump just if no semicolon in them stands before the end of a line.
If moreover those in comments have no line feed, nothing of any name is outside comments and
identifiers. -/
theorem keepsStructure_iff_harmless {options : DumpOptions} (simple : options.skipExtendedInsert)
    {told : TableTold} (suits : told.Suits) {names plain : TableNames}
    (same : names.columns.length = plain.columns.length) (hp : plain.Plain) {text plainText : Bytes}
    (h : WritesTable options told names text) (h' : WritesTable options told plain plainText) :
    (KeepsStructure text plainText ↔ names.Harmless told) ∧
      (names.Harmless told → names.Feedless → KeepsCode text plainText) := by
  obtain ⟨rows, completed, hr, rfl⟩ := h.exists_lines simple
  obtain ⟨rows', completed', hr', rfl⟩ := h'.exists_lines simple
  obtain rfl := hr.unique same hr'
  have lines := suits.matches_lines options same hp hr completed completed'
  exact ⟨lines.keepsStructure_iff, lines.keepsCode⟩

/-- A server that tells of two columns and one row. -/
def exampleTold : TableTold where
  server := { version := "8.0.36", charset := "utf8mb4" }
  createSql := "CREATE TABLE `t` (`c` int, `d` int)"
  stream := {
    columns := [⟨"c", "INT", .signedInteger, true⟩, ⟨"d", "INT", .signedInteger, true⟩]
    rows := [[none, none]] }

theorem exampleTold_scans : exampleTold.stream.Scans := by
  have null : ∀ pair ∈ [(ColumnClass.integer, (none : Cell)), (.integer, none)],
      ∃ v, pair.1.scan pair.2 = .ok v := by
    simp only [List.forall_mem_cons]
    exact ⟨⟨.null, rfl⟩, ⟨.null, rfl⟩, fun _ h => absurd h List.not_mem_nil⟩
  have row : ScansRow [.integer, .integer] [none, none] := ⟨rfl, null⟩
  exact ⟨rfl, List.forall_mem_singleton.2 row⟩

theorem exampleTold_suits : exampleTold.Suits where
  server := ⟨⟨by decide, by decide⟩, by decide, by decide⟩
  feedless := lineFeed_not_mem_ofList (by decide)
  create := by decide

/-- A backtick, a semicolon and a line feed do no harm where they stand between backticks. -/
theorem keepsStructure_of_quoted_names :
    let names : TableNames := ⟨"shop", "a`;b", ["c;", "d`\ne"]⟩
    let plain : TableNames := ⟨"shop", "t", ["c", "d"]⟩
    ∃ text plainText, WritesTable { skipExtendedInsert := true } exampleTold names text ∧
      WritesTable { skipExtendedInsert := true } exampleTold plain plainText ∧
      KeepsStructure text plainText ∧ KeepsCode text plainText := by
  intro names plain
  let options : DumpOptions := { skipExtendedInsert := true }
  obtain ⟨text, h⟩ := exists_writesTable options exampleTold_scans names
  obtain ⟨plainText, h'⟩ := exists_writesTable options exampleTold_scans plain
  have hp : plain.Plain := by decide
  have same : names.columns.length = plain.columns.length := rfl
  obtain ⟨iff, code⟩ := keepsStructure_iff_harmless rfl exampleTold_suits same hp h h'
  have harmless : names.Harmless exampleTold := ⟨by decide, by decide, .inr (by decide)⟩
  exact ⟨text, plainText, h, h', iff.2 harmless, code harmless ⟨by decide, by decide⟩⟩

/-! ## A name that ends in a semicolon -/

theorem HasSql.of_append {a b : Bytes} (ha : IsClosed a) (h : HasSql (a ++ b)) :
    HasSql a ∨ HasSql b := by
  obtain ⟨line, hline, sql⟩ := h
  rw [rawLines_append ha, List.mem_append] at hline
  exact hline.imp (⟨line, ·, sql⟩) (⟨line, ·, sql⟩)

theorem not_hasSql_tidy_comment {l : Bytes} (feed : Byte.lineFeed ∉ utf8 "--" ++ l) :
    ¬HasSql (tidy (utf8 "--" ++ l ++ [Byte.lineFeed])) := by
  rintro ⟨line, hline, sql⟩
  rw [tidy_line feed [], tidyLine, trimLine_feed, tidy, rawLines_nil, List.flatMap_nil,
    List.append_nil] at hline
  split_ifs at hline
  · cases hline
  · have trimmed := lineFeed_not_mem_trimReturn feed
    rw [rawLines_line trimmed [], rawLines_nil, List.mem_singleton] at hline
    rw [hline, isSqlLine_trimReturn, List.append_assoc, isSqlLine_comment] at sql
    cases sql

/-- Comments of which only the last one ends in a semicolon are a statement without SQL. -/
theorem exists_statement_of_joinLines {a b c : Bytes} (ha : Passes (utf8 "--" ++ a))
    (hb : Passes (utf8 "--" ++ b)) (feed : ∀ l ∈ [a, b, c], Byte.lineFeed ∉ utf8 "--" ++ l)
    (last : (utf8 "--" ++ c).getLast? = some Byte.semicolon) (others : List Bytes) :
    ∃ xs rest, SplitsInto
      (joinLines ((utf8 "--" ++ a) :: (utf8 "--" ++ b) :: (utf8 "--" ++ c) :: others)) xs rest ∧
        ∃ statement ∈ xs, ¬HasSql statement := by
  simp only [List.forall_mem_cons] at feed
  obtain ⟨fa, fb, fc, -⟩ := feed
  refine ⟨_, _, splitsInto_iff.2 rfl, ?_⟩
  rw [gather_joinLines_cons, ha.gather]
  dsimp only
  rw [gather_joinLines_cons, hb.gather]
  dsimp only
  rw [gather_joinLines_cons, gather_of_closings_eq_one last (closings_line_of_last fc last)]
  refine ⟨_, List.mem_cons_self, fun sql => ?_⟩
  rcases sql.of_append ((isClosed_nil.append (isClosed_tidy _)).append (isClosed_tidy _)) with
    sql | sql
  · rcases sql.of_append (isClosed_nil.append (isClosed_tidy _)) with sql | sql
    · exact not_hasSql_tidy_comment fa sql
    · exact not_hasSql_tidy_comment fb sql
  · exact not_hasSql_tidy_comment fc sql

/-- Where the name of a schema ends in a semicolon, the comments up to it are a statement. -/
theorem exists_statement_of_comments {options : DumpOptions} (simple : options.skipExtendedInsert)
    {told : TableTold} {names : TableNames} {text : Bytes} (h : WritesTable options told names text)
    (feed : '\n' ∉ names.schema.toList) (last : names.schema.toList.getLast? = some ';') :
    ∃ xs rest, SplitsInto text xs rest ∧ ∃ statement ∈ xs, ¬HasSql statement := by
  obtain ⟨rows, completed, -, rfl⟩ := h.exists_lines simple
  have name : utf8 ("-- Database: " ++ names.schema) =
      utf8 "--" ++ utf8 (" Database: " ++ names.schema) := by
    rw [utf8_append, utf8_append, ← List.append_assoc]
    exact congrArg (· ++ _) (by decide)
  obtain ⟨others, shape⟩ : ∃ others, told.lines options names rows completed =
      (utf8 "--" ++ utf8 " mydump 0.1.0") :: (utf8 "--" ++ []) ::
        (utf8 "--" ++ utf8 (" Database: " ++ names.schema)) :: others := by
    rw [TableTold.lines, Section.header, Section.preamble_eq, ← name]
    exact ⟨_, rfl⟩
  rw [shape]
  refine exists_statement_of_joinLines (by decide) (by decide) ?_ ?_ others
  · simp only [List.forall_mem_cons]
    refine ⟨by decide, by decide, fun mem => ?_, fun _ h => absurd h List.not_mem_nil⟩
    rw [← name] at mem
    exact lineFeed_not_mem_append (lineFeed_not_mem_ofList (by decide)) feed
      ((lineFeed_mem_utf8_iff _).1 mem)
  · rw [← name]
    refine (getLast?_utf8_eq_iff (c := ';') (by decide) _).2 ?_
    rw [String.toList_append, List.getLast?_append, last]
    rfl

/-- The name of a schema may end in a semicolon, and is printed as it is. -/
theorem not_keepsStructure_of_semicolon :
    let names : TableNames := ⟨"a;", "t", ["c", "d"]⟩
    let plain : TableNames := ⟨"a", "t", ["c", "d"]⟩
    Dump.schemaNameFault? names.schema = none ∧ plain.Plain ∧ exampleTold.Suits ∧
      ∃ text plainText, WritesTable { skipExtendedInsert := true } exampleTold names text ∧
        WritesTable { skipExtendedInsert := true } exampleTold plain plainText ∧
        ¬KeepsStructure text plainText ∧
        ∃ xs rest, SplitsInto text xs rest ∧ ∃ statement ∈ xs, ¬HasSql statement := by
  intro names plain
  let options : DumpOptions := { skipExtendedInsert := true }
  obtain ⟨text, h⟩ := exists_writesTable options exampleTold_scans names
  obtain ⟨plainText, h'⟩ := exists_writesTable options exampleTold_scans plain
  have hp : plain.Plain := by decide
  have comments := exists_statement_of_comments rfl h (by decide) (by decide)
  refine ⟨by decide, hp, exampleTold_suits, text, plainText, h, h', ?_, comments⟩
  obtain ⟨rows, completed, hr, rfl⟩ := h.exists_lines rfl
  obtain ⟨rows', completed', hr', rfl⟩ := h'.exists_lines rfl
  have same : names.columns.length = plain.columns.length := rfl
  obtain rfl := hr.unique same hr'
  rw [(exampleTold_suits.matches_lines _ same hp hr completed completed').keepsStructure_iff]
  exact fun harmless => harmless.schema (by decide)

end LogicalBackup
