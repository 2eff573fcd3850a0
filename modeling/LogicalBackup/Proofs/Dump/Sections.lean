import LogicalBackup.Proofs.Number.Decimal
import LogicalBackup.Proofs.Restore.Statements

/-!
# Statements of a header

The comments at the start of a full dump go into the statement of the first setting, unless the name
of the database ends in a semicolon, which ends a statement that is a comment only.  In any case the
statements that create and choose the database are the last two, and stand alone
(`exists_cut_header`).
-/

namespace LogicalBackup

/-! ## Lists of lines -/

/-- Lines that end in semicolons are statements each. -/
theorem cut_closing {lines : Lines} (h : ∀ l ∈ lines, IsClosing l) :
    Cut [] lines (lines.map ([·])) [] := by
  induction lines with
  | nil => exact .nil
  | cons l lines ih =>
    exact .closing (h l List.mem_cons_self) (ih fun k hk => h k (List.mem_cons_of_mem l hk))

/-- Statements of one line each, the first of which also has what is in the buffer. -/
def statementsAfter (buffer : Lines) : Lines → List Lines
  | [] => []
  | l :: lines => (buffer ++ [l]) :: lines.map ([·])

theorem cut_statementsAfter {lines : Lines} (ne : lines ≠ []) (h : ∀ l ∈ lines, IsClosing l)
    (buffer : Lines) : Cut buffer lines (statementsAfter buffer lines) [] := by
  cases lines with
  | nil => exact absurd rfl ne
  | cons l lines =>
    exact .closing (h l List.mem_cons_self) (cut_closing fun k hk => h k (List.mem_cons_of_mem l hk))

/-! ## Lines with names -/

theorem isClosing_append {a b : String} (ha : '\n' ∉ a.toList) (hb : '\n' ∉ b.toList)
    (last : b.toList.getLast? = some ';') : IsClosing (a ++ b) := by
  refine isClosing_of_not_mem (lineFeed_not_mem_append ha hb) ?_
  rw [String.toList_append, List.getLast?_append, last]
  rfl

theorem isClosing_between {a c : List Char} {b : String} (hb : '\n' ∉ b.toList) (ha : '\n' ∉ a)
    (hc : '\n' ∉ c) (last : c.getLast? = some ';') :
    IsClosing (String.ofList a ++ b ++ String.ofList c) := by
  have start := lineFeed_not_mem_append (lineFeed_not_mem_ofList ha) hb
  exact isClosing_append start (lineFeed_not_mem_ofList hc) (by rwa [String.toList_ofList])

theorem lineFeed_not_mem_quoteIdentifier {name : String} (h : '\n' ∉ name.toList) :
    '\n' ∉ (quoteIdentifier name).toList := by
  have inner : '\n' ∉ name.toList.flatMap identifierChar := by
    intro hmem
    obtain ⟨c, hc, hn⟩ := List.mem_flatMap.1 hmem
    unfold identifierChar at hn
    split_ifs at hn
    · exact absurd hn (by decide)
    · rw [List.mem_singleton] at hn
      exact h (hn ▸ hc)
  simp [quoteIdentifier, inner]

theorem endsLine_quoteIdentifier {name : String} (h : '\n' ∉ name.toList) :
    EndsLine (quoteIdentifier name) := by
  refine ⟨lineFeed_not_mem_quoteIdentifier h, ?_⟩
  have last : (quoteIdentifier name).toList.getLast? = some backtick := by
    unfold quoteIdentifier
    rw [String.toList_append, List.getLast?_append]
    rfl
  rw [last]
  rintro c ⟨⟩
  decide

/-- A line that ends in the name of an object. -/
theorem isQuiet_quoted {a : List Char} {name : String} (h : '\n' ∉ name.toList) (ha : '\n' ∉ a)
    (ne : a ≠ []) (last : ∀ c ∈ a.getLast?, c ≠ '\r' ∧ c ≠ ';') :
    IsQuiet (String.ofList a ++ quoteIdentifier name) := by
  have start : IsLine (String.ofList a) := isLine_ofList ha ne last
  exact (start.append_right (endsLine_quoteIdentifier h)).isQuiet

theorem isQuiet_bar : IsQuiet "--" := (isLine_ofList (by decide) (by decide) (by decide)).isQuiet

/-- The text of a statement that creates something, with its end. -/
theorem IsQuiet.isClosing {s : String} (h : IsQuiet s) : IsClosing (s ++ ";") := by
  have chain : ('\n' :: s.toList).IsChain Keeps := by
    unfold IsQuiet at h
    rw [← List.cons_append] at h
    exact (List.isChain_append.1 h).1
  refine ⟨?_, ?_⟩
  · rw [String.toList_append, ← List.cons_append]
    exact isChain_keeps_append chain (by decide)
  · rw [String.toList_append, List.getLast?_append]
    rfl

theorem IsQuiet.isChain {s : String} (h : IsQuiet s) : s.toList.IsChain Keeps := by
  unfold IsQuiet at h
  rw [← List.cons_append] at h
  exact List.IsChain.of_cons (List.isChain_append.1 h).1

/-! ## The header -/

namespace Section

/-- The comments at the start of a full dump. -/
def comments (schema : String) (server : ServerInfo) : Lines := [
  "-- mydump 0.1.0",
  "--",
  "-- Database: " ++ schema,
  "-- ------------------------------------------------------",
  "-- Server version\t" ++ server.version]

/-- The settings of the session that a full dump begins with. -/
def settings : Lines := [
  "/*!40101 SET @OLD_CHARACTER_SET_CLIENT=@@CHARACTER_SET_CLIENT */;",
  "/*!40101 SET @OLD_CHARACTER_SET_RESULTS=@@CHARACTER_SET_RESULTS */;",
  "/*!40101 SET @OLD_COLLATION_CONNECTION=@@COLLATION_CONNECTION */;",
  "/*!50503 SET NAMES utf8mb4 */;",
  "/*!40103 SET @OLD_TIME_ZONE=@@TIME_ZONE */;",
  "/*!40103 SET TIME_ZONE='+00:00' */;",
  "/*!40014 SET @OLD_UNIQUE_CHECKS=@@UNIQUE_CHECKS, UNIQUE_CHECKS=0 */;",
  "/*!40014 SET @OLD_FOREIGN_KEY_CHECKS=@@FOREIGN_KEY_CHECKS, FOREIGN_KEY_CHECKS=0 */;",
  "/*!40101 SET @OLD_SQL_MODE=@@SQL_MODE, SQL_MODE='NO_AUTO_VALUE_ON_ZERO' */;",
  "/*!40111 SET @OLD_SQL_NOTES=@@SQL_NOTES, SQL_NOTES=0 */;"]

/-- The line that creates the database. -/
def createDatabase (schema : String) (server : ServerInfo) : String :=
  "CREATE DATABASE /*!32312 IF NOT EXISTS*/ " ++ quoteIdentifier schema ++
    " /*!40100 DEFAULT CHARACTER SET " ++ server.charset ++
    (if server.collation.isEmpty then "" else " COLLATE " ++ server.collation) ++ " */;"

/-- The line that chooses the database. -/
def chooseDatabase (schema : String) : String := "USE " ++ quoteIdentifier schema ++ ";"

theorem preamble_eq (schema : String) (server : ServerInfo) :
    preamble schema server = comments schema server ++ "" :: settings := rfl

theorem isClosing_of_mem_settings : ∀ l ∈ settings, IsClosing l := by
  simp only [settings, List.forall_mem_cons]
  refine ⟨?_, ?_, ?_, ?_, ?_, ?_, ?_, ?_, ?_, ?_, fun _ h => absurd h List.not_mem_nil⟩
  all_goals exact isClosing_ofList (by decide) (by decide)

/-- A database can be created and chosen by statements of their own. -/
theorem cut_useDatabase {schema : String} {server : ServerInfo} (hs : '\n' ∉ schema.toList)
    (charset : '\n' ∉ server.charset.toList) (collation : '\n' ∉ server.collation.toList) :
    Cut [] (useDatabase schema server) [[createDatabase schema server], [chooseDatabase schema]]
      [] := by
  have quoted := lineFeed_not_mem_quoteIdentifier hs
  have create : IsClosing (createDatabase schema server) := by
    refine isClosing_append ?_ (by decide) (by decide)
    by_cases h : server.collation.isEmpty
    · simp [h, quoted, charset]
    · simp [h, quoted, charset, collation]
  have choose : IsClosing (chooseDatabase schema) := by
    refine isClosing_append ?_ (by decide) (by decide)
    simp [quoted]
  exact .closing create (.blank (.closing choose .nil))

theorem isQuiet_banner : IsQuiet banner :=
  (isLine_ofList (by decide) (by decide) (by decide)).isQuiet

theorem isQuiet_rule : IsQuiet "-- ------------------------------------------------------" :=
  (isLine_ofList (by decide) (by decide) (by decide)).isQuiet

theorem isQuiet_version {version : String} (h : EndsLine version) :
    IsQuiet ("-- Server version\t" ++ version) := by
  have start : IsLine "-- Server version\t" := isLine_ofList (by decide) (by decide) (by decide)
  exact (start.append_right h).isQuiet

theorem cut_settings (buffer : Lines) : Cut buffer settings (statementsAfter buffer settings) [] :=
  cut_statementsAfter (by decide) isClosing_of_mem_settings buffer

theorem cut_preamble {schema : String} {server : ServerInfo} (hs : EndsLine schema)
    (hv : EndsLine server.version) :
    Cut [] (preamble schema server) (statementsAfter (comments schema server) settings) [] := by
  have database : IsQuiet ("-- Database: " ++ schema) := by
    have start : IsLine "-- Database: " := isLine_ofList (by decide) (by decide) (by decide)
    exact (start.append_right hs).isQuiet
  exact .quiet isQuiet_banner <| .quiet isQuiet_bar <| .quiet database <| .quiet isQuiet_rule <|
    .quiet (isQuiet_version hv) <| .blank (cut_settings _)

/-- A database name that ends in a semicolon ends the comment that shows it. -/
theorem exists_cut_preamble {schema : String} {server : ServerInfo}
    (hs : ∀ c ∈ schema.toList, c ≠ '\n' ∧ c ≠ '\r') (hv : EndsLine server.version) :
    ∃ statements, Cut [] (preamble schema server) statements [] := by
  have feed : '\n' ∉ schema.toList := fun h => (hs _ h).1 rfl
  by_cases last : schema.toList.getLast? = some ';'
  · have database : IsClosing ("-- Database: " ++ schema) :=
      isClosing_append (lineFeed_not_mem_ofList (by decide)) feed last
    exact ⟨_, .quiet isQuiet_banner <| .quiet isQuiet_bar <| .closing database <|
      .quiet isQuiet_rule <| .quiet (isQuiet_version hv) <| .blank (cut_settings _)⟩
  · have ends : EndsLine schema := by
      refine ⟨feed, fun c hc => ⟨(hs c (List.mem_of_getLast? hc)).2, ?_⟩⟩
      rintro rfl
      exact last hc
    exact ⟨_, cut_preamble ends hv⟩

/-- The statements before `CREATE DATABASE` are comments or begin with one. -/
theorem head?_of_mem_preamble {schema l : String} {server : ServerInfo}
    (hl : l ∈ preamble schema server) (ne : l ≠ "") :
    l.toList.head? = some '-' ∨ l.toList.head? = some '/' := by
  rw [preamble_eq, List.mem_append, List.mem_cons] at hl
  rcases hl with hl | rfl | hl
  · left
    simp only [comments, List.mem_cons, List.not_mem_nil, or_false] at hl
    rcases hl with rfl | rfl | rfl | rfl | rfl
    · exact head?_ofList ..
    · exact head?_ofList ..
    · rw [String.toList_append]
      rfl
    · exact head?_ofList ..
    · rw [String.toList_append]
      rfl
  · exact absurd rfl ne
  · right
    simp only [settings, List.mem_cons, List.not_mem_nil, or_false] at hl
    rcases hl with rfl | rfl | rfl | rfl | rfl | rfl | rfl | rfl | rfl | rfl
    all_goals exact head?_ofList ..

/-- The last two statements of a header create and choose the database, and what is before them
begins with a comment. -/
theorem exists_cut_header (style : DumpStyle) {schema : String} {server : ServerInfo}
    (hs : ∀ c ∈ schema.toList, c ≠ '\n' ∧ c ≠ '\r') (charset : '\n' ∉ server.charset.toList)
    (collation : '\n' ∉ server.collation.toList) (hv : EndsLine server.version) :
    ∃ others, Cut [] (header style schema server true)
        (others ++ [[createDatabase schema server], [chooseDatabase schema]]) [] ∧
      ∀ st ∈ others, ∃ l rest, st = l :: rest ∧
        (l.toList.head? = some '-' ∨ l.toList.head? = some '/') := by
  have database := cut_useDatabase (fun h => (hs _ h).1 rfl) charset collation
  cases style with
  | compact => exact ⟨[], database, fun _ h => absurd h List.not_mem_nil⟩
  | full =>
    obtain ⟨others, cut⟩ := exists_cut_preamble hs hv
    refine ⟨others, cut.append (.blank database), fun st hst => ?_⟩
    obtain ⟨nonempty, lines⟩ := cut.ne_nil_and_subset hst
    obtain ⟨l, rest, rfl⟩ := List.exists_cons_of_ne_nil nonempty
    rcases lines l List.mem_cons_self with h | ⟨h, hl⟩
    · exact absurd h List.not_mem_nil
    · exact ⟨l, rest, rfl, head?_of_mem_preamble h hl⟩

/-- The statements of the header, where neither the name of the database nor the version of the
server ends one of them. -/
def headerStatements (style : DumpStyle) (schema : String) (server : ServerInfo)
    (withDatabase : Bool) : List Lines :=
  (match style with
    | .full => statementsAfter (comments schema server) settings
    | .compact => []) ++
  if withDatabase then [[createDatabase schema server], [chooseDatabase schema]] else []

theorem cut_header (style : DumpStyle) {schema : String} {server : ServerInfo}
    (hs : EndsLine schema) (hv : EndsLine server.version) (charset : '\n' ∉ server.charset.toList)
    (collation : '\n' ∉ server.collation.toList) (withDatabase : Bool) :
    Cut [] (header style schema server withDatabase)
      (headerStatements style schema server withDatabase) [] := by
  have database := cut_useDatabase hs.1 charset collation
  have preamble := cut_preamble hs hv
  cases withDatabase with
  | false =>
    cases style with
    | compact => exact .nil
    | full => exact preamble.append .nil
  | true =>
    cases style with
    | compact => exact database
    | full => exact preamble.append (.blank database)

/-! ## The footer -/

/-- The statements of the footer. -/
def footerStatements : DumpStyle → List Lines
  | .full => [
    ["/*!40103 SET TIME_ZONE=@OLD_TIME_ZONE */;"],
    ["/*!40101 SET SQL_MODE=@OLD_SQL_MODE */;"],
    ["/*!40014 SET FOREIGN_KEY_CHECKS=@OLD_FOREIGN_KEY_CHECKS */;"],
    ["/*!40014 SET UNIQUE_CHECKS=@OLD_UNIQUE_CHECKS */;"],
    ["/*!40101 SET CHARACTER_SET_CLIENT=@OLD_CHARACTER_SET_CLIENT */;"],
    ["/*!40101 SET CHARACTER_SET_RESULTS=@OLD_CHARACTER_SET_RESULTS */;"],
    ["/*!40101 SET COLLATION_CONNECTION=@OLD_COLLATION_CONNECTION */;"],
    ["/*!40111 SET SQL_NOTES=@OLD_SQL_NOTES */;"]]
  | .compact => []

/-- What follows the last statement of a dump: a comment. -/
def footerRest : DumpStyle → DateTime → Lines
  | .full, completed => ["-- Dump completed on " ++ completed.text]
  | .compact, _ => []

/-- A character of a time. -/
def IsTimeChar (c : Char) : Prop := c.isDigit ∨ c ∈ ['-', '+', ' ', ':']

instance (c : Char) : Decidable (IsTimeChar c) := inferInstanceAs (Decidable (_ ∨ _))

theorem isTimeChar_append {a b : String} (ha : ∀ c ∈ a.toList, IsTimeChar c)
    (hb : ∀ c ∈ b.toList, IsTimeChar c) : ∀ c ∈ (a ++ b).toList, IsTimeChar c := by
  rw [String.toList_append]
  exact List.forall_mem_append.2 ⟨ha, hb⟩

theorem isTimeChar_padded (width n : Nat) :
    ∀ c ∈ (Decimal.padded width n).toList, IsTimeChar c :=
  fun _ hc => Or.inl (Decimal.isDigit_of_mem_padded hc)

theorem isTimeChar_text (m : DateTime) : ∀ c ∈ m.text.toList, IsTimeChar c := by
  have dash : ∀ c ∈ "-".toList, IsTimeChar c := by decide
  have plus : ∀ c ∈ "+".toList, IsTimeChar c := by decide
  have colon : ∀ c ∈ ":".toList, IsTimeChar c := by decide
  have blank : ∀ c ∈ " ".toList, IsTimeChar c := by decide
  have year : ∀ c ∈ (Date.yearText m.date.year).toList, IsTimeChar c := by
    unfold Date.yearText
    split_ifs
    · exact isTimeChar_append dash (isTimeChar_padded _ _)
    · exact isTimeChar_padded _ _
    · exact isTimeChar_append plus (isTimeChar_padded _ _)
  have date : ∀ c ∈ m.date.text.toList, IsTimeChar c := by
    have month := isTimeChar_append (isTimeChar_append year dash) (isTimeChar_padded 2 m.date.month)
    exact isTimeChar_append (isTimeChar_append month dash) (isTimeChar_padded 2 m.date.day)
  have time : ∀ c ∈ m.time.text.toList, IsTimeChar c := by
    have minute := isTimeChar_append (isTimeChar_append (isTimeChar_padded 2 m.time.hour) colon)
      (isTimeChar_padded 2 m.time.minute)
    exact isTimeChar_append (isTimeChar_append minute colon) (isTimeChar_padded 2 _)
  exact isTimeChar_append (isTimeChar_append date blank) time

theorem endsLine_text (m : DateTime) : EndsLine m.text := by
  have plain {c : Char} (h : c ∈ m.text.toList) : c ≠ '\n' ∧ c ≠ '\r' ∧ c ≠ ';' := by
    rcases isTimeChar_text m c h with digit | mark
    · refine ⟨?_, ?_, ?_⟩
      all_goals
        rintro rfl
        exact absurd digit (by decide)
    · exact (by decide : ∀ c ∈ ['-', '+', ' ', ':'], c ≠ '\n' ∧ c ≠ '\r' ∧ c ≠ ';') c mark
  exact ⟨fun h => (plain h).1 rfl, fun c hc => (plain (List.mem_of_getLast? hc)).2⟩

theorem isLine_completed (m : DateTime) : IsLine ("-- Dump completed on " ++ m.text) := by
  have start : IsLine "-- Dump completed on " := isLine_ofList (by decide) (by decide) (by decide)
  exact start.append_right (endsLine_text m)

theorem cut_footer (style : DumpStyle) (completed : DateTime) :
    Cut [] (footer style completed) (footerStatements style) (footerRest style completed) := by
  cases style with
  | compact => exact .nil
  | full =>
    refine .blank <| .closing ?_ <| .blank <| .closing ?_ <| .closing ?_ <| .closing ?_ <|
      .closing ?_ <| .closing ?_ <| .closing ?_ <| .closing ?_ <| .blank <|
      .quiet (isLine_completed completed).isQuiet .nil
    all_goals exact isClosing_ofList (by decide) (by decide)

end Section

end LogicalBackup
