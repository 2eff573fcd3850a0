import LogicalBackup.Calendar
import LogicalBackup.Catalog
import LogicalBackup.Session

/-!
# Sections of a dump

A dump of a schema is a header, a section before and after the rows of each table, two sections for
each view, and a footer.  Each comes in a full and in a compact form, and each is a list of lines. 
A view is dumped as a stub first, which only has its columns, so that other views can refer to it
before its own definition is restored.
-/

namespace LogicalBackup

/-- How much a dump says beside its statements. -/
inductive DumpStyle where
  /-- With comments, the settings of the session and a footer. -/
  | full
  /-- With the statements that restore needs, and no more. -/
  | compact
  deriving DecidableEq, Repr

namespace DumpStyle

/-- The style that the option for compact dumps asks for. -/
def ofCompact (compact : Bool) : DumpStyle := if compact then .compact else .full

end DumpStyle

/-- A section with its lines, each of which is ended by a line feed. -/
abbrev Lines := List String

/-- The text of a section. -/
def Lines.text (lines : Lines) : String := String.join (lines.map (· ++ "\n"))

namespace Section

/-- The first line of a full dump. -/
def banner : String := "-- mydump 0.1.0"

/-- The statements that create and choose the database. -/
def useDatabase (schema : String) (server : ServerInfo) : Lines := [
  "CREATE DATABASE /*!32312 IF NOT EXISTS*/ " ++ quoteIdentifier schema ++
    " /*!40100 DEFAULT CHARACTER SET " ++ server.charset ++
    (if server.collation.isEmpty then "" else " COLLATE " ++ server.collation) ++ " */;",
  "",
  "USE " ++ quoteIdentifier schema ++ ";"]

/-- The comments and the settings of the session at the start of a full dump. -/
def preamble (schema : String) (server : ServerInfo) : Lines := [
  banner,
  "--",
  "-- Database: " ++ schema,
  "-- ------------------------------------------------------",
  "-- Server version\t" ++ server.version,
  "",
  "/*!40101 SET @OLD_CHARACTER_SET_CLIENT=@@CHARACTER_SET_CLIENT */;",
  "/*!40101 SET @OLD_CHARACTER_SET_RESULTS=@@CHARACTER_SET_RESULTS */;",
  "/*!40101 SET @OLD_COLLATION_CONNECTION=@@COLLATION_CONNECTION */;",
  "/*!50503 SET NAMES utf8mb4 */;",
  "/*!40103 SET @OLD_TIME_ZONE=@@TIME_ZONE */;",
  "/*!40103 SET TIME_ZONE='+00:00' */;",
  "/*!40014 SET @OLD_UNIQUE_CHECKS=@@UNIQUE_CHECKS, UNIQUE_CHECKS=0 */;",
  "/*!40014 SET @OLD_FOREIGN_KEY_CHECKS=@@FOREIGN_KEY_CHECKS, FOREIGN_KEY_CHECKS=0 */;",
  "/*!40101 SET @OLD_SQL_MODE=@@SQL_MODE, SQL_MODE='NO_AUTO_VALUE_ON_ZERO' */;",
  "/*!40111 SET @OLD_SQL_NOTES=@@SQL_NOTES, SQL_NOTES=0 */;"]

/-- What a dump begins with. -/
def header (style : DumpStyle) (schema : String) (server : ServerInfo) (withDatabase : Bool) :
    Lines :=
  match style with
  | .full =>
    preamble schema server ++ if withDatabase then "" :: useDatabase schema server else []
  | .compact => if withDatabase then useDatabase schema server else []

/-- What a dump ends with: the settings of the session as they were, and the time. -/
def footer (style : DumpStyle) (completed : DateTime) : Lines :=
  match style with
  | .full => [
    "",
    "/*!40103 SET TIME_ZONE=@OLD_TIME_ZONE */;",
    "",
    "/*!40101 SET SQL_MODE=@OLD_SQL_MODE */;",
    "/*!40014 SET FOREIGN_KEY_CHECKS=@OLD_FOREIGN_KEY_CHECKS */;",
    "/*!40014 SET UNIQUE_CHECKS=@OLD_UNIQUE_CHECKS */;",
    "/*!40101 SET CHARACTER_SET_CLIENT=@OLD_CHARACTER_SET_CLIENT */;",
    "/*!40101 SET CHARACTER_SET_RESULTS=@OLD_CHARACTER_SET_RESULTS */;",
    "/*!40101 SET COLLATION_CONNECTION=@OLD_COLLATION_CONNECTION */;",
    "/*!40111 SET SQL_NOTES=@OLD_SQL_NOTES */;",
    "",
    "-- Dump completed on " ++ completed.text]
  | .compact => []

/-- What precedes the rows of a table. -/
def tableHead (style : DumpStyle) (name createSql : String) : Lines :=
  let quoted := quoteIdentifier name
  match style with
  | .full => [
    "",
    "--",
    "-- Table structure for table " ++ quoted,
    "--",
    "",
    "DROP TABLE IF EXISTS " ++ quoted ++ ";",
    "/*!40101 SET @saved_cs_client     = @@character_set_client */;",
    "/*!50503 SET character_set_client = utf8mb4 */;",
    createSql ++ ";",
    "/*!40101 SET character_set_client = @saved_cs_client */;",
    "",
    "--",
    "-- Dumping data for table " ++ quoted,
    "--",
    "",
    "LOCK TABLES " ++ quoted ++ " WRITE;",
    "/*!40000 ALTER TABLE " ++ quoted ++ " DISABLE KEYS */;"]
  | .compact => [
    "DROP TABLE IF EXISTS " ++ quoted ++ ";",
    createSql ++ ";"]

/-- What follows the rows of a table. -/
def tableTail (style : DumpStyle) (name : String) : Lines :=
  match style with
  | .full => [
    "/*!40000 ALTER TABLE " ++ quoteIdentifier name ++ " ENABLE KEYS */;",
    "UNLOCK TABLES;"]
  | .compact => []

/-- The statement that makes room for a view. -/
def dropView (name : String) : String :=
  "/*!50001 DROP VIEW IF EXISTS " ++ quoteIdentifier name ++ "*/;"

/-- The columns of a stub, each with a value that is never looked at. -/
def stubColumns (columns : List String) : String :=
  String.intercalate ",\n" (columns.map fun c => " 1 AS " ++ quoteIdentifier c)

/-- The statement that creates a view of these columns. -/
def createStub (view : View) : Lines := [
  "/*!50001 CREATE VIEW " ++ quoteIdentifier view.name ++ " AS SELECT",
  stubColumns view.columns ++ " */;"]

/-- The stub of a view. -/
def viewStub (style : DumpStyle) (view : View) : Lines :=
  match style with
  | .full =>
    ["",
      "--",
      "-- Temporary view structure for view " ++ quoteIdentifier view.name,
      "--",
      "",
      dropView view.name,
      "SET @saved_cs_client     = @@character_set_client;",
      "/*!50503 SET character_set_client = utf8mb4 */;"] ++
    createStub view ++
    ["SET character_set_client = @saved_cs_client;"]
  | .compact => dropView view.name :: createStub view

/-- A statement in a comment that servers from `version` on run. -/
def versioned (version sql : String) : String := "/*!" ++ version ++ " " ++ sql ++ " */"

theorem versioned_semicolon (version sql : String) :
    versioned version sql ++ ";" = "/*!" ++ version ++ " " ++ sql ++ " */;" := by
  rw [versioned, String.append_assoc]
  rfl

/-- The statement that creates a view.  The parts of a definition that was cut around its definer
clause stand in comments of their own. -/
def createView (view : View) : Lines :=
  match view.definition with
  | some d =>
    if d.definer.isEmpty then [versioned "50001" view.createSql ++ ";"]
    else [versioned "50001" d.head, versioned "50013" d.definer, versioned "50001" d.body ++ ";"]
  | none => [versioned "50001" view.createSql ++ ";"]

/-- The definition of a view, which takes the place of its stub. -/
def viewFinal (style : DumpStyle) (view : View) : Lines :=
  match style with
  | .full =>
    ["",
      "--",
      "-- Final view structure for view " ++ quoteIdentifier view.name,
      "--",
      "",
      dropView view.name,
      "/*!50001 SET @saved_cs_client          = @@character_set_client */;",
      "/*!50001 SET @saved_cs_results         = @@character_set_results */;",
      "/*!50001 SET @saved_col_connection     = @@collation_connection */;",
      "/*!50001 SET character_set_client      = " ++ view.charset ++ " */;",
      "/*!50001 SET character_set_results     = " ++ view.charset ++ " */;",
      "/*!50001 SET collation_connection      = " ++ view.collation ++ " */;"] ++
    createView view ++
    ["/*!50001 SET character_set_client      = @saved_cs_client */;",
      "/*!50001 SET character_set_results     = @saved_cs_results */;",
      "/*!50001 SET collation_connection      = @saved_col_connection */;"]
  | .compact => dropView view.name :: createView view

end Section

end LogicalBackup
