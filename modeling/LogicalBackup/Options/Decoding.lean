import LogicalBackup.Datum
import LogicalBackup.Options
import LogicalBackup.Text.Quoted
import LogicalBackup.Toml

/-!
# Reading options

Options are read from an object of a document by the names of their fields, or from an array by
their order.  Fields that are not named have their defaults; those of other names are ignored.
-/

namespace LogicalBackup

namespace Datum

/-- The field of a document that is read by its name, or by its number. -/
def field? (d : Datum) (index : Nat) (name : String) : Option Datum :=
  match d with
  | object entries => entries.lookup name
  | array items => items[index]?
  | _ => none

/-- Accepts an object, or an array of at most `count` items. -/
def asRecord (count : Nat) : Datum → Option Unit
  | object _ => some ()
  | array items => if items.length ≤ count then some () else none
  | _ => none

/-- A truth value, if it is one. -/
def toBool? : Datum → Option Bool
  | bool b => some b
  | _ => none

/-- A text, if it is one. -/
def toString? : Datum → Option String
  | string s => some s
  | _ => none

/-- A natural number that is at most `max`. -/
def toNat? (max : Nat) : Datum → Option Nat
  | integer n => if 0 ≤ n ∧ n ≤ max then some n.toNat else none
  | _ => none

/-- Reads a field that has a default. -/
def readOr {α : Type} (read : Datum → Option α) (default : α) : Option Datum → Option α
  | none => some default
  | some d => read d

end Datum

/-- The greatest size that 64 bits hold. -/
def maxSize : Nat := UInt64.size - 1

/-- Reads the options of a dump, of which none has to be given. -/
def DumpOptions.ofDatum? (d : Datum) : Option DumpOptions := do
  d.asRecord 7
  let defaults : DumpOptions := {}
  let flag (index : Nat) (name : String) (default : Bool) :=
    Datum.readOr Datum.toBool? default (d.field? index name)
  let size (index : Nat) (name : String) (default : Nat) :=
    Datum.readOr (Datum.toNat? maxSize) default (d.field? index name)
  return {
    compact := ← flag 0 "compact" defaults.compact
    suppressUseDatabase := ← flag 1 "suppress-use-database" defaults.suppressUseDatabase
    skipExtendedInsert := ← flag 2 "skip-extended-insert" defaults.skipExtendedInsert
    includeGeneratedColumns :=
      ← flag 3 "include-generated-columns" defaults.includeGeneratedColumns
    maxAllowedPacket := ← size 4 "max-allowed-packet" defaults.maxAllowedPacket
    parallelism := ← size 5 "parallelism" defaults.parallelism
    lockTables := ← flag 6 "lock-tables" defaults.lockTables }

/-- The entries of an object whose values are texts. -/
def Datum.toPairs? : Datum → Option (List (String × String))
  | object entries => entries.mapM fun (key, d) => d.toString?.map fun s => (key, s)
  | _ => none

/-- Reads the options of a restore, of which none has to be given. -/
def RestoreOptions.ofDatum? (d : Datum) : Option RestoreOptions := do
  d.asRecord 1
  return { databaseMapping := ← Datum.readOr Datum.toPairs? [] (d.field? 0 "database-mapping") }

/-- A password, or none if there is nothing. -/
def Datum.toPassword? : Datum → Option (Option String)
  | null => some none
  | string s => some (some s)
  | _ => none

/-- The greatest number of a port. -/
def maxPort : Nat := 65535

/-- Reads where a server is.  The host and the user have to be given. -/
def ConnectionConfig.ofDatum? (d : Datum) : Option ConnectionConfig := do
  d.asRecord 4
  return {
    host := ← (← d.field? 0 "host").toString?
    port := ← Datum.readOr (Datum.toNat? maxPort) 3306 (d.field? 1 "port")
    user := ← (← d.field? 2 "user").toString?
    password := ← Datum.readOr Datum.toPassword? none (d.field? 3 "password") }

/-- The form in which a configuration is shown, without its password. -/
def ConnectionConfig.shown (c : ConnectionConfig) : String :=
  "ConnectionConfig \x7b host: " ++ Text.quoted c.host ++ ", port: " ++ Decimal.ofNat c.port ++
    ", user: " ++ Text.quoted c.user ++ ", password: " ++
    (if c.password.isSome then "Some(\"<redacted>\")" else "None") ++ " \x7d"

/-- Reads a document, where `what` names the options that it holds. -/
def readDocument {α : Type} (what : String) (read : Datum → Option α) (text : String) :
    Except Fault α :=
  match (Toml.read text).bind read with
  | some options => .ok options
  | none => .error (.configuration ("invalid " ++ what ++ " options: not of the expected form"))

/-- Reads the options of a dump from a TOML document. -/
def DumpOptions.ofToml (text : String) : Except Fault DumpOptions := do
  let options ← readDocument "dump" DumpOptions.ofDatum? text
  options.validate
  return options

/-- Reads the options of a restore from a TOML document. -/
def RestoreOptions.ofToml (text : String) : Except Fault RestoreOptions :=
  readDocument "restore" RestoreOptions.ofDatum? text

end LogicalBackup
