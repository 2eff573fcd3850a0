import LogicalBackup.Fault
import LogicalBackup.Number.Decimal

/-!
# Options

What a dump and a restore can be told, and where the server is.
-/

namespace LogicalBackup

/-- What a dump can be told. -/
structure DumpOptions where
  /-- Leave out comments, the settings of the session and the footer. -/
  compact : Bool := false
  /-- Leave out the statements that create and choose the database. -/
  suppressUseDatabase : Bool := false
  /-- Write one `INSERT` statement for each row. -/
  skipExtendedInsert : Bool := false
  /-- Keep the stored generated columns. -/
  includeGeneratedColumns : Bool := false
  /-- The greatest length of an extended `INSERT` statement. -/
  maxAllowedPacket : Nat := 4 * 1024 * 1024
  /-- The number of targets that are dumped at the same time. -/
  parallelism : Nat := 1
  /-- Keep the tables of a schema from being changed while it is dumped. -/
  lockTables : Bool := false
  deriving DecidableEq, Repr

namespace DumpOptions

/-- The greatest number of targets at the same time. -/
def maxParallelism : Nat := 1024

/-- The first reason for which no dump is possible with these options. -/
def fault? (o : DumpOptions) : Option Fault :=
  if o.maxAllowedPacket = 0 then
    some (.configuration "max-allowed-packet must be greater than zero")
  else if o.parallelism = 0 then some (.configuration "parallelism must be at least 1")
  else if maxParallelism < o.parallelism then
    some (.configuration ("parallelism must be at most " ++ Decimal.ofNat maxParallelism ++
      ", got " ++ Decimal.ofNat o.parallelism))
  else none

/-- Accepts options with which a dump is possible. -/
def validate (o : DumpOptions) : Except Fault Unit :=
  match o.fault? with
  | some fault => .error fault
  | none => .ok ()

end DumpOptions

/-- What a restore can be told. -/
structure RestoreOptions where
  /-- Pairs of the name of a database in the dump and the name it is given. -/
  databaseMapping : List (String × String) := []
  deriving DecidableEq, Repr

/-- Where a server is, and who logs in. -/
structure ConnectionConfig where
  host : String
  port : Nat := 3306
  user : String
  password : Option String := none
  deriving DecidableEq, Repr

end LogicalBackup
