/-!
# Faults

What can go wrong below a dump or a restore: a `Fault` of the server, of the options or of stored
data, or an `IoFault` of a stream.
-/

namespace LogicalBackup

/-- The kinds of faults of a stream. -/
inductive IoKind where
  | notFound
  | invalidInput
  | unexpectedEof
  | writeZero
  | other
  deriving DecidableEq, Repr

/-- A fault of a stream, in its own words. -/
structure IoFault where
  kind : IoKind
  message : String
  deriving DecidableEq, Repr

/-- A fault of the server, of the options or of stored data. -/
inductive Fault where
  | connection (text : String)
  | query (text : String)
  | schema (text : String)
  | configuration (text : String)
  | serialization (text : String)
  | transaction (text : String)
  | storage (text : String)
  | io (fault : IoFault)
  | other (text : String)
  deriving DecidableEq, Repr

/-- The text of a fault, which begins with its kind. -/
def Fault.message : Fault → String
  | connection text => "Connection error: " ++ text
  | query text => "Query error: " ++ text
  | schema text => "Schema error: " ++ text
  | configuration text => "Configuration error: " ++ text
  | serialization text => "Serialization error: " ++ text
  | transaction text => "Transaction error: " ++ text
  | storage text => "Storage error: " ++ text
  | io fault => "IO error: " ++ fault.message
  | other text => text

end LogicalBackup
