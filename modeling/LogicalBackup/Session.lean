import LogicalBackup.Column
import LogicalBackup.Program

/-!
# Sessions

The calls by which a server is read and written.  A dump reads one schema within a snapshot, which
lasts from `beginSnapshot` to `endSnapshot`; a restore applies one stream within a transaction, from
`beginRestore` to `commit` or `rollback`.  Each call has an answer of its own type, or fails.
-/

namespace LogicalBackup

/-- What a server says of itself and of the current schema. -/
structure ServerInfo where
  version : String := ""
  charset : String := ""
  collation : String := ""
  deriving DecidableEq, Repr

/-- An object of a schema as the server lists it. -/
structure ObjectEntry where
  name : String
  /-- The kind in the server's words, such as `BASE TABLE`. -/
  kind : String
  deriving DecidableEq, Repr

/-- A column of an object as the server's catalog lists it. -/
structure ColumnEntry where
  name : String
  /-- Further properties, such as `auto_increment` or `VIRTUAL GENERATED`. -/
  extra : String
  deriving DecidableEq, Repr

/-- What the server's catalog of views says of one view. -/
structure ViewCharset where
  viewName : String
  charset : String
  collation : String
  deriving DecidableEq, Repr

/-- The rows of a query as they arrive: the columns, then the rows, and then perhaps a fault. -/
structure ResultStream where
  columns : List Column
  rows : List (List Cell)
  failure : Option Fault := none
  deriving DecidableEq, Repr

/-- What arrives at a receiver that fails with `fault` at the row of that number, from one, or at
the columns for number zero. -/
def ResultStream.refusedAt (n : Nat) (fault : Fault) (s : ResultStream) : ResultStream :=
  if n ≤ s.rows.length then { s with rows := s.rows.take (n - 1), failure := some fault } else s

/-- What a server is asked to do. -/
inductive Call where
  | listSchemas
  | beginSnapshot
  | useSchema (schema : String)
  | serverInfo
  | listObjects (schema : String)
  | listColumns (schema object : String)
  | showCreateTable (table : String)
  | showCreateView (view : String)
  | viewCharset (schema view : String)
  /-- A statement within a snapshot. -/
  | execute (sql : String)
  | select (sql : String)
  | endSnapshot
  | beginRestore
  /-- A statement within a restore, which affects some rows. -/
  | apply (statement : Bytes)
  | commit
  | rollback
  deriving DecidableEq, Repr

namespace Call

/-- What a successful call answers. -/
abbrev Result : Call → Type
  | listSchemas => List String
  | serverInfo => ServerInfo
  | listObjects _ => List ObjectEntry
  | listColumns _ _ => List ColumnEntry
  | showCreateTable _ => String
  | showCreateView _ => String
  | viewCharset _ _ => ViewCharset
  | select _ => ResultStream
  | apply _ => UInt64
  | beginSnapshot | useSchema _ | execute _ | endSnapshot | beginRestore | commit | rollback => Unit

/-- What a call answers: a result or a fault. -/
abbrev Answer (c : Call) : Type := Except Fault c.Result

end Call

/-- A server with states `σ`. -/
abbrev Server (σ : Type) : Type := (c : Call) → σ → c.Answer × σ

/-- The server that also notes each call. -/
def Server.logged {σ : Type} (server : Server σ) : Server (σ × List Call) :=
  fun c (s, log) =>
    let (answer, s) := server c s
    (answer, (s, log ++ [c]))

/-- A call with its answer and the state of the server after it. -/
structure Exchange (σ : Type) where
  call : Call
  answer : call.Answer
  after : σ

/-- Makes calls in their order, whatever the answers are. -/
def Server.exchanges {σ : Type} (server : Server σ) : List Call → σ → List (Exchange σ)
  | [], _ => []
  | c :: rest, s =>
    let (answer, after) := server c s
    ⟨c, answer, after⟩ :: server.exchanges rest after

end LogicalBackup
