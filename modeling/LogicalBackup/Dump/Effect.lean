import LogicalBackup.Batch
import LogicalBackup.Catalog.Introspection
import LogicalBackup.Section

/-!
# Effects of a dump

A dump asks the server, writes to a sink and looks at the clock.  A program that does only one of
these is a dump as well (`Writing.toDump`, `Asking.toDump`).
-/

namespace LogicalBackup

/-- What a dump does. -/
inductive DumpOp where
  | ask (c : Call)
  | write (op : WriterOp)
  | now

/-- What a dump gets in return. -/
abbrev DumpOp.Reply : DumpOp → Type
  | ask c => c.Answer
  | write op => op.Reply
  | now => DateTime

/-- A program that dumps and may fail. -/
abbrev Dumping (α : Type) : Type := ExceptT DumpError (Program DumpOp.Reply) α

/-- What answers a dump: a server, the writer of a sink, and a clock. -/
structure DumpWorld (σ ω : Type) where
  server : Server σ
  writer : Writer ω
  clock : DateTime

/-- The server, the writer and the clock answer, each what it is asked. -/
def DumpWorld.answer {σ ω : Type} (world : DumpWorld σ ω) :
    (op : DumpOp) → σ × ω → op.Reply × (σ × ω)
  | .ask c, (s, w) =>
    let (reply, s) := world.server c s
    (reply, (s, w))
  | .write op, (s, w) =>
    let (reply, w) := world.writer.answer op w
    (reply, (s, w))
  | .now, state => (world.clock, state)

/-- A program that writes, as part of a dump. -/
def Writing.toDump {α : Type} (p : Writing α) : Program DumpOp.Reply α :=
  p.expand fun op => .perform (.write op)

/-- A program that asks, as part of a dump. -/
def Asking.toDump {α : Type} (p : Asking α) : Dumping α :=
  ExceptT.mk (Program.expand (fun c => .perform (.ask c)) p.run)

namespace Dumping

/-- Makes a call; its fault fails the dump as `wrap` says. -/
def ask (c : Call) (wrap : Fault → DumpError) : Dumping c.Result :=
  ExceptT.mk <| Program.step (.ask c) fun answer => .done (answer.mapError wrap)

/-- Writes bytes; a fault of the sink fails the dump. -/
def write (b : Bytes) : Dumping Unit :=
  ExceptT.mk <| Program.step (.write (.write b)) fun answer => .done (answer.mapError .io)

/-- Writes the lines of a section. -/
def writeSection (lines : Lines) : Dumping Unit := write (utf8 lines.text)

/-- Flushes the sink; its fault fails the dump. -/
def flush : Dumping Unit :=
  ExceptT.mk <| Program.step (.write .flush) fun answer => .done (answer.mapError .io)

/-- Looks at the clock. -/
def now : Dumping DateTime :=
  ExceptT.mk <| Program.step .now fun time => .done (.ok time)

end Dumping

end LogicalBackup
