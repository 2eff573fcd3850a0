import LogicalBackup.Dump.Plan
import LogicalBackup.Dump.Schema

/-!
# Running a dump

`Dump.run` dumps targets, each through a buffer into its own sink, and `Dump.dump` plans a request
and runs it.  A schema that fails ends its own target only; the errors of all targets are reported
together, in the order of the targets, whatever the order in which they come to their ends
(`Dump.collect`).
-/

namespace LogicalBackup

/-- How a target ended: the schemas that were dumped, and the error that ended it. -/
structure TargetOutcome where
  index : Nat
  schemas : List SchemaSummary
  error : Option DumpError

/-- The result of a run, with the states of the sinks and of the server after it. -/
structure RunResult (σ ω : Type) where
  result : Except DumpError DumpSummary
  sinks : List ω
  server : σ

namespace Dump

/-- The number of bytes that are kept back from a sink. -/
def bufferCapacity : Nat := 64 * 1024

/-- The program of a target, where `done` are the schemas that are dumped already.  What is pending
is flushed at the end and also when a schema fails. -/
def dumpSchemas (options : DumpOptions) (style : DumpStyle) :
    List SchemaSummary → List String →
      Program DumpOp.Reply (List SchemaSummary × Option DumpError)
  | done, [] => do
    match ← Dumping.flush.run with
    | .ok () => return (done, none)
    | .error e => return (done, some e)
  | done, schema :: rest => do
    match ← (dumpInSnapshot schema options style).run with
    | .ok summary => dumpSchemas options style (done ++ [summary]) rest
    | .error e =>
      let _ ← Dumping.flush.run
      return (done, some (.schema schema e))

/-- Dumps one target through a buffer, which is closed at the end. -/
def runTarget {σ ω : Type} (server : Server σ) (sink : Sink ω) (clock : DateTime)
    (options : DumpOptions) (index : Nat) (target : Target ω) (s : σ) : TargetOutcome × ω × σ :=
  let world : DumpWorld σ (Sink.Buffered ω) :=
    { server, writer := sink.buffered bufferCapacity, clock }
  let program := dumpSchemas options (.ofCompact options.compact) [] target.schemas
  let ((schemas, error), (s, w)) := program.run world.answer (s, { inner := target.sink })
  ({ index, schemas, error }, w.close sink, s)

/-- Dumps targets one after another, the first of which has the number `index`. -/
def runTargets {σ ω : Type} (server : Server σ) (sink : Sink ω) (clock : DateTime)
    (options : DumpOptions) : Nat → List (Target ω) → σ → List TargetOutcome × List ω × σ
  | _, [], s => ([], [], s)
  | index, target :: rest, s =>
    let (outcome, w, s) := runTarget server sink clock options index target s
    let (outcomes, ws, s) := runTargets server sink clock options (index + 1) rest s
    (outcome :: outcomes, w :: ws, s)

/-- The result of a run of `total` targets that ended in these ways, in any order. -/
def collect (total : Nat) (outcomes : List TargetOutcome) : Except DumpError DumpSummary :=
  let outcomes := outcomes.mergeSort fun a b => a.index ≤ b.index
  let errors := outcomes.filterMap (·.error)
  if errors.isEmpty then .ok { schemas := outcomes.flatMap (·.schemas) }
  else .error (.aggregate total errors)

/-- Accepts options and targets with which a run can begin. -/
def validateRun {ω : Type} (options : DumpOptions) (targets : List (Target ω)) :
    Except DumpError Unit := do
  options.validate.mapError .fault
  validateSchemaNames (targets.flatMap (·.schemas))

/-- Dumps targets.  Neither a sink nor the server is touched if the run is refused. -/
def run {σ ω : Type} (server : Server σ) (sink : Sink ω) (clock : DateTime)
    (options : DumpOptions) (targets : List (Target ω)) (s : σ) : RunResult σ ω :=
  match validateRun options targets with
  | .error e => { result := .error e, sinks := targets.map (·.sink), server := s }
  | .ok () =>
    let (outcomes, sinks, s) := runTargets server sink clock options 0 targets s
    { result := collect targets.length outcomes, sinks, server := s }

/-- Plans a request and dumps its targets. -/
def dump {σ ω : Type} (server : Server σ) (sink : Sink ω) (clock : DateTime)
    (options : DumpOptions) (schemas : List String) (sinks : List ω) (s : σ) : RunResult σ ω :=
  match options.validate with
  | .error fault => { result := .error (.fault fault), sinks, server := s }
  | .ok () =>
    match Program.run server (plan schemas sinks).run s with
    | (.error e, s) => { result := .error e, sinks, server := s }
    | (.ok targets, s) => run server sink clock options targets s

end Dump

end LogicalBackup
