import LogicalBackup.Restore.Mapping
import LogicalBackup.Restore.Splitter
import LogicalBackup.Session

/-!
# Applying a restore

Each unit of a restore is applied within a transaction of its own: its statements are run in their
order, and the transaction is committed when the stream has come to its end and rolled back as soon
as a statement or the stream fails.  Units follow one another; the first that fails ends the
restore, and the ones before it stay committed.
-/

namespace LogicalBackup

/-- A stream that is restored, with its name. -/
structure RestoreUnit where
  name : String
  source : Source

/-- The form in which a unit is shown. -/
def RestoreUnit.shown (u : RestoreUnit) : String :=
  "RestoreUnit \x7b name: " ++ Text.quoted u.name ++ ", .. \x7d"

/-- What one committed unit did. -/
structure UnitSummary where
  unit : String
  statements : Nat := 0
  remapped : Nat := 0
  affectedRows : UInt64 := 0
  deriving DecidableEq, Repr

/-- What a restore did, by units in their order. -/
structure RestoreSummary where
  units : List UnitSummary := []
  deriving DecidableEq, Repr

/-- The number of statements of all units. -/
def RestoreSummary.totalStatements (s : RestoreSummary) : Nat :=
  (s.units.map (·.statements)).foldr (· + ·) 0

/-- Why a restore fails, with the unit that does. -/
inductive RestoreError where
  /-- Its transaction could not be begun. -/
  | begin (unit : String) (source : Fault)
  /-- Its stream failed. -/
  | read (unit : String) (source : IoFault)
  /-- The statement of this number, which ends at this line, failed. -/
  | statement (unit : String) (ordinal line : Nat) (source : Fault)
  /-- Its transaction could not be committed. -/
  | commit (unit : String) (source : Fault)
  deriving DecidableEq, Repr

namespace RestoreError

/-- The text of an error, with that of its cause. -/
def message : RestoreError → String
  | begin unit source => "Failed to begin transaction for " ++ unit ++ ": " ++ source.message
  | read unit source => "Failed to read " ++ unit ++ ": " ++ source.message
  | statement unit ordinal line source =>
    "Statement " ++ Decimal.ofNat ordinal ++ " of " ++ unit ++ " (ending at line " ++
      Decimal.ofNat line ++ ") failed: " ++ source.message
  | commit unit source => "Failed to commit " ++ unit ++ ": " ++ source.message

/-- The name of the unit that failed. -/
def unit : RestoreError → String
  | begin unit _ | read unit _ | statement unit .. | commit unit _ => unit

end RestoreError

/-- A program that restores and may fail. -/
abbrev Restoring (α : Type) : Type := ExceptT RestoreError (Program Call.Answer) α

namespace Restoring

/-- Makes a call; its fault fails the restore as `wrap` says. -/
def call (c : Call) (wrap : Fault → RestoreError) : Restoring c.Result :=
  ExceptT.mk <| Program.step c fun answer => .done (answer.mapError wrap)

/-- Rolls the transaction back and fails.  A fault of rolling back is of no consequence. -/
def abandon {α : Type} (e : RestoreError) : Restoring α :=
  ExceptT.mk <| Program.step .rollback fun _ => .done (.error e)

end Restoring

namespace Restore

/-- Applies the statements that a splitter comes to, and commits. -/
def applyStatements (mapping : DatabaseMapping) (summary : UnitSummary) (splitter : Splitter) :
    Restoring UnitSummary :=
  match h : splitter.next with
  | (none, _) => do
    Restoring.call .commit (.commit summary.unit)
    return summary
  | (some (.fault fault), _) => Restoring.abandon (.read summary.unit fault)
  | (some (.statement bytes), after) =>
    have : after.ahead.length < splitter.ahead.length := Splitter.ahead_nextFrom_lt h
    let ordinal := summary.statements + 1
    let renamed := mapping.renamed? bytes
    ExceptT.mk <| Program.step (.apply (renamed.getD bytes)) fun
      | .error fault =>
        (Restoring.abandon (.statement summary.unit ordinal after.linesRead fault)).run
      | .ok affected =>
        (applyStatements mapping
          { summary with
            statements := ordinal
            remapped := summary.remapped + if renamed.isSome then 1 else 0
            affectedRows := summary.affectedRows + affected } after).run
termination_by splitter.ahead.length

/-- Applies a unit within the transaction that is begun. -/
def applyUnit (mapping : DatabaseMapping) (unit : RestoreUnit) : Restoring UnitSummary :=
  applyStatements mapping { unit := unit.name } (.ofSource unit.source)

/-- Applies units in their order, up to the first that fails. -/
def applyUnits (mapping : DatabaseMapping) : List RestoreUnit → Restoring (List UnitSummary)
  | [] => return []
  | unit :: rest => do
    Restoring.call .beginRestore (.begin unit.name)
    let summary ← applyUnit mapping unit
    return summary :: (← applyUnits mapping rest)

/-- Restores units with their databases renamed as the options say. -/
def restore (units : List RestoreUnit) (options : RestoreOptions) : Restoring RestoreSummary := do
  return { units := ← applyUnits (.ofOptions options) units }

end Restore

end LogicalBackup
