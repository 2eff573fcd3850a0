import LogicalBackup.Bytes
import LogicalBackup.Fault

/-!
# Sources and their lines

A `Source` delivers a stream in chunks and may fail between them.  `Source.lines` cuts it after each
line feed, wherever the chunks end; the last line may lack one.  When a source fails, the part of a
line that it had delivered is lost.
-/

namespace LogicalBackup

/-- The chunks that a stream delivers, and the faults with which it fails in between. -/
abbrev Source : Type := List (Except IoFault Bytes)

/-- One step of `cutLines`, which reads bytes from their end. -/
def consByte (b : UInt8) : List Bytes × Bytes → List Bytes × Bytes
  | (lines, rest) =>
    if b = Byte.lineFeed then ([b] :: lines, rest)
    else match lines with
      | [] => ([], b :: rest)
      | line :: lines => ((b :: line) :: lines, rest)

/-- The lines of a byte string with their line feeds, and the bytes after the last of these. -/
def cutLines (bytes : Bytes) : List Bytes × Bytes := bytes.foldr consByte ([], [])

namespace Source

/-- The lines of a source after `part`, which is the part of a line delivered so far. -/
def linesAfter (part : Bytes) : Source → List (Except IoFault Bytes)
  | [] => if part.isEmpty then [] else [.ok part]
  | .error fault :: rest => .error fault :: linesAfter [] rest
  | .ok chunk :: rest =>
    let (lines, part) := cutLines (part ++ chunk)
    lines.map .ok ++ linesAfter part rest

/-- The lines and faults of a source in their order. -/
def lines (source : Source) : List (Except IoFault Bytes) := linesAfter [] source

/-- The bytes of a source, unless it fails. -/
def readAll (source : Source) : Except IoFault Bytes := do
  return (← source.mapM id).flatten

end Source

end LogicalBackup
