import LogicalBackup.Source

/-!
# Splitting a stream into statements

A statement ends at a line whose last byte is a semicolon, and nowhere else.  Empty lines are left
out, and every other line of a statement is ended by a line feed alone.  What follows the last
statement is the remainder.
-/

namespace LogicalBackup

/-- A stream on its way into statements. -/
structure Splitter where
  /-- The lines and faults that are still to come. -/
  ahead : List (Except IoFault Bytes)
  /-- The lines of the statement that is not complete yet. -/
  buffer : Bytes := []
  /-- The number of lines read so far, empty ones included. -/
  linesRead : Nat := 0

/-- What a splitter comes to. -/
inductive SplitEvent where
  | statement (bytes : Bytes)
  | fault (fault : IoFault)
  deriving DecidableEq, Repr

/-- A line without its line feed and a carriage return before that. -/
def trimLine (line : Bytes) : Bytes :=
  if line.getLast? = some Byte.lineFeed then
    let line := line.dropLast
    if line.getLast? = some Byte.carriageReturn then line.dropLast else line
  else line

namespace Splitter

/-- The splitter at the start of a stream. -/
def ofSource (source : Source) : Splitter := { ahead := source.lines }

/-- The next event among lines, and the splitter after it. -/
def nextFrom (buffer : Bytes) (linesRead : Nat) :
    List (Except IoFault Bytes) → Option SplitEvent × Splitter
  | [] => (none, { ahead := [], buffer, linesRead })
  | .error fault :: ahead => (some (.fault fault), { ahead, buffer, linesRead })
  | .ok line :: ahead =>
    let line := trimLine line
    if line.isEmpty then nextFrom buffer (linesRead + 1) ahead
    else
      let grown := buffer ++ line ++ [Byte.lineFeed]
      if line.getLast? = some Byte.semicolon then
        (some (.statement grown), { ahead, linesRead := linesRead + 1 })
      else nextFrom grown (linesRead + 1) ahead

/-- The next event, if there is one, and the splitter after it. -/
def next (s : Splitter) : Option SplitEvent × Splitter := nextFrom s.buffer s.linesRead s.ahead

theorem ahead_nextFrom_lt {buffer : Bytes} {linesRead : Nat} {e : SplitEvent} {s : Splitter} :
    {ahead : List (Except IoFault Bytes)} → nextFrom buffer linesRead ahead = (some e, s) →
      s.ahead.length < ahead.length
  | [], h => by simp [nextFrom] at h
  | .error _ :: ahead, h => by
    simp only [nextFrom, Prod.mk.injEq] at h
    rw [← h.2]; simp
  | .ok line :: ahead, h => by
    rw [nextFrom] at h
    dsimp only at h
    split at h
    · have := ahead_nextFrom_lt h
      simp only [List.length_cons]; omega
    · split at h
      · simp only [Prod.mk.injEq] at h
        rw [← h.2]; simp
      · have := ahead_nextFrom_lt h
        simp only [List.length_cons]; omega

/-- The events of a splitter, each with the number of lines read up to it, and the splitter at the
end of the stream. -/
def events (s : Splitter) : List (SplitEvent × Nat) × Splitter :=
  match h : s.next with
  | (none, s') => ([], s')
  | (some e, s') =>
    have : s'.ahead.length < s.ahead.length := ahead_nextFrom_lt h
    let (rest, last) := s'.events
    ((e, s'.linesRead) :: rest, last)
termination_by s.ahead.length

/-- What is left over behind the last statement. -/
def remainder (s : Splitter) : Bytes := s.buffer

/-- Whether a byte is white space of ASCII. -/
def isAsciiBlank (b : UInt8) : Bool :=
  b = 0x20 || b = 0x09 || b = Byte.lineFeed || b = 0x0c || b = Byte.carriageReturn

/-- Whether a line holds more than a comment. -/
def isSqlLine (line : Bytes) : Bool :=
  let line := line.dropWhile isAsciiBlank
  !line.isEmpty && !(utf8 "--").isPrefixOf line

/-- Whether the remainder holds more than comments. -/
def remainderHasSql (s : Splitter) : Bool :=
  let (lines, rest) := cutLines s.buffer
  (lines.map List.dropLast).any isSqlLine || isSqlLine rest

end Splitter

end LogicalBackup
