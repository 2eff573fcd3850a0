import LogicalBackup.Bytes
import LogicalBackup.Fault
import LogicalBackup.Program

/-!
# Sinks and writers

A `Sink` takes bytes, perhaps fewer than it is offered; a `Writer` takes all bytes of a write or
reports a fault.  Each sink gives a writer that offers the rest until all is taken
(`Sink.writer`), and one that keeps bytes back until a buffer is full (`Sink.buffered`).  `Medium`
is a sink in memory, which may be short of room.
-/

namespace LogicalBackup

/-- A place for bytes with states `ω`. -/
structure Sink (ω : Type) where
  /-- Offers bytes; the reply is how many were taken. -/
  accept : ω → Bytes → Except IoFault Nat × ω
  flush : ω → Except IoFault Unit × ω

/-- What takes bytes as a whole. -/
structure Writer (ω : Type) where
  write : ω → Bytes → Except IoFault Unit × ω
  flush : ω → Except IoFault Unit × ω

/-- What a program does with the writer it writes to. -/
inductive WriterOp where
  | write (b : Bytes)
  | flush

/-- What a writer replies. -/
abbrev WriterOp.Reply (_ : WriterOp) : Type := Except IoFault Unit

/-- A program that writes. -/
abbrev Writing (α : Type) : Type := Program WriterOp.Reply α

/-- The program of one write. -/
def Writing.write (b : Bytes) : Writing (Except IoFault Unit) := .perform (.write b)

/-- A writer replies to a program that writes. -/
def Writer.answer {ω : Type} (writer : Writer ω) : (op : WriterOp) → ω → op.Reply × ω
  | .write b, w => writer.write w b
  | .flush, w => writer.flush w

namespace Sink

variable {ω : Type} (sink : Sink ω)

/-- Offers bytes until all are taken.  A sink that takes none of the bytes it is offered is at
fault, in the words of `stuck`. -/
def offerAll (stuck : String) : Bytes → ω → Except IoFault Unit × Bytes × ω
  | [], w => (.ok (), [], w)
  | b :: rest, w =>
    match sink.accept w (b :: rest) with
    | (.error fault, w) => (.error fault, b :: rest, w)
    | (.ok 0, w) => (.error ⟨.writeZero, stuck⟩, b :: rest, w)
    | (.ok (n + 1), w) => offerAll stuck (rest.drop n) w
termination_by bytes => bytes.length
decreasing_by simp only [List.length_drop, List.length_cons]; omega

/-- The writer that hands all bytes on at once. -/
def writer : Writer ω where
  write w b :=
    let (result, _, w) := sink.offerAll "failed to write whole buffer" b w
    (result, w)
  flush := sink.flush

/-- A sink with the bytes that are kept back from it. -/
structure Buffered (ω : Type) where
  inner : ω
  pending : Bytes := []

namespace Buffered

/-- Hands the pending bytes on.  What was not taken stays pending. -/
def handOn (w : Buffered ω) : Except IoFault Unit × Buffered ω :=
  let (result, rest, inner) :=
    sink.offerAll "failed to write the buffered data" w.pending w.inner
  (result, ⟨inner, rest⟩)

/-- The sink at the end: the pending bytes are handed on once more, and a fault is of no
consequence. -/
def close (w : Buffered ω) : ω := (w.handOn sink).2.inner

end Buffered

/-- The writer that keeps bytes back until `capacity` of them are pending.  A write for which there
is no room hands the pending bytes on first, and a write of `capacity` bytes or more is never kept
back. -/
def buffered (capacity : Nat) : Writer (Buffered ω) where
  write w b :=
    let spare := capacity - w.pending.length
    if b.length < spare then (.ok (), { w with pending := w.pending ++ b })
    else
      match if spare < b.length then w.handOn sink else (.ok (), w) with
      | (.error fault, w) => (.error fault, w)
      | (.ok (), w) =>
        if capacity ≤ b.length then
          let (result, inner) := sink.writer.write w.inner b
          (result, { w with inner })
        else (.ok (), { w with pending := w.pending ++ b })
  flush w :=
    match w.handOn sink with
    | (.error fault, w) => (.error fault, w)
    | (.ok (), w) =>
      let (result, inner) := sink.flush w.inner
      (result, { w with inner })

end Sink

/-- A sink in memory. -/
structure Medium where
  /-- The number of bytes that still fit, if there is a limit. -/
  room : Option Nat := none
  refusesFlush : Bool := false
  content : Bytes := []
  deriving DecidableEq, Repr

namespace Medium

/-- The number of bytes that are taken when `n` are offered. -/
def taken (m : Medium) (n : Nat) : Nat := min n (m.room.getD n)

/-- Takes as many bytes as fit.  A full medium refuses a write that is not empty. -/
def accept (m : Medium) (b : Bytes) : Except IoFault Nat × Medium :=
  let n := m.taken b.length
  if n = 0 ∧ b ≠ [] then (.error ⟨.other, "sink is full"⟩, m)
  else (.ok n, { m with room := m.room.map (· - n), content := m.content ++ b.take n })

/-- The sink of a medium, which may refuse to be flushed. -/
def sink : Sink Medium where
  accept := accept
  flush m := (if m.refusesFlush then .error ⟨.other, "flush refused"⟩ else .ok (), m)

end Medium

end LogicalBackup
