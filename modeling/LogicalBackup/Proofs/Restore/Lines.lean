import LogicalBackup.Restore.Splitter
import Mathlib.Data.List.Basic
import Mathlib.Tactic.SplitIfs

/-!
# Lines of a stream

The lines that a source delivers are the lines of its bytes, wherever its chunks end
(`lines_map_ok`).  What a splitter comes to over lines is given by `gather`, which collects lines
until one ends in a semicolon (`events_map_ok`).  Together they say what a splitter makes of a byte
string (`splitsInto_iff`), and `gather` can be computed piece by piece (`gather_append`).
-/

namespace LogicalBackup

/-! ## Cutting at line feeds -/

theorem cutLines_cons (b : UInt8) (bytes : Bytes) :
    cutLines (b :: bytes) = consByte b (cutLines bytes) := rfl

/-- Cutting goes on from the part of a line that is left over. -/
theorem cutLines_append (a b : Bytes) :
    cutLines (a ++ b) =
      ((cutLines a).1 ++ (cutLines ((cutLines a).2 ++ b)).1, (cutLines ((cutLines a).2 ++ b)).2) := by
  induction a with
  | nil => rfl
  | cons x a ih =>
    rw [List.cons_append, cutLines_cons, ih, cutLines_cons]
    rcases hc : cutLines a with ⟨lines, rest⟩
    by_cases hx : x = Byte.lineFeed
    · simp [consByte, hx]
    · rcases lines with _ | ⟨line, lines⟩
      · simp [consByte, hx, cutLines_cons]
      · simp [consByte, hx]

/-- Bytes without a line feed are no line yet. -/
theorem cutLines_of_not_mem {b : Bytes} (h : Byte.lineFeed ∉ b) : cutLines b = ([], b) := by
  induction b with
  | nil => rfl
  | cons x b ih =>
    rw [List.mem_cons, not_or] at h
    rw [cutLines_cons, ih h.2]
    simp [consByte, Ne.symm h.1]

theorem lineFeed_not_mem_cutLines_snd (b : Bytes) : Byte.lineFeed ∉ (cutLines b).2 := by
  induction b with
  | nil => exact List.not_mem_nil
  | cons x b ih =>
    rw [cutLines_cons]
    rcases hc : cutLines b with ⟨lines, rest⟩
    rw [hc] at ih
    by_cases hx : x = Byte.lineFeed
    · simpa [consByte, hx] using ih
    · rcases lines with _ | ⟨line, lines⟩
      · simpa [consByte, hx, Ne.symm hx] using ih
      · simpa [consByte, hx] using ih

theorem cutLines_line {l : Bytes} (h : Byte.lineFeed ∉ l) (rest : Bytes) :
    cutLines (l ++ Byte.lineFeed :: rest) =
      ((l ++ [Byte.lineFeed]) :: (cutLines rest).1, (cutLines rest).2) := by
  induction l with
  | nil => simp [cutLines_cons, consByte]
  | cons x l ih =>
    rw [List.mem_cons, not_or] at h
    rw [List.cons_append, cutLines_cons, ih h.2]
    simp [consByte, Ne.symm h.1]

/-- The lines of a byte string.  The last one may lack a line feed. -/
def rawLines (b : Bytes) : List Bytes :=
  (cutLines b).1 ++ if (cutLines b).2.isEmpty then [] else [(cutLines b).2]

@[simp] theorem rawLines_nil : rawLines [] = [] := rfl

theorem rawLines_line {l : Bytes} (h : Byte.lineFeed ∉ l) (rest : Bytes) :
    rawLines (l ++ Byte.lineFeed :: rest) = (l ++ [Byte.lineFeed]) :: rawLines rest := by
  simp only [rawLines, cutLines_line h, List.cons_append]

/-- A text of whole lines: it is empty or ends in a line feed. -/
def IsClosed (b : Bytes) : Prop := (cutLines b).2 = []

theorem isClosed_nil : IsClosed [] := rfl

theorem isClosed_concat (b : Bytes) : IsClosed (b ++ [Byte.lineFeed]) := by
  unfold IsClosed
  rw [cutLines_append, cutLines_line (lineFeed_not_mem_cutLines_snd b) []]
  rfl

theorem IsClosed.append {a b : Bytes} (ha : IsClosed a) (hb : IsClosed b) : IsClosed (a ++ b) := by
  unfold IsClosed at *
  rw [cutLines_append, ha]
  exact hb

theorem rawLines_append_rest (a b : Bytes) :
    rawLines (a ++ b) = (cutLines a).1 ++ rawLines ((cutLines a).2 ++ b) := by
  simp only [rawLines, cutLines_append a b, List.append_assoc]

theorem rawLines_append {a : Bytes} (ha : IsClosed a) (b : Bytes) :
    rawLines (a ++ b) = rawLines a ++ rawLines b := by
  unfold IsClosed at ha
  rw [rawLines_append_rest, rawLines.eq_1 a, ha]
  simp

theorem linesAfter_map_ok (part : Bytes) (h : Byte.lineFeed ∉ part) (chunks : List Bytes) :
    Source.linesAfter part (chunks.map .ok) = (rawLines (part ++ chunks.flatten)).map .ok := by
  induction chunks generalizing part with
  | nil =>
    rw [List.flatten_nil, List.append_nil, rawLines, cutLines_of_not_mem h]
    simp only [List.map_nil, Source.linesAfter, List.nil_append]
    split_ifs <;> rfl
  | cons chunk chunks ih =>
    rw [List.map_cons, Source.linesAfter]
    dsimp only
    rw [ih _ (lineFeed_not_mem_cutLines_snd _), ← List.map_append, List.flatten_cons,
      ← List.append_assoc, rawLines_append_rest (part ++ chunk)]

/-- The lines of a source that does not fail are those of its bytes, whatever the chunks. -/
theorem lines_map_ok (chunks : List Bytes) :
    Source.lines (chunks.map .ok) = (rawLines chunks.flatten).map .ok :=
  linesAfter_map_ok [] List.not_mem_nil chunks

/-! ## Gathering lines into statements -/

namespace Splitter

/-- The statements that lines make after those in the buffer, and what is left over. -/
def gather (buffer : Bytes) : List Bytes → List Bytes × Bytes
  | [] => ([], buffer)
  | line :: rest =>
    if (trimLine line).isEmpty then gather buffer rest
    else if (trimLine line).getLast? = some Byte.semicolon then
      ((buffer ++ trimLine line ++ [Byte.lineFeed]) :: (gather [] rest).1, (gather [] rest).2)
    else gather (buffer ++ trimLine line ++ [Byte.lineFeed]) rest

theorem gather_append (buffer : Bytes) (a b : List Bytes) :
    gather buffer (a ++ b) =
      ((gather buffer a).1 ++ (gather (gather buffer a).2 b).1,
        (gather (gather buffer a).2 b).2) := by
  induction a generalizing buffer with
  | nil => rfl
  | cons line a ih =>
    rw [List.cons_append, gather, gather]
    split_ifs
    · exact ih buffer
    · simp only [ih [], List.cons_append]
    · exact ih _

theorem events_eq (s : Splitter) :
    s.events = match s.next with
      | (none, t) => ([], t)
      | (some e, t) => ((e, t.linesRead) :: t.events.1, t.events.2) := by
  rw [events]
  split
  · next h => rw [h]
  · next h => simp only [h]

/-- The events depend on the next one alone. -/
theorem events_congr {s t : Splitter} (h : s.next = t.next) : s.events = t.events := by
  rw [events_eq, events_eq t, h]

theorem events_of_next_none {s t : Splitter} (h : s.next = (none, t)) : s.events = ([], t) := by
  rw [events_eq, h]

theorem events_of_next_some {s t : Splitter} {e : SplitEvent} (h : s.next = (some e, t)) :
    s.events = ((e, t.linesRead) :: t.events.1, t.events.2) := by
  rw [events_eq, h]

/-- Lines make statements whatever comes after them, and the splitter goes on from what is left
over. -/
theorem events_append (lines : List Bytes) (tail : List (Except IoFault Bytes)) (buffer : Bytes)
    (n : Nat) :
    let s : Splitter := { ahead := lines.map .ok ++ tail, buffer, linesRead := n }
    let t : Splitter := ⟨tail, (gather buffer lines).2, n + lines.length⟩
    s.events.1.map Prod.fst =
        (gather buffer lines).1.map .statement ++ t.events.1.map Prod.fst ∧
      s.events.2 = t.events.2 := by
  induction lines generalizing buffer n with
  | nil => exact ⟨rfl, rfl⟩
  | cons line lines ih =>
    have length : n + (line :: lines).length = n + 1 + lines.length := by
      rw [List.length_cons]
      omega
    dsimp only
    rw [length]
    by_cases blank : (trimLine line).isEmpty
    · rw [events_congr (t := { ahead := lines.map .ok ++ tail, buffer, linesRead := n + 1 })
        (by simp [next, nextFrom, blank]), gather, if_pos blank]
      exact ih buffer (n + 1)
    · rw [gather, if_neg blank]
      by_cases closing : (trimLine line).getLast? = some Byte.semicolon
      · rw [events_of_next_some (t := { ahead := lines.map .ok ++ tail, linesRead := n + 1 })
          (e := .statement (buffer ++ trimLine line ++ [Byte.lineFeed]))
          (by simp [next, nextFrom, blank, closing]), if_pos closing]
        obtain ⟨events, last⟩ := ih [] (n + 1)
        exact ⟨congrArg (_ :: ·) events, last⟩
      · rw [events_congr (t := ⟨lines.map .ok ++ tail, buffer ++ trimLine line ++ [Byte.lineFeed],
          n + 1⟩) (by simp [next, nextFrom, blank, closing]), if_neg closing]
        exact ih _ (n + 1)

/-- Over lines without faults, the events are the statements that the lines make. -/
theorem events_map_ok (lines : List Bytes) (buffer : Bytes) (n : Nat) :
    (events { ahead := lines.map .ok, buffer, linesRead := n }).1.map Prod.fst =
        (gather buffer lines).1.map .statement ∧
      (events { ahead := lines.map .ok, buffer, linesRead := n }).2.remainder =
        (gather buffer lines).2 := by
  obtain ⟨events, last⟩ := events_append lines [] buffer n
  have ended : (⟨[], (gather buffer lines).2, n + lines.length⟩ : Splitter).events = ([], _) :=
    events_of_next_none rfl
  rw [List.append_nil, ended] at events last
  exact ⟨by rw [events, List.map_nil, List.append_nil], by rw [last]; rfl⟩

end Splitter

/-- However `bytes` are delivered, the splitter comes to these statements and leaves this
remainder. -/
def SplitsInto (bytes : Bytes) (statements : List Bytes) (rest : Bytes) : Prop :=
  ∀ chunks : List Bytes, chunks.flatten = bytes →
    (Splitter.ofSource (chunks.map .ok)).events.1.map Prod.fst =
        statements.map SplitEvent.statement ∧
      (Splitter.ofSource (chunks.map .ok)).events.2.remainder = rest

theorem splitsInto_iff {bytes : Bytes} {statements : List Bytes} {rest : Bytes} :
    SplitsInto bytes statements rest ↔
      Splitter.gather [] (rawLines bytes) = (statements, rest) := by
  have inj : Function.Injective (List.map SplitEvent.statement) :=
    List.map_injective_iff.2 fun _ _ => SplitEvent.statement.inj
  have main (chunks : List Bytes) := Splitter.events_map_ok (rawLines chunks.flatten) [] 0
  unfold SplitsInto Splitter.ofSource
  constructor
  · intro h
    have := h [bytes] (by simp)
    rw [lines_map_ok] at this
    rw [(main [bytes]).1, (main [bytes]).2, List.flatten_singleton] at this
    exact Prod.ext (inj this.1) this.2
  · rintro h chunks rfl
    rw [lines_map_ok, (main chunks).1, (main chunks).2, h]
    exact ⟨rfl, rfl⟩

end LogicalBackup
