import LogicalBackup.Proofs.Restore.Lines

/-!
# What a source holds

A source may fail, and what it delivers after its first fault is of no interest to a restore.
`Source.text` are the lines that are complete by then, with that fault; a part of a line is lost
with it.  They make statements, and what no semicolon ends is none (`Source.text_statements`).  The
splitter comes to just these statements before the fault (`exists_events_ofSource`).
-/

namespace LogicalBackup

/-- The bytes that a source delivers before its first fault, and that fault. -/
def Source.delivered : Source → Bytes × Option IoFault
  | [] => ([], none)
  | .error fault :: _ => ([], some fault)
  | .ok chunk :: rest => (chunk ++ (delivered rest).1, (delivered rest).2)

/-- The lines of a stream up to its first fault, and that fault. -/
structure SourceText where
  lines : List Bytes
  fault : Option IoFault

/-- The statements that lines make. -/
def SourceText.statements (text : SourceText) : List Bytes := (Splitter.gather [] text.lines).1

namespace Source

/-- The lines that are complete in what a source delivers before its first fault.  Without a fault
the last line may lack its line feed. -/
def text (source : Source) : SourceText where
  lines := match source.delivered.2 with
    | none => rawLines source.delivered.1
    | some _ => (cutLines source.delivered.1).1
  fault := source.delivered.2

/-- A source is a run of chunks, and then perhaps a fault and more. -/
theorem exists_chunks (source : Source) : ∃ (chunks : List Bytes) (tail : Source),
    source = chunks.map .ok ++ tail ∧ source.delivered.1 = chunks.flatten ∧
      (source.delivered.2 = none ∧ tail = [] ∨
        ∃ fault rest, source.delivered.2 = some fault ∧ tail = .error fault :: rest) := by
  induction source with
  | nil => exact ⟨[], [], rfl, rfl, .inl ⟨rfl, rfl⟩⟩
  | cons item rest ih =>
    cases item with
    | error fault => exact ⟨[], _, rfl, rfl, .inr ⟨fault, rest, rfl, rfl⟩⟩
    | ok chunk =>
      obtain ⟨chunks, tail, same, bytes, ending⟩ := ih
      refine ⟨chunk :: chunks, tail, ?_, ?_, ending⟩
      · rw [List.map_cons, List.cons_append, ← same]
      · rw [delivered, List.flatten_cons, bytes]

/-- At a fault the lines so far have come, and a part of a line is lost. -/
theorem linesAfter_fault (part : Bytes) (h : Byte.lineFeed ∉ part) (chunks : List Bytes)
    (fault : IoFault) (rest : Source) :
    linesAfter part (chunks.map .ok ++ .error fault :: rest) =
      (cutLines (part ++ chunks.flatten)).1.map .ok ++ .error fault :: linesAfter [] rest := by
  induction chunks generalizing part with
  | nil => simp [linesAfter, cutLines_of_not_mem h]
  | cons chunk chunks ih =>
    rw [List.map_cons, List.cons_append, linesAfter]
    dsimp only
    rw [ih _ (lineFeed_not_mem_cutLines_snd _), List.flatten_cons, ← List.append_assoc part,
      cutLines_append (part ++ chunk), List.map_append, List.append_assoc]

end Source

/-! ## What statements are -/

/-- The lines of a text that are not empty, each ended by a line feed alone. -/
def normalized (lines : List Bytes) : Bytes :=
  lines.flatMap fun line =>
    if (trimLine line).isEmpty then [] else trimLine line ++ [Byte.lineFeed]

namespace Splitter

/-- Nothing but empty lines is lost, and nothing is moved. -/
theorem flatten_gather (buffer : Bytes) (lines : List Bytes) :
    (gather buffer lines).1.flatten ++ (gather buffer lines).2 = buffer ++ normalized lines := by
  induction lines generalizing buffer with
  | nil => exact (List.append_nil buffer).symm
  | cons line lines ih =>
    rw [normalized, List.flatMap_cons, ← normalized, gather]
    split_ifs
    · exact ih buffer
    · rw [List.flatten_cons, List.append_assoc, ih []]
      simp only [List.append_assoc, List.nil_append]
    · rw [ih]
      simp only [List.append_assoc]

/-- A statement ends with a semicolon at the end of a line. -/
theorem exists_of_mem_gather {buffer statement : Bytes} {lines : List Bytes}
    (h : statement ∈ (gather buffer lines).1) :
    ∃ text, statement = text ++ [Byte.semicolon, Byte.lineFeed] := by
  induction lines generalizing buffer with
  | nil => exact absurd h List.not_mem_nil
  | cons line lines ih =>
    rw [gather] at h
    split_ifs at h with blank closing
    · exact ih h
    · rcases List.mem_cons.1 h with rfl | h
      · obtain ⟨text, same⟩ := List.getLast?_eq_some_iff.1 closing
        exact ⟨buffer ++ text, by simp [same]⟩
      · exact ih h
    · exact ih h

end Splitter

/-- The statements of a stream are terminated; what no semicolon ends is left over. -/
theorem Source.text_statements (source : Source) :
    (∀ statement ∈ source.text.statements,
      ∃ text, statement = text ++ [Byte.semicolon, Byte.lineFeed]) ∧
    ∃ rest, source.text.statements.flatten ++ rest = normalized source.text.lines := by
  refine ⟨fun statement h => Splitter.exists_of_mem_gather h, _, Splitter.flatten_gather [] _⟩

/-! ## What the splitter comes to -/

theorem Splitter.events_fault (fault : IoFault) (ahead : List (Except IoFault Bytes))
    (buffer : Bytes) (n : Nat) :
    (events ⟨.error fault :: ahead, buffer, n⟩).1.map Prod.fst =
      .fault fault :: (events ⟨ahead, buffer, n⟩).1.map Prod.fst := by
  have next : (next ⟨.error fault :: ahead, buffer, n⟩) =
      (some (.fault fault), ⟨ahead, buffer, n⟩) := rfl
  rw [events_of_next_some next, List.map_cons]

/-- The splitter comes to the statements of the text, and then to the fault or to the end. -/
theorem exists_events_ofSource (source : Source) : ∃ more : List SplitEvent,
    (Splitter.ofSource source).events.1.map Prod.fst =
      source.text.statements.map .statement ++ more ∧
      (source.text.fault = none ∧ more = [] ∨
        ∃ fault rest, source.text.fault = some fault ∧ more = .fault fault :: rest) := by
  obtain ⟨chunks, tail, same, bytes, ⟨clean, rfl⟩ | ⟨fault, rest, failed, rfl⟩⟩ :=
    source.exists_chunks
  · have statements : source.text.statements =
        (Splitter.gather [] (rawLines chunks.flatten)).1 := by
      simp only [SourceText.statements, Source.text, clean, bytes]
    refine ⟨[], ?_, .inl ⟨clean, rfl⟩⟩
    rw [List.append_nil, statements, same, List.append_nil, Splitter.ofSource, lines_map_ok]
    exact (Splitter.events_map_ok _ [] 0).1
  · have statements : source.text.statements =
        (Splitter.gather [] (cutLines chunks.flatten).1).1 := by
      simp only [SourceText.statements, Source.text, failed, bytes]
    have lines : source.lines = _ :=
      same ▸ Source.linesAfter_fault [] List.not_mem_nil chunks fault rest
    obtain ⟨events, -⟩ := Splitter.events_append (cutLines chunks.flatten).1
      (.error fault :: Source.linesAfter [] rest) [] 0
    rw [Splitter.events_fault] at events
    rw [Splitter.ofSource, lines, statements]
    exact ⟨_, events, .inr ⟨fault, _, failed, rfl⟩⟩

end LogicalBackup
