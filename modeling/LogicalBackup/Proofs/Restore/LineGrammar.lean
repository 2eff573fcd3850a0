import LogicalBackup.Proofs.Restore.SourceText
import LogicalBackup.Proofs.Restore.Closings
import Mathlib.Data.List.Infix

/-!
# The line grammar of a dump

A byte string is lines in one way only, and lines are statements and a rest in one way only
(`Grammar.Text`).  A line is its content and its end, and a statement is the lines up to the first
whose content ends in a semicolon.  The splitter comes to the statements of its source, however that
delivers them (`splitter_accepts_line_grammar`), and a source that fails costs it no line whose line
feed has come.
-/

namespace LogicalBackup

namespace Grammar

/-! ## Lines -/

/-- What a line ends with. -/
inductive LineEnd where
  | missing
  | feed
  | returnFeed
  deriving DecidableEq

/-- The bytes after the content of a line. -/
def LineEnd.bytes : LineEnd → Bytes
  | missing => []
  | feed => [Byte.lineFeed]
  | returnFeed => [Byte.carriageReturn, Byte.lineFeed]

theorem LineEnd.bytes_injective : Function.Injective LineEnd.bytes := by
  intro e e' h
  cases e <;> cases e' <;> first | rfl | cases h

/-- The content of a line and what it ends with.  A carriage return is part of the end if a line
feed follows it, and of the content otherwise. -/
@[ext] structure Line where
  content : Bytes
  ending : LineEnd
  feed_not_mem : Byte.lineFeed ∉ content
  return_in_ending : ending = .feed → content.getLast? ≠ some Byte.carriageReturn

namespace Line

/-- The bytes of a line with its end. -/
def bytes (l : Line) : Bytes := l.content ++ l.ending.bytes

/-- The line feed of a line has come. -/
def Complete (l : Line) : Prop := l.ending ≠ .missing

/-- The content of a line ends in a semicolon. -/
def Closes (l : Line) : Prop := l.content.getLast? = some Byte.semicolon

instance (l : Line) : Decidable l.Complete := inferInstanceAs (Decidable (_ ≠ _))

instance (l : Line) : Decidable l.Closes := inferInstanceAs (Decidable (_ = _))

/-- The program finds the content of a line in its bytes. -/
theorem trimLine_bytes (l : Line) : trimLine l.bytes = l.content := by
  obtain ⟨content, ending, feed, ret⟩ := l
  cases ending with
  | missing =>
    have last : content.getLast? ≠ some Byte.lineFeed := fun h => feed (List.mem_of_getLast? h)
    simp only [bytes, LineEnd.bytes, List.append_nil, trimLine, if_neg last]
  | feed => exact trimLine_concat (ret rfl)
  | returnFeed => simp [bytes, LineEnd.bytes, trimLine]

theorem bytes_injective : Function.Injective bytes := by
  intro l l' h
  have content : l.content = l'.content := by rw [← trimLine_bytes l, h, trimLine_bytes]
  have ending : l.ending.bytes = l'.ending.bytes := by
    unfold bytes at h
    rw [content] at h
    exact List.append_cancel_left h
  exact Line.ext content (LineEnd.bytes_injective ending)

/-- A line that is complete ends at its only line feed. -/
theorem Complete.bytes_eq {l : Line} (h : l.Complete) :
    ∃ body, Byte.lineFeed ∉ body ∧ l.bytes = body ++ [Byte.lineFeed] := by
  obtain ⟨content, ending, feed, ret⟩ := l
  cases ending with
  | missing => exact absurd rfl h
  | feed => exact ⟨content, feed, rfl⟩
  | returnFeed =>
    refine ⟨content ++ [Byte.carriageReturn], ?_, ?_⟩
    · rw [List.mem_append, not_or]
      exact ⟨feed, by decide⟩
    · simp only [bytes, LineEnd.bytes, List.append_assoc, List.singleton_append]

theorem bytes_of_not_complete {l : Line} (h : ¬l.Complete) : l.bytes = l.content := by
  unfold bytes
  rw [not_not.1 h]
  exact List.append_nil _

/-- What stands before a line feed is the content of a line, or that and a carriage return. -/
theorem exists_complete {body : Bytes} (h : Byte.lineFeed ∉ body) :
    ∃ l : Line, l.Complete ∧ l.bytes = body ++ [Byte.lineFeed] := by
  by_cases ret : body.getLast? = some Byte.carriageReturn
  · obtain ⟨content, rfl⟩ := List.getLast?_eq_some_iff.1 ret
    have feed : Byte.lineFeed ∉ content := fun mem => h (List.mem_append_left _ mem)
    exact ⟨⟨content, .returnFeed, feed, nofun⟩, nofun,
      (List.append_assoc content [Byte.carriageReturn] [Byte.lineFeed]).symm⟩
  · exact ⟨⟨body, .feed, h, fun _ => ret⟩, nofun, rfl⟩

end Line

/-! ## Texts of lines -/

/-- Lines that follow one another: only the last may lack its line feed, and then it is not
empty. -/
inductive IsText : List Line → Prop
  | nil : IsText []
  | last {l : Line} : ¬l.Complete → l.content ≠ [] → IsText [l]
  | cons {l : Line} {lines : List Line} : l.Complete → IsText lines → IsText (l :: lines)

/-- Where a line follows, those before it are complete. -/
theorem IsText.of_append_cons {before after : List Line} {l : Line}
    (h : IsText (before ++ l :: after)) : (∀ x ∈ before, x.Complete) ∧ IsText (l :: after) := by
  induction before with
  | nil => exact ⟨fun _ hx => absurd hx List.not_mem_nil, h⟩
  | cons x before ih =>
    rw [List.cons_append] at h
    generalize tail : before ++ l :: after = lines at h
    cases h with
    | last => exact absurd tail (by simp)
    | cons complete rest =>
      obtain ⟨others, last⟩ := ih (tail ▸ rest)
      exact ⟨List.forall_mem_cons.2 ⟨complete, others⟩, last⟩

/-- Nothing follows a line that lacks its line feed. -/
theorem IsText.eq_nil_of_not_complete {l : Line} {lines : List Line} (h : IsText (l :: lines))
    (missing : ¬l.Complete) : lines = [] := by
  cases h with
  | last => rfl
  | cons complete _ => exact absurd complete missing

theorem IsText.of_cons {l : Line} {lines : List Line} (h : IsText (l :: lines)) : IsText lines := by
  cases h with
  | last => exact .nil
  | cons _ rest => exact rest

/-- The lines of a text, where it is cut after each line feed. -/
theorem IsText.cutLines_eq {lines : List Line} (h : IsText lines) :
    (cutLines (lines.flatMap Line.bytes)).1 = (lines.filter Line.Complete).map Line.bytes ∧
      rawLines (lines.flatMap Line.bytes) = lines.map Line.bytes := by
  induction h with
  | nil => exact ⟨rfl, rfl⟩
  | @last l missing ne =>
    rw [List.flatMap_singleton, Line.bytes_of_not_complete missing, rawLines,
      cutLines_of_not_mem l.feed_not_mem]
    simp [missing, ne, Line.bytes_of_not_complete missing]
  | @cons l lines complete _ ih =>
    obtain ⟨body, feed, same⟩ := complete.bytes_eq
    rw [List.flatMap_cons, same, List.append_assoc, List.singleton_append, cutLines_line feed,
      rawLines_line feed, ih.1, ih.2]
    simp [complete, same]

/-- A byte string is lines in one way only. -/
theorem IsText.injective {lines lines' : List Line} (h : IsText lines) (h' : IsText lines')
    (same : lines.flatMap Line.bytes = lines'.flatMap Line.bytes) : lines = lines' := by
  apply List.map_injective_iff.2 Line.bytes_injective
  rw [← h.cutLines_eq.2, same, h'.cutLines_eq.2]

theorem exists_isText (b : Bytes) : ∃ lines, IsText lines ∧ lines.flatMap Line.bytes = b := by
  by_cases feed : Byte.lineFeed ∈ b
  · obtain ⟨body, rest, rfl, hbody⟩ := List.eq_append_cons_of_mem feed
    obtain ⟨l, complete, same⟩ := Line.exists_complete hbody
    obtain ⟨lines, text, rfl⟩ := exists_isText rest
    refine ⟨l :: lines, .cons complete text, ?_⟩
    rw [List.flatMap_cons, same, List.append_assoc, List.singleton_append]
  · by_cases ne : b = []
    · exact ⟨[], .nil, ne.symm⟩
    · refine ⟨[⟨b, .missing, feed, nofun⟩], .last (not_not.2 rfl) ne, ?_⟩
      rw [List.flatMap_singleton]
      exact List.append_nil b
termination_by b.length
decreasing_by
  subst_vars
  simp only [List.length_append, List.length_cons]
  omega

/-! ## Statements -/

/-- Lines up to the first that ends in a semicolon. -/
@[ext] structure Statement where
  opening : List Line
  closing : Line
  not_closes : ∀ l ∈ opening, ¬l.Closes
  closes : closing.Closes

/-- What is kept of lines: the contents that are not empty, each ended by a line feed. -/
def kept (lines : List Line) : Bytes := joinLines ((lines.map Line.content).filter (· ≠ []))

theorem kept_append (a b : List Line) : kept (a ++ b) = kept a ++ kept b := by
  simp only [kept, List.map_append, List.filter_append, joinLines_append]

theorem kept_cons (l : Line) (lines : List Line) :
    kept (l :: lines) =
      (if l.content = [] then [] else l.content ++ [Byte.lineFeed]) ++ kept lines := by
  rw [← List.singleton_append, kept_append]
  congr 1
  by_cases blank : l.content = []
  · simp [kept, joinLines, blank]
  · simp [kept, joinLines, blank]

namespace Statement

/-- The lines of a statement, of which the last closes it. -/
def lines (s : Statement) : List Line := s.opening ++ [s.closing]

/-- What restore executes of a statement. -/
def bytes (s : Statement) : Bytes := kept s.lines

theorem lines_ne_nil (s : Statement) : s.lines ≠ [] := by
  unfold lines
  simp

end Statement

/-- Lines are statements and a rest in one way only. -/
theorem statements_injective {statements statements' : List Statement} {rest rest' : List Line}
    (hrest : ∀ l ∈ rest, ¬l.Closes) (hrest' : ∀ l ∈ rest', ¬l.Closes)
    (same : statements.flatMap Statement.lines ++ rest =
      statements'.flatMap Statement.lines ++ rest') :
    statements = statements' ∧ rest = rest' := by
  induction statements generalizing statements' with
  | nil =>
    cases statements' with
    | nil => exact ⟨rfl, same⟩
    | cons s' _ =>
      refine absurd s'.closes (hrest _ ?_)
      rw [List.flatMap_nil, List.nil_append] at same
      rw [same]
      simp [Statement.lines]
  | cons s statements ih =>
    cases statements' with
    | nil =>
      refine absurd s.closes (hrest' _ ?_)
      rw [List.flatMap_nil, List.nil_append] at same
      rw [← same]
      simp [Statement.lines]
    | cons s' statements' =>
      have first (s : Statement) (after : List Line) :
          (s.opening ++ s.closing :: after).takeWhile (¬·.Closes) = s.opening := by
        rw [List.takeWhile_append_of_pos (by simpa using s.not_closes),
          List.takeWhile_cons_of_neg (by simpa using s.closes), List.append_nil]
      simp only [List.flatMap_cons, Statement.lines, List.append_assoc, List.cons_append,
        List.nil_append] at same
      have opening : s.opening = s'.opening := by
        rw [← first s _, same, first]
      rw [opening] at same
      obtain ⟨closing, others⟩ := List.cons.inj (List.append_cancel_left same)
      obtain ⟨tail, rest⟩ := ih others
      exact ⟨by rw [Statement.ext opening closing, tail], rest⟩

theorem exists_statements (lines : List Line) : ∃ (statements : List Statement) (rest : List Line),
    (∀ l ∈ rest, ¬l.Closes) ∧ statements.flatMap Statement.lines ++ rest = lines := by
  induction lines with
  | nil => exact ⟨[], [], fun _ h => absurd h List.not_mem_nil, rfl⟩
  | cons l lines ih =>
    obtain ⟨statements, rest, hrest, rfl⟩ := ih
    by_cases closes : l.Closes
    · exact ⟨⟨[], l, fun _ h => absurd h List.not_mem_nil, closes⟩ :: statements, rest, hrest, rfl⟩
    · cases statements with
      | nil => exact ⟨[], l :: rest, List.forall_mem_cons.2 ⟨closes, hrest⟩, rfl⟩
      | cons s statements =>
        exact ⟨⟨l :: s.opening, s.closing, List.forall_mem_cons.2 ⟨closes, s.not_closes⟩, s.closes⟩
          :: statements, rest, hrest, rfl⟩

/-- A byte string as statements and the lines after the last of them. -/
@[ext] structure Text (b : Bytes) where
  statements : List Statement
  rest : List Line
  not_closes : ∀ l ∈ rest, ¬l.Closes
  isText : IsText (statements.flatMap Statement.lines ++ rest)
  bytes : (statements.flatMap Statement.lines ++ rest).flatMap Line.bytes = b

namespace Text

variable {b : Bytes}

/-- All lines of a text. -/
def lines (text : Text b) : List Line := text.statements.flatMap Statement.lines ++ text.rest

theorem unique (text text' : Text b) : text = text' := by
  have same := text.isText.injective text'.isText (text.bytes.trans text'.bytes.symm)
  obtain ⟨statements, rest⟩ := statements_injective text.not_closes text'.not_closes same
  exact Text.ext statements rest

theorem exists_text (b : Bytes) : Nonempty (Text b) := by
  obtain ⟨lines, text, bytes⟩ := exists_isText b
  obtain ⟨statements, rest, hrest, rfl⟩ := exists_statements lines
  exact ⟨⟨statements, rest, hrest, text, bytes⟩⟩

end Text

/-- The events that statements are to a splitter after `n` lines, each with the number of lines up
to its last one. -/
def yields (n : Nat) : List Statement → List (SplitEvent × Nat)
  | [] => []
  | s :: statements =>
    (.statement s.bytes, n + s.lines.length) :: yields (n + s.lines.length) statements

theorem getElem?_yields (n : Nat) (statements : List Statement) (k : Nat) :
    (yields n statements)[k]? = statements[k]?.map fun s =>
      (.statement s.bytes, n + ((statements.take (k + 1)).flatMap Statement.lines).length) := by
  induction statements generalizing n k with
  | nil => rfl
  | cons s statements ih =>
    cases k with
    | zero => simp [yields]
    | succ k =>
      rw [yields, List.getElem?_cons_succ, ih, List.getElem?_cons_succ, List.take_succ_cons,
        List.flatMap_cons, List.length_append, Nat.add_assoc]

/-! ## Semicolons at the ends of lines -/

theorem line_injective {l l' rest rest' : Bytes} (h : Byte.lineFeed ∉ l) (h' : Byte.lineFeed ∉ l')
    (same : l ++ Byte.lineFeed :: rest = l' ++ Byte.lineFeed :: rest') : l = l' ∧ rest = rest' := by
  have first := congrArg (fun b => (cutLines b).1.head?) same
  simp only [cutLines_line h, cutLines_line h', List.head?_cons, Option.some.injEq] at first
  obtain rfl := List.append_cancel_right first
  exact ⟨rfl, (List.cons.inj (List.append_cancel_left same)).2⟩

/-- A semicolon before a line feed is the end of a line that closes. -/
theorem exists_closes_of_kept {lines : List Line} {a b : Bytes}
    (same : kept lines = a ++ Byte.semicolon :: Byte.lineFeed :: b) :
    ∃ before l after, lines = before ++ l :: after ∧ l.Closes ∧ b = kept after := by
  induction lines generalizing a with
  | nil => exact absurd same (by simp [kept, joinLines])
  | cons l lines ih =>
    have later {a : Bytes} (same : kept lines = a ++ Byte.semicolon :: Byte.lineFeed :: b) :
        ∃ before l' after, l :: lines = before ++ l' :: after ∧ l'.Closes ∧ b = kept after := by
      obtain ⟨before, l', after, rfl, closes, rest⟩ := ih same
      exact ⟨l :: before, l', after, rfl, closes, rest⟩
    rw [kept_cons] at same
    by_cases blank : l.content = []
    · rw [if_pos blank] at same
      exact later same
    rw [if_neg blank, List.append_assoc, List.singleton_append] at same
    by_cases feed : Byte.lineFeed ∈ a
    · -- the semicolon is in a later line
      obtain ⟨a', a'', rfl, ha'⟩ := List.eq_append_cons_of_mem feed
      rw [List.append_assoc, List.cons_append] at same
      exact later (line_injective l.feed_not_mem ha' same).2
    · have split : l.content ++ Byte.lineFeed :: kept lines =
          (a ++ [Byte.semicolon]) ++ Byte.lineFeed :: b := by
        rw [same, List.append_assoc, List.singleton_append]
      have unended : Byte.lineFeed ∉ a ++ [Byte.semicolon] := by
        rw [List.mem_append, not_or]
        exact ⟨feed, by decide⟩
      obtain ⟨content, rest⟩ := line_injective l.feed_not_mem unended split
      refine ⟨[], l, lines, rfl, ?_, rest.symm⟩
      unfold Line.Closes
      rw [content, List.getLast?_concat]

/-- Lines of which none closes hold no semicolon before a line feed. -/
theorem kept_ne_of_not_closes {lines : List Line} (h : ∀ l ∈ lines, ¬l.Closes) (a b : Bytes) :
    kept lines ≠ a ++ Byte.semicolon :: Byte.lineFeed :: b := by
  intro same
  obtain ⟨before, l, after, rfl, closes, -⟩ := exists_closes_of_kept same
  exact h l (List.mem_append_right _ List.mem_cons_self) closes

namespace Statement

/-- A statement ends with a semicolon and a line feed. -/
theorem exists_bytes_eq (s : Statement) :
    ∃ a, s.bytes = a ++ [Byte.semicolon, Byte.lineFeed] := by
  obtain ⟨text, same⟩ := List.getLast?_eq_some_iff.1 s.closes
  refine ⟨kept s.opening ++ text, ?_⟩
  rw [bytes, lines, kept_append, kept_cons, same]
  simp [kept, joinLines]

/-- Nothing in a statement follows a line that ends in a semicolon. -/
theorem eq_nil_of_bytes_eq (s : Statement) {a b : Bytes}
    (same : s.bytes = a ++ Byte.semicolon :: Byte.lineFeed :: b) : b = [] := by
  obtain ⟨before, l, after, whole, closes, rfl⟩ := exists_closes_of_kept same
  rcases List.eq_nil_or_concat after with rfl | ⟨after', x, rfl⟩
  · rfl
  · refine absurd closes (s.not_closes l ?_)
    have opening : s.opening = before ++ l :: after' := by
      have dropped := congrArg List.dropLast whole
      rwa [lines, List.dropLast_concat, List.concat_eq_append, ← List.cons_append,
        ← List.append_assoc, List.dropLast_concat] at dropped
    rw [opening]
    exact List.mem_append_right _ List.mem_cons_self

end Statement

theorem kept_statements (statements : List Statement) :
    kept (statements.flatMap Statement.lines) = statements.flatMap Statement.bytes := by
  induction statements with
  | nil => rfl
  | cons s statements ih =>
    rw [List.flatMap_cons, kept_append, ih, List.flatMap_cons]
    rfl

/-! ## The splitter over lines -/

/-- Lines as a source of lines delivers them. -/
def deliver (lines : List Line) : List (Except IoFault Bytes) := lines.map fun l => .ok l.bytes

theorem deliver_append (a b : List Line) : deliver (a ++ b) = deliver a ++ deliver b :=
  List.map_append

variable (ahead : List (Except IoFault Bytes))

/-- A line that does not close goes into the buffer. -/
theorem next_line {l : Line} (h : ¬l.Closes) (buffer : Bytes) (n : Nat) :
    Splitter.next ⟨.ok l.bytes :: ahead, buffer, n⟩ =
      Splitter.next ⟨ahead, buffer ++ kept [l], n + 1⟩ := by
  have line : kept [l] = if l.content = [] then [] else l.content ++ [Byte.lineFeed] := by
    rw [kept_cons]
    exact List.append_nil _
  unfold Line.Closes at h
  by_cases blank : l.content = []
  · simp [Splitter.next, Splitter.nextFrom, Line.trimLine_bytes, line, blank]
  · simp [Splitter.next, Splitter.nextFrom, Line.trimLine_bytes, line, blank, h]

theorem next_lines {lines : List Line} (h : ∀ l ∈ lines, ¬l.Closes) (buffer : Bytes) (n : Nat) :
    Splitter.next ⟨deliver lines ++ ahead, buffer, n⟩ =
      Splitter.next ⟨ahead, buffer ++ kept lines, n + lines.length⟩ := by
  induction lines generalizing buffer n with
  | nil =>
    rw [show kept [] = [] from rfl, List.append_nil]
    rfl
  | cons l lines ih =>
    obtain ⟨first, others⟩ := List.forall_mem_cons.1 h
    calc Splitter.next ⟨.ok l.bytes :: (deliver lines ++ ahead), buffer, n⟩
        = Splitter.next ⟨deliver lines ++ ahead, buffer ++ kept [l], n + 1⟩ :=
          next_line _ first buffer n
      _ = Splitter.next ⟨ahead, buffer ++ kept [l] ++ kept lines, n + 1 + lines.length⟩ :=
          ih others _ _
      _ = _ := by
        rw [List.append_assoc, ← kept_append, List.length_cons, Nat.add_assoc,
          Nat.add_comm 1]
        rfl

/-- The lines of a statement make that statement. -/
theorem next_statement (s : Statement) (n : Nat) :
    Splitter.next ⟨deliver s.lines ++ ahead, [], n⟩ =
      (some (.statement s.bytes), ⟨ahead, [], n + s.lines.length⟩) := by
  have closes : s.closing.content.getLast? = some Byte.semicolon := s.closes
  have ne : s.closing.content ≠ [] := fun nil => by simp [nil] at closes
  rw [Statement.lines, deliver_append, List.append_assoc, next_lines _ s.not_closes,
    Statement.bytes, Statement.lines, kept_append, kept_cons s.closing]
  simp [deliver, Splitter.next, Splitter.nextFrom, Line.trimLine_bytes, closes, ne, kept, joinLines,
    Nat.add_assoc]

/-- Statements make these events, whatever follows them. -/
theorem events_statements (statements : List Statement) (n : Nat) :
    let n' := n + (statements.flatMap Statement.lines).length
    Splitter.events ⟨deliver (statements.flatMap Statement.lines) ++ ahead, [], n⟩ =
      (yields n statements ++ (Splitter.events ⟨ahead, [], n'⟩).1,
        (Splitter.events ⟨ahead, [], n'⟩).2) := by
  induction statements generalizing n with
  | nil => rfl
  | cons s statements ih =>
    dsimp only at ih ⊢
    rw [List.flatMap_cons, deliver_append, List.append_assoc,
      Splitter.events_of_next_some (next_statement _ s n), ih, List.length_append, Nat.add_assoc]
    rfl

/-- Where the lines of a statement are complete, it stands before what else is complete. -/
theorem IsText.filter_of_complete {s : Statement} {lines : List Line}
    (h : IsText (s.lines ++ lines)) (complete : s.closing.Complete) :
    IsText lines ∧
      (s.lines ++ lines).filter Line.Complete = s.lines ++ lines.filter Line.Complete := by
  rw [Statement.lines, List.append_assoc, List.singleton_append] at h
  obtain ⟨before, closing⟩ := h.of_append_cons
  have all : ∀ l ∈ s.lines, l.Complete := by
    intro l hl
    rcases List.mem_append.1 hl with hl | hl
    · exact before l hl
    · rw [List.mem_singleton.1 hl]
      exact complete
  refine ⟨closing.of_cons, ?_⟩
  rw [List.filter_append, List.filter_eq_self.2 (by simpa using all)]

/-- Where the last line of a statement lacks its line feed, nothing follows it, and those before it
are complete. -/
theorem IsText.filter_of_not_complete {s : Statement} {lines : List Line}
    (h : IsText (s.lines ++ lines)) (missing : ¬s.closing.Complete) :
    lines = [] ∧ s.lines.filter Line.Complete = s.opening := by
  rw [Statement.lines, List.append_assoc, List.singleton_append] at h
  obtain ⟨before, closing⟩ := h.of_append_cons
  refine ⟨closing.eq_nil_of_not_complete missing, ?_⟩
  rw [Statement.lines, List.filter_append, List.filter_eq_self.2 (by simpa using before)]
  simp [missing]

/-- Lines that do not close are the remainder. -/
theorem events_lines {lines : List Line} (h : ∀ l ∈ lines, ¬l.Closes) (n : Nat) :
    Splitter.events ⟨deliver lines, [], n⟩ = ([], ⟨[], kept lines, n + lines.length⟩) := by
  have next : Splitter.next ⟨deliver lines ++ [], [], n⟩ =
      (none, ⟨[], kept lines, n + lines.length⟩) :=
    next_lines [] h [] n
  rw [← List.append_nil (deliver lines), Splitter.events_of_next_none next]

/-- Lines that do not close make no statement before a fault. -/
theorem events_lines_fault {lines : List Line} (h : ∀ l ∈ lines, ¬l.Closes) (fault : IoFault)
    (n : Nat) :
    (Splitter.events ⟨deliver lines ++ .error fault :: ahead, [], n⟩).1 =
      (.fault fault, n + lines.length) ::
        (Splitter.events ⟨ahead, kept lines, n + lines.length⟩).1 := by
  have next : Splitter.next ⟨deliver lines ++ .error fault :: ahead, [], n⟩ =
      (some (.fault fault), ⟨ahead, kept lines, n + lines.length⟩) :=
    next_lines _ h [] n
  rw [Splitter.events_of_next_some next]

/-- Of lines before a fault those that are complete make statements, and none of them is lost. -/
theorem exists_events_fault {statements : List Statement} {rest : List Line}
    (h : IsText (statements.flatMap Statement.lines ++ rest)) (hrest : ∀ l ∈ rest, ¬l.Closes)
    (fault : IoFault) (n : Nat) :
    let complete := (statements.flatMap Statement.lines ++ rest).filter Line.Complete
    let made := statements.filter (·.closing.Complete)
    ∃ buffer : Bytes,
      (Splitter.events ⟨deliver complete ++ .error fault :: ahead, [], n⟩).1 =
        yields n made ++ (.fault fault, n + complete.length) ::
          (Splitter.events ⟨ahead, buffer, n + complete.length⟩).1 ∧
      made.flatMap Statement.bytes ++ buffer = kept complete := by
  dsimp only
  induction statements generalizing n with
  | nil =>
    have opening : ∀ l ∈ rest.filter Line.Complete, ¬l.Closes :=
      fun l hl => hrest l (List.mem_of_mem_filter hl)
    exact ⟨_, events_lines_fault _ opening fault n, rfl⟩
  | cons s statements ih =>
    rw [List.flatMap_cons, List.append_assoc] at h ⊢
    by_cases complete : s.closing.Complete
    · obtain ⟨text, lines⟩ := h.filter_of_complete complete
      obtain ⟨buffer, events, nothing⟩ := ih text (n + s.lines.length)
      rw [lines, List.filter_cons_of_pos (by simpa using complete)]
      refine ⟨buffer, ?_, ?_⟩
      · rw [deliver_append, List.append_assoc,
          Splitter.events_of_next_some (next_statement _ s n), events, List.length_append,
          Nat.add_assoc]
        rfl
      · rw [List.flatMap_cons, List.append_assoc, nothing, kept_append]
        rfl
    · -- the line feed that ends the statement has not come, so nothing follows it
      obtain ⟨nil, lines⟩ := h.filter_of_not_complete complete
      have ended : statements = [] := by
        cases statements with
        | nil => rfl
        | cons s' _ => exact absurd nil (by simp [s'.lines_ne_nil])
      subst ended
      rw [nil, List.append_nil, lines, List.filter_cons_of_neg (by simpa using complete)]
      exact ⟨_, events_lines_fault _ s.not_closes fault n, rfl⟩

end Grammar

/-! ## The splitter over a source -/

theorem Source.lines_fault (chunks : List Bytes) (fault : IoFault) (more : Source) :
    Source.lines (chunks.map .ok ++ .error fault :: more) =
      (cutLines chunks.flatten).1.map .ok ++ .error fault :: Source.lines more :=
  Source.linesAfter_fault [] List.not_mem_nil chunks fault more

open Grammar in
/-- The splitter comes to the statements of its source and no others, each with the number of lines
up to its last one, and leaves what is kept of the other lines.  So nothing that is kept is lost,
and a line that ends in a semicolon is the last one of a statement.  Where a source fails, the
statements whose lines are complete come before the fault. -/
theorem splitter_accepts_line_grammar (chunks : List Bytes) :
    ∃ text : Text chunks.flatten, (∀ other : Text chunks.flatten, other = text) ∧
      (Splitter.ofSource (chunks.map .ok)).events.1 = yields 0 text.statements ∧
      (Splitter.ofSource (chunks.map .ok)).events.2.remainder = kept text.rest ∧
      (∀ k, (yields 0 text.statements)[k]? = text.statements[k]?.map fun s =>
        (.statement s.bytes, ((text.statements.take (k + 1)).flatMap Statement.lines).length)) ∧
      text.statements.flatMap Statement.bytes ++ kept text.rest = kept text.lines ∧
      (∀ s ∈ text.statements, (∃ a, s.bytes = a ++ [Byte.semicolon, Byte.lineFeed]) ∧
        ∀ a b, s.bytes = a ++ Byte.semicolon :: Byte.lineFeed :: b → b = []) ∧
      (∀ a b, kept text.rest ≠ a ++ Byte.semicolon :: Byte.lineFeed :: b) ∧
      ∀ (fault : IoFault) (more : Source),
        let s := Splitter.ofSource (chunks.map .ok ++ .error fault :: more)
        let complete := text.lines.filter Line.Complete
        let made := text.statements.filter (·.closing.Complete)
        ∃ buffer : Bytes,
          s.events.1 = yields 0 made ++ (.fault fault, complete.length) ::
            (Splitter.events ⟨more.lines, buffer, complete.length⟩).1 ∧
          made.flatMap Statement.bytes ++ buffer = kept complete := by
  obtain ⟨text⟩ := Text.exists_text chunks.flatten
  obtain ⟨cut, raw⟩ := text.isText.cutLines_eq
  rw [text.bytes] at cut raw
  have lines : Source.lines (chunks.map .ok) =
      deliver (text.statements.flatMap Statement.lines) ++ deliver text.rest := by
    rw [lines_map_ok, raw, List.map_map, ← deliver_append]
    rfl
  have events : (Splitter.ofSource (chunks.map .ok)).events =
      (yields 0 text.statements, ⟨[], kept text.rest, text.lines.length⟩) := by
    rw [Splitter.ofSource, lines, events_statements (deliver text.rest) text.statements 0,
      events_lines text.not_closes, List.append_nil, Nat.zero_add, ← List.length_append]
    rfl
  refine ⟨text, fun other => other.unique text, ?_, ?_, fun k => ?_, ?_, fun s _ => ?_, ?_,
    fun fault more => ?_⟩
  · rw [events]
  · rw [events]
    rfl
  · rw [getElem?_yields, Nat.zero_add]
  · rw [Text.lines, kept_append, kept_statements]
  · exact ⟨s.exists_bytes_eq, fun a b same => s.eq_nil_of_bytes_eq same⟩
  · exact kept_ne_of_not_closes text.not_closes
  · obtain ⟨buffer, events, nothing⟩ :=
      exists_events_fault more.lines text.isText text.not_closes fault 0
    refine ⟨buffer, ?_, nothing⟩
    rw [Nat.zero_add] at events
    rw [Splitter.ofSource, Source.lines_fault, cut, List.map_map]
    exact events

end LogicalBackup
