import LogicalBackup.Identifier
import LogicalBackup.Proofs.Restore.Statements
import Mathlib.Data.List.TakeWhile

/-!
# Where statements end

A statement ends at each line that ends in a semicolon, so a text of whole lines makes as many
statements as it has semicolons before the end of a line (`closings`, `length_gather`).  If all of
them are at the ends of lines with SQL, each statement has SQL (`hasSql_of_mem_gather`).
-/

namespace LogicalBackup

/-! ## Semicolons before the end of a line -/

/-- A line ends where these bytes begin. -/
def AtLineEnd (rest : Bytes) : Prop :=
  rest.head? = some Byte.lineFeed ∨
    rest.head? = some Byte.carriageReturn ∧ rest.tail.head? = some Byte.lineFeed

instance (rest : Bytes) : Decidable (AtLineEnd rest) := inferInstanceAs (Decidable (_ ∨ _))

/-- The number of semicolons before the end of a line. -/
def closings : Bytes → Nat
  | [] => 0
  | b :: rest => closings rest + if b = Byte.semicolon ∧ AtLineEnd rest then 1 else 0

theorem closings_cons_of_ne {b : UInt8} (h : b ≠ Byte.semicolon) (rest : Bytes) :
    closings (b :: rest) = closings rest := by
  rw [closings, if_neg fun both => h both.1, Nat.add_zero]

theorem closings_append_of_not_mem {a : Bytes} (h : Byte.semicolon ∉ a) (b : Bytes) :
    closings (a ++ b) = closings b := by
  induction a with
  | nil => rfl
  | cons x a ih =>
    rw [List.mem_cons, not_or] at h
    rw [List.cons_append, closings_cons_of_ne (Ne.symm h.1), ih h.2]

/-- What goes on with neither a line feed nor a carriage return ends no line. -/
theorem closings_append (a : Bytes) {b : Bytes}
    (h : ∀ x ∈ b.head?, x ≠ Byte.lineFeed ∧ x ≠ Byte.carriageReturn) :
    closings (a ++ b) = closings a + closings b := by
  have apart : ¬AtLineEnd b := by
    rintro (feed | ⟨ret, -⟩)
    · exact (h _ feed).1 rfl
    · exact (h _ ret).2 rfl
  induction a with
  | nil => exact (Nat.zero_add _).symm
  | cons x a ih =>
    have same : AtLineEnd (a ++ b) ↔ AtLineEnd a := by
      match a with
      | [] => exact iff_of_false apart (by decide)
      | [y] =>
        have next : b.head? ≠ some Byte.lineFeed := fun feed => (h _ feed).1 rfl
        simp [AtLineEnd, next]
      | y :: z :: a => simp [AtLineEnd]
    rw [List.cons_append, closings, closings, ih]
    simp only [same]
    omega

/-- The lines of a text are counted one by one. -/
theorem closings_append_feed (a b : Bytes) :
    closings (a ++ Byte.lineFeed :: b) = closings (a ++ [Byte.lineFeed]) + closings b := by
  induction a with
  | nil =>
    rw [List.nil_append, List.nil_append, closings_cons_of_ne (by decide)]
    exact (Nat.zero_add _).symm
  | cons x a ih =>
    have same : AtLineEnd (a ++ Byte.lineFeed :: b) ↔ AtLineEnd (a ++ [Byte.lineFeed]) := by
      match a with
      | [] => simp [AtLineEnd]
      | [y] => simp [AtLineEnd]
      | y :: z :: a => simp [AtLineEnd]
    rw [List.cons_append, List.cons_append, closings, closings, ih]
    simp only [same]
    omega

/-- A line without a carriage return at its end. -/
def trimReturn (l : Bytes) : Bytes :=
  if l.getLast? = some Byte.carriageReturn then l.dropLast else l

theorem trimLine_feed (l : Bytes) : trimLine (l ++ [Byte.lineFeed]) = trimReturn l := by
  unfold trimLine trimReturn
  simp

/-- A line ends in a carriage return that is left out, or not. -/
theorem eq_trimReturn_or (l : Bytes) :
    l = trimReturn l ++ [Byte.carriageReturn] ∨ l = trimReturn l := by
  unfold trimReturn
  split_ifs with ret
  · obtain ⟨start, rfl⟩ := List.getLast?_eq_some_iff.1 ret
    left
    rw [List.dropLast_concat]
  · right
    rfl

/-- A line ends a statement once, or not at all. -/
theorem closings_line {l : Bytes} (h : Byte.lineFeed ∉ l) :
    closings (l ++ [Byte.lineFeed]) =
      if (trimReturn l).getLast? = some Byte.semicolon then 1 else 0 := by
  induction l with
  | nil => rfl
  | cons x l ih =>
    rw [List.mem_cons, not_or] at h
    rw [List.cons_append, closings, ih h.2]
    match l with
    | [] =>
      by_cases semi : x = Byte.semicolon
      · subst semi
        decide
      · by_cases ret : x = Byte.carriageReturn
        · subst ret
          decide
        · simp [trimReturn, semi, ret]
    | [y] =>
      have feed : y ≠ Byte.lineFeed := fun e => h.2 (e ▸ List.mem_cons_self)
      by_cases ret : y = Byte.carriageReturn
      · by_cases semi : x = Byte.semicolon <;> simp [trimReturn, AtLineEnd, semi, ret]
      · simp [trimReturn, AtLineEnd, ret, feed]
    | y :: z :: l =>
      have apart : ¬AtLineEnd (y :: z :: l ++ [Byte.lineFeed]) := by
        rw [List.mem_cons, List.mem_cons, not_or, not_or] at h
        simp [AtLineEnd, Ne.symm h.2.1, Ne.symm h.2.2.1]
      have last :
          (trimReturn (x :: y :: z :: l)).getLast? = (trimReturn (y :: z :: l)).getLast? := by
        unfold trimReturn
        rw [List.getLast?_cons_cons]
        split_ifs <;> simp [List.dropLast]
      rw [last]
      simp only [apart, and_false, if_false, Nat.add_zero]

/-- A line that ends in a semicolon ends a statement. -/
theorem closings_line_of_last {l : Bytes} (h : Byte.lineFeed ∉ l)
    (last : l.getLast? = some Byte.semicolon) : closings (l ++ [Byte.lineFeed]) = 1 := by
  have trimmed : trimReturn l = l := by
    unfold trimReturn
    rw [if_neg (by rw [last]; decide)]
  rw [closings_line h, trimmed, if_pos last]

/-! ## The statements of a text -/

/-- A text of whole lines is empty or begins with a line. -/
@[elab_as_elim]
theorem IsClosed.lines {motive : Bytes → Prop} {b : Bytes} (h : IsClosed b) (nil : motive [])
    (line : ∀ l rest, Byte.lineFeed ∉ l → IsClosed rest → motive rest →
      motive (l ++ Byte.lineFeed :: rest)) : motive b := by
  by_cases feed : Byte.lineFeed ∈ b
  · obtain ⟨l, rest, rfl, hl⟩ := List.eq_append_cons_of_mem feed
    have closed : IsClosed rest := by
      unfold IsClosed at h
      rw [cutLines_line hl] at h
      exact h
    exact line l rest hl closed (closed.lines nil line)
  · have whole : b = [] := by
      unfold IsClosed at h
      rw [cutLines_of_not_mem feed] at h
      exact h
    rw [whole]
    exact nil
termination_by b.length
decreasing_by
  subst_vars
  simp only [List.length_append, List.length_cons]
  omega

/-- A text of whole lines makes a statement for each semicolon before the end of a line. -/
theorem length_gather {b : Bytes} (h : IsClosed b) (buffer : Bytes) :
    (Splitter.gather buffer (rawLines b)).1.length = closings b := by
  revert buffer
  refine h.lines (fun _ => rfl) ?_
  intro l rest hl _ ih buffer
  rw [rawLines_line hl, closings_append_feed, closings_line hl, Splitter.gather, trimLine_feed]
  by_cases blank : (trimReturn l).isEmpty
  · rw [if_pos blank, if_neg (by rw [List.isEmpty_iff.1 blank]; decide), Nat.zero_add, ih]
  · rw [if_neg blank]
    split_ifs
    · rw [List.length_cons, ih, Nat.add_comm]
    · rw [Nat.zero_add, ih]

/-- A line as it stands in a statement. -/
def tidyLine (line : Bytes) : Bytes :=
  if (trimLine line).isEmpty then [] else trimLine line ++ [Byte.lineFeed]

/-- Lines as they stand in a statement. -/
def tidy (text : Bytes) : Bytes := (rawLines text).flatMap tidyLine

theorem tidy_line {l : Bytes} (h : Byte.lineFeed ∉ l) (rest : Bytes) :
    tidy (l ++ Byte.lineFeed :: rest) = tidyLine (l ++ [Byte.lineFeed]) ++ tidy rest := by
  rw [tidy, rawLines_line h, List.flatMap_cons]
  rfl

theorem tidy_append {a : Bytes} (h : IsClosed a) (b : Bytes) :
    tidy (a ++ b) = tidy a ++ tidy b := by
  rw [tidy, rawLines_append h, List.flatMap_append]
  rfl

/-- Lines of which none ends a statement go into the buffer. -/
theorem gather_of_closings_eq_zero {b : Bytes} (h : IsClosed b) (none : closings b = 0)
    (buffer : Bytes) : Splitter.gather buffer (rawLines b) = ([], buffer ++ tidy b) := by
  revert none buffer
  refine h.lines (fun _ buffer => ?_) ?_
  · rw [tidy, rawLines_nil, List.flatMap_nil, List.append_nil]
    rfl
  intro l rest hl _ ih none buffer
  rw [closings_append_feed, closings_line hl] at none
  have last : (trimReturn l).getLast? ≠ some Byte.semicolon := by
    intro semi
    rw [if_pos semi] at none
    omega
  rw [rawLines_line hl, tidy_line hl, Splitter.gather, tidyLine, trimLine_feed, if_neg last]
  split_ifs
  · rw [ih (by omega), List.nil_append]
  · rw [ih (by omega)]
    simp only [List.append_assoc]

/-- A text of whole lines ends in a line feed. -/
theorem IsClosed.eq_nil_or_concat {b : Bytes} (h : IsClosed b) :
    b = [] ∨ ∃ a, b = a ++ [Byte.lineFeed] := by
  rcases List.eq_nil_or_concat b with rfl | ⟨a, x, rfl⟩
  · exact .inl rfl
  · rw [List.concat_eq_append] at h ⊢
    by_cases feed : x = Byte.lineFeed
    · exact .inr ⟨a, by rw [feed]⟩
    · have rest : Byte.lineFeed ∉ (cutLines a).2 ++ [x] := by
        rw [List.mem_append, List.mem_singleton, not_or]
        exact ⟨lineFeed_not_mem_cutLines_snd a, Ne.symm feed⟩
      unfold IsClosed at h
      rw [cutLines_append, cutLines_of_not_mem rest] at h
      simp at h

theorem closings_append_of_isClosed {a : Bytes} (h : IsClosed a) (b : Bytes) :
    closings (a ++ b) = closings a + closings b := by
  rcases h.eq_nil_or_concat with rfl | ⟨a, rfl⟩
  · exact (Nat.zero_add _).symm
  · rw [List.append_assoc, List.singleton_append, closings_append_feed]

/-- Every text is whole lines and what is left of the last one. -/
theorem exists_isClosed_append (b : Bytes) :
    ∃ a l, IsClosed a ∧ Byte.lineFeed ∉ l ∧ b = a ++ l := by
  induction b using List.reverseRecOn with
  | nil => exact ⟨[], [], isClosed_nil, List.not_mem_nil, rfl⟩
  | append_singleton b x ih =>
    obtain ⟨a, l, closed, hl, rfl⟩ := ih
    by_cases feed : x = Byte.lineFeed
    · exact ⟨a ++ l ++ [x], [], feed ▸ isClosed_concat _, List.not_mem_nil,
        (List.append_nil _).symm⟩
    · refine ⟨a, l ++ [x], closed, ?_, List.append_assoc ..⟩
      rw [List.mem_append, List.mem_singleton, not_or]
      exact ⟨hl, Ne.symm feed⟩

/-- Lines of which only the last ends a statement make one, with what is in the buffer. -/
theorem gather_of_closings_eq_one {b : Bytes} (last : b.getLast? = some Byte.semicolon)
    (one : closings (b ++ [Byte.lineFeed]) = 1) (buffer : Bytes) :
    Splitter.gather buffer (rawLines (b ++ [Byte.lineFeed])) =
      ([buffer ++ tidy (b ++ [Byte.lineFeed])], []) := by
  obtain ⟨a, l, closed, hl, rfl⟩ := exists_isClosed_append b
  have ends : l.getLast? = some Byte.semicolon := by
    cases l with
    | nil =>
      rw [List.append_nil] at last
      rcases closed.eq_nil_or_concat with rfl | ⟨start, rfl⟩
      · cases last
      · rw [List.getLast?_concat] at last
        cases last
    | cons x l =>
      rw [List.getLast?_append_cons] at last
      exact last
  have trimmed : trimReturn l = l := by
    unfold trimReturn
    rw [if_neg (by rw [ends]; decide)]
  have before : closings a = 0 := by
    rw [List.append_assoc, closings_append_of_isClosed closed, closings_line hl, trimmed,
      if_pos ends] at one
    omega
  rw [List.append_assoc, rawLines_append closed, Splitter.gather_append,
    gather_of_closings_eq_zero closed before, rawLines_line hl [], tidy_append closed,
    tidy_line hl [], Splitter.gather, tidyLine, trimLine_feed, trimmed]
  have nonempty : l.isEmpty = false := by
    cases l with
    | nil => cases ends
    | cons x l => rfl
  simp [nonempty, ends, tidy, Splitter.gather]

/-! ## Statements with SQL -/

/-- A statement with a line that is more than a comment. -/
def HasSql (statement : Bytes) : Prop := ∃ line ∈ rawLines statement, Splitter.isSqlLine line = true

/-- What follows a line is no part of the question whether it is a comment. -/
theorem isSqlLine_append_blank (l : Bytes) {blank : Bytes}
    (h : ∀ b ∈ blank, Splitter.isAsciiBlank b = true) :
    Splitter.isSqlLine (l ++ blank) = Splitter.isSqlLine l := by
  have bar : utf8 "--" = [0x2d, 0x2d] := by decide
  unfold Splitter.isSqlLine
  rw [List.dropWhile_append]
  cases hl : l.dropWhile Splitter.isAsciiBlank with
  | nil =>
    have gone : blank.dropWhile Splitter.isAsciiBlank = [] := List.dropWhile_eq_nil_iff.2 h
    rw [List.isEmpty_nil, if_pos rfl, gone]
  | cons x rest =>
    rw [List.isEmpty_cons, if_neg (by decide), bar]
    cases rest with
    | nil =>
      cases blank with
      | nil => rfl
      | cons b blank =>
        have other : b ≠ 0x2d := by
          rintro rfl
          exact absurd (h _ List.mem_cons_self) (by decide)
        simp [List.isPrefixOf, Ne.symm other]
    | cons y rest => simp [List.isPrefixOf]

/-- A text that begins with a character of a statement has SQL. -/
theorem hasSql_of_head {b : Bytes} {c : UInt8} (head : b.head? = some c)
    (blank : Splitter.isAsciiBlank c = false) (dash : c ≠ 0x2d) : HasSql b := by
  obtain ⟨rest, rfl⟩ := List.head?_eq_some_iff.1 head
  have sql (l : Bytes) : Splitter.isSqlLine (c :: l) = true := by
    have bar : utf8 "--" = [0x2d, 0x2d] := by decide
    unfold Splitter.isSqlLine
    rw [List.dropWhile_cons_of_neg (by rw [blank]; decide), bar]
    simp [List.isPrefixOf, Ne.symm dash]
  by_cases feed : Byte.lineFeed ∈ c :: rest
  · obtain ⟨l, rest', whole, hl⟩ := List.eq_append_cons_of_mem feed
    rw [whole]
    cases l with
    | nil =>
      obtain rfl : c = Byte.lineFeed := (List.cons.inj whole).1
      cases blank
    | cons x l =>
      obtain rfl : c = x := (List.cons.inj whole).1
      exact ⟨_, by rw [rawLines_line hl]; exact List.mem_cons_self, sql _⟩
  · refine ⟨c :: rest, ?_, sql rest⟩
    rw [rawLines, cutLines_of_not_mem feed]
    exact List.mem_cons_self

theorem isSqlLine_trimReturn (l : Bytes) :
    Splitter.isSqlLine (trimReturn l ++ [Byte.lineFeed]) =
      Splitter.isSqlLine (l ++ [Byte.lineFeed]) := by
  have feed : ∀ b ∈ [Byte.lineFeed], Splitter.isAsciiBlank b = true :=
    List.forall_mem_singleton.2 (by decide)
  rcases eq_trimReturn_or l with ret | same
  · have both : ∀ b ∈ [Byte.carriageReturn, Byte.lineFeed], Splitter.isAsciiBlank b = true :=
      List.forall_mem_cons.2 ⟨by decide, feed⟩
    generalize trimReturn l = t at ret
    rw [ret, List.append_assoc, isSqlLine_append_blank t feed]
    exact (isSqlLine_append_blank t both).symm
  · rw [← same]

theorem lineFeed_not_mem_trimReturn {l : Bytes} (h : Byte.lineFeed ∉ l) :
    Byte.lineFeed ∉ trimReturn l := by
  rcases eq_trimReturn_or l with ret | same
  · exact fun mem => h (by rw [ret]; exact List.mem_append_left _ mem)
  · rwa [← same]

/-- A line with SQL stays in its statement. -/
theorem hasSql_tidy {b : Bytes} (h : IsClosed b) (sql : HasSql b) : HasSql (tidy b) := by
  revert sql
  refine h.lines (fun sql => ?_) ?_
  · obtain ⟨line, hline, -⟩ := sql
    cases hline
  rintro l rest hl - ih ⟨line, hline, sql⟩
  rw [rawLines_line hl, List.mem_cons] at hline
  have trimmed := lineFeed_not_mem_trimReturn hl
  rw [tidy_line hl, tidyLine, trimLine_feed]
  by_cases blank : (trimReturn l).isEmpty
  · rw [if_pos blank, List.nil_append]
    rcases hline with rfl | hline
    · rw [← isSqlLine_trimReturn, List.isEmpty_iff.1 blank] at sql
      cases sql
    · exact ih ⟨line, hline, sql⟩
  · rw [if_neg blank, List.append_assoc, List.singleton_append]
    unfold HasSql
    rw [rawLines_line trimmed]
    rcases hline with rfl | hline
    · exact ⟨_, List.mem_cons_self, (isSqlLine_trimReturn l).trans sql⟩
    · obtain ⟨line', hline', sql'⟩ := ih ⟨line, hline, sql⟩
      exact ⟨line', List.mem_cons_of_mem _ hline', sql'⟩

theorem isClosed_tidy (b : Bytes) : IsClosed (tidy b) := by
  unfold tidy
  induction rawLines b with
  | nil => exact isClosed_nil
  | cons line lines ih =>
    rw [List.flatMap_cons]
    refine IsClosed.append ?_ ih
    unfold tidyLine
    split_ifs
    · exact isClosed_nil
    · exact isClosed_concat _

theorem HasSql.append_left {b : Bytes} (h : HasSql b) {a : Bytes} (ha : IsClosed a) :
    HasSql (a ++ b) := by
  obtain ⟨line, hline, sql⟩ := h
  refine ⟨line, ?_, sql⟩
  rw [rawLines_append ha]
  exact List.mem_append_right _ hline

/-! ## Lines that names are printed in -/

/-- Lines, each ended by a line feed. -/
def joinLines (lines : List Bytes) : Bytes := lines.flatMap (· ++ [Byte.lineFeed])

theorem joinLines_singleton (l : Bytes) : joinLines [l] = l ++ [Byte.lineFeed] :=
  List.append_nil _

theorem joinLines_append (a b : List Bytes) : joinLines (a ++ b) = joinLines a ++ joinLines b :=
  List.flatMap_append

theorem isClosed_joinLines (lines : List Bytes) : IsClosed (joinLines lines) := by
  unfold joinLines
  induction lines with
  | nil => exact isClosed_nil
  | cons l lines ih =>
    rw [List.flatMap_cons]
    exact (isClosed_concat l).append ih

/-- A line that ends no statement, whatever is printed in it. -/
def Passes (l : Bytes) : Prop := closings (l ++ [Byte.lineFeed]) = 0

instance (l : Bytes) : Decidable (Passes l) := inferInstanceAs (Decidable (_ = 0))

/-- A line that ends a statement, but not before its own end, and has SQL. -/
structure Ends (l : Bytes) : Prop where
  closings : closings (l ++ [Byte.lineFeed]) = 1
  last : l.getLast? = some Byte.semicolon
  hasSql : HasSql (l ++ [Byte.lineFeed])

theorem Passes.gather {l : Bytes} (h : Passes l) (buffer : Bytes) :
    Splitter.gather buffer (rawLines (l ++ [Byte.lineFeed])) =
      ([], buffer ++ tidy (l ++ [Byte.lineFeed])) :=
  gather_of_closings_eq_zero (isClosed_concat l) h buffer

theorem Ends.gather {l : Bytes} (h : Ends l) (buffer : Bytes) :
    Splitter.gather buffer (rawLines (l ++ [Byte.lineFeed])) =
      ([buffer ++ tidy (l ++ [Byte.lineFeed])], []) :=
  gather_of_closings_eq_one h.last h.closings buffer

theorem gather_joinLines_cons (buffer l : Bytes) (lines : List Bytes) :
    Splitter.gather buffer (rawLines (joinLines (l :: lines))) =
      let first := Splitter.gather buffer (rawLines (l ++ [Byte.lineFeed]))
      let others := Splitter.gather first.2 (rawLines (joinLines lines))
      (first.1 ++ others.1, others.2) := by
  rw [joinLines, List.flatMap_cons, rawLines_append (isClosed_concat l), Splitter.gather_append]
  rfl

/-- Where statements end at the ends of lines with SQL, each has SQL. -/
theorem hasSql_of_mem_gather {lines : List Bytes} (h : ∀ l ∈ lines, Passes l ∨ Ends l)
    {buffer : Bytes} (closed : IsClosed buffer) :
    ∀ st ∈ (Splitter.gather buffer (rawLines (joinLines lines))).1, HasSql st := by
  induction lines generalizing buffer with
  | nil => exact fun _ hst => absurd hst List.not_mem_nil
  | cons l lines ih =>
    obtain ⟨first, others⟩ := List.forall_mem_cons.1 h
    rw [gather_joinLines_cons]
    rcases first with passes | ends
    · rw [passes.gather]
      exact ih others (closed.append (isClosed_tidy _))
    · rw [ends.gather]
      refine List.forall_mem_cons.2 ⟨?_, ih others isClosed_nil⟩
      exact (hasSql_tidy (isClosed_concat l) ends.hasSql).append_left closed

end LogicalBackup
