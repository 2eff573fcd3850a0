import LogicalBackup.Proofs.Value.Literal

/-!
# Reading tuples back

A reader of the part of an `INSERT` statement that follows its stem.  It cuts tuples and literals at
parentheses and commas outside quotation marks, where a backslash between quotation marks takes the
next byte along, and knows nothing else of the literals.  It finds the literals of every row of
`renderRow` (`readTuples_of_rows`).
-/

namespace LogicalBackup

namespace TupleReader

/-- Where a reader stands. -/
inductive Place where
  /-- Before a tuple. -/
  | before
  /-- In a tuple, outside quotation marks. -/
  | bare
  /-- Between quotation marks. -/
  | quoted
  /-- Behind a backslash between quotation marks. -/
  | escaped
  /-- Behind a tuple. -/
  | behind
  /-- Behind the semicolon. -/
  | ended
  /-- Behind the line feed after the semicolon. -/
  | closed
  deriving DecidableEq, Repr

/-- What was read so far: the literal and the tuple that are not complete yet, and the tuples that
are. -/
structure State where
  place : Place := .before
  literal : Bytes := []
  tuple : List Bytes := []
  tuples : List (List Bytes) := []
  deriving DecidableEq, Repr

namespace State

/-- A byte of a literal. -/
def take (s : State) (place : Place) (b : UInt8) : State :=
  { s with place, literal := s.literal ++ [b] }

/-- The end of a literal. -/
def endLiteral (s : State) : State := { s with literal := [], tuple := s.tuple ++ [s.literal] }

/-- The end of a tuple.  Between parentheses with nothing between them there is no literal. -/
def endTuple (s : State) : State where
  place := .behind
  tuples := s.tuples ++
    [if s.tuple.isEmpty && s.literal.isEmpty then [] else s.tuple ++ [s.literal]]

end State

/-- Reads a byte, if it may stand there. -/
def step (s : State) (b : UInt8) : Option State :=
  match s.place with
  | .before => if b = 0x28 then some { s with place := .bare } else none
  | .bare =>
    if b = Byte.comma then some s.endLiteral
    else if b = 0x29 then some s.endTuple
    else if b = 0x28 then none
    else some (s.take (if b = Byte.quote then .quoted else .bare) b)
  | .quoted =>
    some (s.take (if b = Byte.quote then .bare
      else if b = Byte.backslash then .escaped else .quoted) b)
  | .escaped => some (s.take .quoted b)
  | .behind =>
    if b = Byte.comma then some { s with place := .before }
    else if b = Byte.semicolon then some { s with place := .ended }
    else none
  | .ended => if b = Byte.lineFeed then some { s with place := .closed } else none
  | .closed => none

end TupleReader

open TupleReader in
/-- The tuples of a statement after its stem, each with its literals. -/
def readTuples (b : Bytes) : Option (List (List Bytes)) :=
  (b.foldlM step {}).bind fun s => if s.place = .closed then some s.tuples else none

/-- The tuples of a statement that begins with this stem. -/
def readInsert (stem statement : Bytes) : Option (List (List Bytes)) :=
  if stem.isPrefixOf statement then readTuples (statement.drop stem.length) else none

/-- The tuples of statements that begin with this stem. -/
def readInserts (stem : Bytes) (statements : List Bytes) : Option (List (List Bytes)) :=
  (statements.mapM (readInsert stem)).map List.flatten

namespace TupleReader

/-! ## Literals -/

theorem foldlM_step_plain {b : Bytes} (h : ∀ x ∈ b, IsPlainByte x) (l : Bytes)
    (t : List Bytes) (ts : List (List Bytes)) :
    b.foldlM step ⟨.bare, l, t, ts⟩ = some ⟨.bare, l ++ b, t, ts⟩ := by
  induction b generalizing l with
  | nil => rw [List.append_nil]; rfl
  | cons x b ih =>
    have hx : IsPlainByte x := h x List.mem_cons_self
    have one : step ⟨.bare, l, t, ts⟩ x = some ⟨.bare, l ++ [x], t, ts⟩ := by
      simp only [IsPlainByte, List.mem_cons, List.not_mem_nil, or_false, not_or] at hx
      simp only [step, hx.1, hx.2.1, hx.2.2.1, hx.2.2.2.1, if_false]
      rfl
    rw [List.foldlM_cons, one]
    change b.foldlM step ⟨.bare, l ++ [x], t, ts⟩ = _
    rw [ih (fun y hy => h y (List.mem_cons_of_mem _ hy)), List.append_assoc, List.singleton_append]

/-- Escaped bytes do not end a string. -/
theorem foldlM_step_escape (b l : Bytes) (t : List Bytes) (ts : List (List Bytes)) :
    (escape b).foldlM step ⟨.quoted, l, t, ts⟩ = some ⟨.quoted, l ++ escape b, t, ts⟩ := by
  induction b generalizing l with
  | nil => rw [escape, List.flatMap_nil, List.append_nil]; rfl
  | cons x b ih =>
    have one : (escapeByte x).foldlM step ⟨.quoted, l, t, ts⟩ =
        some ⟨.quoted, l ++ escapeByte x, t, ts⟩ := by
      rcases escapeByte_eq_or x with ⟨c, he, -⟩ | ⟨he, hq, hb, -⟩
      · have marked : step ⟨.quoted, l, t, ts⟩ Byte.backslash =
            some ⟨.escaped, l ++ [Byte.backslash], t, ts⟩ := rfl
        rw [he, List.foldlM_cons, marked]
        change some (State.mk .quoted (l ++ [Byte.backslash] ++ [c]) t ts) = _
        rw [List.append_assoc, List.singleton_append]
      · rw [he, List.foldlM_cons]
        simp only [step, hq, hb, if_false]
        rfl
    rw [escape_cons, List.foldlM_append, one]
    change (escape b).foldlM step ⟨.quoted, l ++ escapeByte x, t, ts⟩ = _
    rw [ih, List.append_assoc]

theorem foldlM_step_quote (b l : Bytes) (t : List Bytes) (ts : List (List Bytes)) :
    (quote b).foldlM step ⟨.bare, l, t, ts⟩ = some ⟨.bare, l ++ quote b, t, ts⟩ := by
  have opened : step ⟨.bare, l, t, ts⟩ Byte.quote = some ⟨.quoted, l ++ [Byte.quote], t, ts⟩ := rfl
  have closed (l : Bytes) :
      [Byte.quote].foldlM step ⟨.quoted, l, t, ts⟩ = some ⟨.bare, l ++ [Byte.quote], t, ts⟩ := rfl
  rw [quote, List.foldlM_cons, opened]
  change (escape b ++ [Byte.quote]).foldlM step ⟨.quoted, l ++ [Byte.quote], t, ts⟩ = _
  rw [List.foldlM_append, foldlM_step_escape]
  change [Byte.quote].foldlM step ⟨.quoted, l ++ [Byte.quote] ++ escape b, t, ts⟩ = _
  rw [closed]
  simp only [List.append_assoc, List.cons_append, List.nil_append]

/-- A literal is read as a whole. -/
theorem foldlM_step_literal (v : Value) (t : List Bytes) (ts : List (List Bytes)) :
    (literal v).foldlM step ⟨.bare, [], t, ts⟩ = some ⟨.bare, literal v, t, ts⟩ := by
  obtain ⟨head, plain, ⟨h, -⟩ | ⟨b, h⟩⟩ := literal_eq_or v
  · rw [h]
    exact foldlM_step_plain (fun x => isPlainByte_of_mem_utf8 plain) [] t ts
  · rw [h, List.foldlM_append, foldlM_step_plain fun x => isPlainByte_of_mem_utf8 plain]
    exact foldlM_step_quote b (utf8 head) t ts

theorem literal_ne_nil (v : Value) : literal v ≠ [] := by
  obtain ⟨head, -, ⟨h, ne⟩ | ⟨b, h⟩⟩ := literal_eq_or v
  · rwa [h, ne_eq, utf8_eq_nil_iff]
  · rw [h]
    exact List.append_ne_nil_of_right_ne_nil _ (List.cons_ne_nil _ _)

/-! ## Tuples -/

/-- The literals of a tuple and the parenthesis behind them. -/
theorem foldlM_step_literals (v : Value) (vs : List Value) (t : List Bytes)
    (ts : List (List Bytes)) :
    ([Byte.comma].intercalate ((v :: vs).map literal) ++ [0x29]).foldlM step ⟨.bare, [], t, ts⟩ =
      some ⟨.behind, [], [], ts ++ [t ++ (v :: vs).map literal]⟩ := by
  induction vs generalizing v t with
  | nil =>
    have closed : [0x29].foldlM step ⟨.bare, literal v, t, ts⟩ =
        some ⟨.behind, [], [], ts ++ [t ++ [literal v]]⟩ := by
      have full : (t.isEmpty && (literal v).isEmpty) = false := by
        rw [List.isEmpty_eq_false_iff.2 (literal_ne_nil v), Bool.and_false]
      change some (State.endTuple ⟨.bare, literal v, t, ts⟩) = _
      simp only [State.endTuple, full]
      rfl
    rw [List.map_singleton, List.intercalate_singleton, List.foldlM_append, foldlM_step_literal]
    exact closed
  | cons w vs ih =>
    have next (l : Bytes) (rest : Bytes) :
        ([Byte.comma] ++ rest).foldlM step ⟨.bare, l, t, ts⟩ =
          rest.foldlM step ⟨.bare, [], t ++ [l], ts⟩ := rfl
    rw [List.map_cons, List.map_cons, List.intercalate_cons_cons, List.append_assoc,
      List.append_assoc, List.foldlM_append, foldlM_step_literal]
    change ([Byte.comma] ++ _).foldlM step ⟨.bare, literal v, t, ts⟩ = _
    rw [next, ← List.map_cons, ih, List.append_assoc, List.singleton_append]

theorem foldlM_step_renderRow (values : List Value) (ts : List (List Bytes)) :
    (renderRow values).foldlM step ⟨.before, [], [], ts⟩ =
      some ⟨.behind, [], [], ts ++ [values.map literal]⟩ := by
  have opened (rest : Bytes) : (utf8 "(" ++ rest).foldlM step ⟨.before, [], [], ts⟩ =
      rest.foldlM step ⟨.bare, [], [], ts⟩ := rfl
  rw [renderRow, List.append_assoc, opened]
  cases values with
  | nil => rfl
  | cons v vs => exact foldlM_step_literals v vs [] ts

/-- Rows with commas between them, and the end of the statement. -/
theorem foldlM_step_rows (row : List Value) (rows : List (List Value)) (ts : List (List Bytes)) :
    ([Byte.comma].intercalate ((row :: rows).map renderRow) ++ utf8 ";\n").foldlM step
        ⟨.before, [], [], ts⟩ =
      some ⟨.closed, [], [], ts ++ (row :: rows).map (·.map literal)⟩ := by
  induction rows generalizing row ts with
  | nil =>
    rw [List.map_singleton, List.intercalate_singleton, List.foldlM_append, foldlM_step_renderRow]
    rfl
  | cons row' rows ih =>
    have next (ts : List (List Bytes)) (rest : Bytes) :
        ([Byte.comma] ++ rest).foldlM step ⟨.behind, [], [], ts⟩ =
          rest.foldlM step ⟨.before, [], [], ts⟩ := rfl
    rw [List.map_cons, List.map_cons, List.intercalate_cons_cons, List.append_assoc,
      List.append_assoc, List.foldlM_append, foldlM_step_renderRow]
    change ([Byte.comma] ++ _).foldlM step ⟨.behind, [], [], ts ++ [row.map literal]⟩ = _
    rw [next, ← List.map_cons, ih, List.append_assoc, List.singleton_append]
    rfl

end TupleReader

open TupleReader

/-- The reader finds the literals of each row. -/
theorem readTuples_of_rows {rows : List (List Value)} (h : rows ≠ []) :
    readTuples ([Byte.comma].intercalate (rows.map renderRow) ++ utf8 ";\n") =
      some (rows.map (·.map literal)) := by
  obtain ⟨row, rows, rfl⟩ := List.exists_cons_of_ne_nil h
  have read := foldlM_step_rows row rows []
  rw [readTuples, read]
  rfl

theorem readInsert_append (stem rest : Bytes) : readInsert stem (stem ++ rest) = readTuples rest := by
  rw [readInsert, if_pos, List.drop_left]
  rw [List.isPrefixOf_iff_prefix]
  exact List.prefix_append stem rest

theorem readInserts_append {stem : Bytes} {a b : List Bytes} {xs ys : List (List Bytes)}
    (ha : readInserts stem a = some xs) (hb : readInserts stem b = some ys) :
    readInserts stem (a ++ b) = some (xs ++ ys) := by
  unfold readInserts at *
  obtain ⟨x, hx, rfl⟩ := Option.map_eq_some_iff.1 ha
  obtain ⟨y, hy, rfl⟩ := Option.map_eq_some_iff.1 hb
  rw [List.mapM_append, hx, hy]
  exact congrArg some List.flatten_append

/-! ## Line feeds -/

theorem lineFeed_not_mem_literal (v : Value) : Byte.lineFeed ∉ literal v := by
  obtain ⟨head, plain, h⟩ := literal_eq_or v
  have hhead : Byte.lineFeed ∉ utf8 head := fun hb =>
    isPlainByte_of_mem_utf8 plain hb (by decide)
  rcases h with ⟨h, -⟩ | ⟨b, h⟩
  · rwa [h]
  · rw [h, List.mem_append, not_or]
    exact ⟨hhead, lineFeed_not_mem_quote b⟩

/-- What is in no part and not in the separator is not in the whole. -/
theorem not_mem_intercalate {α : Type} {a : α} {separator : List α} {parts : List (List α)}
    (hs : a ∉ separator) (h : ∀ part ∈ parts, a ∉ part) : a ∉ separator.intercalate parts := by
  induction parts with
  | nil => exact List.not_mem_nil
  | cons part parts ih =>
    obtain ⟨hpart, hparts⟩ := List.forall_mem_cons.1 h
    by_cases last : parts = []
    · rwa [last, List.intercalate_singleton]
    · rw [List.intercalate_cons_of_ne_nil last, List.mem_append, List.mem_append, not_or, not_or]
      exact ⟨⟨hpart, hs⟩, ih hparts⟩

theorem lineFeed_not_mem_renderRow (values : List Value) : Byte.lineFeed ∉ renderRow values := by
  rw [renderRow, List.mem_append, List.mem_append, not_or, not_or]
  refine ⟨⟨by decide, not_mem_intercalate (by decide) ?_⟩, by decide⟩
  intro part hpart
  obtain ⟨v, -, rfl⟩ := List.mem_map.1 hpart
  exact lineFeed_not_mem_literal v

end LogicalBackup
