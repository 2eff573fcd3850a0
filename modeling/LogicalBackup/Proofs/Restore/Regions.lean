import LogicalBackup.Proofs.Restore.Closings

/-!
# Comments and identifiers in a statement

A statement is read byte by byte: what stands between backticks is an identifier, what stands
between quotes a literal, and what follows two dashes is a comment up to the end of the line.
`outside` keeps all but identifiers and comments, which is what a server takes for more than names.
It is the same before and after a text is cut into statements (`scan_tidy`), so two texts of lines
that read alike make statements that read alike (`map_outside_gather`).
-/

namespace LogicalBackup

/-- What the bytes of a statement are part of. -/
inductive Region where
  | code
  /-- Code after a dash, which begins a comment if another one follows. -/
  | dash
  | comment
  | identifier
  | literal
  /-- A literal after a backslash. -/
  | escape
  deriving DecidableEq, Repr

namespace Region

/-- The byte of the character that encloses identifiers. -/
abbrev backtickByte : UInt8 := 0x60

/-- The byte of which two begin a comment. -/
abbrev dashByte : UInt8 := 0x2d

/-- A byte as it is kept.  The ends of lines are not. -/
def keep (b : UInt8) : Bytes := if b = Byte.lineFeed ∨ b = Byte.carriageReturn then [] else [b]

/-- The region after a byte of code, and what of it is outside comments and identifiers. -/
def stepCode (b : UInt8) : Region × Bytes :=
  if b = backtickByte then (identifier, [])
  else if b = dashByte then (dash, [b])
  else if b = Byte.quote then (literal, [b])
  else (code, keep b)

/-- The region after one more byte, and what is kept of the byte. -/
def step : Region → UInt8 → Region × Bytes
  | code, b => stepCode b
  | dash, b => if b = dashByte then (comment, [b]) else stepCode b
  | comment, b => if b = Byte.lineFeed then (code, []) else (comment, [])
  | identifier, b => if b = backtickByte then (code, []) else (identifier, [])
  | literal, b =>
    if b = Byte.quote then (code, [b])
    else if b = Byte.backslash then (escape, [b])
    else (literal, keep b)
  | escape, b => (literal, keep b)

/-- The region after a text that begins in a region, and what of the text is outside comments and
identifiers. -/
def scan (r : Region) : Bytes → Region × Bytes
  | [] => (r, [])
  | b :: rest => ((scan (r.step b).1 rest).1, (r.step b).2 ++ (scan (r.step b).1 rest).2)

theorem scan_append (r : Region) (a b : Bytes) :
    r.scan (a ++ b) = (((r.scan a).1.scan b).1, (r.scan a).2 ++ ((r.scan a).1.scan b).2) := by
  induction a generalizing r with
  | nil => rfl
  | cons x a ih => simp only [List.cons_append, scan, ih, List.append_assoc]

/-- A text that is read from code to code can be read by itself. -/
theorem scan_append_code {a o : Bytes} (h : code.scan a = (code, o)) (b : Bytes) :
    code.scan (a ++ b) = ((code.scan b).1, o ++ (code.scan b).2) := by
  rw [scan_append, h]

/-! ## Cutting into statements -/

/-- A line begins in code, in an identifier or in a literal. -/
def BeginsLine (r : Region) : Prop := r = code ∨ r = identifier ∨ r = literal

theorem beginsLine_scan_feed (r : Region) (l : Bytes) :
    BeginsLine (r.scan (l ++ [Byte.lineFeed])).1 := by
  rw [scan_append]
  generalize (r.scan l).1 = q
  cases q with
  | code => exact .inl rfl
  | dash => exact .inl rfl
  | comment => exact .inl rfl
  | identifier => exact .inr (.inl rfl)
  | literal => exact .inr (.inr rfl)
  | escape => exact .inr (.inr rfl)

/-- The ends of lines are not seen. -/
theorem scan_return_feed (r : Region) :
    r.scan [Byte.carriageReturn, Byte.lineFeed] = r.scan [Byte.lineFeed] := by
  cases r <;> rfl

theorem scan_trimReturn (r : Region) (l : Bytes) :
    r.scan (trimReturn l ++ [Byte.lineFeed]) = r.scan (l ++ [Byte.lineFeed]) := by
  rcases eq_trimReturn_or l with ret | same
  · generalize trimReturn l = t at ret
    rw [ret, List.append_assoc, List.singleton_append, scan_append, scan_append r t,
      scan_return_feed]
  · rw [← same]

theorem scan_tidyLine {r : Region} (h : BeginsLine r) (l : Bytes) :
    r.scan (tidyLine (l ++ [Byte.lineFeed])) = r.scan (l ++ [Byte.lineFeed]) := by
  rw [tidyLine, trimLine_feed, ← scan_trimReturn]
  split_ifs with blank
  · rw [List.isEmpty_iff.1 blank]
    rcases h with rfl | rfl | rfl <;> rfl
  · rfl

/-- What is outside comments and identifiers does not change with the ends of lines. -/
theorem scan_tidy {b : Bytes} (closed : IsClosed b) (r : Region) (h : BeginsLine r) :
    r.scan (tidy b) = r.scan b := by
  revert r
  refine closed.lines (fun _ _ => rfl) ?_
  intro l rest hl _ ih r hr
  have whole : l ++ Byte.lineFeed :: rest = (l ++ [Byte.lineFeed]) ++ rest := by
    rw [List.append_assoc, List.singleton_append]
  rw [tidy_line hl, whole, scan_append, scan_append r (l ++ [Byte.lineFeed]), scan_tidyLine hr,
    ih _ (beginsLine_scan_feed r l)]

/-- What of a statement is outside comments and identifiers. -/
def outside (statement : Bytes) : Bytes := (code.scan statement).2

/-- Two lines that read alike: none ends a statement and both leave the reader in code, or both end
a statement. -/
inductive Alike : Bytes → Bytes → Prop
  | passes {l l' : Bytes} (o : Bytes) (first : Passes l) (second : Passes l')
    (scan : code.scan (l ++ [Byte.lineFeed]) = (code, o))
    (scan' : code.scan (l' ++ [Byte.lineFeed]) = (code, o)) : Alike l l'
  | ends {l l' : Bytes} (first : Ends l) (second : Ends l')
    (same : outside (l ++ [Byte.lineFeed]) = outside (l' ++ [Byte.lineFeed])) : Alike l l'

/-- Lines that read alike make statements that read alike. -/
theorem map_outside_gather {lines lines' : List Bytes} (h : List.Forall₂ Alike lines lines')
    {buffer buffer' o : Bytes} (hb : code.scan buffer = (code, o))
    (hb' : code.scan buffer' = (code, o)) :
    (Splitter.gather buffer (rawLines (joinLines lines))).1.map outside =
      (Splitter.gather buffer' (rawLines (joinLines lines'))).1.map outside := by
  have tidied (l : Bytes) :
      code.scan (tidy (l ++ [Byte.lineFeed])) = code.scan (l ++ [Byte.lineFeed]) :=
    scan_tidy (isClosed_concat l) code (.inl rfl)
  induction h generalizing buffer buffer' o with
  | nil => rfl
  | @cons l l' lines lines' first _ ih =>
    rw [gather_joinLines_cons, gather_joinLines_cons]
    cases first with
    | passes o' passes passes' scan scan' =>
      rw [passes.gather, passes'.gather]
      have grown : code.scan (buffer ++ tidy (l ++ [Byte.lineFeed])) = (code, o ++ o') := by
        rw [scan_append_code hb, tidied, scan]
      have grown' : code.scan (buffer' ++ tidy (l' ++ [Byte.lineFeed])) = (code, o ++ o') := by
        rw [scan_append_code hb', tidied, scan']
      exact ih grown grown'
    | ends ends ends' same =>
      have start : code.scan [] = (code, []) := rfl
      have one : outside (buffer ++ tidy (l ++ [Byte.lineFeed])) =
          outside (buffer' ++ tidy (l' ++ [Byte.lineFeed])) := by
        unfold outside at same ⊢
        rw [scan_append_code hb, scan_append_code hb', tidied, tidied, same]
      rw [ends.gather, ends'.gather]
      exact congrArg₂ List.cons one (ih start start)

end Region

end LogicalBackup
