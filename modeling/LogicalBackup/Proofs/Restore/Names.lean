import LogicalBackup.Catalog
import LogicalBackup.Proofs.Restore.Regions
import Mathlib.Algebra.GroupWithZero.Nat
import Mathlib.Data.List.Infix

/-!
# Names among statements

Between backticks a name stays an identifier, whatever its characters are (`scan_quoteIdentifier`).
It still adds to the ends of statements if it has a semicolon before the end of a line
(`ClosesLine`, `closings_quoteIdentifier`): the lines of a statement are cut without a look at
backticks and comments.
-/

namespace LogicalBackup

/-! ## Ends of statements in a name -/

/-- A semicolon stands before the end of a line in this text. -/
def ClosesLine (cs : List Char) : Prop := [';', '\n'] <:+: cs ∨ [';', '\r', '\n'] <:+: cs

instance (cs : List Char) : Decidable (ClosesLine cs) := inferInstanceAs (Decidable (_ ∨ _))

theorem ClosesLine.append_right {a b : List Char} (h : ClosesLine a) : ClosesLine (a ++ b) :=
  h.imp (·.trans (List.prefix_append a b).isInfix) (·.trans (List.prefix_append a b).isInfix)

theorem closesLine_cons_iff (c : Char) (cs : List Char) :
    ClosesLine (c :: cs) ↔ c = ';' ∧ (['\n'] <+: cs ∨ ['\r', '\n'] <+: cs) ∨ ClosesLine cs := by
  unfold ClosesLine
  rw [List.infix_cons_iff, List.infix_cons_iff, List.cons_prefix_cons, List.cons_prefix_cons,
    eq_comm (a := c)]
  tauto

theorem head?_flatMap_utf8 {d : Char} (hd : d.toNat < 128) (cs : List Char) :
    (cs.flatMap String.utf8EncodeChar).head? = some (asciiByte d) ↔ [d] <+: cs := by
  cases cs with
  | nil => simp
  | cons c cs =>
    rw [List.flatMap_cons, List.head?_append_of_ne_nil _ String.utf8EncodeChar_ne_nil,
      head?_utf8EncodeChar_eq_iff hd, List.cons_prefix_cons, eq_comm]
    simp

theorem atLineEnd_iff (cs : List Char) :
    AtLineEnd (cs.flatMap String.utf8EncodeChar) ↔ ['\n'] <+: cs ∨ ['\r', '\n'] <+: cs := by
  unfold AtLineEnd
  have feed : (cs.flatMap String.utf8EncodeChar).head? = some Byte.lineFeed ↔ ['\n'] <+: cs :=
    head?_flatMap_utf8 (d := '\n') (by decide) cs
  have ret : (cs.flatMap String.utf8EncodeChar).head? = some Byte.carriageReturn ↔ ['\r'] <+: cs :=
    head?_flatMap_utf8 (d := '\r') (by decide) cs
  rw [feed, ret]
  refine or_congr_right ?_
  cases cs with
  | nil => simp
  | cons c cs =>
    rw [List.cons_prefix_cons, List.cons_prefix_cons]
    by_cases hc : '\r' = c
    · subst hc
      have next : (cs.flatMap String.utf8EncodeChar).head? = some Byte.lineFeed ↔ ['\n'] <+: cs :=
        head?_flatMap_utf8 (d := '\n') (by decide) cs
      rw [← next, List.flatMap_cons, utf8EncodeChar_of_lt (c := '\r') (by decide)]
      simp
    · simp [hc]

theorem closings_utf8EncodeChar (c : Char) (rest : Bytes) :
    closings (String.utf8EncodeChar c ++ rest) =
      closings rest + if c = ';' ∧ AtLineEnd rest then 1 else 0 := by
  by_cases hc : c = ';'
  · subst hc
    have semi : asciiByte ';' = Byte.semicolon := rfl
    rw [utf8EncodeChar_of_lt (by decide), List.singleton_append, closings, semi]
    simp
  · have other : Byte.semicolon ∉ String.utf8EncodeChar c := fun mem =>
      hc ((asciiByte_mem_utf8EncodeChar_iff (c := ';') (by decide)).1 mem).symm
    rw [closings_append_of_not_mem other, if_neg fun both => hc both.1, Nat.add_zero]

/-- A text ends a statement where one of its semicolons ends a line. -/
theorem closings_flatMap_utf8_eq_zero_iff (cs : List Char) :
    closings (cs.flatMap String.utf8EncodeChar) = 0 ↔ ¬ClosesLine cs := by
  induction cs with
  | nil => exact iff_of_true rfl (by decide)
  | cons c cs ih =>
    rw [List.flatMap_cons, closings_utf8EncodeChar, closesLine_cons_iff, ← atLineEnd_iff, not_or,
      ← ih]
    split_ifs with both
    · exact iff_of_false id fun h => h.1 both
    · rw [Nat.add_zero]
      exact (and_iff_right both).symm

theorem closings_utf8_eq_zero_iff (s : String) : closings (utf8 s) = 0 ↔ ¬ClosesLine s.toList :=
  closings_flatMap_utf8_eq_zero_iff s.toList

theorem atLineEnd_identifierChar (cs : List Char) :
    AtLineEnd ((cs.flatMap identifierChar).flatMap String.utf8EncodeChar) ↔
      AtLineEnd (cs.flatMap String.utf8EncodeChar) := by
  have head (cs : List Char) : ['\n'] <+: cs.flatMap identifierChar ↔ ['\n'] <+: cs := by
    cases cs with
    | nil => rfl
    | cons c cs =>
      rw [List.flatMap_cons, identifierChar]
      split_ifs with tick
      · rw [tick]
        simp [List.cons_prefix_cons]
      · simp [List.cons_prefix_cons]
  rw [atLineEnd_iff, atLineEnd_iff, head]
  refine or_congr_right ?_
  cases cs with
  | nil => rfl
  | cons c cs =>
    rw [List.flatMap_cons, List.cons_prefix_cons, ← head cs, identifierChar]
    split_ifs with tick
    · have other : '\r' ≠ backtick := by decide
      simp [tick, other]
    · simp

/-- A backtick that is written twice ends no statement. -/
theorem closings_flatMap_identifierChar (cs : List Char) :
    closings ((cs.flatMap identifierChar).flatMap String.utf8EncodeChar) =
      closings (cs.flatMap String.utf8EncodeChar) := by
  induction cs with
  | nil => rfl
  | cons c cs ih =>
    have line := atLineEnd_identifierChar cs
    rw [List.flatMap_cons, List.flatMap_append, List.flatMap_cons, closings_utf8EncodeChar, ← ih]
    by_cases tick : c = backtick
    · subst tick
      have twice : (identifierChar backtick).flatMap String.utf8EncodeChar =
          [Region.backtickByte, Region.backtickByte] := by decide
      have other : backtick ≠ ';' := by decide
      rw [twice, closings_append_of_not_mem (by decide), if_neg fun both => other both.1,
        Nat.add_zero]
    · rw [identifierChar, if_neg tick, List.flatMap_singleton, closings_utf8EncodeChar]
      simp only [line]

theorem closings_quoteIdentifier (name : String) (b : Bytes) :
    closings (utf8 (quoteIdentifier name) ++ b) = closings (utf8 name) + closings b := by
  have tick : utf8 "`" = [Region.backtickByte] := by decide
  have inner := closings_flatMap_identifierChar name.toList
  have closed : ∀ x ∈ ([Region.backtickByte] ++ b).head?,
      x ≠ Byte.lineFeed ∧ x ≠ Byte.carriageReturn := by
    rintro x ⟨⟩
    decide
  rw [quoteIdentifier, utf8_append, utf8_append, tick, List.append_assoc, List.append_assoc,
    closings_append_of_not_mem (by decide), closings_append _ closed,
    closings_append_of_not_mem (by decide)]
  rw [utf8, String.toList_ofList, inner]
  rfl

theorem quoteIdentifiers_singleton (name : String) :
    quoteIdentifiers [name] = quoteIdentifier name :=
  String.intercalate_singleton

theorem utf8_quoteIdentifiers_cons (name next : String) (names : List String) :
    utf8 (quoteIdentifiers (name :: next :: names)) =
      utf8 (quoteIdentifier name) ++ (utf8 ", " ++ utf8 (quoteIdentifiers (next :: names))) := by
  unfold quoteIdentifiers
  rw [List.map_cons, List.map_cons, String.intercalate_cons_cons, utf8_append, utf8_append,
    List.append_assoc]

theorem closings_quoteIdentifiers (names : List String) (b : Bytes) :
    closings (utf8 (quoteIdentifiers names) ++ b) =
      (names.map fun name => closings (utf8 name)).sum + closings b := by
  induction names with
  | nil => exact (Nat.zero_add _).symm
  | cons name names ih =>
    cases names with
    | nil =>
      rw [quoteIdentifiers_singleton, closings_quoteIdentifier]
      simp
    | cons next names =>
      rw [utf8_quoteIdentifiers_cons, List.append_assoc, List.append_assoc,
        closings_quoteIdentifier, closings_append_of_not_mem (by decide), ih,
        List.map_cons (a := name), List.sum_cons, Nat.add_assoc]

/-- A line that shows an identifier ends statements where its name does, and where it would do so
without the name. -/
theorem closings_quoted {a : String} (ha : ';' ∉ a.toList) (name b : String) :
    closings (utf8 (a ++ quoteIdentifier name ++ b) ++ [Byte.lineFeed]) =
      closings (utf8 name) + closings (utf8 b ++ [Byte.lineFeed]) := by
  have start : Byte.semicolon ∉ utf8 a :=
    fun mem => ha ((mem_utf8_iff (c := ';') (by decide) a).1 mem)
  rw [utf8_append, utf8_append, List.append_assoc, List.append_assoc,
    closings_append_of_not_mem start, closings_quoteIdentifier]

/-! ## Names between backticks and in comments -/

namespace Region

theorem scan_identifier {b : Bytes} (h : backtickByte ∉ b) :
    identifier.scan b = (identifier, []) := by
  induction b with
  | nil => rfl
  | cons x b ih =>
    rw [List.mem_cons, not_or] at h
    have stays : identifier.step x = (identifier, []) := if_neg (Ne.symm h.1)
    rw [scan, stays, ih h.2]
    rfl

/-- Whatever its characters are, a name between backticks is an identifier. -/
theorem scan_quoteIdentifier (name : String) :
    code.scan (utf8 (quoteIdentifier name)) = (code, []) := by
  have tick : utf8 "`" = [backtickByte] := by decide
  have inner (cs : List Char) :
      identifier.scan ((cs.flatMap identifierChar).flatMap String.utf8EncodeChar) =
        (identifier, []) := by
    induction cs with
    | nil => rfl
    | cons c cs ih =>
      have one : identifier.scan ((identifierChar c).flatMap String.utf8EncodeChar) =
          (identifier, []) := by
        unfold identifierChar
        split_ifs with hc
        · decide
        · rw [List.flatMap_singleton]
          exact scan_identifier fun mem =>
            hc ((asciiByte_mem_utf8EncodeChar_iff (c := backtick) (by decide)).1 mem).symm
      rw [List.flatMap_cons, List.flatMap_append, scan_append, one, ih]
      rfl
  rw [quoteIdentifier, utf8_append, utf8_append, tick, List.append_assoc, List.singleton_append,
    scan]
  have opened : code.step backtickByte = (identifier, []) := rfl
  rw [opened, scan_append]
  rw [utf8, String.toList_ofList, inner]
  rfl

/-- The names of an enumeration are not seen, only how many there are. -/
theorem scan_quoteIdentifiers {names names' : List String} (h : names.length = names'.length) :
    code.scan (utf8 (quoteIdentifiers names)) = code.scan (utf8 (quoteIdentifiers names')) ∧
      (code.scan (utf8 (quoteIdentifiers names))).1 = code := by
  induction names generalizing names' with
  | nil =>
    obtain rfl := List.length_eq_zero_iff.1 h.symm
    exact ⟨rfl, rfl⟩
  | cons name names ih =>
    cases names' with
    | nil => cases h
    | cons name' names' =>
      have rest := Nat.succ.inj h
      cases names with
      | nil =>
        obtain rfl := List.length_eq_zero_iff.1 rest.symm
        simp only [quoteIdentifiers_singleton, scan_quoteIdentifier, and_self]
      | cons next names =>
        cases names' with
        | nil => cases rest
        | cons next' names' =>
          obtain ⟨same, last⟩ := ih rest
          have comma : code.scan (utf8 ", ") = (code, utf8 ", ") := by decide
          rw [utf8_quoteIdentifiers_cons, utf8_quoteIdentifiers_cons,
            scan_append_code (scan_quoteIdentifier name),
            scan_append_code (scan_quoteIdentifier name'), scan_append_code comma,
            scan_append_code comma, ← same]
          exact ⟨rfl, last⟩

/-- A line that shows an identifier reads alike with any other name. -/
theorem scan_quoted {a : String} (ha : (code.scan (utf8 a)).1 = code) (name name' b : String) :
    code.scan (utf8 (a ++ quoteIdentifier name ++ b) ++ [Byte.lineFeed]) =
      code.scan (utf8 (a ++ quoteIdentifier name' ++ b) ++ [Byte.lineFeed]) := by
  simp only [utf8_append, List.append_assoc]
  rw [scan_append, scan_append code (utf8 a), ha, scan_append_code (scan_quoteIdentifier name),
    scan_append_code (scan_quoteIdentifier name')]

/-- A comment is read up to the end of its line. -/
theorem scan_comment {b : Bytes} (h : Byte.lineFeed ∉ b) :
    comment.scan (b ++ [Byte.lineFeed]) = (code, []) := by
  induction b with
  | nil => rfl
  | cons x b ih =>
    rw [List.mem_cons, not_or] at h
    have stays : comment.step x = (comment, []) := if_neg (Ne.symm h.1)
    rw [List.cons_append, scan, stays, ih h.2]
    rfl

end Region

/-! ## Lines that match

Two texts of the same lines, in which different names are printed, are compared line by line. -/

theorem IsClosing.closings_eq {l : String} (h : IsClosing l) :
    closings (utf8 l ++ [Byte.lineFeed]) = 1 := by
  have one := (forms_closing h []).2
  rw [Lines.bytes_singleton] at one
  rw [← length_gather (isClosed_concat _) [], one]
  rfl

theorem IsQuiet.passes {l : String} (h : IsQuiet l) : Passes (utf8 l) := by
  have none := (forms_quiet h []).2
  rw [Lines.bytes_singleton] at none
  rw [Passes, ← length_gather (isClosed_concat _) [], none]
  rfl

/-- A character with which a statement can begin. -/
def BeginsSql (c : Char) : Prop :=
  c.toNat < 128 ∧ Splitter.isAsciiBlank (asciiByte c) = false ∧ asciiByte c ≠ Region.dashByte

instance (c : Char) : Decidable (BeginsSql c) := inferInstanceAs (Decidable (_ ∧ _))

theorem hasSql_utf8 {s : String} {c : Char} (head : s.toList.head? = some c) (h : BeginsSql c)
    (rest : Bytes) : HasSql (utf8 s ++ rest) := by
  obtain ⟨cs, hcs⟩ := List.head?_eq_some_iff.1 head
  have start : (utf8 s ++ rest).head? = some (asciiByte c) := by
    rw [utf8, hcs, List.flatMap_cons, utf8EncodeChar_of_lt h.1]
    rfl
  exact hasSql_of_head start h.2.1 h.2.2

theorem IsClosing.ends {l : String} (h : IsClosing l) {c : Char} (head : l.toList.head? = some c)
    (hc : BeginsSql c) : Ends (utf8 l) :=
  ⟨h.closings_eq, (getLast?_utf8_eq_iff (by decide) l).2 h.2, hasSql_utf8 head hc _⟩

/-- What a statement on a line of its own can begin with, before an identifier. -/
def BeginsStatement (start : String) : Prop :=
  ';' ∉ start.toList ∧ (Region.code.scan (utf8 start)).1 = .code ∧
    start.toList.head?.any fun c => BeginsSql c

instance (start : String) : Decidable (BeginsStatement start) :=
  inferInstanceAs (Decidable (_ ∧ _ ∧ _ = true))

/-- What such a statement can end with. -/
def EndsStatement (rest : String) : Prop :=
  closings (utf8 rest ++ [Byte.lineFeed]) = 1 ∧ rest.toList.getLast? = some ';'

instance (rest : String) : Decidable (EndsStatement rest) := inferInstanceAs (Decidable (_ ∧ _))

/-- A line that ends a statement, or that ends none and leaves the reader in code. -/
def IsFixed (l : Bytes) : Prop :=
  Passes l ∧ (Region.code.scan (l ++ [Byte.lineFeed])).1 = .code ∨ Ends l

/-- The lines `ls` show names where the lines `ls'` show plain ones.  They end as many statements
just if the names are `harmless`; then statements end at the ends of lines with SQL.  If the names
are also `feedless`, the lines read alike. -/
structure Matches (harmless feedless : Prop) (ls ls' : List Bytes) : Prop where
  count : ∃ more, closings (joinLines ls) = closings (joinLines ls') + more ∧ (more = 0 ↔ harmless)
  ends : harmless → ∀ l ∈ ls, Passes l ∨ Ends l
  alike : harmless → feedless → List.Forall₂ Region.Alike ls ls'

namespace Matches

variable {h h' f f' : Prop} {a a' b b' : List Bytes}

theorem imp (m : Matches h f a b) (hh : h ↔ h') (hf : f' → f) : Matches h' f' a b where
  count := by
    obtain ⟨more, same, zero⟩ := m.count
    exact ⟨more, same, zero.trans hh⟩
  ends safe := m.ends (hh.2 safe)
  alike safe feedless := m.alike (hh.2 safe) (hf feedless)

theorem append (m : Matches h f a a') (m' : Matches h' f' b b') :
    Matches (h ∧ h') (f ∧ f') (a ++ b) (a' ++ b') where
  count := by
    obtain ⟨more, same, zero⟩ := m.count
    obtain ⟨more', same', zero'⟩ := m'.count
    refine ⟨more + more', ?_, ?_⟩
    · simp only [joinLines_append, closings_append_of_isClosed (isClosed_joinLines _), same, same']
      omega
    · rw [← zero, ← zero']
      omega
  ends safe l hl := by
    rcases List.mem_append.1 hl with hl | hl
    · exact m.ends safe.1 l hl
    · exact m'.ends safe.2 l hl
  alike safe feedless :=
    List.rel_append (m.alike safe.1 feedless.1) (m'.alike safe.2 feedless.2)

theorem cons {l l' : Bytes} (m : Matches h f [l] [l']) (m' : Matches h' f' a a') :
    Matches (h ∧ h') (f ∧ f') (l :: a) (l' :: a') :=
  m.append m'

theorem nil : Matches True True [] [] where
  count := ⟨0, rfl, Iff.rfl.trans (iff_of_true rfl trivial)⟩
  ends _ _ hl := absurd hl List.not_mem_nil
  alike _ _ := .nil

/-- Lines without names. -/
theorem of_fixed {ls : List Bytes} (h : ∀ l ∈ ls, IsFixed l) : Matches True True ls ls where
  count := ⟨0, rfl, iff_of_true rfl trivial⟩
  ends _ l hl := (h l hl).imp_left And.left
  alike _ _ := by
    refine List.forall₂_same.2 fun l hl => ?_
    rcases h l hl with ⟨passes, scan⟩ | ends
    · exact .passes _ passes passes (Prod.ext scan rfl) (Prod.ext scan rfl)
    · exact .ends ends ends rfl

/-- A line without names that ends no statement. -/
theorem of_passes {l : Bytes} (passes : Passes l)
    (scan : (Region.code.scan (l ++ [Byte.lineFeed])).1 = .code) : Matches True True [l] [l] :=
  of_fixed (List.forall_mem_singleton.2 (.inl ⟨passes, scan⟩))

/-- A line without names that ends a statement. -/
theorem of_ends {l : Bytes} (ends : Ends l) : Matches True True [l] [l] :=
  of_fixed (List.forall_mem_singleton.2 (.inr ends))

/-- A comment that ends with a name. -/
theorem comment (start : String) (semi : ';' ∉ start.toList)
    (bar : (Region.code.scan (utf8 start)).1 = .comment) (x : String) {y : String}
    (plain : ¬ClosesLine (y ++ "\n").toList) (feedless : '\n' ∉ y.toList) :
    Matches (¬ClosesLine (x ++ "\n").toList) ('\n' ∉ x.toList) [utf8 (start ++ x)]
      [utf8 (start ++ y)] := by
  have before : Byte.semicolon ∉ utf8 start := fun mem =>
    semi ((mem_utf8_iff (c := ';') (by decide) start).1 mem)
  have count (z : String) :
      closings (utf8 (start ++ z) ++ [Byte.lineFeed]) = closings (utf8 (z ++ "\n")) := by
    rw [utf8_append, List.append_assoc, closings_append_of_not_mem before, utf8_append]
    rfl
  have passes {z : String} (hz : ¬ClosesLine (z ++ "\n").toList) : Passes (utf8 (start ++ z)) := by
    rw [Passes, count]
    exact (closings_utf8_eq_zero_iff _).2 hz
  have scan {z : String} (hz : '\n' ∉ z.toList) :
      Region.code.scan (utf8 (start ++ z) ++ [Byte.lineFeed]) =
        (.code, (Region.code.scan (utf8 start)).2) := by
    have feed : Byte.lineFeed ∉ utf8 z := fun mem => hz ((lineFeed_mem_utf8_iff z).1 mem)
    rw [utf8_append, List.append_assoc, Region.scan_append, bar, Region.scan_comment feed,
      List.append_nil]
  constructor
  · refine ⟨closings (utf8 (x ++ "\n")), ?_, closings_utf8_eq_zero_iff _⟩
    rw [joinLines_singleton, joinLines_singleton, count, count,
      (closings_utf8_eq_zero_iff _).2 plain, Nat.zero_add]
  · exact fun harmless => List.forall_mem_singleton.2 (.inl (passes harmless))
  · exact fun harmless feed =>
      .cons (.passes _ (passes harmless) (passes plain) (scan feed) (scan feedless)) .nil

/-- A statement on a line of its own that shows an identifier. -/
theorem quoted (start rest : String) (begins : BeginsStatement start) (ends : EndsStatement rest)
    (x : String) {y : String} (plain : ¬ClosesLine y.toList) :
    Matches (¬ClosesLine x.toList) True [utf8 (start ++ quoteIdentifier x ++ rest)]
      [utf8 (start ++ quoteIdentifier y ++ rest)] := by
  obtain ⟨semi, code, first⟩ := begins
  obtain ⟨c, head, sql⟩ := (Option.any_eq_true _ _).1 first
  obtain ⟨one, last⟩ := ends
  have count (z : String) :
      closings (utf8 (start ++ quoteIdentifier z ++ rest) ++ [Byte.lineFeed]) =
        closings (utf8 z) + 1 := by
    rw [closings_quoted semi, one]
  have ends {z : String} (hz : ¬ClosesLine z.toList) :
      Ends (utf8 (start ++ quoteIdentifier z ++ rest)) := by
    refine ⟨?_, ?_, ?_⟩
    · rw [count, (closings_utf8_eq_zero_iff z).2 hz]
    · refine (getLast?_utf8_eq_iff (c := ';') (by decide) _).2 ?_
      rw [String.toList_append, List.getLast?_append, last]
      rfl
    · refine hasSql_utf8 (c := c) ?_ (of_decide_eq_true sql) _
      rw [String.toList_append, String.toList_append, List.append_assoc, List.head?_append, head]
      rfl
  constructor
  · refine ⟨closings (utf8 x), ?_, closings_utf8_eq_zero_iff x⟩
    rw [joinLines_singleton, joinLines_singleton, count, count,
      (closings_utf8_eq_zero_iff y).2 plain]
    omega
  · exact fun harmless => List.forall_mem_singleton.2 (.inr (ends harmless))
  · intro harmless _
    refine .cons (.ends (ends harmless) (ends plain) ?_) .nil
    exact congrArg Prod.snd (Region.scan_quoted code x y rest)

end Matches

end LogicalBackup
