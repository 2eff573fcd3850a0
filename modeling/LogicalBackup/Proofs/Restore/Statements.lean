import LogicalBackup.Proofs.Restore.Lines
import LogicalBackup.Proofs.Text.Ascii
import LogicalBackup.Section

/-!
# Statements among the lines of a text

A line of a section may itself hold line feeds, such as the text of a `CREATE TABLE` statement.
`IsQuiet` and `IsClosing` say of such a line that it goes into a statement as it is, and whether it
ends that statement; `Cut` derives from this which statements a section makes.  A derivation says
what the splitter does (`Cut.forms`, `Forms.splitsInto`), and sections follow one another
(`Cut.append`, `Forms.append`).
-/

namespace LogicalBackup

/-! ## Blocks of lines -/

/-- What may stand before a character: no line feed follows another one, nor a carriage return, nor
a semicolon. -/
def Keeps (a b : Char) : Prop := b = '\n' → a ≠ '\n' ∧ a ≠ '\r' ∧ a ≠ ';'

/-- `Keeps` for bytes. -/
def KeepsByte (a b : UInt8) : Prop :=
  b = Byte.lineFeed → a ≠ Byte.lineFeed ∧ a ≠ Byte.carriageReturn ∧ a ≠ Byte.semicolon

instance : DecidableRel Keeps := fun _ b => inferInstanceAs (Decidable (b = '\n' → _))

/-- Lines that are not empty and of which none ends a statement. -/
def IsQuiet (s : String) : Prop := ('\n' :: (s.toList ++ ['\n'])).IsChain Keeps

instance (s : String) : Decidable (IsQuiet s) := inferInstanceAs (Decidable (List.IsChain _ _))

/-- Lines that are not empty and of which only the last ends a statement. -/
def IsClosing (s : String) : Prop :=
  ('\n' :: s.toList).IsChain Keeps ∧ s.toList.getLast? = some ';'

theorem isChain_keepsByte {cs : List Char} (h : cs.IsChain Keeps) :
    (cs.flatMap String.utf8EncodeChar).IsChain KeepsByte := by
  have last {c : Char} {a : UInt8} {d : Char} (hd : d.toNat < 128)
      (ha : a ∈ (String.utf8EncodeChar c).getLast?) (e : a = asciiByte d) : c = d :=
    (getLast?_utf8EncodeChar_eq_iff hd).1 (by rw [← e]; exact ha)
  refine isChain_utf8 (fun a b hb e => ?_) (fun c d hcd a ha b hb e => ?_) h
  · rw [e] at hb
    exact absurd hb (by decide)
  · have hd : d = '\n' :=
      (head?_utf8EncodeChar_eq_iff (by decide)).1 (by rw [Option.mem_def.1 hb, e]; rfl)
    obtain ⟨h1, h2, h3⟩ := hcd hd
    exact ⟨fun e => h1 (last (by decide) ha e), fun e => h2 (last (by decide) ha e),
      fun e => h3 (last (by decide) ha e)⟩

theorem trimLine_concat {l : Bytes} (h : l.getLast? ≠ some Byte.carriageReturn) :
    trimLine (l ++ [Byte.lineFeed]) = l := by
  unfold trimLine
  simp [h]

/-- A block goes into the buffer as it is, and makes a statement if it ends in a semicolon. -/
theorem gather_block {b : Bytes} (chain : (Byte.lineFeed :: b).IsChain KeepsByte)
    {last : UInt8} (hlast : b.getLast? = some last) (hlf : last ≠ Byte.lineFeed)
    (hcr : last ≠ Byte.carriageReturn) (buffer : Bytes) :
    Splitter.gather buffer (rawLines (b ++ [Byte.lineFeed])) =
      if last = Byte.semicolon then ([buffer ++ b ++ [Byte.lineFeed]], [])
      else ([], buffer ++ b ++ [Byte.lineFeed]) := by
  by_cases h : Byte.lineFeed ∈ b
  · -- the first line of the block, which the chain keeps from being empty or ending anything
    obtain ⟨l, rest, rfl, hl⟩ := List.eq_append_cons_of_mem h
    have hsplit := List.isChain_split.1 (show ((Byte.lineFeed :: l) ++
      Byte.lineFeed :: rest).IsChain KeepsByte from chain)
    have hrest : rest.getLast? = some last := by
      cases rest with
      | nil => simp at hlast; exact absurd hlast.symm hlf
      | cons x rest => rw [List.getLast?_append_cons, List.getLast?_cons_cons] at hlast; exact hlast
    obtain ⟨x, hx⟩ : ∃ x, l.getLast? = some x := by
      rcases l.eq_nil_or_concat with rfl | ⟨l', x, rfl⟩
      · have := hsplit.1
        simp [KeepsByte] at this
      · exact ⟨x, by simp⟩
    have keeps : KeepsByte x Byte.lineFeed :=
      (List.isChain_append.1 hsplit.1).2.2 x
        (by rw [List.getLast?_cons, hx]; rfl) _ rfl
    obtain ⟨-, hxcr, hxsemi⟩ := keeps rfl
    have ih := gather_block hsplit.2 hrest hlf hcr (buffer ++ l ++ [Byte.lineFeed])
    rw [List.append_assoc, List.cons_append, rawLines_line hl, Splitter.gather,
      trimLine_concat (by rw [hx]; simpa using hxcr), if_neg, if_neg, ih]
    · simp only [List.append_assoc, List.cons_append, List.nil_append]
    · rw [hx]; simpa using hxsemi
    · rw [List.isEmpty_iff]; rintro rfl; cases hx
  · rw [rawLines_line h [], rawLines_nil, Splitter.gather, trimLine_concat, if_neg, hlast]
    · simp only [Option.some.injEq]
      split_ifs <;> rfl
    · rw [List.isEmpty_iff]; rintro rfl; cases hlast
    · rw [hlast]; simpa using hcr
termination_by b.length
decreasing_by
  subst_vars
  simp only [List.length_append, List.length_cons]
  omega

/-! ## Texts of whole lines -/

/-- After what is in the buffer, a text of whole lines makes these statements and leaves this in the
buffer. -/
def Forms (buffer text : Bytes) (statements : List Bytes) (rest : Bytes) : Prop :=
  IsClosed text ∧ Splitter.gather buffer (rawLines text) = (statements, rest)

theorem forms_nil (buffer : Bytes) : Forms buffer [] [] buffer := ⟨isClosed_nil, rfl⟩

theorem Forms.append {buffer a b mid rest : Bytes} {xs ys : List Bytes}
    (ha : Forms buffer a xs mid) (hb : Forms mid b ys rest) :
    Forms buffer (a ++ b) (xs ++ ys) rest := by
  refine ⟨ha.1.append hb.1, ?_⟩
  rw [rawLines_append ha.1, Splitter.gather_append, ha.2]
  dsimp only
  rw [hb.2]

/-- Texts that are read one after another. -/
theorem forms_flatMap {α : Type} {xs : List α} {text : α → Bytes} {statements : α → List Bytes}
    (h : ∀ x ∈ xs, Forms [] (text x) (statements x) []) :
    Forms [] (xs.flatMap text) (xs.flatMap statements) [] := by
  induction xs with
  | nil => exact forms_nil []
  | cons x xs ih =>
    obtain ⟨first, rest⟩ := List.forall_mem_cons.1 h
    exact first.append (ih rest)

theorem Forms.splitsInto {text rest : Bytes} {statements : List Bytes}
    (h : Forms [] text statements rest) : SplitsInto text statements rest :=
  splitsInto_iff.2 h.2

/-- A text is empty where a line of it is. -/
theorem forms_blank (buffer : Bytes) : Forms buffer [Byte.lineFeed] [] buffer :=
  ⟨isClosed_concat [], rfl⟩

/-- A line that ends in a semicolon ends a statement. -/
theorem forms_line {line : Bytes} (h : Byte.lineFeed ∉ line)
    (last : line.getLast? = some Byte.semicolon) (buffer : Bytes) :
    Forms buffer (line ++ [Byte.lineFeed]) [buffer ++ line ++ [Byte.lineFeed]] [] := by
  refine ⟨isClosed_concat line, ?_⟩
  rw [rawLines_line h [], rawLines_nil, Splitter.gather, trimLine_concat (by rw [last]; decide),
    if_neg, if_pos last]
  · rfl
  · rw [List.isEmpty_iff]
    rintro rfl
    cases last

/-! ## Sections -/

/-- The bytes of lines. -/
def Lines.bytes (lines : Lines) : Bytes := utf8 lines.text

@[simp] theorem Lines.bytes_append (a b : Lines) : Lines.bytes (a ++ b) = a.bytes ++ b.bytes := by
  simp [Lines.bytes, Lines.text, String.join_append]

theorem Lines.bytes_singleton (l : String) : Lines.bytes [l] = utf8 l ++ [Byte.lineFeed] := by
  simp [Lines.bytes, Lines.text]
  rfl

/-- Lines make these statements, which are lists of lines themselves, and leave `rest`.  The lines
in `buffer` come first. -/
inductive Cut : Lines → Lines → List Lines → Lines → Prop
  | nil {buffer} : Cut buffer [] [] buffer
  | blank {buffer lines statements rest} :
    Cut buffer lines statements rest → Cut buffer ("" :: lines) statements rest
  | quiet {buffer l lines statements rest} (h : IsQuiet l) :
    Cut (buffer ++ [l]) lines statements rest → Cut buffer (l :: lines) statements rest
  | closing {buffer l lines statements rest} (h : IsClosing l) :
    Cut [] lines statements rest → Cut buffer (l :: lines) ((buffer ++ [l]) :: statements) rest

theorem forms_quiet {l : String} (h : IsQuiet l) (buffer : Bytes) :
    Forms buffer (Lines.bytes [l]) [] (buffer ++ Lines.bytes [l]) := by
  have chain : ((Byte.lineFeed :: utf8 l) ++ [Byte.lineFeed]).IsChain KeepsByte := by
    have := isChain_keepsByte h
    rw [List.flatMap_cons, List.flatMap_append] at this
    exact this
  obtain ⟨chain, -, keeps⟩ := List.isChain_append.1 chain
  obtain ⟨last, hlast⟩ : ∃ last, (utf8 l).getLast? = some last := by
    rcases (utf8 l).eq_nil_or_concat with hl | ⟨_, last, hl⟩
    · rw [hl] at keeps
      exact absurd rfl (keeps _ rfl _ rfl rfl).1
    · exact ⟨last, by simp [hl]⟩
  obtain ⟨hlf, hcr, hsemi⟩ := keeps last (by rw [List.getLast?_cons, hlast]; rfl) _ rfl rfl
  rw [Lines.bytes_singleton]
  refine ⟨isClosed_concat _, ?_⟩
  rw [gather_block chain hlast hlf hcr, if_neg hsemi, List.append_assoc]

theorem forms_closing {l : String} (h : IsClosing l) (buffer : Bytes) :
    Forms buffer (Lines.bytes [l]) [buffer ++ Lines.bytes [l]] [] := by
  have chain : (Byte.lineFeed :: utf8 l).IsChain KeepsByte := isChain_keepsByte h.1
  have hlast := (getLast?_utf8_eq_iff (by decide) l).2 h.2
  rw [Lines.bytes_singleton]
  refine ⟨isClosed_concat _, ?_⟩
  rw [gather_block chain hlast (by decide) (by decide), if_pos (by decide), List.append_assoc]

theorem Cut.forms {buffer lines rest : Lines} {statements : List Lines}
    (h : Cut buffer lines statements rest) :
    Forms buffer.bytes lines.bytes (statements.map Lines.bytes) rest.bytes := by
  induction h with
  | nil => exact forms_nil _
  | @blank buffer lines statements rest _ ih =>
    rw [← List.singleton_append, Lines.bytes_append, Lines.bytes_singleton]
    exact (forms_blank _).append ih
  | @quiet buffer l lines statements rest hl _ ih =>
    rw [← List.singleton_append, Lines.bytes_append]
    rw [Lines.bytes_append] at ih
    exact (forms_quiet hl _).append ih
  | @closing buffer l lines statements rest hl _ ih =>
    rw [← List.singleton_append, Lines.bytes_append, List.map_cons, Lines.bytes_append]
    exact (forms_closing hl _).append ih

theorem Cut.append {buffer a mid b rest : Lines} {xs ys : List Lines} (ha : Cut buffer a xs mid)
    (hb : Cut mid b ys rest) : Cut buffer (a ++ b) (xs ++ ys) rest := by
  induction ha with
  | nil => exact hb
  | blank _ ih => exact .blank (ih hb)
  | quiet hl _ ih => exact .quiet hl (ih hb)
  | closing hl _ ih => exact .closing hl (ih hb)

/-- Every statement has a line, and all its lines are among those that were cut. -/
theorem Cut.ne_nil_and_subset {buffer lines rest : Lines} {statements : List Lines}
    (h : Cut buffer lines statements rest) {st : Lines} (hst : st ∈ statements) :
    st ≠ [] ∧ ∀ l ∈ st, l ∈ buffer ∨ l ∈ lines ∧ l ≠ "" := by
  have quiet_ne {l : String} (hl : IsQuiet l) : l ≠ "" := by
    rintro rfl
    exact absurd hl (by decide)
  have closing_ne {l : String} (hl : IsClosing l) : l ≠ "" := by
    rintro rfl
    exact absurd hl.2 (by decide)
  induction h with
  | nil => exact absurd hst List.not_mem_nil
  | blank _ ih =>
    refine ⟨(ih hst).1, fun l hl => ?_⟩
    exact ((ih hst).2 l hl).imp_right fun ⟨mem, ne⟩ => ⟨List.mem_cons_of_mem _ mem, ne⟩
  | @quiet buffer k lines statements rest hk _ ih =>
    refine ⟨(ih hst).1, fun l hl => ?_⟩
    rcases (ih hst).2 l hl with mem | ⟨mem, ne⟩
    · rcases List.mem_append.1 mem with mem | mem
      · exact .inl mem
      · obtain rfl := List.mem_singleton.1 mem
        exact .inr ⟨List.mem_cons_self, quiet_ne hk⟩
    · exact .inr ⟨List.mem_cons_of_mem _ mem, ne⟩
  | @closing buffer k lines statements rest hk _ ih =>
    rcases List.mem_cons.1 hst with rfl | hst
    · refine ⟨by simp, fun l hl => ?_⟩
      rcases List.mem_append.1 hl with mem | mem
      · exact .inl mem
      · obtain rfl := List.mem_singleton.1 mem
        exact .inr ⟨List.mem_cons_self, closing_ne hk⟩
    · refine ⟨(ih hst).1, fun l hl => ?_⟩
      rcases (ih hst).2 l hl with mem | ⟨mem, ne⟩
      · exact absurd mem List.not_mem_nil
      · exact .inr ⟨List.mem_cons_of_mem _ mem, ne⟩

/-! ## Single lines -/

/-- One line of its own that does not end a statement. -/
structure IsLine (s : String) : Prop where
  not_mem : '\n' ∉ s.toList
  ne_nil : s.toList ≠ []
  last : ∀ c ∈ s.toList.getLast?, c ≠ '\r' ∧ c ≠ ';'

/-- A text with which a line can end. -/
def EndsLine (s : String) : Prop :=
  '\n' ∉ s.toList ∧ ∀ c ∈ s.toList.getLast?, c ≠ '\r' ∧ c ≠ ';'

/-- Characters among which there is no line feed can follow any others. -/
theorem isChain_keeps_append {cs t : List Char} (hcs : cs.IsChain Keeps) (ht : '\n' ∉ t) :
    (cs ++ t).IsChain Keeps := by
  have alone : t.IsChain Keeps := by
    induction t with
    | nil => exact List.isChain_nil
    | cons c t ih =>
      rw [List.mem_cons, not_or] at ht
      refine List.isChain_cons.2 ⟨?_, ih ht.2⟩
      rintro d hd rfl
      exact absurd (List.mem_of_head? hd) ht.2
  refine List.isChain_append.2 ⟨hcs, alone, ?_⟩
  rintro c - d hd rfl
  exact absurd (List.mem_of_head? hd) ht

theorem isChain_keeps_of_not_mem {t : List Char} (ht : '\n' ∉ t) :
    ('\n' :: t).IsChain Keeps := by
  have start : ['\n'].IsChain Keeps := List.isChain_singleton _
  exact isChain_keeps_append start ht

/-- After a line, which is taken as the start of another one, anything can go on. -/
theorem IsLine.isChain {a : String} (ha : IsLine a) {cs : List Char} (hcs : cs.IsChain Keeps) :
    ('\n' :: (a.toList ++ cs)).IsChain Keeps := by
  rw [← List.cons_append]
  refine List.isChain_append.2 ⟨isChain_keeps_of_not_mem ha.not_mem, hcs, ?_⟩
  rintro c hc d hd rfl
  obtain ⟨x, hx⟩ : ∃ x, a.toList.getLast? = some x :=
    ⟨_, List.getLast?_eq_some_getLast ha.ne_nil⟩
  obtain rfl : x = c := by
    rw [List.getLast?_cons, hx] at hc
    exact Option.some.inj hc
  refine ⟨?_, ha.last x hx⟩
  rintro rfl
  exact ha.not_mem (List.mem_of_getLast? hx)

theorem isChain_keeps_feed {s : String} (h : IsLine s) : (s.toList ++ ['\n']).IsChain Keeps :=
  List.IsChain.of_cons (h.isChain (List.isChain_singleton '\n'))

theorem IsLine.isQuiet {s : String} (h : IsLine s) : IsQuiet s :=
  h.isChain (List.isChain_singleton '\n')

/-- Lines framed by a line on both sides do not end a statement, whatever they end in. -/
theorem isQuiet_frame {a s b : String} (ha : IsLine a) (hs : s.toList.IsChain Keeps)
    (hb : IsLine b) : IsQuiet (a ++ s ++ b) := by
  unfold IsQuiet
  rw [String.toList_append, String.toList_append, List.append_assoc, List.append_assoc]
  refine ha.isChain (List.isChain_append.2 ⟨hs, isChain_keeps_feed hb, ?_⟩)
  rintro c - d hd rfl
  rw [List.head?_append_of_ne_nil _ hb.ne_nil] at hd
  exact absurd (List.mem_of_head? hd) hb.not_mem

/-- Lines framed by a line and by one that ends in a semicolon end a statement. -/
theorem isClosing_frame {a s b : String} (ha : IsLine a) (hs : s.toList.IsChain Keeps)
    (hb : '\n' ∉ b.toList) (last : b.toList.getLast? = some ';') : IsClosing (a ++ s ++ b) := by
  constructor
  · rw [String.toList_append, String.toList_append, List.append_assoc]
    exact ha.isChain (isChain_keeps_append hs hb)
  · rw [String.toList_append, List.getLast?_append, last]
    rfl

theorem isClosing_of_not_mem {s : String} (h : '\n' ∉ s.toList)
    (last : s.toList.getLast? = some ';') : IsClosing s :=
  ⟨isChain_keeps_of_not_mem h, last⟩

theorem lineFeed_not_mem_append {a b : String} (ha : '\n' ∉ a.toList) (hb : '\n' ∉ b.toList) :
    '\n' ∉ (a ++ b).toList := by
  rw [String.toList_append, List.mem_append, not_or]
  exact ⟨ha, hb⟩

/-- Whatever stands before the end of a line, it is a line. -/
theorem IsLine.append_left {a b : String} (hb : IsLine b) (ha : '\n' ∉ a.toList) :
    IsLine (a ++ b) where
  not_mem := lineFeed_not_mem_append ha hb.not_mem
  ne_nil := by
    rw [String.toList_append, ne_eq, List.append_eq_nil_iff, not_and]
    exact fun _ => hb.ne_nil
  last := by
    rw [String.toList_append, List.getLast?_append, List.getLast?_eq_some_getLast hb.ne_nil]
    exact fun c hc => hb.last c (by rw [List.getLast?_eq_some_getLast hb.ne_nil]; exact hc)

/-- A line goes on with a text that does not end a statement. -/
theorem IsLine.append_right {a b : String} (ha : IsLine a) (hb : EndsLine b) : IsLine (a ++ b) where
  not_mem := lineFeed_not_mem_append ha.not_mem hb.1
  ne_nil := by
    rw [String.toList_append, ne_eq, List.append_eq_nil_iff, not_and]
    exact fun h => absurd h ha.ne_nil
  last := by
    rw [String.toList_append, List.getLast?_append]
    intro c hc
    cases hl : b.toList.getLast? with
    | none =>
      rw [hl] at hc
      exact ha.last c hc
    | some d =>
      rw [hl] at hc
      exact hb.2 c (by rw [hl]; exact hc)

/-! ## Literals

Of a literal, the characters are given at once, without its bytes. -/

theorem lineFeed_not_mem_ofList {cs : List Char} (h : '\n' ∉ cs) :
    '\n' ∉ (String.ofList cs).toList := by
  rwa [String.toList_ofList]

theorem isQuiet_ofList {cs : List Char} (h : ('\n' :: (cs ++ ['\n'])).IsChain Keeps) :
    IsQuiet (String.ofList cs) := by
  rwa [IsQuiet, String.toList_ofList]

theorem isClosing_ofList {cs : List Char} (h : '\n' ∉ cs) (last : cs.getLast? = some ';') :
    IsClosing (String.ofList cs) :=
  isClosing_of_not_mem (lineFeed_not_mem_ofList h) (by rwa [String.toList_ofList])

theorem isLine_ofList {cs : List Char} (h : '\n' ∉ cs) (ne : cs ≠ [])
    (last : ∀ c ∈ cs.getLast?, c ≠ '\r' ∧ c ≠ ';') : IsLine (String.ofList cs) :=
  ⟨lineFeed_not_mem_ofList h, by rwa [String.toList_ofList], by rwa [String.toList_ofList]⟩

theorem head?_ofList (c : Char) (cs : List Char) :
    (String.ofList (c :: cs)).toList.head? = some c := by
  rw [String.toList_ofList]
  rfl

end LogicalBackup
