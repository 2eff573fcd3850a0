import LogicalBackup.Proofs.Catalog.ViewDefinition
import LogicalBackup.Proofs.Text.Keywords
import LogicalBackup.Section

/-!
# Cutting views around the definer clause

A statement that creates a view is cut into a head, a clause and a body, between which only white
space is left out (`exists_of_split`).  Without the mark `DEFINER=` it is not cut
(`split_eq_none`).  The statement of a `ViewText` is cut at its first mark and behind the word after
`SQL SECURITY`, whatever its body holds (`split_text`).
-/

namespace LogicalBackup

open Text Preamble

namespace ViewDefinition

/-! ## The first place -/

theorem findFirst_eq_none {α : Type} {read : List Char → Option α} {s : List Char}
    (h : ∀ r, r <:+ s → read r = none) (before : List Char) : findFirst read before s = none := by
  induction s generalizing before with
  | nil => rw [findFirst, h [] (List.suffix_refl _), Option.map_none]
  | cons c s ih =>
    rw [findFirst, h (c :: s) (List.suffix_refl _)]
    exact ih (fun r hr => h r (hr.trans (List.suffix_cons c s))) (c :: before)

/-- What is read is found behind a part in which nothing can be read. -/
theorem findFirst_append {α : Type} {read : List Char → Option α} {s : List Char} {a : α}
    (found : read s = some a) {p : List Char} (h : ∀ r, r <:+ p → r ≠ [] → read (r ++ s) = none)
    (before : List Char) : findFirst read before (p ++ s) = some (p.reverse ++ before, s, a) := by
  induction p generalizing before with
  | nil =>
    rw [List.nil_append, List.reverse_nil, List.nil_append]
    cases s with
    | nil => rw [findFirst, found, Option.map_some]
    | cons c s => rw [findFirst, found]
  | cons c p ih =>
    have none := h (c :: p) (List.suffix_refl _) (List.cons_ne_nil c p)
    rw [List.cons_append] at none
    rw [List.cons_append, findFirst, none, List.reverse_cons, List.append_assoc]
    exact ih (fun r hr => h r (hr.trans (List.suffix_cons c p))) (c :: before)

/-! ## Nothing is lost -/

theorem exists_trimmed (before : List Char) : ∃ blanks, IsBlanks blanks ∧
    before.reverse = (before.dropWhile isBlank).reverse ++ blanks ∧
      ∀ c ∈ (before.dropWhile isBlank).reverse.getLast?, isBlank c = false := by
  refine ⟨(before.takeWhile isBlank).reverse, ?_, ?_, ?_⟩
  · exact fun c hc => isBlanks_takeWhile before c (List.mem_reverse.1 hc)
  · rw [← List.reverse_append, List.takeWhile_append_dropWhile]
  · intro c hc
    rw [List.getLast?_reverse] at hc
    have first := List.head?_dropWhile_not isBlank before
    rw [Option.mem_def.1 hc] at first
    exact first

/-- The parts of a statement that is cut, with the white space that is left out. -/
theorem exists_of_split {sql : String} {d : ViewDefinition} (h : split sql = some d) :
    ∃ w₁ w₂ : String, IsBlanks w₁.toList ∧ IsBlanks w₂.toList ∧ w₂ ≠ "" ∧
      sql = d.head ++ w₁ ++ d.definer ++ w₂ ++ d.body ∧
      (∀ c ∈ d.head.toList.getLast?, isBlank c = false) ∧
      Begins "DEFINER=" d.definer.toList ∧ Begins "VIEW" d.body.toList := by
  unfold split at h
  obtain ⟨⟨before, clause, afterMark⟩, hmark, h⟩ := Option.bind_eq_some_iff.1 h
  obtain ⟨⟨b, c, rest, body⟩, hsecurity, h⟩ := Option.bind_eq_some_iff.1 h
  cases h
  obtain ⟨whole, keyword⟩ := findFirst_eq_some hmark
  obtain ⟨after, security⟩ := findFirst_eq_some hsecurity
  rw [List.reverse_nil, List.nil_append] at whole after
  obtain ⟨⟨x, hx⟩, blanks, view⟩ := takeSecurity_eq_some security
  obtain ⟨mark, hm, rfl⟩ := takeKeyword_iff.1 keyword
  obtain ⟨w₁, hw₁, hbefore, trimmed⟩ := exists_trimmed before
  obtain ⟨w₂, hw₂, ne, hrest⟩ := exists_of_takeBlanks blanks
  -- the clause is the mark and what stands before the end that was found
  have cut : mark ++ afterMark = (mark ++ (b.reverse ++ x)) ++ rest := by
    rw [← after, ← hx, List.append_assoc, List.append_assoc]
  have clause : (mark ++ afterMark).take ((mark ++ afterMark).length - rest.length) =
      mark ++ (b.reverse ++ x) := by
    rw [cut, List.length_append, Nat.add_sub_cancel, List.take_left]
  dsimp only
  rw [clause]
  refine ⟨String.ofList w₁, String.ofList w₂, ?_, ?_, ?_, ?_, ?_, ?_, ?_⟩
  · rwa [String.toList_ofList]
  · rwa [String.toList_ofList]
  · intro empty
    exact ne (String.ofList_eq_empty_iff.1 empty)
  · rw [← String.toList_inj]
    simp only [String.toList_append, String.toList_ofList]
    rw [← hbefore, ← whole, cut, hrest]
    simp only [List.append_assoc]
  · rwa [String.toList_ofList]
  · rw [String.toList_ofList]
    exact ⟨mark, _, hm, rfl⟩
  · rw [String.toList_ofList]
    exact begins_iff.2 view

/-- A statement without the mark is not cut. -/
theorem split_eq_none {sql : String} (h : ¬Mentions "DEFINER=" sql.toList) : split sql = none := by
  have none : findFirst (takeKeyword "DEFINER=".toList) [] sql.toList = none := by
    refine findFirst_eq_none (fun r hr => takeKeyword_eq_none fun begins => ?_) []
    exact h (mentions_iff.2 ⟨r, (List.mem_tails _ _).2 hr, begins⟩)
  unfold split
  rw [none]
  rfl

end ViewDefinition

/-! ## Statements with a clause -/

/-- A keyword in letters of either case. -/
abbrev Spelling (keyword : String) : Type := { s : List Char // Spells keyword s }

/-- White space, at least one character. -/
abbrev Gap : Type := { s : List Char // IsBlanks s ∧ s ≠ [] }

/-- A statement that creates a view, as servers write it. -/
structure ViewText where
  /-- What stands before the clause, up to white space. -/
  head : List Char
  /-- White space, or nothing. -/
  blanks : List Char
  mark : Spelling "DEFINER="
  account : List Char
  beforeSql : Gap
  sql : Spelling "SQL"
  beforeSecurity : Gap
  security : Spelling "SECURITY"
  beforeWord : Gap
  /-- Whose rights count, such as `INVOKER`. -/
  word : List Char
  beforeView : Gap
  view : Spelling "VIEW"
  /-- What follows the word `VIEW`. -/
  rest : List Char
  head_free : ¬Mentions "DEFINER=" head
  head_end : ∀ c ∈ head.getLast?, isBlank c = false
  isBlanks : IsBlanks blanks
  account_ne : account ≠ []
  account_visible : ∀ c ∈ account, isBlank c = false
  word_ne : word ≠ []
  isWord_word : ∀ c ∈ word, isWord c = true
  rest_ends : ∀ c ∈ rest.head?, isWord c = false

namespace ViewText

open ViewDefinition

variable (t : ViewText)

/-- What the view is, from the word `VIEW` on. -/
def body : List Char := t.view ++ t.rest

/-- What follows the account in the clause. -/
def characteristic : List Char :=
  t.beforeSql ++ (t.sql ++ (t.beforeSecurity ++ (t.security ++ (t.beforeWord ++ t.word))))

/-- The clause, from its mark to the word that says whose rights count. -/
def clause : List Char := t.mark ++ (t.account ++ t.characteristic)

/-- The statement as it is written. -/
def text : String :=
  String.ofList (t.head ++ t.blanks ++ t.clause ++ t.beforeView ++ t.body)

/-- The parts of the statement. -/
def definition : ViewDefinition where
  head := String.ofList t.head
  definer := String.ofList t.clause
  body := String.ofList t.body

theorem visible_of_spelling {keyword : String} {letter : Char} {letters : List Char}
    (k : Spelling keyword) (first : keyword.toList = letter :: letters)
    (visible : isBlank letter = false) (s : List Char) : Visible (k ++ s) := by
  obtain ⟨c, rest, same, hc⟩ := k.2.exists_cons first visible
  exact Visible.append ⟨c, rest, same, hc⟩ s

theorem visible_word (s : List Char) : Visible (t.word ++ s) := by
  obtain ⟨c, rest, same⟩ := List.exists_cons_of_ne_nil t.word_ne
  have word : isWord c = true := t.isWord_word c (same ▸ List.mem_cons_self)
  refine Visible.append ⟨c, rest, same, ?_⟩ s
  by_contra blank
  rw [isWord_of_isBlank (by rwa [Bool.not_eq_false] at blank)] at word
  cases word

theorem takeKeyword_spelling {keyword : String} (k : Spelling keyword) (s : List Char) :
    takeKeyword keyword.toList (k ++ s) = some s :=
  takeKeyword_iff.2 ⟨k, k.2, rfl⟩

theorem takeBlanks_gap (g : Gap) {s : List Char} (h : Visible s) : takeBlanks (g ++ s) = some s :=
  takeBlanks_of_visible g.2.1 g.2.2 h

/-- A word ends where white space begins. -/
theorem span_word (g : Gap) (s : List Char) : (t.word ++ (g ++ s)).takeWhile isWord = t.word ∧
    (t.word ++ (g ++ s)).dropWhile isWord = g ++ s := by
  obtain ⟨c, rest, same⟩ := List.exists_cons_of_ne_nil g.2.2
  have other : ¬isWord c = true := by
    rw [isWord_of_isBlank (g.2.1 c (same ▸ List.mem_cons_self))]
    decide
  rw [same]
  constructor
  · rw [List.takeWhile_append_of_pos t.isWord_word, List.cons_append,
      List.takeWhile_cons_of_neg other, List.append_nil]
  · rw [List.dropWhile_append_of_pos t.isWord_word, List.cons_append,
      List.dropWhile_cons_of_neg other]

theorem takeBody_body : takeBody t.body = some t.body := by
  have ends : endsWord t.rest = true := by
    cases same : t.rest with
    | nil => rfl
    | cons c rest =>
      have first := t.rest_ends c (by rw [same]; rfl)
      rw [endsWord, first]
      rfl
  have view : takeKeyword "VIEW".toList t.body = some t.rest := takeKeyword_spelling t.view t.rest
  rw [takeBody, view, Option.bind_eq_bind, Option.bind_some, if_pos ends]

/-- The end of the clause is found where the account ends. -/
theorem takeSecurity_characteristic : takeSecurity (t.characteristic ++ (t.beforeView ++ t.body)) =
    some (t.beforeView ++ t.body, t.body) := by
  have body : Visible t.body := visible_of_spelling t.view rfl (by decide) t.rest
  obtain ⟨taken, dropped⟩ := t.span_word t.beforeView t.body
  have word : ¬((t.word ++ (t.beforeView ++ t.body)).takeWhile isWord).isEmpty = true := by
    rw [taken, List.isEmpty_iff]
    exact t.word_ne
  have gap₁ := takeBlanks_gap t.beforeSql (visible_of_spelling t.sql rfl (by decide)
    (t.beforeSecurity ++ (t.security ++ (t.beforeWord ++ (t.word ++ (t.beforeView ++ t.body))))))
  have gap₂ := takeBlanks_gap t.beforeSecurity (visible_of_spelling t.security rfl (by decide)
    (t.beforeWord ++ (t.word ++ (t.beforeView ++ t.body))))
  have gap₃ := takeBlanks_gap t.beforeWord (t.visible_word (t.beforeView ++ t.body))
  have gap₄ := takeBlanks_gap t.beforeView body
  unfold takeSecurity characteristic
  simp only [List.append_assoc, Option.bind_eq_bind, gap₁, gap₂, gap₃, takeKeyword_spelling,
    Option.bind_some]
  rw [if_neg word, dropped, gap₄, Option.bind_some, takeBody_body]
  rfl

/-- The clause does not end within the account, which has no white space. -/
theorem findFirst_takeSecurity :
    findFirst takeSecurity [] (t.account ++ (t.characteristic ++ (t.beforeView ++ t.body))) =
      some (t.account.reverse ++ [], t.characteristic ++ (t.beforeView ++ t.body),
        t.beforeView ++ t.body, t.body) := by
  refine findFirst_append t.takeSecurity_characteristic (fun r hr ne => ?_) []
  obtain ⟨c, rest, rfl⟩ := List.exists_cons_of_ne_nil ne
  have visible := t.account_visible c (hr.subset List.mem_cons_self)
  rw [takeSecurity, List.cons_append, takeBlanks, visible]
  rfl

/-- The mark is found behind the head, in which it does not stand. -/
theorem findFirst_mark (s : List Char) :
    findFirst (takeKeyword "DEFINER=".toList) [] (t.head ++ t.blanks ++ (t.mark ++ s)) =
      some ((t.head ++ t.blanks).reverse ++ [], t.mark ++ s, s) := by
  refine findFirst_append (takeKeyword_spelling t.mark s)
    (fun r hr ne => takeKeyword_eq_none ?_) []
  rintro ⟨k, rest, hk, same⟩
  have within : k <+: r := prefix_of_borderless (by decide) t.mark.2 hk ne same
  have visible : ∀ c ∈ k, isBlank c = false := not_isBlank_of_spells hk (by decide)
  have some : k ≠ [] := by
    rintro rfl
    cases hk
  have mention : k <:+: t.head :=
    infix_of_infix_blanks some visible t.isBlanks (within.isInfix.trans hr.isInfix)
  exact t.head_free ⟨k, mention, hk⟩

theorem dropWhile_head :
    (((t.head ++ t.blanks).reverse ++ []).dropWhile isBlank).reverse = t.head := by
  have blanks : ∀ c ∈ t.blanks.reverse, isBlank c = true :=
    fun c hc => t.isBlanks c (List.mem_reverse.1 hc)
  rw [List.append_nil, List.reverse_append, List.dropWhile_append_of_pos blanks]
  rcases List.eq_nil_or_concat t.head with same | ⟨front, c, same⟩
  · rw [same]
    rfl
  · have visible : ¬isBlank c = true := by
      rw [t.head_end c (by rw [same, List.concat_eq_append, List.getLast?_concat]; rfl)]
      decide
    rw [same, List.concat_eq_append, List.reverse_concat, List.dropWhile_cons_of_neg visible,
      List.reverse_cons, List.reverse_reverse]

/-- A statement with a clause is cut around it. -/
theorem split_text : split t.text = some t.definition := by
  have whole : t.text.toList = t.head ++ t.blanks ++
      (t.mark ++ (t.account ++ (t.characteristic ++ (t.beforeView ++ t.body)))) := by
    rw [text, clause, String.toList_ofList]
    simp only [List.append_assoc]
  have clause_eq : t.mark ++ (t.account ++ (t.characteristic ++ (t.beforeView ++ t.body))) =
      t.clause ++ (t.beforeView ++ t.body) := by
    rw [clause]
    simp only [List.append_assoc]
  have cut : (t.clause ++ (t.beforeView ++ t.body)).take
      ((t.clause ++ (t.beforeView ++ t.body)).length - (t.beforeView ++ t.body).length) =
        t.clause := by
    rw [List.length_append, Nat.add_sub_cancel, List.take_left]
  unfold split
  rw [whole, findFirst_mark]
  simp only [Option.bind_eq_bind, Option.bind_some, findFirst_takeSecurity, dropWhile_head,
    clause_eq, cut]
  rfl

end ViewText

/-- A text that begins with a keyword is not empty. -/
theorem Text.Begins.ne_empty {keyword s : String} (h : Begins keyword s.toList)
    (ne : keyword ≠ "") : s ≠ "" := by
  rintro rfl
  obtain ⟨k, rest, hk, same⟩ := h
  rw [(List.append_eq_nil_iff.1 same.symm).1] at hk
  exact ne (String.toList_eq_nil_iff.1 hk.symm)

/-- The parts of a definition stand in comments of their own. -/
theorem Section.createView_of_definition {view : View} {d : ViewDefinition}
    (same : view.definition = some d) (ne : d.definer ≠ "") :
    createView view = [
      "/*!50001 " ++ d.head ++ " */",
      "/*!50013 " ++ d.definer ++ " */",
      "/*!50001 " ++ d.body ++ " */;"] := by
  have some : d.definer.isEmpty = false := by
    rw [← Bool.not_eq_true, String.isEmpty_iff]
    exact ne
  simp only [createView, same, some, versioned_semicolon, Bool.false_eq_true, if_false]
  rfl

/-- A view that is cut is dumped in three comments, which hold its statement up to the white space
between them.  A statement without a definer clause is not cut, and one with a clause is cut around
it, whatever its body holds. -/
theorem split_keeps_definition :
    (∀ sql d, ViewDefinition.split sql = some d → ∃ w₁ w₂ : String,
      sql = d.head ++ w₁ ++ d.definer ++ w₂ ++ d.body ∧ IsBlanks w₁.toList ∧ IsBlanks w₂.toList ∧
      w₂ ≠ "" ∧ (∀ c ∈ d.head.toList.getLast?, isBlank c = false) ∧
      Begins "DEFINER=" d.definer.toList ∧ Begins "VIEW" d.body.toList ∧
      ∀ style view, view.definition = some d → ∃ before after : Lines,
        Section.viewFinal style view = before ++ [
          "/*!50001 " ++ d.head ++ " */",
          "/*!50013 " ++ d.definer ++ " */",
          "/*!50001 " ++ d.body ++ " */;"] ++ after) ∧
    (∀ sql, ¬Mentions "DEFINER=" sql.toList → ViewDefinition.split sql = none) ∧
    ∀ t : ViewText, ViewDefinition.split t.text = some t.definition := by
  refine ⟨fun sql d h => ?_, fun sql => ViewDefinition.split_eq_none, ViewText.split_text⟩
  obtain ⟨w₁, w₂, hw₁, hw₂, ne, whole, trimmed, mark, view⟩ := ViewDefinition.exists_of_split h
  refine ⟨w₁, w₂, whole, hw₁, hw₂, ne, trimmed, mark, view, fun style view same => ?_⟩
  have comments := Section.createView_of_definition same (mark.ne_empty (by decide))
  cases style with
  | full => exact ⟨_, _, by rw [Section.viewFinal, comments]⟩
  | compact => exact ⟨[_], [], by rw [Section.viewFinal, comments]; rfl⟩

/-- The marks and keywords in the body are passed over, and so is a keyword in the account. -/
theorem split_keeps_definition_of_quoted_clause :
    (ViewDefinition.split
        "CREATE  definer=SQL@% \tSQL SECURITY INVOKER\nVIEW `v` AS SELECT ' DEFINER=a SQL SECURITY b VIEW '" =
      some ⟨"CREATE", "definer=SQL@% \tSQL SECURITY INVOKER",
        "VIEW `v` AS SELECT ' DEFINER=a SQL SECURITY b VIEW '"⟩) ∧
    ViewDefinition.split "CREATE VIEW `v` AS SELECT 1" = none := by
  obtain ⟨-, uncut, cut⟩ := split_keeps_definition
  have quoted := cut {
    head := "CREATE".toList
    blanks := "  ".toList
    mark := ⟨"definer=".toList, by decide⟩
    account := "SQL@%".toList
    beforeSql := ⟨" \t".toList, by decide⟩
    sql := ⟨"SQL".toList, by decide⟩
    beforeSecurity := ⟨" ".toList, by decide⟩
    security := ⟨"SECURITY".toList, by decide⟩
    beforeWord := ⟨" ".toList, by decide⟩
    word := "INVOKER".toList
    beforeView := ⟨"\n".toList, by decide⟩
    view := ⟨"VIEW".toList, by decide⟩
    rest := " `v` AS SELECT ' DEFINER=a SQL SECURITY b VIEW '".toList
    head_free := by decide
    head_end := by decide
    isBlanks := by decide
    account_ne := by decide
    account_visible := by decide
    word_ne := by decide
    isWord_word := by decide
    rest_ends := by decide }
  exact ⟨quoted, uncut "CREATE VIEW `v` AS SELECT 1" (by decide)⟩

end LogicalBackup
