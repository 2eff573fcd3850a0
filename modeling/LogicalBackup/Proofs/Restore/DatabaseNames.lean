import LogicalBackup.Proofs.Restore.Renaming

/-!
# The one name that a restore replaces

A statement that names a database has keywords in letters of either case, white space and comments
around the name, and a semicolon at its end (`NamesDatabase`).  Only such statements are cut
(`Preamble.locate_sound`), and with just two backticks they are cut at the name
(`Preamble.locate_complete`).  So a mapping puts one name in the place of another, or leaves the
statement as it is (`remap_replaces_one_name`).
-/

namespace LogicalBackup

namespace Preamble

open Text

variable {s : List Char}

/-! ## What stands around a name -/

/-- A keyword in letters of either case. -/
def Spells (keyword : String) (s : List Char) : Prop := s.map foldCase = keyword.toList

instance (keyword : String) (s : List Char) : Decidable (Spells keyword s) :=
  inferInstanceAs (Decidable (_ = _))

/-- A comment within one line. -/
def IsComment (s : List Char) : Prop := ∃ x, '\n' ∉ x ∧ s = '/' :: '*' :: (x ++ ['*', '/'])

/-- White space, in which a comment may stand. -/
def IsGap (s : List Char) : Prop :=
  IsBlanks s ∨ ∃ w c w', IsBlanks w ∧ IsComment c ∧ IsBlanks w' ∧ s = w ++ c ++ w'

/-- What stands before the name in a statement that creates a database. -/
def OpensCreate (s : List Char) : Prop :=
  ∃ create blanks database gap, Spells "CREATE" create ∧ IsBlanks blanks ∧ blanks ≠ [] ∧
    Spells "DATABASE" database ∧ IsGap gap ∧
    s = create ++ blanks ++ database ++ gap ++ [backtick]

/-- What stands before the name in a statement that chooses a database. -/
def OpensUse (s : List Char) : Prop :=
  ∃ use blanks, Spells "USE" use ∧ IsBlanks blanks ∧ s = use ++ blanks ++ [backtick]

/-- What stands after the name in a statement that creates a database. -/
def ClosesCreate (s : List Char) : Prop := ∃ gap, IsGap gap ∧ s = backtick :: (gap ++ [';'])

/-- What stands after the name in a statement that chooses a database. -/
def ClosesUse (s : List Char) : Prop :=
  ∃ blanks, IsBlanks blanks ∧ s = backtick :: (blanks ++ [';'])

/-- A name stands between what opens and what closes a statement that names a database. -/
structure Names (p : Preamble) : Prop where
  around : OpensCreate p.before ∧ ClosesCreate p.after ∨ OpensUse p.before ∧ ClosesUse p.after
  name_ne : p.name ≠ []
  not_blank : ∀ c ∈ p.name, isBlank c = false

/-- A statement that names a database ends in a semicolon. -/
theorem Names.exists_after_eq {p : Preamble} (h : p.Names) :
    ∃ e, p.after = backtick :: (e ++ [';']) := by
  rcases h.around with ⟨-, e, -, same⟩ | ⟨-, e, -, same⟩
  · exact ⟨e, same⟩
  · exact ⟨e, same⟩

/-- The statement that is cut. -/
def text (p : Preamble) : List Char := p.before ++ p.name ++ p.after

theorem isCreateEnd_iff : isCreateEnd s = true ↔ ∃ gap, IsGap gap ∧ s = gap ++ [';'] := by
  rw [isCreateEnd, Bool.or_eq_true]
  constructor
  · rintro (h | h)
    · obtain ⟨blanks, hb, rfl⟩ := isEnd_iff.1 h
      exact ⟨blanks, .inl hb, rfl⟩
    · obtain ⟨x, blanks, hx, hb, same⟩ := isCommentEnd_iff.1 h
      obtain ⟨w, hw, hs⟩ := exists_blanks s
      refine ⟨_, .inr ⟨w, _, blanks, hw, ⟨x, hx, rfl⟩, hb, rfl⟩, ?_⟩
      rw [hs, same]
      simp
  · rintro ⟨gap, hb | ⟨w, c, w', hw, ⟨x, hx, rfl⟩, hw', rfl⟩, rfl⟩
    · exact .inl (isEnd_iff.2 ⟨gap, hb, rfl⟩)
    · refine .inr (isCommentEnd_iff.2 ⟨x, w', hx, hw', ?_⟩)
      rw [List.append_assoc, List.append_assoc, List.cons_append,
        hw.dropBlank_append (by decide)]
      simp

/-! ## Keywords -/

theorem takeKeyword_iff {word rest : List Char} :
    takeKeyword word s = some rest ↔ ∃ k, k.map foldCase = word ∧ s = k ++ rest := by
  induction word generalizing s with
  | nil =>
    rw [takeKeyword, Option.some.injEq]
    exact ⟨fun h => ⟨[], rfl, h⟩, fun ⟨k, hk, h⟩ => by rw [h, List.map_eq_nil_iff.1 hk]; rfl⟩
  | cons letter word ih =>
    cases s with
    | nil =>
      rw [takeKeyword]
      refine iff_of_false (by simp) ?_
      rintro ⟨k, hk, h⟩
      rw [(List.append_eq_nil_iff.1 h.symm).1] at hk
      cases hk
    | cons c s =>
      rw [takeKeyword]
      split_ifs with hc
      · rw [ih]
        constructor
        · rintro ⟨k, rfl, rfl⟩
          exact ⟨c :: k, by rw [List.map_cons, hc], rfl⟩
        · rintro ⟨k, hk, h⟩
          cases k with
          | nil => cases hk
          | cons d k =>
            obtain ⟨-, rfl⟩ := List.cons.inj h
            exact ⟨k, (List.cons.inj hk).2, rfl⟩
      · refine iff_of_false (by simp) ?_
        rintro ⟨k, hk, h⟩
        cases k with
        | nil => cases hk
        | cons d k =>
          obtain ⟨rfl, -⟩ := List.cons.inj h
          exact hc (List.cons.inj hk).1

theorem passKeyword_iff {keyword : String} {before before' rest : List Char} :
    passKeyword keyword before s = some (before', rest) ↔
      ∃ k, Spells keyword k ∧ s = k ++ rest ∧ before' = k.reverse ++ before := by
  have length {k : List Char} (hk : Spells keyword k) : keyword.length = k.length := by
    rw [← String.length_toList, ← hk, List.length_map]
  rw [passKeyword, Option.map_eq_some_iff]
  constructor
  · rintro ⟨rest', taken, same⟩
    obtain ⟨k, hk, rfl⟩ := takeKeyword_iff.1 taken
    obtain ⟨rfl, rfl⟩ := Prod.mk.inj same
    rw [length hk, List.take_left]
    exact ⟨k, hk, rfl, rfl⟩
  · rintro ⟨k, hk, rfl, rfl⟩
    refine ⟨rest, takeKeyword_iff.2 ⟨k, hk, rfl⟩, ?_⟩
    rw [length hk, List.take_left]

theorem foldCase_of_isBlank {c : Char} (h : isBlank c = true) : foldCase c = c := by
  have other : ¬(97 ≤ c.toNat ∧ c.toNat ≤ 122) ∧ c.toNat ≠ 0x17f := by
    simp only [isBlank, Bool.or_eq_true, Bool.and_eq_true, decide_eq_true_eq, beq_iff_eq] at h
    omega
  have lower : ¬('a'.val ≤ c.val ∧ c.val ≤ 'z'.val) := other.1
  rw [foldCase, if_neg other.2]
  exact dif_neg lower

/-- White space ends where a keyword begins. -/
theorem Spells.exists_cons {keyword : String} {k : List Char} (h : Spells keyword k)
    {letter : Char} {letters : List Char} (first : keyword.toList = letter :: letters)
    (visible : isBlank letter = false) : ∃ c k', k = c :: k' ∧ isBlank c = false := by
  rw [Spells, first] at h
  obtain ⟨c, k, rfl, same, -⟩ := List.map_eq_cons_iff.1 h
  refine ⟨c, k, rfl, ?_⟩
  by_contra blank
  rw [Bool.not_eq_false] at blank
  rw [foldCase_of_isBlank blank] at same
  rw [same, visible] at blank
  cases blank

theorem takeBlanks_append {blanks : List Char} (h : IsBlanks blanks) (ne : blanks ≠ [])
    {c : Char} (hc : isBlank c = false) (s : List Char) :
    takeBlanks (blanks ++ c :: s) = some (c :: s) := by
  have all := h.dropBlank_append hc s
  cases blanks with
  | nil => exact absurd rfl ne
  | cons d blanks =>
    have first : isBlank d = true := h d List.mem_cons_self
    rw [List.cons_append, dropBlank, List.dropWhile_cons_of_pos first] at all
    rw [List.cons_append, takeBlanks, if_pos first, dropBlank, all]

theorem takeWhile_ne_nil_of_takeBlanks {rest : List Char} (h : takeBlanks s = some rest) :
    s.takeWhile isBlank ≠ [] := by
  cases s with
  | nil => cases h
  | cons c s =>
    rw [takeBlanks] at h
    split_ifs at h with blank
    rw [List.takeWhile_cons_of_pos blank]
    exact List.cons_ne_nil c _

/-! ## Where statements are cut -/

/-- What is cut after the keywords of a statement that creates a database. -/
def takeCreated (before s : List Char) : Option Preamble :=
  match passBlanks before s with
  | (before, '/' :: '*' :: s) => takeAfterComment isCreateEnd ('*' :: '/' :: before) s
  | (before, s) => takeQuoted isCreateEnd before s

theorem takeCreated_sound {before : List Char} {p : Preamble} (h : takeCreated before s = some p) :
    ∃ gap name e, IsGap gap ∧ s = gap ++ backtick :: (name ++ backtick :: e) ∧
      p = ⟨before.reverse ++ gap ++ [backtick], name, backtick :: e⟩ ∧ name ≠ [] ∧
      (∀ c ∈ name, isBlank c = false) ∧ isCreateEnd e = true := by
  have whole := takeWhile_append_dropBlank s
  have hw := isBlanks_takeWhile s
  rw [takeCreated, passBlanks] at h
  generalize s.takeWhile isBlank = w at whole hw h
  split at h
  · next before' s' same =>
    obtain ⟨rfl, hs⟩ := Prod.mk.inj same
    obtain ⟨x, blanks, name, e, rfl, rfl, hx, hb, facts⟩ := takeAfterComment_sound h
    refine ⟨w ++ ('/' :: '*' :: (x ++ ['*', '/'])) ++ blanks, name, e,
      .inr ⟨w, _, blanks, hw, ⟨x, hx, rfl⟩, hb, rfl⟩, ?_, ?_, facts⟩
    · rw [← whole, hs]
      simp
    · simp
  · next before' s' _ same =>
    obtain ⟨rfl, hs⟩ := Prod.mk.inj same
    obtain ⟨name, e, rfl, rfl, facts⟩ := takeQuoted_sound h
    refine ⟨w, name, e, .inl hw, ?_, ?_, facts⟩
    · rw [← whole, hs]
    · simp

theorem takeCreated_complete {gap name e : List Char} (hgap : IsGap gap) (ne : name ≠ [])
    (hn : ∀ c ∈ name, isBlank c = false) (plain : backtick ∉ name) (he : isCreateEnd e = true)
    (hbt : backtick ∉ e) (before : List Char) :
    takeCreated before (gap ++ backtick :: (name ++ backtick :: e)) =
      some ⟨before.reverse ++ gap ++ [backtick], name, backtick :: e⟩ := by
  rw [takeCreated, passBlanks]
  rcases hgap with hw | ⟨w, c, w', hw, ⟨x, hx, rfl⟩, hw', rfl⟩
  · have mark : isBlank backtick = false := by decide
    rw [hw.takeWhile_append mark, hw.dropBlank_append mark]
    refine (takeQuoted_complete ne hn he hbt (gap.reverse ++ before)).trans ?_
    simp
  · have slash : isBlank '/' = false := by decide
    rw [List.append_assoc, List.append_assoc, List.cons_append, hw.takeWhile_append slash,
      hw.dropBlank_append slash]
    have taken := takeAfterComment_comment hx hw' ne hn plain he hbt
      ('*' :: '/' :: (w.reverse ++ before))
    simp only [List.cons_append, List.append_assoc, List.nil_append] at taken ⊢
    rw [taken]
    simp

theorem locateCreate_sound {p : Preamble} (h : locateCreate s = some p) :
    OpensCreate p.before ∧ ClosesCreate p.after ∧ p.name ≠ [] ∧
      (∀ c ∈ p.name, isBlank c = false) ∧ s = p.text := by
  simp only [locateCreate, Option.bind_eq_bind, Option.bind_eq_some_iff] at h
  obtain ⟨⟨before, s₁⟩, hcreate, rest, blank, ⟨before', s₂⟩, hdatabase, h⟩ := h
  obtain ⟨create, hc, rfl, rfl⟩ := passKeyword_iff.1 hcreate
  obtain ⟨database, hd, hs₁, hbefore⟩ := passKeyword_iff.1 hdatabase
  have ne := takeWhile_ne_nil_of_takeBlanks blank
  have whole := takeWhile_append_dropBlank s₁
  have hb := isBlanks_takeWhile s₁
  dsimp only [passBlanks] at hs₁ hbefore ne whole hb
  generalize s₁.takeWhile isBlank = blanks at ne whole hb hbefore
  obtain ⟨gap, name, e, hgap, rfl, rfl, name_ne, not_blank, he⟩ := takeCreated_sound h
  obtain ⟨gap', hgap', rfl⟩ := isCreateEnd_iff.1 he
  refine ⟨⟨create, blanks, database, gap, hc, hb, ne, hd, hgap, ?_⟩, ⟨gap', hgap', rfl⟩, name_ne,
    not_blank, ?_⟩
  · simp [hbefore]
  · rw [← whole, hs₁]
    simp [text, hbefore]

theorem locateUse_sound {p : Preamble} (h : locateUse s = some p) :
    OpensUse p.before ∧ ClosesUse p.after ∧ p.name ≠ [] ∧ (∀ c ∈ p.name, isBlank c = false) ∧
      s = p.text := by
  simp only [locateUse, Option.bind_eq_bind, Option.bind_eq_some_iff] at h
  obtain ⟨⟨before, s₁⟩, huse, h⟩ := h
  obtain ⟨use, hu, rfl, rfl⟩ := passKeyword_iff.1 huse
  have whole := takeWhile_append_dropBlank s₁
  have hb := isBlanks_takeWhile s₁
  dsimp only [passBlanks] at h whole hb
  generalize s₁.takeWhile isBlank = blanks at whole hb h
  obtain ⟨name, e, hs, rfl, name_ne, not_blank, he⟩ := takeQuoted_sound h
  obtain ⟨blanks', hb', rfl⟩ := isEnd_iff.1 he
  refine ⟨⟨use, blanks, hu, hb, ?_⟩, ⟨blanks', hb', rfl⟩, name_ne, not_blank, ?_⟩
  · simp
  · rw [← whole, hs]
    simp [text]

/-- A statement is cut only if it names a database, and it is cut around the name. -/
theorem locate_sound {p : Preamble} (h : locate s = some p) : p.Names ∧ s = p.text := by
  unfold locate at h
  split at h
  · next found create =>
    cases h
    obtain ⟨opens, closes, ne, not_blank, same⟩ := locateCreate_sound create
    exact ⟨⟨.inl ⟨opens, closes⟩, ne, not_blank⟩, same⟩
  · obtain ⟨opens, closes, ne, not_blank, same⟩ := locateUse_sound h
    exact ⟨⟨.inr ⟨opens, closes⟩, ne, not_blank⟩, same⟩

theorem locateCreate_complete {p : Preamble} (opens : OpensCreate p.before)
    (closes : ClosesCreate p.after) (ne : p.name ≠ []) (hn : ∀ c ∈ p.name, isBlank c = false)
    (plain : backtick ∉ p.name) (hbt : backtick ∉ p.after.tail) : locateCreate p.text = some p := by
  obtain ⟨before, name, after⟩ := p
  obtain ⟨create, blanks, database, gap, hc, hb, hblanks, hd, hgap, rfl⟩ := opens
  obtain ⟨gap', hgap', rfl⟩ := closes
  obtain ⟨c, k, rfl, hk⟩ := hd.exists_cons rfl (by decide)
  have taken := takeCreated_complete hgap ne hn plain (isCreateEnd_iff.2 ⟨gap', hgap', rfl⟩) hbt
    ((c :: k).reverse ++ (blanks.reverse ++ create.reverse))
  generalize rest : gap ++ backtick :: (name ++ backtick :: (gap' ++ [';'])) = s at taken
  have whole : text ⟨create ++ blanks ++ (c :: k) ++ gap ++ [backtick], name,
      backtick :: (gap' ++ [';'])⟩ = create ++ (blanks ++ (c :: k ++ s)) := by
    rw [← rest]
    simp [text]
  have hcreate : passKeyword "CREATE" [] (create ++ (blanks ++ (c :: k ++ s))) =
      some (create.reverse, blanks ++ (c :: k ++ s)) :=
    passKeyword_iff.2 ⟨create, hc, rfl, (List.append_nil _).symm⟩
  have blank : takeBlanks (blanks ++ (c :: k ++ s)) = some (c :: k ++ s) :=
    takeBlanks_append hb hblanks hk (k ++ s)
  have passed : passBlanks create.reverse (blanks ++ (c :: k ++ s)) =
      (blanks.reverse ++ create.reverse, c :: k ++ s) := by
    rw [passBlanks, List.cons_append, hb.takeWhile_append hk, hb.dropBlank_append hk]
  have hdatabase : passKeyword "DATABASE" (blanks.reverse ++ create.reverse) (c :: k ++ s) =
      some ((c :: k).reverse ++ (blanks.reverse ++ create.reverse), s) :=
    passKeyword_iff.2 ⟨c :: k, hd, rfl, rfl⟩
  rw [whole]
  simp only [locateCreate, Option.bind_eq_bind, hcreate, Option.bind_some, blank, passed, hdatabase]
  refine taken.trans ?_
  simp

theorem locateUse_complete {p : Preamble} (opens : OpensUse p.before) (closes : ClosesUse p.after)
    (ne : p.name ≠ []) (hn : ∀ c ∈ p.name, isBlank c = false) (hbt : backtick ∉ p.after.tail) :
    locateUse p.text = some p := by
  obtain ⟨before, name, after⟩ := p
  obtain ⟨use, blanks, hu, hb, rfl⟩ := opens
  obtain ⟨blanks', hb', rfl⟩ := closes
  have mark : isBlank backtick = false := by decide
  have taken := takeQuoted_complete ne hn (isEnd_iff.2 ⟨blanks', hb', rfl⟩) hbt
    (blanks.reverse ++ use.reverse)
  have whole : text ⟨use ++ blanks ++ [backtick], name, backtick :: (blanks' ++ [';'])⟩ =
      use ++ (blanks ++ backtick :: (name ++ backtick :: (blanks' ++ [';']))) := by
    simp [text]
  generalize name ++ backtick :: (blanks' ++ [';']) = s at taken whole
  have huse : passKeyword "USE" [] (use ++ (blanks ++ backtick :: s)) =
      some (use.reverse, blanks ++ backtick :: s) :=
    passKeyword_iff.2 ⟨use, hu, rfl, (List.append_nil _).symm⟩
  have passed : passBlanks use.reverse (blanks ++ backtick :: s) =
      (blanks.reverse ++ use.reverse, backtick :: s) := by
    rw [passBlanks, hb.takeWhile_append mark, hb.dropBlank_append mark]
  rw [whole]
  simp only [locateUse, Option.bind_eq_bind, huse, Option.bind_some, passed]
  refine taken.trans ?_
  simp

/-- A statement that names a database is cut at the name between its two backticks. -/
theorem locate_complete {p : Preamble} (h : p.Names) (two : p.text.count backtick = 2) :
    locate p.text = some p := by
  obtain ⟨around, ne, hn⟩ := h
  have marked {b e : List Char} (hb : p.before = b ++ [backtick]) (he : p.after = backtick :: e) :
      backtick ∉ p.name ∧ backtick ∉ p.after.tail := by
    rw [text, hb, he] at two
    rw [he, List.tail_cons, ← List.count_eq_zero, ← List.count_eq_zero]
    simp only [List.count_append, List.count_cons, List.count_nil, BEq.rfl, if_true] at two
    omega
  rcases around with ⟨opens, closes⟩ | ⟨opens, closes⟩
  · obtain ⟨_, _, _, _, -, -, -, -, -, hb⟩ := id opens
    obtain ⟨_, -, he⟩ := id closes
    obtain ⟨plain, hbt⟩ := marked hb he
    rw [locate, locateCreate_complete opens closes ne hn plain hbt]
  · obtain ⟨use, blanks, hu, -, hb⟩ := id opens
    obtain ⟨_, -, he⟩ := id closes
    obtain ⟨-, hbt⟩ := marked hb he
    have found := locateUse_complete opens closes ne hn hbt
    cases use with
    | nil => cases hu
    | cons c use =>
      have letter : foldCase c = 'U' := (List.cons.inj hu).1
      have create : locateCreate p.text = none := by
        rw [text, hb]
        exact locateCreate_eq_none (by rw [letter]; decide)
      rw [locate, create]
      exact found

end Preamble

/-! ## Statements that are rewritten -/

open Preamble

/-- The statement `pre ++ name ++ post` names a database. -/
def NamesDatabase (pre name post : String) : Prop :=
  Names { before := pre.toList, name := name.toList, after := post.toList }

namespace DatabaseMapping

variable {m : DatabaseMapping} {st : Bytes}

theorem toList_rename (p : Preamble) (name : String) :
    (p.rename name).toList = p.before ++ name.toList ++ p.after := by
  rw [rename, String.toList_ofList]

/-- A statement is rewritten only if it names a database that is renamed. -/
theorem renamed?_sound {out : Bytes} (h : m.renamed? st = some out) :
    ∃ pre name post dest feed, NamesDatabase pre name post ∧ m.get? name = some dest ∧
      (feed = [] ∨ feed = [Byte.lineFeed]) ∧ st = utf8 (pre ++ name ++ post) ++ feed ∧
      out = utf8 (pre ++ dest ++ post) ++ feed := by
  unfold renamed? at h
  split_ifs at h
  simp only [Option.bind_eq_bind, Option.bind_eq_some_iff] at h
  obtain ⟨text, htext, p, found, dest, hdest, same⟩ := h
  obtain ⟨names, whole⟩ := locate_sound found
  refine ⟨String.ofList p.before, String.ofList p.name, String.ofList p.after, dest,
    (cutEnd st).2, ?_, hdest, cutEnd_snd st, ?_, ?_⟩
  · simpa only [NamesDatabase, String.toList_ofList] using names
  · have body : text = String.ofList p.before ++ String.ofList p.name ++ String.ofList p.after := by
      rw [← String.toList_inj, whole]
      simp [Preamble.text]
    rw [← body, utf8_of_text? htext, cutEnd_append]
  · have renamed : p.rename dest = String.ofList p.before ++ dest ++ String.ofList p.after := by
      rw [← String.toList_inj, toList_rename]
      simp
    rw [← renamed]
    exact (Option.some.inj same).symm

/-- A statement that names a database between its only two backticks is rewritten. -/
theorem renamed?_complete {pre name post dest : String} {feed : Bytes}
    (h : NamesDatabase pre name post) (two : (pre ++ name ++ post).toList.count backtick = 2)
    (hdest : m.get? name = some dest) (hfeed : feed = [] ∨ feed = [Byte.lineFeed]) :
    m.renamed? (utf8 (pre ++ name ++ post) ++ feed) =
      some (utf8 (pre ++ dest ++ post) ++ feed) := by
  have found : locate (pre ++ name ++ post).toList =
      some ⟨pre.toList, name.toList, post.toList⟩ := by
    have whole : (pre ++ name ++ post).toList =
        Preamble.text ⟨pre.toList, name.toList, post.toList⟩ := by
      simp [Preamble.text]
    rw [whole] at two ⊢
    exact locate_complete h two
  have cut : cutEnd (utf8 (pre ++ name ++ post) ++ feed) = (utf8 (pre ++ name ++ post), feed) := by
    rcases hfeed with rfl | rfl
    · have last : (utf8 (pre ++ name ++ post)).getLast? = some (asciiByte ';') := by
        obtain ⟨e, he⟩ := h.exists_after_eq
        dsimp only at he
        rw [getLast?_utf8_eq_iff (by decide), String.toList_append, he, ← List.cons_append,
          ← List.append_assoc, List.getLast?_concat]
      rw [List.append_nil, cutEnd, if_neg (by rw [last]; decide)]
    · simp [cutEnd]
  have nonempty : m.isEmpty = false := by
    cases hm : m.names with
    | nil => simp [get?, hm] at hdest
    | cons => simp [isEmpty, hm]
  have renamed : rename ⟨pre.toList, name.toList, post.toList⟩ dest = pre ++ dest ++ post := by
    rw [← String.toList_inj, toList_rename]
    simp
  unfold renamed?
  rw [nonempty, cut]
  dsimp only
  rw [text?_utf8]
  simp only [Bool.false_eq_true, if_false, Option.bind_eq_bind, Option.bind_some, found,
    String.ofList_toList, hdest, renamed]
  rfl

/-- A statement that neither keyword opens is left as it is. -/
theorem remap_of_not_opened
    (h : ∀ pre : String, OpensCreate pre.toList ∨ OpensUse pre.toList → ¬utf8 pre <+: st) :
    m.remap st = st := by
  unfold remap
  cases renamed : m.renamed? st with
  | none => rfl
  | some out =>
    obtain ⟨pre, name, post, dest, feed, names, -, -, rfl, -⟩ := renamed?_sound renamed
    refine absurd ?_ (h pre (names.around.imp And.left And.left))
    rw [utf8_append, utf8_append, List.append_assoc, List.append_assoc]
    exact List.prefix_append _ _

theorem remap_of_head {c : Char} (ascii : c.toNat < 128) (hst : st.head? = some (asciiByte c))
    (feed : c ≠ '\n') (hc : Text.foldCase c ≠ 'C') (hu : Text.foldCase c ≠ 'U') :
    m.remap st = st := by
  rw [remap, renamed?_eq_none ascii hst feed hc hu]
  rfl

end DatabaseMapping

/-- A mapping leaves a statement as it is, or replaces one name in a statement that names a
database.  It does the latter if the name stands between the only two backticks of the statement and
is renamed, and the new name is put there as it is, whether or not it is renamed itself. -/
theorem remap_replaces_one_name (m : DatabaseMapping) (st : Bytes) :
    (m.remap st = st ∨ ∃ pre name post dest feed, NamesDatabase pre name post ∧
      m.get? name = some dest ∧ (feed = [] ∨ feed = [Byte.lineFeed]) ∧
      st = utf8 (pre ++ name ++ post) ++ feed ∧
      m.remap st = utf8 (pre ++ dest ++ post) ++ feed) ∧
    ((∀ pre : String, OpensCreate pre.toList ∨ OpensUse pre.toList → ¬utf8 pre <+: st) →
      m.remap st = st) ∧
    (utf8 "INSERT" <+: st ∨ utf8 "--" <+: st → m.remap st = st) ∧
    ∀ pre name post dest feed, NamesDatabase pre name post →
      (pre ++ name ++ post).toList.count backtick = 2 → m.get? name = some dest →
      (feed = [] ∨ feed = [Byte.lineFeed]) → st = utf8 (pre ++ name ++ post) ++ feed →
      m.remap st = utf8 (pre ++ dest ++ post) ++ feed := by
  refine ⟨?_, DatabaseMapping.remap_of_not_opened, ?_, ?_⟩
  · cases renamed : m.renamed? st with
    | none =>
      left
      rw [DatabaseMapping.remap, renamed]
      rfl
    | some out =>
      right
      obtain ⟨pre, name, post, dest, feed, names, hdest, hfeed, same, rfl⟩ :=
        DatabaseMapping.renamed?_sound renamed
      refine ⟨pre, name, post, dest, feed, names, hdest, hfeed, same, ?_⟩
      rw [DatabaseMapping.remap, renamed]
      rfl
  · have insert : utf8 "INSERT" = asciiByte 'I' :: utf8 "NSERT" := by decide
    have dashes : utf8 "--" = asciiByte '-' :: utf8 "-" := by decide
    rintro (⟨rest, rfl⟩ | ⟨rest, rfl⟩)
    · rw [insert]
      exact DatabaseMapping.remap_of_head (by decide) rfl (by decide) (by decide) (by decide)
    · rw [dashes]
      exact DatabaseMapping.remap_of_head (by decide) rfl (by decide) (by decide) (by decide)
  · rintro pre name post dest feed names two hdest hfeed rfl
    rw [DatabaseMapping.remap, DatabaseMapping.renamed?_complete names two hdest hfeed]
    rfl

/-- Two databases exchange their names: no name is replaced twice. -/
theorem remap_exchanges_names :
    let m : DatabaseMapping := { names := [("a", "b"), ("b", "a")] }
    m.remap (utf8 "USE `a`;\n") = utf8 "USE `b`;\n" ∧
      m.remap (utf8 "create database/**/ `b` ;") = utf8 "create database/**/ `a` ;" := by
  intro m
  have use : NamesDatabase "USE `" "a" "`;" :=
    ⟨.inr ⟨⟨"USE".toList, [' '], rfl, by decide, rfl⟩, [], nofun, rfl⟩, by decide, by decide⟩
  have create : NamesDatabase "create database/**/ `" "b" "` ;" :=
    ⟨.inl ⟨⟨"create".toList, [' '], "database".toList, "/**/ ".toList, by decide, by decide,
      by decide, by decide, .inr ⟨[], "/**/".toList, [' '], nofun, ⟨[], nofun, rfl⟩, by decide,
      rfl⟩, rfl⟩, [' '], .inl (by decide), rfl⟩, by decide, by decide⟩
  obtain ⟨-, -, -, first⟩ := remap_replaces_one_name m (utf8 "USE `a`;\n")
  obtain ⟨-, -, -, second⟩ := remap_replaces_one_name m (utf8 "create database/**/ `b` ;")
  exact ⟨first _ _ _ _ [Byte.lineFeed] use (by decide) rfl (.inr rfl) (by decide),
    second _ _ _ _ [] create (by decide) rfl (.inl rfl) (by decide)⟩

end LogicalBackup
