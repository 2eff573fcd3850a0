import LogicalBackup.Proofs.Text.Ascii
import LogicalBackup.Restore.Mapping
import Mathlib.Data.List.Basic
import Mathlib.Tactic.SplitIfs

/-!
# Where a statement names a database

What `Preamble.locate` takes as a name has no white space and is followed by a backtick and an end
(`takeName_sound`), and it reaches as far as it can (`takeName_complete`).  The comment that may
stand before it is passed in the same way (`takeAfterComment_sound`,
`takeAfterComment_complete`).  An end is white space and a semicolon (`isEnd_iff`), before which a
comment may stand (`isCommentEnd_iff`).
-/

namespace LogicalBackup

/-! ## Names between backticks -/

namespace Preamble

open Text

variable {s : List Char}

/-- Two texts that go on with a mark for the last time are cut at it alike. -/
theorem append_cons_inj {a : Char} {p q x y : List Char} (hx : a ∉ x) (hy : a ∉ y)
    (h : p ++ a :: x = q ++ a :: y) : p = q ∧ x = y := by
  rcases List.append_eq_append_iff.1 h with ⟨m, hq, hx'⟩ | ⟨m, hp, hy'⟩
  · cases m with
    | nil => simpa using And.intro hq.symm hx'
    | cons c m =>
      rw [List.cons_append, List.cons.injEq] at hx'
      exact absurd (hx'.2 ▸ by simp : a ∈ x) hx
  · cases m with
    | nil => simpa [eq_comm] using And.intro hp hy'.symm
    | cons c m =>
      rw [List.cons_append, List.cons.injEq] at hy'
      exact absurd (hy'.2 ▸ by simp : a ∈ y) hy

/-- Two texts that come to a mark for the first time are cut at it alike. -/
theorem append_cons_inj_left {a : Char} {p q x y : List Char} (hp : a ∉ p) (hq : a ∉ q)
    (h : p ++ a :: x = q ++ a :: y) : p = q ∧ x = y := by
  have reversed : x.reverse ++ a :: p.reverse = y.reverse ++ a :: q.reverse := by
    simpa using congrArg List.reverse h
  obtain ⟨hx, hp⟩ := append_cons_inj (by simpa using hp) (by simpa using hq) reversed
  exact ⟨List.reverse_inj.1 hp, List.reverse_inj.1 hx⟩

/-- White space. -/
def IsBlanks (s : List Char) : Prop := ∀ c ∈ s, isBlank c = true

instance (s : List Char) : Decidable (IsBlanks s) := inferInstanceAs (Decidable (∀ c ∈ s, _))

theorem isBlanks_takeWhile (s : List Char) : IsBlanks (s.takeWhile isBlank) :=
  List.all_eq_true.1 List.all_takeWhile

theorem takeWhile_append_dropBlank (s : List Char) : s.takeWhile isBlank ++ dropBlank s = s :=
  List.takeWhile_append_dropWhile

theorem exists_blanks (s : List Char) : ∃ blanks, IsBlanks blanks ∧ s = blanks ++ dropBlank s :=
  ⟨s.takeWhile isBlank, isBlanks_takeWhile s, (takeWhile_append_dropBlank s).symm⟩

theorem IsBlanks.dropBlank_append {blanks : List Char} (h : IsBlanks blanks) {c : Char}
    (hc : isBlank c = false) (s : List Char) : dropBlank (blanks ++ c :: s) = c :: s := by
  unfold dropBlank
  rw [List.dropWhile_append_of_pos h, List.dropWhile_cons_of_neg (by rw [hc]; decide)]

theorem IsBlanks.takeWhile_append {blanks : List Char} (h : IsBlanks blanks) {c : Char}
    (hc : isBlank c = false) (s : List Char) : (blanks ++ c :: s).takeWhile isBlank = blanks := by
  rw [List.takeWhile_append_of_pos h, List.takeWhile_cons_of_neg (by rw [hc]; decide),
    List.append_nil]

theorem IsBlanks.not_mem {blanks : List Char} (h : IsBlanks blanks) {c : Char}
    (hc : isBlank c = false) : c ∉ blanks := by
  intro mem
  rw [h c mem] at hc
  cases hc

/-- What is taken as a name has no white space, and an end follows the backtick after it. -/
theorem takeName_sound {isEnd : List Char → Bool} {taken name after : List Char}
    (h : takeName isEnd taken s = some (name, after)) :
    ∃ p e, s = p ++ backtick :: e ∧ after = backtick :: e ∧ name = taken.reverse ++ p ∧
      name ≠ [] ∧ (∀ c ∈ p, isBlank c = false) ∧ isEnd e = true := by
  induction s generalizing taken with
  | nil => cases h
  | cons c s ih =>
    by_cases blank : isBlank c
    · rw [takeName, if_pos blank] at h
      cases h
    rw [takeName, if_neg blank] at h
    rw [Bool.not_eq_true] at blank
    cases further : takeName isEnd (c :: taken) s with
    | some found =>
      rw [further] at h
      dsimp only at h
      cases h
      obtain ⟨p, e, hs, ha, hn, ne, hp, he⟩ := ih further
      refine ⟨c :: p, e, by rw [hs, List.cons_append], ha, ?_, ne, ?_, he⟩
      · rw [hn, List.reverse_cons, List.append_assoc, List.singleton_append]
      · intro d hd
        rcases List.mem_cons.1 hd with rfl | hd
        · exact blank
        · exact hp d hd
    | none =>
      rw [further] at h
      dsimp only at h
      split_ifs at h with last
      simp only [Bool.and_eq_true, decide_eq_true_eq, Bool.not_eq_true', List.isEmpty_eq_false_iff]
        at last
      obtain ⟨⟨hc, ne⟩, he⟩ := last
      cases h
      refine ⟨[], s, by rw [hc, List.nil_append], by rw [hc], by simp, ?_, ?_, he⟩
      · rwa [ne_eq, List.reverse_eq_nil_iff]
      · exact fun d hd => absurd hd List.not_mem_nil

theorem takeName_eq_none {isEnd : List Char → Bool} {taken : List Char} (h : backtick ∉ s) :
    takeName isEnd taken s = none := by
  cases hs : takeName isEnd taken s with
  | none => rfl
  | some found =>
    obtain ⟨p, e, rfl, -⟩ := takeName_sound hs
    simp at h

/-- A name without white space is taken up to the last backtick that an end follows. -/
theorem takeName_complete {isEnd : List Char → Bool} {taken p e : List Char}
    (hp : ∀ c ∈ p, isBlank c = false)
    (ne : taken.reverse ++ p ≠ []) (he : isEnd e = true) (hbt : backtick ∉ e) :
    takeName isEnd taken (p ++ backtick :: e) = some (taken.reverse ++ p, backtick :: e) := by
  induction p generalizing taken with
  | nil =>
    have blank : isBlank backtick = false := by decide
    have nonempty : taken.isEmpty = false := by
      rw [List.isEmpty_eq_false_iff]
      rintro rfl
      exact ne rfl
    rw [List.nil_append, takeName, takeName_eq_none hbt]
    simp [blank, nonempty, he]
  | cons c p ih =>
    have further : takeName isEnd (c :: taken) (p ++ backtick :: e) =
        some ((c :: taken).reverse ++ p, backtick :: e) :=
      ih (fun d hd => hp d (List.mem_cons_of_mem c hd)) (by simp)
    rw [List.cons_append, takeName, further, hp c List.mem_cons_self]
    simp

theorem isEnd_iff : isEnd s = true ↔ ∃ blanks, IsBlanks blanks ∧ s = blanks ++ [';'] := by
  rw [isEnd, beq_iff_eq]
  constructor
  · intro h
    refine ⟨s.takeWhile isBlank, isBlanks_takeWhile s, ?_⟩
    rw [← h, takeWhile_append_dropBlank]
  · rintro ⟨blanks, hb, rfl⟩
    exact hb.dropBlank_append (by decide) []

theorem backtick_not_mem_of_isEnd (h : isEnd s = true) : backtick ∉ s := by
  obtain ⟨blanks, hb, rfl⟩ := isEnd_iff.1 h
  rw [List.mem_append, not_or]
  exact ⟨hb.not_mem (by decide), by decide⟩

/-- Before a backtick and a semicolon at the end, everything is the name, or nothing is. -/
theorem takeName_isEnd (q : List Char) :
    takeName isEnd [] (q ++ [backtick, ';']) =
      if q ≠ [] ∧ ∀ c ∈ q, isBlank c = false then some (q, [backtick, ';']) else none := by
  split_ifs with h
  · exact takeName_complete h.2 h.1 (by decide) (by decide)
  · cases hq : takeName isEnd [] (q ++ [backtick, ';']) with
    | none => rfl
    | some found =>
      obtain ⟨p, e, hs, -, hn, ne, hp, he⟩ := takeName_sound hq
      obtain ⟨rfl, -⟩ := append_cons_inj (by decide) (backtick_not_mem_of_isEnd he) hs
      rw [List.reverse_nil, List.nil_append] at hn
      exact absurd ⟨hn ▸ ne, hp⟩ h

/-- What is taken between backticks is a name, with an end after it. -/
theorem takeQuoted_sound {isEnd : List Char → Bool} {before : List Char} {found : Preamble}
    (h : takeQuoted isEnd before s = some found) :
    ∃ name e, s = backtick :: (name ++ backtick :: e) ∧
      found = ⟨(backtick :: before).reverse, name, backtick :: e⟩ ∧ name ≠ [] ∧
      (∀ c ∈ name, isBlank c = false) ∧ isEnd e = true := by
  cases s with
  | nil => cases h
  | cons c s =>
    rw [takeQuoted] at h
    split_ifs at h with hc
    obtain ⟨⟨name, after⟩, taken, same⟩ := Option.map_eq_some_iff.1 h
    obtain ⟨p, e, rfl, rfl, hn, ne, hp, he⟩ := takeName_sound taken
    rw [List.reverse_nil, List.nil_append] at hn
    subst hn hc
    exact ⟨name, e, rfl, same.symm, ne, hp, he⟩

theorem takeQuoted_complete {isEnd : List Char → Bool} {name e : List Char} (ne : name ≠ [])
    (hn : ∀ c ∈ name, isBlank c = false) (he : isEnd e = true) (hbt : backtick ∉ e)
    (before : List Char) :
    takeQuoted isEnd before (backtick :: (name ++ backtick :: e)) =
      some ⟨(backtick :: before).reverse, name, backtick :: e⟩ := by
  have taken : takeName isEnd [] (name ++ backtick :: e) = some (name, backtick :: e) :=
    takeName_complete hn ne he hbt
  rw [takeQuoted, if_pos rfl, taken]
  rfl

/-! ## The name after a comment -/

/-- What follows a comment that is passed is white space and a name between backticks. -/
theorem takeAfterComment_sound {isEnd : List Char → Bool} {before : List Char} {found : Preamble}
    (h : takeAfterComment isEnd before s = some found) :
    ∃ x blanks name e, s = x ++ '*' :: '/' :: (blanks ++ backtick :: (name ++ backtick :: e)) ∧
      found = ⟨before.reverse ++ (x ++ '*' :: '/' :: (blanks ++ [backtick])), name,
        backtick :: e⟩ ∧
      '\n' ∉ x ∧ IsBlanks blanks ∧ name ≠ [] ∧ (∀ c ∈ name, isBlank c = false) ∧
      isEnd e = true := by
  induction s generalizing before with
  | nil => cases h
  | cons c s ih =>
    unfold takeAfterComment at h
    dsimp only at h
    split at h
    · next hit =>
      cases h
      split_ifs at hit with feed
      obtain ⟨x, blanks, name, e, rfl, rfl, hx, facts⟩ := ih hit
      refine ⟨c :: x, blanks, name, e, rfl, ?_, ?_, facts⟩
      · rw [List.reverse_cons, List.append_assoc]
        rfl
      · rw [List.mem_cons, not_or]
        exact ⟨Ne.symm feed, hx⟩
    · split at h
      · next s _ =>
        dsimp only [passBlanks] at h
        obtain ⟨name, e, hs, rfl, facts⟩ := takeQuoted_sound h
        refine ⟨[], s.takeWhile isBlank, name, e, ?_, ?_, List.not_mem_nil, isBlanks_takeWhile s,
          facts⟩
        · rw [← hs, takeWhile_append_dropBlank]
          rfl
        · simp
      · cases h

/-- No comment that ends within a name between backticks is passed: two backticks would have to
follow it. -/
theorem takeAfterComment_eq_none {isEnd : List Char → Bool} (blanks : List Char)
    (hb : IsBlanks blanks) {p t : List Char} (hp : backtick ∉ p) (ht : backtick ∉ t)
    (before : List Char) :
    takeAfterComment isEnd before ('/' :: (blanks ++ backtick :: (p ++ backtick :: t))) = none := by
  cases h : takeAfterComment isEnd before
    ('/' :: (blanks ++ backtick :: (p ++ backtick :: t))) with
  | none => rfl
  | some found =>
    obtain ⟨x, blanks', name, e, hx, -⟩ := takeAfterComment_sound h
    have pre : backtick ∉ blanks := hb.not_mem (by decide)
    -- both sides have two backticks, so what is before the comment ends has none
    have counts := congrArg (List.count backtick) hx
    have two : List.count backtick ('/' :: (blanks ++ backtick :: (p ++ backtick :: t))) = 2 := by
      have slash : ('/' == backtick) = false := by decide
      simp [List.count_cons, List.count_eq_zero.2 pre, List.count_eq_zero.2 hp,
        List.count_eq_zero.2 ht, slash]
    rw [two] at counts
    simp only [List.count_append, List.count_cons, BEq.rfl, if_true] at counts
    have hx0 : backtick ∉ x ++ '*' :: '/' :: blanks' := by
      rw [← List.count_eq_zero, List.count_append, List.count_cons, List.count_cons]
      omega
    have slash : backtick ∉ '/' :: blanks := by
      rw [List.mem_cons, not_or]
      exact ⟨by decide, pre⟩
    have split : ('/' :: blanks) ++ backtick :: (p ++ backtick :: t) =
        (x ++ '*' :: '/' :: blanks') ++ backtick :: (name ++ backtick :: e) := by
      rw [List.append_assoc]
      exact hx
    have star : '*' ∈ '/' :: blanks := by
      rw [(append_cons_inj_left slash hx0 split).1]
      simp
    rcases List.mem_cons.1 star with e | mem
    · exact absurd e (by decide)
    · exact absurd mem (hb.not_mem (by decide))

/-- A comment is passed where it ends for the last time before a quoted name. -/
theorem takeAfterComment_complete {isEnd : List Char → Bool} {x : List Char} {found : Preamble}
    (before w : List Char) (hx : '\n' ∉ x) (last : ∀ b, takeAfterComment isEnd b ('/' :: w) = none)
    (hw : takeQuoted isEnd ((w.takeWhile isBlank).reverse ++ ('/' :: '*' :: (x.reverse ++ before)))
      (dropBlank w) = some found) :
    takeAfterComment isEnd before (x ++ '*' :: '/' :: w) = some found := by
  induction x generalizing before with
  | nil =>
    rw [List.nil_append]
    unfold takeAfterComment
    dsimp only [passBlanks]
    rw [last, ite_self]
    exact hw
  | cons c x ih =>
    rw [List.mem_cons, not_or] at hx
    have further := ih (c :: before) hx.2 (by
      rw [List.reverse_cons, List.append_assoc] at hw
      exact hw)
    unfold takeAfterComment
    dsimp only [List.cons_append]
    rw [if_neg (Ne.symm hx.1), further]

/-- After a comment the name between the only two backticks is taken, wherever the comment seems to
end. -/
theorem takeAfterComment_comment {isEnd : List Char → Bool} {x blanks name e : List Char}
    (hx : '\n' ∉ x) (hb : IsBlanks blanks) (ne : name ≠ []) (hn : ∀ c ∈ name, isBlank c = false)
    (plain : backtick ∉ name) (he : isEnd e = true) (hbt : backtick ∉ e) (before : List Char) :
    takeAfterComment isEnd before
        (x ++ '*' :: '/' :: (blanks ++ backtick :: (name ++ backtick :: e))) =
      some ⟨before.reverse ++ (x ++ '*' :: '/' :: (blanks ++ [backtick])), name,
        backtick :: e⟩ := by
  have mark : isBlank backtick = false := by decide
  refine takeAfterComment_complete _ _ hx (takeAfterComment_eq_none blanks hb plain hbt) ?_
  rw [hb.takeWhile_append mark, hb.dropBlank_append mark, takeQuoted_complete ne hn he hbt]
  simp

/-- An end with a comment is a comment within a line, white space and a semicolon. -/
theorem isCommentEnd_iff : isCommentEnd s = true ↔ ∃ x blanks, '\n' ∉ x ∧ IsBlanks blanks ∧
    s = '/' :: '*' :: (x ++ '*' :: '/' :: (blanks ++ [';'])) := by
  constructor
  · intro h
    unfold isCommentEnd at h
    split at h
    · next inner reversed hs =>
      split at h
      · next reversed' hr =>
        simp only [Bool.and_eq_true, decide_eq_true_eq, Bool.not_eq_true',
          List.contains_eq_mem, decide_eq_false_iff_not] at h
        obtain ⟨long, feed⟩ := h
        have whole : '/' :: '*' :: inner = reversed'.reverse ++
            '*' :: '/' :: ((reversed.takeWhile isBlank).reverse ++ [';']) := by
          rw [← List.reverse_inj, hs]
          nth_rewrite 1 [← takeWhile_append_dropBlank reversed]
          rw [hr]
          simp
        generalize hx : reversed'.reverse = start at whole
        have length : start.length = reversed'.length := by rw [← hx, List.length_reverse]
        match start, length with
        | a :: b :: x, length =>
          obtain ⟨rfl, rfl, rfl⟩ : '/' = a ∧ '*' = b ∧ inner = x ++ '*' :: '/' ::
              ((reversed.takeWhile isBlank).reverse ++ [';']) := by simpa using whole
          refine ⟨x, _, ?_, ?_, rfl⟩
          · have short : reversed'.length - 2 = x.length := by
              rw [← length]
              rfl
            rwa [short, List.take_left] at feed
          · exact fun c hc => isBlanks_takeWhile reversed c (List.mem_reverse.1 hc)
        | [_], length => simp at length; omega
        | [], length => simp at length; omega
      · cases h
    · cases h
  · rintro ⟨x, blanks, hx, hb, rfl⟩
    have reversed : ('/' :: '*' :: (x ++ '*' :: '/' :: (blanks ++ [';']))).reverse =
        ';' :: (blanks.reverse ++ '/' :: '*' :: (x.reverse ++ ['*', '/'])) := by
      simp
    have passed : dropBlank (blanks.reverse ++ '/' :: '*' :: (x.reverse ++ ['*', '/'])) =
        '/' :: '*' :: (x.reverse ++ ['*', '/']) :=
      IsBlanks.dropBlank_append (fun c hc => hb c (List.mem_reverse.1 hc)) (by decide) _
    simp only [isCommentEnd, reversed, passed]
    simp [hx]

/-! ## Statements -/

theorem locateCreate_eq_none {c : Char} (hc : foldCase c ≠ 'C') :
    locateCreate (c :: s) = none := by
  have keyword : passKeyword "CREATE" [] (c :: s) = none := by
    show Option.map _ (if foldCase c = 'C' then _ else none) = none
    rw [if_neg hc]
    rfl
  rw [locateCreate, keyword]
  rfl

theorem locateUse_eq_none {c : Char} (hu : foldCase c ≠ 'U') : locateUse (c :: s) = none := by
  have keyword : passKeyword "USE" [] (c :: s) = none := by
    show Option.map _ (if foldCase c = 'U' then _ else none) = none
    rw [if_neg hu]
    rfl
  rw [locateUse, keyword]
  rfl

/-- A statement that begins with neither keyword names no database. -/
theorem locate_eq_none {c : Char} (hc : foldCase c ≠ 'C') (hu : foldCase c ≠ 'U') :
    locate (c :: s) = none := by
  rw [locate, locateCreate_eq_none hc]
  exact locateUse_eq_none hu

end Preamble

end LogicalBackup
