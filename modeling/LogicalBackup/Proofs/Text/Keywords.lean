import LogicalBackup.Proofs.Restore.DatabaseNames
import Mathlib.Data.List.Infix

/-!
# Keywords and white space in a text

A keyword stands at the start of a text (`Text.Begins`) or somewhere in it (`Text.Mentions`), in
letters of either case.  Where no end of a keyword is also its start, two occurrences do not overlap
(`Text.prefix_of_borderless`), and none reaches into white space (`Text.infix_of_infix_blanks`).
-/

namespace LogicalBackup

open Preamble

namespace Text

/-- The code points of white space. -/
def blankCodes : List Nat :=
  List.range' 9 5 ++ [0x20, 0x85, 0xa0, 0x1680] ++ List.range' 0x2000 11 ++
    [0x2028, 0x2029, 0x202f, 0x205f, 0x3000]

/-- White space is no part of a word. -/
theorem isWord_of_isBlank {c : Char} (h : isBlank c = true) : isWord c = false := by
  have codes : ∀ n ∈ blankCodes, isWord (Char.ofNat n) = false := by decide +kernel
  have mem : c.toNat ∈ blankCodes := by
    simp only [isBlank, Bool.or_eq_true, Bool.and_eq_true, decide_eq_true_eq, beq_iff_eq] at h
    simp only [blankCodes, List.mem_append, List.mem_range'_1, List.mem_cons, List.not_mem_nil,
      or_false]
    omega
  have none := codes c.toNat mem
  rwa [Char.ofNat_toNat] at none

/-- A keyword stands somewhere in the text. -/
def Mentions (keyword : String) (s : List Char) : Prop := ∃ k, k <:+: s ∧ Spells keyword k

/-- The text begins with a keyword. -/
def Begins (keyword : String) (s : List Char) : Prop := ∃ k rest, Spells keyword k ∧ s = k ++ rest

/-- The text begins with a character that is not white space. -/
def Visible (s : List Char) : Prop := ∃ c rest, s = c :: rest ∧ isBlank c = false

theorem Visible.append {s : List Char} (h : Visible s) (t : List Char) : Visible (s ++ t) := by
  obtain ⟨c, rest, rfl, hc⟩ := h
  exact ⟨c, rest ++ t, rfl, hc⟩

theorem begins_iff {keyword : String} {s : List Char} :
    Begins keyword s ↔ ∃ rest, takeKeyword keyword.toList s = some rest := by
  simp only [takeKeyword_iff]
  exact ⟨fun ⟨k, rest, hk, hs⟩ => ⟨rest, k, hk, hs⟩, fun ⟨rest, k, hk, hs⟩ => ⟨k, rest, hk, hs⟩⟩

instance (keyword : String) (s : List Char) : Decidable (Begins keyword s) :=
  decidable_of_iff ((takeKeyword keyword.toList s).isSome = true)
    (Option.isSome_iff_exists.trans begins_iff.symm)

/-- A keyword stands in a text where an end of the text begins with it. -/
theorem mentions_iff {keyword : String} {s : List Char} :
    Mentions keyword s ↔ ∃ r ∈ s.tails, Begins keyword r := by
  constructor
  · rintro ⟨k, ⟨x, y, rfl⟩, hk⟩
    exact ⟨k ++ y, (List.mem_tails _ _).2 ⟨x, by rw [List.append_assoc]⟩, k, y, hk, rfl⟩
  · rintro ⟨_, hr, k, y, hk, rfl⟩
    exact ⟨k, (List.prefix_append k y).isInfix.trans ((List.mem_tails _ _).1 hr).isInfix, hk⟩

instance (keyword : String) (s : List Char) : Decidable (Mentions keyword s) :=
  decidable_of_iff' _ mentions_iff

/-- A keyword that is not taken does not stand at the start. -/
theorem takeKeyword_eq_none {keyword : String} {s : List Char} (h : ¬Begins keyword s) :
    takeKeyword keyword.toList s = none :=
  Option.eq_none_iff_forall_ne_some.2 fun rest found => h (begins_iff.2 ⟨rest, found⟩)

theorem takeBlanks_of_visible {blanks s : List Char} (h : IsBlanks blanks) (ne : blanks ≠ [])
    (hs : Visible s) : takeBlanks (blanks ++ s) = some s := by
  obtain ⟨c, rest, rfl, hc⟩ := hs
  exact takeBlanks_append h ne hc rest

theorem exists_of_takeBlanks {s rest : List Char} (h : takeBlanks s = some rest) :
    ∃ blanks, IsBlanks blanks ∧ blanks ≠ [] ∧ s = blanks ++ rest := by
  refine ⟨s.takeWhile isBlank, isBlanks_takeWhile s, takeWhile_ne_nil_of_takeBlanks h, ?_⟩
  cases s with
  | nil => cases h
  | cons c s =>
    rw [takeBlanks] at h
    split_ifs at h with blank
    obtain rfl := Option.some.inj h
    rw [List.takeWhile_cons_of_pos blank, List.cons_append, takeWhile_append_dropBlank]

/-- The letters of a keyword are not white space, nor are those that stand for them. -/
theorem not_isBlank_of_spells {keyword : String} {k : List Char} (h : Spells keyword k)
    (visible : ∀ c ∈ keyword.toList, isBlank c = false) : ∀ c ∈ k, isBlank c = false := by
  intro c hc
  by_contra blank
  rw [Bool.not_eq_false] at blank
  have letter : foldCase c ∈ keyword.toList := h ▸ List.mem_map_of_mem hc
  have seen := visible _ letter
  rw [foldCase_of_isBlank blank, blank] at seen
  cases seen

/-- No end of the keyword is also its start. -/
def Borderless (keyword : String) : Prop :=
  ∀ n < keyword.toList.length, 0 < n →
    keyword.toList.drop n ≠ keyword.toList.take (keyword.toList.length - n)

instance (keyword : String) : Decidable (Borderless keyword) :=
  inferInstanceAs (Decidable (∀ n < _, _))

/-- A keyword that begins before a place where it stands also ends before that place. -/
theorem prefix_of_borderless {keyword : String} (borderless : Borderless keyword)
    {r mark tail k rest : List Char} (hmark : Spells keyword mark) (hk : Spells keyword k)
    (ne : r ≠ []) (same : r ++ (mark ++ tail) = k ++ rest) : k <+: r := by
  have length : k.length = mark.length := by
    rw [← List.length_map foldCase, hk, ← hmark, List.length_map]
  have whole : keyword.toList.length = mark.length := by rw [← hmark, List.length_map]
  have pos := List.length_pos_iff.2 ne
  by_contra within
  have long : r.length < k.length := by
    by_contra short
    exact within (List.prefix_of_prefix_length_le ⟨rest, same.symm⟩ (List.prefix_append r _)
      (by omega))
  -- what is left of the keyword is the start of the mark
  obtain ⟨m, rfl⟩ : r <+: k :=
    List.prefix_of_prefix_length_le (List.prefix_append r _) ⟨rest, same.symm⟩ (by omega)
  have left : mark ++ tail = m ++ rest := by
    rw [List.append_assoc] at same
    exact List.append_cancel_left same
  rw [List.length_append] at length long
  have start : m = mark.take m.length := by
    have prefixes : m <+: mark :=
      List.prefix_of_prefix_length_le ⟨rest, left.symm⟩ (List.prefix_append mark _) (by omega)
    exact List.prefix_iff_eq_take.1 prefixes
  refine borderless r.length (by omega) pos ?_
  have ending : keyword.toList.drop r.length = m.map foldCase := by
    rw [← hk, List.map_append, ← List.length_map foldCase, List.drop_left]
  rw [ending, start, List.map_take, hmark]
  congr 1
  omega

/-- What has no white space and stands in a text with white space at its end stands before that
white space. -/
theorem infix_of_infix_blanks {k s blanks : List Char} (ne : k ≠ [])
    (visible : ∀ c ∈ k, isBlank c = false) (hb : IsBlanks blanks) (h : k <:+: s ++ blanks) :
    k <:+: s := by
  obtain ⟨x, y, same⟩ := h
  rcases List.append_eq_append_iff.1 same with ⟨m, hs, -⟩ | ⟨m, hxk, hblanks⟩
  · exact ⟨x, m, hs.symm⟩
  · rcases List.eq_nil_or_concat m with rfl | ⟨m, c, rfl⟩
    · rw [List.append_nil] at hxk
      exact ⟨x, [], by rw [List.append_nil, hxk]⟩
    · -- the last character of `k` would be white space
      have last : k.getLast? = some c := by
        rw [← List.getLast?_append_of_ne_nil x ne, hxk, List.concat_eq_append, ← List.append_assoc,
          List.getLast?_concat]
      have seen := visible c (List.mem_of_getLast? last)
      rw [hb c (by rw [hblanks]; simp)] at seen
      cases seen

end Text

end LogicalBackup
