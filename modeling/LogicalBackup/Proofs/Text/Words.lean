import LogicalBackup.Text.Blank
import Mathlib.Data.List.Basic

/-!
# The words of a text

White space separates the words of a text (`Text.words_append_cons`), and a word is a run without
white space that is bounded by white space or the ends of the text (`Text.mem_words_iff`).
-/

namespace LogicalBackup.Text

/-- A run without white space, bounded by white space or the ends of the text. -/
structure IsToken (w s : List Char) : Prop where
  ne_nil : w ≠ []
  visible : ∀ c ∈ w, isBlank c = false
  bounded : ∃ p q, s = p ++ w ++ q ∧ (∀ c ∈ p.getLast?, isBlank c = true) ∧
    ∀ c ∈ q.head?, isBlank c = true

/-- White space at the end of a text makes one more part, which is empty. -/
theorem splitOnP_eq_foldr_consWord (s : List Char) :
    s.splitOnP isBlank = s.foldr consWord [] ∨
      s.splitOnP isBlank = s.foldr consWord [] ++ [[]] := by
  induction s with
  | nil => exact .inr List.splitOnP_nil
  | cons c s ih =>
    rw [List.splitOnP_cons_eq_if_modifyHead, List.foldr_cons]
    rcases parts : s.foldr consWord [] with _ | ⟨w, ws⟩
    · have nil : s.splitOnP isBlank = [[]] := by
        rcases ih with ih | ih
        · exact absurd (ih.trans parts) (List.splitOnP_ne_nil _ _)
        · rw [ih, parts, List.nil_append]
      rw [nil, consWord]
      split_ifs
      · exact .inr rfl
      · exact .inl rfl
    · rw [parts] at ih
      rw [consWord]
      rcases ih with ih | ih <;> rw [ih] <;> split_ifs
      · exact .inl rfl
      · exact .inl rfl
      · exact .inr rfl
      · exact .inr rfl

theorem words_eq_filter_splitOnP (s : List Char) :
    words s = (s.splitOnP isBlank).filter (!·.isEmpty) := by
  rcases splitOnP_eq_foldr_consWord s with parts | parts
  · rw [words, parts]
  · rw [words, parts, List.filter_append]
    exact (List.append_nil _).symm

/-- White space separates words. -/
theorem words_append_cons {c : Char} (h : isBlank c = true) (s t : List Char) :
    words (s ++ c :: t) = words s ++ words t := by
  simp only [words_eq_filter_splitOnP]
  rw [List.splitOnP_append_cons s t h, List.filter_append]

theorem words_eq_singleton {w : List Char} (ne : w ≠ []) (h : ∀ c ∈ w, isBlank c = false) :
    words w = [w] := by
  rw [words_eq_filter_splitOnP, List.splitOnP_eq_singleton h]
  exact List.filter_cons_of_pos (by simpa using ne)

/-- White space behind a word ends it. -/
theorem words_append_of_head? (s : List Char) {q : List Char}
    (h : ∀ c ∈ q.head?, isBlank c = true) : words (s ++ q) = words s ++ words q := by
  cases q with
  | nil =>
    rw [List.append_nil]
    exact (List.append_nil _).symm
  | cons c q =>
    have blank := h c rfl
    rw [words_append_cons blank, ← List.nil_append (c :: q), words_append_cons blank]
    rfl

/-- White space before a word sets it apart. -/
theorem words_append_of_getLast? {p : List Char} (h : ∀ c ∈ p.getLast?, isBlank c = true)
    (s : List Char) : words (p ++ s) = words p ++ words s := by
  rcases List.eq_nil_or_concat p with rfl | ⟨p, c, rfl⟩
  · rfl
  · have blank := h c (by simp)
    rw [List.concat_eq_append, List.append_assoc, List.singleton_append, words_append_cons blank,
      words_append_cons blank, List.append_assoc]
    rfl

namespace IsToken

variable {w s : List Char}

/-- A word of the text before white space is a word of the whole. -/
theorem append_cons (h : IsToken w s) {c : Char} (hc : isBlank c = true) (t : List Char) :
    IsToken w (s ++ c :: t) := by
  obtain ⟨ne, visible, p, q, rfl, before, behind⟩ := h
  refine ⟨ne, visible, p, q ++ c :: t, by simp only [List.append_assoc], before, fun d hd => ?_⟩
  cases q with
  | nil =>
    obtain rfl := Option.some.inj hd
    exact hc
  | cons e q => exact behind d hd

/-- A word of the text behind white space is a word of the whole. -/
theorem cons_append (h : IsToken w s) {c : Char} (hc : isBlank c = true) (t : List Char) :
    IsToken w (t ++ c :: s) := by
  obtain ⟨ne, visible, p, q, rfl, before, behind⟩ := h
  refine ⟨ne, visible, t ++ c :: p, q, by simp only [List.append_assoc, List.cons_append],
    fun d hd => ?_, behind⟩
  rcases List.eq_nil_or_concat p with rfl | ⟨p, e, rfl⟩
  · rw [List.getLast?_concat] at hd
    obtain rfl := Option.some.inj hd
    exact hc
  · refine before d ?_
    rw [List.concat_eq_append] at hd ⊢
    rwa [← List.cons_append, ← List.append_assoc, List.getLast?_concat,
      ← List.getLast?_concat] at hd

end IsToken

theorem mem_words_iff {w s : List Char} : w ∈ words s ↔ IsToken w s := by
  constructor
  · intro h
    induction hn : s.length using Nat.strongRecOn generalizing s with
    | _ n ih =>
      subst hn
      by_cases blank : ∃ c ∈ s, isBlank c = true
      · obtain ⟨c, mem, hc⟩ := blank
        obtain ⟨x, y, rfl⟩ := List.append_of_mem mem
        have length : (x ++ c :: y).length = x.length + (y.length + 1) := List.length_append
        rw [words_append_cons hc, List.mem_append] at h
        rcases h with h | h
        · exact (ih x.length (by omega) h rfl).append_cons hc y
        · exact (ih y.length (by omega) h rfl).cons_append hc x
      · have visible (c) (hc : c ∈ s) : isBlank c = false :=
          eq_false_of_ne_true fun hb => blank ⟨c, hc, hb⟩
        rcases eq_or_ne s [] with rfl | ne
        · cases h
        · rw [words_eq_singleton ne visible, List.mem_singleton] at h
          subst h
          exact ⟨ne, visible, [], [], by simp, nofun, nofun⟩
  · rintro ⟨ne, visible, p, q, rfl, before, behind⟩
    rw [words_append_of_head? _ behind, words_append_of_getLast? before,
      words_eq_singleton ne visible]
    simp

/-- One of the words of the text is this keyword, in ASCII letters of either case. -/
def HasToken (keyword : String) (s : List Char) : Prop :=
  ∃ w, IsToken w s ∧ w.map Char.toUpper = keyword.toList

theorem hasToken_iff {keyword : String} {s : List Char} :
    HasToken keyword s ↔ ∃ w ∈ words s, w.map Char.toUpper = keyword.toList := by
  simp only [HasToken, mem_words_iff]

instance (keyword : String) (s : List Char) : Decidable (HasToken keyword s) :=
  decidable_of_iff' _ hasToken_iff

end LogicalBackup.Text
