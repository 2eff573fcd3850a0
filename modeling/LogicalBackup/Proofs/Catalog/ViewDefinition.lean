import LogicalBackup.Catalog.ViewDefinition
import Mathlib.Data.List.Basic
import Mathlib.Tactic.SplitIfs

/-!
# The parts of a view's definition

What `ViewDefinition.split` cuts a statement into are parts of that statement (`split_infix`).
-/

namespace LogicalBackup

namespace Text

theorem takeKeyword_suffix {k s rest : List Char} (h : takeKeyword k s = some rest) :
    rest <:+ s := by
  induction k generalizing s with
  | nil =>
    obtain rfl := Option.some.inj h
    exact List.suffix_refl _
  | cons c k ih =>
    cases s with
    | nil => cases h
    | cons d s =>
      rw [takeKeyword] at h
      split_ifs at h
      exact (ih h).trans (List.suffix_cons d s)

theorem takeBlanks_suffix {s rest : List Char} (h : takeBlanks s = some rest) : rest <:+ s := by
  cases s with
  | nil => cases h
  | cons c s =>
    rw [takeBlanks] at h
    split_ifs at h
    obtain rfl := Option.some.inj h
    exact (List.dropWhile_suffix isBlank).trans (List.suffix_cons c s)

end Text

namespace ViewDefinition

open Text

theorem findFirst_eq_some {α : Type} {read : List Char → Option α} {before s b c : List Char}
    {a : α} (h : findFirst read before s = some (b, c, a)) :
    b.reverse ++ c = before.reverse ++ s ∧ read c = some a := by
  induction s generalizing before with
  | nil =>
    rw [findFirst] at h
    obtain ⟨a', ha, e⟩ := Option.map_eq_some_iff.1 h
    cases e
    exact ⟨rfl, ha⟩
  | cons d s ih =>
    rw [findFirst] at h
    cases hr : read (d :: s) with
    | some a' =>
      rw [hr] at h
      cases h
      exact ⟨rfl, hr⟩
    | none =>
      rw [hr] at h
      obtain ⟨whole, found⟩ := ih h
      refine ⟨?_, found⟩
      rw [whole, List.reverse_cons, List.append_assoc, List.singleton_append]

theorem takeBody_eq_some {s body : List Char} (h : takeBody s = some body) :
    body = s ∧ ∃ rest, takeKeyword "VIEW".toList s = some rest := by
  unfold takeBody at h
  obtain ⟨rest, found, h⟩ := Option.bind_eq_some_iff.1 h
  split_ifs at h
  exact ⟨(Option.some.inj h).symm, rest, found⟩

/-- White space and then the body stand where the clause ends. -/
theorem takeSecurity_eq_some {s rest body : List Char} (h : takeSecurity s = some (rest, body)) :
    rest <:+ s ∧ takeBlanks rest = some body ∧
      ∃ after, takeKeyword "VIEW".toList body = some after := by
  unfold takeSecurity at h
  obtain ⟨s₁, h₁, h⟩ := Option.bind_eq_some_iff.1 h
  obtain ⟨s₂, h₂, h⟩ := Option.bind_eq_some_iff.1 h
  obtain ⟨s₃, h₃, h⟩ := Option.bind_eq_some_iff.1 h
  obtain ⟨s₄, h₄, h⟩ := Option.bind_eq_some_iff.1 h
  obtain ⟨s₅, h₅, h⟩ := Option.bind_eq_some_iff.1 h
  split_ifs at h
  obtain ⟨s₆, h₆, h⟩ := Option.bind_eq_some_iff.1 h
  obtain ⟨s₇, h₇, h⟩ := Option.bind_eq_some_iff.1 h
  cases h
  obtain ⟨rfl, view⟩ := takeBody_eq_some h₇
  refine ⟨?_, h₆, view⟩
  have word : s₅.dropWhile isWord <:+ s₅ := List.dropWhile_suffix isWord
  have security : s₅ <:+ s₃ := (takeBlanks_suffix h₅).trans (takeKeyword_suffix h₄)
  have sql : s₃ <:+ s₁ := (takeBlanks_suffix h₃).trans (takeKeyword_suffix h₂)
  exact word.trans (security.trans (sql.trans (takeBlanks_suffix h₁)))

/-- The parts of a definition stand in the statement that was cut. -/
theorem split_infix {sql : String} {d : ViewDefinition} (h : split sql = some d) :
    d.head.toList <:+: sql.toList ∧ d.definer.toList <:+: sql.toList ∧
      d.body.toList <:+: sql.toList := by
  unfold split at h
  obtain ⟨⟨before, clause, afterMark⟩, hmark, h⟩ := Option.bind_eq_some_iff.1 h
  obtain ⟨⟨b, c, rest, body⟩, hsecurity, h⟩ := Option.bind_eq_some_iff.1 h
  cases h
  obtain ⟨whole, keyword⟩ := findFirst_eq_some hmark
  obtain ⟨after, security⟩ := findFirst_eq_some hsecurity
  rw [List.reverse_nil, List.nil_append] at whole after
  have clauseSuffix : clause <:+ sql.toList := ⟨_, whole⟩
  refine ⟨?_, ?_, ?_⟩
  · have head : (before.dropWhile isBlank).reverse <+: before.reverse :=
      List.reverse_prefix.2 (List.dropWhile_suffix isBlank)
    rw [String.toList_ofList]
    exact (head.trans ⟨clause, whole⟩).isInfix
  · rw [String.toList_ofList]
    exact (List.take_prefix _ clause).isInfix.trans clauseSuffix.isInfix
  · have bodySuffix : body <:+ sql.toList := by
      obtain ⟨clauseEnd, blanks, -⟩ := takeSecurity_eq_some security
      have inClause : body <:+ afterMark :=
        ((takeBlanks_suffix blanks).trans clauseEnd).trans ⟨_, after⟩
      exact (inClause.trans (takeKeyword_suffix keyword)).trans clauseSuffix
    rw [String.toList_ofList]
    exact bodySuffix.isInfix

end ViewDefinition

end LogicalBackup
