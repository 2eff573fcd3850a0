import LogicalBackup.Identifier
import Mathlib.Data.List.Basic

/-!
# Identifiers read back

A reader of statements that knows identifiers only: a name stands between backticks, where two
backticks are one of the name.  It cuts a statement into an `Outline`, and finds the one that the
statement was put together from (`Outline.read_statement`), whatever the names are.
-/

namespace LogicalBackup

/-- A statement by its identifiers: the name of each with the text before it, and the text behind
the last one. -/
structure Outline where
  names : List (String × String)
  rest : String
  deriving DecidableEq, Repr

namespace Outline

/-- The statement that begins with identifiers and the text before each. -/
def join (names : List (String × String)) (rest : String) : String :=
  names.foldr (fun p s => p.1 ++ (quoteIdentifier p.2 ++ s)) rest

/-- The statement that an outline is of. -/
def statement (o : Outline) : String := join o.names o.rest

/-- Where a reader stands. -/
inductive Place where
  | outside
  | inside
  /-- Behind a backtick that ends the name, unless another one follows. -/
  | behind
  deriving DecidableEq, Repr

/-- What was read so far: the identifiers, and the text and the name that are not complete yet. -/
structure State where
  place : Place := .outside
  text : List Char := []
  name : List Char := []
  names : List (String × String) := []
  deriving DecidableEq, Repr

namespace State

/-- The identifiers with the one that is complete now. -/
def closed (s : State) : List (String × String) :=
  s.names ++ [(String.ofList s.text, String.ofList s.name)]

/-- Reads one more character. -/
def step (s : State) (c : Char) : State :=
  match s.place with
  | .outside =>
    if c = backtick then { s with place := .inside } else { s with text := s.text ++ [c] }
  | .inside =>
    if c = backtick then { s with place := .behind } else { s with name := s.name ++ [c] }
  | .behind =>
    if c = backtick then { s with place := .inside, name := s.name ++ [c] }
    else { text := [c], names := s.closed }

/-- What was read, unless a name is open. -/
def complete? (s : State) : Option Outline :=
  match s.place with
  | .outside => some ⟨s.names, String.ofList s.text⟩
  | .inside => none
  | .behind => some ⟨s.closed, ""⟩

end State

/-- The outline of a statement. -/
def read (statement : String) : Option Outline := (statement.toList.foldl State.step {}).complete?

/-- No backtick stands outside the identifiers, and no two identifiers touch. -/
structure Separated (o : Outline) : Prop where
  bare : ∀ p ∈ o.names, backtick ∉ p.1.toList
  apart : ∀ p ∈ o.names.tail, p.1 ≠ ""
  bare_rest : backtick ∉ o.rest.toList

variable {text name : List Char} {names : List (String × String)}

theorem foldl_step_text {s : List Char} (bare : backtick ∉ s) (text : List Char) :
    s.foldl State.step ⟨.outside, text, name, names⟩ = ⟨.outside, text ++ s, name, names⟩ := by
  induction s generalizing text with
  | nil => rw [List.append_nil]; rfl
  | cons c s ih =>
    rw [List.mem_cons, not_or] at bare
    have one : State.step ⟨.outside, text, name, names⟩ c = ⟨.outside, text ++ [c], name, names⟩ :=
      if_neg (Ne.symm bare.1)
    rw [List.foldl_cons, one, ih bare.2, List.append_assoc, List.singleton_append]

/-- A doubled backtick is one of the name, and so is every other character. -/
theorem foldl_step_name (s name : List Char) :
    (s.flatMap identifierChar).foldl State.step ⟨.inside, text, name, names⟩ =
      ⟨.inside, text, name ++ s, names⟩ := by
  induction s generalizing name with
  | nil => rw [List.append_nil]; rfl
  | cons c s ih =>
    have one : (identifierChar c).foldl State.step ⟨.inside, text, name, names⟩ =
        ⟨.inside, text, name ++ [c], names⟩ := by
      by_cases tick : c = backtick
      · subst tick
        rfl
      · rw [identifierChar, if_neg tick]
        exact if_neg tick
    rw [List.flatMap_cons, List.foldl_append, one, ih, List.append_assoc, List.singleton_append]

theorem foldl_step_quoteIdentifier (n : String) :
    (quoteIdentifier n).toList.foldl State.step ⟨.outside, text, [], names⟩ =
      ⟨.behind, text, n.toList, names⟩ := by
  have tick : "`".toList = [backtick] := rfl
  have form : (quoteIdentifier n).toList =
      backtick :: (n.toList.flatMap identifierChar ++ [backtick]) := by
    rw [quoteIdentifier, String.toList_append, String.toList_append, tick, String.toList_ofList,
      List.append_assoc, List.singleton_append]
  have opened : State.step ⟨.outside, text, [], names⟩ backtick = ⟨.inside, text, [], names⟩ := rfl
  rw [form, List.foldl_cons, opened, List.foldl_append, foldl_step_name]
  rfl

/-- A text behind a name ends the name. -/
theorem foldl_step_behind {s : List Char} (bare : backtick ∉ s) (ne : s ≠ []) :
    s.foldl State.step ⟨.behind, text, name, names⟩ =
      ⟨.outside, s, [], names ++ [(String.ofList text, String.ofList name)]⟩ := by
  obtain ⟨c, s, rfl⟩ := List.exists_cons_of_ne_nil ne
  rw [List.mem_cons, not_or] at bare
  have one : State.step ⟨.behind, text, name, names⟩ c =
      ⟨.outside, [c], [], names ++ [(String.ofList text, String.ofList name)]⟩ :=
    if_neg (Ne.symm bare.1)
  rw [List.foldl_cons, one, foldl_step_text bare.2, List.singleton_append]

/-- Behind a name the identifiers that follow it are found. -/
theorem complete?_foldl_join {more : List (String × String)} {rest : String}
    (bare : ∀ p ∈ more, backtick ∉ p.1.toList) (apart : ∀ p ∈ more, p.1 ≠ "")
    (bareRest : backtick ∉ rest.toList) (text name : List Char) (names : List (String × String)) :
    ((join more rest).toList.foldl State.step ⟨.behind, text, name, names⟩).complete? =
      some ⟨names ++ (String.ofList text, String.ofList name) :: more, rest⟩ := by
  -- The name just read is complete only with the text behind it, so it is part of the invariant.
  induction more generalizing text name names with
  | nil =>
    change (rest.toList.foldl State.step _).complete? = _
    by_cases empty : rest.toList = []
    · obtain rfl : rest = "" := String.toList_inj.1 empty
      rfl
    · rw [foldl_step_behind bareRest empty]
      exact congrArg (fun r => some (Outline.mk _ r)) String.ofList_toList
  | cons p more ih =>
    obtain ⟨bareFirst, bareMore⟩ := List.forall_mem_cons.1 bare
    obtain ⟨apartFirst, apartMore⟩ := List.forall_mem_cons.1 apart
    have ne : p.1.toList ≠ [] := fun nil => apartFirst (String.toList_inj.1 nil)
    change State.complete?
      ((p.1 ++ (quoteIdentifier p.2 ++ join more rest)).toList.foldl State.step _) = _
    rw [String.toList_append, String.toList_append, List.foldl_append, List.foldl_append,
      foldl_step_behind bareFirst ne, foldl_step_quoteIdentifier, ih bareMore apartMore,
      String.ofList_toList, String.ofList_toList, List.append_assoc, List.singleton_append]

/-- The reader finds the identifiers of a statement. -/
theorem read_statement {o : Outline} (h : o.Separated) : read o.statement = some o := by
  obtain ⟨names, rest⟩ := o
  obtain ⟨bare, apart, bareRest⟩ := h
  cases names with
  | nil =>
    change (rest.toList.foldl State.step {}).complete? = _
    rw [foldl_step_text bareRest, List.nil_append]
    exact congrArg (fun r => some (Outline.mk [] r)) String.ofList_toList
  | cons p more =>
    obtain ⟨bareFirst, bareMore⟩ := List.forall_mem_cons.1 bare
    change State.complete?
      ((p.1 ++ (quoteIdentifier p.2 ++ join more rest)).toList.foldl State.step _) = _
    rw [String.toList_append, String.toList_append, List.foldl_append, List.foldl_append,
      foldl_step_text bareFirst, foldl_step_quoteIdentifier,
      complete?_foldl_join bareMore apart bareRest, List.nil_append, List.nil_append,
      String.ofList_toList, String.ofList_toList]

end Outline

end LogicalBackup
