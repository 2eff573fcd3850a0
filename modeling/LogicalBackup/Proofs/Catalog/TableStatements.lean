import LogicalBackup.Catalog
import LogicalBackup.Proofs.Text.Identifiers

/-!
# The names in the statements of a table

Readers of a query, of the stem of an `INSERT` statement and of a `LOCK TABLES` statement: each one
finds the names that the statement was made of (`readSelect_selectSql`, `readStem_insertStem`,
`readLock_lockSql`), whatever characters they have.  So statements are equal only if their names
are.
-/

namespace LogicalBackup

theorem mapM_eq_some_map {α β : Type} {f : α → Option β} {g : α → β} {xs : List α}
    (h : ∀ x ∈ xs, f x = some (g x)) : xs.mapM f = some (xs.map g) := by
  induction xs with
  | nil => rfl
  | cons x xs ih =>
    obtain ⟨first, rest⟩ := List.forall_mem_cons.1 h
    rw [List.mapM_cons, first, ih rest]
    rfl

namespace Outline

/-- The identifiers of a list, with the text before the first one and the text before each other. -/
def listing (first separator : String) : List String → List (String × String)
  | [] => []
  | name :: names => (first, name) :: names.map (separator, ·)

/-- The names of identifiers that all stand behind the same text. -/
def readBehind (text : String) (names : List (String × String)) : Option (List String) :=
  names.mapM fun p => if p.1 = text then some p.2 else none

/-- The names of a list. -/
def readListing (first separator : String) : List (String × String) → Option (List String)
  | [] => none
  | (text, name) :: more =>
    if text = first then (readBehind separator more).map (name :: ·) else none

variable {first separator : String}

theorem readBehind_map (text : String) (names : List String) :
    readBehind text (names.map (text, ·)) = some names := by
  have behind : ∀ p ∈ names.map (text, ·), (if p.1 = text then some p.2 else none) = some p.2 := by
    intro p hp
    obtain ⟨name, -, rfl⟩ := List.mem_map.1 hp
    exact if_pos rfl
  rw [readBehind, mapM_eq_some_map behind, List.map_map]
  exact congrArg some (List.map_id names)

theorem readListing_listing {names : List String} (ne : names ≠ []) :
    readListing first separator (listing first separator names) = some names := by
  cases names with
  | nil => exact absurd rfl ne
  | cons name names => rw [listing, readListing, if_pos rfl, readBehind_map, Option.map_some]

theorem forall_mem_behind (P : String → Prop) (hs : P separator) (names : List String) :
    ∀ p ∈ names.map (separator, ·), P p.1 := by
  intro p hp
  obtain ⟨name, -, rfl⟩ := List.mem_map.1 hp
  exact hs

theorem forall_mem_listing (P : String → Prop) (hf : P first) (hs : P separator)
    (names : List String) : ∀ p ∈ listing first separator names, P p.1 := by
  cases names with
  | nil => exact fun p hp => absurd hp List.not_mem_nil
  | cons name names => exact List.forall_mem_cons.2 ⟨hf, forall_mem_behind P hs names⟩

theorem forall_mem_tail_listing (P : String → Prop) (hs : P separator) (names : List String) :
    ∀ p ∈ (listing first separator names).tail, P p.1 := by
  cases names with
  | nil => exact fun p hp => absurd hp List.not_mem_nil
  | cons name names => exact forall_mem_behind P hs names

theorem join_cons (text name : String) (more : List (String × String)) (rest : String) :
    join ((text, name) :: more) rest = text ++ (quoteIdentifier name ++ join more rest) := rfl

theorem join_append (names more : List (String × String)) (rest : String) :
    join (names ++ more) rest = join names (join more rest) := List.foldr_append

/-- Names with a mark behind each and commas between them. -/
theorem join_listing (first mark rest : String) {names : List String} (ne : names ≠ []) :
    first ++ (String.intercalate ", " (names.map fun n => quoteIdentifier n ++ mark) ++ rest) =
      join (listing first (mark ++ ", ") names) (mark ++ rest) := by
  induction names generalizing first with
  | nil => exact absurd rfl ne
  | cons name names ih =>
    cases names with
    | nil =>
      rw [List.map_singleton, String.intercalate_singleton, String.append_assoc]
      rfl
    | cons next names =>
      have later := ih (mark ++ ", ") (List.cons_ne_nil next names)
      rw [List.map_cons] at later
      rw [List.map_cons, List.map_cons, String.intercalate_cons_cons, listing, join_cons,
        List.map_cons, ← listing, ← later]
      simp only [String.append_assoc]

/-- The names of a list with commas. -/
theorem join_quoteIdentifiers (first rest : String) {names : List String} (ne : names ≠ []) :
    first ++ (quoteIdentifiers names ++ rest) = join (listing first ", " names) rest := by
  have unmarked := join_listing first "" rest ne
  simp only [String.append_empty, String.empty_append] at unmarked
  exact unmarked

end Outline

open Outline

/-- The columns and the table that a query names. -/
def readSelect (statement : String) : Option (List String × String) := do
  let outline ← Outline.read statement
  let (text, table) ← outline.names.getLast?
  let columns ← readListing "SELECT " ", " outline.names.dropLast
  if text = " FROM " ∧ outline.rest = "" then return (columns, table) else none

/-- The table and the columns that the stem of an `INSERT` statement names. -/
def readStem (statement : String) : Option (String × List String) := do
  let outline ← Outline.read statement
  let (text, table) ← outline.names.head?
  let columns ← readListing " (" ", " outline.names.tail
  if text = "INSERT INTO " ∧ outline.rest = ") VALUES " then return (table, columns) else none

/-- The tables that a `LOCK TABLES` statement locks against changes. -/
def readLock (statement : String) : Option (List String) := do
  let outline ← Outline.read statement
  if outline.rest = " READ" then readListing "LOCK TABLES " " READ, " outline.names else none

namespace Table

variable {t t' : Table} {tables tables' : List Table}

/-- The query finds the table behind the columns. -/
theorem readSelect_selectSql (h : t.columns ≠ []) :
    readSelect t.selectSql = some (t.columns, t.name) := by
  let outline : Outline := ⟨listing "SELECT " ", " t.columns ++ [(" FROM ", t.name)], ""⟩
  have form : t.selectSql = outline.statement := by
    have behind : " FROM " ++ quoteIdentifier t.name = join [(" FROM ", t.name)] "" := by
      rw [join_cons, join, List.foldr_nil, String.append_empty]
    rw [selectSql, String.append_assoc, String.append_assoc, behind, join_quoteIdentifiers _ _ h,
      ← join_append]
    rfl
  have separated : outline.Separated := by
    have bare : backtick ∉ " FROM ".toList := by decide
    have apart : " FROM " ≠ "" := by decide
    have ne : listing "SELECT " ", " t.columns ≠ [] := by
      obtain ⟨name, names, same⟩ := List.exists_cons_of_ne_nil h
      rw [same]
      exact List.cons_ne_nil _ _
    refine ⟨List.forall_mem_append.2 ⟨?_, List.forall_mem_singleton.2 bare⟩, ?_, List.not_mem_nil⟩
    · exact forall_mem_listing (backtick ∉ ·.toList) (by decide) (by decide) _
    · rw [List.tail_append_of_ne_nil ne]
      exact List.forall_mem_append.2
        ⟨forall_mem_tail_listing (· ≠ "") (by decide) _, List.forall_mem_singleton.2 apart⟩
  rw [readSelect, form, read_statement separated]
  simp [outline, readListing_listing h]

theorem readStem_insertStem (h : t.columns ≠ []) :
    readStem t.insertStem = some (t.name, t.columns) := by
  let outline : Outline := ⟨("INSERT INTO ", t.name) :: listing " (" ", " t.columns, ") VALUES "⟩
  have form : t.insertStem = outline.statement := by
    unfold insertStem
    rw [String.append_assoc, String.append_assoc, String.append_assoc,
      join_quoteIdentifiers _ _ h]
    rfl
  have separated : outline.Separated := by
    have bare : backtick ∉ "INSERT INTO ".toList := by decide
    have bareRest : backtick ∉ ") VALUES ".toList := by decide
    refine ⟨List.forall_mem_cons.2 ⟨bare, ?_⟩, ?_, bareRest⟩
    · exact forall_mem_listing (backtick ∉ ·.toList) (by decide) (by decide) _
    · exact forall_mem_listing (· ≠ "") (by decide) (by decide) _
  rw [readStem, form, read_statement separated]
  simp [outline, readListing_listing h]

theorem readLock_lockSql (h : tables ≠ []) :
    readLock (lockSql tables) = some (tables.map (·.name)) := by
  have ne : tables.map (·.name) ≠ [] := by simpa using h
  let outline : Outline := ⟨listing "LOCK TABLES " " READ, " (tables.map (·.name)), " READ"⟩
  have form : lockSql tables = outline.statement := by
    have list := join_listing "LOCK TABLES " " READ" "" ne
    rw [List.map_map, String.append_empty, String.append_empty] at list
    exact list
  have separated : outline.Separated := by
    have bareRest : backtick ∉ " READ".toList := by decide
    refine ⟨?_, forall_mem_tail_listing (· ≠ "") (by decide) _, bareRest⟩
    exact forall_mem_listing (backtick ∉ ·.toList) (by decide) (by decide) _
  rw [readLock, form, read_statement separated]
  simp [outline, readListing_listing ne]

/-! ## Equal statements -/

/-- What is read of equal statements is the same. -/
theorem eq_of_read {α : Type} {read : String → Option α} {s s' : String} {x x' : α}
    (h : read s = some x) (h' : read s' = some x') (same : s = s') : x = x' := by
  rw [same, h'] at h
  exact (Option.some.inj h).symm

theorem selectSql_eq_iff (h : t.columns ≠ []) (h' : t'.columns ≠ []) :
    t.selectSql = t'.selectSql ↔ t.name = t'.name ∧ t.columns = t'.columns := by
  constructor
  · intro same
    exact (Prod.mk.inj (eq_of_read (readSelect_selectSql h) (readSelect_selectSql h') same)).symm
  · rintro ⟨name, columns⟩
    rw [selectSql, selectSql, name, columns]

theorem insertStem_eq_iff (h : t.columns ≠ []) (h' : t'.columns ≠ []) :
    t.insertStem = t'.insertStem ↔ t.name = t'.name ∧ t.columns = t'.columns := by
  constructor
  · intro same
    exact Prod.mk.inj (eq_of_read (readStem_insertStem h) (readStem_insertStem h') same)
  · rintro ⟨name, columns⟩
    unfold insertStem
    rw [name, columns]

theorem lockSql_eq_iff (h : tables ≠ []) (h' : tables' ≠ []) :
    lockSql tables = lockSql tables' ↔ tables.map (·.name) = tables'.map (·.name) := by
  constructor
  · exact eq_of_read (readLock_lockSql h) (readLock_lockSql h')
  · intro names
    have locks (tables : List Table) : (tables.map fun t => quoteIdentifier t.name ++ " READ") =
        (tables.map (·.name)).map fun n => quoteIdentifier n ++ " READ" := by
      rw [List.map_map]
      rfl
    rw [lockSql, lockSql, locks, locks, names]

end Table

end LogicalBackup
