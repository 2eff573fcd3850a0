import LogicalBackup.Proofs.Batch.Groups
import LogicalBackup.Proofs.Restore.Statements
import LogicalBackup.Proofs.Value.Tuples

/-!
# Rows through a batch and back

The statements that a batch writes are the ones that restore finds (`forms_flatMap_line`), and a
reader finds in them the literals of all rows, in order (`readInserts_lines`).  So no row is lost,
and none is cut in another way, whatever the length of a packet and the number of rows in a
statement.
-/

namespace LogicalBackup

namespace Batch

/-- The statements of groups are the ones that restore finds. -/
theorem forms_flatMap_line {stem : Bytes} {groups : List (List Bytes)}
    (h : ∀ group ∈ groups, Byte.lineFeed ∉ statement stem group) :
    Forms [] (groups.flatMap (line stem)) (groups.map (line stem)) [] := by
  rw [List.map_eq_flatMap]
  refine forms_flatMap fun group hgroup => ?_
  have feed : line stem group = (statement stem group ++ [Byte.semicolon]) ++ [Byte.lineFeed] := by
    rw [List.append_assoc]
    rfl
  have inside : Byte.lineFeed ∉ statement stem group ++ [Byte.semicolon] := by
    rw [List.mem_append, not_or]
    exact ⟨h group hgroup, by decide⟩
  rw [feed]
  exact forms_line inside List.getLast?_concat []

theorem lineFeed_not_mem_statement {stem : Bytes} (h : Byte.lineFeed ∉ stem)
    (group : List (List Value)) : Byte.lineFeed ∉ statement stem (group.map renderRow) := by
  rw [statement, List.mem_append, not_or]
  refine ⟨h, not_mem_intercalate (by decide) fun part hpart => ?_⟩
  obtain ⟨values, -, rfl⟩ := List.mem_map.1 hpart
  exact lineFeed_not_mem_renderRow values

/-- The reader finds in the statement of a group the literals of its rows. -/
theorem readInsert_line (stem : Bytes) {group : List (List Value)} (h : group ≠ []) :
    readInsert stem (line stem (group.map renderRow)) = some (group.map (·.map literal)) := by
  rw [line, statement, List.append_assoc, readInsert_append]
  exact readTuples_of_rows h

/-- The reader finds in the statements of groups the literals of all their rows. -/
theorem readInserts_lines (stem : Bytes) {groups : List (List (List Value))}
    (h : ∀ group ∈ groups, group ≠ []) :
    readInserts stem (groups.map fun group => line stem (group.map renderRow)) =
      some (groups.flatten.map (·.map literal)) := by
  induction groups with
  | nil => rfl
  | cons group groups ih =>
    obtain ⟨hgroup, hgroups⟩ := List.forall_mem_cons.1 h
    have one : readInserts stem [line stem (group.map renderRow)] =
        some (group.map (·.map literal)) := by
      rw [readInserts, List.mapM_cons, readInsert_line stem hgroup]
      exact congrArg some (List.append_nil _)
    rw [List.map_cons, ← List.singleton_append, readInserts_append one (ih hgroups),
      List.flatten_cons, List.map_append]

/-- Where images are grouped, so are the things themselves. -/
theorem exists_map_map_eq {α β : Type} {f : α → β} {groups : List (List β)} {xs : List α}
    (h : groups.flatten = xs.map f) :
    ∃ parts : List (List α), parts.map (List.map f) = groups ∧ parts.flatten = xs := by
  induction groups generalizing xs with
  | nil => exact ⟨[], rfl, (List.map_eq_nil_iff.1 h.symm).symm⟩
  | cons group groups ih =>
    obtain ⟨a, b, rfl, ha, hb⟩ := List.map_eq_append_iff.1 h.symm
    obtain ⟨parts, hparts, flat⟩ := ih hb.symm
    exact ⟨a :: parts, by rw [List.map_cons, ha, hparts], by rw [List.flatten_cons, flat]⟩

/-- The groups of rows that tuples make. -/
theorem exists_groups_eq (b : Batch) (rows : List (List Value)) :
    ∃ parts : List (List (List Value)), b.groups (rows.map renderRow) =
        parts.map (List.map renderRow) ∧ parts.flatten = rows ∧ ∀ part ∈ parts, part ≠ [] := by
  obtain ⟨parts, hparts, flat⟩ := exists_map_map_eq (b.flatten_groups (rows.map renderRow))
  refine ⟨parts, hparts.symm, flat, ?_⟩
  rintro part hpart rfl
  have : [] ∈ b.groups (rows.map renderRow) := by
    rw [← hparts]
    exact List.mem_map.2 ⟨[], hpart, rfl⟩
  exact ne_nil_of_mem_groups this rfl

/-- The statements that a batch makes of rows. -/
def statements (b : Batch) (rows : List (List Value)) : List Bytes :=
  (b.groups (rows.map renderRow)).map (line b.stem)

/-- Restore finds the statements again. -/
theorem forms_statements {b : Batch} (h : Byte.lineFeed ∉ b.stem) (rows : List (List Value)) :
    Forms [] (b.statements rows).flatten (b.statements rows) [] := by
  obtain ⟨parts, hparts, -, -⟩ := b.exists_groups_eq rows
  rw [statements, ← List.flatMap_def]
  refine forms_flatMap_line fun group hgroup => ?_
  rw [hparts] at hgroup
  obtain ⟨part, -, rfl⟩ := List.mem_map.1 hgroup
  exact lineFeed_not_mem_statement h part

theorem exists_of_mem_statements {b : Batch} {rows : List (List Value)} {st : Bytes}
    (h : st ∈ b.statements rows) : ∃ group : List (List Value), group ≠ [] ∧
      st = b.stem ++ [Byte.comma].intercalate (group.map renderRow) ++ utf8 ";\n" := by
  obtain ⟨parts, hparts, -, ne⟩ := b.exists_groups_eq rows
  rw [statements, hparts, List.map_map] at h
  obtain ⟨part, hpart, rfl⟩ := List.mem_map.1 h
  exact ⟨part, ne part hpart, rfl⟩

theorem readInserts_statements (b : Batch) (rows : List (List Value)) :
    readInserts b.stem (b.statements rows) = some (rows.map (·.map literal)) := by
  obtain ⟨parts, hparts, flat, ne⟩ := b.exists_groups_eq rows
  rw [statements, hparts, List.map_map, ← flat]
  exact readInserts_lines b.stem ne

end Batch

variable {ω : Type} {sink : Sink ω} {fit : ω → Prop} {content : ω → Bytes}

/-- Rows that are added to a batch over a sink that never fails come back from the statements that
restore finds.  What is read in them does not depend on the length of a packet and on the number of
rows in a statement. -/
theorem insert_restores_rows (h : sink.NeverFails fit content) {w : ω} (hw : fit w)
    {stem : Bytes} (hs : stem ≠ []) (hlf : Byte.lineFeed ∉ stem) (rows : List (List Value)) :
    ∃ statements : Nat → Bool → List Bytes,
      (∀ packet extended, ∃ stats out,
        let batch : Batch := { stem, packet, extended }
        let final := (batch.insert (rows.map renderRow)).run sink.writer.answer w
        final.1 = .ok stats ∧ content final.2 = content w ++ out ∧
          SplitsInto out (statements packet extended) [] ∧
          (statements packet extended).length = stats.statements ∧ stats.rows = rows.length ∧
          (∀ statement ∈ statements packet extended, ∃ group : List (List Value), group ≠ [] ∧
            statement = stem ++ [Byte.comma].intercalate (group.map renderRow) ++ utf8 ";\n") ∧
          readInserts stem (statements packet extended) = some (rows.map (·.map literal))) ∧
      ∀ packet extended packet' extended',
        readInserts stem (statements packet extended) =
          readInserts stem (statements packet' extended') := by
  refine ⟨fun packet extended => Batch.statements { stem, packet, extended } rows, ?_, ?_⟩
  · intro packet extended
    let b : Batch := { stem, packet, extended }
    obtain ⟨ok, grown⟩ := (Batch.writes_insert (b := b) hs {} (rows.map renderRow)).run h.records hw
    refine ⟨_, _, ok, grown, (Batch.forms_statements hlf rows).splitsInto, ?_, ?_, ?_, ?_⟩
    · have : (b.statements rows).length = (b.groups (rows.map renderRow)).length :=
        List.length_map _
      exact this.trans (Nat.zero_add _).symm
    · have : (rows.map renderRow).length = rows.length := List.length_map _
      exact (Nat.zero_add _).trans this
    · exact fun st => Batch.exists_of_mem_statements
    · exact Batch.readInserts_statements b rows
  · intro packet extended packet' extended'
    have first := Batch.readInserts_statements { stem, packet, extended } rows
    have second := Batch.readInserts_statements
      { stem, packet := packet', extended := extended' } rows
    exact first.trans second.symm

/-- A text that looks like the end of a tuple and of a statement comes back as one literal. -/
theorem insert_restores_rows_of_text :
    ∃ stats out statements,
      let stem := utf8 "INSERT INTO t VALUES "
      let batch : Batch := { stem, packet := 40, extended := true }
      let rows : List (List Value) := [[.text "'),(;\n"], [.null]]
      let final := (batch.insert (rows.map renderRow)).run Medium.sink.writer.answer {}
      final.1 = .ok stats ∧ final.2.content = out ∧ SplitsInto out statements [] ∧
        readInserts stem statements = some [[utf8 "'\\'),(;\\n'"], [utf8 "NULL"]] := by
  have stem : utf8 "INSERT INTO t VALUES " ≠ [] := by decide
  have feed : Byte.lineFeed ∉ utf8 "INSERT INTO t VALUES " := by decide
  obtain ⟨statements, restored, -⟩ := insert_restores_rows Medium.neverFails_sink (w := {})
    ⟨rfl, rfl⟩ stem feed [[.text "'),(;\n"], [.null]]
  obtain ⟨stats, out, ok, grown, split, -, -, -, read⟩ := restored 40 true
  exact ⟨stats, out, _, ok, grown, split, read⟩

end LogicalBackup
