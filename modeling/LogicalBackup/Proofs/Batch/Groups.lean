import LogicalBackup.Batch
import LogicalBackup.Proofs.Sink.Recording
import Mathlib.Tactic.SplitIfs

/-!
# The groups of a batch

A batch writes tuples in groups, one statement for each.  `Batch.place` says which group a tuple
closes and which one it joins, and `Batch.groups` which groups a list of tuples makes.  They hold
all tuples, in their order (`Batch.flatten_groups`), and their statements are what the batch writes
(`Batch.writes_insert`).
-/

namespace LogicalBackup.Batch

/-- The statement of a group of tuples, up to its end. -/
def statement (stem : Bytes) (group : List Bytes) : Bytes := stem ++ [Byte.comma].intercalate group

/-- The statement of a group with its end. -/
def line (stem : Bytes) (group : List Bytes) : Bytes := statement stem group ++ utf8 ";\n"

/-- What is pending for a group. -/
def body (stem : Bytes) (group : List Bytes) : Bytes :=
  if group.isEmpty then [] else statement stem group

/-- The batch with a group pending. -/
def holding (b : Batch) (group : List Bytes) (stats : BatchStats) : Batch :=
  { b with pending := body b.stem group, stats }

/-- The groups that a tuple closes when it is added to a pending one, and the group that is pending
then. -/
def place (b : Batch) (group : List Bytes) (row : Bytes) : List (List Bytes) × List Bytes :=
  if !b.extended then ([[row]], group)
  else if !group.isEmpty && b.bound < (statement b.stem group).length + row.length then
    ([group], [row])
  else ([], group ++ [row])

/-- `place` for one tuple after another. -/
def placeAll (b : Batch) (group : List Bytes) : List Bytes → List (List Bytes) × List Bytes
  | [] => ([], group)
  | row :: rows =>
    ((b.place group row).1 ++ (b.placeAll (b.place group row).2 rows).1,
      (b.placeAll (b.place group row).2 rows).2)

/-- A group, unless it is empty. -/
def closed (group : List Bytes) : List (List Bytes) := if group.isEmpty then [] else [group]

/-- The groups that tuples make. -/
def groups (b : Batch) (rows : List Bytes) : List (List Bytes) :=
  (b.placeAll [] rows).1 ++ closed (b.placeAll [] rows).2

/-- Adds tuples, up to the first that fails. -/
def pushRows (b : Batch) : List Bytes → Writing (Except IoFault Unit × Batch)
  | [] => return (.ok (), b)
  | row :: rows => do
    match ← b.pushRow row with
    | (.error fault, b) => return (.error fault, b)
    | (.ok (), b) => b.pushRows rows

/-- Adds tuples and writes the last statement. -/
def insert (b : Batch) (rows : List Bytes) : Writing (Except IoFault BatchStats) := do
  match ← b.pushRows rows with
  | (.error fault, _) => return .error fault
  | (.ok (), b) => b.finish

/-! ## What groups hold -/

@[simp] theorem flatten_closed (group : List Bytes) : (closed group).flatten = group := by
  cases group <;> simp [closed]

theorem ne_nil_of_mem_closed {group g : List Bytes} (h : g ∈ closed group) : g ≠ [] := by
  cases group with
  | nil => exact absurd h List.not_mem_nil
  | cons row rows =>
    rw [List.mem_singleton.1 h]
    exact List.cons_ne_nil _ _

variable {b : Batch}

/-- No tuple is lost or moved: a batch of simple statements has no group pending. -/
theorem flatten_place (group : List Bytes) (row : Bytes) (h : b.extended ∨ group = []) :
    (b.place group row).1.flatten ++ (b.place group row).2 = group ++ [row] ∧
      (b.extended ∨ (b.place group row).2 = []) := by
  unfold place
  rcases Bool.eq_false_or_eq_true b.extended with ext | simple
  · rw [if_neg (by simp [ext])]
    split_ifs <;> simp [ext]
  · obtain rfl : group = [] := by simpa [simple] using h
    simp [simple]

theorem flatten_placeAll (group rows : List Bytes) (h : b.extended ∨ group = []) :
    (b.placeAll group rows).1.flatten ++ (b.placeAll group rows).2 = group ++ rows := by
  induction rows generalizing group with
  | nil => exact (List.append_nil group).symm
  | cons row rows ih =>
    obtain ⟨one, inv⟩ := flatten_place group row h
    rw [placeAll, List.flatten_append, List.append_assoc, ih _ inv, ← List.append_assoc, one,
      List.append_assoc, List.singleton_append]

theorem placeAll_append (group xs ys : List Bytes) :
    b.placeAll group (xs ++ ys) =
      ((b.placeAll group xs).1 ++ (b.placeAll (b.placeAll group xs).2 ys).1,
        (b.placeAll (b.placeAll group xs).2 ys).2) := by
  induction xs generalizing group with
  | nil => rfl
  | cons x xs ih => simp only [List.cons_append, placeAll, ih, List.append_assoc]

/-- The groups that the first tuples close are the first of all groups. -/
theorem placeAll_prefix_groups {xs ys : List Bytes} (h : xs <+: ys) :
    (b.placeAll [] xs).1 <+: b.groups ys := by
  obtain ⟨zs, rfl⟩ := h
  rw [groups, placeAll_append, List.append_assoc]
  exact List.prefix_append _ _

/-- The groups hold all tuples, in their order. -/
theorem flatten_groups (b : Batch) (rows : List Bytes) : (b.groups rows).flatten = rows := by
  rw [groups, List.flatten_append, flatten_closed]
  exact flatten_placeAll [] rows (Or.inr rfl)

/-- Each tuple of a batch of simple statements is a group of its own. -/
theorem groups_of_simple (simple : b.extended = false) (rows : List Bytes) :
    b.groups rows = rows.map ([·]) := by
  have all : b.placeAll [] rows = (rows.map ([·]), []) := by
    induction rows with
    | nil => rfl
    | cons row rows ih =>
      have one : b.place [] row = ([[row]], []) := by
        rw [place, simple]
        rfl
      rw [placeAll, one, ih]
      rfl
  rw [groups, all, closed]
  exact List.append_nil _

theorem ne_nil_of_mem_place {group g : List Bytes} {row : Bytes} (h : g ∈ (b.place group row).1) :
    g ≠ [] := by
  unfold place at h
  split_ifs at h with simple full
  · rw [List.mem_singleton.1 h]
    exact List.cons_ne_nil _ _
  · rintro rfl
    obtain rfl := List.mem_singleton.1 h
    simp at full
  · exact absurd h List.not_mem_nil

theorem ne_nil_of_mem_placeAll {group g : List Bytes} {rows : List Bytes}
    (h : g ∈ (b.placeAll group rows).1) : g ≠ [] := by
  induction rows generalizing group with
  | nil => exact absurd h List.not_mem_nil
  | cons row rows ih =>
    rcases List.mem_append.1 h with h | h
    · exact ne_nil_of_mem_place h
    · exact ih h

theorem ne_nil_of_mem_groups {g : List Bytes} {rows : List Bytes} (h : g ∈ b.groups rows) :
    g ≠ [] := by
  rcases List.mem_append.1 h with h | h
  · exact ne_nil_of_mem_placeAll h
  · exact ne_nil_of_mem_closed h

/-! ## What a batch writes -/

theorem statement_singleton (stem row : Bytes) : statement stem [row] = stem ++ row := by
  rw [statement, List.intercalate_singleton]

/-- A further tuple follows a comma. -/
theorem statement_concat (stem : Bytes) {group : List Bytes} (h : group ≠ []) (row : Bytes) :
    statement stem (group ++ [row]) = statement stem group ++ Byte.comma :: row := by
  unfold statement
  rw [List.append_assoc]
  congr 1
  induction group with
  | nil => exact absurd rfl h
  | cons r group ih =>
    by_cases hg : group = []
    · subst hg
      rw [List.cons_append, List.nil_append, List.intercalate_cons_cons,
        List.intercalate_singleton, List.intercalate_singleton, List.append_assoc,
        List.singleton_append]
    · rw [List.cons_append, List.intercalate_cons_of_ne_nil (by simp), ih hg,
        List.intercalate_cons_of_ne_nil hg]
      simp only [List.append_assoc]

theorem statement_ne_nil {stem : Bytes} (h : stem ≠ []) (group : List Bytes) :
    statement stem group ≠ [] := by
  unfold statement
  exact List.append_ne_nil_of_left_ne_nil h _

/-- With a stem that is not empty, nothing is pending for the empty group alone. -/
theorem isEmpty_body {stem : Bytes} (h : stem ≠ []) (group : List Bytes) :
    (body stem group).isEmpty = group.isEmpty := by
  unfold body
  by_cases hg : group.isEmpty
  · rw [if_pos hg, hg]
    rfl
  · rw [if_neg hg, eq_false_of_ne_true hg, List.isEmpty_eq_false_iff]
    exact statement_ne_nil h group

theorem body_of_ne_nil (stem : Bytes) {group : List Bytes} (h : group ≠ []) :
    body stem group = statement stem group := by
  rw [body, if_neg (mt List.isEmpty_iff.1 h)]

theorem body_concat (stem : Bytes) (group : List Bytes) (row : Bytes) :
    body stem (group ++ [row]) =
      if group.isEmpty then stem ++ row else body stem group ++ Byte.comma :: row := by
  rw [body_of_ne_nil stem (by simp)]
  by_cases hg : group = []
  · rw [hg]
    exact statement_singleton stem row
  · rw [if_neg (mt List.isEmpty_iff.1 hg), statement_concat stem hg, body_of_ne_nil stem hg]

/-- A tuple joins the pending group. -/
theorem append_holding (hs : b.stem ≠ []) (group : List Bytes) (stats : BatchStats) (row : Bytes) :
    (b.holding group stats).append row = b.holding (group ++ [row]) stats := by
  simp only [append, holding, isEmpty_body hs, body_concat]

theorem isFull_holding (hs : b.stem ≠ []) (group : List Bytes) (stats : BatchStats) (row : Bytes) :
    (b.holding group stats).isFull row =
      (!group.isEmpty && b.bound < (statement b.stem group).length + row.length) := by
  have pending : (b.holding group stats).pending = body b.stem group := rfl
  have bound : (b.holding group stats).bound = b.bound := rfl
  unfold isFull
  rw [pending, bound, isEmpty_body hs]
  by_cases hg : group = []
  · rw [hg]
    rfl
  · rw [body_of_ne_nil b.stem hg]

theorem writes_emit (b : Batch) (statement : Bytes) :
    Writes (b.emit statement)
      (.ok (), { b with stats := { b.stats with statements := b.stats.statements + 1 } })
      (statement ++ utf8 ";\n") := by
  unfold emit
  refine (writes_write statement).bind ?_
  rw [← List.append_nil (utf8 ";\n")]
  exact (writes_write _).bind (writes_done _)

/-- The counts after a tuple that closes some groups. -/
def counted (stats : BatchStats) (rows : Nat) (closed : List (List Bytes)) : BatchStats where
  rows := stats.rows + rows
  statements := stats.statements + closed.length

theorem writes_pushRow (hs : b.stem ≠ []) (group : List Bytes) (stats : BatchStats) (row : Bytes) :
    Writes ((b.holding group stats).pushRow row)
      (.ok (), b.holding (b.place group row).2 (counted stats 1 (b.place group row).1))
      ((b.place group row).1.flatMap (line b.stem)) := by
  have start : (b.holding group stats).pushRow row =
      let c := b.holding group { stats with rows := stats.rows + 1 }
      if !b.extended then c.emit (b.stem ++ row)
      else if c.isFull row then do
        match ← { c with pending := [] }.emit (body b.stem group) with
        | (.error fault, c) => return (.error fault, c)
        | (.ok (), c) => return (.ok (), c.append row)
      else return (.ok (), c.append row) := rfl
  rw [start]
  dsimp only
  rw [isFull_holding hs]
  unfold place
  split_ifs with simple full
  · have emitted := writes_emit (b.holding group { stats with rows := stats.rows + 1 })
      (b.stem ++ row)
    refine emitted.congr rfl ?_
    simp [line, statement_singleton]
  · have hg : group ≠ [] := by
      rintro rfl
      simp at full
    have emitted := writes_emit (b.holding [] { stats with rows := stats.rows + 1 })
      (body b.stem group)
    refine (emitted.bind_done (c := (.ok (), _)) ?_).congr rfl ?_
    · exact congrArg (fun c => Program.done (Except.ok (), c)) (append_holding hs [] _ row)
    · rw [body_of_ne_nil b.stem hg]
      simp [line]
  · exact (writes_done _).congr (congrArg _ (append_holding hs group _ row)) rfl

theorem writes_pushRows (hs : b.stem ≠ []) (group : List Bytes) (stats : BatchStats)
    (rows : List Bytes) :
    Writes ((b.holding group stats).pushRows rows)
      (.ok (), b.holding (b.placeAll group rows).2
        (counted stats rows.length (b.placeAll group rows).1))
      ((b.placeAll group rows).1.flatMap (line b.stem)) := by
  induction rows generalizing group stats with
  | nil => exact writes_done _
  | cons row rows ih =>
    refine ((writes_pushRow hs group stats row).bind (ih _ _)).congr ?_ ?_
    · simp only [placeAll, counted, List.length_append, List.length_cons, Nat.add_assoc,
        Nat.add_comm 1]
    · rw [placeAll, List.flatMap_append]

theorem writes_finish (hs : b.stem ≠ []) (group : List Bytes) (stats : BatchStats) :
    Writes (b.holding group stats).finish (.ok (counted stats 0 (closed group)))
      ((closed group).flatMap (line b.stem)) := by
  have start : (b.holding group stats).finish =
      if (body b.stem group).isEmpty then return .ok stats
      else do
        match ← (b.holding [] stats).emit (body b.stem group) with
        | (.error fault, _) => return .error fault
        | (.ok (), c) => return .ok c.stats := rfl
  rw [start, isEmpty_body hs]
  unfold closed
  split_ifs with h
  · exact writes_done _
  · have hg : group ≠ [] := mt List.isEmpty_iff.2 h
    have emitted := writes_emit (b.holding [] stats) (body b.stem group)
    refine (emitted.bind_done (c := .ok (counted stats 0 [group])) rfl).congr rfl ?_
    rw [body_of_ne_nil b.stem hg]
    simp [line]

/-- The statements of the groups are what an empty batch writes. -/
theorem writes_insert (hs : b.stem ≠ []) (stats : BatchStats) (rows : List Bytes) :
    Writes ((b.holding [] stats).insert rows)
      (.ok (counted stats rows.length (b.groups rows)))
      ((b.groups rows).flatMap (line b.stem)) := by
  refine ((writes_pushRows hs [] stats rows).bind (writes_finish hs _ _)).congr ?_ ?_
  · simp only [groups, counted, List.length_append, Nat.add_assoc, Nat.add_zero]
  · rw [groups, List.flatMap_append]

end LogicalBackup.Batch
