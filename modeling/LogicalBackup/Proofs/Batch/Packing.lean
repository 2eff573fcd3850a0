import LogicalBackup.Proofs.Batch.Groups
import Mathlib.Algebra.GroupWithZero.Nat
import Mathlib.Data.List.Chain
import Mathlib.Data.List.Infix

/-!
# Batches and packets

An extended statement with several tuples is no longer than a packet, and it is ended only where the
next tuple would make it longer (`Batch.Greedy`).  Whatever is cut as late as possible is cut as
seldom as possible (`length_le_of_greedy`), so no other way of putting the tuples into statements
that respect the same bound has fewer of them (`insert_packs_rows`).
-/

namespace LogicalBackup

/-! ## Cutting as late as possible -/

section Cutting

variable {α : Type} {fits : List α → Prop}

/-- The second group begins with what would not have fitted the first. -/
def Overflows (fits : List α → Prop) (g g' : List α) : Prop :=
  ∃ x rest, g' = x :: rest ∧ ¬fits (g ++ [x])

/-- What goes on after a group that overflows goes on after every group that fits and does not
begin later. -/
theorem suffix_of_overflows (sub : ∀ {g g' : List α}, g' <:+: g → fits g → fits g')
    {g p xs ys : List α} (fit : fits p) {x : α} (excess : ¬fits (g ++ [x]))
    (h : g ++ x :: xs <:+ p ++ ys) : x :: xs <:+ ys := by
  obtain ⟨before, whole⟩ := h
  have split : (before ++ g) ++ x :: xs = p ++ ys := by rw [List.append_assoc, whole]
  rcases List.append_eq_append_iff.1 split with ⟨mid, rfl, rest⟩ | ⟨mid, -, rest⟩
  · cases mid with
    | nil => exact ⟨[], rest⟩
    | cons y mid =>
      -- the group that fits would hold the one that overflows
      obtain ⟨rfl, rfl⟩ := List.cons.inj rest
      refine absurd (sub ⟨before, mid, ?_⟩ fit) excess
      simp only [List.append_assoc, List.singleton_append]
  · exact ⟨mid, rest.symm⟩

/-- Groups of which each overflows at the next are no more than any groups that fit and hold the
same, or more in front. -/
theorem length_le_of_greedy (sub : ∀ {g g' : List α}, g' <:+: g → fits g → fits g')
    {groups parts : List (List α)} (ne : ∀ g ∈ groups, g ≠ [])
    (greedy : groups.IsChain (Overflows fits)) (fit : ∀ p ∈ parts, fits p)
    (h : groups.flatten <:+ parts.flatten) : groups.length ≤ parts.length := by
  induction parts generalizing groups with
  | nil =>
    cases groups with
    | nil => exact Nat.le_refl _
    | cons g groups =>
      rw [List.flatten_nil, List.suffix_nil, List.flatten_cons, List.append_eq_nil_iff] at h
      exact absurd h.1 (ne g List.mem_cons_self)
  | cons p parts ih =>
    obtain ⟨first, others⟩ := List.forall_mem_cons.1 fit
    match groups, greedy with
    | [], _ => exact Nat.zero_le _
    | [g], _ => exact Nat.succ_le_succ (Nat.zero_le _)
    | g :: g' :: groups, .cons_cons ⟨x, rest, same, excess⟩ greedy =>
      subst same
      have later : ((x :: rest) :: groups).flatten <:+ parts.flatten :=
        suffix_of_overflows sub first excess h
      exact Nat.succ_le_succ (ih (fun q hq => ne q (List.mem_cons_of_mem _ hq)) greedy others later)

end Cutting

namespace Batch

variable {b : Batch}

/-- A group whose statement, if it holds several tuples, is no longer than a packet. -/
def FitsPacket (stem : Bytes) (packet : Nat) (group : List Bytes) : Prop :=
  2 ≤ group.length → (statement stem group).length ≤ packet

theorem fitsPacket_singleton (stem : Bytes) (packet : Nat) (row : Bytes) :
    FitsPacket stem packet [row] :=
  fun several => absurd several (Nat.not_succ_le_self 1)

/-- There is a comma before each tuple but the first. -/
theorem length_statement (stem : Bytes) (group : List Bytes) :
    (statement stem group).length =
      stem.length + (group.map List.length).sum + (group.length - 1) := by
  induction group using List.reverseRecOn with
  | nil => simp [statement]
  | append_singleton group row ih =>
    by_cases none : group = []
    · rw [none, List.nil_append, statement_singleton, List.length_append]
      simp
    · have some := List.length_pos_iff.2 none
      rw [statement_concat stem none, List.length_append, ih]
      simp only [List.map_append, List.sum_append, List.length_append, List.map_cons, List.map_nil,
        List.sum_cons, List.sum_nil, List.length_cons, List.length_nil]
      omega

/-- A part of a group that fits a packet fits it too. -/
theorem FitsPacket.infix {stem : Bytes} {packet : Nat} {group part : List Bytes}
    (h : part <:+: group) (fits : FitsPacket stem packet group) : FitsPacket stem packet part := by
  obtain ⟨before, after, rfl⟩ := h
  intro several
  simp only [FitsPacket, length_statement, List.map_append, List.sum_append, List.length_append]
    at fits ⊢
  omega

/-- A tuple as long as a packet has a statement of its own. -/
theorem FitsPacket.eq_singleton {stem : Bytes} {packet : Nat} {group : List Bytes}
    (fits : FitsPacket stem packet group) {row : Bytes} (h : row ∈ group)
    (long : packet - 1 < row.length) : group = [row] := by
  obtain ⟨before, after, rfl⟩ := List.append_of_mem h
  simp only [FitsPacket, length_statement, List.map_append, List.sum_append, List.length_append,
    List.map_cons, List.sum_cons, List.length_cons] at fits
  have none : before.length = 0 ∧ after.length = 0 := by omega
  rw [List.eq_nil_of_length_eq_zero none.1, List.eq_nil_of_length_eq_zero none.2]
  rfl

/-! ## The groups of an extended batch -/

/-- All groups that come of a pending group and further tuples. -/
def groupsFrom (b : Batch) (group rows : List Bytes) : List (List Bytes) :=
  (b.placeAll group rows).1 ++ closed (b.placeAll group rows).2

/-- The tuple makes the statement of the group longer than a packet. -/
def Exceeds (b : Batch) (group : List Bytes) (row : Bytes) : Prop :=
  b.bound < (statement b.stem group).length + row.length

instance (b : Batch) (group : List Bytes) (row : Bytes) : Decidable (b.Exceeds group row) :=
  Nat.decLt _ _

theorem groupsFrom_cons (ext : b.extended = true) {group : List Bytes} (h : group ≠ [])
    (row : Bytes) (rows : List Bytes) :
    b.groupsFrom group (row :: rows) =
      if b.Exceeds group row then group :: b.groupsFrom [row] rows
      else b.groupsFrom (group ++ [row]) rows := by
  have place : b.place group row =
      if b.Exceeds group row then ([group], [row]) else ([], group ++ [row]) := by
    unfold Batch.place Exceeds
    simp [ext, h]
  unfold groupsFrom
  rw [placeAll, place]
  split_ifs <;> rfl

/-- The pending group is the start of the first of all groups. -/
theorem exists_groupsFrom_eq (ext : b.extended = true) {group : List Bytes} (h : group ≠ [])
    (rows : List Bytes) : ∃ more rest, b.groupsFrom group rows = (group ++ more) :: rest := by
  induction rows generalizing group with
  | nil =>
    refine ⟨[], [], ?_⟩
    rw [groupsFrom, placeAll, closed, if_neg (mt List.isEmpty_iff.1 h), List.append_nil]
    rfl
  | cons row rows ih =>
    rw [groupsFrom_cons ext h]
    split_ifs
    · exact ⟨[], b.groupsFrom [row] rows, by rw [List.append_nil]⟩
    · have ne : group ++ [row] ≠ [] := by simp
      obtain ⟨more, rest, same⟩ := ih ne
      exact ⟨row :: more, rest, by rw [same, List.append_assoc, List.singleton_append]⟩

/-- What is true of the groups of an extended batch: each fits a packet, and each but the last would
not with the first tuple of the next. -/
structure Greedy (b : Batch) (groups : List (List Bytes)) : Prop where
  fits : ∀ g ∈ groups, FitsPacket b.stem b.packet g
  exceeds : groups.IsChain fun g g' => ∃ row rest, g' = row :: rest ∧ b.Exceeds g row

theorem greedy_groupsFrom (ext : b.extended = true) (pos : 1 ≤ b.packet) {group : List Bytes}
    (h : group ≠ []) (fits : FitsPacket b.stem b.packet group) (rows : List Bytes) :
    b.Greedy (b.groupsFrom group rows) := by
  induction rows generalizing group with
  | nil =>
    have alone : b.groupsFrom group [] = [group] := by
      rw [groupsFrom, placeAll, closed, if_neg (mt List.isEmpty_iff.1 h)]
      rfl
    rw [alone]
    exact ⟨List.forall_mem_singleton.2 fits, .singleton _⟩
  | cons row rows ih =>
    rw [groupsFrom_cons ext h]
    split_ifs with exceeds
    · obtain ⟨each, chain⟩ := ih (List.cons_ne_nil row []) (fitsPacket_singleton _ _ row)
      obtain ⟨more, rest, same⟩ := exists_groupsFrom_eq ext (List.cons_ne_nil row []) rows
      rw [same] at each chain ⊢
      exact ⟨List.forall_mem_cons.2 ⟨fits, each⟩, .cons_cons ⟨row, more, rfl, exceeds⟩ chain⟩
    · refine ih (by simp) fun _ => ?_
      rw [Exceeds, bound] at exceeds
      rw [statement_concat _ h, List.length_append, List.length_cons]
      omega

theorem greedy_groups (ext : b.extended = true) (pos : 1 ≤ b.packet) (rows : List Bytes) :
    b.Greedy (b.groups rows) := by
  cases rows with
  | nil => exact ⟨fun g hg => absurd hg List.not_mem_nil, .nil⟩
  | cons row rows =>
    have first : b.groups (row :: rows) = b.groupsFrom [row] rows := by
      have place : b.place [] row = ([], [row]) := by
        unfold Batch.place
        simp [ext]
      rw [groups, groupsFrom, placeAll, place]
      rfl
    rw [first]
    exact greedy_groupsFrom ext pos (List.cons_ne_nil row []) (fitsPacket_singleton _ _ row) rows

/-- A statement that a tuple makes too long does not fit a packet with it. -/
theorem Greedy.overflows {groups : List (List Bytes)} (h : b.Greedy groups)
    (ne : ∀ g ∈ groups, g ≠ []) : groups.IsChain (Overflows (FitsPacket b.stem b.packet)) := by
  refine h.exceeds.imp_of_mem_imp fun g g' hg _ ⟨row, rest, same, exceeds⟩ => ?_
  refine ⟨row, rest, same, fun fits => ?_⟩
  have some := List.length_pos_iff.2 (ne g hg)
  have long := fits (by rw [List.length_append, List.length_singleton]; omega)
  rw [Exceeds, bound] at exceeds
  rw [statement_concat _ (ne g hg), List.length_append, List.length_cons] at long
  omega

/-! ## What is written -/

/-- The groups hold the tuples in their order.  Their statements, if they hold several, are no
longer than a packet, and there is no way to have fewer such statements. -/
structure Packing (stem : Bytes) (packet : Nat) (rows : List Bytes) (groups : List (List Bytes)) :
    Prop where
  flatten : groups.flatten = rows
  ne_nil : ∀ g ∈ groups, g ≠ []
  fits : ∀ g ∈ groups, FitsPacket stem packet g
  /-- A group ends where the next tuple, with a comma before it, would make its statement longer
  than a packet. -/
  exceeds : groups.IsChain fun g g' => ∃ row rest, g' = row :: rest ∧
    packet - 1 < (statement stem g).length + row.length
  alone : ∀ g ∈ groups, ∀ row ∈ g, packet - 1 < row.length → g = [row]
  fewest : ∀ parts : List (List Bytes), parts.flatten = rows →
    (∀ part ∈ parts, FitsPacket stem packet part) → groups.length ≤ parts.length

theorem packing_groups (ext : b.extended = true) (pos : 1 ≤ b.packet) (rows : List Bytes) :
    Packing b.stem b.packet rows (b.groups rows) where
  flatten := b.flatten_groups rows
  ne_nil _ := ne_nil_of_mem_groups
  fits := (greedy_groups ext pos rows).fits
  exceeds := (greedy_groups ext pos rows).exceeds
  alone g hg _ := ((greedy_groups ext pos rows).fits g hg).eq_singleton
  fewest parts same each := by
    refine length_le_of_greedy FitsPacket.infix (fun g => ne_nil_of_mem_groups)
      ((greedy_groups ext pos rows).overflows fun g => ne_nil_of_mem_groups) each ?_
    rw [flatten_groups, same]

end Batch

section Insert

variable {ω : Type} {sink : Sink ω} {fit : ω → Prop} {content : ω → Bytes}

/-- An extended batch over a sink that never fails writes its rows in as few statements as the
length of a packet allows, each of them as long as it allows.  Without rows it does not touch the
sink. -/
theorem insert_packs_rows (never : sink.NeverFails fit content) (stem : Bytes) (hs : stem ≠ [])
    (packet : Nat) (pos : 1 ≤ packet) (rows : List Bytes) :
    let batch : Batch := { stem, packet, extended := true }
    (∀ w, fit w → ∃ groups, Batch.Packing stem packet rows groups ∧
      let final := (batch.insert rows).run sink.writer.answer w
      final.1 = .ok { rows := rows.length, statements := groups.length } ∧
        content final.2 = content w ++
          groups.flatMap fun g => Batch.statement stem g ++ utf8 ";\n") ∧
    ∀ w, (batch.insert []).run sink.writer.answer w = (.ok {}, w) := by
  intro batch
  refine ⟨fun w hw => ⟨batch.groups rows, Batch.packing_groups (b := batch) rfl pos rows, ?_⟩,
    fun w => rfl⟩
  obtain ⟨ok, grown⟩ := (Batch.writes_insert (b := batch) hs {} rows).run never.records hw
  refine ⟨ok.trans ?_, grown⟩
  rw [Batch.counted, Nat.zero_add, Nat.zero_add]

/-- Of three rows two have room in a packet of twelve bytes. -/
theorem insert_packs_three_rows :
    let rows := [utf8 "(1)", utf8 "(2)", utf8 "(3)"]
    ∃ groups : List (List Bytes), groups.flatten = rows ∧ groups.length ≤ 2 ∧
      (({ stem := utf8 "I ", packet := 12, extended := true : Batch }.insert rows).run
        Medium.sink.writer.answer {}).1 = .ok { rows := 3, statements := groups.length } := by
  intro rows
  obtain ⟨packed, -⟩ := insert_packs_rows Medium.neverFails_sink (utf8 "I ") (by decide) 12
    (by decide) rows
  obtain ⟨groups, packing, ok, -⟩ := packed {} ⟨rfl, rfl⟩
  refine ⟨groups, packing.flatten, ?_, ok⟩
  refine packing.fewest [[utf8 "(1)", utf8 "(2)"], [utf8 "(3)"]] rfl ?_
  unfold Batch.FitsPacket
  decide

end Insert

end LogicalBackup
