import LogicalBackup.Proofs.Batch.Groups
import LogicalBackup.Proofs.Program.Outcome
import Mathlib.Data.List.Forall2
import Mathlib.Tactic.ByContra
import Mathlib.Tactic.Push

/-!
# Rows that arrive

A row that arrives can be scanned if it has a cell for each column and the class of each column can
scan its cell (`ScansRow`).  Of rows that can be scanned a batch makes what it makes of their tuples
(`pushAll_eq`), and it fails where one cannot be scanned (`fails_pushAll`).  Apart from that it
fails exactly where a write does.
-/

namespace LogicalBackup

open Program

/-- The row has as many cells as there are columns, and each can be scanned. -/
def ScansRow (classes : List ColumnClass) (cells : List Cell) : Prop :=
  cells.length = classes.length ∧ ∀ p ∈ classes.zip cells, ∃ v, p.1.scan p.2 = .ok v

/-- The rows arrive without a fault, and each can be scanned. -/
def ResultStream.Scans (s : ResultStream) : Prop :=
  s.failure = none ∧ ∀ cells ∈ s.rows, ScansRow (s.columns.map Column.cellClass) cells

/-- The rows arrive without a fault, and these are their values. -/
def ResultStream.Holds (s : ResultStream) (values : List (List Value)) : Prop :=
  s.failure = none ∧ List.Forall₂ (fun cells vs => cells.length = s.columns.length ∧
    ((s.columns.map Column.cellClass).zip cells).mapM (fun (c, cell) => c.scan cell) = .ok vs)
    s.rows values

/-- The fault with which rows cease to arrive, if there is one. -/
def ResultStream.ending (s : ResultStream) : Except Fault Unit :=
  match s.failure with
  | some fault => .error fault
  | none => .ok ()

theorem mapM_eq_ok_iff {α β ε : Type} {f : α → Except ε β} {xs : List α} {ys : List β} :
    xs.mapM f = .ok ys ↔ List.Forall₂ (fun x y => f x = .ok y) xs ys := by
  induction xs generalizing ys with
  | nil =>
    rw [List.forall₂_nil_left_iff]
    exact ⟨fun h => (Except.ok.inj h).symm, fun h => h ▸ rfl⟩
  | cons x xs ih =>
    rw [List.mapM_cons, List.forall₂_cons_left_iff]
    constructor
    · intro h
      cases hx : f x with
      | error e =>
        rw [hx] at h
        cases h
      | ok y =>
        cases hxs : xs.mapM f with
        | error e =>
          rw [hx, hxs] at h
          cases h
        | ok zs =>
          rw [hx, hxs] at h
          cases h
          exact ⟨y, zs, rfl, ih.1 hxs, rfl⟩
    · rintro ⟨y, zs, hy, hzs, rfl⟩
      rw [hy, ih.2 hzs]
      rfl

theorem exists_mapM_eq_ok_iff {α β ε : Type} {f : α → Except ε β} {xs : List α} :
    (∃ ys, xs.mapM f = .ok ys) ↔ ∀ x ∈ xs, ∃ y, f x = .ok y := by
  simp only [mapM_eq_ok_iff]
  induction xs with
  | nil => exact iff_of_true ⟨[], .nil⟩ fun x hx => absurd hx List.not_mem_nil
  | cons x xs ih =>
    rw [List.forall_mem_cons, ← ih]
    constructor
    · rintro ⟨ys, h⟩
      obtain ⟨y, zs, hy, hzs, rfl⟩ := List.forall₂_cons_left_iff.1 h
      exact ⟨⟨y, hy⟩, zs, hzs⟩
    · rintro ⟨⟨y, hy⟩, zs, hzs⟩
      exact ⟨y :: zs, .cons hy hzs⟩

theorem Writing.isOk_iff {op : WriterOp} {answer : op.Reply} :
    IsOk answer ↔ ¬Writing.Failed ⟨op, answer⟩ := by
  rw [Writing.Failed, not_not]
  constructor
  · rintro ⟨u, h, -⟩
    exact h
  · exact fun h => ⟨(), h, trivial⟩

namespace Batch

variable {b : Batch}

theorem scanRow_eq_ok_iff {cells : List Cell} {values : List Value} :
    b.scanRow cells = .ok values ↔ cells.length = b.classes.length ∧
      (b.classes.zip cells).mapM (fun (c, cell) => c.scan cell) = .ok values := by
  unfold scanRow
  by_cases h : cells.length = b.classes.length
  · rw [if_pos h, and_iff_right h]
  · rw [if_neg h]
    refine iff_of_false ?_ fun h' => h h'.1
    rintro ⟨⟩

theorem exists_scanRow_iff {cells : List Cell} :
    (∃ values, b.scanRow cells = .ok values) ↔ ScansRow b.classes cells := by
  simp only [scanRow_eq_ok_iff, exists_and_left, ScansRow]
  exact and_congr_right fun _ => exists_mapM_eq_ok_iff

/-- Rows hold the values that a batch scans in them. -/
theorem holds_iff (b : Batch) {stream : ResultStream} {values : List (List Value)} :
    stream.Holds values ↔
      stream.failure = none ∧ stream.rows.mapM (b.start stream.columns).scanRow = .ok values := by
  have length : (b.start stream.columns).classes.length = stream.columns.length :=
    List.length_map _
  simp only [ResultStream.Holds, mapM_eq_ok_iff, scanRow_eq_ok_iff, length]
  rfl

/-! ## The columns stay -/

theorem yields_emit (statement : Bytes) :
    Yields (fun r => r.2.classes = b.classes) (b.emit statement) := by
  refine Yields.bind (Q := fun _ => True) (fun _ _ _ => trivial) fun r _ => ?_
  cases r with
  | error fault => exact yields_done rfl
  | ok u =>
    refine Yields.bind (Q := fun _ => True) (fun _ _ _ => trivial) fun r _ => ?_
    cases r with
    | error fault => exact yields_done rfl
    | ok u => exact yields_done rfl

theorem yields_pushRow (row : Bytes) :
    Yields (fun r => r.2.classes = b.classes) (b.pushRow row) := by
  unfold pushRow
  dsimp only
  split_ifs
  · exact yields_emit _
  · refine Yields.bind (yields_emit _) fun r hr => ?_
    obtain ⟨fault | u, c⟩ := r
    · exact yields_done hr
    · exact yields_done hr
  · exact yields_done rfl

/-! ## Rows as tuples -/

/-- Rows that can be scanned are added as their tuples. -/
theorem pushAll_eq {rows : List (List Cell)} {values : List (List Value)}
    (h : rows.mapM b.scanRow = .ok values) :
    b.pushAll rows =
      (fun r => (r.1.mapError Fault.io, r.2)) <$> b.pushRows (values.map renderRow) := by
  induction rows generalizing b values with
  | nil =>
    cases h
    rfl
  | cons cells rows ih =>
    rw [List.mapM_cons] at h
    cases hc : b.scanRow cells with
    | error fault =>
      rw [hc] at h
      cases h
    | ok vs =>
      cases hr : rows.mapM b.scanRow with
      | error fault =>
        rw [hc, hr] at h
        cases h
      | ok vss =>
        rw [hc, hr] at h
        cases h
        have one : b.pushCells cells =
            (fun r => (r.1.mapError Fault.io, r.2)) <$> b.pushRow (renderRow vs) := by
          rw [pushCells, hc, map_eq_pure_bind]
        rw [pushAll, one, List.map_cons, pushRows, map_eq_pure_bind, map_eq_pure_bind, bind_assoc,
          bind_assoc]
        refine (yields_pushRow (renderRow vs)).bind_congr ?_
        rintro ⟨fault | u, c⟩ same
        · rfl
        · have scans : rows.mapM c.scanRow = .ok vss := by
            rw [← hr]
            unfold scanRow
            rw [same]
          exact (ih scans).trans (map_eq_pure_bind _ _)

/-- A row that cannot be scanned fails the rest. -/
theorem fails_pushAll {rows : List (List Cell)} (h : ∃ cells ∈ rows, ¬ScansRow b.classes cells) :
    Fails (fun r => IsOk r.1) (b.pushAll rows) := by
  induction rows generalizing b with
  | nil =>
    obtain ⟨cells, hc, -⟩ := h
    exact absurd hc List.not_mem_nil
  | cons cells rows ih =>
    unfold pushAll pushCells
    cases hc : b.scanRow cells with
    | error fault => exact yields_done not_okWith_error
    | ok values =>
      have later : ∃ cells ∈ rows, ¬ScansRow b.classes cells := by
        obtain ⟨cells', hmem, bad⟩ := h
        rcases List.mem_cons.1 hmem with rfl | hmem
        · exact absurd (exists_scanRow_iff.1 ⟨values, hc⟩) bad
        · exact ⟨cells', hmem, bad⟩
      dsimp only
      rw [bind_assoc]
      refine Yields.bind (yields_pushRow (renderRow values)) ?_
      rintro ⟨fault | u, c⟩ same
      · exact yields_done not_okWith_error
      · exact ih (by rwa [same])

/-! ## Writes that fail -/

theorem surfaces_write (bytes : Bytes) : Surfaces Writing.Failed IsOk (Writing.write bytes) :=
  surfaces_step fun _ => Writing.isOk_iff

theorem surfaces_emit (b : Batch) (statement : Bytes) :
    Surfaces Writing.Failed (fun r => IsOk r.1) (b.emit statement) := by
  refine (surfaces_write statement).bindResult (fun u => ?_) fun e => yields_done not_okWith_error
  refine (surfaces_write _).bindResult (fun u => ?_) fun e => yields_done not_okWith_error
  exact surfaces_done ⟨(), rfl, trivial⟩

theorem surfaces_pushRow (b : Batch) (row : Bytes) :
    Surfaces Writing.Failed (fun r => IsOk r.1) (b.pushRow row) := by
  unfold pushRow
  dsimp only
  split_ifs
  · exact surfaces_emit _ _
  · refine (surfaces_emit _ _).bindState (fun u c => ?_) fun e c => yields_done not_okWith_error
    exact surfaces_done ⟨(), rfl, trivial⟩
  · exact surfaces_done ⟨(), rfl, trivial⟩

theorem surfaces_pushRows (b : Batch) (rows : List Bytes) :
    Surfaces Writing.Failed (fun r => IsOk r.1) (b.pushRows rows) := by
  induction rows generalizing b with
  | nil => exact surfaces_done ⟨(), rfl, trivial⟩
  | cons row rows ih =>
    refine (surfaces_pushRow b row).bindState (fun u c => ih c) fun e c => ?_
    exact yields_done not_okWith_error

theorem surfaces_finish (b : Batch) : Surfaces Writing.Failed IsOk b.finish := by
  unfold finish
  split_ifs
  · exact surfaces_done ⟨_, rfl, trivial⟩
  · refine (surfaces_emit _ _).bindState (fun u c => ?_) fun e c => yields_done not_okWith_error
    exact surfaces_done ⟨_, rfl, trivial⟩

/-- A result set that can be scanned is taken unless a write fails. -/
theorem surfaces_receive (b : Batch) {stream : ResultStream} (h : stream.Scans) :
    Surfaces Writing.Failed (fun r => IsOk r.1) (b.receive stream) := by
  have scans : ∀ cells ∈ stream.rows, ∃ values, (b.start stream.columns).scanRow cells = .ok values :=
    fun cells hc => exists_scanRow_iff.2 (h.2 cells hc)
  obtain ⟨values, hv⟩ := exists_mapM_eq_ok_iff.2 scans
  unfold receive
  rw [pushAll_eq hv, map_eq_pure_bind, bind_assoc]
  refine (surfaces_pushRows _ _).bindState (fun u c => surfaces_done ?_) fun e c => ?_
  · rw [h.1]
    exact ⟨(), rfl, trivial⟩
  · exact yields_done not_okWith_error

theorem fails_receive (b : Batch) {stream : ResultStream} (h : ¬stream.Scans) :
    Fails (fun r => IsOk r.1) (b.receive stream) := by
  unfold receive
  by_cases hf : stream.failure = none
  · have bad : ∃ cells ∈ stream.rows, ¬ScansRow (b.start stream.columns).classes cells := by
      by_contra all
      push Not at all
      exact h ⟨hf, all⟩
    refine Yields.bind (fails_pushAll bad) ?_
    rintro ⟨fault | u, c⟩ hr
    · exact yields_done not_okWith_error
    · exact absurd ⟨u, rfl, trivial⟩ hr
  · obtain ⟨fault, hfault⟩ := Option.ne_none_iff_exists'.1 hf
    refine Yields.bind (Q := fun _ => True) (fun _ _ _ => trivial) ?_
    rintro ⟨fault | u, c⟩ -
    · exact yields_done not_okWith_error
    · rw [hfault]
      exact yields_done not_okWith_error

/-! ## What is written of rows that arrive -/

/-- The values of rows that can be scanned. -/
theorem exists_holds {stream : ResultStream} (h : stream.Scans) : ∃ values, stream.Holds values := by
  let b : Batch := { stem := [], packet := 0, extended := false }
  have scans : ∀ cells ∈ stream.rows, ∃ values, (b.start stream.columns).scanRow cells = .ok values :=
    fun cells hc => exists_scanRow_iff.2 (h.2 cells hc)
  obtain ⟨values, hv⟩ := exists_mapM_eq_ok_iff.2 scans
  exact ⟨values, (holds_iff b).2 ⟨h.1, hv⟩⟩

theorem holding_nil (hp : b.pending = []) : b.holding [] b.stats = b := by
  have empty : body b.stem [] = b.pending := hp.symm
  rw [holding, empty]

/-- A batch that is empty takes the rows that arrive as their tuples, and then reports the fault
with which they end, if there is one. -/
theorem writes_receive (hs : b.stem ≠ []) (hp : b.pending = []) (stream : ResultStream)
    {values : List (List Value)} (h : { stream with failure := none }.Holds values) :
    let c := b.start stream.columns
    let rows := values.map renderRow
    Writes (b.receive stream)
      (stream.ending, c.holding (c.placeAll [] rows).2
        (counted b.stats rows.length (c.placeAll [] rows).1))
      ((c.placeAll [] rows).1.flatMap (line b.stem)) := by
  intro c rows
  have taken : c.pushAll stream.rows =
      (fun r => (r.1.mapError Fault.io, r.2)) <$> c.pushRows rows :=
    pushAll_eq ((holds_iff b).1 h).2
  have fresh : c.holding [] b.stats = c := holding_nil hp
  have pushed := writes_pushRows (b := c) hs [] b.stats rows
  rw [fresh] at pushed
  unfold receive
  rw [taken, map_eq_pure_bind, bind_assoc]
  exact pushed.bind_done rfl

theorem placeAll_start (columns : List Column) (group rows : List Bytes) :
    (b.start columns).placeAll group rows = b.placeAll group rows := by
  induction rows generalizing group with
  | nil => rfl
  | cons row rows ih =>
    have one : (b.start columns).place group row = b.place group row := rfl
    rw [placeAll, placeAll, one, ih]

/-- The columns of a result set have no influence on the groups. -/
theorem groups_start (columns : List Column) (rows : List Bytes) :
    (b.start columns).groups rows = b.groups rows := by
  rw [groups, groups, placeAll_start]

end Batch

end LogicalBackup
