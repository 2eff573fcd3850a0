import LogicalBackup.Proofs.Catalog.TableStatements
import LogicalBackup.Proofs.Dump.SingleTable
import LogicalBackup.Proofs.Dump.Targets

/-!
# Dumps that are cut short

A call that fails ends a dump, and what has reached the sink by then are whole pieces of what the
dump would have written (`runTarget_cutAt`).  The server that fails at one of its calls is compared
with the one that does not: up to that call they answer alike (`trace_cutAt`), and what the first one
answers after it does not matter.
-/

namespace LogicalBackup

open Program DumpEvent

variable {σ τ ω : Type}

/-- The server of which the call of this number fails, counted from zero.  After that call, another
server answers. -/
def Server.cutAt (server : Server σ) (cut : Interruption) (later : Server τ) (start : τ) :
    Server (σ × Nat ⊕ τ)
  | c, .inl (s, 0) => (cut.answer (server c s).1, .inr start)
  | c, .inl (s, k + 1) => ((server c s).1, .inl ((server c s).2, k))
  | c, .inr s => ((later c s).1, .inr (later c s).2)

/-- Up to the call that fails the events are the same. -/
theorem trace_cutAt {α : Type} (server : Server σ) (writer : Writer ω) (clock : DateTime)
    (cut : Interruption) (later : Server τ) (start : τ) (p : Program DumpOp.Reply α) {s : σ} {w : ω}
    {t₀ t₁ : List DumpEvent} {c : Call} {answer : c.Answer}
    (h : trace { server, writer, clock : DumpWorld σ ω }.answer p (s, w) =
      t₀ ++ ⟨.ask c, answer⟩ :: t₁) :
    ∃ t₁', trace { server := server.cutAt cut later start, writer, clock : DumpWorld _ ω }.answer p
      (.inl (s, (asked t₀).length), w) = t₀ ++ ⟨.ask c, cut.answer answer⟩ :: t₁' := by
  induction p generalizing s w t₀ with
  | done a => simp [trace] at h
  | step op next ih =>
    rw [trace] at h
    cases t₀ with
    | nil =>
      obtain ⟨head, -⟩ := List.cons.inj h
      cases head
      exact ⟨_, rfl⟩
    | cons e t₀ =>
      obtain ⟨rfl, rest⟩ := List.cons.inj h
      cases op with
      | ask c' =>
        obtain ⟨t₁', same⟩ := ih _ rest
        exact ⟨t₁', congrArg (_ :: ·) same⟩
      | write op =>
        obtain ⟨t₁', same⟩ := ih _ rest
        exact ⟨t₁', congrArg (_ :: ·) same⟩
      | now =>
        obtain ⟨t₁', same⟩ := ih _ rest
        exact ⟨t₁', congrArg (_ :: ·) same⟩

namespace Dump

variable {sink : Sink ω} {fit : ω → Prop} {content : ω → Bytes} {target : Target ω}

/-- A target that is dumped without an error writes the pieces of its schemas.  If one of its calls is
made to fail, whatever the server answers after that, the target fails.  It has then written the
pieces that were written before that call and, of the rows that have arrived, the full statements. -/
theorem runTarget_cutAt (never : sink.NeverFails fit content) (hw : fit target.sink)
    (server : Server σ) (clock : DateTime) (options : DumpOptions) (index : Nat) (s : σ)
    (complete : (runTarget server sink clock options index target s).1.error = none) :
    let m : Manner := ⟨options, .ofCompact options.compact, clock⟩
    let whole := targetTrace server sink clock options target s
    ∃ told : List (String × SchemaContents), told.map Prod.fst = target.schemas ∧
      exchanges whole = told.flatMap (fun p => p.2.inSnapshot p.1 m) ∧
      let ps := told.flatMap fun p => p.2.pieces p.1 options
      content (runTarget server sink clock options index target s).2.1 =
        content target.sink ++ Piece.text m ps ∧
      ∀ (t₀ t₁ : List DumpEvent) (c : Call) (answer : c.Answer),
        whole = t₀ ++ ⟨.ask c, answer⟩ :: t₁ →
        ∀ (cut : Interruption) (τ : Type) (later : Server τ) (start : τ),
          let broken := runTarget (server.cutAt cut later start) sink clock options index target
            (.inl (s, (asked t₀).length))
          broken.1.error ≠ none ∧
          content broken.2.1 <+: content (runTarget server sink clock options index target s).2.1 ∧
          ∃ before late, before ++ late <+: ps ∧ dumped t₀ = Piece.text m before ∧
            Late options ⟨c, cut.answer answer⟩ late ∧
            content broken.2.1 = content target.sink ++ Piece.text m (before ++ late) := by
  intro m whole
  obtain ⟨summaries, path⟩ := path_targetTrace server sink clock options target s index
  obtain ⟨sound, grown⟩ := sound_targetTrace server clock options target s never hw index
  obtain ⟨ps, wrote, ⟨told, names, -, asks, rfl, -⟩, breaks⟩ :=
    pieced_dumpSchemas (m := m) [] target.schemas _ _ path sound complete
  refine ⟨told, names, asks, grown.trans (by rw [wrote]), ?_⟩
  intro t₀ t₁ c answer split cut τ later start broken
  obtain ⟨t₁', cutTrace⟩ := trace_cutAt server (sink.buffered bufferCapacity) clock cut later start
    (targetProgram options target) (w := { inner := target.sink }) split
  obtain ⟨cutSummaries, cutPath⟩ := path_targetTrace (server.cutAt cut later start) sink clock
    options target (.inl (s, (asked t₀).length)) index
  obtain ⟨cutSound, cutGrown⟩ := sound_targetTrace (server.cutAt cut later start) clock options
    target (.inl (s, (asked t₀).length)) never hw index
  rw [targetTrace, targetWorld, cutTrace] at cutPath cutSound cutGrown
  obtain ⟨failed, before, late, pre, early, after, isLate⟩ := breaks cut split cutPath fun e he =>
    cutSound e (List.mem_append_right _ (List.mem_cons_of_mem _ he))
  have reached : content broken.2.1 = content target.sink ++ Piece.text m (before ++ late) := by
    refine cutGrown.trans ?_
    rw [dumped_append, early, Piece.text_append, ← after]
    rfl
  refine ⟨failed, ?_, before, late, pre, early, isLate, reached⟩
  rw [reached, grown, wrote, List.prefix_append_right_inj]
  exact Piece.text_prefix m pre

/-! ## A query that is cut -/

/-- A target with one schema that has one table is dumped, and the query of the table is one of its
calls. -/
theorem exists_targetTrace_eq_of_table (never : sink.NeverFails fit content) (target : Target ω)
    (hw : fit target.sink) {told : TableTold} (scans : told.stream.Scans) (names : TableNames)
    (one : target.schemas = [names.schema]) (some : names.columns.isEmpty = false)
    (options : DumpOptions) (full : options.compact = false) (clock : DateTime) :
    (runTarget (told.serve names) sink clock options 0 target ()).1.error = none ∧
      ∃ t₀ t₁, targetTrace (told.serve names) sink clock options target () =
        t₀ ++ ⟨.ask (.select names.object.selectSql), .ok told.stream⟩ :: t₁ := by
  let world := targetWorld (told.serve names) sink clock
  have complete := runTarget_error_eq_none (told.serve names) clock options target () never hw 0
    (world.forall_mem_exchanges (TableTold.not_faulty_serve scans names)
      (targetProgram options target) _)
  have answers := world.forall_mem_exchanges (told.answers_serve options names)
    (targetProgram options target) ((), { inner := target.sink })
  obtain ⟨summaries, path⟩ := path_targetTrace (told.serve names) sink clock options target () 0
  obtain ⟨sound, -⟩ := sound_targetTrace (told.serve names) clock options target () never hw 0
  obtain ⟨-, -, ⟨all, schemas, arrived, made, -⟩, -⟩ := pieced_dumpSchemas
    (m := ⟨options, .ofCompact options.compact, clock⟩) [] target.schemas _ _ path sound complete
  rw [one] at schemas
  obtain ⟨⟨schema, c⟩, rfl, rfl⟩ := List.map_eq_singleton_iff.1 schemas
  have style : DumpStyle.ofCompact options.compact = .full := by
    rw [full]
    rfl
  rw [List.flatMap_singleton, style] at made
  have mem {e : CallEvent} (he : e ∈ c.exchanges names.schema options .full) :
      e ∈ exchanges (targetTrace (told.serve names) sink clock options target ()) := by
    rw [made]
    exact List.mem_cons_of_mem _ (List.mem_append_left _ he)
  have query := (arrived _ (List.mem_singleton_self _)).select_mem_exchanges
    (fun e he => answers e (mem he)) some
  exact ⟨complete, exists_eq_append_of_mem_exchanges (mem query)⟩

/-- The names of a table of numbers. -/
def exampleNames : TableNames := ⟨"shop", "kept", ["n"]⟩

/-- What a server tells of the table, which has three rows. -/
def exampleNumbers : TableTold where
  server := { version := "8.0.36", charset := "utf8mb4" }
  createSql := "CREATE TABLE `kept` (\n  `n` int\n)"
  stream := {
    columns := [⟨"n", "INT", .signedInteger, true⟩]
    rows := [[some (utf8 "1")], [some (utf8 "2")], [some (utf8 "3")]] }

theorem exampleNumbers_scans : exampleNumbers.stream.Scans := by
  have row {b : Bytes} {v : Value} (h : ColumnClass.integer.scan (some b) = .ok v) :
      ScansRow [.integer] [some b] :=
    ⟨rfl, List.forall_mem_singleton.2 ⟨v, h⟩⟩
  have one : ColumnClass.integer.scan (some (utf8 "1")) = .ok (.int64 1) := rfl
  have two : ColumnClass.integer.scan (some (utf8 "2")) = .ok (.int64 2) := rfl
  have three : ColumnClass.integer.scan (some (utf8 "3")) = .ok (.int64 3) := rfl
  refine ⟨rfl, List.forall_mem_cons.2 ⟨row one, List.forall_mem_cons.2 ⟨row two, ?_⟩⟩⟩
  exact List.forall_mem_singleton.2 (row three)

/-- Where two of the rows arrive and each has a statement of its own, that of the first row is full
and that of the second one still pending. -/
theorem text_of_two_rows {m : Manner} {fault : Fault} {late : List Piece}
    (h : Late { maxAllowedPacket := 1 } ⟨.select exampleNames.object.selectSql,
      .ok { exampleNumbers.stream with
        rows := exampleNumbers.stream.rows.take 2, failure := some fault }⟩ late) :
    Piece.text m late = utf8 "INSERT INTO `kept` (`n`) VALUES (1);\n" := by
  obtain ⟨t, rows, query, arrived, rfl⟩ := h.exists_rows
  obtain rfl : rows = [[.int64 1], [.int64 2]] := by
    have scanned := ((Batch.holds_iff { stem := [], packet := 1, extended := true }).1 arrived).2
    refine Except.ok.inj (scanned.symm.trans ?_)
    rfl
  have some : t.columns ≠ [] := by
    intro none
    rw [Table.selectSql, none] at query
    -- a backtick stands behind `SELECT ` only where there are columns
    have backtick := congrArg (fun s => s.toList[7]?) query
    simp [quoteIdentifiers, Table.selectSql, exampleNames, TableNames.object,
      quoteIdentifier] at backtick
  obtain ⟨name, columns⟩ := (Table.selectSql_eq_iff some (by decide)).1 query
  have stem : t.insertStem = "INSERT INTO `kept` (`n`) VALUES " := by
    rw [Table.insertStem, name, columns]
    rfl
  have batch : t.batch { maxAllowedPacket := 1 } =
      { stem := utf8 "INSERT INTO `kept` (`n`) VALUES ", packet := 1, extended := true } := by
    rw [Table.batch, stem]
    rfl
  rw [Piece.text_insert, batch, stem]
  rfl

/-- Of a dump whose snapshot is refused nothing is written, though the server would have served it.
Of one whose query fails after two of three rows, the statement of the first row is written, and that
of the second one, which is pending, is not. -/
theorem runTarget_cutAt_start_and_rows :
    let lost : Fault := .connection "lost"
    (let target : Target Medium := ⟨["shop"], {}⟩
      let options : DumpOptions := { lockTables := true }
      let broken := runTarget (exampleServer.cutAt (.refused lost) exampleServer ()) Medium.sink
        DateTime.epoch options 0 target (.inl ((), 0))
      (runTarget exampleServer Medium.sink DateTime.epoch options 0 target ()).1.error = none ∧
        broken.1.error ≠ none ∧ broken.2.1.content = []) ∧
    let target : Target Medium := ⟨[exampleNames.schema], {}⟩
    let options : DumpOptions := { maxAllowedPacket := 1 }
    (runTarget (exampleNumbers.serve exampleNames) Medium.sink DateTime.epoch options 0 target
        ()).1.error = none ∧
      ∃ t₀ t₁, targetTrace (exampleNumbers.serve exampleNames) Medium.sink DateTime.epoch options
          target () =
          t₀ ++ ⟨.ask (.select exampleNames.object.selectSql), .ok exampleNumbers.stream⟩ :: t₁ ∧
        let broken := runTarget ((exampleNumbers.serve exampleNames).cutAt (.afterRows 2 lost)
          exampleServer ()) Medium.sink DateTime.epoch options 0 target
          (.inl ((), (asked t₀).length))
        broken.1.error ≠ none ∧
        broken.2.1.content = dumped t₀ ++ utf8 "INSERT INTO `kept` (`n`) VALUES (1);\n" := by
  intro lost
  constructor
  · intro target options broken
    have hw : target.sink.room = none ∧ target.sink.refusesFlush = false := ⟨rfl, rfl⟩
    have complete := runTarget_exampleServer options 0 target hw
    obtain ⟨rest, start⟩ :=
      targetTrace_of_cons exampleServer Medium.sink DateTime.epoch options target () rfl
    obtain ⟨told, -, -, -, cuts⟩ :=
      runTarget_cutAt Medium.neverFails_sink hw exampleServer DateTime.epoch options 0 () complete
    obtain ⟨failed, -, before, late, -, early, isLate, reached⟩ := cuts [] rest .beginSnapshot
      (.ok ()) start (.refused lost) Unit exampleServer ()
    cases isLate
    rw [List.append_nil, ← early] at reached
    exact ⟨complete, failed, reached⟩
  · intro target options
    have hw : target.sink.room = none ∧ target.sink.refusesFlush = false := ⟨rfl, rfl⟩
    obtain ⟨complete, t₀, t₁, split⟩ := exists_targetTrace_eq_of_table Medium.neverFails_sink target
      hw exampleNumbers_scans exampleNames rfl rfl options rfl DateTime.epoch
    obtain ⟨told, -, -, -, cuts⟩ := runTarget_cutAt Medium.neverFails_sink hw
      (exampleNumbers.serve exampleNames) DateTime.epoch options 0 () complete
    obtain ⟨failed, -, before, late, -, early, isLate, reached⟩ := cuts t₀ t₁ _ _ split
      (.afterRows 2 lost) Unit exampleServer ()
    refine ⟨complete, t₀, t₁, split, failed, reached.trans ?_⟩
    rw [Piece.text_append, ← early, text_of_two_rows isLate]
    rfl

end Dump

end LogicalBackup
