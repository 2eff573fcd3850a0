import LogicalBackup.Proofs.Dump.Targets
import LogicalBackup.Proofs.Sink.Limits

/-!
# Dumps into sinks of limited room

A dump into a sink of limited room goes as one into a sink that never fails until a write fails
(`run_limited`).  So the sink ends up with the first bytes of the whole dump, as many as there was
room for, and a dump that would succeed does so exactly where all of it fits (`dump_truncated`).
-/

namespace LogicalBackup

open Program DumpEvent

section Lockstep

variable {α σ ω ω' : Type} {wide : Writer ω'}
  {narrow : Writer ω} {fit : ω' → Prop} {content : ω' → Bytes} {holds full : ω → Bytes → Prop}
  {limit : Nat}

theorem Writer.Records.answer (h : wide.Records fit content) (op : WriterOp) {w : ω'} (hw : fit w) :
    (wide.answer op w).1 = .ok () ∧ fit (wide.answer op w).2 := by
  cases op with
  | write b => exact ⟨(h.write w b hw).1, (h.write w b hw).2.1⟩
  | flush => exact ⟨(h.flush w hw).1, (h.flush w hw).2.1⟩

theorem DumpWorld.answer_write (world : DumpWorld σ ω) (op : WriterOp) (s : σ) (w : ω) :
    world.answer (.write op) (s, w) =
      ((world.writer.answer op w).1, s, (world.writer.answer op w).2) := rfl

theorem DumpEvent.bytes_write (op : WriterOp) (answer : op.Reply) :
    DumpEvent.bytes ⟨.write op, answer⟩ = op.bytes := by
  cases op <;> rfl

/-- A full sink does not change any more. -/
theorem run_of_full (server : Server σ) (clock : DateTime)
    (limited : narrow.Limited holds full limit) (p : Program DumpOp.Reply α) {s : σ} {w : ω}
    {x : Bytes} (hw : full w x) :
    full (Program.run { server, writer := narrow, clock : DumpWorld σ ω }.answer p (s, w)).2.2
      x := by
  induction p generalizing s w with
  | done a => exact hw
  | step op next ih =>
    cases op with
    | ask c => exact ih _ hw
    | write op => exact ih _ (limited.answer_of_full op hw)
    | now => exact ih _ hw

/-- Either nothing fails, and the runs go alike, or something does, and the sink is full. -/
theorem run_limited (server : Server σ) (clock : DateTime) (records : wide.Records fit content)
    (limited : narrow.Limited holds full limit) (p : Program DumpOp.Reply α) (s : σ) {w' : ω'}
    (hw' : fit w') {w : ω} {x : Bytes} (hw : holds w x) :
    let wideWorld : DumpWorld σ ω' := { server, writer := wide, clock }
    let world : DumpWorld σ ω := { server, writer := narrow, clock }
    let written := x ++ dumped (trace wideWorld.answer p (s, w'))
    (Program.run world.answer p (s, w)).1 = (Program.run wideWorld.answer p (s, w')).1 ∧
        holds (Program.run world.answer p (s, w)).2.2 written ∨
      (∃ e ∈ trace world.answer p (s, w), Faulty e) ∧ limit < written.length ∧
        full (Program.run world.answer p (s, w)).2.2 (written.take limit) := by
  intro wideWorld world
  induction p generalizing s w' w x with
  | done a =>
    left
    rw [trace, dumped, List.flatMap_nil, List.append_nil]
    exact ⟨rfl, hw⟩
  | step op next ih =>
    cases op with
    | ask c =>
      rcases ih (server c s).1 (server c s).2 hw' hw with same | ⟨⟨e, he, faulty⟩, rest⟩
      · exact .inl same
      · exact .inr ⟨⟨e, List.mem_cons_of_mem _ he, faulty⟩, rest⟩
    | now =>
      rcases ih clock s hw' hw with same | ⟨⟨e, he, faulty⟩, rest⟩
      · exact .inl same
      · exact .inr ⟨⟨e, List.mem_cons_of_mem _ he, faulty⟩, rest⟩
    | write op =>
      obtain ⟨ok', fits⟩ := records.answer op hw'
      simp only [run_step, trace, DumpWorld.answer_write, wideWorld, ok', dumped, List.flatMap_cons,
        DumpEvent.bytes_write, ← List.append_assoc]
      rcases limited.answer_of_holds op hw with ⟨ok, grows⟩ | ⟨failed, excess, filled⟩
      · rw [show (world.writer.answer op w).1 = .ok () from ok]
        rcases ih (.ok ()) s fits grows with same | ⟨⟨e, he, faulty⟩, rest⟩
        · exact .inl same
        · exact .inr ⟨⟨e, List.mem_cons_of_mem _ he, faulty⟩, rest⟩
      · refine .inr ⟨⟨_, List.mem_cons_self, failed⟩, ?_, ?_⟩
        · rw [List.length_append]
          omega
        · rw [List.take_append_of_le_length (Nat.le_of_lt excess)]
          exact run_of_full server clock limited _ filled

/-- Whatever the writer does at the end (`close`), the first bytes are there, as many as there is room
for, and a run that would succeed does so where these are all. -/
theorem run_truncated (server : Server σ) (clock : DateTime) {ok : α → Prop}
    {p : Program DumpOp.Reply α} (surfaces : Surfaces Faulty ok p)
    (records : wide.Records fit content) {x : Bytes} {room : Nat}
    (limited : narrow.Limited holds full (x.length + room)) (close : ω → Bytes)
    (close_holds : ∀ v y, holds v y → close v = y.take (x.length + room))
    (close_full : ∀ v y, full v y → close v = y) (s : σ) (w' : ω') (hw' : fit w') (w : ω)
    (hw : holds w x) :
    let whole := Program.run { server, writer := wide, clock : DumpWorld σ ω' }.answer p (s, w')
    let short := Program.run { server, writer := narrow, clock : DumpWorld σ ω }.answer p (s, w)
    let all := dumped (trace { server, writer := wide, clock : DumpWorld σ ω' }.answer p (s, w'))
    (ok short.1 → holds short.2.2 (x ++ all) → (x ++ all).length ≤ x.length + room) →
      close short.2.2 = x ++ all.take room ∧ (all.length ≤ room → short.1 = whole.1) ∧
        (ok whole.1 → (ok short.1 ↔ all.length ≤ room)) := by
  intro whole short all settled
  have length : (x ++ all).length = x.length + all.length := List.length_append
  have lockstep := run_limited server clock records limited p s hw' hw
  rw [← List.take_length_add_append]
  rcases lockstep with ⟨same, held⟩ | ⟨⟨e, he, bad⟩, excess, filled⟩
  · refine ⟨close_holds _ _ held, fun _ => same, fun succeeds => ?_⟩
    have also : ok short.1 := same ▸ succeeds
    have fits := settled also held
    exact iff_of_true also (by omega)
  · have tight : ¬all.length ≤ room := by
      change x.length + room < (x ++ all).length at excess
      omega
    refine ⟨close_full _ _ filled, fun fits => absurd fits tight, fun _ => ?_⟩
    exact iff_of_false (fun succeeds => (surfaces _ _ (path_trace _ _ _)).1 succeeds e he bad) tight

end Lockstep

namespace Dump

/-- A target that ends without an error has flushed its buffer last. -/
theorem exists_flush_of_error_eq_none {options : DumpOptions} {style : DumpStyle}
    {done : List SchemaSummary} {schemas : List String} {t : List DumpEvent}
    {r : List SchemaSummary × Option DumpError}
    (path : Path (dumpSchemas options style done schemas) t r) (h : r.2 = none) :
    ∃ t', t = t' ++ [⟨.write .flush, .ok ()⟩] := by
  induction schemas generalizing done t with
  | nil =>
    obtain ⟨t₁, u, t₂, rfl, flushed, last⟩ := path_bind_iff.1 path
    obtain ⟨answer, rfl, rfl⟩ := path_step_done_iff.1 flushed
    cases answer with
    | error fault =>
      obtain ⟨-, rfl⟩ := path_done_iff.1 last
      cases h
    | ok u =>
      obtain ⟨rfl, -⟩ := path_done_iff.1 last
      exact ⟨[], rfl⟩
  | cons schema schemas ih =>
    obtain ⟨t₁, e | summary, t₂, rfl, -, last⟩ := path_bind_iff.1 path
    · obtain ⟨t₃, u, t₄, rfl, -, ended⟩ := path_bind_iff.1 last
      obtain ⟨-, rfl⟩ := path_done_iff.1 ended
      cases h
    · obtain ⟨t', rfl⟩ := ih last
      exact ⟨t₁ ++ t', (List.append_assoc _ _ _).symm⟩

variable {σ ω ω' : Type} {unlimited : Sink ω'} {limited : Sink ω} {fit' : ω' → Prop}
  {content' : ω' → Bytes} {fit : ω → Prop} {free : ω → Nat} {content : ω → Bytes}

/-- A sink of limited room gets the bytes that an unlimited one gets, as far as they fit, through the
buffer of a target and without a buffer.  A dump that succeeds into the unlimited one succeeds into
the other exactly where all of it fits, and a dump that fits ends in the same way. -/
theorem dump_truncated (never : unlimited.NeverFails fit' content')
    (limits : limited.Limited fit free content) {w' : ω'} (hw' : fit' w') {w : ω} (hw : fit w)
    (server : Server σ) (clock : DateTime) (options : DumpOptions) (s : σ) :
    (∀ (index : Nat) (schemas : List String),
      let whole := runTarget server unlimited clock options index ⟨schemas, w'⟩ s
      let short := runTarget server limited clock options index ⟨schemas, w⟩ s
      ∃ all : Bytes, content' whole.2.1 = content' w' ++ all ∧
        content short.2.1 = content w ++ all.take (free w) ∧
        (all.length ≤ free w → short.1 = whole.1) ∧
        (whole.1.error = none → (short.1.error = none ↔ all.length ≤ free w))) ∧
    ∀ (schema : String) (style : DumpStyle),
      let program := (dumpSchema schema options style).run
      let whole := Program.run { server, writer := unlimited.writer, clock : DumpWorld σ ω' }.answer
        program (s, w')
      let short := Program.run { server, writer := limited.writer, clock : DumpWorld σ ω }.answer
        program (s, w)
      ∃ all : Bytes, content' whole.2.2 = content' w' ++ all ∧
        content short.2.2 = content w ++ all.take (free w) ∧
        (all.length ≤ free w → short.1 = whole.1) ∧
        (IsOk whole.1 → (IsOk short.1 ↔ all.length ≤ free w)) := by
  have start : Sink.Holds fit free content ((content w).length + free w) w (content w) :=
    ⟨hw, rfl, rfl⟩
  constructor
  · intro index schemas whole short
    obtain ⟨-, grown⟩ := sound_targetTrace server clock options ⟨schemas, w'⟩ s never hw' index
    obtain ⟨closed, same, succeeds⟩ := run_truncated server clock
      (surfaces_dumpSchemas options (.ofCompact options.compact) [] schemas)
      (never.buffered_records bufferCapacity)
      (limits.buffered_limited bufferCapacity ((content w).length + free w))
      (fun v => content (v.close limited)) (fun v y => limits.content_close_of_holds)
      (fun v y => limits.content_close_of_full) s { inner := w' } hw' { inner := w }
      ⟨start, List.append_nil _⟩ fun succeeds held => by
        -- the last flush has left nothing behind
        obtain ⟨t, flushed⟩ := exists_flush_of_error_eq_none (path_trace _ _ _) succeeds
        obtain ⟨⟨_, v⟩, last⟩ := exists_of_trace_concat flushed
        obtain ⟨ok, final⟩ := Prod.mk.inj last
        refine held.length_le_of_flushed ?_
        rw [← final]
        exact limited.buffered_flush_of_ok bufferCapacity ok
    refine ⟨_, grown, closed, fun fits => ?_, succeeds⟩
    exact congrArg (fun r => (⟨index, r.1, r.2⟩ : TargetOutcome)) (same fits)
  · intro schema style program whole short
    obtain ⟨-, -, grown⟩ := DumpWorld.sound_trace
      (show ({ server, writer := unlimited.writer, clock : DumpWorld σ ω' }).writer.Records _ _
        from never.records) program (s := s) hw'
    obtain ⟨closed, same, succeeds⟩ := run_truncated server clock
      (surfaces_dumpSchema schema options style) never.records
      (limits.writer_limited ((content w).length + free w)) content
      (fun v y hv => hv.content_eq_take) (fun v y hv => hv.content) s w' hw' w start
      fun _ held => held.length_le
    exact ⟨_, grown, closed, same, succeeds⟩

/-- Where there is room for ten bytes, the first ten arrive. -/
theorem dump_truncated_to_ten :
    let options : DumpOptions := { lockTables := true }
    ∃ all : Bytes,
      (runTarget exampleServer Medium.sink DateTime.epoch options 0 ⟨["shop"], {}⟩ ()).1.error =
        none ∧
      (runTarget exampleServer Medium.sink DateTime.epoch options 0 ⟨["shop"], {}⟩ ()).2.1.content =
        all ∧
      (runTarget exampleServer Medium.sink DateTime.epoch options 0
        ⟨["shop"], { room := some 10 }⟩ ()).2.1.content = all.take 10 ∧
      ((runTarget exampleServer Medium.sink DateTime.epoch options 0
        ⟨["shop"], { room := some 10 }⟩ ()).1.error = none ↔ all.length ≤ 10) := by
  intro options
  have unlimited : ({} : Medium).room = none ∧ ({} : Medium).refusesFlush = false := ⟨rfl, rfl⟩
  have limited : ({ room := some 10 } : Medium).room ≠ none ∧
      ({ room := some 10 } : Medium).refusesFlush = false := ⟨nofun, rfl⟩
  have succeeds := runTarget_exampleServer options 0 ⟨["shop"], {}⟩ unlimited
  obtain ⟨targets, -⟩ := dump_truncated Medium.neverFails_sink Medium.limited_sink unlimited limited
    exampleServer DateTime.epoch options ()
  obtain ⟨all, grown, first, -, fits⟩ := targets 0 ["shop"]
  exact ⟨all, succeeds, grown, first, fits succeeds⟩

end Dump

end LogicalBackup
