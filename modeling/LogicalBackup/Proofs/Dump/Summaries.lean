import LogicalBackup.Proofs.Dump.Combined
import LogicalBackup.Proofs.Dump.Counts
import LogicalBackup.Proofs.Sink.Honest

/-!
# Summaries of a run

A run that succeeds has dumped all schemas of all targets.  Its summary counts what was listed and
read of each of them, and the sinks hold what it counts (`run_summarizes_sinks`).  The server is
asked nothing of, and of a sink only that it says what it took: without an error nothing is faulty,
so each write was kept, and a flush came last, so none waits in a buffer.
-/

namespace LogicalBackup

open Program DumpEvent

variable {α σ ω : Type}

/-! ## What a run leaves in a writer -/

section Ran

variable {writer : Writer ω} {content : ω → Bytes} {clock : DateTime}
  {p p' : Program DumpOp.Reply α} {w w' : ω} {t : List DumpEvent}

/-- Where nothing is faulty, all that is dumped is kept, and the clock is as it is. -/
theorem Ran.keeps (keeps : writer.Keeps content) (h : Ran writer clock p w t p' w')
    (faultless : ∀ e ∈ t, ¬Faulty e) :
    (∀ e ∈ t, Sound clock e) ∧ content w' = content w ++ dumped t := by
  induction h with
  | refl p w => exact ⟨fun e he => absurd he List.not_mem_nil, (List.append_nil _).symm⟩
  | ask answer _ ih =>
    obtain ⟨sound, kept⟩ := ih (List.forall_mem_cons.1 faultless).2
    exact ⟨List.forall_mem_cons.2 ⟨trivial, sound⟩, kept⟩
  | @write op next w w' t p _ ih =>
    obtain ⟨first, rest⟩ := List.forall_mem_cons.1 faultless
    obtain ⟨sound, kept⟩ := ih rest
    have ok : (writer.answer op w).1 = .ok () := not_not.1 first
    have parts : dumped (⟨.write op, (writer.answer op w).1⟩ :: t) = op.bytes ++ dumped t :=
      congrArg (· ++ _) (bytes_write op _)
    refine ⟨List.forall_mem_cons.2 ⟨ok, sound⟩, ?_⟩
    rw [kept, keeps.answer ok, parts, List.append_assoc]
  | now _ ih =>
    obtain ⟨sound, kept⟩ := ih (List.forall_mem_cons.1 faultless).2
    exact ⟨List.forall_mem_cons.2 ⟨rfl, sound⟩, kept⟩

theorem Ran.writer_of_nil (h : Ran writer clock p w [] p' w') : w' = w := by
  cases h
  rfl

/-- The writer at the end is as the last write leaves it. -/
theorem Ran.exists_of_concat {op : WriterOp} {r : op.Reply}
    (h : Ran writer clock p w (t ++ [⟨.write op, r⟩]) p' w') :
    ∃ w₀, writer.answer op w₀ = (r, w') := by
  generalize whole : t ++ [⟨.write op, r⟩] = u at h
  induction h generalizing t with
  | refl p w => simp at whole
  | ask answer _ ih =>
    cases t with
    | nil => cases whole
    | cons e t => exact ih (List.cons.inj whole).2
  | @write op' next w w' t' p ran ih =>
    cases t with
    | nil =>
      cases whole
      exact ⟨w, congrArg (_, ·) ran.writer_of_nil.symm⟩
    | cons e t => exact ih (List.cons.inj whole).2
  | now _ ih =>
    cases t with
    | nil => cases whole
    | cons e t => exact ih (List.cons.inj whole).2

end Ran

/-! ## Targets -/

/-- A target whose schemas were dumped, with its sink as it is then. -/
structure TargetDump (ω : Type) where
  schemas : List SchemaDump
  sink : ω

namespace TargetDump

/-- The calls that were made for the target, with their answers. -/
def calls (d : TargetDump ω) (m : Manner) : List CallEvent := d.schemas.flatMap (·.calls m)

/-- The summaries of the schemas. -/
def summaries (d : TargetDump ω) : List SchemaSummary := d.schemas.map (·.summary)

/-- All schemas of the target are dumped and counted right, and what is dumped is in the sink, after
what was there before. -/
structure Of (m : Manner) (content : ω → Bytes) (target : Target ω) (d : TargetDump ω) : Prop where
  schemas : d.schemas.map (·.summary.schema) = target.schemas
  counts : ∀ x ∈ d.schemas, x.Counts m
  content : content d.sink =
    content target.sink ++ Piece.text m (d.schemas.flatMap (·.pieces m))

end TargetDump

/-- The summary has the summaries of all schemas of all targets, in their order, and their sums. -/
structure DumpSummary.Of (summary : DumpSummary) (dumps : List (TargetDump ω)) : Prop where
  schemas : summary.schemas = dumps.flatMap (·.summaries)
  rows : summary.totalRows = (dumps.map fun d => (d.summaries.map (·.rows)).sum).sum
  statements : summary.totalStatements =
    (dumps.map fun d => (d.summaries.map (·.statements)).sum).sum

theorem DumpSummary.of_flatMap (dumps : List (TargetDump ω)) :
    DumpSummary.Of ⟨dumps.flatMap (·.summaries)⟩ dumps := by
  have total (f : SchemaSummary → Nat) : ((dumps.flatMap (·.summaries)).map f).sum =
      (dumps.map fun d => (d.summaries.map f).sum).sum := by
    induction dumps with
    | nil => rfl
    | cons d dumps ih =>
      rw [List.flatMap_cons, List.map_append, List.sum_append, ih, List.map_cons, List.sum_cons]
  exact ⟨rfl, total _, total _⟩

namespace Dump

variable {sink : Sink ω} {content : ω → Bytes} {clock : DateTime} {options : DumpOptions}

/-- A target that ends without an error. -/
theorem exists_targetDump_of_ran (honest : sink.Honest content) {target : Target ω}
    {t : List DumpEvent} {r : List SchemaSummary × Option DumpError} {v : Sink.Buffered ω}
    (ran : Ran (sink.buffered bufferCapacity) clock (targetProgram options target)
      { inner := target.sink } t (.done r) v) (none : r.2 = none) :
    let m : Manner := ⟨options, .ofCompact options.compact, clock⟩
    ∃ d : TargetDump ω, d.Of m content target ∧ d.sink = v.close sink ∧ d.calls m = exchanges t ∧
      d.summaries = r.1 := by
  intro m
  have faultless := (surfaces_dumpSchemas _ _ _ _ t r ran.path).1 none
  obtain ⟨sound, kept⟩ := ran.keeps (honest.buffered_keeps bufferCapacity) faultless
  obtain ⟨ps, wrote, ⟨told, names, arrived, made, rfl, summed⟩, -⟩ :=
    pieced_dumpSchemas (m := m) [] target.schemas t r ran.path sound none
  obtain ⟨t', rfl⟩ := exists_flush_of_error_eq_none ran.path none
  obtain ⟨w₀, last⟩ := ran.exists_of_concat
  have flushed : v.pending = [] := by
    have ok : ((sink.buffered bufferCapacity).flush w₀).1 = .ok () := congrArg Prod.fst last
    obtain rfl : ((sink.buffered bufferCapacity).flush w₀).2 = v := congrArg Prod.snd last
    exact Sink.buffered_flush_of_ok sink bufferCapacity ok
  refine ⟨⟨told.map fun p => p.2.dump p.1 options, v.close sink⟩, ⟨?_, ?_, ?_⟩, rfl, ?_, ?_⟩
  · rw [List.map_map, ← names]
    exact List.map_congr_left fun p _ => schema_dump options
  · exact List.forall_mem_map.2 fun p hp => counts_dump (m := m) (arrived p hp)
  · have pieces : (told.flatMap fun p => p.2.pieces p.1 m.options) =
        told.flatMap fun p => (p.2.dump p.1 options).pieces m :=
      List.flatMap_congr fun p _ => (pieces_dump (m := m)).symm
    refine (Sink.content_close_of_flushed flushed).trans ?_
    rw [kept, wrote, pieces, List.append_nil, List.flatMap_map]
  · rw [made, TargetDump.calls, List.flatMap_map]
    exact List.flatMap_congr fun p _ => calls_dump (m := m)
  · rw [summed, TargetDump.summaries, List.map_map, List.nil_append]
    rfl

/-! ## Targets one after another -/

theorem exists_targetDumps (honest : sink.Honest content) (server : Server σ)
    (targets : List (Target ω)) (first : Nat) (s : σ)
    (none : ∀ o ∈ (runTargets server sink clock options first targets s).1, o.error = none) :
    let m : Manner := ⟨options, .ofCompact options.compact, clock⟩
    let ran := runTargets server sink clock options first targets s
    ∃ dumps : List (TargetDump ω),
      List.Forall₂ (fun target d => d.Of m content target) targets dumps ∧
        ran.2.1 = dumps.map (·.sink) ∧ ran.1.flatMap (·.schemas) = dumps.flatMap (·.summaries) ∧
        (targetTraces server sink clock options targets s).map exchanges =
          dumps.map (·.calls m) := by
  intro m ran
  induction targets generalizing first s with
  | nil => exact ⟨[], .nil, rfl, rfl, rfl⟩
  | cons target targets ih =>
    obtain ⟨one, rest⟩ := List.forall_mem_cons.1 none
    obtain ⟨dumps, each, sinks, summaries, calls⟩ := ih _ _ rest
    obtain ⟨d, dumped, closed, made, summed⟩ := exists_targetDump_of_ran honest
      (ran_trace (targetWorld server sink clock) (targetProgram options target) s
        { inner := target.sink }).1 one
    exact ⟨d :: dumps, .cons dumped each, congrArg₂ List.cons closed.symm sinks,
      congrArg₂ (· ++ ·) summed.symm summaries, congrArg₂ List.cons made.symm calls⟩

/-! ## Targets in turn -/

theorem eq_ofFn_of_getElem? {ι : Type} {n : Nat} {xs : List ι} {f : Fin n → ι}
    (length : xs.length = n) (h : ∀ i : Fin n, xs[i.1]? = some (f i)) : xs = List.ofFn f := by
  refine List.ext_getElem (by rw [length, List.length_ofFn]) fun i hx _ => ?_
  rw [List.getElem_ofFn]
  exact Option.some.inj ((List.getElem?_eq_getElem hx).symm.trans (h ⟨i, length ▸ hx⟩))

theorem index_of_ended {workers : List (Worker (List SchemaSummary × Option DumpError) ω)}
    {outcomes : List TargetOutcome} (h : Ended workers outcomes) :
    outcomes.map (·.index) = List.range' 0 outcomes.length := by
  refine List.ext_getElem (by rw [List.length_map, List.length_range']) fun i hi _ => ?_
  rw [List.length_map] at hi
  obtain ⟨r, -, told⟩ := h.2 i _ (List.getElem?_eq_getElem (h.1 ▸ hi))
  rw [List.getElem?_eq_getElem hi] at told
  rw [List.getElem_map, Option.some.inj told, List.getElem_range']
  exact (Nat.zero_add _).symm.trans (congrArg _ (Nat.one_mul i).symm)

theorem exists_targetDumps_interleave (honest : sink.Honest content) (connector : Connector σ)
    (targets : List (Target ω)) (s : σ) (schedule : List Nat) {outcomes : List TargetOutcome} :
    let m : Manner := ⟨options, .ofCompact options.compact, clock⟩
    let final := connector.logged.interleave (sink.buffered bufferCapacity) clock schedule
      ((s, []), workers options targets)
    Ended final.2 outcomes → (∀ o ∈ outcomes, o.error = none) →
    ∃ dumps : List (TargetDump ω),
      List.Forall₂ (fun target d => d.Of m content target) targets dumps ∧
        final.2.map (·.writer.close sink) = dumps.map (·.sink) ∧
        outcomes.flatMap (·.schemas) = dumps.flatMap (·.summaries) ∧
        ∀ i d, dumps[i]? = some d →
          entriesOf i (connector.answers final.1.2 s) = d.calls m := by
  intro m final ended none
  have length : final.2.length = targets.length :=
    (connector.logged.length_interleave _ clock schedule _).trans (List.length_map _)
  obtain ⟨accounts, explained, done⟩ := exists_accounts_interleave connector sink clock options
    targets s schedule fun v hv => by
      obtain ⟨i, found⟩ := List.getElem?_of_mem hv
      obtain ⟨r, finished, -⟩ := ended.2 i v found
      exact ⟨r, finished⟩
  have each (i : Fin targets.length) : ∃ d : TargetDump ω, d.Of m content targets[i] ∧
      (final.2.map (·.writer.close sink))[i.1]? = some d.sink ∧
      (outcomes.map (·.schemas))[i.1]? = some d.summaries ∧
      entriesOf i (connector.answers final.1.2 s) = d.calls m := by
    obtain ⟨v, found, account⟩ := done i _ _ (List.getElem?_eq_getElem i.2)
      (List.getElem?_eq_getElem (explained.length_eq ▸ i.2))
    obtain ⟨r, finished, told⟩ := ended.2 i v found
    obtain ⟨d, dumped, closed, made, summed⟩ := exists_targetDump_of_ran honest
      (finished ▸ account.ran) (none _ (List.mem_of_getElem? told))
    refine ⟨d, dumped, ?_, ?_, account.answered.symm.trans made.symm⟩
    · rw [List.getElem?_map, found, closed]
      rfl
    · rw [List.getElem?_map, told, summed]
      rfl
  choose d dumped closed summed made using each
  refine ⟨List.ofFn d, List.forall₂_iff_get.2 ⟨List.length_ofFn.symm, fun i h _ => ?_⟩, ?_, ?_, ?_⟩
  · rw [List.get_eq_getElem, List.get_eq_getElem, List.getElem_ofFn]
    exact dumped ⟨i, h⟩
  · rw [List.map_ofFn]
    exact eq_ofFn_of_getElem? ((List.length_map _).trans length) closed
  · rw [List.flatMap_def, List.flatMap_def, List.map_ofFn]
    refine congrArg List.flatten (eq_ofFn_of_getElem? ?_ summed)
    rw [List.length_map, ended.1, length]
  · intro i x found
    obtain ⟨h, rfl⟩ := List.getElem?_eq_some_iff.1 found
    rw [List.getElem_ofFn]
    exact made ⟨i, _⟩

/-! ## Runs -/

/-- Targets that end well, in whatever order, are summed up in the order in which they stand. -/
theorem eq_of_collect_eq_ok {total first n : Nat} {ended outcomes : List TargetOutcome}
    {summary : DumpSummary} (perm : ended.Perm outcomes)
    (index : outcomes.map (·.index) = List.range' first n)
    (ok : collect total ended = .ok summary) :
    (∀ o ∈ outcomes, o.error = none) ∧ summary = ⟨outcomes.flatMap (·.schemas)⟩ := by
  have distinct : (outcomes.map (·.index)).Nodup := by
    rw [index]
    exact List.nodup_range'
  rw [collect_perm total perm distinct] at ok
  have none := (isOk_collect_iff total outcomes).1 ⟨summary, ok, trivial⟩
  rw [collect_eq_ok total index none] at ok
  exact ⟨none, (Except.ok.inj ok).symm⟩

theorem validateRun_of_run_eq_ok {server : Server σ} {targets : List (Target ω)} {s : σ}
    {summary : DumpSummary} (ok : (run server sink clock options targets s).result = .ok summary) :
    validateRun options targets = .ok () := by
  unfold run at ok
  rcases validated : validateRun options targets with e | u
  · rw [validated] at ok
    cases ok
  · rfl

/-- A run that succeeds has dumped all schemas of all targets, whatever the server answers, whatever
the sinks refuse on the way and in whatever order the targets take turns.  Each summary counts the
objects that the server listed for its schema, the rows that it delivered, and the statements and
their tuples as they are written into the sink, and the sums are over all of them. -/
theorem run_summarizes_sinks (honest : sink.Honest content) (clock : DateTime)
    (options : DumpOptions) (targets : List (Target ω)) :
    let m : Manner := ⟨options, .ofCompact options.compact, clock⟩
    (∀ (σ : Type) (server : Server σ) (s : σ) (summary : DumpSummary),
      let whole := run server sink clock options targets s
      whole.result = .ok summary →
      ∃ dumps : List (TargetDump ω),
        List.Forall₂ (fun target d => d.Of m content target) targets dumps ∧ summary.Of dumps ∧
          whole.sinks = dumps.map (·.sink) ∧
          (targetTraces server sink clock options targets s).map exchanges =
            dumps.map (·.calls m)) ∧
    ∀ (σ : Type) (connector : Connector σ) (s : σ) (schedule : List Nat),
      let final := connector.logged.interleave (sink.buffered bufferCapacity) clock schedule
        ((s, []), workers options targets)
      ∀ outcomes, Ended final.2 outcomes → ∀ ended, ended.Perm outcomes → ∀ summary,
        collect targets.length ended = .ok summary →
        ∃ dumps : List (TargetDump ω),
          List.Forall₂ (fun target d => d.Of m content target) targets dumps ∧
            summary.Of dumps ∧ final.2.map (·.writer.close sink) = dumps.map (·.sink) ∧
            ∀ i d, dumps[i]? = some d →
              entriesOf i (connector.answers final.1.2 s) = d.calls m := by
  intro m
  constructor
  · intro σ server s summary whole ok
    obtain ⟨result, sinks⟩ := run_of_valid server sink clock s (validateRun_of_run_eq_ok ok)
    obtain ⟨none, rfl⟩ := eq_of_collect_eq_ok (.refl _)
      (index_runTargets server sink clock options targets s 0) (result.symm.trans ok)
    obtain ⟨dumps, each, closed, summed, calls⟩ :=
      exists_targetDumps honest server targets 0 s none
    exact ⟨dumps, each, summed ▸ DumpSummary.of_flatMap dumps, sinks.trans closed, calls⟩
  · intro σ connector s schedule final outcomes all ended perm summary ok
    obtain ⟨none, rfl⟩ := eq_of_collect_eq_ok perm (index_of_ended all) ok
    obtain ⟨dumps, each, closed, summed, calls⟩ :=
      exists_targetDumps_interleave honest connector targets s schedule all none
    exact ⟨dumps, each, summed ▸ DumpSummary.of_flatMap dumps, closed, calls⟩

theorem isOk_run_exampleServer {target : Target Medium}
    (valid : validateRun options [target] = .ok ())
    (fit : target.sink.room = none ∧ target.sink.refusesFlush = false) :
    IsOk (run exampleServer Medium.sink DateTime.epoch options [target] ()).result := by
  rw [(run_of_valid exampleServer Medium.sink DateTime.epoch () valid).1, isOk_collect_iff,
    runTargets_cons]
  exact List.forall_mem_cons.2
    ⟨runTarget_exampleServer options 0 target fit, fun o ho => absurd ho List.not_mem_nil⟩

/-- Two schemas are summed up, in their order. -/
theorem run_summarizes_two_schemas :
    let m : Manner := ⟨{}, .full, DateTime.epoch⟩
    let target : Target Medium := ⟨["shop", "crm"], {}⟩
    ∃ (summary : DumpSummary) (d : TargetDump Medium),
      (run exampleServer Medium.sink DateTime.epoch {} [target] ()).result = .ok summary ∧
      (run exampleServer Medium.sink DateTime.epoch {} [target] ()).sinks = [d.sink] ∧
      d.Of m Medium.content target ∧ summary.schemas = d.summaries ∧
      summary.schemas.map (·.schema) = ["shop", "crm"] := by
  intro m target
  have valid : validateRun {} [target] = .ok () := rfl
  obtain ⟨summary, ok, -⟩ := isOk_run_exampleServer valid ⟨rfl, rfl⟩
  obtain ⟨dumps, each, summed, sinks, -⟩ :=
    (run_summarizes_sinks Medium.honest_sink DateTime.epoch {} [target]).1 Unit exampleServer ()
      summary ok
  obtain ⟨d, rest, dumped, last, rfl⟩ := List.forall₂_cons_left_iff.1 each
  obtain rfl := List.forall₂_nil_left_iff.1 last
  have summaries : summary.schemas = d.summaries := summed.schemas.trans (List.append_nil _)
  refine ⟨summary, d, ok, sinks, dumped, summaries, ?_⟩
  rw [summaries, TargetDump.summaries, List.map_map]
  exact dumped.schemas

end Dump

end LogicalBackup
