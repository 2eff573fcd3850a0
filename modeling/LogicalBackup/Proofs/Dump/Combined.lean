import LogicalBackup.Proofs.Dump.LimitedSinks
import LogicalBackup.Proofs.Dump.Planning

/-!
# One sink for many schemas

Schemas that are dumped into one sink are dumped as into a sink each, and the one sink then holds
what the others hold together (`dump_combined`).  Both dumps come down to the same runs of the
schemas, one after another, with a writer that takes everything (`Dumped`).
-/

namespace LogicalBackup

open Program DumpEvent

variable {α σ ω : Type}

/-- The writer that takes everything and keeps nothing. -/
def Writer.silent : Writer Unit where
  write _ _ := (.ok (), ())
  flush _ := (.ok (), ())

/-- The world in which nothing that is written fails. -/
def DumpWorld.silent (server : Server σ) (clock : DateTime) : DumpWorld σ Unit where
  server
  writer := .silent
  clock

/-- A writer that never fails has no influence on a run. -/
theorem DumpWorld.run_records (world : DumpWorld σ ω) {fit : ω → Prop} {content : ω → Bytes}
    (records : world.writer.Records fit content) (p : Program DumpOp.Reply α) (s : σ) {w : ω}
    (hw : fit w) :
    let alone := (silent world.server world.clock).answer
    (Program.run world.answer p (s, w)).1 = (Program.run alone p (s, ())).1 ∧
      (Program.run world.answer p (s, w)).2.1 = (Program.run alone p (s, ())).2.1 ∧
      trace world.answer p (s, w) = trace alone p (s, ()) := by
  intro alone
  induction p generalizing s w with
  | done a => exact ⟨rfl, rfl, rfl⟩
  | step op next ih =>
    cases op with
    | ask c =>
      obtain ⟨result, state, events⟩ := ih (world.server c s).1 (world.server c s).2 hw
      exact ⟨result, state, congrArg (_ :: ·) events⟩
    | now =>
      obtain ⟨result, state, events⟩ := ih world.clock s hw
      exact ⟨result, state, congrArg (_ :: ·) events⟩
    | write op =>
      obtain ⟨ok, fits⟩ := records.answer op hw
      obtain ⟨result, state, events⟩ := ih (.ok ()) s fits
      have silence : alone (.write op) (s, ()) = (.ok (), s, ()) := by cases op <;> rfl
      simp only [run_step, trace, DumpWorld.answer_write, ok, silence]
      exact ⟨result, state, congrArg (_ :: ·) events⟩

namespace Dump

/-! ## Schemas one after another -/

/-- The schemas are dumped one after another, with these summaries and these bytes, which leads the
server from one state to another. -/
inductive Dumped (server : Server σ) (clock : DateTime) (options : DumpOptions)
    (style : DumpStyle) : List String → σ → List SchemaSummary → List Bytes → σ → Prop
  | nil (s : σ) : Dumped server clock options style [] s [] [] s
  | cons {schema : String} {schemas : List String} {s s' s'' : σ} {summary : SchemaSummary}
    {summaries : List SchemaSummary} {parts : List Bytes} :
    Program.run (DumpWorld.silent server clock).answer (dumpInSnapshot schema options style).run
      (s, ()) = (.ok summary, s', ()) →
    Dumped server clock options style schemas s' summaries parts s'' →
    Dumped server clock options style (schema :: schemas) s (summary :: summaries)
      (dumped (trace (DumpWorld.silent server clock).answer
        (dumpInSnapshot schema options style).run (s, ())) :: parts) s''

section Dumped

variable {server : Server σ} {clock : DateTime} {options : DumpOptions} {style : DumpStyle}
  {schema : String} {schemas : List String} {s s' : σ} {summaries : List SchemaSummary}
  {parts : List Bytes}

theorem Dumped.run_dumpSchemas (h : Dumped server clock options style schemas s summaries parts s')
    (done : List SchemaSummary) :
    Program.run (DumpWorld.silent server clock).answer (dumpSchemas options style done schemas)
        (s, ()) = ((done ++ summaries, none), s', ()) ∧
      dumped (trace (DumpWorld.silent server clock).answer
        (dumpSchemas options style done schemas) (s, ())) = parts.flatten := by
  induction h generalizing done with
  | nil s =>
    rw [List.append_nil]
    exact ⟨rfl, rfl⟩
  | cons first _ ih =>
    obtain ⟨ends, bytes⟩ := ih (done ++ [_])
    rw [dumpSchemas, run_bind, trace_bind, first, dumped_append, List.flatten_cons, ← bytes]
    refine ⟨?_, rfl⟩
    rw [List.append_assoc] at ends
    exact ends

theorem Dumped.length_parts
    (h : Dumped server clock options style schemas s summaries parts s') :
    parts.length = schemas.length := by
  induction h with
  | nil s => rfl
  | cons _ _ ih => exact congrArg (· + 1) ih

/-- Without an error all schemas are dumped. -/
theorem exists_dumped {done : List SchemaSummary}
    (h : (Program.run (DumpWorld.silent server clock).answer
      (dumpSchemas options style done schemas) (s, ())).1.2 = none) :
    ∃ summaries parts s', Dumped server clock options style schemas s summaries parts s' := by
  induction schemas generalizing done s with
  | nil => exact ⟨[], [], s, .nil s⟩
  | cons schema schemas ih =>
    rw [dumpSchemas, run_bind] at h
    rcases first : Program.run (DumpWorld.silent server clock).answer
      (dumpInSnapshot schema options style).run (s, ()) with ⟨e | summary, s', u⟩
    · rw [first] at h
      cases h
    · rw [first] at h
      obtain ⟨summaries, parts, s'', rest⟩ := ih h
      exact ⟨_, _, s'', .cons first rest⟩

/-- What is dumped one after another is dumped each for itself, and the other way round. -/
theorem dumped_cons_iff {s'' : σ} :
    Dumped server clock options style (schema :: schemas) s summaries parts s'' ↔
      ∃ summary part s' summaries' parts', summaries = summary :: summaries' ∧
        parts = part :: parts' ∧
        Dumped server clock options style [schema] s [summary] [part] s' ∧
        Dumped server clock options style schemas s' summaries' parts' s'' := by
  constructor
  · rintro (_ | ⟨first, rest⟩)
    exact ⟨_, _, _, _, _, rfl, rfl, .cons first (.nil _), rest⟩
  · rintro ⟨summary, part, s', summaries', parts', rfl, rfl, first, rest⟩
    cases first with
    | cons first none =>
      cases none
      exact .cons first rest

end Dumped

/-! ## Targets -/

theorem runTargets_cons (server : Server σ) (sink : Sink ω) (clock : DateTime)
    (options : DumpOptions) (first : Nat) (target : Target ω) (targets : List (Target ω)) (s : σ) :
    runTargets server sink clock options first (target :: targets) s =
      let one := runTarget server sink clock options first target s
      let rest := runTargets server sink clock options (first + 1) targets one.2.2
      (one.1 :: rest.1, one.2.1 :: rest.2.1, rest.2.2) := rfl

section Targets

variable {server : Server σ} {sink : Sink ω} {clock : DateTime} {options : DumpOptions}
  {fit : ω → Prop} {content : ω → Bytes} {s : σ} (never : sink.NeverFails fit content)

include never

variable (server clock options s) in
theorem runTarget_silent (target : Target ω) (hw : fit target.sink) (index : Nat) :
    let alone := (DumpWorld.silent server clock).answer
    let ended := Program.run alone (targetProgram options target) (s, ())
    let ran := runTarget server sink clock options index target s
    ran.1 = ⟨index, ended.1.1, ended.1.2⟩ ∧ ran.2.2 = ended.2.1 ∧
      content ran.2.1 =
        content target.sink ++ dumped (trace alone (targetProgram options target) (s, ())) := by
  intro alone ended ran
  obtain ⟨-, grown⟩ := sound_targetTrace server clock options target s never hw index
  have records := never.buffered_records bufferCapacity
  obtain ⟨result, state, events⟩ := (targetWorld server sink clock).run_records records
    (targetProgram options target) s (w := { inner := target.sink }) hw
  refine ⟨?_, state, grown.trans ?_⟩
  · exact congrArg (fun r : _ × _ => (⟨index, r.1, r.2⟩ : TargetOutcome)) result
  · rw [targetTrace, events]
    rfl

theorem runTarget_of_dumped (target : Target ω) (hw : fit target.sink) {s' : σ}
    {summaries : List SchemaSummary} {parts : List Bytes}
    (h : Dumped server clock options (.ofCompact options.compact) target.schemas s summaries parts
      s') (index : Nat) :
    let ran := runTarget server sink clock options index target s
    ran.1 = ⟨index, summaries, none⟩ ∧ ran.2.2 = s' ∧
      content ran.2.1 = content target.sink ++ parts.flatten := by
  obtain ⟨outcome, state, grown⟩ := runTarget_silent server clock options s never target hw index
  obtain ⟨ends, bytes⟩ := h.run_dumpSchemas []
  rw [targetProgram, ends] at outcome state
  rw [targetProgram, bytes] at grown
  exact ⟨outcome, state, grown⟩

theorem exists_dumped_of_runTarget (target : Target ω) (hw : fit target.sink) {index : Nat}
    (h : (runTarget server sink clock options index target s).1.error = none) :
    ∃ summaries parts s', Dumped server clock options (.ofCompact options.compact) target.schemas s
      summaries parts s' := by
  rw [(runTarget_silent server clock options s never target hw index).1] at h
  exact exists_dumped h

/-- Targets with a schema each. -/
theorem runTargets_of_dumped {schemas : List String} {sinks : List ω} {s' : σ}
    {summaries : List SchemaSummary} {parts : List Bytes}
    (h : Dumped server clock options (.ofCompact options.compact) schemas s summaries parts s')
    (same : sinks.length = schemas.length) (hw : ∀ w ∈ sinks, fit w) (first : Nat) :
    let ran := runTargets server sink clock options first
      (schemas.zipWith (fun schema sink => ⟨[schema], sink⟩) sinks) s
    (∀ o ∈ ran.1, o.error = none) ∧ ran.1.flatMap (·.schemas) = summaries ∧ ran.2.2 = s' ∧
      ran.2.1.map content = sinks.zipWith (fun w part => content w ++ part) parts := by
  induction schemas generalizing sinks s summaries parts first with
  | nil =>
    cases h
    cases List.length_eq_zero_iff.1 same
    exact ⟨nofun, rfl, rfl, rfl⟩
  | cons schema schemas ih =>
    cases sinks with
    | nil => cases same
    | cons w sinks =>
      obtain ⟨summary, part, s₁, summaries', parts', rfl, rfl, one, rest⟩ := dumped_cons_iff.1 h
      obtain ⟨fits, others⟩ := List.forall_mem_cons.1 hw
      obtain ⟨outcome, state, grown⟩ :=
        runTarget_of_dumped never ⟨[schema], w⟩ fits one first
      obtain ⟨none, schemas, last, contents⟩ := ih rest (Nat.succ.inj same) others (first + 1)
      rw [← state] at none schemas last contents
      rw [List.flatten_singleton] at grown
      rw [List.zipWith_cons_cons, runTargets_cons]
      refine ⟨List.forall_mem_cons.2 ⟨?_, none⟩, ?_, last, ?_⟩
      · exact congrArg TargetOutcome.error outcome
      · exact congrArg₂ (· ++ ·) (congrArg TargetOutcome.schemas outcome) schemas
      · exact congrArg₂ List.cons grown contents

theorem exists_dumped_of_runTargets {schemas : List String} {sinks : List ω}
    (same : sinks.length = schemas.length) (hw : ∀ w ∈ sinks, fit w) {first : Nat}
    (h : ∀ o ∈ (runTargets server sink clock options first
      (schemas.zipWith (fun schema sink => ⟨[schema], sink⟩) sinks) s).1, o.error = none) :
    ∃ summaries parts s', Dumped server clock options (.ofCompact options.compact) schemas s
      summaries parts s' := by
  induction schemas generalizing sinks s first with
  | nil => exact ⟨[], [], s, .nil s⟩
  | cons schema schemas ih =>
    cases sinks with
    | nil => cases same
    | cons w sinks =>
      obtain ⟨fits, others⟩ := List.forall_mem_cons.1 hw
      rw [List.zipWith_cons_cons, runTargets_cons] at h
      obtain ⟨one, rest⟩ := List.forall_mem_cons.1 h
      obtain ⟨_, _, s₁, ran⟩ := exists_dumped_of_runTarget never ⟨[schema], w⟩ fits one
      have state := (runTarget_of_dumped never ⟨[schema], w⟩ fits ran first).2.1
      obtain ⟨summaries, parts, s', all⟩ := ih (Nat.succ.inj same) others rest
      cases ran with
      | cons ran none =>
        cases none
        rw [state] at all
        exact ⟨_, _, s', .cons ran all⟩

end Targets

/-! ## Dumps in order -/

/-- Runs that are successful together, with one summary, and of which one then adds to one sink what
the other adds to many. -/
structure Agree (content : ω → Bytes) (sinks : List ω) (w : ω)
    (separate combined : Except DumpError DumpSummary) (separateSinks combinedSinks : List ω) :
    Prop where
  result : ∀ summary, separate = .ok summary ↔ combined = .ok summary
  content : IsOk separate → ∃ parts : List Bytes, parts.length = sinks.length ∧
    separateSinks.map content = sinks.zipWith (fun w part => content w ++ part) parts ∧
    combinedSinks.map content = [content w ++ parts.flatten]

/-- A request for several schemas, with a sink for each of them and with one sink for all. -/
structure Request (options : DumpOptions) (schemas : List String) (fit : ω → Prop) (sinks : List ω)
    (w : ω) : Prop where
  validated : options.validate = .ok ()
  good : ∀ name ∈ schemas, GoodName name
  several : 2 ≤ schemas.length
  same : sinks.length = schemas.length
  fits : ∀ w ∈ sinks, fit w
  fit : fit w

namespace Request

variable {server : Server σ} {sink : Sink ω} {clock : DateTime} {options : DumpOptions}
  {schemas : List String} {fit : ω → Prop} {content : ω → Bytes} {sinks : List ω} {w : ω} {s : σ}
  (request : Request options schemas fit sinks w)

include request

variable (server sink clock s) in
theorem dump_separate :
    dump server sink clock options schemas sinks s =
      let ran := runTargets server sink clock options 0
        (schemas.zipWith (fun schema sink => ⟨[schema], sink⟩) sinks) s
      { result := collect schemas.length ran.1, sinks := ran.2.1, server := ran.2.2 } := by
  have several := request.several
  have same := request.same
  have paired : pair schemas sinks =
      .ok (schemas.zipWith (fun schema sink => ⟨[schema], sink⟩) sinks) := by
    unfold pair
    split
    · simp at same
      omega
    · rw [if_pos same]
  have length : (schemas.zipWith (fun schema sink => (⟨[schema], sink⟩ : Target ω)) sinks).length =
      schemas.length := by
    rw [List.length_zipWith, same, Nat.min_self]
  rw [dump_of_valid server sink clock s request.validated request.good ?_ ?_ paired, length]
  · rintro rfl
    simp at several
  · rintro rfl
    simp at same
    omega

variable (server sink clock s) in
theorem dump_combined :
    dump server sink clock options schemas [w] s =
      let ran := runTarget server sink clock options 0 ⟨schemas, w⟩ s
      { result := collect 1 [ran.1], sinks := [ran.2.1], server := ran.2.2 } := by
  have several := request.several
  have paired : pair schemas [w] = .ok [⟨schemas, w⟩] := rfl
  refine dump_of_valid server sink clock s request.validated request.good ?_ (List.cons_ne_nil _ _)
    paired
  rintro rfl
  simp at several

/-- Both dumps come to the same end if the schemas are dumped one after another. -/
theorem dumps_of_dumped (never : sink.NeverFails fit content) {s' : σ}
    {summaries : List SchemaSummary} {parts : List Bytes}
    (h : Dumped server clock options (.ofCompact options.compact) schemas s summaries parts s') :
    let separate := dump server sink clock options schemas sinks s
    let combined := dump server sink clock options schemas [w] s
    (separate.result = .ok ⟨summaries⟩ ∧ separate.server = s' ∧
        separate.sinks.map content = sinks.zipWith (fun w part => content w ++ part) parts) ∧
      combined.result = .ok ⟨summaries⟩ ∧ combined.server = s' ∧
        combined.sinks.map content = [content w ++ parts.flatten] := by
  intro separate combined
  have separate_eq : separate = _ := request.dump_separate server sink clock s
  have combined_eq : combined = _ := request.dump_combined server sink clock s
  constructor
  · obtain ⟨none, all, state, contents⟩ :=
      runTargets_of_dumped never h request.same request.fits 0
    rw [separate_eq]
    refine ⟨?_, state, contents⟩
    rw [← all]
    exact collect_eq_ok _ (index_runTargets server sink clock options _ s 0) none
  · obtain ⟨outcome, state, grown⟩ := runTarget_of_dumped never ⟨schemas, w⟩ request.fit h 0
    rw [combined_eq]
    refine ⟨?_, state, congrArg ([·]) grown⟩
    dsimp only
    have index : [(⟨0, summaries, none⟩ : TargetOutcome)].map (·.index) = List.range' 0 1 := rfl
    rw [outcome, collect_eq_ok 1 index (List.forall_mem_singleton.2 rfl), List.flatMap_singleton]

/-- A dump is successful, into many sinks or into one, if the schemas are dumped one after
another. -/
theorem exists_dumped_of_isOk (never : sink.NeverFails fit content)
    (h : IsOk (dump server sink clock options schemas sinks s).result ∨
      IsOk (dump server sink clock options schemas [w] s).result) :
    ∃ summaries parts s', Dumped server clock options (.ofCompact options.compact) schemas s
      summaries parts s' := by
  rw [request.dump_separate, request.dump_combined] at h
  rcases h with separate | combined
  · exact exists_dumped_of_runTargets never request.same request.fits
      ((isOk_collect_iff _ _).1 separate)
  · exact exists_dumped_of_runTarget never ⟨schemas, w⟩ request.fit
      ((isOk_collect_iff _ _).1 combined _ (List.mem_singleton_self _))

variable (server clock s) in
/-- From one state of the server, both dumps make the same calls and come to the same end. -/
theorem agree (never : sink.NeverFails fit content) :
    let separate := dump server sink clock options schemas sinks s
    let combined := dump server sink clock options schemas [w] s
    Agree content sinks w separate.result combined.result separate.sinks combined.sinks ∧
      (IsOk separate.result → separate.server = combined.server) := by
  intro separate combined
  by_cases ok : IsOk separate.result ∨ IsOk combined.result
  · obtain ⟨summaries, parts, s', all⟩ := request.exists_dumped_of_isOk never ok
    obtain ⟨⟨result, state, contents⟩, result', state', contents'⟩ :=
      request.dumps_of_dumped never all
    have length := all.length_parts.trans request.same.symm
    refine ⟨⟨fun summary => ?_, fun _ => ⟨parts, length, contents, contents'⟩⟩, fun _ => ?_⟩
    · rw [result, result']
    · rw [state, state']
  · obtain ⟨failed, failed'⟩ := not_or.1 ok
    refine ⟨⟨fun summary => ?_, fun ok => absurd ok failed⟩, fun ok => absurd ok failed⟩
    exact iff_of_false (fun h => failed ⟨summary, h, trivial⟩) fun h =>
      failed' ⟨summary, h, trivial⟩

variable (sink clock) in
/-- Where sessions have nothing to do with each other, the state of the server does not matter. -/
theorem dump_combined_congr (h : server.SessionLocal) (s s' : σ) :
    let combined := dump server.logged sink clock options schemas [w] (s, [])
    let combined' := dump server.logged sink clock options schemas [w] (s', [])
    combined.result = combined'.result ∧ combined.sinks = combined'.sinks ∧
      combined.server.2 = combined'.server.2 := by
  intro combined combined'
  have one : combined = _ := request.dump_combined server.logged sink clock (s, [])
  have other : combined' = _ := request.dump_combined server.logged sink clock (s', [])
  rw [one, other, runTarget_logged, runTarget_logged]
  obtain ⟨outcome, taken⟩ := runTarget_congr sink clock options ⟨schemas, w⟩ h 0 s s'
  have events := (run_targetProgram_congr sink clock options ⟨schemas, w⟩ h s s').2
  dsimp only
  rw [outcome, taken, events]
  exact ⟨rfl, rfl, rfl⟩

end Request

/-! ## Dumps in turn -/

/-- All workers have come to their ends, with these outcomes. -/
def Ended (workers : List (Worker (List SchemaSummary × Option DumpError) ω))
    (outcomes : List TargetOutcome) : Prop :=
  outcomes.length = workers.length ∧ ∀ (i : Nat) (v : Worker _ ω), workers[i]? = some v →
    ∃ r, v.program = .done r ∧ outcomes[i]? = some ⟨i, r.1, r.2⟩

/-- Where sessions have nothing to do with each other, workers that take turns come to the ends to
which their targets come one after another, as any caller. -/
theorem runTargets_of_ended {connector : Connector σ} (h : connector.SessionLocal) (sink : Sink ω)
    (clock : DateTime) (options : DumpOptions) (targets : List (Target ω)) (s : σ)
    (schedule : List Nat) (k : Nat) (s' : σ) {outcomes : List TargetOutcome} :
    let final := connector.interleave (sink.buffered bufferCapacity) clock schedule
      (s, workers options targets)
    let ran := runTargets (connector k) sink clock options 0 targets s'
    Ended final.2 outcomes → outcomes = ran.1 ∧ final.2.map (·.writer.close sink) = ran.2.1 := by
  intro final ran ⟨total, each⟩
  have length : final.2.length = targets.length :=
    (connector.length_interleave _ clock schedule _).trans (List.length_map _)
  have length₁ : ran.1.length = targets.length := by
    rw [← List.length_map (·.index), index_runTargets, List.length_range']
  have length₂ : ran.2.1.length = targets.length :=
    length_runTargets (connector k) sink clock options targets s' 0
  have same (i : Nat) (h' : i < targets.length) : outcomes[i]? = ran.1[i]? ∧
      (final.2.map (·.writer.close sink))[i]? = ran.2.1[i]? := by
    have found := List.getElem?_eq_getElem h'
    obtain ⟨s₁, outcome, taken⟩ :=
      exists_getElem?_runTargets (connector k) sink clock options 0 s' found
    obtain ⟨v, hv, ends, -⟩ := interleave_workers h s schedule found k s₁
    obtain ⟨r, done, told⟩ := each i v hv
    obtain ⟨outcome', taken'⟩ := ends r done
    rw [Nat.zero_add] at outcome taken
    rw [told, List.getElem?_map, hv, outcome, taken, outcome', taken']
    exact ⟨rfl, rfl⟩
  constructor
  · refine List.ext_getElem? fun i => ?_
    by_cases h' : i < targets.length
    · exact (same i h').1
    · rw [List.getElem?_eq_none (by omega), List.getElem?_eq_none (by omega)]
  · refine List.ext_getElem? fun i => ?_
    by_cases h' : i < targets.length
    · exact (same i h').2
    · rw [List.getElem?_eq_none (by rw [List.length_map]; omega), List.getElem?_eq_none (by omega)]

/-- A dump into one sink agrees with one into a sink for each schema, if both are made in order by a
server in the same state or by one whose sessions have nothing to do with each other, and also if
the targets of the second take turns. -/
theorem combined_sink_agrees {sink : Sink ω} {fit : ω → Prop} {content : ω → Bytes}
    (never : sink.NeverFails fit content) (clock : DateTime) {options : DumpOptions}
    {schemas : List String} {sinks : List ω} {w : ω}
    (request : Request options schemas fit sinks w) :
    (∀ (σ : Type) (server : Server σ) (s s' : σ), s' = s ∨ server.SessionLocal →
      let separate := dump server.logged sink clock options schemas sinks (s, [])
      let combined := dump server.logged sink clock options schemas [w] (s', [])
      Agree content sinks w separate.result combined.result separate.sinks combined.sinks ∧
        (IsOk separate.result → separate.server.2 = combined.server.2)) ∧
    ∀ (σ : Type) (connector : Connector σ), connector.SessionLocal →
      ∀ (s : σ) (schedule : List Nat),
        let targets := schemas.zipWith (fun schema sink => ⟨[schema], sink⟩) sinks
        let final := connector.interleave (sink.buffered bufferCapacity) clock schedule
          (s, workers options targets)
        ∀ outcomes, Ended final.2 outcomes → ∀ ended, ended.Perm outcomes → ∀ (k : Nat) (s' : σ),
          let combined := dump (connector k) sink clock options schemas [w] s'
          Agree content sinks w (collect schemas.length ended) combined.result
            (final.2.map (·.writer.close sink)) combined.sinks := by
  constructor
  · intro σ server s s' from_same separate combined
    obtain ⟨agree, state⟩ := request.agree server.logged clock (s, []) never
    rcases from_same with rfl | sessionLocal
    · exact ⟨agree, fun ok => congrArg Prod.snd (state ok)⟩
    · obtain ⟨result, taken, calls⟩ :=
        request.dump_combined_congr sink clock sessionLocal s s'
      rw [result, taken] at agree
      refine ⟨agree, fun ok => ?_⟩
      rw [← calls]
      exact congrArg Prod.snd (state ok)
  · intro σ connector sessionLocal s schedule targets final outcomes all ended perm k s' combined
    obtain ⟨rfl, contents⟩ := runTargets_of_ended sessionLocal sink clock options targets s schedule
      k s' all
    have agree := (request.agree (connector k) clock s' never).1
    have distinct : ((runTargets (connector k) sink clock options 0 targets s').1.map
        (·.index)).Nodup := by
      rw [index_runTargets]
      exact List.nodup_range'
    rw [collect_perm _ perm distinct]
    rw [request.dump_separate (connector k) sink clock s'] at agree
    rw [contents]
    exact agree

theorem isOk_dump_exampleServer {options : DumpOptions} {schemas : List String}
    {sinks : List Medium} {w : Medium}
    (request : Request options schemas (fun m => m.room = none ∧ m.refusesFlush = false) sinks w) :
    IsOk (dump exampleServer.logged Medium.sink DateTime.epoch options schemas [w]
      ((), [])).result := by
  rw [request.dump_combined, isOk_collect_iff, List.forall_mem_singleton, runTarget_logged]
  exact runTarget_exampleServer options 0 ⟨schemas, w⟩ request.fit

theorem zipWith_content_append {content : ω → Bytes} {sinks : List ω}
    (empty : ∀ w ∈ sinks, content w = []) {parts : List Bytes} (h : parts.length = sinks.length) :
    sinks.zipWith (fun w part => content w ++ part) parts = parts := by
  induction sinks generalizing parts with
  | nil => exact (List.length_eq_zero_iff.1 h).symm
  | cons w sinks ih =>
    obtain ⟨first, empty⟩ := List.forall_mem_cons.1 empty
    cases parts with
    | nil => cases h
    | cons part parts =>
      rw [List.zipWith_cons_cons, first, ih empty (Nat.succ.inj h)]
      rfl

/-- What sinks hold in the end that were empty. -/
theorem Agree.flatten {content : ω → Bytes} {sinks : List ω} {w : ω}
    {separate combined : Except DumpError DumpSummary} {separateSinks combinedSinks : List ω}
    (agree : Agree content sinks w separate combined separateSinks combinedSinks)
    (empty : ∀ w' ∈ w :: sinks, content w' = []) (ok : IsOk combined) :
    separate = combined ∧
      combinedSinks.map content = [(separateSinks.map content).flatten] := by
  obtain ⟨summary, same, -⟩ := ok
  have same' := (agree.result summary).2 same
  obtain ⟨parts, length, contents, contents'⟩ := agree.content ⟨summary, same', trivial⟩
  obtain ⟨first, rest⟩ := List.forall_mem_cons.1 empty
  rw [contents, contents', zipWith_content_append rest length, first, List.nil_append]
  exact ⟨same'.trans same.symm, rfl⟩

/-- Two schemas in two files are the same as in one. -/
theorem combined_sink_agrees_on_two_schemas :
    let schemas := ["shop", "crm"]
    let separate :=
      dump exampleServer.logged Medium.sink DateTime.epoch {} schemas [{}, {}] ((), [])
    let combined := dump exampleServer.logged Medium.sink DateTime.epoch {} schemas [{}] ((), [])
    IsOk combined.result ∧ separate.result = combined.result ∧
      combined.sinks.map Medium.content = [(separate.sinks.map Medium.content).flatten] := by
  intro schemas
  have request : Request {} schemas (fun m => m.room = none ∧ m.refusesFlush = false)
      [({} : Medium), {}] {} := {
    validated := rfl
    good := by decide
    several := Nat.le_refl 2
    same := rfl
    fits := List.forall_mem_cons.2 ⟨⟨rfl, rfl⟩, List.forall_mem_singleton.2 ⟨rfl, rfl⟩⟩
    fit := ⟨rfl, rfl⟩ }
  have sessionLocal : exampleServer.SessionLocal := fun calls s s' _ => rfl
  have ok := isOk_dump_exampleServer request
  have inOrder := (combined_sink_agrees Medium.neverFails_sink DateTime.epoch request).1
  have agree := (inOrder Unit exampleServer () () (.inr sessionLocal)).1
  exact ⟨ok, agree.flatten (by decide) ok⟩

end Dump

end LogicalBackup
