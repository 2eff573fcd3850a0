import LogicalBackup.Proofs.Dump.Events

/-!
# Faults of a dump

A dump succeeds exactly where nothing is faulty: no call, write or flush fails, and no answer of the
server cannot be dumped (`surfaces_dumpInSnapshot`).
-/

namespace LogicalBackup

open Program DumpEvent

/-! ## Introspection -/

theorem surfaces_asking (c : Call) (wrap : Fault → DumpError) :
    Surfaces Call.Faulty (OkWith fun x => ¬c.Unfit x) (Asking.ask c wrap).run :=
  surfaces_step fun _ => okWith_mapError_iff.trans not_not.symm

theorem surfaces_asking_plain {c : Call} (h : ∀ x, ¬c.Unfit x) (wrap : Fault → DumpError) :
    Surfaces Call.Faulty IsOk (Asking.ask c wrap).run := by
  have all : (fun x => ¬c.Unfit x) = fun _ => True := funext fun x => eq_true (h x)
  have := surfaces_asking c wrap
  rwa [all] at this

theorem surfaces_describeObject (schema : String) (options : DumpOptions) {entry : ObjectEntry}
    (h : ObjectKind.ofWords? entry.kind ≠ none) :
    Surfaces Call.Faulty IsOk (describeObject schema options entry).run := by
  unfold describeObject
  cases hk : ObjectKind.ofWords? entry.kind with
  | none => exact absurd hk h
  | some kind =>
    refine (surfaces_asking_plain (fun _ => id) _).then fun entries => ?_
    cases kind with
    | table => exact surfaces_pure _
    | view =>
      refine (surfaces_asking_plain (fun _ => id) _).then fun createSql => ?_
      refine (surfaces_asking _ _).exceptBind (fun found hfound => ?_) fun found hfound => ?_
      · have same : ¬found.viewName ≠ entry.name := hfound
        dsimp only
        rw [if_neg same]
        exact surfaces_pure _
      · have other : found.viewName ≠ entry.name := not_not.1 hfound
        dsimp only
        rw [if_pos other]
        exact yields_done not_okWith_error

theorem fails_describeObject (schema : String) (options : DumpOptions) {entry : ObjectEntry}
    (h : ObjectKind.ofWords? entry.kind = none) :
    Fails IsOk (describeObject schema options entry).run := by
  unfold describeObject
  rw [h]
  exact yields_done not_okWith_error

theorem surfaces_describeObjects (schema : String) (options : DumpOptions)
    {entries : List ObjectEntry} (h : ∀ entry ∈ entries, ObjectKind.ofWords? entry.kind ≠ none) :
    Surfaces Call.Faulty IsOk (describeObjects schema options entries).run := by
  induction entries with
  | nil => exact surfaces_pure _
  | cons entry entries ih =>
    obtain ⟨first, rest⟩ := List.forall_mem_cons.1 h
    refine (surfaces_describeObject schema options first).then fun object => ?_
    exact (ih rest).then fun objects => surfaces_pure _

theorem fails_describeObjects (schema : String) (options : DumpOptions)
    {entries : List ObjectEntry} (h : ∃ entry ∈ entries, ObjectKind.ofWords? entry.kind = none) :
    Fails IsOk (describeObjects schema options entries).run := by
  induction entries with
  | nil =>
    obtain ⟨entry, he, -⟩ := h
    exact absurd he List.not_mem_nil
  | cons entry entries ih =>
    unfold describeObjects
    obtain ⟨bad, hmem, hbad⟩ := h
    rcases List.mem_cons.1 hmem with rfl | hmem
    · exact (fails_describeObject schema options hbad).failsBind
    · refine fails_bind fun object => ?_
      exact (ih ⟨bad, hmem, hbad⟩).failsBind

/-- Introspection succeeds exactly where no call fails and no answer is unfit. -/
theorem surfaces_introspect (schema : String) (options : DumpOptions) :
    Surfaces Call.Faulty IsOk (introspect schema options).run := by
  refine (surfaces_asking _ _).exceptBind (fun entries h => ?_) fun entries h => ?_
  · refine surfaces_describeObjects schema options fun entry he hk => ?_
    exact h ⟨entry, he, hk⟩
  · exact fails_describeObjects schema options (not_not.1 h)

/-! ## Tables and views -/

theorem surfaces_dumpRows (table : Table) (options : DumpOptions) :
    Surfaces Faulty IsOk (Dump.dumpRows table options).run := by
  refine (surfaces_ask _ _).exceptBind (fun stream h => ?_) fun stream h => ?_
  · rw [ExceptT.run_bind_lift]
    have received := Batch.surfaces_receive
      { stem := utf8 table.insertStem, packet := options.maxAllowedPacket,
        extended := !options.skipExtendedInsert } (not_not.1 h)
    refine (surfaces_writing received).bindState (fun u b => ?_) fun e b =>
      yields_done not_okWith_error
    change Surfaces Faulty IsOk (ExceptT.lift b.finish.toDump >>= _).run
    rw [ExceptT.run_bind_lift]
    refine (surfaces_writing b.surfaces_finish).bindResult (fun stats => ?_) fun e =>
      yields_done not_okWith_error
    exact surfaces_done ⟨stats, rfl, trivial⟩
  · rw [ExceptT.run_bind_lift]
    refine Yields.bind (Yields.expand path_performWrite_iff (Batch.fails_receive _ (not_not.1 h))) ?_
    rintro ⟨fault | u, b⟩ hb
    · exact yields_done not_okWith_error
    · exact absurd ⟨u, rfl, trivial⟩ hb

theorem surfaces_writeSection (lines : Lines) :
    Surfaces Faulty IsOk (Dumping.writeSection lines).run :=
  surfaces_writeBytes _

theorem surfaces_dumpTable (table : Table) (options : DumpOptions) (style : DumpStyle) :
    Surfaces Faulty IsOk (Dump.dumpTable table options style).run := by
  refine (surfaces_ask_plain (fun _ => id) _).then fun createSql => ?_
  refine (surfaces_writeSection _).then fun u => ?_
  have last (stats : BatchStats) : Surfaces Faulty IsOk
      (do Dumping.writeSection (Section.tableTail style table.name); return stats : Dumping _).run :=
    (surfaces_writeSection _).then fun u => surfaces_pure _
  dsimp only
  split_ifs
  · exact (surfaces_pure _).then last
  · exact (surfaces_dumpRows table options).then last

theorem surfaces_dumpTablesAndStubs (options : DumpOptions) (style : DumpStyle)
    (summary : SchemaSummary) (objects : List SchemaObject) :
    Surfaces Faulty IsOk (Dump.dumpTablesAndStubs options style summary objects).run := by
  induction objects generalizing summary with
  | nil => exact surfaces_pure _
  | cons object objects ih =>
    cases object with
    | table t => exact (surfaces_dumpTable t options style).then fun stats => ih _
    | view v => exact (surfaces_writeSection _).then fun u => ih _

theorem surfaces_dumpViews (style : DumpStyle) (summary : SchemaSummary)
    (objects : List SchemaObject) :
    Surfaces Faulty IsOk (Dump.dumpViews style summary objects).run := by
  induction objects generalizing summary with
  | nil => exact surfaces_pure _
  | cons object objects ih =>
    cases object with
    | table t => exact ih _
    | view v => exact (surfaces_writeSection _).then fun u => ih _

theorem surfaces_dumpObjects (schema : String) (objects : List SchemaObject)
    (options : DumpOptions) (style : DumpStyle) :
    Surfaces Faulty IsOk (Dump.dumpObjects schema objects options style).run :=
  (surfaces_dumpTablesAndStubs options style _ objects).then fun summary =>
    surfaces_dumpViews style summary objects

/-! ## Schemas -/

namespace Dump

/-- What comes before the objects of a schema: the objects are found. -/
def prepare (schema : String) (options : DumpOptions) (style : DumpStyle) :
    Dumping (List SchemaObject) := do
  Dumping.ask (.useSchema schema) .fault
  if style = .full then Dumping.ask (.execute "SET TIME_ZONE='+00:00'") .fault
  let server ← Dumping.ask .serverInfo .fault
  Dumping.writeSection (Section.header style schema server (!options.suppressUseDatabase))
  (introspect schema options).toDump

/-- The last part of `prepare`. -/
def survey (schema : String) (options : DumpOptions) (style : DumpStyle) :
    Dumping (List SchemaObject) := do
  let server ← Dumping.ask .serverInfo .fault
  Dumping.writeSection (Section.header style schema server (!options.suppressUseDatabase))
  (introspect schema options).toDump

/-- Whether the tables among these objects are locked. -/
def locks (options : DumpOptions) (objects : List SchemaObject) : Bool :=
  options.lockTables && !(objects.filterMap (·.table?)).isEmpty

/-- What comes of the objects of a schema, with their tables locked where that is asked for. -/
def dumpFound (schema : String) (options : DumpOptions) (style : DumpStyle)
    (objects : List SchemaObject) : Dumping SchemaSummary :=
  if locks options objects then dumpLocked schema objects options style
  else dumpObjects schema objects options style

/-- What comes after the objects of a schema. -/
def complete (style : DumpStyle) (summary : SchemaSummary) : Dumping SchemaSummary := do
  Dumping.writeSection (Section.footer style (← Dumping.now))
  Dumping.flush
  return summary

theorem dumpSchema_eq (schema : String) (options : DumpOptions) (style : DumpStyle) :
    dumpSchema schema options style =
      prepare schema options style >>= dumpFound schema options style >>= complete style := by
  have found (objects : List SchemaObject) :
      (if locks options objects then dumpLocked schema objects options style >>= complete style
        else dumpObjects schema objects options style >>= complete style) =
        dumpFound schema options style objects >>= complete style := by
    unfold dumpFound
    split <;> rfl
  unfold prepare
  cases style with
  | full =>
    simp only [bind_assoc, if_true, ← found]
    rfl
  | compact =>
    simp only [bind_assoc, reduceCtorEq, if_false, ← found]
    rfl

theorem dumpLocked_eq (schema : String) (objects : List SchemaObject) (options : DumpOptions)
    (style : DumpStyle) :
    dumpLocked schema objects options style =
      Dumping.ask (.execute (Table.lockSql (objects.filterMap (·.table?)))) .fault >>= fun _ =>
        (dumpObjects schema objects options style).followedBy (.execute unlockSql) := rfl

theorem dumpInSnapshot_eq (schema : String) (options : DumpOptions) (style : DumpStyle) :
    dumpInSnapshot schema options style =
      Dumping.ask .beginSnapshot .fault >>= fun _ =>
        (dumpSchema schema options style).followedBy .endSnapshot := rfl

theorem surfaces_survey (schema : String) (options : DumpOptions) (style : DumpStyle) :
    Surfaces Faulty IsOk (survey schema options style).run := by
  refine (surfaces_ask_plain (fun _ => id) _).then fun server => ?_
  refine (surfaces_writeSection _).then fun u => ?_
  exact Surfaces.expand path_performAsk_iff (surfaces_introspect schema options)

theorem surfaces_prepare (schema : String) (options : DumpOptions) (style : DumpStyle) :
    Surfaces Faulty IsOk (prepare schema options style).run := by
  have rest := surfaces_survey schema options style
  refine (surfaces_ask_plain (fun _ => id) _).then fun u => ?_
  cases style with
  | full => exact (surfaces_ask_plain (fun _ => id) _).then fun u => rest
  | compact => exact rest

theorem surfaces_dumpFound (schema : String) (options : DumpOptions) (style : DumpStyle)
    (objects : List SchemaObject) :
    Surfaces Faulty IsOk (dumpFound schema options style objects).run := by
  have all := surfaces_dumpObjects schema objects options style
  unfold dumpFound
  split_ifs
  · rw [dumpLocked_eq]
    exact (surfaces_ask_plain (fun _ => id) _).then fun u =>
      surfaces_followedBy all fun _ => id
  · exact all

theorem surfaces_complete (style : DumpStyle) (summary : SchemaSummary) :
    Surfaces Faulty IsOk (complete style summary).run :=
  surfaces_now.then fun _ => (surfaces_writeSection _).then fun _ =>
    surfaces_flush.then fun _ => surfaces_pure summary

theorem surfaces_dumpSchema (schema : String) (options : DumpOptions) (style : DumpStyle) :
    Surfaces Faulty IsOk (dumpSchema schema options style).run := by
  rw [dumpSchema_eq]
  refine Surfaces.then ?_ (surfaces_complete style)
  exact (surfaces_prepare schema options style).then (surfaces_dumpFound schema options style)

/-- A dump succeeds exactly where nothing is faulty. -/
theorem surfaces_dumpInSnapshot (schema : String) (options : DumpOptions) (style : DumpStyle) :
    Surfaces Faulty IsOk (dumpInSnapshot schema options style).run := by
  rw [dumpInSnapshot_eq]
  exact (surfaces_ask_plain (fun _ => id) _).then fun u =>
    surfaces_followedBy (surfaces_dumpSchema schema options style) fun _ => id

end Dump

end LogicalBackup
