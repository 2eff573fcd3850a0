import LogicalBackup.Dump.Run
import LogicalBackup.Proofs.Dump.Statements

/-!
# Targets

The schemas of a target are dumped one after another into one sink.  A target comes to its end
without an error exactly where nothing is faulty (`surfaces_dumpSchemas`), and what it then has
written are the pieces of its schemas in order (`pieced_dumpSchemas`).
-/

namespace LogicalBackup

open Program DumpEvent

/-- The calls of a dump within a snapshot. -/
def SchemaContents.inSnapshot (c : SchemaContents) (schema : String) (m : Manner) :
    List CallEvent :=
  ⟨.beginSnapshot, .ok ()⟩ ::
    (c.exchanges schema m.options m.style ++ [⟨.endSnapshot, .ok ()⟩])

namespace Dump

theorem composes_dumpInSnapshot {m : Manner} (schema : String) :
    Composes m (dumpInSnapshot schema m.options m.style) fun e ps a =>
      ∃ c : SchemaContents, c.Arrived schema m.options ∧ e = c.inSnapshot schema m ∧
        ps = c.pieces schema m.options ∧
        a = SchemaSummary.ofContents schema m.options c.contents := by
  rw [dumpInSnapshot_eq]
  refine (composes_ask (c := .beginSnapshot) nofun _).bind ?_
  rintro e ps u ⟨rfl, rfl⟩
  refine (composes_followedBy (composes_dumpSchema schema) (c := .endSnapshot) nofun).imp ?_
  rintro e ps a ⟨e', last, rfl, c, arrived, rfl, rfl, rfl⟩
  exact ⟨c, arrived, rfl, rfl, rfl⟩

/-- A target ends without an error exactly where nothing is faulty. -/
theorem surfaces_dumpSchemas (options : DumpOptions) (style : DumpStyle)
    (done : List SchemaSummary) (schemas : List String) :
    Surfaces Faulty (fun r => r.2 = none) (dumpSchemas options style done schemas) := by
  induction schemas generalizing done with
  | nil =>
    refine surfaces_flush.bindResult (fun u => ?_) fun e => ?_
    · exact surfaces_done rfl
    · exact yields_done nofun
  | cons schema schemas ih =>
    refine (surfaces_dumpInSnapshot schema options style).bindResult (fun summary => ih _) fun e => ?_
    exact Yields.bind (Q := fun _ => True) (fun _ _ _ => trivial) fun _ _ => yields_done nofun

/-- The schemas of a target are written in order. -/
theorem pieced_dumpSchemas {m : Manner} (done : List SchemaSummary) (schemas : List String) :
    Pieced m (fun r => r.2 = none) (dumpSchemas m.options m.style done schemas) fun e ps r =>
      ∃ told : List (String × SchemaContents), told.map Prod.fst = schemas ∧
        (∀ p ∈ told, p.2.Arrived p.1 m.options) ∧
        e = told.flatMap (fun p => p.2.inSnapshot p.1 m) ∧
        ps = told.flatMap (fun p => p.2.pieces p.1 m.options) ∧
        r.1 = done ++ told.map fun p => SchemaSummary.ofContents p.1 m.options p.2.contents := by
  induction schemas generalizing done with
  | nil =>
    refine Pieced.bind composes_flush ?_ ?_
    · rintro e ps r ⟨u, rfl, rfl, rfl⟩ -
      exact pieced_done ⟨[], rfl, nofun, rfl, rfl, (List.append_nil _).symm⟩
    · rintro (e | u) failed
      · exact idles_done nofun
      · exact absurd ⟨u, rfl, trivial⟩ failed
  | cons schema schemas ih =>
    refine Pieced.bind (composes_dumpInSnapshot schema) ?_ ?_
    · rintro e ps r ⟨summary, rfl, c, arrived, rfl, rfl, rfl⟩ -
      refine (ih _).imp ?_
      rintro e ps r ⟨told, rfl, all, rfl, rfl, same⟩
      refine ⟨(schema, c) :: told, rfl, List.forall_mem_cons.2 ⟨arrived, all⟩, rfl, rfl, ?_⟩
      rw [same, List.append_assoc]
      rfl
    · rintro (e | summary) failed
      · -- what is pending is flushed, which writes nothing
        intro t r path
        obtain ⟨t₁, u, t₂, rfl, flushed, last⟩ := path_bind_iff.1 path
        obtain ⟨answer, rfl, rfl⟩ := path_step_done_iff.1 flushed
        obtain ⟨rfl, rfl⟩ := path_done_iff.1 last
        exact ⟨rfl, nofun⟩
      · exact absurd ⟨summary, rfl, trivial⟩ failed

/-! ## Runs of targets -/

section Runs

variable {σ ω : Type} (server : Server σ) (sink : Sink ω) (clock : DateTime)
  (options : DumpOptions) (target : Target ω) (s : σ)

/-- What answers the program of a target. -/
def targetWorld : DumpWorld σ (Sink.Buffered ω) where
  server
  writer := sink.buffered bufferCapacity
  clock

/-- The program of a target. -/
def targetProgram : Program DumpOp.Reply (List SchemaSummary × Option DumpError) :=
  dumpSchemas options (.ofCompact options.compact) [] target.schemas

/-- What happens when a target is run. -/
def targetTrace : List DumpEvent :=
  trace (targetWorld server sink clock).answer (targetProgram options target)
    (s, { inner := target.sink })

theorem path_targetTrace (index : Nat) :
    ∃ schemas, Path (targetProgram options target) (targetTrace server sink clock options target s)
      (schemas, (runTarget server sink clock options index target s).1.error) :=
  ⟨_, path_trace _ _ _⟩

/-- The first thing that happens is that a snapshot is begun. -/
theorem targetTrace_of_cons {schema : String} {schemas : List String}
    (h : target.schemas = schema :: schemas) :
    ∃ t, targetTrace server sink clock options target s =
      ⟨.ask .beginSnapshot, (server .beginSnapshot s).1⟩ :: t := by
  unfold targetTrace targetProgram
  rw [h]
  exact ⟨_, rfl⟩

variable {sink : Sink ω} {fit : ω → Prop} {content : ω → Bytes}

/-- All that is dumped reaches a sink that never fails. -/
theorem sound_targetTrace (never : sink.NeverFails fit content) (hw : fit target.sink)
    (index : Nat) :
    (∀ e ∈ targetTrace server sink clock options target s, Sound clock e) ∧
      content (runTarget server sink clock options index target s).2.1 =
        content target.sink ++ dumped (targetTrace server sink clock options target s) := by
  have records := never.buffered_records bufferCapacity
  obtain ⟨sound, fits, grown⟩ := DumpWorld.sound_trace
    (show (targetWorld server sink clock).writer.Records _ _ from records)
    (targetProgram options target) (s := s) (w := { inner := target.sink }) hw
  refine ⟨sound, ?_⟩
  rw [List.append_nil] at grown
  exact (never.content_close fits).trans grown

variable {server} in
theorem served_targetTrace (h : ∀ c s, OkWith c.Suits (server c s).1) :
    ∀ e ∈ exchanges (targetTrace server sink clock options target s), Call.Served e :=
  DumpWorld.served _ h _ _

/-- Where no call is faulty and the sink does not fail, a target ends without an error. -/
theorem runTarget_error_eq_none (never : sink.NeverFails fit content) (hw : fit target.sink)
    (index : Nat)
    (sane : ∀ e ∈ exchanges (targetTrace server sink clock options target s), ¬Call.Faulty e) :
    (runTarget server sink clock options index target s).1.error = none := by
  obtain ⟨schemas, path⟩ := path_targetTrace server sink clock options target s index
  obtain ⟨sound, -⟩ := sound_targetTrace server clock options target s never hw index
  exact (surfaces_dumpSchemas _ _ _ _ _ _ path).2 (forall_mem_not_faulty sound sane)

end Runs

theorem runTarget_exampleServer (options : DumpOptions) (index : Nat) (target : Target Medium)
    (h : target.sink.room = none ∧ target.sink.refusesFlush = false) :
    (runTarget exampleServer Medium.sink DateTime.epoch options index target ()).1.error = none :=
  runTarget_error_eq_none exampleServer DateTime.epoch options target () Medium.neverFails_sink h
    index fun e he =>
      (served_targetTrace DateTime.epoch options target () exampleServer_suits e he).not_faulty

end Dump

end LogicalBackup
