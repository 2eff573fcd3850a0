import LogicalBackup.Dump.Schema
import LogicalBackup.Proofs.Batch.Receive

/-!
# Events of a dump

An event of a dump is faulty if a call, a write or a flush fails, or if a call answers what cannot
be dumped (`DumpEvent.Faulty`).  The calls of a trace are `asked`, its bytes `written`.  The rules
for single operations stand here.
-/

namespace LogicalBackup

open Program

/-- What a dump does, with the answer. -/
abbrev DumpEvent : Type := Program.Event DumpOp.Reply

/-- A call with its answer. -/
abbrev CallEvent : Type := Program.Event Call.Answer

/-- What cannot be dumped: an object of an unknown kind, an entry for another view, rows that cannot
be scanned or do not arrive to the end. -/
def Call.Unfit : (c : Call) → c.Result → Prop
  | .listObjects _, entries => ∃ entry ∈ entries, ObjectKind.ofWords? entry.kind = none
  | .viewCharset _ view, found => found.viewName ≠ view
  | .select _, stream => ¬stream.Scans
  | _, _ => False

/-- A call that fails or answers what cannot be dumped. -/
def Call.Faulty (e : CallEvent) : Prop := ¬OkWith (fun x => ¬e.1.Unfit x) e.2

namespace DumpEvent

/-- An event of a program that writes, as part of a dump. -/
def ofWriting (e : Program.Event WriterOp.Reply) : DumpEvent := ⟨.write e.1, e.2⟩

/-- An event of a program that asks, as part of a dump. -/
def ofAsking (e : Program.Event Call.Answer) : DumpEvent := ⟨.ask e.1, e.2⟩

/-- What fails or cannot be dumped. -/
def Faulty : DumpEvent → Prop
  | ⟨.ask c, answer⟩ => Call.Faulty ⟨c, answer⟩
  | ⟨.write op, answer⟩ => Writing.Failed ⟨op, answer⟩
  | ⟨.now, _⟩ => False

/-- The call that is made, if it is one, satisfies `P`. -/
def Within (P : Call → Prop) (e : DumpEvent) : Prop := ∀ c, e.1 = .ask c → P c

/-- The call that is made, if it is one. -/
def call? : DumpEvent → Option Call
  | ⟨.ask c, _⟩ => some c
  | _ => none

end DumpEvent

open DumpEvent

/-- The calls of a trace, in order. -/
def asked (t : List DumpEvent) : List Call := t.filterMap call?

@[simp] theorem asked_append (s t : List DumpEvent) : asked (s ++ t) = asked s ++ asked t :=
  List.filterMap_append

theorem mem_asked_iff {t : List DumpEvent} {c : Call} : c ∈ asked t ↔ ∃ e ∈ t, e.1 = .ask c := by
  unfold asked
  rw [List.mem_filterMap]
  refine exists_congr fun e => and_congr_right fun _ => ?_
  obtain ⟨op, r⟩ := e
  cases op <;> simp [call?]

theorem forall_mem_asked_iff {t : List DumpEvent} {P : Call → Prop} :
    (∀ c ∈ asked t, P c) ↔ ∀ e ∈ t, Within P e := by
  simp only [mem_asked_iff, Within]
  constructor
  · exact fun h e he c hc => h c ⟨e, he, hc⟩
  · rintro h c ⟨e, he, hc⟩
    exact h e he c hc

/-! ## Single operations -/

namespace Dumping

theorem path_ask_iff {c : Call} {wrap : Fault → DumpError} {t : List DumpEvent}
    {r : Except DumpError c.Result} :
    Path (ask c wrap).run t r ↔
      ∃ answer : c.Answer, t = [⟨.ask c, answer⟩] ∧ r = answer.mapError wrap :=
  path_step_done_iff

end Dumping

theorem path_performWrite_iff (op : WriterOp) (t : List DumpEvent) (r : op.Reply) :
    Path (.perform (.write op) : Program DumpOp.Reply _) t r ↔ t = [ofWriting ⟨op, r⟩] :=
  path_perform_iff

theorem path_performAsk_iff (c : Call) (t : List DumpEvent) (r : c.Answer) :
    Path (.perform (.ask c) : Program DumpOp.Reply _) t r ↔ t = [ofAsking ⟨c, r⟩] :=
  path_perform_iff

/-! ## Programs that clean up -/

/-- A program and then a call, which is made also after an error.  The error of the program outweighs
that of the call. -/
def Dumping.followedBy {α : Type} (x : Dumping α) (c : Call) : Dumping α := do
  let result ← ExceptT.lift x.run
  let ended ← ExceptT.lift (Dumping.ask c .fault).run
  let a ← ExceptT.mk (pure result)
  let _ ← ExceptT.mk (pure ended)
  return a

theorem path_followedBy_iff {α : Type} {x : Dumping α} {c : Call} {t : List DumpEvent}
    {r : Except DumpError α} :
    Path (x.followedBy c).run t r ↔ ∃ t' result, ∃ answer : c.Answer,
      t = t' ++ [⟨.ask c, answer⟩] ∧ Path x.run t' result ∧
        r = (do let a ← result; let _ ← answer.mapError .fault; pure a) := by
  unfold Dumping.followedBy
  rw [path_lift_bind_iff]
  constructor
  · rintro ⟨t', result, t₂, rfl, hx, rest⟩
    obtain ⟨t₃, ended, t₄, rfl, hc, last⟩ := path_lift_bind_iff.1 rest
    obtain ⟨answer, rfl, rfl⟩ := Dumping.path_ask_iff.1 hc
    have : t₄ = [] ∧ r = (do let a ← result; let _ ← answer.mapError .fault; pure a) := by
      cases result with
      | error e => exact path_done_iff.1 last
      | ok a =>
        cases answer with
        | error fault => exact path_done_iff.1 last
        | ok u => exact path_done_iff.1 last
    obtain ⟨rfl, rfl⟩ := this
    exact ⟨t', result, answer, by rw [List.append_nil], hx, rfl⟩
  · rintro ⟨t', result, answer, rfl, hx, rfl⟩
    refine ⟨t', result, _, rfl, hx, path_lift_bind_iff.2
      ⟨_, _, [], (List.append_nil _).symm, Dumping.path_ask_iff.2 ⟨answer, rfl, rfl⟩, ?_⟩⟩
    cases result with
    | error e => exact .done _
    | ok a =>
      cases answer with
      | error fault => exact .done _
      | ok u => exact .done _

/-! ## The calls that are made -/

section Only

variable {P : Call → Prop} {α : Type}

theorem within_write (op : WriterOp) (answer : op.Reply) :
    Within P (⟨.write op, answer⟩ : DumpEvent) := by
  rintro c ⟨⟩

theorem only_ask {c : Call} (h : P c) (wrap : Fault → DumpError) :
    Only (Within P) (Dumping.ask c wrap).run := by
  refine only_step fun answer => ?_
  rintro c' ⟨⟩
  exact h

theorem only_write (b : Bytes) : Only (Within P) (Dumping.write b).run :=
  only_step (within_write (.write b))

theorem only_flush : Only (Within P) Dumping.flush.run := only_step (within_write .flush)

theorem only_now : Only (Within P) Dumping.now.run := by
  refine only_step fun time => ?_
  rintro c ⟨⟩

theorem only_writing (p : Writing α) : Only (Within P) p.toDump :=
  Only.expand path_performWrite_iff fun _ _ _ e _ => within_write e.1 e.2

end Only

/-! ## Faults -/

theorem surfaces_ask (c : Call) (wrap : Fault → DumpError) :
    Surfaces Faulty (OkWith fun x => ¬c.Unfit x) (Dumping.ask c wrap).run :=
  surfaces_step fun _ => okWith_mapError_iff.trans not_not.symm

/-- A call of which every answer can be dumped. -/
theorem surfaces_ask_plain {c : Call} (h : ∀ x, ¬c.Unfit x) (wrap : Fault → DumpError) :
    Surfaces Faulty IsOk (Dumping.ask c wrap).run := by
  have all : (fun x => ¬c.Unfit x) = fun _ => True := funext fun x => eq_true (h x)
  have := surfaces_ask c wrap
  rwa [all] at this

theorem surfaces_writeBytes (b : Bytes) : Surfaces Faulty IsOk (Dumping.write b).run :=
  surfaces_step fun _ => okWith_mapError_iff.trans Writing.isOk_iff

theorem surfaces_flush : Surfaces Faulty IsOk Dumping.flush.run :=
  surfaces_step fun _ => okWith_mapError_iff.trans Writing.isOk_iff

theorem surfaces_now : Surfaces Faulty IsOk Dumping.now.run :=
  surfaces_step fun time => iff_of_true ⟨time, rfl, trivial⟩ not_false

theorem surfaces_followedBy {α : Type} {x : Dumping α} (hx : Surfaces Faulty IsOk x.run) {c : Call}
    (h : ∀ x, ¬c.Unfit x) : Surfaces Faulty IsOk (x.followedBy c).run := by
  intro t r path
  obtain ⟨t', result, answer, rfl, hpath, rfl⟩ := path_followedBy_iff.1 path
  have first := hx t' result hpath
  have last : IsOk answer ↔ ¬Faulty ⟨.ask c, answer⟩ := by
    have := surfaces_ask_plain h .fault _ _ (Dumping.path_ask_iff.2 ⟨answer, rfl, rfl⟩)
    rw [List.forall_mem_singleton] at this
    exact okWith_mapError_iff.symm.trans this
  rw [List.forall_mem_append, List.forall_mem_singleton, ← first, ← last]
  cases result with
  | error e => exact iff_of_false not_okWith_error fun h => not_okWith_error h.1
  | ok a =>
    cases answer with
    | error fault => exact iff_of_false not_okWith_error fun h => not_okWith_error h.2
    | ok u => exact iff_of_true ⟨a, rfl, trivial⟩ ⟨⟨a, rfl, trivial⟩, u, rfl, trivial⟩

theorem surfaces_writing {α : Type} {ok : α → Prop} {p : Writing α}
    (hp : Surfaces Writing.Failed ok p) : Surfaces Faulty ok p.toDump :=
  Surfaces.expand path_performWrite_iff hp

end LogicalBackup
