import LogicalBackup.Proofs.Dump.Interleaving
import LogicalBackup.Proofs.Dump.Targets
import Mathlib.Data.List.Nodup

/-!
# Targets that do not influence one another

Each target of a run comes to the end to which it comes alone, whatever the other targets are and
however they fare (`targets_independent`).  This asks of the server that a session is answered as if
there were no other.  It holds if the targets are dumped one after another, and also if they take
turns in any order.
-/

namespace LogicalBackup

open Program DumpEvent

namespace Dump

variable {σ ω : Type} {sink : Sink ω} {clock : DateTime} {options : DumpOptions}
  {target : Target ω} {targets : List (Target ω)}

/-- The first call of a target begins a session. -/
theorem beginSession_of_ran {writer : Writer ω} {style : DumpStyle} {done : List SchemaSummary}
    {schemas : List String} {w w' : ω} {t : List DumpEvent}
    {p : Program DumpOp.Reply (List SchemaSummary × Option DumpError)}
    (h : Ran writer clock (dumpSchemas options style done schemas) w t p w') :
    BeginSession (asked t) := by
  cases schemas with
  | nil =>
    cases h with
    | refl => nofun
    | write rest =>
      -- with either reply that is the end
      generalize writer.answer .flush w = reply at rest
      obtain ⟨fault | u, w₁⟩ := reply <;> cases rest <;> nofun
  | cons schema schemas =>
    cases h with
    | refl => nofun
    | ask answer rest =>
      rintro c ⟨⟩
      rfl

/-- A target ends as its program does. -/
theorem runTarget_of_run (server : Server σ) (sink : Sink ω) (clock : DateTime) (index : Nat)
    {s s' : σ} {r : List SchemaSummary × Option DumpError} {w : Sink.Buffered ω}
    (ends : Program.run (targetWorld server sink clock).answer (targetProgram options target)
      (s, { inner := target.sink }) = (r, s', w)) :
    runTarget server sink clock options index target s = (⟨index, r.1, r.2⟩, w.close sink, s') :=
  congrArg (fun e => ((⟨index, e.1.1, e.1.2⟩ : TargetOutcome), e.2.2.close sink, e.2.1)) ends

/-! ## Targets one after another -/

/-- Each target of several is run in some state of the server. -/
theorem exists_getElem?_runTargets (server : Server σ) (sink : Sink ω) (clock : DateTime)
    (options : DumpOptions) (first : Nat) (s : σ) {i : Nat} (found : targets[i]? = some target) :
    ∃ s', (runTargets server sink clock options first targets s).1[i]? =
        some (runTarget server sink clock options (first + i) target s').1 ∧
      (runTargets server sink clock options first targets s).2.1[i]? =
        some (runTarget server sink clock options (first + i) target s').2.1 := by
  induction targets generalizing first s i with
  | nil => cases found
  | cons t targets ih =>
    cases i with
    | zero =>
      cases found
      exact ⟨s, rfl, rfl⟩
    | succ i =>
      have rest := ih (first + 1) (runTarget server sink clock options first t s).2.2 found
      rw [Nat.add_right_comm, Nat.add_assoc] at rest
      exact rest

section Local

variable {server : Server σ} (h : server.SessionLocal)

include h

variable (sink clock options target) in
/-- The program of a target is run in the same way whatever the server has been asked before. -/
theorem run_targetProgram_congr (s s' : σ) :
    let world := targetWorld server sink clock
    let ended := Program.run world.answer (targetProgram options target)
      (s, { inner := target.sink })
    (∃ s₁, Program.run world.answer (targetProgram options target) (s', { inner := target.sink }) =
        (ended.1, s₁, ended.2.2)) ∧
      targetTrace server sink clock options target s' =
        targetTrace server sink clock options target s := by
  intro world ended
  obtain ⟨ran, answered⟩ := ran_trace world (targetProgram options target) s
    { inner := target.sink }
  have same := answered.trans (h _ s s' (beginSession_of_ran ran))
  obtain ⟨s₁, ends, traced⟩ := ran.run_eq server s' same
  rw [trace, List.append_nil] at traced
  exact ⟨⟨s₁, ends⟩, traced⟩

variable (sink clock options target) in
/-- A target comes to the same end whatever the server has been asked before. -/
theorem runTarget_congr (index : Nat) (s s' : σ) :
    (runTarget server sink clock options index target s).1 =
        (runTarget server sink clock options index target s').1 ∧
      (runTarget server sink clock options index target s).2.1 =
        (runTarget server sink clock options index target s').2.1 := by
  obtain ⟨⟨s₁, ends⟩, -⟩ := run_targetProgram_congr sink clock options target h s s'
  rw [runTarget_of_run server sink clock index ends]
  exact ⟨rfl, rfl⟩

variable (sink) in
/-- Each target of several comes to the end to which it comes alone. -/
theorem getElem?_runTargets (first : Nat) (s s' : σ) {i : Nat} (found : targets[i]? = some target) :
    (runTargets server sink clock options first targets s).1[i]? =
        some (runTarget server sink clock options (first + i) target s').1 ∧
      (runTargets server sink clock options first targets s).2.1[i]? =
        some (runTarget server sink clock options (first + i) target s').2.1 := by
  obtain ⟨s₁, outcome, taken⟩ :=
    exists_getElem?_runTargets server sink clock options first s found
  obtain ⟨outcome', taken'⟩ :=
    runTarget_congr sink clock options target h (first + i) s₁ s'
  exact ⟨outcome.trans (congrArg some outcome'), taken.trans (congrArg some taken')⟩

end Local

section Run

variable (server : Server σ) (sink : Sink ω) (clock : DateTime) (options : DumpOptions)
  (targets : List (Target ω)) (s : σ)

theorem index_runTargets (first : Nat) :
    (runTargets server sink clock options first targets s).1.map (·.index) =
      List.range' first targets.length := by
  induction targets generalizing first s with
  | nil => rfl
  | cons t targets ih => exact congrArg (first :: ·) (ih _ _)

theorem length_runTargets (first : Nat) :
    (runTargets server sink clock options first targets s).2.1.length = targets.length := by
  induction targets generalizing first s with
  | nil => rfl
  | cons t targets ih => exact congrArg (· + 1) (ih _ _)

variable {options targets}

theorem run_of_valid (valid : validateRun options targets = .ok ()) :
    (run server sink clock options targets s).result =
        collect targets.length (runTargets server sink clock options 0 targets s).1 ∧
      (run server sink clock options targets s).sinks =
        (runTargets server sink clock options 0 targets s).2.1 := by
  simp only [run, valid, and_self]

end Run

/-- The order in which targets come to their ends does not matter. -/
theorem collect_perm (total : Nat) {outcomes outcomes' : List TargetOutcome}
    (perm : outcomes'.Perm outcomes) (distinct : (outcomes.map (·.index)).Nodup) :
    collect total outcomes' = collect total outcomes := by
  have sorted (l : List TargetOutcome) :
      (l.mergeSort fun a b => a.index ≤ b.index).Pairwise fun a b =>
        decide (a.index ≤ b.index) = true := by
    refine List.pairwise_mergeSort (fun a b c hab hbc => ?_) (fun a b => ?_) l
    · rw [decide_eq_true_iff] at hab hbc ⊢
      exact Nat.le_trans hab hbc
    · rw [Bool.or_eq_true, decide_eq_true_iff, decide_eq_true_iff]
      exact Nat.le_total _ _
  have same : (outcomes'.mergeSort fun a b => a.index ≤ b.index) =
      outcomes.mergeSort fun a b => a.index ≤ b.index := by
    have perm' := (List.mergeSort_perm outcomes' fun a b => a.index ≤ b.index).trans
      (perm.trans (List.mergeSort_perm outcomes fun a b => a.index ≤ b.index).symm)
    refine perm'.eq_of_pairwise (fun a b ha hb hab hba => ?_) (sorted _) (sorted _)
    rw [List.mem_mergeSort] at ha hb
    rw [decide_eq_true_iff] at hab hba
    exact List.inj_on_of_nodup_map distinct (perm.mem_iff.1 ha) hb (Nat.le_antisymm hab hba)
  unfold collect
  rw [same]

/-- Outcomes that come in the order of the targets are reported as they come. -/
theorem collect_of_index (total : Nat) {first n : Nat} {outcomes : List TargetOutcome}
    (h : outcomes.map (·.index) = List.range' first n) :
    collect total outcomes =
      if (outcomes.filterMap (·.error)).isEmpty then .ok ⟨outcomes.flatMap (·.schemas)⟩
      else .error (.aggregate total (outcomes.filterMap (·.error))) := by
  have sorted : outcomes.Pairwise fun a b => decide (a.index ≤ b.index) = true := by
    have indices : (outcomes.map (·.index)).Pairwise (· ≤ ·) := by
      rw [h]
      exact List.pairwise_le_range'
    exact (List.pairwise_map.1 indices).imp decide_eq_true
  unfold collect
  rw [List.mergeSort_of_pairwise sorted]

theorem collect_eq_ok (total : Nat) {first n : Nat} {outcomes : List TargetOutcome}
    (h : outcomes.map (·.index) = List.range' first n) (none : ∀ o ∈ outcomes, o.error = none) :
    collect total outcomes = .ok ⟨outcomes.flatMap (·.schemas)⟩ := by
  rw [collect_of_index total h, List.filterMap_eq_nil_iff.2 none]
  rfl

theorem isOk_collect_iff (total : Nat) (outcomes : List TargetOutcome) :
    IsOk (collect total outcomes) ↔ ∀ o ∈ outcomes, o.error = none := by
  have none : (outcomes.mergeSort fun a b => a.index ≤ b.index).filterMap (·.error) = [] ↔
      ∀ o ∈ outcomes, o.error = none := by
    rw [List.filterMap_eq_nil_iff]
    exact forall_congr' fun o => by rw [List.mem_mergeSort]
  rw [← none]
  unfold collect
  dsimp only
  split_ifs with empty
  · exact iff_of_true ⟨_, rfl, trivial⟩ (List.isEmpty_iff.1 empty)
  · exact iff_of_false not_okWith_error fun h => empty (List.isEmpty_iff.2 h)

theorem validateRun_eq_ok_iff :
    validateRun options targets = .ok () ↔ options.validate.mapError DumpError.fault = .ok () ∧
      ∀ target ∈ targets, ∀ name ∈ target.schemas, schemaNameFault? name = none := by
  have names : validateSchemaNames (targets.flatMap (·.schemas)) = .ok () ↔
      ∀ target ∈ targets, ∀ name ∈ target.schemas, schemaNameFault? name = none := by
    unfold validateSchemaNames
    cases found : (targets.flatMap (·.schemas)).findSome? schemaNameFault? with
    | none =>
      rw [List.findSome?_eq_none_iff] at found
      exact iff_of_true rfl fun t ht name hn => found name (List.mem_flatMap.2 ⟨t, ht, hn⟩)
    | some e =>
      obtain ⟨name, hname, bad⟩ := List.exists_of_findSome?_eq_some found
      obtain ⟨t, ht, hn⟩ := List.mem_flatMap.1 hname
      refine iff_of_false nofun fun all => ?_
      rw [all t ht name hn] at bad
      cases bad
  rw [← names]
  unfold validateRun
  generalize options.validate.mapError DumpError.fault = accepted
  cases accepted with
  | error e => exact iff_of_false nofun fun both => nomatch both.left
  | ok u => exact (and_iff_right rfl).symm

theorem validateRun_singleton (valid : validateRun options targets = .ok ()) (h : target ∈ targets) :
    validateRun options [target] = .ok () := by
  rw [validateRun_eq_ok_iff] at valid ⊢
  exact ⟨valid.1, List.forall_mem_singleton.2 (valid.2 target h)⟩

/-! ## Targets in turn -/

/-- One worker for each target. -/
def workers (options : DumpOptions) (targets : List (Target ω)) :
    List (Worker (List SchemaSummary × Option DumpError) (Sink.Buffered ω)) :=
  targets.map fun target => ⟨targetProgram options target, { inner := target.sink }⟩

/-- Whatever the schedule is, a worker does what its target does alone, and it comes to the same
end after as many turns. -/
theorem interleave_workers {connector : Connector σ} (h : connector.SessionLocal) (s : σ)
    (schedule : List Nat) {i : Nat} (found : targets[i]? = some target) (k : Nat) (s' : σ) :
    let alone := runTarget (connector k) sink clock options i target s'
    ∃ v, (connector.interleave (sink.buffered bufferCapacity) clock schedule
        (s, workers options targets)).2[i]? = some v ∧
      (∀ r, v.program = .done r → alone.1 = ⟨i, r.1, r.2⟩ ∧ alone.2.1 = v.writer.close sink) ∧
      ((targetTrace (connector k) sink clock options target s').length ≤ schedule.count i →
        ∃ r, v.program = .done r) := by
  intro alone
  have start : (workers options targets)[i]? =
      some ⟨targetProgram options target, { inner := target.sink }⟩ := by
    rw [workers, List.getElem?_map, found]
    rfl
  obtain ⟨log, -, advanced⟩ := connector.exists_advanced_interleave (sink.buffered bufferCapacity) clock
    schedule s (workers options targets)
  obtain ⟨v, hv, t, ran, told, turns⟩ := advanced i _ start
  have calls : asked t = entriesOf i log := by
    rw [← exchanges_map_fst, told, connector.entriesOf_answers_map_fst]
  have begins := beginSession_of_ran ran
  have answered : exchanges t = (connector k).answers (asked t) s' := by
    rw [told, calls]
    exact h.answers_eq (calls ▸ begins) k s s'
  obtain ⟨s'', ends, traced⟩ := ran.run_eq (connector k) s' answered
  refine ⟨v, hv, fun r ended => ?_, fun enough => ?_⟩
  · rw [ended] at ends
    have same := runTarget_of_run (connector k) sink clock i ends
    exact ⟨congrArg Prod.fst same, congrArg (·.2.1) same⟩
  · rcases turns with turns | ended
    · cases left : v.program with
      | done r => exact ⟨r, rfl⟩
      | step op next =>
        have length := congrArg List.length traced
        rw [left, trace, List.length_append, List.length_cons] at length
        change (targetTrace (connector k) sink clock options target s').length = _ at length
        omega
    · exact ended

/-! ## Alone and among others -/

/-- Each target comes to the end to which it comes alone, with the same bytes in its sink, if the
targets are dumped one after another and if they take turns; and the order in which they come to
their ends is of no consequence. -/
theorem targets_independent (sink : Sink ω) (clock : DateTime)
    (valid : validateRun options targets = .ok ()) :
    (∀ (σ : Type) (server : Server σ), server.SessionLocal → ∀ s : σ,
      let whole := run server sink clock options targets s
      ∃ outcomes : List TargetOutcome, outcomes.length = targets.length ∧
        whole.sinks.length = targets.length ∧
        (∀ ended, ended.Perm outcomes → whole.result = collect targets.length ended) ∧
        ∀ (i : Nat) (target : Target ω), targets[i]? = some target → ∀ s' : σ,
          let alone := run server sink clock options [target] s'
          ∃ schemas error w, outcomes[i]? = some ⟨i, schemas, error⟩ ∧ whole.sinks[i]? = some w ∧
            (runTarget server sink clock options 0 target s').1 = ⟨0, schemas, error⟩ ∧
            alone.result = collect 1 [⟨0, schemas, error⟩] ∧ alone.sinks = [w]) ∧
    ∀ (σ : Type) (connector : Connector σ), connector.SessionLocal →
      ∀ (s : σ) (schedule : List Nat),
        let final := connector.interleave (sink.buffered bufferCapacity) clock schedule
          (s, workers options targets)
        ∀ (i : Nat) (target : Target ω), targets[i]? = some target → ∀ (k : Nat) (s' : σ),
          let alone := runTarget (connector k) sink clock options i target s'
          ∃ v, final.2[i]? = some v ∧
            (∀ r, v.program = .done r →
              alone.1 = ⟨i, r.1, r.2⟩ ∧ alone.2.1 = v.writer.close sink) ∧
            ((targetTrace (connector k) sink clock options target s').length ≤ schedule.count i →
              ∃ r, v.program = .done r) := by
  constructor
  · intro σ server sessionLocal s whole
    obtain ⟨result, sinks⟩ := run_of_valid server sink clock s valid
    have indices := index_runTargets server sink clock options targets s 0
    refine ⟨(runTargets server sink clock options 0 targets s).1, ?_, ?_, fun ended perm => ?_, ?_⟩
    · rw [← List.length_map (·.index), indices, List.length_range']
    · exact (congrArg List.length sinks).trans
        (length_runTargets server sink clock options targets s 0)
    · refine result.trans (collect_perm _ perm ?_).symm
      rw [indices]
      exact List.nodup_range'
    · intro i target found s' alone
      obtain ⟨outcome, taken⟩ := getElem?_runTargets sink sessionLocal 0 s s' found
      have also := validateRun_singleton valid (List.mem_of_getElem? found)
      obtain ⟨aloneResult, aloneSinks⟩ := run_of_valid server sink clock s' also
      rw [Nat.zero_add] at outcome taken
      exact ⟨_, _, _, outcome, by rw [sinks]; exact taken, rfl, aloneResult, aloneSinks⟩
  · intro σ connector sessionLocal s schedule final i target found k s'
    exact interleave_workers sessionLocal s schedule found k s'

/-- A sink that is full does not disturb the target beside it. -/
theorem targets_independent_beside_full :
    let targets : List (Target Medium) := [⟨["shop"], { room := some 0 }⟩, ⟨["shop"], {}⟩]
    (∃ w, (run exampleServer Medium.sink DateTime.epoch {} targets ()).sinks[1]? = some w ∧
      (run exampleServer Medium.sink DateTime.epoch {} [⟨["shop"], {}⟩] ()).sinks = [w]) ∧
    ∀ schedule : List Nat, ∃ v,
      (exampleServer.perCaller.interleave (Medium.sink.buffered bufferCapacity) DateTime.epoch
        schedule (fun _ => (), workers {} targets)).2[1]? = some v ∧
      ∀ r, v.program = .done r →
        (runTarget (exampleServer.perCaller 1) Medium.sink DateTime.epoch {} 1 ⟨["shop"], {}⟩
          fun _ => ()).2.1 = v.writer.close Medium.sink := by
  intro targets
  have valid : validateRun {} targets = .ok () := rfl
  have sessionLocal : exampleServer.SessionLocal := fun calls s s' _ => rfl
  obtain ⟨alone, turns⟩ := targets_independent Medium.sink DateTime.epoch valid
  constructor
  · obtain ⟨outcomes, -, -, -, each⟩ := alone Unit exampleServer sessionLocal ()
    obtain ⟨schemas, error, w, -, taken, -, -, same⟩ := each 1 ⟨["shop"], {}⟩ rfl ()
    exact ⟨w, taken, same⟩
  · intro schedule
    obtain ⟨v, hv, ends, -⟩ := turns _ _ sessionLocal.perCaller (fun _ => ()) schedule 1 _ rfl 1
      fun _ => ()
    exact ⟨v, hv, fun r ended => (ends r ended).2⟩

end Dump

end LogicalBackup
