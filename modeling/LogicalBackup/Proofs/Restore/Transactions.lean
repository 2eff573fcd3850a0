import LogicalBackup.Proofs.Program.Outcome
import LogicalBackup.Proofs.Restore.SourceText
import LogicalBackup.Restore.Apply

/-!
# One transaction for each unit

Whatever a server answers and wherever a stream fails, the calls of a restore are those of
transactions, one for each unit in their order, up to the first that is not committed
(`restore_in_transactions`).  `Transaction` says in which ways a transaction can go.
-/

namespace LogicalBackup

open Program

namespace Restore

/-- The counts after one more statement. -/
def counted (mapping : DatabaseMapping) (summary : UnitSummary) (statement : Bytes)
    (affected : UInt64) : UnitSummary :=
  { summary with
    statements := summary.statements + 1
    remapped := summary.remapped + if (mapping.renamed? statement).isSome then 1 else 0
    affectedRows := summary.affectedRows + affected }

theorem applyStatements_eq (mapping : DatabaseMapping) (summary : UnitSummary)
    (splitter : Splitter) :
    applyStatements mapping summary splitter = match splitter.next with
      | (none, _) => do
        Restoring.call .commit (.commit summary.unit)
        return summary
      | (some (.fault fault), _) => Restoring.abandon (.read summary.unit fault)
      | (some (.statement bytes), after) =>
        ExceptT.mk <| Program.step (.apply (mapping.remap bytes)) fun
          | .error fault =>
            (Restoring.abandon (.statement summary.unit (summary.statements + 1) after.linesRead
              fault)).run
          | .ok affected =>
            (applyStatements mapping (counted mapping summary bytes affected) after).run := by
  rw [applyStatements]
  split
  · next h => rw [h]
  · next h => rw [h]
  · next h =>
    simp only [h]
    refine congrArg (fun f => ExceptT.mk (Program.step _ f)) (funext fun answer => ?_)
    cases answer <;> rfl

/-- What is done from a splitter's events on, where `summary` counts what has been done before. -/
inductive Replay (mapping : DatabaseMapping) : UnitSummary → List (SplitEvent × Nat) →
    List (Event Call.Answer) → Except RestoreError UnitSummary → Prop
  | ended {summary : UnitSummary} (answer : Except Fault Unit) :
    Replay mapping summary [] [⟨.commit, answer⟩]
      ((answer.mapError (.commit summary.unit)).map fun _ => summary)
  | unreadable {summary : UnitSummary} {fault : IoFault} {line : Nat}
    {rest : List (SplitEvent × Nat)} (answer : Except Fault Unit) :
    Replay mapping summary ((.fault fault, line) :: rest) [⟨.rollback, answer⟩]
      (.error (.read summary.unit fault))
  | broken {summary : UnitSummary} {statement : Bytes} {line : Nat}
    {rest : List (SplitEvent × Nat)} (fault : Fault) (answer : Except Fault Unit) :
    Replay mapping summary ((.statement statement, line) :: rest)
      [⟨.apply (mapping.remap statement), .error fault⟩, ⟨.rollback, answer⟩]
      (.error (.statement summary.unit (summary.statements + 1) line fault))
  | applied {summary : UnitSummary} {statement : Bytes} {line : Nat}
    {rest : List (SplitEvent × Nat)} {t : List (Event Call.Answer)}
    {r : Except RestoreError UnitSummary} (affected : UInt64) :
    Replay mapping (counted mapping summary statement affected) rest t r →
    Replay mapping summary ((.statement statement, line) :: rest)
      (⟨.apply (mapping.remap statement), .ok affected⟩ :: t) r

theorem path_abandon_iff {α : Type} {e : RestoreError} {t : List (Event Call.Answer)}
    {r : Except RestoreError α} :
    Path (Restoring.abandon e : Restoring α).run t r ↔
      ∃ answer : Except Fault Unit, t = [⟨.rollback, answer⟩] ∧ r = .error e :=
  path_step_done_iff

theorem path_call_iff {c : Call} {wrap : Fault → RestoreError} {t : List (Event Call.Answer)}
    {r : Except RestoreError c.Result} :
    Path (Restoring.call c wrap).run t r ↔
      ∃ answer : c.Answer, t = [⟨c, answer⟩] ∧ r = answer.mapError wrap :=
  path_step_done_iff

theorem replay_of_path {mapping : DatabaseMapping} {summary : UnitSummary} {splitter : Splitter}
    {t : List (Event Call.Answer)} {r : Except RestoreError UnitSummary}
    (h : Path (applyStatements mapping summary splitter).run t r) :
    Replay mapping summary splitter.events.1 t r := by
  induction summary, splitter using applyStatements.induct mapping generalizing t r with
  | case1 summary splitter s next =>
    rw [applyStatements_eq, next] at h
    rw [Splitter.events_of_next_none next]
    rcases path_exceptBind_iff.1 h with ⟨e, failed, rfl⟩ | ⟨t₁, u, t₂, rfl, call, rest⟩
    · obtain ⟨answer, rfl, hr⟩ := path_call_iff.1 failed
      cases answer with
      | error fault =>
        cases hr
        exact .ended (.error fault)
      | ok u => cases hr
    · obtain ⟨answer, rfl, hr⟩ := path_call_iff.1 call
      obtain ⟨rfl, rfl⟩ := path_exceptPure_iff.1 rest
      cases answer with
      | error fault => cases hr
      | ok u => exact .ended (.ok u)
  | case2 summary splitter fault s next =>
    rw [applyStatements_eq, next] at h
    rw [Splitter.events_of_next_some next]
    obtain ⟨answer, rfl, rfl⟩ := path_abandon_iff.1 h
    exact .unreadable answer
  | case3 summary splitter bytes after next _ _ =>
    rename_i ih
    rw [applyStatements_eq, next] at h
    rw [Splitter.events_of_next_some next]
    obtain ⟨answer, t', rfl, rest⟩ := path_step_iff.1 h
    cases answer with
    | error fault =>
      obtain ⟨answer, rfl, rfl⟩ := path_abandon_iff.1 rest
      exact .broken fault answer
    | ok affected => exact .applied affected (ih affected rest)

/-! ## One unit -/

/-- The calls that apply statements, with the numbers of rows they affect. -/
def applied (mapping : DatabaseMapping) (done : List (Bytes × UInt64)) : List (Event Call.Answer) :=
  done.map fun p => ⟨.apply (mapping.remap p.1), .ok p.2⟩

/-- The ways in which the transaction of a unit can go: its calls with their answers, and its
result.  Here `done` are the statements that are applied. -/
inductive Transaction (mapping : DatabaseMapping) (unit : RestoreUnit) :
    List (Event Call.Answer) → Except RestoreError UnitSummary → Prop
  /-- It cannot be begun. -/
  | refused (fault : Fault) :
    Transaction mapping unit [⟨.beginRestore, .error fault⟩] (.error (.begin unit.name fault))
  /-- The stream comes to its end, and all its statements are applied. -/
  | ended {done : List (Bytes × UInt64)} {summary : UnitSummary}
    (all : done.map Prod.fst = unit.source.text.statements)
    (clean : unit.source.text.fault = none) (named : summary.unit = unit.name)
    (answer : Except Fault Unit) :
    Transaction mapping unit
      (⟨.beginRestore, .ok ()⟩ :: (applied mapping done ++ [⟨.commit, answer⟩]))
      ((answer.mapError (.commit unit.name)).map fun _ => summary)
  /-- The stream fails after its statements are applied. -/
  | unreadable {done : List (Bytes × UInt64)} {fault : IoFault}
    (all : done.map Prod.fst = unit.source.text.statements)
    (failed : unit.source.text.fault = some fault) (answer : Except Fault Unit) :
    Transaction mapping unit
      (⟨.beginRestore, .ok ()⟩ :: (applied mapping done ++ [⟨.rollback, answer⟩]))
      (.error (.read unit.name fault))
  /-- A statement fails. -/
  | broken {done : List (Bytes × UInt64)} {statement : Bytes} {line : Nat}
    (first : done.map Prod.fst ++ [statement] <+: unit.source.text.statements) (fault : Fault)
    (answer : Except Fault Unit) :
    Transaction mapping unit
      (⟨.beginRestore, .ok ()⟩ :: (applied mapping done ++
        [⟨.apply (mapping.remap statement), .error fault⟩, ⟨.rollback, answer⟩]))
      (.error (.statement unit.name (done.length + 1) line fault))

variable {mapping : DatabaseMapping}

/-- A statement that comes next is the first of those that are left. -/
theorem exists_cons_of_statement {statement : Bytes} {statements : List Bytes}
    {rest more : List SplitEvent}
    (same : .statement statement :: rest = statements.map SplitEvent.statement ++ more)
    (ending : more = [] ∨ ∃ fault tail, more = .fault fault :: tail) :
    ∃ statements', statements = statement :: statements' ∧
      rest = statements'.map .statement ++ more := by
  cases statements with
  | nil => rcases ending with rfl | ⟨fault, tail, rfl⟩ <;> cases same
  | cons first statements =>
    rw [List.map_cons, List.cons_append] at same
    obtain ⟨head, tail⟩ := List.cons.inj same
    cases head
    exact ⟨statements, rfl, tail⟩

/-- After `before`, of which the summary knows the number, the statements of a text are applied. -/
theorem transaction_of_replay {unit : RestoreUnit} {summary : UnitSummary}
    {events : List (SplitEvent × Nat)} {t : List (Event Call.Answer)}
    {r : Except RestoreError UnitSummary} (h : Replay mapping summary events t r)
    (named : summary.unit = unit.name) (before : List (Bytes × UInt64))
    (number : summary.statements = before.length) {statements : List Bytes} {more : List SplitEvent}
    (text : before.map Prod.fst ++ statements = unit.source.text.statements)
    (same : events.map Prod.fst = statements.map .statement ++ more)
    (ending : unit.source.text.fault = none ∧ more = [] ∨
      ∃ fault rest, unit.source.text.fault = some fault ∧ more = .fault fault :: rest) :
    Transaction mapping unit (⟨.beginRestore, .ok ()⟩ :: (applied mapping before ++ t)) r := by
  have ends : more = [] ∨ ∃ fault tail, more = .fault fault :: tail :=
    ending.imp And.right fun ⟨fault, tail, _, h⟩ => ⟨fault, tail, h⟩
  induction h generalizing before statements with
  | @ended summary answer =>
    obtain ⟨none, rfl⟩ := List.append_eq_nil_iff.1 same.symm
    obtain rfl := List.map_eq_nil_iff.1 none
    rw [List.append_nil] at text
    rcases ending with ⟨clean, -⟩ | ⟨fault, rest, -, more⟩
    · rw [named]
      exact .ended text clean named answer
    · cases more
  | @unreadable summary fault line rest answer =>
    cases statements with
    | nil =>
      rw [List.append_nil] at text
      rcases ending with ⟨-, rfl⟩ | ⟨fault', rest', failed, rfl⟩
      · cases same
      · rw [List.map_nil, List.nil_append, List.map_cons] at same
        cases same
        rw [named]
        exact .unreadable text failed answer
    | cons statement statements => cases same
  | @broken summary statement line rest fault answer =>
    obtain ⟨statements, rfl, -⟩ := exists_cons_of_statement same ends
    rw [named, number]
    refine .broken ⟨statements, ?_⟩ fault answer
    rw [← text, List.append_assoc, List.singleton_append]
  | @applied summary statement line rest t r affected _ ih =>
    obtain ⟨statements, rfl, tail⟩ := exists_cons_of_statement same ends
    have grown := ih named (before ++ [(statement, affected)])
      (by rw [List.length_append, ← number]; rfl)
      (by rw [List.map_append, List.append_assoc]; exact text) tail
    rw [applied, List.map_append, List.append_assoc] at grown
    exact grown

theorem transaction_of_path {unit : RestoreUnit} {t : List (Event Call.Answer)}
    {r : Except RestoreError UnitSummary} (h : Path (applyUnit mapping unit).run t r) :
    Transaction mapping unit (⟨.beginRestore, .ok ()⟩ :: t) r := by
  obtain ⟨more, same, ending⟩ := exists_events_ofSource unit.source
  exact transaction_of_replay (replay_of_path h) rfl [] rfl rfl same ending

/-! ## What a transaction tells -/

namespace Transaction

variable {unit : RestoreUnit} {t : List (Event Call.Answer)} {r : Except RestoreError UnitSummary}

/-- It succeeds exactly where it is committed. -/
theorem isOk_iff (h : Transaction mapping unit t r) : IsOk r ↔ ⟨.commit, .ok ()⟩ ∈ t := by
  cases h with
  | refused fault => exact iff_of_false not_okWith_error (by simp)
  | ended all clean named answer =>
    cases answer with
    | error fault => exact iff_of_false not_okWith_error (by simp [applied])
    | ok u => exact iff_of_true ⟨_, rfl, trivial⟩ (by simp)
  | unreadable all failed answer => exact iff_of_false not_okWith_error (by simp [applied])
  | broken first fault answer => exact iff_of_false not_okWith_error (by simp [applied])

/-- What is asked for at the end is to commit, if the stream does not fail and no call before that
does, and to roll back otherwise. -/
theorem commit_iff (h : Transaction mapping unit t r) :
    .commit ∈ t.map Sigma.fst ↔
      unit.source.text.fault = none ∧ ∀ e ∈ t, e.1 ≠ .commit → IsOk e.2 := by
  cases h with
  | refused fault =>
    refine iff_of_false (by simp) fun h => ?_
    exact not_okWith_error (h.2 _ (List.mem_singleton_self _) nofun)
  | ended all clean named answer =>
    refine iff_of_true (by simp) ⟨clean, fun e he other => ?_⟩
    rcases List.mem_cons.1 he with rfl | he
    · exact ⟨(), rfl, trivial⟩
    · rcases List.mem_append.1 he with he | he
      · obtain ⟨p, -, rfl⟩ := List.mem_map.1 he
        exact ⟨p.2, rfl, trivial⟩
      · rw [List.mem_singleton.1 he] at other
        exact absurd rfl other
  | unreadable all failed answer =>
    refine iff_of_false (by simp [applied]) fun h => ?_
    rw [failed] at h
    cases h.1
  | @broken done statement line first fault answer =>
    refine iff_of_false (by simp [applied]) fun h => ?_
    have ok := h.2 ⟨.apply (mapping.remap statement), .error fault⟩ (by simp) nofun
    exact not_okWith_error ok

theorem unit_eq {summary : UnitSummary} (h : Transaction mapping unit t (.ok summary)) :
    summary.unit = unit.name := by
  generalize hr : (.ok summary : Except RestoreError UnitSummary) = r at h
  cases h with
  | refused fault => cases hr
  | ended all clean named answer =>
    cases answer with
    | error fault => cases hr
    | ok u =>
      cases hr
      exact named
  | unreadable all failed answer => cases hr
  | broken first fault answer => cases hr

theorem error_unit {e : RestoreError} (h : Transaction mapping unit t (.error e)) :
    e.unit = unit.name := by
  generalize hr : (.error e : Except RestoreError UnitSummary) = r at h
  cases h with
  | refused fault =>
    cases hr
    rfl
  | ended all clean named answer =>
    cases answer with
    | error fault =>
      cases hr
      rfl
    | ok u => cases hr
  | unreadable all failed answer =>
    cases hr
    rfl
  | broken first fault answer =>
    cases hr
    rfl

end Transaction

/-! ## All units -/

/-- The calls of a transaction, with its result. -/
structure Turn where
  calls : List (Event Call.Answer)
  result : Except RestoreError UnitSummary

/-- Units have their transactions in turn, up to the first that fails. -/
inductive InTurn (mapping : DatabaseMapping) :
    List RestoreUnit → List Turn → Except RestoreError (List UnitSummary) → Prop
  | nil : InTurn mapping [] [] (.ok [])
  | stop {unit : RestoreUnit} {rest : List RestoreUnit} {t : List (Event Call.Answer)}
    {e : RestoreError} :
    Transaction mapping unit t (.error e) → InTurn mapping (unit :: rest) [⟨t, .error e⟩] (.error e)
  | next {unit : RestoreUnit} {rest : List RestoreUnit} {t : List (Event Call.Answer)}
    {summary : UnitSummary} {turns : List Turn} {r : Except RestoreError (List UnitSummary)} :
    Transaction mapping unit t (.ok summary) → InTurn mapping rest turns r →
    InTurn mapping (unit :: rest) (⟨t, .ok summary⟩ :: turns) (r.map (summary :: ·))

theorem inTurn_of_path {units : List RestoreUnit} {t : List (Event Call.Answer)}
    {r : Except RestoreError (List UnitSummary)} (h : Path (applyUnits mapping units).run t r) :
    ∃ turns : List Turn, t = turns.flatMap (·.calls) ∧ InTurn mapping units turns r := by
  induction units generalizing t r with
  | nil =>
    obtain ⟨rfl, rfl⟩ := path_exceptPure_iff.1 h
    exact ⟨[], rfl, .nil⟩
  | cons unit units ih =>
    rcases path_exceptBind_iff.1 h with ⟨e, failed, rfl⟩ | ⟨t₀, u, t', rfl, begun, rest⟩
    · obtain ⟨answer, rfl, hr⟩ := path_call_iff.1 failed
      cases answer with
      | error fault =>
        cases hr
        exact ⟨[⟨_, _⟩], rfl, .stop (.refused fault)⟩
      | ok u => cases hr
    obtain ⟨answer, rfl, hr⟩ := path_call_iff.1 begun
    cases answer with
    | error fault => cases hr
    | ok u =>
      rcases path_exceptBind_iff.1 rest with ⟨e, failed, rfl⟩ | ⟨t₁, summary, t₂, rfl, one, rest⟩
      · exact ⟨[⟨_, _⟩], (List.append_nil _).symm, .stop (transaction_of_path failed)⟩
      have first := transaction_of_path one
      rcases path_exceptBind_iff.1 rest with ⟨e, failed, rfl⟩ | ⟨t₃, summaries, t₄, rfl, all, last⟩
      · obtain ⟨turns, rfl, inTurn⟩ := ih failed
        exact ⟨⟨_, _⟩ :: turns, rfl, .next first inTurn⟩
      · obtain ⟨rfl, rfl⟩ := path_exceptPure_iff.1 last
        obtain ⟨turns, rfl, inTurn⟩ := ih all
        refine ⟨⟨_, _⟩ :: turns, ?_, .next first inTurn⟩
        rw [List.append_nil]
        rfl

/-- What holds of the transactions of a restore, and of its result. -/
structure InOrder (mapping : DatabaseMapping) (units : List RestoreUnit) (turns : List Turn)
    (r : Except RestoreError (List UnitSummary)) : Prop where
  /-- The transactions are those of the first units, in order. -/
  each : List.Forall₂ (fun unit turn => Transaction mapping unit turn.calls turn.result)
    (units.take turns.length) turns
  /-- A unit is committed if it is read to its end and nothing of it fails. -/
  commit_iff : ∀ p ∈ units.zip turns, .commit ∈ p.2.calls.map Sigma.fst ↔
    p.1.source.text.fault = none ∧ ∀ e ∈ p.2.calls, e.1 ≠ .commit → IsOk e.2
  /-- All but the last are committed. -/
  committed : ∀ turn ∈ turns.dropLast, ⟨.commit, .ok ()⟩ ∈ turn.calls
  /-- The restore succeeds exactly where all units are committed. -/
  ok_iff : IsOk r ↔
    turns.length = units.length ∧ ∀ turn ∈ turns, ⟨.commit, .ok ()⟩ ∈ turn.calls
  /-- Its result is that of the transactions. -/
  result : r = turns.mapM (·.result)
  /-- It lists all units in order. -/
  names : ∀ summaries, r = .ok summaries → summaries.map (·.unit) = units.map (·.name)
  /-- Or it names the unit after the committed ones. -/
  error : ∀ e, r = .error e → (units[turns.length - 1]?).map (·.name) = some e.unit

theorem InTurn.inOrder {units : List RestoreUnit} {turns : List Turn}
    {r : Except RestoreError (List UnitSummary)} (h : InTurn mapping units turns r) :
    InOrder mapping units turns r := by
  induction h with
  | nil =>
    exact {
      each := .nil
      commit_iff := nofun
      committed := nofun
      ok_iff := iff_of_true ⟨_, rfl, trivial⟩ ⟨rfl, nofun⟩
      result := rfl
      names := by
        rintro summaries ⟨⟩
        rfl
      error := nofun }
  | @stop unit rest t e transaction =>
    exact {
      each := .cons transaction .nil
      commit_iff := List.forall_mem_cons.2 ⟨transaction.commit_iff, by simp⟩
      committed := nofun
      ok_iff := by
        refine iff_of_false not_okWith_error fun h => not_okWith_error (transaction.isOk_iff.2 ?_)
        exact h.2 _ (List.mem_singleton_self _)
      result := rfl
      names := nofun
      error := by
        rintro e' ⟨⟩
        exact congrArg some transaction.error_unit.symm }
  | @next unit rest t summary turns r transaction _ ih =>
    have first : ⟨.commit, .ok ()⟩ ∈ t := transaction.isOk_iff.1 ⟨_, rfl, trivial⟩
    exact {
      each := .cons transaction ih.each
      commit_iff := List.forall_mem_cons.2 ⟨transaction.commit_iff, ih.commit_iff⟩
      committed := by
        cases turns with
        | nil => exact nofun
        | cons turn turns => exact List.forall_mem_cons.2 ⟨first, ih.committed⟩
      ok_iff := by
        rw [List.forall_mem_cons, List.length_cons, List.length_cons, Nat.add_right_cancel_iff,
          and_iff_right first, ← ih.ok_iff]
        exact isOk_map_iff
      result := by
        rw [List.mapM_cons, ← ih.result]
        cases r <;> rfl
      names := by
        cases r with
        | error e => exact nofun
        | ok summaries =>
          rintro _ ⟨⟩
          exact congrArg₂ List.cons transaction.unit_eq (ih.names _ rfl)
      error := by
        cases r with
        | ok summaries => exact nofun
        | error e =>
          rintro _ ⟨⟩
          have last := ih.error e rfl
          cases turns with
          | nil => cases ih.result
          | cons turn turns => exact last }

theorem path_restore {units : List RestoreUnit} {options : RestoreOptions}
    {t : List (Event Call.Answer)} {r : Except RestoreError RestoreSummary}
    (h : Path (restore units options).run t r) :
    Path (applyUnits (.ofOptions options) units).run t (r.map (·.units)) := by
  rcases path_exceptBind_iff.1 h with ⟨e, failed, rfl⟩ | ⟨t₁, summaries, t₂, rfl, all, last⟩
  · exact failed
  · obtain ⟨rfl, rfl⟩ := path_exceptPure_iff.1 last
    rwa [List.append_nil]

/-- Whatever a server answers, and wherever the streams fail, the calls of a restore are those of
transactions, each of which applies the terminated statements of its unit in order. -/
theorem restore_in_transactions {σ : Type} (server : Server σ) (units : List RestoreUnit)
    (options : RestoreOptions) (s : σ) :
    let program := (restore units options).run
    ∃ turns : List Turn,
      trace server program s = turns.flatMap (·.calls) ∧
      InOrder (.ofOptions options) units turns
        ((Program.run server program s).1.map (·.units)) ∧
      ∀ unit ∈ units,
        (∀ statement ∈ unit.source.text.statements,
          ∃ text, statement = text ++ [Byte.semicolon, Byte.lineFeed]) ∧
        ∃ rest, unit.source.text.statements.flatten ++ rest = normalized unit.source.text.lines := by
  intro program
  obtain ⟨turns, same, inTurn⟩ := inTurn_of_path (path_restore (path_trace server program s))
  exact ⟨turns, same, inTurn.inOrder, fun unit _ => unit.source.text_statements⟩

end Restore

end LogicalBackup
