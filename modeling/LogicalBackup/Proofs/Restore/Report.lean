import LogicalBackup.Proofs.Restore.DatabaseNames
import LogicalBackup.Proofs.Restore.LineGrammar
import LogicalBackup.Proofs.Restore.Transactions
import LogicalBackup.Server.Scripted
import Mathlib

/-!
# What a restore reports of a unit

The lines of a statement are those of the stream itself, blank lines and comments among them
(`Grammar.Text`).  A unit that fails is reported with the number of the statement that failed and
with the line on which that statement ends; a unit that is committed is reported with the number of
its statements, of those in which a name was replaced, and of the rows they affected
(`unit_reported`).
-/

namespace LogicalBackup

open Program

/-! ## Statements before the end or a fault -/

namespace Grammar

/-- Only the last of the statements can lack its line feed. -/
theorem filter_complete_prefix {statements : List Statement} {rest : List Line}
    (h : IsText (statements.flatMap Statement.lines ++ rest)) :
    statements.filter (·.closing.Complete) <+: statements := by
  induction statements with
  | nil => exact List.prefix_rfl
  | cons s statements ih =>
    rw [List.flatMap_cons, List.append_assoc] at h
    by_cases complete : s.closing.Complete
    · rw [List.filter_cons_of_pos (by simpa using complete), List.cons_prefix_cons]
      exact ⟨rfl, ih (h.filter_of_complete complete).1⟩
    · obtain ⟨nil, -⟩ := h.filter_of_not_complete complete
      have ended : statements = [] := by
        cases statements with
        | nil => rfl
        | cons s' _ => simp [s'.lines_ne_nil] at nil
      rw [ended, List.filter_cons_of_neg (by simpa using complete)]
      exact List.nil_prefix

/-- The first statement of some is the event that comes first. -/
theorem exists_cons_of_yields {statements : List Statement} {n line : Nat} {statement : Bytes}
    {rest more : List (SplitEvent × Nat)}
    (same : (.statement statement, line) :: rest = yields n statements ++ more)
    (ends : more = [] ∨ ∃ fault line tail, more = (.fault fault, line) :: tail) :
    ∃ s statements', statements = s :: statements' ∧ statement = s.bytes ∧
      line = n + s.lines.length ∧ rest = yields (n + s.lines.length) statements' ++ more := by
  cases statements with
  | nil => rcases ends with rfl | ⟨fault, line, tail, rfl⟩ <;> cases same
  | cons s statements =>
    obtain ⟨head, tail⟩ := List.cons.inj same
    cases head
    exact ⟨s, statements, rfl, rfl, rfl, tail⟩

end Grammar

open Grammar

/-- A source comes to the statements of the bytes that it delivers, if it does not fail, and else to
the first of them. -/
theorem Source.exists_yields (source : Source) (text : Text source.delivered.1) :
    ∃ (made : List Statement) (more : List (SplitEvent × Nat)), made <+: text.statements ∧
      (Splitter.ofSource source).events.1 = yields 0 made ++ more ∧
      (source.delivered.2 = none ∧ made = text.statements ∧ more = [] ∨
        source.delivered.2 ≠ none ∧ ∃ fault line tail, more = (.fault fault, line) :: tail) := by
  obtain ⟨chunks, tail, same, bytes, ending⟩ := source.exists_chunks
  obtain ⟨cut, raw⟩ := text.isText.cutLines_eq
  rw [text.bytes] at cut raw
  replace cut := (congrArg (fun b => (cutLines b).1) bytes).symm.trans cut
  replace raw := (congrArg rawLines bytes).symm.trans raw
  rcases ending with ⟨clean, rfl⟩ | ⟨fault, rest, failed, rfl⟩
  · refine ⟨text.statements, [], List.prefix_rfl, ?_, .inl ⟨clean, rfl, rfl⟩⟩
    have lines : source.lines =
        deliver (text.statements.flatMap Statement.lines) ++ deliver text.rest := by
      apply (congrArg Source.lines same).trans
      rw [List.append_nil, lines_map_ok, raw, List.map_map, ← deliver_append]
      rfl
    rw [Splitter.ofSource, lines, events_statements (deliver text.rest) text.statements 0,
      events_lines text.not_closes]
  · obtain ⟨buffer, events, -⟩ :=
      exists_events_fault (Source.lines rest) text.isText text.not_closes fault 0
    have lines : source.lines = deliver ((text.statements.flatMap Statement.lines ++
        text.rest).filter Line.Complete) ++ .error fault :: Source.lines rest := by
      apply (congrArg Source.lines same).trans
      rw [Source.lines_fault, cut, List.map_map]
      rfl
    rw [Splitter.ofSource, lines, events]
    exact ⟨_, _, filter_complete_prefix text.isText, rfl, .inr ⟨by simp [failed], _, _, _, rfl⟩⟩

namespace Restore

/-! ## Statements that are executed -/

/-- The statement that a call executes, with the answer. -/
def execution? : Event Call.Answer → Option (Bytes × Except Fault UInt64)
  | ⟨.apply statement, answer⟩ => some (statement, answer)
  | _ => none

/-- The statements that calls execute, with the answers. -/
def executions (calls : List (Event Call.Answer)) : List (Bytes × Except Fault UInt64) :=
  calls.filterMap execution?

/-- The number of rows that a statement affects.  One that fails affects none. -/
def rowsAffected : Except Fault UInt64 → Nat
  | .ok rows => rows.toNat
  | .error _ => 0

/-- The number of rows that all statements affect. -/
def totalRows (calls : List (Event Call.Answer)) : Nat :=
  ((executions calls).map fun e => rowsAffected e.2).sum

variable {mapping : DatabaseMapping}

/-- The counts after more statements, which affect so many rows. -/
def countedAll (mapping : DatabaseMapping) (summary : UnitSummary) (statements : List Statement)
    (rows : Nat) : UnitSummary :=
  { summary with
    statements := summary.statements + statements.length
    remapped := summary.remapped +
      statements.countP fun s => (mapping.renamed? s.bytes).isSome
    affectedRows := summary.affectedRows + UInt64.ofNat rows }

theorem countedAll_nil (summary : UnitSummary) : countedAll mapping summary [] 0 = summary := by
  simp [countedAll]

theorem countedAll_cons (summary : UnitSummary) (s : Statement) (statements : List Statement)
    (affected : UInt64) (rows : Nat) :
    countedAll mapping (counted mapping summary s.bytes affected) statements rows =
      countedAll mapping summary (s :: statements) (affected.toNat + rows) := by
  simp only [countedAll, counted, List.length_cons, List.countP_cons, UInt64.ofNat_add,
    UInt64.ofNat_toNat, UInt64.add_assoc, UnitSummary.mk.injEq, true_and, and_true]
  omega

/-- What is reported of statements that come after `n` lines, where `summary` counts those that come
before them. -/
structure Reported (mapping : DatabaseMapping) (summary : UnitSummary) (n : Nat)
    (statements : List Statement) (clean : Prop) (calls : List (Event Call.Answer))
    (r : Except RestoreError UnitSummary) : Prop where
  /-- The statements are executed from the first one on. -/
  executed : (executions calls).map Prod.fst <+: statements.map fun s => mapping.remap s.bytes
  /-- The one that fails is the last. -/
  failed : ∀ k statement fault, (executions calls)[k]? = some (statement, .error fault) →
    (executions calls).length = k + 1 ∧
      r = .error (.statement summary.unit (summary.statements + (k + 1))
        (n + ((statements.take (k + 1)).flatMap Statement.lines).length) fault)
  /-- If none fails, all of them are executed, and the unit is to be committed. -/
  asked : clean → (∀ e ∈ executions calls, IsOk e.2) →
    (executions calls).map Prod.fst = statements.map (fun s => mapping.remap s.bytes) ∧
      .commit ∈ calls.map Sigma.fst
  /-- The unit is named if it could not be committed. -/
  refused : ∀ fault, ⟨.commit, .error fault⟩ ∈ calls → r = .error (.commit summary.unit fault)
  /-- All of them are counted. -/
  committed : clean → ⟨.commit, .ok ()⟩ ∈ calls →
    r = .ok (countedAll mapping summary statements (totalRows calls))

/-- One more statement, before those of which it is known. -/
theorem Reported.applied {summary : UnitSummary} {n : Nat} {s : Statement}
    {statements : List Statement} {clean : Prop} {calls : List (Event Call.Answer)}
    {r : Except RestoreError UnitSummary} {affected : UInt64}
    (h : Reported mapping (counted mapping summary s.bytes affected) (n + s.lines.length) statements
      clean calls r) :
    Reported mapping summary n (s :: statements) clean
      (⟨.apply (mapping.remap s.bytes), .ok affected⟩ :: calls) r where
  executed := by
    rw [List.map_cons]
    exact List.cons_prefix_cons.2 ⟨rfl, h.executed⟩
  failed := by
    intro k statement fault hk
    cases k with
    | zero => cases hk
    | succ k =>
      obtain ⟨length, result⟩ := h.failed k statement fault hk
      refine ⟨congrArg (· + 1) length, ?_⟩
      have number : (counted mapping summary s.bytes affected).statements + (k + 1) =
          summary.statements + (k + 1 + 1) := by
        simp only [counted]
        omega
      rw [result, number, List.take_succ_cons, List.flatMap_cons, List.length_append,
        Nat.add_assoc n]
      rfl
  asked := by
    intro hclean ok
    obtain ⟨all, commit⟩ := h.asked hclean fun e he => ok e (List.mem_cons_of_mem _ he)
    exact ⟨congrArg (mapping.remap s.bytes :: ·) all, List.mem_cons_of_mem _ commit⟩
  refused := fun fault hcommit => h.refused fault (by simpa using hcommit)
  committed := by
    intro hclean hcommit
    rw [h.committed hclean (by simpa using hcommit), countedAll_cons]
    rfl

/-- Statements that come after those of which it is known, such as one that a fault keeps from its
end, do not matter to the one that fails. -/
theorem Reported.extended {summary : UnitSummary} {n : Nat} {made statements : List Statement}
    {clean : Prop} {calls : List (Event Call.Answer)} {r : Except RestoreError UnitSummary}
    (h : Reported mapping summary n made clean calls r) (first : made <+: statements) :
    Reported mapping summary n statements (clean ∧ made = statements) calls r where
  executed := h.executed.trans (first.map _)
  failed := by
    intro k statement fault hk
    obtain ⟨length, result⟩ := h.failed k statement fault hk
    have within : k + 1 ≤ made.length := by
      have executed := h.executed.length_le
      rwa [List.length_map, List.length_map, length] at executed
    obtain ⟨later, rfl⟩ := first
    refine ⟨length, ?_⟩
    rw [result, List.take_append_of_le_length within]
  asked := by
    rintro ⟨hclean, rfl⟩
    exact h.asked hclean
  refused := h.refused
  committed := by
    rintro ⟨hclean, rfl⟩
    exact h.committed hclean

/-- What is reported of a stream whose statements are followed by its end or by a fault. -/
theorem Replay.reported {summary : UnitSummary} {events more : List (SplitEvent × Nat)}
    {calls : List (Event Call.Answer)} {r : Except RestoreError UnitSummary}
    (h : Replay mapping summary events calls r) {n : Nat} {statements : List Statement}
    (same : events = yields n statements ++ more)
    (ends : more = [] ∨ ∃ fault line tail, more = (.fault fault, line) :: tail) :
    Reported mapping summary n statements (more = []) calls r := by
  induction h generalizing n statements with
  | @ended summary answer =>
    obtain ⟨none, -⟩ := List.append_eq_nil_iff.1 same.symm
    have nil : statements = [] := by
      cases statements with
      | nil => rfl
      | cons s statements => cases none
    subst nil
    exact {
      executed := List.nil_prefix
      failed := nofun
      asked := fun _ _ => ⟨rfl, List.mem_singleton_self _⟩
      refused := by
        intro fault hcommit
        cases List.mem_singleton.1 hcommit
        rfl
      committed := by
        intro _ hcommit
        cases List.mem_singleton.1 hcommit
        exact congrArg Except.ok (countedAll_nil summary).symm }
  | @unreadable summary fault line rest answer =>
    exact {
      executed := List.nil_prefix
      failed := nofun
      asked := by
        rintro rfl
        cases statements with
        | nil => cases same
        | cons s statements => cases same
      refused := fun _ hcommit => nomatch List.mem_singleton.1 hcommit
      committed := fun _ hcommit => nomatch List.mem_singleton.1 hcommit }
  | @broken summary statement line rest fault answer =>
    obtain ⟨s, statements, rfl, rfl, rfl, -⟩ := exists_cons_of_yields same ends
    exact {
      executed := List.cons_prefix_cons.2 ⟨rfl, List.nil_prefix⟩
      failed := by
        intro k statement fault' hk
        cases k with
        | zero =>
          cases hk
          simp [executions, execution?]
        | succ k => cases hk
      asked := fun _ ok => absurd (ok _ List.mem_cons_self) not_okWith_error
      refused := fun _ hcommit => by simp at hcommit
      committed := fun _ hcommit => by simp at hcommit }
  | @applied summary statement line rest calls r affected _ ih =>
    obtain ⟨s, statements, rfl, rfl, rfl, tail⟩ := exists_cons_of_yields same ends
    exact (ih tail).applied

/-- Whatever a server answers, and however a stream is delivered, the statement that fails is the
last that is executed, and it is reported with its number and with the number of lines up to its
last one.  If the stream is read to its end and no statement fails, all of them are executed and the
unit is to be committed; when it is, it is reported with the number of its statements, of those that
were rewritten, and of the rows they affected.  A statement is rewritten where it names a database
that is renamed, and stays as it is otherwise. -/
theorem unit_reported {σ : Type} (server : Server σ) (mapping : DatabaseMapping)
    (unit : RestoreUnit) (s : σ) :
    let program := (applyUnit mapping unit).run
    let calls := trace server program s
    let r := (Program.run server program s).1
    ∃ text : Text unit.source.delivered.1,
      (∀ other : Text unit.source.delivered.1, other = text) ∧
      (executions calls).map Prod.fst <+: text.statements.map (fun s => mapping.remap s.bytes) ∧
      (∀ k statement fault, (executions calls)[k]? = some (statement, .error fault) →
        (executions calls).length = k + 1 ∧
        r = .error (.statement unit.name (k + 1)
          ((text.statements.take (k + 1)).flatMap Statement.lines).length fault)) ∧
      (unit.source.delivered.2 = none → (∀ e ∈ executions calls, IsOk e.2) →
        (executions calls).map Prod.fst = text.statements.map (fun s => mapping.remap s.bytes) ∧
        .commit ∈ calls.map Sigma.fst ∧
        (∀ fault, ⟨.commit, .error fault⟩ ∈ calls → r = .error (.commit unit.name fault)) ∧
        (⟨.commit, .ok ()⟩ ∈ calls → ∃ affected : UInt64,
          r = .ok {
            unit := unit.name
            statements := text.statements.length
            remapped := text.statements.countP fun s => (mapping.renamed? s.bytes).isSome
            affectedRows := affected } ∧
          (totalRows calls < 2 ^ 64 → affected.toNat = totalRows calls))) ∧
      ∀ statement : Bytes,
        (mapping.renamed? statement = none → mapping.remap statement = statement) ∧
        (∀ out, mapping.renamed? statement = some out → mapping.remap statement = out ∧
          ∃ pre name post dest feed, NamesDatabase pre name post ∧ mapping.get? name = some dest ∧
            (feed = [] ∨ feed = [Byte.lineFeed]) ∧ statement = utf8 (pre ++ name ++ post) ++ feed ∧
            out = utf8 (pre ++ dest ++ post) ++ feed) ∧
        ∀ pre name post dest feed, NamesDatabase pre name post →
          (pre ++ name ++ post).toList.count backtick = 2 → mapping.get? name = some dest →
          (feed = [] ∨ feed = [Byte.lineFeed]) → statement = utf8 (pre ++ name ++ post) ++ feed →
          (mapping.renamed? statement).isSome := by
  intro program calls r
  obtain ⟨text⟩ := Text.exists_text unit.source.delivered.1
  obtain ⟨made, more, first, events, ending⟩ := unit.source.exists_yields text
  have ends : more = [] ∨ ∃ fault line tail, more = (.fault fault, line) :: tail :=
    ending.imp (fun h => h.2.2) (fun h => h.2)
  have path : Path program calls r := path_trace server program s
  have report := ((replay_of_path path).reported events ends).extended first
  refine ⟨text, fun other => other.unique text, report.executed, ?_, ?_,
    fun statement => ⟨?_, ?_, ?_⟩⟩
  · intro k statement fault hk
    obtain ⟨length, result⟩ := report.failed k statement fault hk
    refine ⟨length, ?_⟩
    rw [result, Nat.zero_add, Nat.zero_add]
  · intro clean ok
    rcases ending with ⟨-, rfl, rfl⟩ | ⟨failed, -⟩
    · obtain ⟨all, asked⟩ := report.asked ⟨rfl, rfl⟩ ok
      refine ⟨all, asked, report.refused, fun commit => ?_⟩
      refine ⟨UInt64.ofNat (totalRows calls), ?_, fun small => ?_⟩
      · rw [report.committed ⟨rfl, rfl⟩ commit]
        simp [countedAll]
      · rw [UInt64.toNat_ofNat', Nat.mod_eq_of_lt small]
    · exact absurd clean failed
  · intro none
    rw [DatabaseMapping.remap, none]
    rfl
  · intro out renamed
    refine ⟨?_, DatabaseMapping.renamed?_sound renamed⟩
    rw [DatabaseMapping.remap, renamed]
    rfl
  · rintro pre name post dest feed names two hdest hfeed rfl
    rw [DatabaseMapping.renamed?_complete names two hdest hfeed]
    rfl

/-- A unit of two statements and the start of a third one, which is delivered in two chunks. -/
def exampleUnit : RestoreUnit where
  name := "shop.sql"
  source := [.ok (utf8 "USE `shop`;\n\n-- ro"), .ok (utf8 "ws\r\nDELETE\nFROM `t`;\nSELECT")]

/-- The unit is committed, and its three rows are counted. -/
theorem unit_reported_of_exampleUnit :
    let mapping : DatabaseMapping := { names := [("shop", "copy")] }
    let script : Script := { affected := [0, 3] }
    let program := (applyUnit mapping exampleUnit).run
    let calls := trace script.server program {}
    .commit ∈ calls.map Sigma.fst ∧
      ∃ text : Text exampleUnit.source.delivered.1, text.statements.length = 2 ∧
        ∃ affected : UInt64, affected.toNat = 3 ∧
          (Program.run script.server program {}).1 = .ok {
            unit := "shop.sql"
            statements := text.statements.length
            remapped := text.statements.countP fun s => (mapping.renamed? s.bytes).isSome
            affectedRows := affected } := by
  intro mapping script program calls
  obtain ⟨text, -, -, -, clean, -⟩ := unit_reported script.server mapping exampleUnit {}
  have delivered : exampleUnit.source.delivered.2 = none := by cbv
  have executed : executions calls = [
      (utf8 "USE `copy`;\n", .ok 0), (utf8 "-- rows\nDELETE\nFROM `t`;\n", .ok 3)] := by
    unfold calls program script mapping
    cbv
  have ok : ∀ e ∈ executions calls, IsOk e.2 := by
    rw [executed]
    simp only [List.forall_mem_cons, List.not_mem_nil, false_imp_iff, implies_true]
    exact ⟨⟨0, rfl, trivial⟩, ⟨3, rfl, trivial⟩, trivial⟩
  obtain ⟨all, asked, -, counted⟩ := clean delivered ok
  have two : text.statements.length = 2 := by
    have lengths := congrArg List.length all
    rw [executed, List.length_map, List.length_map] at lengths
    exact lengths.symm
  have last : calls.getLast? = some ⟨.commit, .ok ()⟩ := by
    unfold calls program script mapping
    cbv
  have rows : totalRows calls = 3 := by
    rw [totalRows, executed]
    rfl
  obtain ⟨affected, result, total⟩ := counted (List.mem_of_getLast? last)
  refine ⟨asked, text, two, affected, ?_, result⟩
  rw [total (by rw [rows]; decide), rows]

/-- Where the second statement is refused, its last line is the fifth of the stream. -/
example :
    let script : Script :=
      { failures := [{ kindName := "execute", ordinal := 2, fault := .query "refused" }] }
    (Program.run script.server (applyUnit { names := [("shop", "copy")] } exampleUnit).run {}).1 =
      .error (.statement "shop.sql" 2 5 (.query "refused")) := by
  cbv

end Restore

end LogicalBackup
