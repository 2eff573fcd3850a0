import LogicalBackup.Proofs.Catalog.Introspection
import LogicalBackup.Proofs.Dump.Faults
import LogicalBackup.Proofs.Dump.ObjectSections

/-!
# Answers that suit a dump

`Call.Suits` says which answers a dump needs, and `Dumps clock x Q` that `x` succeeds where all
calls are answered so and nothing else goes wrong; `Q` describes its calls with their answers, the
bytes it writes, and its result.  What is found when a schema is introspected can then be printed
(`ObjectAnswers.prints`).
-/

namespace LogicalBackup

open Program DumpEvent

/-! ## Exchanges and bytes -/

/-- An answer with which a dump can go on, and which can be told apart from what surrounds it in the
text of the dump: names and character sets are within a line, and the texts of `CREATE` statements
have no line that is empty or ends a statement. -/
def Call.Suits : (c : Call) → c.Result → Prop
  | .serverInfo, server =>
    EndsLine server.version ∧ '\n' ∉ server.charset.toList ∧ '\n' ∉ server.collation.toList
  | .listObjects _, entries => ∀ entry ∈ entries,
    (entry.kind = "BASE TABLE" ∨ entry.kind = "VIEW") ∧ '\n' ∉ entry.name.toList
  | .listColumns _ _, entries => ∀ entry ∈ entries, '\n' ∉ entry.name.toList
  | .showCreateTable _, sql => IsQuiet sql
  | .showCreateView _, sql => IsQuiet sql
  | .viewCharset _ view, found =>
    found.viewName = view ∧ '\n' ∉ found.charset.toList ∧ '\n' ∉ found.collation.toList
  | .select _, stream => stream.Scans
  | _, _ => True

/-- A call with an answer that suits it. -/
def Call.Served (e : CallEvent) : Prop := OkWith e.1.Suits e.2

namespace DumpEvent

/-- The call and its answer, if a call is made. -/
def exchange? : DumpEvent → Option CallEvent
  | ⟨.ask c, answer⟩ => some ⟨c, answer⟩
  | ⟨.write _, _⟩ => none
  | ⟨.now, _⟩ => none

/-- The bytes that are written. -/
def bytes : DumpEvent → Bytes
  | ⟨.ask _, _⟩ => []
  | ⟨.write (.write b), _⟩ => b
  | ⟨.write .flush, _⟩ => []
  | ⟨.now, _⟩ => []

/-- A call that is served, a write that succeeds, or a look at a clock that shows `clock`. -/
def Clean (clock : DateTime) : DumpEvent → Prop
  | ⟨.ask c, answer⟩ => Call.Served ⟨c, answer⟩
  | ⟨.write _, answer⟩ => answer = .ok ()
  | ⟨.now, time⟩ => time = clock

/-- A write that succeeds, a look at a clock that shows `clock`, or any call. -/
def Sound (clock : DateTime) : DumpEvent → Prop
  | ⟨.ask _, _⟩ => True
  | ⟨.write _, answer⟩ => answer = .ok ()
  | ⟨.now, time⟩ => time = clock

theorem clean_iff {clock : DateTime} {e : DumpEvent} :
    Clean clock e ↔ Sound clock e ∧ ∀ x, exchange? e = some x → Call.Served x := by
  obtain ⟨op, answer⟩ := e
  cases op <;> simp [Clean, Sound, exchange?]

end DumpEvent

/-- The calls of a trace with their answers. -/
def exchanges (t : List DumpEvent) : List CallEvent := t.filterMap exchange?

/-- The bytes that are written in a trace. -/
def dumped (t : List DumpEvent) : Bytes := t.flatMap bytes

@[simp] theorem exchanges_append (s t : List DumpEvent) :
    exchanges (s ++ t) = exchanges s ++ exchanges t :=
  List.filterMap_append

@[simp] theorem dumped_append (s t : List DumpEvent) : dumped (s ++ t) = dumped s ++ dumped t :=
  List.flatMap_append

theorem exchanges_map_fst (t : List DumpEvent) : (exchanges t).map Sigma.fst = asked t := by
  induction t with
  | nil => rfl
  | cons e t ih =>
    obtain ⟨op, answer⟩ := e
    cases op with
    | ask c => exact congrArg (c :: ·) ih
    | write op => exact ih
    | now => exact ih

/-- Where nothing goes wrong the dump succeeds, and its exchanges, what it writes and its result
satisfy `Q`. -/
def Dumps {α : Type} (clock : DateTime) (x : Dumping α) (Q : List CallEvent → Bytes → α → Prop) :
    Prop :=
  ∀ t r, Path x.run t r → (∀ e ∈ t, Clean clock e) →
    ∃ a, r = .ok a ∧ Q (exchanges t) (dumped t) a

theorem forall_mem_exchanges_iff {t : List DumpEvent} {P : CallEvent → Prop} :
    (∀ x ∈ exchanges t, P x) ↔ ∀ e ∈ t, ∀ x, exchange? e = some x → P x := by
  simp only [exchanges, List.mem_filterMap]
  constructor
  · exact fun h e he x hx => h x ⟨e, he, hx⟩
  · rintro h x ⟨e, he, hx⟩
    exact h e he x hx

/-- A call is made between the events before it and those after it. -/
theorem exists_eq_append_of_mem_exchanges {t : List DumpEvent} {c : Call} {answer : c.Answer}
    (h : ⟨c, answer⟩ ∈ exchanges t) : ∃ t₀ t₁, t = t₀ ++ ⟨.ask c, answer⟩ :: t₁ := by
  obtain ⟨⟨op, reply⟩, he, made⟩ := List.mem_filterMap.1 h
  cases op with
  | ask c =>
    cases made
    exact List.append_of_mem he
  | write op => cases made
  | now => cases made

/-- Nothing goes wrong where writes succeed and calls are served. -/
theorem forall_mem_clean_iff {clock : DateTime} {t : List DumpEvent} :
    (∀ e ∈ t, Clean clock e) ↔ (∀ e ∈ t, Sound clock e) ∧ ∀ x ∈ exchanges t, Call.Served x := by
  rw [forall_mem_exchanges_iff, ← forall₂_and]
  exact forall₂_congr fun e _ => clean_iff

theorem Call.Suits.fit {c : Call} {x : c.Result} (h : c.Suits x) : ¬c.Unfit x := by
  cases c with
  | listObjects schema =>
    rintro ⟨entry, he, unknown⟩
    rcases (h entry he).1 with kind | kind <;>
      simp [ObjectKind.ofWords?, kind] at unknown
  | viewCharset schema view => exact not_not.2 h.1
  | select sql => exact not_not.2 h
  | _ => exact id

theorem Call.Served.not_faulty {e : CallEvent} (h : Call.Served e) : ¬Call.Faulty e := by
  obtain ⟨x, same, suits⟩ := h
  exact not_not.2 ⟨x, same, suits.fit⟩

/-- Where writes succeed, only a call can be faulty. -/
theorem forall_mem_not_faulty {clock : DateTime} {t : List DumpEvent}
    (sound : ∀ e ∈ t, Sound clock e) (fit : ∀ x ∈ exchanges t, ¬Call.Faulty x) :
    ∀ e ∈ t, ¬Faulty e := by
  rintro ⟨op, answer⟩ he
  cases op with
  | ask c => exact fit _ (List.mem_filterMap.2 ⟨_, he, rfl⟩)
  | write op => exact not_not.2 (sound _ he)
  | now => exact id

/-! ## Introspection -/

/-- The names of a table are within a line. -/
structure Table.Prints (t : Table) : Prop where
  name : '\n' ∉ t.name.toList
  columns : ∀ c ∈ t.columns, '\n' ∉ c.toList

/-- The names of a view are within a line, and its text has no line that is empty or ends a
statement. -/
structure View.Prints (v : View) : Prop where
  name : '\n' ∉ v.name.toList
  columns : ∀ c ∈ v.columns, '\n' ∉ c.toList
  charset : '\n' ∉ v.charset.toList
  collation : '\n' ∉ v.collation.toList
  createSql : IsQuiet v.createSql
  definition : v.definition = ViewDefinition.split v.createSql

/-- `Table.Prints` or `View.Prints`. -/
def SchemaObject.Prints : SchemaObject → Prop
  | .table t => t.Prints
  | .view v => v.Prints

theorem lineFeed_not_mem_effectiveColumns {entries : List ColumnEntry}
    (h : ∀ entry ∈ entries, '\n' ∉ entry.name.toList) (generated : Bool) :
    ∀ c ∈ effectiveColumns entries generated, '\n' ∉ c.toList := by
  intro c hc
  obtain ⟨entry, he, rfl⟩ := List.mem_map.1 hc
  exact h entry (List.mem_of_mem_filter he)

/-- Of answers that suit a dump come objects that can be printed. -/
theorem ObjectAnswers.prints {a : ObjectAnswers} {schema : String} (options : DumpOptions)
    (name : '\n' ∉ a.entry.name.toList) (served : ∀ e ∈ a.exchanges schema, Call.Served e) :
    (a.object schema options).Prints := by
  cases a with
  | table t entries =>
    have columns := okWith_ok_iff.1 (served _ (List.mem_singleton_self _))
    exact ⟨name, lineFeed_not_mem_effectiveColumns columns _⟩
  | view v entries createSql charset collation =>
    have columns := okWith_ok_iff.1 (served ⟨.listColumns schema v, .ok entries⟩ (by simp [exchanges]))
    have quiet := okWith_ok_iff.1 (served ⟨.showCreateView v, .ok createSql⟩ (by simp [exchanges]))
    have catalog := okWith_ok_iff.1
      (served ⟨.viewCharset schema v, .ok ⟨v, charset, collation⟩⟩ (by simp [exchanges]))
    exact {
      name
      columns := lineFeed_not_mem_effectiveColumns columns _
      charset := catalog.2.1
      collation := catalog.2.2
      createSql := quiet
      definition := rfl }

end LogicalBackup
