import LogicalBackup.Proofs.Dump.Events
import LogicalBackup.Proofs.Text.Words

/-!
# What introspection reports

A column is effective by the words of its properties (`effectiveColumns_eq`).  An entry of the
catalog is described by the calls of its `ObjectAnswers` or goes wrong (`GoesWrong`), and
introspection describes the entries in order up to the first that does (`Introspected`).
-/

namespace LogicalBackup

open Program

/-! ## Effective columns -/

/-- A column that is not virtual and, unless the options keep it, not generated. -/
def ColumnEntry.Kept (options : DumpOptions) (c : ColumnEntry) : Prop :=
  ¬Text.HasToken "VIRTUAL" c.extra.toList ∧
    (options.includeGeneratedColumns = false → ¬Text.HasToken "GENERATED" c.extra.toList)

instance (options : DumpOptions) (c : ColumnEntry) : Decidable (c.Kept options) :=
  inferInstanceAs (Decidable (_ ∧ _))

theorem any_isKeyword_iff {keyword : String} {s : List Char} :
    (Text.words s).any (isKeyword keyword) = true ↔ Text.HasToken keyword s := by
  simp only [List.any_eq_true, Text.hasToken_iff, isKeyword, beq_iff_eq]

theorem isEffective_iff {options : DumpOptions} {c : ColumnEntry} :
    isEffective c.extra options.includeGeneratedColumns = true ↔ c.Kept options := by
  simp only [isEffective, ColumnEntry.Kept, ← any_isKeyword_iff, Bool.and_eq_true, Bool.or_eq_true,
    Bool.not_eq_true', Bool.not_eq_true]
  cases options.includeGeneratedColumns <;> simp

theorem effectiveColumns_eq (options : DumpOptions) (entries : List ColumnEntry) :
    effectiveColumns entries options.includeGeneratedColumns =
      (entries.filter fun c => c.Kept options).map (·.name) := by
  unfold effectiveColumns
  congr 1
  exact List.filter_congr fun c _ => by
    rw [Bool.eq_iff_iff, decide_eq_true_eq, isEffective_iff]

/-- Neither the order of the words matters nor any `DEFAULT_GENERATED` among them. -/
theorem ColumnEntry.kept_congr {options : DumpOptions} {c d : ColumnEntry}
    (h : ∀ w, w.map Char.toUpper ≠ "DEFAULT_GENERATED".toList →
      (Text.IsToken w c.extra.toList ↔ Text.IsToken w d.extra.toList)) :
    c.Kept options ↔ d.Kept options := by
  have same {keyword : String} (other : keyword.toList ≠ "DEFAULT_GENERATED".toList) :
      Text.HasToken keyword c.extra.toList ↔ Text.HasToken keyword d.extra.toList :=
    exists_congr fun w => and_congr_left fun spelled => h w (spelled ▸ other)
  exact and_congr (not_congr (same (by decide)))
    (imp_congr_right fun _ => not_congr (same (by decide)))

example : ["", "virtual generated", "GENERATED stored", "DEFAULT_GENERATED on update"].filter
    (fun extra => (ColumnEntry.mk "c" extra).Kept {}) = ["", "DEFAULT_GENERATED on update"] := by
  decide

/-! ## Objects -/

namespace SchemaObject

/-- The name of an object in its schema. -/
def name : SchemaObject → String
  | table t => t.name
  | view v => v.name

/-- Whether an object is a table or a view. -/
def kind : SchemaObject → ObjectKind
  | table _ => .table
  | view _ => .view

/-- The effective columns of an object. -/
def columns : SchemaObject → List String
  | table t => t.columns
  | view v => v.columns

end SchemaObject

/-- What a server tells of an object before anything of it is dumped. -/
inductive ObjectAnswers where
  | table (name : String) (entries : List ColumnEntry)
  | view (name : String) (entries : List ColumnEntry) (createSql charset collation : String)

namespace ObjectAnswers

/-- The object as it is listed. -/
def entry : ObjectAnswers → ObjectEntry
  | table name _ => ⟨name, "BASE TABLE"⟩
  | view name .. => ⟨name, "VIEW"⟩

/-- The object with its effective columns. -/
def object (schema : String) (options : DumpOptions) : ObjectAnswers → SchemaObject
  | table name entries =>
    .table { schema, name, columns := effectiveColumns entries options.includeGeneratedColumns }
  | view name entries createSql charset collation =>
    .view {
      schema, name, createSql, charset, collation
      columns := effectiveColumns entries options.includeGeneratedColumns
      definition := ViewDefinition.split createSql }

/-- The calls by which the object is described. -/
def exchanges (schema : String) : ObjectAnswers → List CallEvent
  | table name entries => [⟨.listColumns schema name, .ok entries⟩]
  | view name entries createSql charset collation => [
    ⟨.listColumns schema name, .ok entries⟩,
    ⟨.showCreateView name, .ok createSql⟩,
    ⟨.viewCharset schema name, .ok ⟨name, charset, collation⟩⟩]

/-- The columns that are listed for the object. -/
def columns : ObjectAnswers → List ColumnEntry
  | table _ entries => entries
  | view _ entries .. => entries

/-- The object has the name and the kind of its entry, and the columns that are kept. -/
theorem object_reports (a : ObjectAnswers) (schema : String) (options : DumpOptions) :
    let o := a.object schema options
    o.name = a.entry.name ∧ ObjectKind.ofWords? a.entry.kind = some o.kind ∧
      o.columns = (a.columns.filter fun c => c.Kept options).map (·.name) := by
  cases a with
  | table name entries => exact ⟨rfl, rfl, effectiveColumns_eq options entries⟩
  | view name entries createSql charset collation =>
    exact ⟨rfl, rfl, effectiveColumns_eq options entries⟩

end ObjectAnswers

/-! ## Entries that go wrong -/

/-- The ways in which an entry of the catalog goes wrong, each with the calls that are made for the
entry and with the error. -/
inductive GoesWrong (schema : String) : ObjectEntry → List CallEvent → DumpError → Prop
  | kind {name kind : String} (table : kind ≠ "BASE TABLE") (view : kind ≠ "VIEW") :
    GoesWrong schema ⟨name, kind⟩ [] (.unknownObjectKind schema name kind)
  | columns {name kind : String} {fault : Fault} (known : kind = "BASE TABLE" ∨ kind = "VIEW") :
    GoesWrong schema ⟨name, kind⟩ [⟨.listColumns schema name, .error fault⟩]
      (.object schema name fault)
  | create {name : String} {entries : List ColumnEntry} {fault : Fault} :
    GoesWrong schema ⟨name, "VIEW"⟩
      [⟨.listColumns schema name, .ok entries⟩, ⟨.showCreateView name, .error fault⟩]
      (.object schema name fault)
  | catalog {name : String} {entries : List ColumnEntry} {createSql : String} {fault : Fault} :
    GoesWrong schema ⟨name, "VIEW"⟩
      [⟨.listColumns schema name, .ok entries⟩, ⟨.showCreateView name, .ok createSql⟩,
        ⟨.viewCharset schema name, .error fault⟩]
      (.object schema name fault)
  | mismatch {name : String} {entries : List ColumnEntry} {createSql : String}
    {found : ViewCharset} (other : found.viewName ≠ name) :
    GoesWrong schema ⟨name, "VIEW"⟩
      [⟨.listColumns schema name, .ok entries⟩, ⟨.showCreateView name, .ok createSql⟩,
        ⟨.viewCharset schema name, .ok found⟩]
      (.viewCatalogMismatch schema name found.viewName)

variable {schema : String} {options : DumpOptions} {t : List CallEvent}

theorem path_asking_ok_iff {c : Call} {wrap : Fault → DumpError} {t : List CallEvent}
    {a : c.Result} : Path (Asking.ask c wrap).run t (.ok a) ↔ t = [⟨c, .ok a⟩] := by
  constructor
  · intro h
    obtain ⟨answer, rfl, hr⟩ := path_step_done_iff.1 h
    cases answer with
    | error fault => cases hr
    | ok a =>
      cases hr
      rfl
  · rintro rfl
    exact path_step_done_iff.2 ⟨.ok a, rfl, rfl⟩

theorem path_asking_error_iff {c : Call} {wrap : Fault → DumpError} {t : List CallEvent}
    {e : DumpError} :
    Path (Asking.ask c wrap).run t (.error e) ↔
      ∃ fault, t = [⟨c, .error fault⟩] ∧ e = wrap fault := by
  constructor
  · intro h
    obtain ⟨answer, rfl, hr⟩ := path_step_done_iff.1 h
    cases answer with
    | ok a => cases hr
    | error fault =>
      cases hr
      exact ⟨fault, rfl, rfl⟩
  · rintro ⟨fault, rfl, rfl⟩
    exact path_step_done_iff.2 ⟨.error fault, rfl, rfl⟩

/-- An entry is described, or it goes wrong. -/
theorem path_describeObject {entry : ObjectEntry} {r : Except DumpError SchemaObject}
    (h : Path (describeObject schema options entry).run t r) :
    (∃ a : ObjectAnswers, a.entry = entry ∧ t = a.exchanges schema ∧
      r = .ok (a.object schema options)) ∨
    ∃ e, GoesWrong schema entry t e ∧ r = .error e := by
  obtain ⟨name, kind⟩ := entry
  unfold describeObject at h
  by_cases table : kind = "BASE TABLE"
  · subst table
    rcases path_exceptBind_iff.1 h with ⟨e, columns, rfl⟩ | ⟨t₁, entries, t₂, rfl, columns, last⟩
    · obtain ⟨fault, rfl, rfl⟩ := path_asking_error_iff.1 columns
      exact .inr ⟨_, .columns (.inl rfl), rfl⟩
    obtain rfl := path_asking_ok_iff.1 columns
    obtain ⟨rfl, rfl⟩ := path_exceptPure_iff.1 last
    exact .inl ⟨.table name entries, rfl, rfl, rfl⟩
  by_cases view : kind = "VIEW"
  · subst view
    rcases path_exceptBind_iff.1 h with ⟨e, columns, rfl⟩ | ⟨t₁, entries, t₂, rfl, columns, rest⟩
    · obtain ⟨fault, rfl, rfl⟩ := path_asking_error_iff.1 columns
      exact .inr ⟨_, .columns (.inr rfl), rfl⟩
    obtain rfl := path_asking_ok_iff.1 columns
    rcases path_exceptBind_iff.1 rest with ⟨e, create, rfl⟩ | ⟨t₃, createSql, t₄, rfl, create, more⟩
    · obtain ⟨fault, rfl, rfl⟩ := path_asking_error_iff.1 create
      exact .inr ⟨_, .create, rfl⟩
    obtain rfl := path_asking_ok_iff.1 create
    rcases path_exceptBind_iff.1 more with ⟨e, catalog, rfl⟩ |
      ⟨t₅, ⟨viewName, charset, collation⟩, t₆, rfl, catalog, last⟩
    · obtain ⟨fault, rfl, rfl⟩ := path_asking_error_iff.1 catalog
      exact .inr ⟨_, .catalog, rfl⟩
    obtain rfl := path_asking_ok_iff.1 catalog
    dsimp only at last
    split_ifs at last with other
    · obtain ⟨rfl, rfl⟩ := path_done_iff.1 last
      exact .inr ⟨_, .mismatch other, rfl⟩
    · obtain rfl := not_not.1 other
      obtain ⟨rfl, rfl⟩ := path_exceptPure_iff.1 last
      exact .inl ⟨.view viewName entries createSql charset collation, rfl, rfl, rfl⟩
  · have unknown : ObjectKind.ofWords? kind = none := by
      rw [ObjectKind.ofWords?, if_neg table, if_neg view]
    dsimp only at h
    rw [unknown] at h
    obtain ⟨rfl, rfl⟩ := path_done_iff.1 h
    exact .inr ⟨_, .kind table view, rfl⟩

/-- All entries are described, or those before the first that goes wrong. -/
theorem path_describeObjects {entries : List ObjectEntry} {r : Except DumpError (List SchemaObject)}
    (h : Path (describeObjects schema options entries).run t r) :
    (∃ found : List ObjectAnswers, found.map (·.entry) = entries ∧
      t = found.flatMap (·.exchanges schema) ∧ r = .ok (found.map (·.object schema options))) ∨
    ∃ (found : List ObjectAnswers) (bad : ObjectEntry) (rest : List ObjectEntry)
      (calls : List CallEvent) (e : DumpError), GoesWrong schema bad calls e ∧
        found.map (·.entry) ++ bad :: rest = entries ∧
        t = found.flatMap (·.exchanges schema) ++ calls ∧ r = .error e := by
  induction entries generalizing t r with
  | nil =>
    obtain ⟨rfl, rfl⟩ := path_exceptPure_iff.1 h
    exact .inl ⟨[], rfl, rfl, rfl⟩
  | cons entry entries ih =>
    rcases path_exceptBind_iff.1 h with ⟨e, first, rfl⟩ | ⟨t₁, o, t₂, rfl, first, rest⟩
    · rcases path_describeObject first with ⟨a, -, -, ⟨⟩⟩ | ⟨e, wrong, ⟨⟩⟩
      exact .inr ⟨[], entry, entries, t, e, wrong, rfl, rfl, rfl⟩
    rcases path_describeObject first with ⟨a, rfl, rfl, ⟨⟩⟩ | ⟨e, -, ⟨⟩⟩
    rcases path_exceptBind_iff.1 rest with ⟨e, others, rfl⟩ | ⟨t₃, objects, t₄, rfl, others, last⟩
    · rcases ih others with ⟨found, -, -, ⟨⟩⟩ | ⟨found, bad, behind, calls, e, wrong, rfl, rfl, ⟨⟩⟩
      refine .inr ⟨a :: found, bad, behind, calls, e, wrong, rfl, ?_, rfl⟩
      rw [List.flatMap_cons, List.append_assoc]
    · rcases ih others with ⟨found, rfl, rfl, ⟨⟩⟩ | ⟨found, bad, behind, calls, e, -, -, -, ⟨⟩⟩
      obtain ⟨rfl, rfl⟩ := path_exceptPure_iff.1 last
      refine .inl ⟨a :: found, rfl, ?_, rfl⟩
      rw [List.append_nil, List.flatMap_cons]

/-! ## Outcomes -/

/-- The calls that introspection makes, with its result: the objects cannot be listed, or all that
are listed are described, or one of them goes wrong and those behind it are not looked at. -/
inductive Introspected (schema : String) (options : DumpOptions) :
    List CallEvent → Except DumpError (List SchemaObject) → Prop
  | unlisted (fault : Fault) :
    Introspected schema options [⟨.listObjects schema, .error fault⟩] (.error (.fault fault))
  | complete (found : List ObjectAnswers) :
    Introspected schema options
      (⟨.listObjects schema, .ok (found.map (·.entry))⟩ :: found.flatMap (·.exchanges schema))
      (.ok (found.map (·.object schema options)))
  | stopped (found : List ObjectAnswers) {bad : ObjectEntry} (rest : List ObjectEntry)
    {calls : List CallEvent} {e : DumpError} (wrong : GoesWrong schema bad calls e) :
    Introspected schema options
      (⟨.listObjects schema, .ok (found.map (·.entry) ++ bad :: rest)⟩ ::
        (found.flatMap (·.exchanges schema) ++ calls))
      (.error e)

theorem introspected_of_path {r : Except DumpError (List SchemaObject)}
    (h : Path (introspect schema options).run t r) : Introspected schema options t r := by
  rcases path_exceptBind_iff.1 h with ⟨e, list, rfl⟩ | ⟨t₁, entries, t₂, rfl, list, rest⟩
  · obtain ⟨fault, rfl, rfl⟩ := path_asking_error_iff.1 list
    exact .unlisted fault
  obtain rfl := path_asking_ok_iff.1 list
  rcases path_describeObjects rest with ⟨found, rfl, rfl, rfl⟩ |
    ⟨found, bad, behind, calls, e, wrong, rfl, rfl, rfl⟩
  · exact .complete found
  · exact .stopped found behind wrong

/-- What a server has told when a schema is introspected. -/
theorem path_introspect {objects : List SchemaObject}
    (h : Path (introspect schema options).run t (.ok objects)) :
    ∃ found : List ObjectAnswers,
      t = ⟨.listObjects schema, .ok (found.map (·.entry))⟩ :: found.flatMap (·.exchanges schema) ∧
      objects = found.map (·.object schema options) := by
  cases introspected_of_path h with
  | complete found => exact ⟨found, rfl, rfl⟩

/-- All calls succeed, all kinds are known, and the catalog of views answers for the views that it
is asked for. -/
structure WellAnswered (schema : String) (calls : List CallEvent) : Prop where
  succeed : ∀ e ∈ calls, IsOk e.2
  kinds : ∀ entries : List ObjectEntry, ⟨.listObjects schema, .ok entries⟩ ∈ calls →
    ∀ entry ∈ entries, entry.kind = "BASE TABLE" ∨ entry.kind = "VIEW"
  names : ∀ (view : String) (found : ViewCharset), ⟨.viewCharset schema view, .ok found⟩ ∈ calls →
    found.viewName = view

theorem ObjectAnswers.entry_kind (a : ObjectAnswers) :
    a.entry.kind = "BASE TABLE" ∨ a.entry.kind = "VIEW" := by
  cases a with
  | table => exact .inl rfl
  | view => exact .inr rfl

theorem ObjectAnswers.wellAnswered (a : ObjectAnswers) (schema : String) :
    WellAnswered schema (a.exchanges schema) := by
  cases a with
  | table name entries =>
    exact {
      succeed := by simp [exchanges, OkWith]
      kinds := by simp [exchanges]
      names := by simp [exchanges] }
  | view name entries createSql charset collation =>
    exact {
      succeed := by simp [exchanges, OkWith]
      kinds := by simp [exchanges]
      names := by simp [exchanges] }

theorem wellAnswered_complete (schema : String) (found : List ObjectAnswers) :
    WellAnswered schema
      (⟨.listObjects schema, .ok (found.map (·.entry))⟩ :: found.flatMap (·.exchanges schema)) where
  succeed e he := by
    rcases List.mem_cons.1 he with rfl | he
    · exact ⟨_, rfl, trivial⟩
    · obtain ⟨a, -, he⟩ := List.mem_flatMap.1 he
      exact (a.wellAnswered schema).succeed e he
  kinds entries he := by
    rcases List.mem_cons.1 he with listed | he
    · cases listed
      exact List.forall_mem_map.2 fun a _ => a.entry_kind
    · obtain ⟨a, -, he⟩ := List.mem_flatMap.1 he
      exact (a.wellAnswered schema).kinds entries he
  names view catalog he := by
    rcases List.mem_cons.1 he with listed | he
    · cases listed
    · obtain ⟨a, -, he⟩ := List.mem_flatMap.1 he
      exact (a.wellAnswered schema).names view catalog he

/-- What goes wrong with an entry is that its kind is not known, that a call fails, or that the
catalog of views answers for another view. -/
theorem GoesWrong.not_wellAnswered {bad : ObjectEntry} {entries : List ObjectEntry}
    {wrong : List CallEvent} {e : DumpError} (h : GoesWrong schema bad wrong e)
    (listed : bad ∈ entries) (answered : ⟨.listObjects schema, .ok entries⟩ ∈ t)
    (made : ∀ e ∈ wrong, e ∈ t) : ¬WellAnswered schema t := by
  intro well
  have succeed (e) (he : e ∈ wrong) : IsOk e.2 := well.succeed e (made e he)
  cases h with
  | kind table view => exact (well.kinds entries answered _ listed).elim table view
  | @columns name kind fault known =>
    exact not_okWith_error (succeed ⟨.listColumns schema name, .error fault⟩ (by simp))
  | @create name columns fault =>
    exact not_okWith_error (succeed ⟨.showCreateView name, .error fault⟩ (by simp))
  | @catalog name columns createSql fault =>
    exact not_okWith_error (succeed ⟨.viewCharset schema name, .error fault⟩ (by simp))
  | @mismatch name columns createSql found other =>
    exact other (well.names name found (made _ (by simp)))

theorem Introspected.isOk_iff {r : Except DumpError (List SchemaObject)}
    (h : Introspected schema options t r) : IsOk r ↔ WellAnswered schema t := by
  cases h with
  | unlisted fault =>
    refine iff_of_false not_okWith_error fun well => ?_
    exact not_okWith_error (well.succeed _ (List.mem_singleton_self _))
  | complete found => exact iff_of_true ⟨_, rfl, trivial⟩ (wellAnswered_complete schema found)
  | @stopped found bad rest calls e wrong =>
    refine iff_of_false not_okWith_error ?_
    refine wrong.not_wellAnswered ?_ List.mem_cons_self fun e he => ?_
    · exact List.mem_append_right _ List.mem_cons_self
    · exact List.mem_cons_of_mem _ (List.mem_append_right _ he)

/-- Whatever a server answers, introspection describes the listed objects in order up to the first
that goes wrong (`Introspected`), and it succeeds exactly where none does.  An object has the name
and the kind of its entry and those of its columns of which no word is `VIRTUAL` nor, unless the
options keep these, `GENERATED`; neither the order of the words matters nor any `DEFAULT_GENERATED`
among them. -/
theorem introspect_reports_catalog {σ : Type} (server : Server σ) (schema : String)
    (options : DumpOptions) (s : σ) :
    let program := (introspect schema options).run
    let calls := trace server program s
    let r := (Program.run server program s).1
    Introspected schema options calls r ∧ (IsOk r ↔ WellAnswered schema calls) ∧
      (∀ a : ObjectAnswers, let o := a.object schema options
        o.name = a.entry.name ∧ ObjectKind.ofWords? a.entry.kind = some o.kind ∧
          o.columns = (a.columns.filter fun c => c.Kept options).map (·.name)) ∧
      ∀ c d : ColumnEntry, (∀ w, w.map Char.toUpper ≠ "DEFAULT_GENERATED".toList →
        (Text.IsToken w c.extra.toList ↔ Text.IsToken w d.extra.toList)) →
          (c.Kept options ↔ d.Kept options) := by
  intro program calls r
  have outcome : Introspected schema options calls r :=
    introspected_of_path (path_trace server program s)
  exact ⟨outcome, outcome.isOk_iff, fun a => a.object_reports schema options,
    fun c d => ColumnEntry.kept_congr⟩

end LogicalBackup
