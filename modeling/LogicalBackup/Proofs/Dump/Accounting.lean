import LogicalBackup.Proofs.Dump.Bracketing
import LogicalBackup.Proofs.Dump.Independence
import Mathlib.Data.List.Forall2

/-!
# Accounts of a run

A target attempts to dump its schemas one after another until one fails, and then flushes its sink
(`Account`).  The outcome of a target and the calls that it makes can be read off its account, and
so can the result of a run off the accounts of its targets, in whatever order they come to their
ends (`run_accounts_for_failures`).  Nothing is asked of the server or of the sink.
-/

namespace LogicalBackup

open Program DumpEvent

variable {α σ ω : Type}

/-! ## Logs -/

/-- The world whose server notes the calls. -/
def DumpWorld.logged (world : DumpWorld σ ω) : DumpWorld (σ × List Call) ω where
  server := world.server.logged
  writer := world.writer
  clock := world.clock

/-- The log of a run has the calls of its trace, and nothing else is changed by keeping it. -/
theorem DumpWorld.run_logged (world : DumpWorld σ ω) (p : Program DumpOp.Reply α) (s : σ)
    (log : List Call) (w : ω) :
    Program.run world.logged.answer p ((s, log), w) =
      let ended := Program.run world.answer p (s, w)
      (ended.1, (ended.2.1, log ++ asked (trace world.answer p (s, w))), ended.2.2) := by
  induction p generalizing s log w with
  | done a => exact congrArg (fun l => (a, (s, l), w)) (List.append_nil log).symm
  | step op next ih =>
    cases op with
    | ask c =>
      refine (ih _ _ (log ++ [c]) w).trans ?_
      rw [List.append_assoc]
      rfl
    | write op => exact ih _ _ _ _
    | now => exact ih _ _ _ _

/-- The server of all callers that notes who calls. -/
def Connector.logged (connector : Connector σ) : Connector (σ × List (Nat × Call)) :=
  fun k c (s, log) => ((connector k c s).1, (connector k c s).2, log ++ [(k, c)])

namespace Connector

variable (connector : Connector σ)

theorem answers_logged (calls log : List (Nat × Call)) (s : σ) :
    connector.logged.answers calls (s, log) = connector.answers calls s := by
  induction calls generalizing s log with
  | nil => rfl
  | cons entry calls ih => exact congrArg (_ :: ·) (ih _ _)

theorem after_logged (calls log : List (Nat × Call)) (s : σ) :
    connector.logged.after calls (s, log) = (connector.after calls s, log ++ calls) := by
  induction calls generalizing s log with
  | nil => exact congrArg (s, ·) (List.append_nil log).symm
  | cons entry calls ih =>
    refine (ih (log ++ [entry]) _).trans ?_
    rw [List.append_assoc]
    rfl

end Connector

namespace Dump

/-! ## Attempts -/

/-- An attempt to dump a schema: what happens, and how it ends. -/
structure Attempt where
  schema : String
  events : List DumpEvent
  result : Except DumpError SchemaSummary

namespace Attempt

/-- The error of a target that ends with this attempt. -/
def error? (x : Attempt) : Option DumpError :=
  match x.result with
  | .ok _ => none
  | .error e => some (.schema x.schema e)

/-- What was written, if the attempt is successful. -/
def summary? (x : Attempt) : Option SchemaSummary := x.result.toOption

theorem error?_eq_none_iff {x : Attempt} : x.error? = none ↔ IsOk x.result := by
  unfold error?
  cases x.result with
  | ok summary => exact iff_of_true rfl ⟨summary, rfl, trivial⟩
  | error e => exact iff_of_false nofun not_okWith_error

theorem error?_eq_some_iff {x : Attempt} {e : DumpError} :
    x.error? = some e ↔ ∃ e', x.result = .error e' ∧ e = .schema x.schema e' := by
  unfold error?
  cases x.result with
  | ok summary => simp
  | error e' => simp [eq_comm]

end Attempt

/-- What a target does: it attempts to dump schemas, and flushes its sink. -/
structure Account where
  attempts : List Attempt
  flushed : Except IoFault Unit

namespace Account

/-- What the attempts do one after another, and the flush. -/
def events (a : Account) : List DumpEvent :=
  a.attempts.flatMap (·.events) ++ [⟨.write .flush, a.flushed⟩]

/-- What the successful attempts wrote. -/
def summaries (a : Account) : List SchemaSummary := a.attempts.filterMap (·.summary?)

/-- The error that ends the target: that of the attempt that failed, or else that of the flush. -/
def error? (a : Account) : Option DumpError :=
  match a.attempts.findSome? (·.error?) with
  | some e => some e
  | none =>
    match a.flushed with
    | .ok () => none
    | .error fault => some (.io fault)

/-- How the target ends. -/
def outcome (a : Account) (index : Nat) : TargetOutcome := ⟨index, a.summaries, a.error?⟩

/-- The account of a target that has these schemas to dump. -/
structure Of (a : Account) (options : DumpOptions) (style : DumpStyle) (schemas : List String) :
    Prop where
  /-- An attempt dumps its schema in a snapshot. -/
  ran : ∀ x ∈ a.attempts, Path (dumpInSnapshot x.schema options style).run x.events x.result
  /-- The schemas are attempted in their order, from the first on. -/
  inOrder : a.attempts.map (·.schema) <+: schemas
  /-- After an attempt that failed there is no other. -/
  stops : a.attempts.Pairwise fun x _ => IsOk x.result
  /-- Without a failure all schemas are attempted. -/
  complete : (∀ x ∈ a.attempts, IsOk x.result) → a.attempts.map (·.schema) = schemas

section Attempts

variable {options : DumpOptions} {style : DumpStyle} {schema : String} {schemas : List String}
  {t : List DumpEvent} (answer : Except IoFault Unit)

theorem of_nil : Of ⟨[], answer⟩ options style [] :=
  ⟨nofun, List.prefix_rfl, .nil, fun _ => rfl⟩

theorem of_failed {e : DumpError}
    (h : Path (dumpInSnapshot schema options style).run t (.error e)) :
    Of ⟨[⟨schema, t, .error e⟩], answer⟩ options style (schema :: schemas) where
  ran := List.forall_mem_singleton.2 h
  inOrder := List.prefix_append [schema] schemas
  stops := List.pairwise_singleton _ _
  complete all := absurd (all _ (List.mem_singleton_self _)) not_okWith_error

variable {answer}

theorem Of.cons {a : Account} (rest : a.Of options style schemas) {summary : SchemaSummary}
    (h : Path (dumpInSnapshot schema options style).run t (.ok summary)) :
    Of ⟨⟨schema, t, .ok summary⟩ :: a.attempts, a.flushed⟩ options style (schema :: schemas) where
  ran := List.forall_mem_cons.2 ⟨h, rest.ran⟩
  inOrder := (List.prefix_cons_inj schema).2 rest.inOrder
  stops := .cons (fun _ _ => ⟨summary, rfl, trivial⟩) rest.stops
  complete all := congrArg (schema :: ·) (rest.complete (List.forall_mem_cons.1 all).2)

end Attempts

end Account

/-- Whatever is answered, a target does what an account of it says. -/
theorem exists_account_of_path {options : DumpOptions} {style : DumpStyle}
    {done : List SchemaSummary} {schemas : List String} {t : List DumpEvent}
    {r : List SchemaSummary × Option DumpError}
    (h : Path (dumpSchemas options style done schemas) t r) :
    ∃ a : Account, a.Of options style schemas ∧ t = a.events ∧
      r = (done ++ a.summaries, a.error?) := by
  induction schemas generalizing done t with
  | nil =>
    obtain ⟨t₁, result, t₂, rfl, flushed, last⟩ := path_bind_iff.1 h
    obtain ⟨answer, rfl, rfl⟩ := path_step_done_iff.1 flushed
    refine ⟨⟨[], answer⟩, Account.of_nil answer, ?_⟩
    cases answer with
    | ok u =>
      obtain ⟨rfl, rfl⟩ := path_done_iff.1 last
      exact ⟨rfl, by rw [Account.summaries, List.filterMap_nil, List.append_nil]; rfl⟩
    | error fault =>
      obtain ⟨rfl, rfl⟩ := path_done_iff.1 last
      exact ⟨rfl, by rw [Account.summaries, List.filterMap_nil, List.append_nil]; rfl⟩
  | cons schema schemas ih =>
    obtain ⟨t₁, result, t₂, rfl, dumped, rest⟩ := path_bind_iff.1 h
    cases result with
    | ok summary =>
      obtain ⟨a, account, rfl, rfl⟩ := ih rest
      refine ⟨_, account.cons dumped, (List.append_assoc _ _ _).symm, ?_⟩
      rw [List.append_assoc]
      rfl
    | error e =>
      obtain ⟨t₃, u, t₄, rfl, flushed, last⟩ := path_bind_iff.1 rest
      obtain ⟨answer, rfl, -⟩ := path_step_done_iff.1 flushed
      obtain ⟨rfl, rfl⟩ := path_done_iff.1 last
      refine ⟨_, Account.of_failed answer dumped, ?_, ?_⟩
      · rw [Account.events, List.flatMap_singleton, List.append_nil]
      · exact congrArg (·, some (DumpError.schema schema e)) (List.append_nil done).symm

/-! ## What an account says -/

theorem only_dumpSchema (schema : String) (options : DumpOptions) (style : DumpStyle) :
    Only (Within (· ≠ .beginSnapshot)) (dumpSchema schema options style).run := by
  have plain {β : Type} {x : Dumping β} (h : Only (Within Call.Plain) x.run) :
      Only (Within (· ≠ .beginSnapshot)) x.run :=
    h.imp fun e within c asked => (within c asked).1
  have objects (found : List SchemaObject) :=
    plain (only_dumpObjects schema found options style)
  rw [dumpSchema_eq]
  refine Only.exceptBind ?_ fun summary => only_complete style summary
  refine Only.exceptBind ?_ fun found => ?_
  · exact (only_prepare schema options style).imp fun e within c asked => (within c asked).1.1
  · unfold dumpFound
    split_ifs
    · rw [dumpLocked_eq]
      refine (only_ask nofun _).exceptBind fun u t r path => ?_
      obtain ⟨t', result, answer, rfl, hx, -⟩ := path_followedBy_iff.1 path
      refine List.forall_mem_append.2 ⟨objects found t' result hx, List.forall_mem_singleton.2 ?_⟩
      rintro c ⟨⟩
      exact nofun
    · exact objects found

/-- A dump begins one snapshot. -/
theorem count_beginSnapshot_of_path {schema : String} {options : DumpOptions} {style : DumpStyle}
    {t : List DumpEvent} {r : Except DumpError SchemaSummary}
    (h : Path (dumpInSnapshot schema options style).run t r) :
    (asked t).count .beginSnapshot = 1 := by
  rw [dumpInSnapshot_eq] at h
  rcases path_exceptBind_iff.1 h with ⟨e, begun, -⟩ | ⟨t₁, u, t₂, rfl, begun, rest⟩
  · obtain ⟨answer, rfl, -⟩ := Dumping.path_ask_iff.1 begun
    rfl
  · obtain ⟨answer, rfl, -⟩ := Dumping.path_ask_iff.1 begun
    obtain ⟨t', result, answer', rfl, dumped, -⟩ := path_followedBy_iff.1 rest
    have none : (asked t').count .beginSnapshot = 0 := List.count_eq_zero.2 fun mem =>
      forall_mem_asked_iff.2 (only_dumpSchema schema options style t' result dumped) _ mem rfl
    rw [asked_append, asked_append, List.count_append, List.count_append, none]
    rfl

theorem schema_of_path_dumpTablesAndStubs {options : DumpOptions} {style : DumpStyle}
    {summary summary' : SchemaSummary} {objects : List SchemaObject} {t : List DumpEvent}
    (h : Path (dumpTablesAndStubs options style summary objects).run t (.ok summary')) :
    summary'.schema = summary.schema := by
  induction objects generalizing summary t with
  | nil =>
    obtain ⟨-, same⟩ := path_exceptPure_iff.1 h
    rw [Except.ok.inj same]
  | cons object objects ih =>
    cases object with
    | table table =>
      obtain ⟨_, stats, _, -, -, rest⟩ := path_exceptBind_ok_iff.1 h
      exact (ih rest).trans rfl
    | view view =>
      obtain ⟨_, u, _, -, -, rest⟩ := path_exceptBind_ok_iff.1 h
      exact (ih rest).trans rfl

theorem schema_of_path_dumpViews {style : DumpStyle} {summary summary' : SchemaSummary}
    {objects : List SchemaObject} {t : List DumpEvent}
    (h : Path (dumpViews style summary objects).run t (.ok summary')) :
    summary'.schema = summary.schema := by
  induction objects generalizing summary t with
  | nil =>
    obtain ⟨-, same⟩ := path_exceptPure_iff.1 h
    rw [Except.ok.inj same]
  | cons object objects ih =>
    cases object with
    | table table => exact ih h
    | view view =>
      obtain ⟨_, u, _, -, -, rest⟩ := path_exceptBind_ok_iff.1 h
      exact (ih rest).trans rfl

theorem schema_of_path_dumpObjects {schema : String} {objects : List SchemaObject}
    {options : DumpOptions} {style : DumpStyle} {t : List DumpEvent} {summary : SchemaSummary}
    (h : Path (dumpObjects schema objects options style).run t (.ok summary)) :
    summary.schema = schema := by
  obtain ⟨_, found, _, -, tables, views⟩ := path_exceptBind_ok_iff.1 h
  rw [schema_of_path_dumpViews views, schema_of_path_dumpTablesAndStubs tables]

/-- A summary bears the name of the schema that was dumped. -/
theorem schema_of_path {schema : String} {options : DumpOptions} {style : DumpStyle}
    {t : List DumpEvent} {summary : SchemaSummary}
    (h : Path (dumpInSnapshot schema options style).run t (.ok summary)) :
    summary.schema = schema := by
  -- the call that follows has no part in the result
  have ended {x : Dumping SchemaSummary} {c : Call} {t : List DumpEvent} {summary : SchemaSummary}
      (h : Path (x.followedBy c).run t (.ok summary)) : ∃ t', Path x.run t' (.ok summary) := by
    obtain ⟨t', result, answer, -, hx, same⟩ := path_followedBy_iff.1 h
    cases result with
    | error e => cases same
    | ok a =>
      cases answer with
      | error fault => cases same
      | ok u =>
        cases same
        exact ⟨t', hx⟩
  rw [dumpInSnapshot_eq] at h
  obtain ⟨_, u, _, -, -, rest⟩ := path_exceptBind_ok_iff.1 h
  obtain ⟨t', dumped⟩ := ended rest
  rw [dumpSchema_eq] at dumped
  obtain ⟨_, found, _, -, dumped, last⟩ := path_exceptBind_ok_iff.1 dumped
  obtain ⟨_, objects, _, -, -, dumped⟩ := path_exceptBind_ok_iff.1 dumped
  have same : summary = found := by
    obtain ⟨_, time, _, -, -, last⟩ := path_exceptBind_ok_iff.1 last
    obtain ⟨_, u, _, -, -, last⟩ := path_exceptBind_ok_iff.1 last
    obtain ⟨_, u, _, -, -, last⟩ := path_exceptBind_ok_iff.1 last
    exact Except.ok.inj (path_exceptPure_iff.1 last).2
  rw [same]
  unfold dumpFound at dumped
  split_ifs at dumped
  · rw [dumpLocked_eq] at dumped
    obtain ⟨_, u, _, -, -, locked⟩ := path_exceptBind_ok_iff.1 dumped
    obtain ⟨_, dumped⟩ := ended locked
    exact schema_of_path_dumpObjects dumped
  · exact schema_of_path_dumpObjects dumped

namespace Account

/-- What the account of a target says of its schemas and of its failure. -/
structure Explains (a : Account) (options : DumpOptions) (schemas : List String) : Prop
    extends a.Of options (.ofCompact options.compact) schemas where
  /-- Snapshots are begun for the schemas that are attempted, and for no others. -/
  begun : (asked a.events).count .beginSnapshot = a.attempts.length
  /-- The error is of a schema if that is the first one, and the last, whose dump failed. -/
  schema_iff : ∀ name e, a.error? = some (.schema name e) ↔ ∃ earlier last,
    a.attempts = earlier ++ [last] ∧ (∀ x ∈ earlier, IsOk x.result) ∧
      last.schema = name ∧ last.result = .error e
  /-- The error is of the sink if all schemas were dumped and only the flush failed. -/
  io_iff : ∀ fault, a.error? = some (.io fault) ↔ a.attempts.map (·.schema) = schemas ∧
    (∀ x ∈ a.attempts, IsOk x.result) ∧ a.flushed = .error fault
  /-- There is no other error. -/
  only : ∀ e, a.error? = some e → (∃ name e', e = .schema name e') ∨ ∃ fault, e = .io fault
  /-- Without an error there is a summary for each schema. -/
  named : a.error? = none → a.summaries.map (·.schema) = schemas

variable {a : Account} {options : DumpOptions} {style : DumpStyle} {schemas : List String}

theorem findSome?_eq_none_iff :
    a.attempts.findSome? (·.error?) = none ↔ ∀ x ∈ a.attempts, IsOk x.result := by
  rw [List.findSome?_eq_none_iff]
  exact forall₂_congr fun x _ => Attempt.error?_eq_none_iff

theorem error?_eq_none_iff :
    a.error? = none ↔ (∀ x ∈ a.attempts, IsOk x.result) ∧ a.flushed = .ok () := by
  rw [← findSome?_eq_none_iff]
  unfold error?
  cases a.attempts.findSome? (·.error?) with
  | some e => simp
  | none => cases a.flushed <;> simp

theorem error?_eq_io_iff {fault : IoFault} : a.error? = some (.io fault) ↔
    (∀ x ∈ a.attempts, IsOk x.result) ∧ a.flushed = .error fault := by
  rw [← findSome?_eq_none_iff]
  unfold error?
  cases found : a.attempts.findSome? (·.error?) with
  | some e =>
    obtain ⟨x, -, failed⟩ := List.exists_of_findSome?_eq_some found
    obtain ⟨e', -, rfl⟩ := Attempt.error?_eq_some_iff.1 failed
    simp
  | none => cases a.flushed <;> simp

theorem error?_eq_schema_iff {name : String} {e : DumpError} :
    a.error? = some (.schema name e) ↔
      a.attempts.findSome? (·.error?) = some (.schema name e) := by
  unfold error?
  cases a.attempts.findSome? (·.error?) with
  | some e => simp
  | none => cases a.flushed <;> simp

theorem Of.count_beginSnapshot (h : a.Of options style schemas) :
    (asked a.events).count .beginSnapshot = a.attempts.length := by
  obtain ⟨attempts, flushed⟩ := a
  have ran := h.ran
  have each : (asked (attempts.flatMap (·.events))).count .beginSnapshot = attempts.length := by
    clear h
    induction attempts with
    | nil => rfl
    | cons x attempts ih =>
      obtain ⟨first, rest⟩ := List.forall_mem_cons.1 ran
      rw [List.flatMap_cons, asked_append, List.count_append, ih rest,
        count_beginSnapshot_of_path first, List.length_cons, Nat.add_comm]
  rw [events, asked_append, List.count_append, each]
  rfl

theorem Of.findSome?_eq_some_iff (h : a.Of options style schemas) {e : DumpError} :
    a.attempts.findSome? (·.error?) = some e ↔ ∃ earlier last, a.attempts = earlier ++ [last] ∧
      (∀ x ∈ earlier, IsOk x.result) ∧ last.error? = some e := by
  rw [List.findSome?_eq_some_iff]
  constructor
  · rintro ⟨earlier, last, later, parts, failed, fine⟩
    have stops := h.stops
    rw [parts, List.pairwise_append, List.pairwise_cons] at stops
    have none : later = [] := by
      rw [List.eq_nil_iff_forall_not_mem]
      intro x hx
      rw [Attempt.error?_eq_none_iff.2 (stops.2.1.1 x hx)] at failed
      cases failed
    rw [none] at parts
    exact ⟨earlier, last, parts, fun x hx => Attempt.error?_eq_none_iff.1 (fine x hx), failed⟩
  · rintro ⟨earlier, last, parts, fine, failed⟩
    exact ⟨earlier, last, [], parts, failed, fun x hx => Attempt.error?_eq_none_iff.2 (fine x hx)⟩

theorem Of.map_schema_summaries (h : a.Of options style schemas) (none : a.error? = none) :
    a.summaries.map (·.schema) = schemas := by
  have fine := (error?_eq_none_iff.1 none).1
  rw [← h.complete fine]
  obtain ⟨attempts, flushed⟩ := a
  have ran := h.ran
  clear h none
  unfold summaries
  dsimp only at fine ran ⊢
  induction attempts with
  | nil => rfl
  | cons x attempts ih =>
    obtain ⟨⟨summary, same, -⟩, fine⟩ := List.forall_mem_cons.1 fine
    obtain ⟨first, ran⟩ := List.forall_mem_cons.1 ran
    rw [same] at first
    have head : x.summary? = some summary := congrArg Except.toOption same
    rw [List.filterMap_cons_some head, List.map_cons, List.map_cons, ih fine ran,
      schema_of_path first]

theorem Of.explains (h : a.Of options (.ofCompact options.compact) schemas) :
    a.Explains options schemas where
  toOf := h
  begun := h.count_beginSnapshot
  schema_iff name e := by
    rw [error?_eq_schema_iff, h.findSome?_eq_some_iff]
    refine exists₂_congr fun earlier last => and_congr_right fun _ => and_congr_right fun _ => ?_
    rw [Attempt.error?_eq_some_iff]
    constructor
    · rintro ⟨e', failed, same⟩
      obtain ⟨rfl, rfl⟩ := DumpError.schema.inj same
      exact ⟨rfl, failed⟩
    · rintro ⟨rfl, failed⟩
      exact ⟨e, failed, rfl⟩
  io_iff fault := by
    rw [error?_eq_io_iff]
    exact ⟨fun ⟨fine, failed⟩ => ⟨h.complete fine, fine, failed⟩, fun ⟨_, fine, failed⟩ =>
      ⟨fine, failed⟩⟩
  only e failed := by
    unfold error? at failed
    cases found : a.attempts.findSome? (·.error?) with
    | some e' =>
      obtain ⟨x, -, own⟩ := List.exists_of_findSome?_eq_some found
      obtain ⟨e'', -, rfl⟩ := Attempt.error?_eq_some_iff.1 own
      rw [found] at failed
      exact .inl ⟨_, _, (Option.some.inj failed).symm⟩
    | none =>
      rw [found] at failed
      cases flushed : a.flushed with
      | ok u =>
        rw [flushed] at failed
        cases failed
      | error fault =>
        rw [flushed] at failed
        exact .inr ⟨fault, (Option.some.inj failed).symm⟩
  named := h.map_schema_summaries

end Account

/-! ## What accounts say of a run -/

/-- The outcomes of targets with these accounts, the first of which has the number `first`. -/
def outcomes (first : Nat) (accounts : List Account) : List TargetOutcome :=
  (accounts.zipIdx first).map fun (a, i) => a.outcome i

theorem outcomes_cons (first : Nat) (a : Account) (accounts : List Account) :
    outcomes first (a :: accounts) = a.outcome first :: outcomes (first + 1) accounts := rfl

theorem index_outcomes (first : Nat) (accounts : List Account) :
    (outcomes first accounts).map (·.index) = List.range' first accounts.length := by
  rw [outcomes, List.map_map]
  exact List.zipIdx_map_snd first accounts

theorem collect_outcomes (total : Nat) (accounts : List Account) :
    collect total (outcomes 0 accounts) =
      if (accounts.filterMap (·.error?)).isEmpty then .ok ⟨accounts.flatMap (·.summaries)⟩
      else .error (.aggregate total (accounts.filterMap (·.error?))) := by
  have parts {β : Type} (f : Account → β) :
      (accounts.zipIdx 0).map (fun p => f p.1) = accounts.map f := by
    rw [← Function.comp_def, ← List.map_map, List.zipIdx_map_fst]
  have errors : (outcomes 0 accounts).filterMap (·.error) = accounts.filterMap (·.error?) := by
    rw [outcomes, List.filterMap_map]
    have := congrArg (List.filterMap id) (parts (·.error?))
    rwa [List.filterMap_map, List.filterMap_map] at this
  have summaries : (outcomes 0 accounts).flatMap (·.schemas) = accounts.flatMap (·.summaries) := by
    rw [outcomes, List.flatMap_map]
    exact congrArg List.flatten (parts (·.summaries))
  rw [collect_of_index total (index_outcomes 0 accounts), errors, summaries]

/-- The result of a run whose targets have these accounts. -/
structure Reported (targets : List (Target ω)) (accounts : List Account)
    (result : Except DumpError DumpSummary) : Prop where
  /-- A run is successful exactly if no target failed. -/
  ok_iff : IsOk result ↔ ∀ a ∈ accounts, a.error? = none
  /-- It has a summary of each schema then, in the order of the targets and of their schemas. -/
  summaries : ∀ summary, result = .ok summary →
    summary.schemas = accounts.flatMap (·.summaries) ∧
      summary.schemas.map (·.schema) = targets.flatMap (·.schemas)
  /-- Else it has the error of each target that failed, in the order of the targets. -/
  errors : ∀ e, result = .error e →
    e = .aggregate targets.length (accounts.filterMap (·.error?))

section Reported

variable {options : DumpOptions} {targets : List (Target ω)} {accounts : List Account}

theorem map_schema_summaries
    (each : List.Forall₂ (fun target a => a.Explains options target.schemas) targets accounts)
    (none : ∀ a ∈ accounts, a.error? = none) :
    (accounts.flatMap (·.summaries)).map (·.schema) = targets.flatMap (·.schemas) := by
  induction each with
  | nil => rfl
  | cons explains _ ih =>
    obtain ⟨first, rest⟩ := List.forall_mem_cons.1 none
    rw [List.flatMap_cons, List.map_append, List.flatMap_cons, explains.named first, ih rest]

theorem reported_collect
    (each : List.Forall₂ (fun target a => a.Explains options target.schemas) targets accounts) :
    Reported targets accounts (collect targets.length (outcomes 0 accounts)) := by
  rw [collect_outcomes]
  by_cases none : ∀ a ∈ accounts, a.error? = none
  · rw [List.filterMap_eq_nil_iff.2 none]
    refine ⟨iff_of_true ⟨_, rfl, trivial⟩ none, ?_, nofun⟩
    rintro summary ⟨⟩
    exact ⟨rfl, map_schema_summaries each none⟩
  · rw [if_neg fun empty => none (List.filterMap_eq_nil_iff.1 (List.isEmpty_iff.1 empty))]
    refine ⟨iff_of_false not_okWith_error none, nofun, ?_⟩
    rintro e ⟨⟩
    rfl

theorem collect_perm_outcomes (total : Nat) {ended : List TargetOutcome}
    (perm : ended.Perm (outcomes 0 accounts)) :
    collect total ended = collect total (outcomes 0 accounts) := by
  refine collect_perm total perm ?_
  rw [index_outcomes]
  exact List.nodup_range'

end Reported

/-! ## Targets one after another -/

section Runs

variable (server : Server σ) (sink : Sink ω) (clock : DateTime) (options : DumpOptions)

/-- What happens in each of several targets. -/
def targetTraces : List (Target ω) → σ → List (List DumpEvent)
  | [], _ => []
  | target :: rest, s =>
    targetTrace server sink clock options target s ::
      targetTraces rest (runTarget server sink clock options 0 target s).2.2

theorem runTarget_logged (index : Nat) (target : Target ω) (s : σ) (log : List Call) :
    runTarget server.logged sink clock options index target (s, log) =
      let ended := runTarget server sink clock options index target s
      (ended.1, ended.2.1, ended.2.2,
        log ++ asked (targetTrace server sink clock options target s)) :=
  congrArg (fun e => ((⟨index, e.1.1, e.1.2⟩ : TargetOutcome), e.2.2.close sink, e.2.1))
    ((targetWorld server sink clock).run_logged (targetProgram options target) s log
      { inner := target.sink })

theorem runTargets_logged (first : Nat) (targets : List (Target ω)) (s : σ) (log : List Call) :
    runTargets server.logged sink clock options first targets (s, log) =
      let ended := runTargets server sink clock options first targets s
      (ended.1, ended.2.1, ended.2.2,
        log ++ (targetTraces server sink clock options targets s).flatMap asked) := by
  induction targets generalizing first s log with
  | nil =>
    rw [targetTraces, List.flatMap_nil, List.append_nil]
    rfl
  | cons target targets ih =>
    rw [targetTraces, List.flatMap_cons, ← List.append_assoc]
    unfold runTargets
    rw [runTarget_logged]
    dsimp only
    rw [ih]
    rfl

theorem exists_account (index : Nat) (target : Target ω) (s : σ) :
    ∃ a : Account, a.Explains options target.schemas ∧
      targetTrace server sink clock options target s = a.events ∧
      (runTarget server sink clock options index target s).1 = a.outcome index := by
  obtain ⟨a, account, events, ends⟩ := exists_account_of_path
    (path_trace (targetWorld server sink clock).answer (targetProgram options target)
      (s, { inner := target.sink }))
  exact ⟨a, account.explains, events,
    congrArg (fun e : _ × _ => (⟨index, e.1, e.2⟩ : TargetOutcome)) ends⟩

theorem exists_accounts (first : Nat) (targets : List (Target ω)) (s : σ) :
    ∃ accounts : List Account,
      List.Forall₂ (fun target a => a.Explains options target.schemas) targets accounts ∧
      targetTraces server sink clock options targets s = accounts.map (·.events) ∧
      (runTargets server sink clock options first targets s).1 = outcomes first accounts := by
  induction targets generalizing first s with
  | nil => exact ⟨[], .nil, rfl, rfl⟩
  | cons target targets ih =>
    obtain ⟨a, explains, events, outcome⟩ :=
      exists_account server sink clock options first target s
    obtain ⟨accounts, each, traces, ends⟩ :=
      ih (first + 1) (runTarget server sink clock options first target s).2.2
    refine ⟨a :: accounts, .cons explains each, congrArg₂ List.cons events traces, ?_⟩
    rw [outcomes_cons, ← ends, ← outcome]
    rfl

end Runs

/-! ## Targets in turn -/

/-- What a worker has done that came to its end. -/
structure Done (connector : Connector σ) (writer : Writer (Sink.Buffered ω)) (clock : DateTime)
    (options : DumpOptions) (s : σ) (calls : List (Nat × Call)) (index : Nat) (target : Target ω)
    (a : Account) (v : Worker (List SchemaSummary × Option DumpError) (Sink.Buffered ω)) :
    Prop where
  program : v.program = .done (a.summaries, a.error?)
  ran : Ran writer clock (targetProgram options target) { inner := target.sink } a.events v.program
    v.writer
  /-- The calls are answered as they are among those of the others. -/
  answered : exchanges a.events = entriesOf index (connector.answers calls s)

theorem exists_accounts_interleave (connector : Connector σ) (sink : Sink ω) (clock : DateTime)
    (options : DumpOptions) (targets : List (Target ω)) (s : σ) (schedule : List Nat) :
    let final := connector.logged.interleave (sink.buffered bufferCapacity) clock schedule
      ((s, []), workers options targets)
    (∀ v ∈ final.2, ∃ r, v.program = .done r) →
    ∃ accounts : List Account,
      List.Forall₂ (fun target a => a.Explains options target.schemas) targets accounts ∧
      ∀ i target a, targets[i]? = some target → accounts[i]? = some a → ∃ v, final.2[i]? = some v ∧
        Done connector (sink.buffered bufferCapacity) clock options s final.1.2 i target a v := by
  intro final ended
  obtain ⟨calls, state, advanced⟩ := connector.logged.exists_advanced_interleave
    (sink.buffered bufferCapacity) clock schedule (s, []) (workers options targets)
  have log : final.1.2 = calls := by
    rw [connector.after_logged] at state
    exact congrArg Prod.snd state
  have each (i : Fin targets.length) : ∃ a : Account, a.Explains options targets[i].schemas ∧
      ∃ v, final.2[i.1]? = some v ∧ Done connector (sink.buffered bufferCapacity) clock options s
        final.1.2 i targets[i] a v := by
    have start : (workers options targets)[i.1]? =
        some ⟨targetProgram options targets[i], { inner := targets[i].sink }⟩ := by
      rw [workers, List.getElem?_map, List.getElem?_eq_getElem i.2]
      rfl
    obtain ⟨v, hv, t, ran, told, -⟩ := advanced i _ start
    obtain ⟨r, finished⟩ := ended v (List.mem_of_getElem? hv)
    obtain ⟨a, account, rfl, rfl⟩ := exists_account_of_path (finished ▸ ran).path
    rw [List.nil_append] at finished
    rw [connector.answers_logged, ← log] at told
    exact ⟨a, account.explains, v, hv, finished, ran, told⟩
  choose a explains done using each
  refine ⟨List.ofFn a, List.forall₂_iff_get.2 ⟨List.length_ofFn.symm, fun i h h' => ?_⟩, ?_⟩
  · rw [List.get_eq_getElem, List.get_eq_getElem, List.getElem_ofFn]
    exact explains ⟨i, h⟩
  · intro i target b found account
    obtain ⟨h, rfl⟩ := List.getElem?_eq_some_iff.1 found
    obtain ⟨h', rfl⟩ := List.getElem?_eq_some_iff.1 account
    rw [List.getElem_ofFn]
    exact done ⟨i, h⟩

/-! ## The result of a run -/

/-- Whatever the server and the sinks answer, and in whatever order the targets come to their ends,
a run reports of each target what its account says: the first schema that failed, or else that its
sink could not be flushed, or else the summaries of all its schemas. -/
theorem run_accounts_for_failures {options : DumpOptions} {targets : List (Target ω)}
    (sink : Sink ω) (clock : DateTime) (valid : validateRun options targets = .ok ()) :
    (∀ (σ : Type) (server : Server σ) (s : σ),
      let whole := run server sink clock options targets s
      let noted := run server.logged sink clock options targets (s, [])
      ∃ accounts : List Account,
        List.Forall₂ (fun target a => a.Explains options target.schemas) targets accounts ∧
        accounts.map (·.events) = targetTraces server sink clock options targets s ∧
        noted.server.2 = accounts.flatMap (fun a => asked a.events) ∧
        noted.result = whole.result ∧
        ∀ ended, ended.Perm (outcomes 0 accounts) →
          collect targets.length ended = whole.result ∧
          Reported targets accounts (collect targets.length ended)) ∧
    ∀ (σ : Type) (connector : Connector σ) (s : σ) (schedule : List Nat),
      let final := connector.logged.interleave (sink.buffered bufferCapacity) clock schedule
        ((s, []), workers options targets)
      (∀ v ∈ final.2, ∃ r, v.program = .done r) →
      ∃ accounts : List Account,
        List.Forall₂ (fun target a => a.Explains options target.schemas) targets accounts ∧
        (∀ i target a, targets[i]? = some target → accounts[i]? = some a →
          ∃ v, final.2[i]? = some v ∧ Done connector (sink.buffered bufferCapacity) clock options s
            final.1.2 i target a v) ∧
        ∀ ended, ended.Perm (outcomes 0 accounts) →
          collect targets.length ended = collect targets.length (outcomes 0 accounts) ∧
          Reported targets accounts (collect targets.length ended) := by
  constructor
  · intro σ server s whole noted
    obtain ⟨accounts, each, traces, ends⟩ := exists_accounts server sink clock options 0 targets s
    have result : whole.result = collect targets.length (outcomes 0 accounts) := by
      rw [← ends]
      exact (run_of_valid server sink clock s valid).1
    have same : noted.result = whole.result := by
      rw [(run_of_valid server.logged sink clock (s, []) valid).1, runTargets_logged,
        (run_of_valid server sink clock s valid).1]
    have log : noted.server.2 = accounts.flatMap (fun a => asked a.events) := by
      have state : noted.server =
          (runTargets server.logged sink clock options 0 targets (s, [])).2.2 := by
        simp only [noted, run, valid]
      rw [state, runTargets_logged, traces]
      exact (List.nil_append _).trans (List.flatMap_map _ _ _)
    refine ⟨accounts, each, traces.symm, log, same, fun ended perm => ?_⟩
    rw [collect_perm_outcomes _ perm]
    exact ⟨result.symm, reported_collect each⟩
  · intro σ connector s schedule final ended
    obtain ⟨accounts, each, done⟩ :=
      exists_accounts_interleave connector sink clock options targets s schedule ended
    refine ⟨accounts, each, done, fun ended perm => ?_⟩
    rw [collect_perm_outcomes _ perm]
    exact ⟨rfl, reported_collect each⟩

/-- A server that refuses all calls fails the first target at its first schema, and a sink that
refuses to be flushed fails the second, which has no schemas. -/
theorem run_accounts_for_refusals :
    let refusing : Server Unit := fun _ s => (.error (.connection "refused"), s)
    let targets : List (Target Medium) := [⟨["shop", "crm"], {}⟩, ⟨[], { refusesFlush := true }⟩]
    validateRun {} targets = .ok () ∧ ∃ accounts : List Account,
      List.Forall₂ (fun target a => a.Explains {} target.schemas) targets accounts ∧
      accounts.map (fun a => (asked a.events).count .beginSnapshot) = [1, 0] ∧
      accounts.filterMap (·.error?) =
        [.schema "shop" (.fault (.connection "refused")), .io ⟨.other, "flush refused"⟩] ∧
      (run refusing Medium.sink DateTime.epoch {} targets ()).result =
        .error (.aggregate 2 (accounts.filterMap (·.error?))) := by
  intro refusing targets
  have valid : validateRun {} targets = .ok () := rfl
  obtain ⟨alone, -⟩ := run_accounts_for_failures Medium.sink DateTime.epoch valid
  obtain ⟨accounts, each, traces, -, -, reported⟩ := alone Unit refusing ()
  obtain ⟨same, report⟩ := reported _ (.refl _)
  rw [same] at report
  have failed : (run refusing Medium.sink DateTime.epoch {} targets ()).result =
      .error (.aggregate 2
        [.schema "shop" (.fault (.connection "refused")), .io ⟨.other, "flush refused"⟩]) := by
    rw [(run_of_valid refusing Medium.sink DateTime.epoch () valid).1,
      collect_of_index _ (index_runTargets refusing Medium.sink DateTime.epoch {} targets () 0)]
    with_unfolding_all rfl
  have errors := (DumpError.aggregate.inj (report.errors _ failed)).2
  have counts := congrArg (List.map fun t => (asked t).count .beginSnapshot) traces
  rw [List.map_map] at counts
  refine ⟨valid, accounts, each, ?_, errors.symm, ?_⟩
  · exact counts.trans (by decide +kernel)
  · rw [failed, ← errors]

end Dump

end LogicalBackup
