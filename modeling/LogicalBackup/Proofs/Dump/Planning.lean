import LogicalBackup.Proofs.Dump.Accounting
import Mathlib.Algebra.GroupWithZero.Nat

/-!
# Plans

A plan gives each sink its target and each schema of the request its place in one of them
(`Partition`).  A request that cannot be planned or run is refused before a snapshot is begun and
before a sink is touched, whichever of the checks it fails (`dump_plans_before_it_begins`).
-/

namespace LogicalBackup

open Program DumpEvent

namespace Dump

variable {σ ω : Type}

/-! ## Names -/

/-- Names that can be quoted: not empty, and without a NUL character. -/
def GoodName (name : String) : Prop := name ≠ "" ∧ Char.ofNat 0 ∉ name.toList

instance (name : String) : Decidable (GoodName name) := inferInstanceAs (Decidable (_ ∧ _))

/-- Names that are the same but for the case of their ASCII letters. -/
def SameButCase (a b : String) : Prop := a.toList.map Char.toLower = b.toList.map Char.toLower

instance (a b : String) : Decidable (SameButCase a b) := inferInstanceAs (Decidable (_ = _))

theorem schemaNameFault?_eq_none_iff {name : String} :
    schemaNameFault? name = none ↔ GoodName name := by
  unfold schemaNameFault? GoodName
  split_ifs with empty nul
  · refine iff_of_false nofun fun good => good.1 ?_
    exact String.isEmpty_iff.1 empty
  · refine iff_of_false nofun fun good => good.2 ?_
    exact List.contains_iff_mem.1 nul
  · exact iff_of_true rfl ⟨fun h => empty (String.isEmpty_iff.2 h),
      fun h => nul (List.contains_iff_mem.2 h)⟩

theorem validateSchemaNames_eq_ok_iff {names : List String} :
    validateSchemaNames names = .ok () ↔ ∀ name ∈ names, GoodName name := by
  unfold validateSchemaNames
  cases found : names.findSome? schemaNameFault? with
  | none =>
    rw [List.findSome?_eq_none_iff] at found
    exact iff_of_true rfl fun name h => schemaNameFault?_eq_none_iff.1 (found name h)
  | some e =>
    obtain ⟨name, h, bad⟩ := List.exists_of_findSome?_eq_some found
    refine iff_of_false nofun fun good => ?_
    rw [schemaNameFault?_eq_none_iff.2 (good name h)] at bad
    cases bad

theorem isSystemSchema_iff {name : String} :
    isSystemSchema name = true ↔ ∃ s ∈ systemSchemas, SameButCase s name := by
  have lower : ∀ s ∈ systemSchemas, s.toList.map Char.toLower = s.toList := by decide
  unfold isSystemSchema SameButCase
  rw [List.any_eq_true]
  refine exists_congr fun s => and_congr_right fun h => ?_
  rw [lower s h, beq_iff_eq]

/-- The schemas that a request comes down to: those that it names, or else all that the server lists
and that are not the system's. -/
def effective (listed : Except Fault (List String)) (requested : List String) :
    Except Fault (List String) :=
  if requested = [] then
    listed.map (·.filter fun name => ∀ s ∈ systemSchemas, ¬SameButCase s name)
  else .ok requested

example : effective (.ok ["MySQL", "shop", "SYS"]) [] = .ok ["shop"] := by decide

theorem filter_isSystemSchema (names : List String) :
    names.filter (!isSystemSchema ·) =
      names.filter fun name => ∀ s ∈ systemSchemas, ¬SameButCase s name := by
  refine List.filter_congr fun name _ => ?_
  rw [Bool.eq_iff_iff, Bool.not_eq_true', Bool.eq_false_iff, decide_eq_true_iff, ne_eq,
    isSystemSchema_iff]
  push Not
  rfl

/-! ## Targets -/

/-- How targets share sinks and schemas. -/
structure Partition (sinks : List ω) (schemas : List String) (targets : List (Target ω)) :
    Prop where
  map_sink : targets.map (·.sink) = sinks
  flatMap_schemas : targets.flatMap (·.schemas) = schemas
  /-- A schema is in the targets as often as in the request. -/
  count : ∀ name, (targets.map fun target => target.schemas.count name).sum = schemas.count name

theorem partition_of_flatMap {sinks : List ω} {schemas : List String} {targets : List (Target ω)}
    (h : targets.map (·.sink) = sinks) (h' : targets.flatMap (·.schemas) = schemas) :
    Partition sinks schemas targets := by
  refine ⟨h, h', fun name => ?_⟩
  rw [← h', List.count_flatMap]
  rfl

theorem isOk_pair_iff (schemas : List String) (sinks : List ω) :
    IsOk (pair schemas sinks) ↔ sinks.length = 1 ∨ sinks.length = schemas.length := by
  unfold pair
  split
  · exact iff_of_true ⟨_, rfl, trivial⟩ (.inl rfl)
  · rename_i several
    have several : sinks.length ≠ 1 := fun one =>
      let ⟨sink, same⟩ := List.length_eq_one_iff.1 one
      several sink same
    split_ifs with same
    · exact iff_of_true ⟨_, rfl, trivial⟩ (.inr same)
    · exact iff_of_false not_okWith_error (not_or.2 ⟨several, same⟩)

theorem partition_zipWith {schemas : List String} {sinks : List ω}
    (same : sinks.length = schemas.length) :
    Partition sinks schemas (schemas.zipWith (fun schema sink => ⟨[schema], sink⟩) sinks) := by
  refine partition_of_flatMap ?_ ?_
  · rw [List.map_zipWith]
    induction schemas generalizing sinks with
    | nil => exact (List.length_eq_zero_iff.1 same).symm
    | cons schema schemas ih =>
      cases sinks with
      | nil => cases same
      | cons sink sinks => exact congrArg (sink :: ·) (ih (Nat.succ.inj same))
  · induction schemas generalizing sinks with
    | nil => rfl
    | cons schema schemas ih =>
      cases sinks with
      | nil => cases same
      | cons sink sinks => exact congrArg (schema :: ·) (ih (Nat.succ.inj same))

theorem partition_of_pair {schemas : List String} {sinks : List ω} {targets : List (Target ω)}
    (h : pair schemas sinks = .ok targets) : Partition sinks schemas targets := by
  unfold pair at h
  split at h
  · cases h
    exact partition_of_flatMap rfl (List.append_nil _)
  · split_ifs at h with same
    cases h
    exact partition_zipWith same

/-! ## What a plan asks -/

/-- The calls of a plan: the schemas are listed if the request names none. -/
def planCalls (requested : List String) (sinks : List ω) : List Call :=
  if sinks = [] then [] else if requested = [] then [.listSchemas] else []

section Plan

variable (requested : List String) (sinks : List ω) (server : Server σ) (s : σ)

theorem run_listUserSchemas :
    Program.run server listUserSchemas.run s =
      ((effective (server .listSchemas s).1 []).mapError .fault, (server .listSchemas s).2) := by
  have asked : Program.run server (Asking.ask .listSchemas .fault).run s =
      ((server .listSchemas s).1.mapError .fault, (server .listSchemas s).2) := rfl
  unfold listUserSchemas
  rw [ExceptT.run_bind, Program.run_bind, asked]
  generalize server .listSchemas s = listed
  obtain ⟨fault | names, s'⟩ := listed
  · rfl
  · exact congrArg (fun names => (Except.ok names, s')) (filter_isSystemSchema names)

/-- What a plan comes to: a refusal before the server is asked, or what comes of the schemas. -/
theorem run_plan :
    Program.run server (plan requested sinks).run s =
      if sinks = [] then (.error (.configuration "at least one sink is required"), s)
      else match validateSchemaNames requested with
        | .error e => (.error e, s)
        | .ok () =>
          ((effective (server .listSchemas s).1 requested).mapError .fault >>= (pair · sinks),
            if requested = [] then (server .listSchemas s).2 else s) := by
  cases sinks with
  | nil => rfl
  | cons sink sinks =>
    unfold plan
    simp only [List.isEmpty_cons, Bool.false_eq_true, if_false, reduceCtorEq]
    cases validateSchemaNames requested with
    | error e => rfl
    | ok u =>
      cases requested with
      | nil =>
        change Program.run server (listUserSchemas >>= fun schemas =>
          ExceptT.mk (pure (pair schemas (sink :: sinks)))).run s = _
        rw [ExceptT.run_bind, Program.run_bind, run_listUserSchemas]
        cases effective (server .listSchemas s).1 [] with
        | error fault => rfl
        | ok names => rfl
      | cons name requested => rfl

/-- A plan makes no other calls than `planCalls`. -/
theorem run_plan_logged (log : List Call) :
    Program.run server.logged (plan requested sinks).run (s, log) =
      let planned := Program.run server (plan requested sinks).run s
      (planned.1, planned.2, log ++ planCalls requested sinks) := by
  rw [run_plan, run_plan]
  unfold planCalls
  by_cases none : sinks = []
  · simp only [none, if_true, List.append_nil]
  · by_cases all : requested = []
    · subst all
      simp only [none, if_false, if_true]
      rfl
    · simp only [none, all, if_false, List.append_nil]
      cases validateSchemaNames requested <;> rfl

theorem isOk_plan_iff :
    IsOk (Program.run server (plan requested sinks).run s).1 ↔
      sinks ≠ [] ∧ (∀ name ∈ requested, GoodName name) ∧
        OkWith (fun names => sinks.length = 1 ∨ sinks.length = names.length)
          (effective (server .listSchemas s).1 requested) := by
  rw [run_plan, ← validateSchemaNames_eq_ok_iff]
  by_cases none : sinks = []
  · rw [if_pos none]
    exact iff_of_false not_okWith_error fun h => h.1 none
  · rw [if_neg none]
    cases validateSchemaNames requested with
    | error e => exact iff_of_false not_okWith_error nofun
    | ok u =>
      refine Iff.trans ?_ ((and_iff_right none).trans (and_iff_right rfl)).symm
      cases effective (server .listSchemas s).1 requested with
      | error fault => exact iff_of_false not_okWith_error not_okWith_error
      | ok names =>
        rw [okWith_ok_iff]
        exact isOk_pair_iff names sinks

end Plan

/-! ## Refusals -/

/-- A result that the targets of a run do not report. -/
def Refused (result : Except DumpError DumpSummary) : Prop :=
  ¬IsOk result ∧ ∀ total errors, result ≠ .error (.aggregate total errors)

theorem not_refused_collect (total : Nat) (outcomes : List TargetOutcome) :
    ¬Refused (collect total outcomes) := by
  unfold collect
  dsimp only
  split_ifs with none
  · exact fun refused => refused.1 ⟨_, rfl, trivial⟩
  · exact fun refused => refused.2 total _ rfl

theorem refused_configuration (text : String) : Refused (.error (.configuration text)) :=
  ⟨not_okWith_error, nofun⟩

theorem refused_fault (fault : Fault) : Refused (.error (.fault fault)) :=
  ⟨not_okWith_error, nofun⟩

theorem refused_of_validateSchemaNames {names : List String} {e : DumpError}
    (h : validateSchemaNames names = .error e) : Refused (.error e) := by
  unfold validateSchemaNames at h
  cases found : names.findSome? schemaNameFault? with
  | none =>
    rw [found] at h
    cases h
  | some e' =>
    obtain ⟨name, -, bad⟩ := List.exists_of_findSome?_eq_some found
    rw [found] at h
    obtain rfl := Except.error.inj h
    unfold schemaNameFault? at bad
    split_ifs at bad
    · cases bad
      exact refused_configuration _
    · cases bad
      exact refused_configuration _

theorem refused_of_pair {schemas : List String} {sinks : List ω} {e : DumpError}
    (h : pair schemas sinks = .error e) : Refused (.error e) := by
  unfold pair at h
  split at h
  · cases h
  · split_ifs at h
    cases h
    exact refused_configuration _

section Plan

variable (requested : List String) (sinks : List ω) (server : Server σ) (s : σ)

/-- A plan is refused, or pairs the effective schemas with the sinks. -/
theorem plan_cases :
    let planned := (Program.run server (plan requested sinks).run s).1
    (∃ e, planned = .error e ∧ Refused (.error e)) ∨
      ∃ names, effective (server .listSchemas s).1 requested = .ok names ∧
        planned = pair names sinks := by
  rw [run_plan]
  by_cases none : sinks = []
  · rw [if_pos none]
    exact .inl ⟨_, rfl, refused_configuration _⟩
  · rw [if_neg none]
    cases valid : validateSchemaNames requested with
    | error e => exact .inl ⟨e, rfl, refused_of_validateSchemaNames valid⟩
    | ok u =>
      cases effective (server .listSchemas s).1 requested with
      | error fault => exact .inl ⟨_, rfl, refused_fault fault⟩
      | ok names => exact .inr ⟨names, rfl, rfl⟩

variable {requested sinks server s}

theorem partition_of_plan {targets : List (Target ω)}
    (h : (Program.run server (plan requested sinks).run s).1 = .ok targets) :
    ∃ names, effective (server .listSchemas s).1 requested = .ok names ∧
      Partition sinks names targets := by
  rcases plan_cases requested sinks server s with ⟨e, failed, -⟩ | ⟨names, found, paired⟩
  · cases h.symm.trans failed
  · exact ⟨names, found, partition_of_pair (paired.symm.trans h)⟩

theorem refused_of_plan {e : DumpError}
    (h : (Program.run server (plan requested sinks).run s).1 = .error e) : Refused (.error e) := by
  rcases plan_cases requested sinks server s with ⟨e', failed, refused⟩ | ⟨names, -, paired⟩
  · rwa [Except.error.inj (h.symm.trans failed)]
  · exact refused_of_pair (paired.symm.trans h)

end Plan

theorem refused_of_validateRun {options : DumpOptions} {targets : List (Target ω)} {e : DumpError}
    (h : validateRun options targets = .error e) : Refused (.error e) := by
  unfold validateRun at h
  cases validated : options.validate with
  | error fault =>
    rw [validated] at h
    cases h
    exact refused_fault fault
  | ok u =>
    rw [validated] at h
    exact refused_of_validateSchemaNames h

section Dump

variable (server : Server σ) (sink : Sink ω) (clock : DateTime) (options : DumpOptions)
  (requested : List String) (sinks : List ω) (s : σ)

/-- A dump is refused once it is planned, or it runs the targets of its plan. -/
theorem dump_cases :
    let planned := (Program.run server (plan requested sinks).run s).1
    let dumped := dump server.logged sink clock options requested sinks (s, [])
    Refused dumped.result ∧ dumped.sinks = sinks ∧
        (dumped.server.2 = [] ∨ dumped.server.2 = planCalls requested sinks) ∨
      ∃ targets s', planned = .ok targets ∧ validateRun options targets = .ok () ∧
        dumped = run server.logged sink clock options targets (s', planCalls requested sinks) := by
  intro planned dumped
  have dumped_eq : dumped = dump server.logged sink clock options requested sinks (s, []) := rfl
  unfold dump at dumped_eq
  cases validated : options.validate with
  | error fault =>
    rw [validated] at dumped_eq
    rw [dumped_eq]
    exact .inl ⟨refused_fault fault, rfl, .inl rfl⟩
  | ok u =>
    rw [validated, run_plan_logged] at dumped_eq
    dsimp only at dumped_eq
    cases plans : (Program.run server (plan requested sinks).run s).1 with
    | error e =>
      rw [plans] at dumped_eq
      rw [dumped_eq]
      exact .inl ⟨refused_of_plan plans, rfl, .inr rfl⟩
    | ok targets =>
      rw [plans] at dumped_eq
      dsimp only at dumped_eq
      cases valid : validateRun options targets with
      | error e =>
        obtain ⟨names, -, partition⟩ := partition_of_plan plans
        rw [dumped_eq, run, valid]
        exact .inl ⟨refused_of_validateRun valid, partition.map_sink, .inr rfl⟩
      | ok u => exact .inr ⟨targets, _, plans, valid, dumped_eq⟩

variable {options requested sinks} in
/-- With good names and as many sinks as are needed, a dump runs its targets. -/
theorem dump_of_valid {targets : List (Target ω)} (validated : options.validate = .ok ())
    (good : ∀ name ∈ requested, GoodName name) (some : requested ≠ []) (place : sinks ≠ [])
    (paired : pair requested sinks = .ok targets) :
    dump server sink clock options requested sinks s =
      let ran := runTargets server sink clock options 0 targets s
      { result := collect targets.length ran.1, sinks := ran.2.1, server := ran.2.2 } := by
  have valid : validateRun options targets = .ok () := by
    refine validateRun_eq_ok_iff.2 ⟨by rw [validated]; rfl, fun target h name h' => ?_⟩
    refine schemaNameFault?_eq_none_iff.2 (good name ?_)
    rw [← (partition_of_pair paired).flatMap_schemas]
    exact List.mem_flatMap.2 ⟨target, h, h'⟩
  have planned : (Program.run server (plan requested sinks).run s) = (.ok targets, s) := by
    rw [run_plan, if_neg place, validateSchemaNames_eq_ok_iff.2 good, effective, if_neg some,
      if_neg some]
    exact congrArg (·, s) paired
  unfold dump
  rw [validated, planned]
  dsimp only
  rw [run, valid]

theorem planCalls_eq_nil_or :
    planCalls requested sinks = [] ∨
      planCalls requested sinks = [.listSchemas] ∧ requested = [] ∧ sinks ≠ [] := by
  unfold planCalls
  split_ifs with none all
  · exact .inl rfl
  · exact .inr ⟨rfl, all, none⟩
  · exact .inl rfl

/-- A dump that is refused has made no other calls than its plan, and touched no sink. -/
theorem calls_of_refused :
    let dumped := dump server.logged sink clock options requested sinks (s, [])
    Refused dumped.result → dumped.sinks = sinks ∧
      (dumped.server.2 = [] ∨ dumped.server.2 = planCalls requested sinks) := by
  intro dumped h
  rcases dump_cases server sink clock options requested sinks s with
    ⟨-, rest⟩ | ⟨targets, s', -, valid, ran⟩
  · exact rest
  · have ran : dumped = _ := ran
    rw [ran, (run_of_valid server.logged sink clock _ valid).1] at h
    exact absurd h (not_refused_collect _ _)

/-- A dump that is not refused runs the targets of its plan, each with its account. -/
theorem accounts_of_not_refused :
    let dumped := dump server.logged sink clock options requested sinks (s, [])
    ¬Refused dumped.result → ∃ names targets accounts,
      effective (server .listSchemas s).1 requested = .ok names ∧
      (∀ name ∈ names, GoodName name) ∧
      (Program.run server (plan requested sinks).run s).1 = .ok targets ∧
      List.Forall₂ (fun target a => Account.Explains a options target.schemas) targets accounts ∧
      dumped.server.2 =
        planCalls requested sinks ++ accounts.flatMap fun a => asked a.events := by
  intro dumped h
  rcases dump_cases server sink clock options requested sinks s with
    ⟨refused, -⟩ | ⟨targets, s', plans, valid, ran⟩
  · exact absurd refused h
  · have ran : dumped = _ := ran
    obtain ⟨names, found, partition⟩ := partition_of_plan plans
    obtain ⟨accounts, each, traces, -⟩ := exists_accounts server sink clock options 0 targets s'
    refine ⟨names, targets, accounts, found, ?_, plans, each, ?_⟩
    · rw [← partition.flatMap_schemas, List.forall_mem_flatMap]
      exact fun target h name h' =>
        schemaNameFault?_eq_none_iff.1 ((validateRun_eq_ok_iff.1 valid).2 target h name h')
    · have log : dumped.server = (runTargets server.logged sink clock options 0 targets
          (s', planCalls requested sinks)).2.2 := by
        simp only [ran, run, valid]
      rw [log, runTargets_logged, traces]
      exact congrArg (_ ++ ·) (List.flatMap_map _ _ _)

end Dump

/-- Whatever is requested of whatever server: a dump that is refused has at most listed the schemas
and has touched no sink; a plan is made exactly if there are as many sinks as are needed and the
names are good, and it shares out the effective schemas; and a dump that is not refused has good
names only, so that one bad name prevents all snapshots. -/
theorem dump_plans_before_it_begins (server : Server σ) (sink : Sink ω) (clock : DateTime)
    (options : DumpOptions) (requested : List String) (sinks : List ω) (s : σ) :
    let listed := (server .listSchemas s).1
    let planned := (Program.run server (plan requested sinks).run s).1
    let dumped := dump server.logged sink clock options requested sinks (s, [])
    (Refused dumped.result → dumped.sinks = sinks ∧
      (dumped.server.2 = [] ∨
        dumped.server.2 = [.listSchemas] ∧ requested = [] ∧ sinks ≠ [])) ∧
    (∀ targets, planned = .ok targets →
      ∃ names, effective listed requested = .ok names ∧ Partition sinks names targets) ∧
    (IsOk planned ↔ sinks ≠ [] ∧ (∀ name ∈ requested, GoodName name) ∧
      OkWith (fun names => sinks.length = 1 ∨ sinks.length = names.length)
        (effective listed requested)) ∧
    (¬Refused dumped.result → ∃ names targets accounts,
      effective listed requested = .ok names ∧ (∀ name ∈ names, GoodName name) ∧
      planned = .ok targets ∧
      List.Forall₂ (fun target a => Account.Explains a options target.schemas) targets accounts ∧
      dumped.server.2 =
        planCalls requested sinks ++ accounts.flatMap fun a => asked a.events) ∧
    (.beginSnapshot ∈ dumped.server.2 →
      OkWith (fun names => ∀ name ∈ names, GoodName name) (effective listed requested)) := by
  intro listed planned dumped
  have refused := calls_of_refused server sink clock options requested sinks s
  have begun := accounts_of_not_refused server sink clock options requested sinks s
  refine ⟨fun h => ⟨(refused h).1, ?_⟩, fun targets => partition_of_plan,
    isOk_plan_iff requested sinks server s, begun, fun snapshot => ?_⟩
  · rcases (refused h).2 with none | plan
    · exact .inl none
    · rw [plan]
      exact planCalls_eq_nil_or requested sinks
  · by_cases h : Refused dumped.result
    · have quiet : Call.beginSnapshot ∉ planCalls requested sinks := by
        rcases planCalls_eq_nil_or requested sinks with none | ⟨one, -⟩
        · rw [none]
          exact List.not_mem_nil
        · rw [one]
          decide
      rcases (refused h).2 with none | plan
      · rw [none] at snapshot
        cases snapshot
      · rw [plan] at snapshot
        exact absurd snapshot quiet
    · obtain ⟨names, targets, accounts, found, good, -⟩ := begun h
      exact ⟨names, found, good⟩

end Dump

end LogicalBackup
