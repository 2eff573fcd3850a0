import LogicalBackup.Proofs.Dump.Faults

/-!
# Snapshots and locks are ended

Whatever the server, the sink and the clock answer, a dump that has begun a snapshot ends it once
and does nothing more, and tables that were locked are unlocked once, after all reads and before the
end of the snapshot (`dumpInSnapshot_bracketed`).  `Framed` says what a dump does about locks once
the objects of the schema are found, in all the ways in which it can go on.
-/

namespace LogicalBackup

open Program DumpEvent

namespace Call

/-- A statement that locks tables. -/
def isLock : Call → Bool
  | execute sql => "LOCK TABLES ".toList.isPrefixOf sql.toList
  | _ => false

/-- A call that reads a table. -/
def isRead : Call → Bool
  | showCreateTable _ | select _ => true
  | _ => false

/-- A call that begins and ends nothing. -/
def Plain (c : Call) : Prop :=
  c ≠ beginSnapshot ∧ c ≠ endSnapshot ∧ c.isLock = false ∧ c ≠ execute unlockSql

/-- A call that reads no table either. -/
def Calm (c : Call) : Prop := c.Plain ∧ c.isRead = false

theorem isLock_lockSql (tables : List Table) : (execute (Table.lockSql tables)).isLock = true := by
  rw [isLock, Table.lockSql, String.toList_append, List.isPrefixOf_iff_prefix]
  exact List.prefix_append _ _

theorem Calm.ne_select {c : Call} (h : c.Calm) (sql : String) : c ≠ select sql := by
  rintro rfl
  cases h.2

theorem isLock_unlockSql : (execute unlockSql).isLock = false := by decide

end Call

namespace Dump

/-! ## What is asked in each part -/

theorem only_describeObject (schema : String) (options : DumpOptions) (entry : ObjectEntry) :
    Only (fun e => e.1.Calm) (describeObject schema options entry).run := by
  unfold describeObject
  cases ObjectKind.ofWords? entry.kind with
  | none => exact only_done _
  | some kind =>
    have columns : (Call.listColumns schema entry.name).Calm := ⟨⟨nofun, nofun, rfl, nofun⟩, rfl⟩
    have create : (Call.showCreateView entry.name).Calm := ⟨⟨nofun, nofun, rfl, nofun⟩, rfl⟩
    have charset : (Call.viewCharset schema entry.name).Calm := ⟨⟨nofun, nofun, rfl, nofun⟩, rfl⟩
    refine (only_step fun _ => columns).exceptBind fun entries => ?_
    cases kind with
    | table => exact only_done _
    | view =>
      refine (only_step fun _ => create).exceptBind fun createSql => ?_
      refine (only_step fun _ => charset).exceptBind fun found => ?_
      dsimp only
      split_ifs
      · exact only_done _
      · exact only_done _

theorem only_describeObjects (schema : String) (options : DumpOptions)
    (entries : List ObjectEntry) :
    Only (fun e => e.1.Calm) (describeObjects schema options entries).run := by
  induction entries with
  | nil => exact only_done _
  | cons entry entries ih =>
    refine (only_describeObject schema options entry).exceptBind fun object => ?_
    exact ih.exceptBind fun objects => only_done _

theorem only_introspect (schema : String) (options : DumpOptions) :
    Only (fun e => e.1.Calm) (introspect schema options).run := by
  have list : (Call.listObjects schema).Calm := ⟨⟨nofun, nofun, rfl, nofun⟩, rfl⟩
  exact (only_step fun _ => list).exceptBind fun entries =>
    only_describeObjects schema options entries

theorem only_survey (schema : String) (options : DumpOptions) (style : DumpStyle) :
    Only (Within Call.Calm) (survey schema options style).run := by
  have info : Call.serverInfo.Calm := ⟨⟨nofun, nofun, rfl, nofun⟩, rfl⟩
  refine (only_ask info _).exceptBind fun server => ?_
  refine (only_write _).exceptBind fun u => ?_
  refine Only.expand path_performAsk_iff ((only_introspect schema options).imp fun e he => ?_)
  rintro c ⟨⟩
  exact he

theorem only_prepare (schema : String) (options : DumpOptions) (style : DumpStyle) :
    Only (Within Call.Calm) (prepare schema options style).run := by
  have use : (Call.useSchema schema).Calm := ⟨⟨nofun, nofun, rfl, nofun⟩, rfl⟩
  have zone : (Call.execute "SET TIME_ZONE='+00:00'").Calm :=
    ⟨⟨nofun, nofun, by decide, by decide⟩, rfl⟩
  have rest := only_survey schema options style
  refine (only_ask use _).exceptBind fun u => ?_
  cases style with
  | full => exact (only_ask zone _).exceptBind fun u => rest
  | compact => exact rest

theorem only_dumpRows (table : Table) (options : DumpOptions) :
    Only (Within Call.Plain) (dumpRows table options).run := by
  have select : (Call.select table.selectSql).Plain := ⟨nofun, nofun, rfl, nofun⟩
  refine (only_ask select _).exceptBind fun stream => ?_
  rw [ExceptT.run_bind_lift]
  refine (only_writing _).bind ?_
  rintro ⟨fault | u, b⟩
  · exact only_done _
  · change Only (Within Call.Plain) (ExceptT.lift b.finish.toDump >>= _).run
    rw [ExceptT.run_bind_lift]
    refine (only_writing _).bind ?_
    rintro (fault | stats)
    · exact only_done _
    · exact only_done _

theorem only_dumpTable (table : Table) (options : DumpOptions) (style : DumpStyle) :
    Only (Within Call.Plain) (dumpTable table options style).run := by
  have create : (Call.showCreateTable table.name).Plain := ⟨nofun, nofun, rfl, nofun⟩
  refine (only_ask create _).exceptBind fun createSql => ?_
  refine (only_write _).exceptBind fun u => ?_
  have last (stats : BatchStats) : Only (Within Call.Plain)
      (do Dumping.writeSection (Section.tableTail style table.name); return stats : Dumping _).run :=
    (only_write _).exceptBind fun u => only_done _
  dsimp only
  split_ifs
  · exact (only_done _).exceptBind last
  · exact (only_dumpRows table options).exceptBind last

theorem only_dumpTablesAndStubs (options : DumpOptions) (style : DumpStyle)
    (summary : SchemaSummary) (objects : List SchemaObject) :
    Only (Within Call.Plain) (dumpTablesAndStubs options style summary objects).run := by
  induction objects generalizing summary with
  | nil => exact only_done _
  | cons object objects ih =>
    cases object with
    | table t => exact (only_dumpTable t options style).exceptBind fun stats => ih _
    | view v => exact (only_write _).exceptBind fun u => ih _

theorem only_dumpViews {P : Call → Prop} (style : DumpStyle) (summary : SchemaSummary)
    (objects : List SchemaObject) :
    Only (Within P) (dumpViews style summary objects).run := by
  induction objects generalizing summary with
  | nil => exact only_done _
  | cons object objects ih =>
    cases object with
    | table t => exact ih _
    | view v => exact (only_write _).exceptBind fun u => ih _

theorem only_dumpObjects (schema : String) (objects : List SchemaObject) (options : DumpOptions)
    (style : DumpStyle) :
    Only (Within Call.Plain) (dumpObjects schema objects options style).run :=
  (only_dumpTablesAndStubs options style _ objects).exceptBind fun summary =>
    only_dumpViews style summary objects

theorem only_complete {P : Call → Prop} (style : DumpStyle) (summary : SchemaSummary) :
    Only (Within P) (complete style summary).run :=
  only_now.exceptBind fun _ => (only_write _).exceptBind fun _ =>
    only_flush.exceptBind fun _ => only_done _

/-! ## Locks -/

/-- What a dump does once the objects of the schema are found, or not. -/
inductive Framed (options : DumpOptions) :
    Except DumpError (List SchemaObject) → List DumpEvent → Prop
  | notFound (e : DumpError) : Framed options (.error e) []
  | free {objects : List SchemaObject} {t : List DumpEvent} (unlocked : locks options objects = false)
    (plain : ∀ c ∈ asked t, c.Plain) : Framed options (.ok objects) t
  | refused {objects : List SchemaObject} {fault : Fault} (locked : locks options objects = true) :
    Framed options (.ok objects)
      [⟨.ask (.execute (Table.lockSql (objects.filterMap (·.table?)))), .error fault⟩]
  | locked {objects : List SchemaObject} {t t' : List DumpEvent} {answer : Except Fault Unit}
    (locked : locks options objects = true) (plain : ∀ c ∈ asked t, c.Plain) (last : asked t' = []) :
    Framed options (.ok objects)
      (⟨.ask (.execute (Table.lockSql (objects.filterMap (·.table?)))), .ok ()⟩ ::
        (t ++ ⟨.ask (.execute unlockSql), answer⟩ :: t'))

theorem framed_of_path {schema : String} {options : DumpOptions} {style : DumpStyle}
    {objects : List SchemaObject} {t : List DumpEvent} {r : Except DumpError SchemaSummary}
    (h : Path (dumpFound schema options style objects >>= complete style).run t r) :
    Framed options (.ok objects) t := by
  have tail {summary : SchemaSummary} {t : List DumpEvent} {r : Except DumpError SchemaSummary}
      (h : Path (complete style summary).run t r) : asked t = [] := by
    rw [List.eq_nil_iff_forall_not_mem]
    exact forall_mem_asked_iff.2 (only_complete (P := fun _ => False) style summary t r h)
  have plain {t : List DumpEvent} {r : Except DumpError SchemaSummary}
      (h : Path (dumpObjects schema objects options style).run t r) : ∀ c ∈ asked t, c.Plain :=
    forall_mem_asked_iff.2 (only_dumpObjects schema objects options style t r h)
  -- the part after the objects adds no call, whether it is reached or not
  obtain ⟨t₁, r₁, t₂, rfl, h₁, last⟩ : ∃ t₁ r₁ t₂, t = t₁ ++ t₂ ∧
      Path (dumpFound schema options style objects).run t₁ r₁ ∧
        (asked t₂ = [] ∧ (r₁.isOk = false → t₂ = [])) := by
    rcases path_exceptBind_iff.1 h with ⟨e, h₁, rfl⟩ | ⟨t₁, summary, t₂, rfl, h₁, h₂⟩
    · exact ⟨t, .error e, [], (List.append_nil t).symm, h₁, rfl, fun _ => rfl⟩
    · exact ⟨t₁, .ok summary, t₂, rfl, h₁, tail h₂, nofun⟩
  unfold dumpFound at h₁
  split_ifs at h₁ with locked
  · rw [dumpLocked_eq] at h₁
    rcases path_exceptBind_iff.1 h₁ with ⟨e, h₃, rfl⟩ | ⟨t₃, u, t₄, rfl, h₃, h₄⟩
    · obtain ⟨answer, rfl, hr⟩ := Dumping.path_ask_iff.1 h₃
      rw [last.2 rfl]
      cases answer with
      | error fault => exact .refused locked
      | ok u => cases hr
    · obtain ⟨answer, rfl, hr⟩ := Dumping.path_ask_iff.1 h₃
      obtain ⟨t₅, result, answer', rfl, h₅, -⟩ := path_followedBy_iff.1 h₄
      cases answer with
      | error fault => cases hr
      | ok u =>
        rw [List.singleton_append, List.cons_append, List.append_assoc, List.singleton_append]
        exact .locked locked (plain h₅) last.1
  · refine .free (by simpa using locked) ?_
    rw [asked_append, last.1, List.append_nil]
    exact plain h₁

/-- A dump finds the objects of the schema and goes on as `Framed` says. -/
theorem framed_trace {σ ω : Type} (world : DumpWorld σ ω) (schema : String) (options : DumpOptions)
    (style : DumpStyle) (s : σ × ω) :
    ∃ t, trace world.answer (dumpSchema schema options style).run s =
        trace world.answer (prepare schema options style).run s ++ t ∧
      Framed options (Program.run world.answer (prepare schema options style).run s).1 t := by
  rw [dumpSchema_eq, bind_assoc, ExceptT.run_bind, trace_bind]
  refine ⟨_, rfl, ?_⟩
  rcases Program.run world.answer (prepare schema options style).run s with ⟨e | objects, s'⟩
  · exact .notFound e
  · exact framed_of_path (path_trace world.answer _ s')

/-- The statement that locks the tables among the objects that are found, where it is called for. -/
def lockCalls (options : DumpOptions) : Except DumpError (List SchemaObject) → List Call
  | .error _ => []
  | .ok objects =>
    if locks options objects then [.execute (Table.lockSql (objects.filterMap (·.table?)))] else []

/-- The tables are locked. -/
def Locked (t : List DumpEvent) : Prop :=
  ∃ sql, (Call.execute sql).isLock ∧ (⟨.ask (.execute sql), .ok ()⟩ : DumpEvent) ∈ t

/-! ## Plain calls -/

section Plain

variable {cs : List Call}

theorem count_eq_zero_of_plain (h : ∀ c ∈ cs, c.Plain) {c : Call} (hc : ¬c.Plain) :
    cs.count c = 0 :=
  List.count_eq_zero.2 fun hmem => hc (h c hmem)

theorem filter_isLock_of_plain (h : ∀ c ∈ cs, c.Plain) : cs.filter Call.isLock = [] := by
  refine List.filter_eq_nil_iff.2 fun c hc => ?_
  rw [(h c hc).2.2.1]
  exact Bool.false_ne_true

theorem pairwise_lock_of_plain (h : ∀ c ∈ cs, c.Plain) :
    cs.Pairwise fun c d => d.isLock → ¬c.isRead := by
  refine List.pairwise_of_forall_mem_list fun c _ d hd lock => ?_
  rw [(h d hd).2.2.1] at lock
  cases lock

theorem pairwise_unlock_of_plain (h : ∀ c ∈ cs, c.Plain) :
    cs.Pairwise fun c d => c = .execute unlockSql → ¬d.isRead :=
  List.pairwise_of_forall_mem_list fun c hc _ _ unlock => absurd unlock (h c hc).2.2.2

theorem not_locked_of_plain {t : List DumpEvent} (h : ∀ c ∈ asked t, c.Plain) : ¬Locked t := by
  rintro ⟨sql, lock, hmem⟩
  have := (h _ (mem_asked_iff.2 ⟨_, hmem, rfl⟩)).2.2.1
  rw [lock] at this
  cases this

theorem not_plain_begin : ¬Call.Plain .beginSnapshot := fun h => h.1 rfl

theorem not_plain_end : ¬Call.Plain .endSnapshot := fun h => h.2.1 rfl

theorem not_plain_unlock : ¬Call.Plain (.execute unlockSql) := fun h => h.2.2.2 rfl

end Plain

theorem locked_append_iff {s t : List DumpEvent} : Locked (s ++ t) ↔ Locked s ∨ Locked t := by
  unfold Locked
  simp only [List.mem_append, and_or_left, exists_or]

/-- The calls that are made once the objects are found, or not. -/
theorem Framed.asked_cases {options : DumpOptions} {found : Except DumpError (List SchemaObject)}
    {t : List DumpEvent} (h : Framed options found t) :
    (∀ c ∈ asked t, c.Plain) ∧ lockCalls options found = [] ∨
      ∃ lock : Call, lock.isLock ∧ lockCalls options found = [lock] ∧
        (asked t = [lock] ∧ ¬Locked t ∨
          ∃ cs, asked t = lock :: (cs ++ [.execute unlockSql]) ∧ (∀ c ∈ cs, c.Plain) ∧
            Locked t) := by
  cases h with
  | notFound e => exact Or.inl ⟨fun c hc => absurd hc List.not_mem_nil, rfl⟩
  | free unlocked plain =>
    refine Or.inl ⟨plain, ?_⟩
    rw [lockCalls, unlocked]
    rfl
  | refused locked =>
    refine Or.inr ⟨_, Call.isLock_lockSql _, by rw [lockCalls, locked]; rfl, Or.inl ⟨rfl, ?_⟩⟩
    rintro ⟨sql, -, hmem⟩
    simp at hmem
  | @locked objects t t' answer locked plain last =>
    refine Or.inr ⟨_, Call.isLock_lockSql _, by rw [lockCalls, locked]; rfl,
      Or.inr ⟨asked t, ?_, plain, _, Call.isLock_lockSql _, List.mem_cons_self⟩⟩
    change _ :: asked (t ++ _) = _
    rw [asked_append]
    change _ :: (asked t ++ _ :: asked t') = _
    rw [last]

section Framed

variable {options : DumpOptions} {found : Except DumpError (List SchemaObject)}
  {t : List DumpEvent}

theorem isLock_ne {c lock : Call} (hl : lock.isLock) (hc : c.isLock = false) : lock ≠ c := by
  rintro rfl
  rw [hc] at hl
  cases hl

theorem Framed.count_eq_zero (h : Framed options found t) {c : Call} (hc : ¬c.Plain)
    (hl : c.isLock = false) (hu : c ≠ .execute unlockSql) : (asked t).count c = 0 := by
  obtain ⟨plain, -⟩ | ⟨lock, isLock, -, ⟨all, -⟩ | ⟨cs, all, plain, -⟩⟩ := h.asked_cases
  · exact count_eq_zero_of_plain plain hc
  · rw [all, List.count_cons_of_ne (isLock_ne isLock hl), List.count_nil]
  · rw [all, List.count_cons_of_ne (isLock_ne isLock hl), List.count_append,
      count_eq_zero_of_plain plain hc, List.count_cons_of_ne hu.symm, List.count_nil]

theorem Framed.filter_isLock (h : Framed options found t) :
    (asked t).filter Call.isLock = lockCalls options found := by
  obtain ⟨plain, none⟩ | ⟨lock, isLock, one, ⟨all, -⟩ | ⟨cs, all, plain, -⟩⟩ := h.asked_cases
  · rw [filter_isLock_of_plain plain, none]
  · rw [all, one, List.filter_cons_of_pos isLock, List.filter_nil]
  · rw [all, one, List.filter_cons_of_pos isLock, List.filter_append, filter_isLock_of_plain plain,
      List.filter_cons_of_neg (by decide), List.filter_nil, List.append_nil]

theorem Framed.pairwise_lock (h : Framed options found t) :
    (asked t).Pairwise fun c d => d.isLock → ¬c.isRead := by
  obtain ⟨plain, -⟩ | ⟨lock, isLock, -, ⟨all, -⟩ | ⟨cs, all, plain, -⟩⟩ := h.asked_cases
  · exact pairwise_lock_of_plain plain
  · rw [all]
    exact List.pairwise_singleton _ _
  · have calm : ¬lock.isRead := by
      cases lock <;> first | cases isLock | exact Bool.false_ne_true
    rw [all, List.pairwise_cons, List.pairwise_append]
    refine ⟨fun _ _ _ => calm, pairwise_lock_of_plain plain, List.pairwise_singleton _ _, ?_⟩
    intro c _ d hd lock
    rw [List.mem_singleton.1 hd, Call.isLock_unlockSql] at lock
    cases lock

theorem Framed.pairwise_unlock (h : Framed options found t) :
    (asked t).Pairwise fun c d => c = .execute unlockSql → ¬d.isRead := by
  obtain ⟨plain, -⟩ | ⟨lock, isLock, -, ⟨all, -⟩ | ⟨cs, all, plain, -⟩⟩ := h.asked_cases
  · exact pairwise_unlock_of_plain plain
  · rw [all]
    exact List.pairwise_singleton _ _
  · rw [all, List.pairwise_cons, List.pairwise_append]
    refine ⟨fun _ _ unlock => absurd unlock (isLock_ne isLock Call.isLock_unlockSql),
      pairwise_unlock_of_plain plain, List.pairwise_singleton _ _, ?_⟩
    exact fun c hc _ _ unlock => absurd unlock (plain c hc).2.2.2

theorem Framed.count_unlock (h : Framed options found t) :
    (Locked t → (asked t).count (.execute unlockSql) = 1) ∧
      (¬Locked t → (asked t).count (.execute unlockSql) = 0) := by
  obtain ⟨plain, -⟩ | ⟨lock, isLock, -, ⟨all, free⟩ | ⟨cs, all, plain, locked⟩⟩ := h.asked_cases
  · exact ⟨fun locked => absurd locked (not_locked_of_plain plain),
      fun _ => count_eq_zero_of_plain plain not_plain_unlock⟩
  · refine ⟨fun locked => absurd locked free, fun _ => ?_⟩
    rw [all, List.count_cons_of_ne (isLock_ne isLock Call.isLock_unlockSql), List.count_nil]
  · refine ⟨fun _ => ?_, fun free => absurd locked free⟩
    rw [all, List.count_cons_of_ne (isLock_ne isLock Call.isLock_unlockSql), List.count_append,
      count_eq_zero_of_plain plain not_plain_unlock, List.count_singleton_self]

end Framed

/-! ## The whole dump -/

/-- What holds of the events of a dump that has begun its snapshot, where `found` are the objects of
the schema, if they were found. -/
structure Bracketed (options : DumpOptions) (found : Except DumpError (List SchemaObject))
    (t : List DumpEvent) : Prop where
  begins : t.head? = some ⟨.ask .beginSnapshot, .ok ()⟩
  begins_once : (asked t).count .beginSnapshot = 1
  /-- Nothing is done after the end of the snapshot. -/
  ends : ∃ answer : Except Fault Unit, t.getLast? = some ⟨.ask .endSnapshot, answer⟩
  ends_once : (asked t).count .endSnapshot = 1
  /-- Before the objects are found nothing is locked, and then the tables among them are, if the
  options say so and there are any. -/
  locks : (asked t).filter Call.isLock =
    match found with
    | .error _ => []
    | .ok objects =>
      let tables := objects.filterMap (·.table?)
      if options.lockTables ∧ tables ≠ [] then
        [.execute ("LOCK TABLES " ++
          String.intercalate ", " (tables.map fun t => quoteIdentifier t.name ++ " READ"))]
      else []
  /-- No table is read before a lock. -/
  lock_first : (asked t).Pairwise fun c d => d.isLock → ¬c.isRead
  unlocks_once : Locked t → (asked t).count (.execute unlockSql) = 1
  unlocks_never : ¬Locked t → (asked t).count (.execute unlockSql) = 0
  /-- No table is read after the locks are released. -/
  unlock_last : (asked t).Pairwise fun c d => c = .execute unlockSql → ¬d.isRead

/-- The events of a dump that finds its objects in `t₁` and goes on with `t₂`, with the beginning and
the end of its snapshot. -/
def bracket (t₁ t₂ : List DumpEvent) (answer : Except Fault Unit) : List DumpEvent :=
  ⟨.ask .beginSnapshot, .ok ()⟩ :: (t₁ ++ t₂ ++ [⟨.ask .endSnapshot, answer⟩])

section Bracket

variable {t₁ t₂ : List DumpEvent} {answer : Except Fault Unit}

theorem asked_bracket : asked (bracket t₁ t₂ answer) =
    .beginSnapshot :: (asked t₁ ++ asked t₂ ++ [.endSnapshot]) := by
  change _ :: asked (t₁ ++ t₂ ++ [_]) = _
  rw [asked_append, asked_append]
  rfl

theorem count_bracket (plain : ∀ c ∈ asked t₁, c.Plain) {c : Call} (hc : ¬c.Plain) :
    (asked (bracket t₁ t₂ answer)).count c =
      [Call.beginSnapshot].count c + (asked t₂).count c + [Call.endSnapshot].count c := by
  rw [asked_bracket, ← List.singleton_append, List.count_append, List.count_append,
    List.count_append, count_eq_zero_of_plain plain hc, Nat.zero_add, Nat.add_assoc]

theorem locked_bracket_iff (plain : ∀ c ∈ asked t₁, c.Plain) :
    Locked (bracket t₁ t₂ answer) ↔ Locked t₂ := by
  have first : ¬Locked [⟨.ask .beginSnapshot, .ok ()⟩] := by
    rintro ⟨sql, -, hmem⟩
    simp at hmem
  have last : ¬Locked [⟨.ask .endSnapshot, answer⟩] := by
    rintro ⟨sql, -, hmem⟩
    simp at hmem
  rw [bracket, ← List.singleton_append, locked_append_iff, locked_append_iff, locked_append_iff]
  simp only [first, last, not_locked_of_plain plain, false_or, or_false]

theorem bracketed_of_framed {options : DumpOptions}
    {found : Except DumpError (List SchemaObject)} (calm : ∀ c ∈ asked t₁, c.Calm)
    (framed : Framed options found t₂) : Bracketed options found (bracket t₁ t₂ answer) := by
  have plain : ∀ c ∈ asked t₁, c.Plain := fun c hc => (calm c hc).1
  have locked := (locked_bracket_iff plain : Locked (bracket t₁ t₂ answer) ↔ _)
  have unlocks : (asked (bracket t₁ t₂ answer)).count (.execute unlockSql) =
      (asked t₂).count (.execute unlockSql) := by
    rw [count_bracket plain not_plain_unlock]
    simp
  constructor
  · rfl
  · rw [count_bracket plain not_plain_begin, framed.count_eq_zero not_plain_begin rfl nofun]
    rfl
  · exact ⟨answer, by rw [bracket, ← List.cons_append, List.getLast?_concat]⟩
  · rw [count_bracket plain not_plain_end, framed.count_eq_zero not_plain_end rfl nofun]
    rfl
  · have filtered := framed.filter_isLock
    rw [asked_bracket, List.filter_cons_of_neg (by decide), List.filter_append, List.filter_append,
      filter_isLock_of_plain plain, filtered, List.filter_cons_of_neg (by decide), List.filter_nil,
      List.append_nil, List.nil_append]
    cases found with
    | error e => rfl
    | ok objects =>
      have same : locks options objects = true ↔
          options.lockTables ∧ objects.filterMap (·.table?) ≠ [] := by
        simp [Dump.locks]
      simp only [lockCalls, same]
      rfl
  · rw [asked_bracket, List.pairwise_cons, List.pairwise_append, List.pairwise_append]
    refine ⟨fun _ _ _ => Bool.false_ne_true, ⟨pairwise_lock_of_plain plain, framed.pairwise_lock,
      fun c hc d _ _ => ?_⟩, List.pairwise_singleton _ _, fun c _ d hd lock => ?_⟩
    · rw [(calm c hc).2]
      exact Bool.false_ne_true
    · rw [List.mem_singleton.1 hd] at lock
      cases lock
  · rw [unlocks, locked]
    exact framed.count_unlock.1
  · rw [unlocks, locked]
    exact framed.count_unlock.2
  · rw [asked_bracket, List.pairwise_cons, List.pairwise_append, List.pairwise_append]
    refine ⟨fun _ _ => nofun, ⟨pairwise_unlock_of_plain plain, framed.pairwise_unlock,
      fun c hc d _ unlock => absurd unlock (plain c hc).2.2.2⟩, List.pairwise_singleton _ _,
      fun c _ d hd _ => ?_⟩
    rw [List.mem_singleton.1 hd]
    exact Bool.false_ne_true

end Bracket

section Ask

variable {σ ω α : Type} (world : DumpWorld σ ω) {c : Call} (wrap : Fault → DumpError)
  (f : c.Result → Dumping α) {s s' : σ} (w : ω)

theorem trace_ask (s : σ) : trace world.answer (Dumping.ask c wrap).run (s, w) =
    [⟨.ask c, (world.server c s).1⟩] := rfl

theorem run_ask (s : σ) : Program.run world.answer (Dumping.ask c wrap).run (s, w) =
    ((world.server c s).1.mapError wrap, ((world.server c s).2, w)) := rfl

theorem trace_ask_bind_error {fault : Fault} (h : world.server c s = (.error fault, s')) :
    trace world.answer (Dumping.ask c wrap >>= f).run (s, w) = [⟨.ask c, .error fault⟩] := by
  rw [ExceptT.run_bind, trace_bind, trace_ask, run_ask, h]
  rfl

theorem trace_ask_bind_ok {x : c.Result} (h : world.server c s = (.ok x, s')) :
    trace world.answer (Dumping.ask c wrap >>= f).run (s, w) =
      ⟨.ask c, .ok x⟩ :: trace world.answer (f x).run (s', w) := by
  rw [ExceptT.run_bind, trace_bind, trace_ask, run_ask, h]
  rfl

end Ask

theorem trace_followedBy {σ ω α : Type} (world : DumpWorld σ ω) (x : Dumping α) (c : Call)
    (s : σ × ω) : ∃ answer : c.Answer, trace world.answer (x.followedBy c).run s =
      trace world.answer x.run s ++ [⟨.ask c, answer⟩] := by
  unfold Dumping.followedBy
  rw [ExceptT.run_bind_lift, trace_bind]
  rcases Program.run world.answer x.run s with ⟨result, s'⟩
  refine ⟨(world.server c s'.1).1, ?_⟩
  rw [ExceptT.run_bind_lift, trace_bind]
  cases result with
  | error e => rfl
  | ok a =>
    have asked : trace world.answer (Dumping.ask c .fault).run s' =
        [⟨.ask c, (world.server c s'.1).1⟩] := rfl
    rw [asked]
    rcases Program.run world.answer (Dumping.ask c .fault).run s' with ⟨e | u, s''⟩ <;> rfl

end Dump

/-- Whatever is answered: if the snapshot cannot be begun, that is all that is done; else it is ended
and tables are locked and unlocked as `Bracketed` says.  The dump succeeds exactly where nothing is
faulty. -/
theorem dumpInSnapshot_bracketed {σ ω : Type} (world : DumpWorld σ ω) (schema : String)
    (options : DumpOptions) (style : DumpStyle) (s : σ) (w : ω) :
    let dump := (Dump.dumpInSnapshot schema options style).run
    let t := trace world.answer dump (s, w)
    (match world.server .beginSnapshot s with
      | (.error fault, _) => t = [⟨.ask .beginSnapshot, .error fault⟩]
      | (.ok (), s) =>
        let found := (Program.run world.answer (Dump.prepare schema options style).run (s, w)).1
        Dump.Bracketed options found t) ∧
      (IsOk (Program.run world.answer dump (s, w)).1 ↔ ∀ e ∈ t, ¬Faulty e) := by
  intro dump t
  refine ⟨?_, Dump.surfaces_dumpInSnapshot schema options style t _ (path_trace _ _ _)⟩
  rcases begun : world.server .beginSnapshot s with ⟨fault | u, s'⟩
  · exact Dump.trace_ask_bind_error world .fault _ w begun
  · obtain ⟨ended, last⟩ := Dump.trace_followedBy world (Dump.dumpSchema schema options style)
      .endSnapshot (s', w)
    obtain ⟨t₂, parts, framed⟩ := Dump.framed_trace world schema options style (s', w)
    have calm := forall_mem_asked_iff.2
      (Dump.only_prepare schema options style _ _ (path_trace world.answer _ (s', w)))
    have whole : t = _ := Dump.trace_ask_bind_ok world .fault
      (fun _ => (Dump.dumpSchema schema options style).followedBy .endSnapshot) w begun
    rw [last, parts] at whole
    rw [whole]
    exact Dump.bracketed_of_framed calm framed

end LogicalBackup
