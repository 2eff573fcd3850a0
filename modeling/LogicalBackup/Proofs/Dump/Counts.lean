import LogicalBackup.Proofs.Dump.Targets
import Mathlib.Algebra.GroupWithZero.Nat
import Mathlib.Algebra.Order.BigOperators.Group.List

/-!
# What a summary counts

The counts of a summary are kept while a schema is dumped; here they are told from what is seen of
the dump from outside: from the calls, which list objects and deliver rows (`listings`,
`deliveries`), and from the pieces that are written, some of which are `INSERT` statements
(`inserts`).  A schema that is dumped is counted right in all of these (`SchemaDump.Counts`).
-/

namespace LogicalBackup

open Program DumpEvent

/-- The objects that a call lists, with the schema for which it does. -/
def Call.listing? : CallEvent → Option (String × List ObjectEntry)
  | ⟨.listObjects schema, .ok entries⟩ => some (schema, entries)
  | _ => none

/-- The rows that a call delivers, with the query. -/
def Call.delivery? : CallEvent → Option (String × List (List Cell))
  | ⟨.select sql, .ok stream⟩ => some (sql, stream.rows)
  | _ => none

/-- The table and the tuples of an `INSERT` statement. -/
def Piece.insert? : Piece → Option (Table × List Bytes)
  | insert t group => some (t, group)
  | _ => none

/-- All that calls list. -/
def listings (calls : List CallEvent) : List (String × List ObjectEntry) :=
  calls.filterMap Call.listing?

/-- All that calls deliver. -/
def deliveries (calls : List CallEvent) : List (String × List (List Cell)) :=
  calls.filterMap Call.delivery?

/-- The `INSERT` statements among pieces. -/
def inserts (pieces : List Piece) : List (Table × List Bytes) := pieces.filterMap Piece.insert?

/-- A schema that was dumped: what the server told of it, and how it was summed up. -/
structure SchemaDump where
  told : SchemaContents
  summary : SchemaSummary

namespace SchemaDump

/-- The calls that were made, with their answers. -/
def calls (d : SchemaDump) (m : Manner) : List CallEvent := d.told.inSnapshot d.summary.schema m

/-- What was written. -/
def pieces (d : SchemaDump) (m : Manner) : List Piece := d.told.pieces d.summary.schema m.options

/-- The objects as they were listed. -/
def entries (d : SchemaDump) : List ObjectEntry := d.told.found.map (·.entry)

/-- The tables with their effective columns. -/
def tables (d : SchemaDump) (m : Manner) : List Table :=
  (d.told.found.map (·.object d.summary.schema m.options)).filterMap (·.table?)

/-- The summary tells what the calls list and deliver, and what the pieces hold. -/
structure Counts (d : SchemaDump) (m : Manner) : Prop where
  arrived : d.told.Arrived d.summary.schema m.options
  listed : listings (d.calls m) = [(d.summary.schema, d.entries)]
  tables : d.summary.tables = d.entries.countP (·.kind = "BASE TABLE")
  views : d.summary.views = d.entries.countP (·.kind = "VIEW")
  objects : d.summary.tables + d.summary.views = d.entries.length
  /-- Rows are asked for of the tables that have effective columns, and of no others. -/
  queried : (deliveries (d.calls m)).map Prod.fst =
    ((d.tables m).filter (!·.columns.isEmpty)).map (·.selectSql)
  delivered : d.summary.rows = ((deliveries (d.calls m)).map (·.2.length)).sum
  statements : d.summary.statements = (inserts (d.pieces m)).length
  tuples : d.summary.rows = ((inserts (d.pieces m)).map (·.2.length)).sum
  /-- A reader finds these tuples in the bytes of the statements. -/
  read : ∀ i ∈ inserts (d.pieces m), ∃ tuples,
    readInsert (utf8 i.1.insertStem) ((Piece.insert i.1 i.2).bytes m) = some tuples ∧
      tuples.length = i.2.length
  simple : m.options.skipExtendedInsert = true → d.summary.statements = d.summary.rows
  statements_le : d.summary.statements ≤ d.summary.rows

end SchemaDump

/-! ## Calls -/

/-- Whether a call lists objects or asks for rows. -/
def Call.isReading : Call → Bool
  | listObjects _ | select _ => true
  | _ => false

section Calls

variable {β : Type} {f : CallEvent → Option β}
  (hf : ∀ e : CallEvent, e.1.isReading = false → f e = none)

include hf

theorem filterMap_eq_nil_of_all {calls : List CallEvent}
    (h : calls.all (!·.1.isReading) = true) : calls.filterMap f = [] := by
  refine List.filterMap_eq_nil_iff.2 fun e he => hf e ?_
  simpa using List.all_eq_true.1 h e he

theorem filterMap_opening (schema : String) (style : DumpStyle) (server : ServerInfo) :
    (SchemaContents.opening schema style server).filterMap f = [] :=
  filterMap_eq_nil_of_all hf (by cases style <;> rfl)

theorem filterMap_found (schema : String) (found : List ObjectAnswers) :
    (found.flatMap (·.exchanges schema)).filterMap f = [] := by
  rw [List.filterMap_flatMap]
  exact List.flatMap_eq_nil_iff.2 fun a _ => filterMap_eq_nil_of_all hf (by cases a <;> rfl)

theorem filterMap_locking (options : DumpOptions) (objects : List SchemaObject)
    (reading : List CallEvent) :
    (SchemaContents.locking options objects reading).filterMap f = reading.filterMap f := by
  unfold SchemaContents.locking
  split_ifs
  · rw [List.filterMap_cons_none (hf _ rfl), List.filterMap_append,
      List.filterMap_cons_none (hf _ rfl)]
    exact List.append_nil _
  · rfl

/-- Of the calls around the objects of a schema, only the one that lists them tells of them. -/
theorem filterMap_inSnapshot (c : SchemaContents) (schema : String) (m : Manner) :
    (c.inSnapshot schema m).filterMap f =
      (f ⟨.listObjects schema, .ok (c.found.map (·.entry))⟩).toList ++
        c.contents.flatMap fun x => x.exchanges.filterMap f := by
  have begins := hf ⟨.beginSnapshot, .ok ()⟩ rfl
  have ends := hf ⟨.endSnapshot, .ok ()⟩ rfl
  rw [SchemaContents.inSnapshot, SchemaContents.exchanges, List.filterMap_cons_none begins,
    List.filterMap_append, List.filterMap_cons_none ends, List.filterMap_nil, List.append_nil,
    List.filterMap_append, filterMap_opening hf, List.nil_append, List.filterMap_cons,
    List.filterMap_append, filterMap_found hf, filterMap_locking hf, List.filterMap_flatMap,
    List.nil_append]
  cases f ⟨.listObjects schema, .ok (c.found.map (·.entry))⟩ <;> rfl

end Calls

theorem Call.listing?_of_not_isReading (e : CallEvent) (h : e.1.isReading = false) :
    listing? e = none := by
  obtain ⟨c, answer⟩ := e
  cases c with
  | listObjects schema => cases h
  | _ => rfl

theorem Call.delivery?_of_not_isReading (e : CallEvent) (h : e.1.isReading = false) :
    delivery? e = none := by
  obtain ⟨c, answer⟩ := e
  cases c with
  | select sql => cases h
  | _ => rfl

namespace Content

theorem listings_exchanges (x : Content) : listings x.exchanges = [] := by
  cases x with
  | view v => rfl
  | table t data =>
    rw [exchanges]
    split_ifs <;> rfl

/-- The rows of a table, with the query, if it has columns. -/
theorem deliveries_exchanges (x : Content) :
    deliveries x.exchanges = match x with
      | table t data => if t.columns.isEmpty then [] else [(t.selectSql, data.stream.rows)]
      | view _ => [] := by
  cases x with
  | view v => rfl
  | table t data =>
    rw [exchanges]
    dsimp only
    split_ifs <;> rfl

theorem map_fst_deliveries (contents : List Content) :
    (contents.flatMap fun x => deliveries x.exchanges).map Prod.fst =
      (((contents.map (·.object)).filterMap (·.table?)).filter (!·.columns.isEmpty)).map
        (·.selectSql) := by
  induction contents with
  | nil => rfl
  | cons x contents ih =>
    rw [List.flatMap_cons, List.map_append, ih, deliveries_exchanges, List.map_cons]
    cases x with
    | view v => rfl
    | table t data =>
      by_cases none : t.columns.isEmpty
      · simp [object, SchemaObject.table?, none]
      · simp [object, SchemaObject.table?, none]

/-- The tuples of an object are as many as the rows that are delivered of it. -/
theorem length_flatten_groups {x : Content} (h : x.Arrived) (options : DumpOptions) :
    (x.groups options).flatten.length = ((deliveries x.exchanges).map (·.2.length)).sum := by
  rw [deliveries_exchanges]
  cases x with
  | view v => rfl
  | table t data =>
    rw [groups]
    dsimp only
    split_ifs with none
    · rfl
    · rw [Batch.flatten_groups, List.length_map, List.map_singleton, List.sum_singleton]
      exact h.2.length_eq.symm

/-- `length_flatten_groups` for several objects. -/
theorem length_flatten_flatMap_groups {contents : List Content} (h : ∀ x ∈ contents, x.Arrived)
    (options : DumpOptions) :
    (contents.flatMap (·.groups options)).flatten.length =
      ((contents.flatMap fun x => deliveries x.exchanges).map (·.2.length)).sum := by
  induction contents with
  | nil => rfl
  | cons x contents ih =>
    obtain ⟨first, rest⟩ := List.forall_mem_cons.1 h
    rw [List.flatMap_cons, List.flatten_append, List.length_append, length_flatten_groups first,
      ih rest, List.flatMap_cons, List.map_append, List.sum_append]

/-! ## Pieces -/

/-- The statements of an object have its groups. -/
theorem map_snd_inserts (options : DumpOptions) (x : Content) :
    (inserts (x.pieces options)).map Prod.snd = x.groups options := by
  cases x with
  | view v => rfl
  | table t data =>
    have all (groups : List (List Bytes)) :
        (inserts (groups.map (.insert t) ++ [.tableTail t])).map Prod.snd = groups := by
      induction groups with
      | nil => rfl
      | cons group groups ih => exact congrArg (group :: ·) ih
    exact all _

/-- The statements of an object are those of the rows of a table. -/
theorem exists_of_mem_inserts {options : DumpOptions} {x : Content} {i : Table × List Bytes}
    (h : i ∈ inserts (x.pieces options)) : ∃ rows : List (List Value),
      i.2 ∈ (i.1.batch options).groups (rows.map renderRow) := by
  obtain ⟨p, hp, hi⟩ := List.mem_filterMap.1 h
  cases x with
  | view v =>
    rw [List.mem_singleton.1 hp] at hi
    cases hi
  | table t data =>
    rcases List.mem_cons.1 hp with rfl | hp
    · cases hi
    rcases List.mem_append.1 hp with hp | hp
    · obtain ⟨group, hgroup, rfl⟩ := List.mem_map.1 hp
      cases hi
      rw [groups] at hgroup
      split_ifs at hgroup
      · cases hgroup
      · exact ⟨data.rows, hgroup⟩
    · rw [List.mem_singleton.1 hp] at hi
      cases hi

end Content

/-- A statement of the rows of a table has as many tuples for a reader as its group. -/
theorem exists_readInsert_eq {m : Manner} {t : Table} {group : List Bytes}
    {rows : List (List Value)} (h : group ∈ (t.batch m.options).groups (rows.map renderRow)) :
    ∃ tuples, readInsert (utf8 t.insertStem) ((Piece.insert t group).bytes m) = some tuples ∧
      tuples.length = group.length := by
  obtain ⟨parts, same, -, ne⟩ := (t.batch m.options).exists_groups_eq rows
  rw [same] at h
  obtain ⟨part, hpart, rfl⟩ := List.mem_map.1 h
  refine ⟨_, Batch.readInsert_line _ (ne part hpart), ?_⟩
  rw [List.length_map, List.length_map]

theorem inserts_flatMap {ι : Type} (xs : List ι) (f : ι → List Piece) :
    inserts (xs.flatMap f) = xs.flatMap fun x => inserts (f x) :=
  List.filterMap_flatMap

theorem inserts_append (ps qs : List Piece) : inserts (ps ++ qs) = inserts ps ++ inserts qs :=
  List.filterMap_append

/-- The statements of a schema are those of its objects in the first pass over them. -/
theorem SchemaContents.inserts_pieces (c : SchemaContents) (schema : String)
    (options : DumpOptions) :
    inserts (c.pieces schema options) = c.contents.flatMap fun x => inserts (x.pieces options) := by
  have final (objects : List SchemaObject) : inserts (objects.flatMap (·.finalPieces)) = [] := by
    rw [inserts_flatMap]
    exact List.flatMap_eq_nil_iff.2 fun o _ => by cases o <;> rfl
  have cons : inserts (c.pieces schema options) =
      inserts (c.contents.flatMap (·.pieces options) ++
        (c.contents.map (·.object)).flatMap (·.finalPieces) ++ [.footer]) := rfl
  rw [cons, inserts_append, inserts_append, final, inserts_flatMap, List.append_nil]
  exact List.append_nil _

/-! ## Summaries -/

/-- What is counted in the first pass over objects is counted of each of them. -/
theorem foldl_counted (options : DumpOptions) (contents : List Content) (summary : SchemaSummary) :
    contents.foldl (Content.counted options) summary =
      { summary with
        tables := summary.tables + (contents.map (·.object)).countP (·.table?.isSome)
        rows := summary.rows + (contents.flatMap (·.groups options)).flatten.length
        statements := summary.statements + (contents.flatMap (·.groups options)).length } := by
  induction contents generalizing summary with
  | nil => rfl
  | cons x contents ih =>
    rw [List.foldl_cons, ih, Content.counted, List.map_cons, List.countP_cons, List.flatMap_cons,
      List.flatten_append, List.length_append, List.length_append]
    dsimp only
    congr 1 <;> omega

theorem isSome_table? (schema : String) (options : DumpOptions) (a : ObjectAnswers) :
    (a.object schema options).table?.isSome = decide (a.entry.kind = "BASE TABLE") := by
  cases a <;> rfl

theorem isNone_table? (schema : String) (options : DumpOptions) (a : ObjectAnswers) :
    (a.object schema options).table?.isNone = decide (a.entry.kind = "VIEW") := by
  cases a <;> rfl

/-- The tables and the views of a schema are those that were listed as such, and there is nothing
else. -/
theorem countP_objects (schema : String) (options : DumpOptions) (found : List ObjectAnswers) :
    let objects := found.map (·.object schema options)
    let entries := found.map (·.entry)
    objects.countP (·.table?.isSome) = entries.countP (·.kind = "BASE TABLE") ∧
      objects.countP (·.table?.isNone) = entries.countP (·.kind = "VIEW") ∧
      objects.countP (·.table?.isSome) + objects.countP (·.table?.isNone) = entries.length := by
  intro objects entries
  refine ⟨?_, ?_, ?_⟩
  · simp only [objects, entries, List.countP_map, Function.comp_def, isSome_table?]
  · simp only [objects, entries, List.countP_map, Function.comp_def, isNone_table?]
  · have length : entries.length = objects.length := by rw [List.length_map, List.length_map]
    rw [length, List.length_eq_countP_add_countP (·.table?.isSome)]
    refine congrArg (_ + ·) (List.countP_congr fun o _ => ?_)
    cases o <;> simp [SchemaObject.table?]

/-- A group of a table is not empty, and it has one tuple only if statements are simple. -/
theorem length_pos_of_mem_groups {t : Table} {options : DumpOptions} {group : List Bytes}
    {rows : List (List Value)} (h : group ∈ (t.batch options).groups (rows.map renderRow)) :
    1 ≤ group.length ∧ (options.skipExtendedInsert = true → group.length = 1) := by
  refine ⟨List.length_pos_iff.2 (Batch.ne_nil_of_mem_groups h), fun simple => ?_⟩
  have ext : (t.batch options).extended = false := by rw [Table.batch, simple]; rfl
  rw [Batch.groups_of_simple ext] at h
  obtain ⟨row, -, rfl⟩ := List.mem_map.1 h
  rfl

theorem ofContents_eq (schema : String) (options : DumpOptions) (contents : List Content) :
    SchemaSummary.ofContents schema options contents =
      { schema
        tables := (contents.map (·.object)).countP (·.table?.isSome)
        views := (contents.map (·.object)).countP (·.table?.isNone)
        rows := (contents.flatMap (·.groups options)).flatten.length
        statements := (contents.flatMap (·.groups options)).length } := by
  rw [SchemaSummary.ofContents, foldl_counted]
  simp only [Nat.zero_add]

/-! ## The whole of a schema -/

/-- A schema of which a server told this, with the summary that a dump makes of it. -/
def SchemaContents.dump (c : SchemaContents) (schema : String) (options : DumpOptions) :
    SchemaDump where
  told := c
  summary := .ofContents schema options c.contents

section Schema

variable {m : Manner} {schema : String} {c : SchemaContents}

@[simp] theorem schema_dump (options : DumpOptions) :
    (c.dump schema options).summary.schema = schema := by
  rw [SchemaContents.dump, ofContents_eq]

@[simp] theorem calls_dump : (c.dump schema m.options).calls m = c.inSnapshot schema m := by
  rw [SchemaDump.calls, schema_dump]
  rfl

@[simp] theorem pieces_dump :
    (c.dump schema m.options).pieces m = c.pieces schema m.options := by
  rw [SchemaDump.pieces, schema_dump]
  rfl

theorem listings_inSnapshot :
    listings (c.inSnapshot schema m) = [(schema, c.found.map (·.entry))] := by
  have none : c.contents.flatMap (fun x => listings x.exchanges) = [] :=
    List.flatMap_eq_nil_iff.2 fun x _ => x.listings_exchanges
  exact (filterMap_inSnapshot Call.listing?_of_not_isReading c schema m).trans
    (congrArg (_ :: ·) none)

theorem deliveries_inSnapshot :
    deliveries (c.inSnapshot schema m) = c.contents.flatMap fun x => deliveries x.exchanges :=
  filterMap_inSnapshot Call.delivery?_of_not_isReading c schema m

theorem SchemaContents.map_snd_inserts_pieces (c : SchemaContents) (schema : String)
    (options : DumpOptions) :
    (inserts (c.pieces schema options)).map Prod.snd = c.contents.flatMap (·.groups options) := by
  rw [c.inserts_pieces, List.map_flatMap]
  exact List.flatMap_congr fun x _ => x.map_snd_inserts options

/-- A reader finds in a statement of a schema as many tuples as its group has: one or more, and no
more than one if statements are simple. -/
theorem exists_readInsert_of_mem_inserts {i : Table × List Bytes}
    (h : i ∈ inserts (c.pieces schema m.options)) :
    (∃ tuples, readInsert (utf8 i.1.insertStem) ((Piece.insert i.1 i.2).bytes m) = some tuples ∧
      tuples.length = i.2.length) ∧
    1 ≤ i.2.length ∧ (m.options.skipExtendedInsert = true → i.2.length = 1) := by
  rw [c.inserts_pieces] at h
  obtain ⟨x, -, h⟩ := List.mem_flatMap.1 h
  obtain ⟨rows, h⟩ := Content.exists_of_mem_inserts h
  exact ⟨exists_readInsert_eq h, length_pos_of_mem_groups h⟩

/-- A schema that was dumped is counted right, whatever its server told. -/
theorem counts_dump (h : c.Arrived schema m.options) : (c.dump schema m.options).Counts m := by
  obtain ⟨tables, views, objects⟩ := countP_objects schema m.options c.found
  have grouped := c.map_snd_inserts_pieces schema m.options
  have statements : (c.contents.flatMap (·.groups m.options)).length =
      (inserts (c.pieces schema m.options)).length := by
    rw [← grouped, List.length_map]
  have tuples : (c.contents.flatMap (·.groups m.options)).flatten.length =
      ((inserts (c.pieces schema m.options)).map (·.2.length)).sum := by
    rw [← grouped, List.length_flatten, List.map_map]
    rfl
  rw [SchemaContents.dump, ofContents_eq, h.objects]
  exact {
    arrived := h
    listed := listings_inSnapshot
    tables := tables
    views := views
    objects := objects
    queried := by
      rw [SchemaDump.calls, deliveries_inSnapshot, Content.map_fst_deliveries, h.objects]
      rfl
    delivered := by
      rw [SchemaDump.calls, deliveries_inSnapshot]
      exact Content.length_flatten_flatMap_groups h.contents m.options
    statements := statements
    tuples := tuples
    read := fun i hi => (exists_readInsert_of_mem_inserts hi).1
    simple := fun simple => by
      refine statements.trans (Eq.trans ?_ tuples.symm)
      rw [List.map_congr_left fun i hi => (exists_readInsert_of_mem_inserts hi).2.2 simple,
        List.map_const', List.sum_replicate_nat, Nat.mul_one]
    statements_le := by
      refine statements.trans_le (Nat.le_trans ?_ tuples.ge)
      rw [← List.length_map (·.2.length)]
      refine List.length_le_sum_of_one_le _ (List.forall_mem_map.2 fun i hi => ?_)
      exact (exists_readInsert_of_mem_inserts hi).2.1 }

end Schema

end LogicalBackup
