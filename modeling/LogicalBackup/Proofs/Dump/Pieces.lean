import LogicalBackup.Proofs.Batch.RoundTrip
import LogicalBackup.Proofs.Dump.Answers

/-!
# Pieces of a dump

A dump writes whole pieces: sections, and statements with rows (`Piece`).  `Composes m x Q` says
that `x`, if it succeeds, writes pieces, and that it breaks off between two of them if one of its
calls fails instead (`BreaksOff`).  What is written after such a call are at most the statements
that were full when the rows ceased to arrive (`Late`).
-/

namespace LogicalBackup

open Program DumpEvent

/-- The batch that takes the rows of a table. -/
def Table.batch (t : Table) (options : DumpOptions) : Batch where
  stem := utf8 t.insertStem
  packet := options.maxAllowedPacket
  extended := !options.skipExtendedInsert

/-- What decides, beside the answers of a server, what a dump writes. -/
structure Manner where
  options : DumpOptions
  style : DumpStyle
  clock : DateTime

/-- What is written as a whole. -/
inductive Piece where
  | header (schema : String) (server : ServerInfo)
  | tableHead (t : Table) (createSql : String)
  /-- A statement with the tuples of some rows. -/
  | insert (t : Table) (group : List Bytes)
  | tableTail (t : Table)
  | viewStub (v : View)
  | viewFinal (v : View)
  | footer

namespace Piece

/-- The bytes of a piece. -/
def bytes (m : Manner) : Piece → Bytes
  | header schema server =>
    (Section.header m.style schema server (!m.options.suppressUseDatabase)).bytes
  | tableHead t createSql => (Section.tableHead m.style t.name createSql).bytes
  | insert t group => Batch.line (utf8 t.insertStem) group
  | tableTail t => (Section.tableTail m.style t.name).bytes
  | viewStub v => (Section.viewStub m.style v).bytes
  | viewFinal v => (Section.viewFinal m.style v).bytes
  | footer => (Section.footer m.style m.clock).bytes

/-- Pieces one after another. -/
def text (m : Manner) (ps : List Piece) : Bytes := ps.flatMap (bytes m)

@[simp] theorem text_append (m : Manner) (ps qs : List Piece) :
    text m (ps ++ qs) = text m ps ++ text m qs :=
  List.flatMap_append

theorem text_prefix (m : Manner) {ps qs : List Piece} (h : ps <+: qs) : text m ps <+: text m qs := by
  obtain ⟨rest, rfl⟩ := h
  rw [text_append]
  exact List.prefix_append _ _

theorem text_singleton (m : Manner) (p : Piece) : text m [p] = p.bytes m := List.append_nil _

theorem text_insert (m : Manner) (t : Table) (groups : List (List Bytes)) :
    text m (groups.map (insert t)) = groups.flatMap (Batch.line (utf8 t.insertStem)) := by
  rw [text, List.flatMap_map]
  rfl

end Piece

/-! ## Calls that fail -/

/-- The way in which a call is made to fail. -/
inductive Interruption where
  | refused (fault : Fault)
  /-- Of the rows of a query, this many arrive.  Another call is refused. -/
  | afterRows (n : Nat) (fault : Fault)

/-- What a call that is made to fail answers in place of `answer`. -/
def Interruption.answer : Interruption → {c : Call} → c.Answer → c.Answer
  | refused fault, _, _ => .error fault
  | afterRows n fault, .select _, .ok stream =>
    .ok { stream with rows := stream.rows.take n, failure := some fault }
  | afterRows _ fault, _, _ => .error fault

/-- A call that is no query is refused. -/
theorem Interruption.exists_answer_eq (cut : Interruption) {c : Call}
    (h : ∀ sql, c ≠ .select sql) (answer : c.Answer) :
    ∃ fault, cut.answer answer = .error fault := by
  cases cut with
  | refused fault => exact ⟨fault, rfl⟩
  | afterRows n fault =>
    refine ⟨fault, ?_⟩
    cases c with
    | select sql => exact absurd rfl (h sql)
    | _ => rfl

/-- The pieces that are written after a call that fails with this answer: of the rows that arrive
before a fault, the statements that are full. -/
inductive Late (options : DumpOptions) : CallEvent → List Piece → Prop
  | refused (c : Call) (fault : Fault) : Late options ⟨c, .error fault⟩ []
  | rows {t : Table} {stream : ResultStream} {rows : List (List Value)}
    (arrived : { stream with failure := none }.Holds rows) :
    Late options ⟨.select t.selectSql, .ok stream⟩
      (((t.batch options).placeAll [] (rows.map renderRow)).1.map (.insert t))

/-- After a query that is cut, the statements are those of the rows that have arrived. -/
theorem Late.exists_rows {options : DumpOptions} {sql : String} {stream : ResultStream}
    {late : List Piece} (h : Late options ⟨.select sql, .ok stream⟩ late) :
    ∃ (t : Table) (rows : List (List Value)), t.selectSql = sql ∧
      { stream with failure := none }.Holds rows ∧
      late = ((t.batch options).placeAll [] (rows.map renderRow)).1.map (.insert t) := by
  generalize same : (⟨.select sql, .ok stream⟩ : CallEvent) = e at h
  cases h with
  | refused c fault =>
    obtain ⟨rfl, answer⟩ := Sigma.mk.inj same
    cases eq_of_heq answer
  | @rows t stream' rows arrived =>
    obtain ⟨call, answer⟩ := Sigma.mk.inj same
    obtain rfl := Call.select.inj call
    cases eq_of_heq answer
    exact ⟨t, rows, rfl, arrived, rfl⟩

section Composes

variable {m : Manner} {α β : Type}

/-- If a call of the trace `t` is made to fail, the program is not successful.  It has written the
first of the pieces `ps` before that call, and writes those after it that are `Late`. -/
def BreaksOff (m : Manner) (ok : α → Prop) (p : Program DumpOp.Reply α) (t : List DumpEvent)
    (ps : List Piece) : Prop :=
  ∀ ⦃t₀ : List DumpEvent⦄ ⦃c : Call⦄ ⦃answer : c.Answer⦄ ⦃t₁ t₁' : List DumpEvent⦄ ⦃a : α⦄
    (cut : Interruption), t = t₀ ++ ⟨.ask c, answer⟩ :: t₁ →
    Path p (t₀ ++ ⟨.ask c, cut.answer answer⟩ :: t₁') a → (∀ e ∈ t₁', Sound m.clock e) →
    ¬ok a ∧ ∃ before late, before ++ late <+: ps ∧ dumped t₀ = Piece.text m before ∧
      dumped t₁' = Piece.text m late ∧ Late m.options ⟨c, cut.answer answer⟩ late

/-- Where writes succeed, a successful run writes pieces, which `Q` describes with its calls and its
result, and breaks off between them if one of its calls fails. -/
def Pieced (m : Manner) (ok : α → Prop) (p : Program DumpOp.Reply α)
    (Q : List CallEvent → List Piece → α → Prop) : Prop :=
  ∀ t a, Path p t a → (∀ e ∈ t, Sound m.clock e) → ok a →
    ∃ ps, dumped t = Piece.text m ps ∧ Q (exchanges t) ps a ∧ BreaksOff m ok p t ps

/-- No run writes anything, or is successful. -/
def Idles (ok : α → Prop) (p : Program DumpOp.Reply α) : Prop :=
  ∀ t a, Path p t a → dumped t = [] ∧ ¬ok a

/-- `Pieced` for a program that may fail. -/
def Composes (m : Manner) (x : Dumping α) (Q : List CallEvent → List Piece → α → Prop) : Prop :=
  Pieced m IsOk x.run fun e ps r => ∃ a, r = .ok a ∧ Q e ps a

variable {ok : α → Prop} {ok' : β → Prop} {p : Program DumpOp.Reply α}
  {Q : List CallEvent → List Piece → α → Prop}

theorem idles_done {a : α} (h : ¬ok a) : Idles ok (.done a) := by
  intro t b path
  obtain ⟨rfl, rfl⟩ := path_done_iff.1 path
  exact ⟨rfl, h⟩

/-- Without a call there is nothing to break off at. -/
theorem breaksOff_of_asked_eq_nil {t : List DumpEvent} (h : asked t = []) (ps : List Piece) :
    BreaksOff m ok p t ps := by
  rintro t₀ c answer t₁ t₁' a cut rfl
  simp [asked, call?] at h

theorem pieced_done {a : α} (h : Q [] [] a) : Pieced m ok (.done a) Q := by
  intro t b path _ _
  obtain ⟨rfl, rfl⟩ := path_done_iff.1 path
  exact ⟨[], rfl, h, breaksOff_of_asked_eq_nil rfl []⟩

theorem Pieced.imp {R : List CallEvent → List Piece → α → Prop} (hp : Pieced m ok p Q)
    (h : ∀ e ps a, Q e ps a → R e ps a) : Pieced m ok p R := by
  intro t a path sound succeeded
  obtain ⟨ps, same, hq, breaks⟩ := hp t a path sound succeeded
  exact ⟨ps, same, h _ _ _ hq, breaks⟩

/-- An event of two traces is one of the first or of the second. -/
theorem append_eq_append_cons {ι : Type} {s t u v : List ι} {e : ι} (h : s ++ t = u ++ e :: v) :
    (∃ mid, u = s ++ mid ∧ t = mid ++ e :: v) ∨ ∃ mid, s = u ++ e :: mid ∧ v = mid ++ t := by
  rcases List.append_eq_append_iff.1 h with ⟨mid, rfl, rest⟩ | ⟨mid, rfl, rest⟩
  · exact .inl ⟨mid, rfl, rest⟩
  · cases mid with
    | nil => exact .inl ⟨[], by simp, rest.symm⟩
    | cons e' mid =>
      obtain ⟨rfl, rfl⟩ := List.cons.inj rest
      exact .inr ⟨mid, rfl, rfl⟩

/-- The pieces of the parts follow one another.  After a first part that is not successful nothing
is written. -/
theorem Pieced.bind {f : α → Program DumpOp.Reply β} {R : List CallEvent → List Piece → β → Prop}
    (hp : Pieced m ok p Q)
    (hf : ∀ e ps a, Q e ps a → ok a → Pieced m ok' (f a) fun e' ps' b => R (e ++ e') (ps ++ ps') b)
    (hfail : ∀ a, ¬ok a → Idles ok' (f a)) : Pieced m ok' (p >>= f) R := by
  intro t b path sound succeeded
  obtain ⟨tp, a, tf, rfl, hpath, fpath⟩ := path_bind_iff.1 path
  obtain ⟨psound, fsound⟩ := List.forall_mem_append.1 sound
  have first : ok a := by
    by_contra h
    exact (hfail a h tf b fpath).2 succeeded
  obtain ⟨ps, same, hq, breaks⟩ := hp tp a hpath psound first
  obtain ⟨qs, same', hr, breaks'⟩ := hf _ _ a hq first tf b fpath fsound succeeded
  refine ⟨ps ++ qs, by rw [dumped_append, same, same', Piece.text_append],
    by rwa [exchanges_append], ?_⟩
  intro t₀ c answer t₁ t₁' b' cut split cutPath cutSound
  obtain ⟨u, a', v, parts, upath, vpath⟩ := path_bind_iff.1 cutPath
  rcases append_eq_append_cons split with ⟨mid, rfl, rfl⟩ | ⟨mid, rfl, -⟩
  · -- the call is one of the second part
    rw [List.append_assoc] at parts
    obtain ⟨rfl, rfl⟩ := hpath.unique upath parts
    obtain rfl := List.append_cancel_left parts
    obtain ⟨failed, before, late, pre, early, after, isLate⟩ := breaks' cut rfl vpath cutSound
    refine ⟨failed, ps ++ before, late, ?_, ?_, after, isLate⟩
    · rw [List.append_assoc, List.prefix_append_right_inj]
      exact pre
    · rw [dumped_append, same, early, Piece.text_append]
  · -- the call is one of the first part
    rcases append_eq_append_cons parts.symm with ⟨mid', rfl, -⟩ | ⟨mid', rfl, rfl⟩
    · have same : u ++ (mid' ++ ⟨.ask c, answer⟩ :: mid) =
          u ++ mid' ++ ⟨.ask c, answer⟩ :: mid ++ [] := by simp
      obtain ⟨longer, -⟩ := upath.unique hpath same
      simp at longer
    · obtain ⟨uSound, -⟩ := List.forall_mem_append.1 cutSound
      obtain ⟨failed, before, late, pre, early, after, isLate⟩ := breaks cut rfl upath uSound
      obtain ⟨silent, failed'⟩ := hfail a' failed v b' vpath
      refine ⟨failed', before, late, pre.trans (List.prefix_append _ _), early, ?_, isLate⟩
      rw [dumped_append, after, silent, List.append_nil]

/-! ## Dumps that may fail -/

variable {x : Dumping α}

theorem Composes.imp {R : List CallEvent → List Piece → α → Prop} (hx : Composes m x Q)
    (h : ∀ e ps a, Q e ps a → R e ps a) : Composes m x R := by
  refine Pieced.imp hx ?_
  rintro e ps r ⟨a, rfl, hq⟩
  exact ⟨a, rfl, h e ps a hq⟩

theorem composes_pure {a : α} (h : Q [] [] a) : Composes m (pure a) Q :=
  pieced_done ⟨a, rfl, h⟩

/-- Any result, as a dump that does nothing. -/
theorem composes_result {r : Except DumpError α} (h : ∀ a, r = .ok a → Q [] [] a) :
    Composes m (ExceptT.mk (pure r)) Q := by
  cases r with
  | ok a => exact composes_pure (h a rfl)
  | error e =>
    intro t r path _ succeeded
    obtain ⟨-, rfl⟩ := path_done_iff.1 path
    exact absurd succeeded not_okWith_error

theorem Composes.bind {f : α → Dumping β} {R : List CallEvent → List Piece → β → Prop}
    (hx : Composes m x Q)
    (hf : ∀ e ps a, Q e ps a → Composes m (f a) fun e' ps' b => R (e ++ e') (ps ++ ps') b) :
    Composes m (x >>= f) R := by
  unfold Composes
  rw [ExceptT.run_bind]
  refine Pieced.bind hx ?_ ?_
  · rintro e ps r ⟨a, rfl, hq⟩ -
    exact hf e ps a hq
  · rintro (e | a) failed
    · exact idles_done not_okWith_error
    · exact absurd ⟨a, rfl, trivial⟩ failed

/-- A single operation that is no call. -/
theorem composes_step {op : DumpOp} {f : op.Reply → Except DumpError α}
    (silent : ∀ c, op ≠ .ask c) (h : ∀ r a, Sound m.clock ⟨op, r⟩ → f r = .ok a →
      ∃ ps, DumpEvent.bytes ⟨op, r⟩ = Piece.text m ps ∧ Q [] ps a) :
    Composes m (ExceptT.mk (.step op fun r => .done (f r))) Q := by
  intro t r path sound succeeded
  obtain ⟨reply, rfl, rfl⟩ := path_step_done_iff.1 path
  obtain ⟨a, ha, -⟩ := succeeded
  obtain ⟨ps, same, hq⟩ := h reply a (sound _ (List.mem_singleton_self _)) ha
  have none : asked [⟨op, reply⟩] = [] ∧ exchanges [⟨op, reply⟩] = [] := by
    cases op with
    | ask c => exact absurd rfl (silent c)
    | write op => exact ⟨rfl, rfl⟩
    | now => exact ⟨rfl, rfl⟩
  refine ⟨ps, ?_, ⟨a, ha, ?_⟩, breaksOff_of_asked_eq_nil none.1 ps⟩
  · rw [← same]
    exact List.append_nil _
  · rwa [none.2]

/-- A call that is no query. -/
theorem composes_ask {c : Call} (hc : ∀ sql, c ≠ .select sql) (wrap : Fault → DumpError) :
    Composes m (Dumping.ask c wrap) fun e ps a => e = [⟨c, .ok a⟩] ∧ ps = [] := by
  intro t r path _ succeeded
  obtain ⟨answer, rfl, rfl⟩ := Dumping.path_ask_iff.1 path
  obtain ⟨a, rfl, -⟩ := okWith_mapError_iff.1 succeeded
  refine ⟨[], rfl, ⟨a, rfl, rfl, rfl⟩, ?_⟩
  intro t₀ c' answer t₁ t₁' r cut split cutPath _
  cases t₀ with
  | cons e t₀ => simp at split
  | nil =>
    cases split
    obtain ⟨fault, refused⟩ := cut.exists_answer_eq hc (.ok a)
    rw [refused] at cutPath ⊢
    obtain ⟨answer, same, rfl⟩ := Dumping.path_ask_iff.1 cutPath
    cases same
    exact ⟨not_okWith_error, [], [], List.nil_prefix, rfl, rfl, .refused c fault⟩

theorem composes_piece {lines : Lines} {p : Piece} (h : lines.bytes = p.bytes m) :
    Composes m (Dumping.writeSection lines) fun e ps _ => e = [] ∧ ps = [p] := by
  refine composes_step nofun fun _ _ _ _ => ⟨[p], ?_, rfl, rfl⟩
  rw [Piece.text_singleton, ← h]
  rfl

theorem composes_flush : Composes m Dumping.flush fun e ps _ => e = [] ∧ ps = [] :=
  composes_step nofun fun _ _ _ _ => ⟨[], rfl, rfl, rfl⟩

theorem composes_now :
    Composes m Dumping.now fun e ps time => e = [] ∧ ps = [] ∧ time = m.clock := by
  refine composes_step nofun fun time time' same h => ⟨[], rfl, rfl, rfl, ?_⟩
  cases h
  exact same

/-- What a program that only writes does in a dump. -/
theorem trace_writing {t : List (Program.Event WriterOp.Reply)} :
    asked (t.map ofWriting) = [] ∧ exchanges (t.map ofWriting) = [] ∧
      dumped (t.map ofWriting) = Writing.written t := by
  refine ⟨?_, ?_, ?_⟩
  · rw [asked, List.filterMap_map]
    exact List.filterMap_eq_nil_iff.2 fun e _ => rfl
  · rw [exchanges, List.filterMap_map]
    exact List.filterMap_eq_nil_iff.2 fun e _ => rfl
  · induction t with
    | nil => rfl
    | cons e t ih =>
      rw [List.map_cons, dumped, List.flatMap_cons, ← dumped, ih]
      obtain ⟨_ | _, _⟩ := e <;> rfl

/-- Where writes succeed, a program that only writes ends with `a` and has written `b`. -/
theorem Writes.path_toDump {p : Writing α} {a a' : α} {b : Bytes} {t : List DumpEvent}
    (h : Writes p a b) (path : Path p.toDump t a') (sound : ∀ e ∈ t, Sound m.clock e) :
    a' = a ∧ asked t = [] ∧ exchanges t = [] ∧ dumped t = b := by
  obtain ⟨t', rfl, path'⟩ := (path_expand_iff path_performWrite_iff).1 path
  obtain ⟨rfl, rfl⟩ := h t' a' path' fun e he => sound _ (List.mem_map_of_mem he)
  exact ⟨rfl, trace_writing⟩

theorem composes_writing {p : Writing α} {a : α} {b : Bytes} {ps : List Piece}
    (h : Writes p a b) (hb : b = Piece.text m ps) :
    Composes m (ExceptT.lift p.toDump) fun e ps' a' => e = [] ∧ ps' = ps ∧ a' = a := by
  have run : (ExceptT.lift p.toDump : Dumping α).run = p.toDump >>= fun a => .done (.ok a) := by
    rw [ExceptT.run_lift, map_eq_pure_bind]
    rfl
  intro t r path sound _
  rw [run] at path
  obtain ⟨t₁, a', t₂, rfl, h₁, h₂⟩ := path_bind_iff.1 path
  obtain ⟨rfl, rfl⟩ := path_done_iff.1 h₂
  rw [List.append_nil] at sound ⊢
  obtain ⟨rfl, asks, exchanged, wrote⟩ := h.path_toDump h₁ sound
  exact ⟨ps, by rw [wrote, hb], ⟨a', rfl, exchanged, rfl, rfl⟩, breaksOff_of_asked_eq_nil asks ps⟩

/-- A program that only asks, and makes no query, as part of a dump. -/
theorem composes_asking {p : Asking α} {R : List CallEvent → α → Prop}
    (hp : ∀ t a, Path p.run t (.ok a) → R t a) (fails : Surfaces Call.Faulty IsOk p.run)
    (only : Only (fun e => ∀ sql, e.1 ≠ .select sql) p.run) :
    Composes m p.toDump fun e ps a => ps = [] ∧ R e a := by
  have dumped_asking (t : List CallEvent) : dumped (t.map ofAsking) = [] :=
    List.flatMap_eq_nil_iff.2 (List.forall_mem_map.2 fun e _ => rfl)
  have exchanges_asking (t : List CallEvent) : exchanges (t.map ofAsking) = t := by
    rw [exchanges, List.filterMap_map]
    exact List.filterMap_some
  intro t r path _ succeeded
  obtain ⟨t', rfl, path'⟩ := (path_expand_iff path_performAsk_iff).1 path
  obtain ⟨a, rfl, -⟩ := succeeded
  refine ⟨[], dumped_asking t', ⟨a, rfl, rfl, ?_⟩, ?_⟩
  · rw [exchanges_asking]
    exact hp t' a path'
  · intro t₀ c answer t₁ t₁' r cut split cutPath _
    generalize replaced : cut.answer answer = answer' at cutPath ⊢
    obtain ⟨u, parts, upath⟩ := (path_expand_iff path_performAsk_iff).1 cutPath
    obtain ⟨u₀, u₁, rfl, rfl, rest⟩ := List.append_eq_map_iff.1 parts
    obtain ⟨⟨c, answer'⟩, u₁, rfl, he, rfl⟩ := List.map_eq_cons_iff.1 rest
    cases he
    have noQuery : ∀ sql, c ≠ .select sql :=
      only _ _ upath ⟨c, answer'⟩ (List.mem_append_right _ List.mem_cons_self)
    obtain ⟨fault, refused⟩ := cut.exists_answer_eq noQuery answer
    obtain rfl : answer' = .error fault := replaced.symm.trans refused
    refine ⟨fun h => ?_, [], [], List.nil_prefix, dumped_asking u₀, dumped_asking u₁,
      .refused c fault⟩
    exact (fails _ _ upath).1 h _ (List.mem_append_right _ List.mem_cons_self) not_okWith_error

theorem composes_followedBy (hx : Composes m x Q) {c : Call} (hc : ∀ sql, c ≠ .select sql) :
    Composes m (x.followedBy c) fun e ps a =>
      ∃ e' last, e = e' ++ [⟨c, .ok last⟩] ∧ Q e' ps a := by
  unfold Composes Dumping.followedBy
  rw [ExceptT.run_bind_lift]
  refine Pieced.bind hx ?_ ?_
  · rintro e ps r ⟨a, rfl, hq⟩ -
    rw [ExceptT.run_bind_lift]
    refine Pieced.bind (composes_ask hc .fault) ?_ ?_
    · rintro e' ps' r ⟨last, rfl, rfl, rfl⟩ -
      exact pieced_done ⟨a, rfl, e, last, by simp, by simpa using hq⟩
    · rintro (e | last) failed
      · exact idles_done not_okWith_error
      · exact absurd ⟨last, rfl, trivial⟩ failed
  · rintro (e | a) failed
    · intro t r path
      obtain ⟨t₁, result, t₂, rfl, call, rest⟩ := path_lift_bind_iff.1 path
      obtain ⟨answer, rfl, rfl⟩ := Dumping.path_ask_iff.1 call
      obtain ⟨rfl, rfl⟩ := path_done_iff.1 rest
      exact ⟨rfl, not_okWith_error⟩
    · exact absurd ⟨a, rfl, trivial⟩ failed

end Composes

end LogicalBackup
