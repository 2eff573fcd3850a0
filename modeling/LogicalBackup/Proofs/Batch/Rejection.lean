import LogicalBackup.Proofs.Batch.Receive

/-!
# Rows that are rejected

A batch can be used step by step, and used further after a row that could not be scanned
(`Batch.performAll`).  Such a row changes neither the batch nor the sink
(`perform_of_not_accepted`), so whatever follows goes as if the row had never come
(`rejected_rows_leave_no_mark`).
-/

namespace LogicalBackup

/-- Whether something was successful can be seen. -/
instance decidableExistsOk {α ε : Type} (r : Except ε α) : Decidable (∃ a, r = .ok a) :=
  match r with
  | .ok a => isTrue ⟨a, rfl⟩
  | .error _ => isFalse fun ⟨_, h⟩ => nomatch h

instance (classes : List ColumnClass) (cells : List Cell) : Decidable (ScansRow classes cells) :=
  inferInstanceAs (Decidable (_ ∧ ∀ p ∈ classes.zip cells, _))

namespace Batch

/-- What can be done with a batch. -/
inductive Step where
  /-- The columns of a result set are told. -/
  | start (columns : List Column)
  /-- A row of a result set arrives. -/
  | cells (row : List Cell)
  /-- The tuple of a row is added. -/
  | tuple (row : Bytes)

namespace Step

/-- The classes of the columns after a step. -/
def classes (before : List ColumnClass) : Step → List ColumnClass
  | start columns => columns.map Column.cellClass
  | cells _ | tuple _ => before

/-- Only a row that cannot be scanned is not accepted. -/
def Accepted (classes : List ColumnClass) : Step → Prop
  | start _ | tuple _ => True
  | cells row => ScansRow classes row

instance (classes : List ColumnClass) (step : Step) : Decidable (step.Accepted classes) :=
  match step with
  | start _ | tuple _ => isTrue trivial
  | cells row => inferInstanceAs (Decidable (ScansRow classes row))

/-- The steps without those that are not accepted, each with the columns that were told last. -/
def accepted : List ColumnClass → List Step → List Step
  | _, [] => []
  | before, step :: rest =>
    if step.Accepted before then step :: accepted (step.classes before) rest
    else accepted before rest

end Step

/-- Performs a step. -/
def perform (b : Batch) : Step → Writing (Except Fault Unit × Batch)
  | .start columns => return (.ok (), b.start columns)
  | .cells row => b.pushCells row
  | .tuple row => do
    let (result, b) ← b.pushRow row
    return (result.mapError Fault.io, b)

/-- What came of a step. -/
structure Outcome where
  step : Step
  result : Except Fault Unit
  /-- The bytes that reached the sink. -/
  emitted : Bytes

/-- Whether a step was successful. -/
def Outcome.Succeeded (o : Outcome) : Prop := ∃ u, o.result = .ok u

instance (o : Outcome) : Decidable o.Succeeded := decidableExistsOk o.result

/-- What came of the steps that were successful. -/
def successes (outcomes : List Outcome) : List Outcome := outcomes.filter fun o => o.Succeeded

/-- What came of a batch that was used step by step and then finished. -/
structure Report where
  outcomes : List Outcome
  finished : Except IoFault BatchStats
  /-- The bytes that reached the sink at the end. -/
  last : Bytes

section Use

variable {ω : Type} (writer : Writer ω) (content : ω → Bytes)

/-- The bytes that reached the sink between two states. -/
def emittedBetween (w w' : ω) : Bytes := (content w').drop (content w).length

/-- Performs steps one after another, whatever their results: what came of each, and the batch and
the sink after them. -/
def performAll (b : Batch) (w : ω) : List Step → List Outcome × Batch × ω
  | [] => ([], b, w)
  | step :: rest =>
    let ((result, b'), w') := (b.perform step).run writer.answer w
    let (outcomes, final) := performAll b' w' rest
    (⟨step, result, emittedBetween content w w'⟩ :: outcomes, final)

/-- Performs steps, and then finishes the batch. -/
def performAndFinish (b : Batch) (w : ω) (steps : List Step) : Report × ω :=
  let (outcomes, b', w') := b.performAll writer content w steps
  let (finished, w'') := b'.finish.run writer.answer w'
  (⟨outcomes, finished, emittedBetween content w' w''⟩, w'')

end Use

open Program Writing

variable {b : Batch}

/-! ## One step -/

/-- A row that is rejected touches nothing. -/
theorem perform_of_not_accepted {step : Step} (h : ¬step.Accepted b.classes) :
    ∃ row fault, step = .cells row ∧ b.perform step = .done (.error fault, b) := by
  cases step with
  | start columns => exact absurd trivial h
  | tuple row => exact absurd trivial h
  | cells row =>
    cases scanned : b.scanRow row with
    | ok values => exact absurd (exists_scanRow_iff.1 ⟨values, scanned⟩) h
    | error fault =>
      refine ⟨row, fault, rfl, ?_⟩
      rw [perform, pushCells, scanned]
      rfl

/-- A row that can be scanned is added as its tuple. -/
theorem perform_cells {row : List Cell} {values : List Value} (h : b.scanRow row = .ok values) :
    b.perform (.cells row) = b.perform (.tuple (renderRow values)) := by
  change b.pushCells row = _
  rw [pushCells, h]
  rfl

theorem yields_perform (step : Step) :
    Yields (fun r => r.2.classes = step.classes b.classes) (b.perform step) := by
  have added (row : Bytes) : Yields (fun r => r.2.classes = b.classes) (b.perform (.tuple row)) :=
    Yields.bind (yields_pushRow row) fun _ same => yields_done same
  cases step with
  | start columns => exact yields_done rfl
  | tuple row => exact added row
  | cells row =>
    by_cases h : Step.Accepted b.classes (.cells row)
    · obtain ⟨values, scanned⟩ := exists_scanRow_iff.2 h
      rw [perform_cells scanned]
      exact added (renderRow values)
    · obtain ⟨_, fault, -, rejected⟩ := perform_of_not_accepted h
      rw [rejected]
      exact yields_done rfl

/-- A step that is accepted succeeds unless a write fails. -/
theorem surfaces_perform {step : Step} (h : step.Accepted b.classes) :
    Surfaces Failed (fun r => IsOk r.1) (b.perform step) := by
  have added (row : Bytes) : Surfaces Failed (fun r => IsOk r.1) (b.perform (.tuple row)) :=
    (surfaces_pushRow b row).bindState (fun u c => surfaces_done ⟨u, rfl, trivial⟩)
      fun e c => yields_done not_okWith_error
  cases step with
  | start columns => exact surfaces_done ⟨(), rfl, trivial⟩
  | tuple row => exact added row
  | cells row =>
    obtain ⟨values, scanned⟩ := exists_scanRow_iff.2 h
    rw [perform_cells scanned]
    exact added (renderRow values)

/-! ## A writer that never fails -/

section Records

variable {β ω : Type} {writer : Writer ω} {fit : ω → Prop} {content : ω → Bytes} {w : ω}

theorem content_run (h : writer.Records fit content) {α : Type} (p : Writing α) (hw : fit w) :
    content (p.run writer.answer w).2 =
      content w ++ emittedBetween content w (p.run writer.answer w).2 := by
  obtain ⟨-, -, grown⟩ := h.run p hw
  rw [emittedBetween, grown, List.drop_left]

theorem isOk_run (h : writer.Records fit content) {α ε : Type} {p : Writing α}
    {f : α → Except ε β} (hp : Surfaces Failed (fun r => IsOk (f r)) p) (hw : fit w) :
    IsOk (f (p.run writer.answer w).1) := by
  obtain ⟨clean, -, -⟩ := h.run p hw
  exact (hp _ _ (path_trace writer.answer p w)).2 fun e he failed => failed (clean e he)

variable (writer fit content) in
/-- What is true of steps that are performed over such a writer. -/
structure Performed (b : Batch) (w : ω) (steps : List Step) (outcomes : List Outcome) (b' : Batch)
    (w' : ω) : Prop where
  /-- There is an outcome for each step. -/
  steps_eq : outcomes.map (·.step) = steps
  /-- The steps that succeed are those that are accepted. -/
  succeeded : (successes outcomes).map (·.step) = Step.accepted b.classes steps
  /-- A step that fails is a row, and emits nothing. -/
  failed : ∀ o ∈ outcomes, ¬o.Succeeded → (∃ row, o.step = .cells row) ∧ o.emitted = []
  /-- Without the steps that fail the others go as they did. -/
  without : b.performAll writer content w (Step.accepted b.classes steps) =
    (successes outcomes, b', w')
  content_eq : content w' = content w ++ outcomes.flatMap (·.emitted)
  fit_end : fit w'

theorem Performed.nil (b : Batch) (hw : fit w) : Performed writer fit content b w [] [] b w where
  steps_eq := rfl
  succeeded := rfl
  failed _ ho := absurd ho List.not_mem_nil
  without := rfl
  content_eq := (List.append_nil _).symm
  fit_end := hw

variable {step : Step} {rest : List Step} {outcomes : List Outcome} {b' : Batch} {w' : ω}

theorem successes_ok (emitted : Bytes) : successes (⟨step, .ok (), emitted⟩ :: outcomes) =
    ⟨step, .ok (), emitted⟩ :: successes outcomes := rfl

theorem successes_error (fault : Fault) (emitted : Bytes) :
    successes (⟨step, .error fault, emitted⟩ :: outcomes) = successes outcomes := rfl

theorem performAll_cons {result : Except Fault Unit} {b₁ : Batch} {w₁ : ω}
    (h : (b.perform step).run writer.answer w = ((result, b₁), w₁)) (rest : List Step) :
    b.performAll writer content w (step :: rest) =
      (⟨step, result, emittedBetween content w w₁⟩ :: (b₁.performAll writer content w₁ rest).1,
        (b₁.performAll writer content w₁ rest).2) := by
  rw [performAll, h]

/-- A step that is accepted, and then others. -/
theorem Performed.cons_accepted (h : writer.Records fit content) (hw : fit w)
    (ha : step.Accepted b.classes) {b₁ : Batch} {w₁ : ω}
    (first : (b.perform step).run writer.answer w = ((.ok (), b₁), w₁))
    (later : Performed writer fit content b₁ w₁ rest outcomes b' w') :
    Performed writer fit content b w (step :: rest)
      (⟨step, .ok (), emittedBetween content w w₁⟩ :: outcomes) b' w' := by
  have classes : b₁.classes = step.classes b.classes := by
    have same := yields_perform (b := b) step _ _ (path_trace writer.answer _ w)
    rwa [first] at same
  have grown : content w₁ = content w ++ emittedBetween content w w₁ := by
    have all := content_run h (b.perform step) hw
    rwa [first] at all
  have kept : Step.accepted b.classes (step :: rest) = step :: Step.accepted b₁.classes rest := by
    rw [Step.accepted, if_pos ha, classes]
  refine ⟨?_, ?_, ?_, ?_, ?_, later.fit_end⟩
  · rw [List.map_cons, later.steps_eq]
  · rw [successes_ok, List.map_cons, later.succeeded, kept]
  · intro o ho bad
    rcases List.mem_cons.1 ho with rfl | ho
    · exact absurd ⟨(), rfl⟩ bad
    · exact later.failed o ho bad
  · rw [kept, performAll_cons first, later.without, successes_ok]
  · rw [later.content_eq, grown, List.flatMap_cons, List.append_assoc]

/-- A step that is not accepted, and then others. -/
theorem Performed.cons_not_accepted (hn : ¬step.Accepted b.classes) {row : List Cell}
    (hrow : step = .cells row) (fault : Fault)
    (later : Performed writer fit content b w rest outcomes b' w') :
    Performed writer fit content b w (step :: rest)
      (⟨step, .error fault, []⟩ :: outcomes) b' w' := by
  have kept : Step.accepted b.classes (step :: rest) = Step.accepted b.classes rest := by
    rw [Step.accepted, if_neg hn]
  refine ⟨?_, ?_, ?_, ?_, ?_, later.fit_end⟩
  · rw [List.map_cons, later.steps_eq]
  · rw [successes_error, kept, later.succeeded]
  · intro o ho failed
    rcases List.mem_cons.1 ho with rfl | ho
    · exact ⟨⟨row, hrow⟩, rfl⟩
    · exact later.failed o ho failed
  · rw [successes_error, kept, later.without]
  · rw [List.flatMap_cons, List.nil_append, later.content_eq]

/-- Whatever is done with a batch, the steps that fail leave it as it was. -/
theorem performed_performAll (h : writer.Records fit content) (b : Batch) (hw : fit w)
    (steps : List Step) :
    Performed writer fit content b w steps (b.performAll writer content w steps).1
      (b.performAll writer content w steps).2.1 (b.performAll writer content w steps).2.2 := by
  induction steps generalizing b w with
  | nil => exact .nil b hw
  | cons step rest ih =>
    by_cases ha : step.Accepted b.classes
    · obtain ⟨u, ok, -⟩ := isOk_run h (surfaces_perform ha) hw
      rcases first : (b.perform step).run writer.answer w with ⟨⟨result, b₁⟩, w₁⟩
      rw [first] at ok
      obtain rfl : result = .ok () := ok
      have hw₁ : fit w₁ := by
        obtain ⟨-, last, -⟩ := h.run (b.perform step) hw
        rwa [first] at last
      rw [performAll_cons first]
      exact .cons_accepted h hw ha first (ih b₁ hw₁)
    · obtain ⟨row, fault, hrow, rejected⟩ := perform_of_not_accepted ha
      have first : (b.perform step).run writer.answer w = ((.error fault, b), w) := by
        rw [rejected, run_done]
      have nothing : emittedBetween content w w = [] := List.drop_length
      rw [performAll_cons first, nothing]
      exact .cons_not_accepted ha hrow fault (ih b hw)

/-- What a batch does is what it does without the rows that could not be scanned: they emit nothing,
and neither the other steps nor the end show that they came.  The steps that fail are just those
rows. -/
theorem rejected_rows_leave_no_mark (h : writer.Records fit content) (b : Batch) (hw : fit w)
    (steps : List Step) :
    let whole := b.performAndFinish writer content w steps
    let clean := b.performAndFinish writer content w (Step.accepted b.classes steps)
    whole.1.outcomes.map (·.step) = steps ∧
    (successes whole.1.outcomes).map (·.step) = Step.accepted b.classes steps ∧
    (∀ o ∈ whole.1.outcomes, ¬o.Succeeded → (∃ row, o.step = .cells row) ∧ o.emitted = []) ∧
    clean.1 = { whole.1 with outcomes := successes whole.1.outcomes } ∧
    IsOk whole.1.finished ∧
    content whole.2 = content w ++ whole.1.outcomes.flatMap (·.emitted) ++ whole.1.last := by
  intro whole clean
  have facts := performed_performAll h b hw steps
  refine ⟨facts.steps_eq, facts.succeeded, facts.failed, ?_, ?_, ?_⟩
  · change (b.performAndFinish writer content w _).1 = _
    rw [performAndFinish, facts.without]
    rfl
  · exact isOk_run (f := id) h (surfaces_finish _) facts.fit_end
  · have last := content_run h (b.performAll writer content w steps).2.1.finish facts.fit_end
    rw [facts.content_eq] at last
    exact last

/-- Rows with a cell that is no integer, or with too many cells, before and after the columns
change. -/
theorem rejected_rows_leave_no_mark_of_three :
    let column : Column := { name := "c", typeName := "INT", kind := .signedInteger }
    let batch : Batch := { stem := utf8 "I ", packet := 12, extended := true }
    let steps : List Step := [.start [column], .cells [some (utf8 "1")], .cells [some (utf8 "x")],
      .cells [none, none], .start [column, column], .cells [some (utf8 "3"), some [0xff]],
      .tuple (utf8 "(2,2)")]
    let rest : List Step := [.start [column], .cells [some (utf8 "1")], .start [column, column],
      .tuple (utf8 "(2,2)")]
    let whole := batch.performAndFinish Medium.sink.writer Medium.content {} steps
    let clean := batch.performAndFinish Medium.sink.writer Medium.content {} rest
    (successes whole.1.outcomes).map (·.step) = rest ∧
      (∀ o ∈ whole.1.outcomes, ¬o.Succeeded → o.emitted = []) ∧
      clean.1.outcomes = successes whole.1.outcomes ∧ clean.1.finished = whole.1.finished ∧
      clean.1.last = whole.1.last := by
  intro column batch steps rest whole clean
  have kept : Step.accepted batch.classes steps = rest := rfl
  obtain ⟨-, succeeded, failed, same, -⟩ := rejected_rows_leave_no_mark
    Medium.neverFails_sink.records batch (w := {}) ⟨rfl, rfl⟩ steps
  rw [kept] at succeeded same
  refine ⟨succeeded, fun o ho bad => (failed o ho bad).2, ?_, ?_, ?_⟩
  · exact (congrArg Report.outcomes same).trans rfl
  · exact (congrArg Report.finished same).trans rfl
  · exact (congrArg Report.last same).trans rfl

end Records

end Batch

end LogicalBackup
