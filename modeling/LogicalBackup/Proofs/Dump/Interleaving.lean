import LogicalBackup.Proofs.Dump.Answers
import Mathlib.Logic.Function.Basic

/-!
# Programs that take turns

Workers have a program each and a writer of their own, and share a server, which is told who calls
(`Connector`).  They take turns as a schedule says, one operation at a time (`Connector.interleave`).
A worker feels the others only in the answers to its calls: a run that is answered in the same way
goes the same way (`Ran.run_eq`), and so does the turn of a worker among others
(`exists_ran_interleave`).  In a server whose sessions have nothing to do with each other
(`Connector.SessionLocal`) the answers are those that the worker would get alone.
-/

namespace LogicalBackup

open Program DumpEvent

variable {α σ ω : Type}

/-! ## Answers -/

/-- Makes calls in their order, and notes the answers. -/
def Server.answers (server : Server σ) : List Call → σ → List CallEvent
  | [], _ => []
  | c :: rest, s => ⟨c, (server c s).1⟩ :: server.answers rest (server c s).2

/-- The first call, if there is one, begins a session. -/
def BeginSession (calls : List Call) : Prop := ∀ c ∈ calls.head?, c = .beginSnapshot

/-- From the beginning of a session on, the answers depend on the calls that are made since, and not
on what was before. -/
def Server.SessionLocal (server : Server σ) : Prop :=
  ∀ calls s s', BeginSession calls → server.answers calls s = server.answers calls s'

/-- A server that is told the number of the caller. -/
abbrev Connector (σ : Type) : Type := Nat → Server σ

/-- Of the entries of several callers, those of one. -/
def entriesOf {ι : Type} (k : Nat) (log : List (Nat × ι)) : List ι :=
  (log.filter (·.1 == k)).map Prod.snd

@[simp] theorem entriesOf_cons_self {ι : Type} (k : Nat) (x : ι) (log : List (Nat × ι)) :
    entriesOf k ((k, x) :: log) = x :: entriesOf k log := by
  simp [entriesOf]

@[simp] theorem entriesOf_cons_of_ne {ι : Type} {j k : Nat} (h : j ≠ k) (x : ι)
    (log : List (Nat × ι)) : entriesOf k ((j, x) :: log) = entriesOf k log := by
  simp [entriesOf, h]

theorem entriesOf_append {ι : Type} (k : Nat) (log log' : List (Nat × ι)) :
    entriesOf k (log ++ log') = entriesOf k log ++ entriesOf k log' := by
  simp [entriesOf]

theorem entriesOf_alone {ι : Type} (k : Nat) (xs : List ι) :
    entriesOf k (xs.map (k, ·)) = xs := by
  induction xs with
  | nil => rfl
  | cons x xs ih => rw [List.map_cons, entriesOf_cons_self, ih]

namespace Connector

variable (connector : Connector σ)

/-- Makes calls of several callers in their order, and notes the answers. -/
def answers : List (Nat × Call) → σ → List (Nat × CallEvent)
  | [], _ => []
  | (k, c) :: rest, s => (k, ⟨c, (connector k c s).1⟩) :: answers rest (connector k c s).2

/-- From the beginning of a session on, the answers depend on the calls that its caller has made
since, and neither on what was before nor on other callers. -/
def SessionLocal : Prop :=
  ∀ i j log log' s s', entriesOf i log = entriesOf j log' → BeginSession (entriesOf i log) →
    entriesOf i (connector.answers log s) = entriesOf j (connector.answers log' s')

theorem entriesOf_answers_map_fst (k : Nat) (log : List (Nat × Call)) (s : σ) :
    (entriesOf k (connector.answers log s)).map Sigma.fst = entriesOf k log := by
  induction log generalizing s with
  | nil => rfl
  | cons entry log ih =>
    obtain ⟨j, c⟩ := entry
    rw [answers]
    by_cases h : j = k
    · subst h
      rw [entriesOf_cons_self, entriesOf_cons_self, List.map_cons, ih]
    · rw [entriesOf_cons_of_ne h, entriesOf_cons_of_ne h, ih]

/-- The state of the server after calls. -/
def after (log : List (Nat × Call)) (s : σ) : σ :=
  log.foldl (fun s entry => (connector entry.1 entry.2 s).2) s

theorem after_append (log log' : List (Nat × Call)) (s : σ) :
    connector.after (log ++ log') s = connector.after log' (connector.after log s) :=
  List.foldl_append

theorem answers_append (log log' : List (Nat × Call)) (s : σ) :
    connector.answers (log ++ log') s =
      connector.answers log s ++ connector.answers log' (connector.after log s) := by
  induction log generalizing s with
  | nil => rfl
  | cons entry log ih => exact congrArg (_ :: ·) (ih _)

/-- A caller who is alone. -/
theorem entriesOf_answers_alone (k : Nat) (calls : List Call) (s : σ) :
    entriesOf k (connector.answers (calls.map (k, ·)) s) = (connector k).answers calls s := by
  induction calls generalizing s with
  | nil => rfl
  | cons c calls ih =>
    rw [List.map_cons, answers, entriesOf_cons_self, ih]
    rfl

variable {connector}

/-- Among others a caller gets the answers that another would get alone. -/
theorem SessionLocal.answers_eq (h : connector.SessionLocal) {i : Nat} {log : List (Nat × Call)}
    (begins : BeginSession (entriesOf i log)) (k : Nat) (s s' : σ) :
    entriesOf i (connector.answers log s) = (connector k).answers (entriesOf i log) s' := by
  rw [← connector.entriesOf_answers_alone k]
  exact h i k log _ s s' (entriesOf_alone k _).symm begins

end Connector

/-- The connector that keeps a state for each caller. -/
def Server.perCaller (server : Server σ) : Connector (Nat → σ) := fun k c s =>
  ((server c (s k)).1, Function.update s k (server c (s k)).2)

theorem Server.entriesOf_answers_perCaller (server : Server σ) (k : Nat) (log : List (Nat × Call))
    (s : Nat → σ) :
    entriesOf k (server.perCaller.answers log s) = server.answers (entriesOf k log) (s k) := by
  induction log generalizing s with
  | nil => rfl
  | cons entry log ih =>
    obtain ⟨j, c⟩ := entry
    rw [Connector.answers]
    by_cases h : j = k
    · subst h
      rw [entriesOf_cons_self, entriesOf_cons_self, ih]
      dsimp only [perCaller]
      rw [Function.update_self]
      rfl
    · rw [entriesOf_cons_of_ne h, entriesOf_cons_of_ne h, ih]
      dsimp only [perCaller]
      rw [Function.update_of_ne (Ne.symm h)]

/-- Callers with a state each have sessions of their own. -/
theorem Server.SessionLocal.perCaller {server : Server σ} (h : server.SessionLocal) :
    server.perCaller.SessionLocal := by
  intro i j log log' s s' same begins
  rw [server.entriesOf_answers_perCaller, server.entriesOf_answers_perCaller, ← same]
  exact h _ _ _ begins

/-! ## What a program does -/

/-- With the writer and the clock, and with the answers to its calls that stand in the trace, the
program comes to what is left of it. -/
inductive Ran (writer : Writer ω) (clock : DateTime) : Program DumpOp.Reply α → ω →
    List DumpEvent → Program DumpOp.Reply α → ω → Prop
  | refl (p : Program DumpOp.Reply α) (w : ω) : Ran writer clock p w [] p w
  | ask {c : Call} {next : c.Answer → Program DumpOp.Reply α} {w w' : ω} {t : List DumpEvent}
      {p : Program DumpOp.Reply α} (answer : c.Answer) :
      Ran writer clock (next answer) w t p w' →
      Ran writer clock (.step (.ask c) next) w (⟨.ask c, answer⟩ :: t) p w'
  | write {op : WriterOp} {next : op.Reply → Program DumpOp.Reply α} {w w' : ω}
      {t : List DumpEvent} {p : Program DumpOp.Reply α} :
      Ran writer clock (next (writer.answer op w).1) (writer.answer op w).2 t p w' →
      Ran writer clock (.step (.write op) next) w (⟨.write op, (writer.answer op w).1⟩ :: t) p w'
  | now {next : DateTime → Program DumpOp.Reply α} {w w' : ω} {t : List DumpEvent}
      {p : Program DumpOp.Reply α} :
      Ran writer clock (next clock) w t p w' →
      Ran writer clock (.step .now next) w (⟨.now, clock⟩ :: t) p w'

section Ran

variable {writer : Writer ω} {clock : DateTime} {p p' p'' : Program DumpOp.Reply α} {w w' w'' : ω}
  {t t' : List DumpEvent}

theorem Ran.trans (h : Ran writer clock p w t p' w') (h' : Ran writer clock p' w' t' p'' w'') :
    Ran writer clock p w (t ++ t') p'' w'' := by
  induction h with
  | refl p w => exact h'
  | ask answer _ ih => exact .ask answer (ih h')
  | write _ ih => exact .write (ih h')
  | now _ ih => exact .now (ih h')

theorem Ran.program_of_done {a : α} (h : Ran writer clock (.done a) w t p w') : p = .done a := by
  cases h
  rfl

/-- A program that has come to its end has been on a path. -/
theorem Ran.path {a : α} (h : Ran writer clock p w t (.done a) w') : Path p t a := by
  generalize ended : (Program.done a : Program DumpOp.Reply α) = p' at h
  induction h with
  | refl p w =>
    subst ended
    exact .done a
  | ask answer _ ih => exact .step _ (ih ended)
  | write _ ih => exact .step _ (ih ended)
  | now _ ih => exact .step _ (ih ended)

/-- A server that answers in the same way brings the program to the same point. -/
theorem Ran.run_eq (h : Ran writer clock p w t p' w') (server : Server σ) (s : σ)
    (same : exchanges t = server.answers (asked t) s) :
    ∃ s', Program.run { server, writer, clock : DumpWorld σ ω }.answer p (s, w) =
        Program.run { server, writer, clock : DumpWorld σ ω }.answer p' (s', w') ∧
      trace { server, writer, clock : DumpWorld σ ω }.answer p (s, w) =
        t ++ trace { server, writer, clock : DumpWorld σ ω }.answer p' (s', w') := by
  induction h generalizing s with
  | refl p w => exact ⟨s, rfl, rfl⟩
  | @ask c next w w' t p answer _ ih =>
    obtain ⟨head, tail⟩ := List.cons.inj same
    obtain rfl : answer = (server c s).1 := eq_of_heq (Sigma.mk.inj head).2
    obtain ⟨s', ran, traced⟩ := ih _ tail
    exact ⟨s', ran, congrArg (_ :: ·) traced⟩
  | write _ ih =>
    obtain ⟨s', ran, traced⟩ := ih s same
    exact ⟨s', ran, congrArg (_ :: ·) traced⟩
  | now _ ih =>
    obtain ⟨s', ran, traced⟩ := ih s same
    exact ⟨s', ran, congrArg (_ :: ·) traced⟩

/-- A run is answered by its server. -/
theorem ran_trace (world : DumpWorld σ ω) (p : Program DumpOp.Reply α) (s : σ) (w : ω) :
    Ran world.writer world.clock p w (trace world.answer p (s, w))
        (.done (Program.run world.answer p (s, w)).1) (Program.run world.answer p (s, w)).2.2 ∧
      exchanges (trace world.answer p (s, w)) =
        world.server.answers (asked (trace world.answer p (s, w))) s := by
  induction p generalizing s w with
  | done a => exact ⟨.refl _ _, rfl⟩
  | step op next ih =>
    cases op with
    | ask c =>
      obtain ⟨ran, answered⟩ := ih (world.server c s).1 (world.server c s).2 w
      exact ⟨.ask _ ran, congrArg (_ :: ·) answered⟩
    | write op =>
      obtain ⟨ran, answered⟩ := ih (world.writer.answer op w).1 s (world.writer.answer op w).2
      exact ⟨.write ran, answered⟩
    | now =>
      obtain ⟨ran, answered⟩ := ih world.clock s w
      exact ⟨.now ran, answered⟩

end Ran

/-! ## Turns -/

/-- What is left of a program, and the state of its writer. -/
structure Worker (α ω : Type) where
  program : Program DumpOp.Reply α
  writer : ω

namespace Connector

variable (connector : Connector σ) (writer : Writer ω) (clock : DateTime)

/-- The worker of this number performs its next operation, if it has not come to its end. -/
def turn (k : Nat) : σ × List (Worker α ω) → σ × List (Worker α ω)
  | (s, workers) =>
    match workers[k]? with
    | some ⟨.step op next, w⟩ =>
      let world : DumpWorld σ ω := { server := connector k, writer, clock }
      let (reply, (s, w)) := world.answer op (s, w)
      (s, workers.set k ⟨next reply, w⟩)
    | _ => (s, workers)

/-- The workers take turns, in the order of the schedule. -/
def interleave : List Nat → σ × List (Worker α ω) → σ × List (Worker α ω)
  | [], state => state
  | k :: schedule, state => interleave schedule (connector.turn writer clock k state)

/-- While these calls were made of a server in this state, the worker has had `n` turns, or it has
come to its end. -/
def Advanced (s : σ) (log : List (Nat × Call)) (i n : Nat) (v v' : Worker α ω) : Prop :=
  ∃ t, Ran writer clock v.program v.writer t v'.program v'.writer ∧
    exchanges t = entriesOf i (connector.answers log s) ∧
    (n ≤ t.length ∨ ∃ a, v'.program = .done a)

variable {connector writer clock} {s : σ} {log log' : List (Nat × Call)} {i n n' : Nat}
  {v v' v'' : Worker α ω}

theorem Advanced.trans (h : connector.Advanced writer clock s log i n v v')
    (h' : connector.Advanced writer clock (connector.after log s) log' i n' v' v'') :
    connector.Advanced writer clock s (log ++ log') i (n + n') v v'' := by
  obtain ⟨t, ran, told, turns⟩ := h
  obtain ⟨t', ran', told', turns'⟩ := h'
  refine ⟨t ++ t', ran.trans ran', ?_, ?_⟩
  · rw [exchanges_append, told, told', answers_append, entriesOf_append]
  · rcases turns with turns | ⟨a, ended⟩
    · rcases turns' with turns' | ended
      · rw [List.length_append]
        exact .inl (Nat.add_le_add turns turns')
      · exact .inr ended
    · rw [ended] at ran'
      exact .inr ⟨a, ran'.program_of_done⟩

theorem advanced_refl (v : Worker α ω) (none : entriesOf i (connector.answers log s) = [])
    (turns : n = 0 ∨ ∃ a, v.program = .done a) :
    connector.Advanced writer clock s log i n v v :=
  ⟨[], .refl _ _, none.symm, turns.imp Nat.le_of_eq id⟩

theorem count_singleton_of_ne {k : Nat} (h : i ≠ k) : [k].count i = 0 :=
  List.count_eq_zero.2 (by simpa using h)

/-- If the worker whose turn it is advances, the others stay as they are. -/
theorem advanced_set {k : Nat} {workers : List (Worker α ω)} (found : workers[k]? = some v)
    (moved : connector.Advanced writer clock s log k 1 v v')
    (others : ∀ i ≠ k, entriesOf i (connector.answers log s) = []) (i : Nat) {u : Worker α ω}
    (hu : workers[i]? = some u) :
    ∃ u', (workers.set k v')[i]? = some u' ∧
      connector.Advanced writer clock s log i ([k].count i) u u' := by
  by_cases h : i = k
  · subst h
    obtain rfl := Option.some.inj (found.symm.trans hu)
    rw [List.count_singleton_self]
    exact ⟨v', List.getElem?_set_self (List.getElem?_eq_some_iff.1 found).1, moved⟩
  · rw [List.getElem?_set_ne (Ne.symm h)]
    exact ⟨u, hu, advanced_refl u (others i h) (.inl (count_singleton_of_ne h))⟩

variable (connector writer clock)

/-- A turn advances the worker whose turn it is. -/
theorem exists_advanced_turn (k : Nat) (s : σ) (workers : List (Worker α ω)) :
    ∃ log, (connector.turn writer clock k (s, workers)).1 = connector.after log s ∧
      ∀ i v, workers[i]? = some v →
        ∃ v', (connector.turn writer clock k (s, workers)).2[i]? = some v' ∧
          connector.Advanced writer clock s log i ([k].count i) v v' := by
  unfold turn
  dsimp only
  cases found : workers[k]? with
  | none =>
    refine ⟨[], rfl, fun i v hv => ⟨v, hv, advanced_refl v rfl (.inl (count_singleton_of_ne ?_))⟩⟩
    rintro rfl
    rw [found] at hv
    cases hv
  | some worker =>
    obtain ⟨a | ⟨op, next⟩, w⟩ := worker
    · refine ⟨[], rfl, fun i v hv => ⟨v, hv, advanced_refl v rfl ?_⟩⟩
      by_cases h : i = k
      · subst h
        obtain rfl := Option.some.inj (found.symm.trans hv)
        exact .inr ⟨a, rfl⟩
      · exact .inl (count_singleton_of_ne h)
    · cases op with
      | ask c =>
        refine ⟨[(k, c)], rfl, fun i v hv => advanced_set found ?_ (fun j h => ?_) i hv⟩
        · refine ⟨_, .ask _ (.refl _ _), ?_, .inl (Nat.le_refl 1)⟩
          exact (entriesOf_cons_self k _ []).symm
        · exact entriesOf_cons_of_ne (Ne.symm h) _ []
      | write op =>
        refine ⟨[], rfl, fun i v hv => advanced_set found ?_ (fun _ _ => rfl) i hv⟩
        exact ⟨_, .write (.refl _ _), rfl, .inl (Nat.le_refl 1)⟩
      | now =>
        refine ⟨[], rfl, fun i v hv => advanced_set found ?_ (fun _ _ => rfl) i hv⟩
        exact ⟨_, .now (.refl _ _), rfl, .inl (Nat.le_refl 1)⟩

theorem length_turn (k : Nat) (state : σ × List (Worker α ω)) :
    (connector.turn writer clock k state).2.length = state.2.length := by
  unfold turn
  dsimp only
  split
  · exact List.length_set
  · rfl

theorem length_interleave (schedule : List Nat) (state : σ × List (Worker α ω)) :
    (connector.interleave writer clock schedule state).2.length = state.2.length := by
  induction schedule generalizing state with
  | nil => rfl
  | cons k schedule ih => exact (ih _).trans (connector.length_turn writer clock k state)

/-- Whatever the schedule is, there is an order of calls in which all workers are answered. -/
theorem exists_advanced_interleave (schedule : List Nat) (s : σ) (workers : List (Worker α ω)) :
    ∃ log, (connector.interleave writer clock schedule (s, workers)).1 = connector.after log s ∧
      ∀ i v, workers[i]? = some v →
        ∃ v', (connector.interleave writer clock schedule (s, workers)).2[i]? = some v' ∧
          connector.Advanced writer clock s log i (schedule.count i) v v' := by
  induction schedule generalizing s workers with
  | nil => exact ⟨[], rfl, fun i v hv => ⟨v, hv, advanced_refl v rfl (.inl rfl)⟩⟩
  | cons k schedule ih =>
    obtain ⟨log, state, first⟩ := exists_advanced_turn connector writer clock k s workers
    obtain ⟨log', state', rest⟩ :=
      ih (connector.after log s) (connector.turn writer clock k (s, workers)).2
    refine ⟨log ++ log', ?_, fun i v hv => ?_⟩
    · rw [after_append, ← state', ← state]
      rfl
    · obtain ⟨v', hv', advanced⟩ := first i v hv
      obtain ⟨v'', hv'', advanced'⟩ := rest i v' hv'
      refine ⟨v'', ?_, ?_⟩
      · rw [interleave, ← hv'', ← state]
      · rw [← List.singleton_append, List.count_append]
        exact advanced.trans advanced'

end Connector

end LogicalBackup
