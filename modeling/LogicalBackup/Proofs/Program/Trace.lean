import LogicalBackup.Program

/-!
# Traces of programs

The trace of a run is the list of operations performed, each with its reply (`Program.trace`).
`Path p t a` says that `p` ends with `a` when it is answered as in `t`; what holds of every path of
a program holds of every run of it (`path_trace`).  Paths are taken apart by the rules `path_*_iff`,
one for each way in which a program is composed.
-/

namespace LogicalBackup.Program

variable {Op : Type} {Reply : Op → Type} {α β ε σ : Type}

/-- An operation with its reply. -/
abbrev Event (Reply : Op → Type) : Type := (op : Op) × Reply op

/-- Answered as in the trace, the program ends with this result. -/
inductive Path : Program Reply α → List (Event Reply) → α → Prop
  | done (a : α) : Path (.done a) [] a
  | step {op : Op} {next : Reply op → Program Reply α} {t : List (Event Reply)} {a : α}
    (r : Reply op) : Path (next r) t a → Path (.step op next) (⟨op, r⟩ :: t) a

/-- What a program performs when it is run, with the replies. -/
def trace (answer : (op : Op) → σ → Reply op × σ) : Program Reply α → σ → List (Event Reply)
  | done _, _ => []
  | step op next, s => ⟨op, (answer op s).1⟩ :: trace answer (next (answer op s).1) (answer op s).2

theorem path_trace (answer : (op : Op) → σ → Reply op × σ) (p : Program Reply α) (s : σ) :
    Path p (trace answer p s) (run answer p s).1 := by
  induction p generalizing s with
  | done a => exact .done a
  | step op next ih => exact .step _ (ih _ _)

theorem trace_bind (answer : (op : Op) → σ → Reply op × σ) (p : Program Reply α)
    (f : α → Program Reply β) (s : σ) :
    trace answer (p >>= f) s =
      trace answer p s ++ trace answer (f (run answer p s).1) (run answer p s).2 := by
  induction p generalizing s with
  | done a => rfl
  | step op next ih => exact congrArg _ (ih _ _)

/-- The state at the end is the one that the last operation leaves. -/
theorem exists_of_trace_concat {answer : (op : Op) → σ → Reply op × σ} {p : Program Reply α} {s : σ}
    {t : List (Event Reply)} {op : Op} {r : Reply op} (h : trace answer p s = t ++ [⟨op, r⟩]) :
    ∃ s', answer op s' = (r, (run answer p s).2) := by
  induction p generalizing s t with
  | done a => simp [trace] at h
  | step op' next ih =>
    rw [trace] at h
    cases t with
    | nil =>
      obtain ⟨head, last⟩ := List.cons.inj h
      cases head
      refine ⟨s, ?_⟩
      cases rest : next (answer op s).1 with
      | done a => rw [run_step, rest]; rfl
      | step op'' next' =>
        rw [rest] at last
        cases last
    | cons e t =>
      obtain ⟨-, rest⟩ := List.cons.inj h
      exact ih _ rest

/-- What all replies of a run satisfy is what the answers satisfy. -/
theorem forall_mem_trace {answer : (op : Op) → σ → Reply op × σ} {P : Event Reply → Prop}
    (h : ∀ op s, P ⟨op, (answer op s).1⟩) (p : Program Reply α) (s : σ) :
    ∀ e ∈ trace answer p s, P e := by
  induction p generalizing s with
  | done a => exact fun e he => absurd he List.not_mem_nil
  | step op next ih =>
    intro e he
    rcases List.mem_cons.1 he with rfl | he
    · exact h op s
    · exact ih _ _ e he

/-! ## Rules for paths -/

theorem path_done_iff {a b : α} {t : List (Event Reply)} :
    Path (.done a) t b ↔ t = [] ∧ b = a := by
  constructor
  · rintro ⟨⟩
    exact ⟨rfl, rfl⟩
  · rintro ⟨rfl, rfl⟩
    exact .done _

theorem path_step_iff {op : Op} {next : Reply op → Program Reply α} {t : List (Event Reply)}
    {a : α} : Path (.step op next) t a ↔ ∃ r t', t = ⟨op, r⟩ :: t' ∧ Path (next r) t' a := by
  constructor
  · rintro (_ | ⟨r, h⟩)
    exact ⟨r, _, rfl, h⟩
  · rintro ⟨r, t', rfl, h⟩
    exact .step r h

theorem path_step_done_iff {op : Op} {f : Reply op → α} {t : List (Event Reply)} {a : α} :
    Path (.step op fun r => .done (f r)) t a ↔ ∃ r, t = [⟨op, r⟩] ∧ a = f r := by
  rw [path_step_iff]
  refine exists_congr fun r => ?_
  constructor
  · rintro ⟨t', rfl, h⟩
    obtain ⟨rfl, rfl⟩ := path_done_iff.1 h
    exact ⟨rfl, rfl⟩
  · rintro ⟨rfl, rfl⟩
    exact ⟨[], rfl, .done _⟩

theorem path_perform_iff {op : Op} {t : List (Event Reply)} {r : Reply op} :
    Path (perform op) t r ↔ t = [⟨op, r⟩] := by
  rw [perform, path_step_done_iff]
  constructor
  · rintro ⟨r', rfl, rfl⟩
    rfl
  · rintro rfl
    exact ⟨r, rfl, rfl⟩

theorem path_bind_iff {p : Program Reply α} {f : α → Program Reply β} {t : List (Event Reply)}
    {b : β} :
    Path (p >>= f) t b ↔ ∃ t₁ a t₂, t = t₁ ++ t₂ ∧ Path p t₁ a ∧ Path (f a) t₂ b := by
  constructor
  · intro h
    induction p generalizing t with
    | done a => exact ⟨[], a, t, rfl, .done a, h⟩
    | step op next ih =>
      obtain ⟨r, t', rfl, rest⟩ := path_step_iff.1 h
      obtain ⟨t₁, a, t₂, rfl, h₁, h₂⟩ := ih r rest
      exact ⟨_, a, t₂, rfl, .step r h₁, h₂⟩
  · rintro ⟨t₁, a, t₂, rfl, h₁, h₂⟩
    induction h₁ with
    | done a => exact h₂
    | step r _ ih => exact .step r (ih h₂)

/-- Paths of a program that begin alike are the same. -/
theorem Path.unique {p : Program Reply α} {t t' u u' : List (Event Reply)} {a a' : α}
    (h : Path p t a) (h' : Path p t' a') (same : t ++ u = t' ++ u') : t = t' ∧ a = a' := by
  induction h generalizing t' with
  | done a =>
    obtain ⟨rfl, rfl⟩ := path_done_iff.1 h'
    exact ⟨rfl, rfl⟩
  | step r _ ih =>
    obtain ⟨r', t', rfl, rest⟩ := path_step_iff.1 h'
    obtain ⟨head, tail⟩ := List.cons.inj same
    cases head
    obtain ⟨rfl, rfl⟩ := ih rest tail
    exact ⟨rfl, rfl⟩

/-- Where each operation is replaced by a single one, each event is. -/
theorem path_expand_iff {Op' : Type} {Reply' : Op' → Type}
    {body : (op : Op) → Program Reply' (Reply op)} {event : Event Reply → Event Reply'}
    (h : ∀ op t r, Path (body op) t r ↔ t = [event ⟨op, r⟩]) {p : Program Reply α}
    {t : List (Event Reply')} {a : α} :
    Path (p.expand body) t a ↔ ∃ t', t = t'.map event ∧ Path p t' a := by
  constructor
  · intro path
    induction p generalizing t with
    | done a =>
      obtain ⟨rfl, rfl⟩ := path_done_iff.1 path
      exact ⟨[], rfl, .done _⟩
    | step op next ih =>
      obtain ⟨t₁, r, t₂, rfl, h₁, h₂⟩ := path_bind_iff.1 path
      obtain rfl := (h op t₁ r).1 h₁
      obtain ⟨t', rfl, rest⟩ := ih r h₂
      exact ⟨⟨op, r⟩ :: t', rfl, .step r rest⟩
  · rintro ⟨t', rfl, path⟩
    induction path with
    | done a => exact .done a
    | @step op next t a r _ ih =>
      exact path_bind_iff.2 ⟨[event ⟨op, r⟩], r, _, rfl, (h op _ r).2 rfl, ih⟩

/-- A program that may fail goes on only where its first part succeeded. -/
theorem path_exceptBind_iff {x : ExceptT ε (Program Reply) α}
    {f : α → ExceptT ε (Program Reply) β} {t : List (Event Reply)} {r : Except ε β} :
    Path (x >>= f).run t r ↔
      (∃ e, Path x.run t (.error e) ∧ r = .error e) ∨
        ∃ t₁ a t₂, t = t₁ ++ t₂ ∧ Path x.run t₁ (.ok a) ∧ Path (f a).run t₂ r := by
  rw [ExceptT.run_bind, path_bind_iff]
  constructor
  · rintro ⟨t₁, e | a, t₂, rfl, h₁, h₂⟩
    · obtain ⟨rfl, rfl⟩ := path_done_iff.1 h₂
      exact Or.inl ⟨e, by rwa [List.append_nil], rfl⟩
    · exact Or.inr ⟨t₁, a, t₂, rfl, h₁, h₂⟩
  · rintro (⟨e, h, rfl⟩ | ⟨t₁, a, t₂, rfl, h₁, h₂⟩)
    · exact ⟨t, .error e, [], (List.append_nil t).symm, h, .done _⟩
    · exact ⟨t₁, .ok a, t₂, rfl, h₁, h₂⟩

theorem path_exceptBind_ok_iff {x : ExceptT ε (Program Reply) α}
    {f : α → ExceptT ε (Program Reply) β} {t : List (Event Reply)} {b : β} :
    Path (x >>= f).run t (.ok b) ↔
      ∃ t₁ a t₂, t = t₁ ++ t₂ ∧ Path x.run t₁ (.ok a) ∧ Path (f a).run t₂ (.ok b) := by
  rw [path_exceptBind_iff]
  constructor
  · rintro (⟨e, -, ⟨⟩⟩ | h)
    exact h
  · exact .inr

theorem path_exceptPure_iff {a : α} {t : List (Event Reply)} {r : Except ε α} :
    Path (pure a : ExceptT ε (Program Reply) α).run t r ↔ t = [] ∧ r = .ok a := by
  rw [ExceptT.run_pure]
  exact path_done_iff

/-- A program that cannot fail, as the first part of one that may. -/
theorem path_lift_bind_iff {p : Program Reply α} {f : α → ExceptT ε (Program Reply) β}
    {t : List (Event Reply)} {r : Except ε β} :
    Path (ExceptT.lift p >>= f).run t r ↔
      ∃ t₁ a t₂, t = t₁ ++ t₂ ∧ Path p t₁ a ∧ Path (f a).run t₂ r := by
  rw [ExceptT.run_bind_lift, path_bind_iff]

end LogicalBackup.Program
