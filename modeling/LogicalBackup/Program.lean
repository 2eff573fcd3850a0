/-!
# Programs that ask for answers

A `Program` performs operations, each of which is answered by a reply of the operation's own type,
and ends with a result.  What answers is chosen when the program is run (`Program.run`), so a fact
about a program holds whatever the answers are.  `Program.expand` replaces each operation by a
program of other operations.
-/

namespace LogicalBackup

/-- A computation of an `α` from the replies to its operations. -/
inductive Program {Op : Type} (Reply : Op → Type) (α : Type) where
  /-- The end, with a result. -/
  | done (a : α)
  /-- An operation, and what is done with its reply. -/
  | step (op : Op) (next : Reply op → Program Reply α)

namespace Program

variable {Op : Type} {Reply : Op → Type} {α β γ σ : Type}

/-- The program that goes on with the result of another. -/
protected def bind : Program Reply α → (α → Program Reply β) → Program Reply β
  | done a, f => f a
  | step op next, f => step op fun r => (next r).bind f

instance : Monad (Program Reply) where
  pure := done
  bind := Program.bind

/-- The program of one operation. -/
def perform (op : Op) : Program Reply (Reply op) := step op done

@[simp] theorem bind_done (p : Program Reply α) : p >>= done = p := by
  induction p with
  | done a => rfl
  | step op next ih => exact congrArg (step op) (funext ih)

@[simp] theorem bind_bind (p : Program Reply α) (f : α → Program Reply β)
    (g : β → Program Reply γ) : p >>= f >>= g = p >>= fun a => f a >>= g := by
  induction p with
  | done a => rfl
  | step op next ih => exact congrArg (step op) (funext ih)

instance : LawfulMonad (Program Reply) :=
  LawfulMonad.mk' (Program Reply) (fun p => bind_done p) (fun _ _ => rfl) bind_bind

/-- Runs a program, where `answer` replies to each operation and keeps a state. -/
def run (answer : (op : Op) → σ → Reply op × σ) : Program Reply α → σ → α × σ
  | done a, s => (a, s)
  | step op next, s => run answer (next (answer op s).1) (answer op s).2

@[simp] theorem run_done (answer : (op : Op) → σ → Reply op × σ) (a : α) (s : σ) :
    run answer (done a) s = (a, s) := rfl

@[simp] theorem run_step (answer : (op : Op) → σ → Reply op × σ) (op : Op)
    (next : Reply op → Program Reply α) (s : σ) :
    run answer (step op next) s = run answer (next (answer op s).1) (answer op s).2 := rfl

theorem run_bind (answer : (op : Op) → σ → Reply op × σ) (p : Program Reply α)
    (f : α → Program Reply β) (s : σ) :
    run answer (p >>= f) s = run answer (f (run answer p s).1) (run answer p s).2 := by
  induction p generalizing s with
  | done a => rfl
  | step op next ih => exact ih _ _

/-- Replaces each operation by a program of other operations. -/
def expand {Op' : Type} {Reply' : Op' → Type} (body : (op : Op) → Program Reply' (Reply op)) :
    Program Reply α → Program Reply' α
  | done a => done a
  | step op next => body op >>= fun r => expand body (next r)

end Program

end LogicalBackup
