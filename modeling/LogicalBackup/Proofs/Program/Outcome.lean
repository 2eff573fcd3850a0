import LogicalBackup.Proofs.Program.Trace

/-!
# What every run of a program has in common

`Only P p` says that all events of all runs of `p` satisfy `P`, and `Yields Q p` that all results
satisfy `Q`.  `Surfaces bad ok p` says that a run of `p` is successful exactly where no event of it
is bad, so that no fault is passed over and none is made up.  Each is shown part by part, and the
rules for programs that may fail ask nothing of what would follow a failure.
-/

namespace LogicalBackup.Program

variable {Op : Type} {Reply : Op → Type} {α β ε : Type}

/-- All events of all runs satisfy `P`. -/
def Only (P : Event Reply → Prop) (p : Program Reply α) : Prop :=
  ∀ t a, Path p t a → ∀ e ∈ t, P e

/-- A run is successful exactly where no event is bad. -/
def Surfaces (bad : Event Reply → Prop) (ok : α → Prop) (p : Program Reply α) : Prop :=
  ∀ t a, Path p t a → (ok a ↔ ∀ e ∈ t, ¬bad e)

/-- All results satisfy `Q`. -/
def Yields (Q : α → Prop) (p : Program Reply α) : Prop := ∀ t a, Path p t a → Q a

/-- No run is successful. -/
abbrev Fails (ok : α → Prop) (p : Program Reply α) : Prop := Yields (fun a => ¬ok a) p

/-- A success whose result satisfies `P`. -/
def OkWith (P : α → Prop) (r : Except ε α) : Prop := ∃ a, r = .ok a ∧ P a

/-- Any success. -/
abbrev IsOk (r : Except ε α) : Prop := OkWith (fun _ => True) r

variable {P : Event Reply → Prop} {bad : Event Reply → Prop}

/-! ## All events -/

theorem only_done (a : α) : Only P (.done a) := by
  intro t b h e he
  obtain ⟨rfl, -⟩ := path_done_iff.1 h
  exact absurd he List.not_mem_nil

theorem only_step {op : Op} {f : Reply op → α} (h : ∀ r, P ⟨op, r⟩) :
    Only P (.step op fun r => .done (f r)) := by
  intro t a path e he
  obtain ⟨r, rfl, -⟩ := path_step_done_iff.1 path
  rw [List.mem_singleton.1 he]
  exact h r

theorem Only.bind {p : Program Reply α} {f : α → Program Reply β} (hp : Only P p)
    (hf : ∀ a, Only P (f a)) : Only P (p >>= f) := by
  intro t b h e he
  obtain ⟨t₁, a, t₂, rfl, h₁, h₂⟩ := path_bind_iff.1 h
  rcases List.mem_append.1 he with he | he
  · exact hp t₁ a h₁ e he
  · exact hf a t₂ b h₂ e he

theorem Only.exceptBind {x : ExceptT ε (Program Reply) α} {f : α → ExceptT ε (Program Reply) β}
    (hx : Only P x.run) (hf : ∀ a, Only P (f a).run) : Only P (x >>= f).run := by
  rw [ExceptT.run_bind]
  refine hx.bind fun r => ?_
  cases r with
  | error e => exact only_done _
  | ok a => exact hf a

theorem Only.imp {Q : Event Reply → Prop} {p : Program Reply α} (hp : Only P p)
    (h : ∀ e, P e → Q e) : Only Q p :=
  fun t a path e he => h e (hp t a path e he)

/-! ## All results -/

theorem yields_done {Q : α → Prop} {a : α} (h : Q a) : Yields Q (.done a : Program Reply α) := by
  intro t b path
  obtain ⟨-, rfl⟩ := path_done_iff.1 path
  exact h

theorem Yields.bind {Q : α → Prop} {Q' : β → Prop} {p : Program Reply α}
    {f : α → Program Reply β} (hp : Yields Q p) (hf : ∀ a, Q a → Yields Q' (f a)) :
    Yields Q' (p >>= f) := by
  intro t b path
  obtain ⟨t₁, a, t₂, -, h₁, h₂⟩ := path_bind_iff.1 path
  exact hf a (hp t₁ a h₁) t₂ b h₂

/-- Only the results that there are matter to what follows. -/
theorem Yields.bind_congr {Q : α → Prop} {p : Program Reply α} {f g : α → Program Reply β}
    (hp : Yields Q p) (h : ∀ a, Q a → f a = g a) : p >>= f = p >>= g := by
  induction p with
  | done a => exact h a (hp [] a (.done a))
  | step op next ih =>
    refine congrArg (step op) (funext fun r => ih r fun t a path => ?_)
    exact hp _ a (.step r path)

/-! ## Success -/

theorem surfaces_done {ok : α → Prop} {a : α} (h : ok a) : Surfaces bad ok (.done a) := by
  intro t b path
  obtain ⟨rfl, rfl⟩ := path_done_iff.1 path
  exact iff_of_true h fun e he => absurd he List.not_mem_nil

theorem surfaces_step {op : Op} {f : Reply op → α} {ok : α → Prop}
    (h : ∀ r, ok (f r) ↔ ¬bad ⟨op, r⟩) : Surfaces bad ok (.step op fun r => .done (f r)) := by
  intro t a path
  obtain ⟨r, rfl, rfl⟩ := path_step_done_iff.1 path
  rw [List.forall_mem_singleton]
  exact h r

/-- After a first part that is not successful, nothing may be. -/
theorem Surfaces.bind {ok : α → Prop} {ok' : β → Prop} {p : Program Reply α}
    {f : α → Program Reply β} (hp : Surfaces bad ok p) (hf : ∀ a, ok a → Surfaces bad ok' (f a))
    (hfail : ∀ a, ¬ok a → Fails ok' (f a)) : Surfaces bad ok' (p >>= f) := by
  intro t b path
  obtain ⟨t₁, a, t₂, rfl, h₁, h₂⟩ := path_bind_iff.1 path
  have first := hp t₁ a h₁
  by_cases h : ok a
  · have second := hf a h t₂ b h₂
    rw [second, List.forall_mem_append]
    exact ⟨fun h' => ⟨first.1 h, h'⟩, fun h' => h'.2⟩
  · refine iff_of_false (hfail a h t₂ b h₂) fun all => h (first.2 fun e he => ?_)
    exact all e (List.mem_append_left _ he)

/-- After a result that there is, whichever it is, `f` goes on or is not successful. -/
theorem Surfaces.bindResult {ok : β → Prop} {p : Program Reply (Except ε α)}
    {f : Except ε α → Program Reply β} (hp : Surfaces bad (OkWith fun _ => True) p)
    (hf : ∀ a, Surfaces bad ok (f (.ok a))) (hfail : ∀ e, Fails ok (f (.error e))) :
    Surfaces bad ok (p >>= f) := by
  refine hp.bind ?_ ?_
  · rintro r ⟨a, rfl, -⟩
    exact hf a
  · rintro (e | a) hr
    · exact hfail e
    · exact absurd ⟨a, rfl, trivial⟩ hr

/-- `bindResult` for a result with a state. -/
theorem Surfaces.bindState {σ : Type} {ok : β → Prop} {p : Program Reply (Except ε α × σ)}
    {f : Except ε α × σ → Program Reply β}
    (hp : Surfaces bad (fun r => OkWith (fun _ => True) r.1) p)
    (hf : ∀ a s, Surfaces bad ok (f (.ok a, s))) (hfail : ∀ e s, Fails ok (f (.error e, s))) :
    Surfaces bad ok (p >>= f) := by
  refine hp.bind ?_ ?_
  · rintro ⟨r, s⟩ ⟨a, hr, -⟩
    obtain rfl := hr
    exact hf a s
  · rintro ⟨e | a, s⟩ hr
    · exact hfail e s
    · exact absurd ⟨a, rfl, trivial⟩ hr

theorem okWith_ok_iff {Q : α → Prop} {a : α} : OkWith Q (.ok a : Except ε α) ↔ Q a := by
  constructor
  · rintro ⟨b, h, hb⟩
    rwa [Except.ok.inj h]
  · exact fun h => ⟨a, rfl, h⟩

theorem not_okWith_error {Q : α → Prop} {e : ε} : ¬OkWith Q (.error e : Except ε α) := by
  rintro ⟨a, h, -⟩
  cases h

theorem okWith_mapError_iff {ε' : Type} {Q : α → Prop} {r : Except ε α} {f : ε → ε'} :
    OkWith Q (r.mapError f) ↔ OkWith Q r := by
  cases r with
  | error e => exact iff_of_false not_okWith_error not_okWith_error
  | ok a => exact okWith_ok_iff.trans okWith_ok_iff.symm

theorem isOk_map_iff {r : Except ε α} {f : α → β} : IsOk (r.map f) ↔ IsOk r := by
  cases r with
  | error e => exact iff_of_false not_okWith_error not_okWith_error
  | ok a => exact iff_of_true ⟨f a, rfl, trivial⟩ ⟨a, rfl, trivial⟩

theorem Surfaces.exceptBind {Q : α → Prop} {Q' : β → Prop} {x : ExceptT ε (Program Reply) α}
    {f : α → ExceptT ε (Program Reply) β} (hx : Surfaces bad (OkWith Q) x.run)
    (hf : ∀ a, Q a → Surfaces bad (OkWith Q') (f a).run)
    (hfail : ∀ a, ¬Q a → Fails (OkWith Q') (f a).run) :
    Surfaces bad (OkWith Q') (x >>= f).run := by
  rw [ExceptT.run_bind]
  refine hx.bind (fun r hr => ?_) fun r hr => ?_
  · obtain ⟨a, rfl, ha⟩ := hr
    exact hf a ha
  · cases r with
    | error e => exact yields_done not_okWith_error
    | ok a => exact hfail a (mt okWith_ok_iff.2 hr)

/-- The rule for a first part of which every success will do. -/
theorem Surfaces.then {Q : β → Prop} {x : ExceptT ε (Program Reply) α}
    {f : α → ExceptT ε (Program Reply) β} (hx : Surfaces bad IsOk x.run)
    (hf : ∀ a, Surfaces bad (OkWith Q) (f a).run) : Surfaces bad (OkWith Q) (x >>= f).run :=
  hx.exceptBind (fun a _ => hf a) fun _ h => absurd trivial h

theorem surfaces_pure (a : α) :
    Surfaces bad IsOk (pure a : ExceptT ε (Program Reply) α).run :=
  surfaces_done ⟨a, rfl, trivial⟩

theorem fails_bind {Q : β → Prop} {x : ExceptT ε (Program Reply) α}
    {f : α → ExceptT ε (Program Reply) β} (h : ∀ a, Fails (OkWith Q) (f a).run) :
    Fails (OkWith Q) (x >>= f).run := by
  rw [ExceptT.run_bind]
  refine Yields.bind (Q := fun _ => True) (fun _ _ _ => trivial) fun r _ => ?_
  cases r with
  | error e => exact yields_done not_okWith_error
  | ok a => exact h a

theorem Yields.failsBind {Q : β → Prop} {x : ExceptT ε (Program Reply) α}
    {f : α → ExceptT ε (Program Reply) β} (hx : Fails IsOk x.run) :
    Fails (OkWith Q) (x >>= f).run := by
  rw [ExceptT.run_bind]
  refine Yields.bind hx fun r hr => ?_
  cases r with
  | error e => exact yields_done not_okWith_error
  | ok a => exact absurd ⟨a, rfl, trivial⟩ hr

/-! ## Operations that stand for others -/

section Expand

variable {Op' : Type} {Reply' : Op' → Type} {body : (op : Op) → Program Reply' (Reply op)}
  {event : Event Reply → Event Reply'} {p : Program Reply α}

theorem Only.expand {P : Event Reply' → Prop}
    (h : ∀ op t r, Path (body op) t r ↔ t = [event ⟨op, r⟩])
    (hp : Only (fun e => P (event e)) p) : Only P (p.expand body) := by
  intro t a path e he
  obtain ⟨t', rfl, path'⟩ := (path_expand_iff h).1 path
  obtain ⟨e', he', rfl⟩ := List.mem_map.1 he
  exact hp t' a path' e' he'

theorem Yields.expand {Q : α → Prop} (h : ∀ op t r, Path (body op) t r ↔ t = [event ⟨op, r⟩])
    (hp : Yields Q p) : Yields Q (p.expand body) := by
  intro t a path
  obtain ⟨t', -, path'⟩ := (path_expand_iff h).1 path
  exact hp t' a path'

theorem Surfaces.expand {bad : Event Reply' → Prop} {ok : α → Prop}
    (h : ∀ op t r, Path (body op) t r ↔ t = [event ⟨op, r⟩])
    (hp : Surfaces (fun e => bad (event e)) ok p) : Surfaces bad ok (p.expand body) := by
  intro t a path
  obtain ⟨t', rfl, path'⟩ := (path_expand_iff h).1 path
  rw [hp t' a path', List.forall_mem_map]

end Expand

end LogicalBackup.Program
