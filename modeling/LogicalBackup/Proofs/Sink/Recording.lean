import LogicalBackup.Proofs.Program.Trace
import LogicalBackup.Sink
import Mathlib.Tactic.SplitIfs

/-!
# Writers that never fail

A sink that never fails may still take fewer bytes than it is offered (`Sink.NeverFails`).  The
writer that offers it the rest again takes all of every write, in order (`Sink.NeverFails.records`).
`Writes p a b` says of a program that it ends with `a` and writes `b` where no write fails; it is
shown part by part (`Writes.bind`), and holds of the run with any such writer (`Writes.run`).
-/

namespace LogicalBackup

variable {α β ω : Type}

/-- In the states `fit`, which it does not leave, the writer does not fail, and what it has taken,
which `content` tells from its state, grows by what is written. -/
structure Writer.Records (writer : Writer ω) (fit : ω → Prop) (content : ω → Bytes) : Prop where
  write : ∀ w b, fit w → (writer.write w b).1 = .ok () ∧ fit (writer.write w b).2 ∧
    content (writer.write w b).2 = content w ++ b
  flush : ∀ w, fit w → (writer.flush w).1 = .ok () ∧ fit (writer.flush w).2 ∧
    content (writer.flush w).2 = content w

namespace Sink

/-- In the states `fit`, which it does not leave, the sink does not fail: it takes some of the bytes
that it is offered, the first ones. -/
structure NeverFails (sink : Sink ω) (fit : ω → Prop) (content : ω → Bytes) : Prop where
  accept : ∀ w b, fit w → b ≠ [] → ∃ n, (sink.accept w b).1 = .ok n ∧ 0 < n ∧
    fit (sink.accept w b).2 ∧ content (sink.accept w b).2 = content w ++ b.take n
  flush : ∀ w, fit w → (sink.flush w).1 = .ok () ∧ fit (sink.flush w).2 ∧
    content (sink.flush w).2 = content w

variable {sink : Sink ω} {fit : ω → Prop} {content : ω → Bytes}

/-- Offered again and again, all bytes are taken. -/
theorem NeverFails.offerAll (h : sink.NeverFails fit content) (stuck : String) (b : Bytes) {w : ω}
    (hw : fit w) :
    (sink.offerAll stuck b w).1 = .ok () ∧ (sink.offerAll stuck b w).2.1 = [] ∧
      fit (sink.offerAll stuck b w).2.2 ∧
      content (sink.offerAll stuck b w).2.2 = content w ++ b := by
  cases b with
  | nil =>
    rw [Sink.offerAll, List.append_nil]
    exact ⟨rfl, rfl, hw, rfl⟩
  | cons x rest =>
    obtain ⟨n, taken, pos, hw', grown⟩ := h.accept w (x :: rest) hw (List.cons_ne_nil _ _)
    obtain ⟨n, rfl⟩ : ∃ m, n = m + 1 := ⟨n - 1, by omega⟩
    rcases reply : sink.accept w (x :: rest) with ⟨result, w'⟩
    rw [reply] at taken hw' grown
    dsimp only at taken hw' grown
    subst taken
    have ih := h.offerAll stuck (rest.drop n) hw'
    rw [Sink.offerAll, reply]
    refine ⟨ih.1, ih.2.1, ih.2.2.1, ?_⟩
    rw [ih.2.2.2, grown, List.append_assoc, List.take_succ_cons, List.cons_append,
      List.take_append_drop]
termination_by b.length
decreasing_by simp only [List.length_drop, List.length_cons]; omega

theorem NeverFails.records (h : sink.NeverFails fit content) :
    sink.writer.Records fit content where
  write _ b hw := by
    obtain ⟨ok, -, hw', grown⟩ := h.offerAll "failed to write whole buffer" b hw
    exact ⟨ok, hw', grown⟩
  flush := h.flush

theorem NeverFails.handOn (h : sink.NeverFails fit content) {w : Buffered ω} (hw : fit w.inner) :
    (w.handOn sink).1 = .ok () ∧ (w.handOn sink).2.pending = [] ∧ fit (w.handOn sink).2.inner ∧
      content (w.handOn sink).2.inner = content w.inner ++ w.pending :=
  h.offerAll _ _ hw

/-! ## Writing through a buffer -/

/-- The last part of a write through a buffer, for which room has been made. -/
def Buffered.put (sink : Sink ω) (capacity : Nat) (b : Bytes) (w : Buffered ω) :
    Except IoFault Unit × Buffered ω :=
  if capacity ≤ b.length then
    let (result, inner) := sink.writer.write w.inner b
    (result, { w with inner })
  else (.ok (), { w with pending := w.pending ++ b })

theorem buffered_write_eq (sink : Sink ω) (capacity : Nat) (w : Buffered ω) (b : Bytes) :
    (sink.buffered capacity).write w b =
      if b.length < capacity - w.pending.length then
        (.ok (), { w with pending := w.pending ++ b })
      else if capacity - w.pending.length < b.length then
        match w.handOn sink with
        | (.error fault, w) => (.error fault, w)
        | (.ok (), w) => w.put sink capacity b
      else w.put sink capacity b := by
  unfold buffered Buffered.put
  dsimp only
  split_ifs <;> rfl

/-- What is as long as there is room, and as the whole buffer, meets an empty buffer or is empty. -/
theorem Buffered.eq_nil_or_of_exact (w : Buffered ω) {capacity : Nat} {b : Bytes}
    (kept : ¬b.length < capacity - w.pending.length)
    (tight : ¬capacity - w.pending.length < b.length) (large : capacity ≤ b.length) :
    w.pending = [] ∨ b = [] := by
  by_cases none : w.pending = []
  · exact .inl none
  · have pos := List.length_pos_iff.2 none
    exact .inr (List.eq_nil_of_length_eq_zero (by omega))

/-- Bytes that go straight on do not overtake those that are kept back. -/
theorem NeverFails.put (h : sink.NeverFails fit content) {capacity : Nat} {b : Bytes}
    {w : Buffered ω} (order : capacity ≤ b.length → w.pending = [] ∨ b = []) (hw : fit w.inner) :
    (w.put sink capacity b).1 = .ok () ∧ fit (w.put sink capacity b).2.inner ∧
      content (w.put sink capacity b).2.inner ++ (w.put sink capacity b).2.pending =
        content w.inner ++ w.pending ++ b := by
  unfold Buffered.put
  by_cases large : capacity ≤ b.length
  · rw [if_pos large]
    obtain ⟨ok, last, grown⟩ := h.records.write w.inner b hw
    refine ⟨ok, last, ?_⟩
    dsimp only
    rcases order large with none | rfl
    · simp [grown, none]
    · simp [grown]
  · rw [if_neg large]
    exact ⟨rfl, hw, (List.append_assoc _ _ _).symm⟩

/-- The writer that keeps bytes back does not fail either.  What it has taken are also the bytes that
are kept back. -/
theorem NeverFails.buffered_records (h : sink.NeverFails fit content) (capacity : Nat) :
    (sink.buffered capacity).Records (fun w => fit w.inner)
      (fun w => content w.inner ++ w.pending) where
  write w b hw := by
    rw [buffered_write_eq]
    by_cases kept : b.length < capacity - w.pending.length
    · rw [if_pos kept]
      exact ⟨rfl, hw, (List.append_assoc _ _ _).symm⟩
    rw [if_neg kept]
    by_cases tight : capacity - w.pending.length < b.length
    · rw [if_pos tight]
      obtain ⟨ok, empty, hw', grown⟩ := h.handOn hw
      generalize w.handOn sink = handedOn at ok empty hw' grown ⊢
      obtain ⟨result, w'⟩ := handedOn
      dsimp only at ok empty hw' grown
      subst ok
      rw [← grown, ← List.append_nil (content w'.inner), ← empty]
      exact h.put (fun _ => .inl empty) hw'
    · rw [if_neg tight]
      exact h.put (w.eq_nil_or_of_exact kept tight) hw
  flush w hw := by
    obtain ⟨ok, empty, hw', grown⟩ := h.handOn hw
    unfold buffered
    dsimp only
    rcases handed : w.handOn sink with ⟨result, inner, pending⟩
    rw [handed] at ok empty hw' grown
    dsimp only at ok empty hw' grown
    subst ok empty
    obtain ⟨ok, last, same⟩ := h.flush inner hw'
    exact ⟨ok, last, by simp [same, grown]⟩

theorem NeverFails.content_close (h : sink.NeverFails fit content) {w : Buffered ω}
    (hw : fit w.inner) : content (w.close sink) = content w.inner ++ w.pending :=
  (h.handOn hw).2.2.2

end Sink

/-- A medium with room for everything does not fail. -/
theorem Medium.neverFails_sink :
    Medium.sink.NeverFails (fun m => m.room = none ∧ m.refusesFlush = false) Medium.content where
  accept m b hm hb := by
    have pos : 0 < b.length := List.length_pos_iff.2 hb
    exact ⟨b.length, by simp [Medium.sink, Medium.accept, Medium.taken, hm, hb, pos]⟩
  flush m hm := by simp [Medium.sink, hm]

/-! ## What is written -/

namespace Writing

/-- The bytes that are written in a trace. -/
def written : List (Program.Event WriterOp.Reply) → Bytes
  | [] => []
  | ⟨.write b, _⟩ :: t => b ++ written t
  | ⟨.flush, _⟩ :: t => written t

/-- A write or a flush that fails. -/
def Failed (e : Program.Event WriterOp.Reply) : Prop := e.2 ≠ .ok ()

/-- Nothing fails in a trace. -/
def Clean (t : List (Program.Event WriterOp.Reply)) : Prop := ∀ e ∈ t, e.2 = .ok ()

theorem written_append (s t : List (Program.Event WriterOp.Reply)) :
    written (s ++ t) = written s ++ written t := by
  induction s with
  | nil => rfl
  | cons e s ih =>
    rcases e with ⟨_ | _, _⟩
    · rw [List.cons_append, written, written, ih, List.append_assoc]
    · exact ih

end Writing

open Writing

/-- Where nothing fails, the program ends with `a` and has written `b`. -/
def Writes (p : Writing α) (a : α) (b : Bytes) : Prop :=
  ∀ t r, Program.Path p t r → Clean t → r = a ∧ written t = b

theorem writes_done (a : α) : Writes (.done a) a [] := by
  intro t r h _
  obtain ⟨rfl, rfl⟩ := Program.path_done_iff.1 h
  exact ⟨rfl, rfl⟩

theorem writes_write (b : Bytes) : Writes (Writing.write b) (.ok ()) b := by
  intro t r h clean
  obtain rfl := Program.path_perform_iff.1 h
  exact ⟨clean _ (List.mem_singleton_self _), List.append_nil b⟩

theorem Writes.congr {p : Writing α} {a a' : α} {b b' : Bytes} (h : Writes p a b) (ha : a = a')
    (hb : b = b') : Writes p a' b' := ha ▸ hb ▸ h

theorem Writes.bind {p : Writing α} {f : α → Writing β} {a : α} {c : β} {b b' : Bytes}
    (hp : Writes p a b) (hf : Writes (f a) c b') : Writes (p >>= f) c (b ++ b') := by
  intro t r h clean
  obtain ⟨t₁, a', t₂, rfl, h₁, h₂⟩ := Program.path_bind_iff.1 h
  obtain ⟨rfl, rfl⟩ := hp t₁ a' h₁ fun e he => clean e (List.mem_append_left _ he)
  obtain ⟨rfl, rfl⟩ := hf t₂ r h₂ fun e he => clean e (List.mem_append_right _ he)
  exact ⟨rfl, written_append t₁ t₂⟩

/-- A program that goes on without writing. -/
theorem Writes.bind_done {p : Writing α} {f : α → Writing β} {a : α} {c : β} {b : Bytes}
    (hp : Writes p a b) (hf : f a = .done c) : Writes (p >>= f) c b := by
  have rest : Writes (f a) c [] := hf ▸ writes_done c
  exact (hp.bind rest).congr rfl (List.append_nil b)

variable {writer : Writer ω} {fit : ω → Prop} {content : ω → Bytes}

/-- Nothing fails in a run with such a writer, and its content grows by what is written. -/
theorem Writer.Records.run (h : writer.Records fit content) (p : Writing α) {w : ω} (hw : fit w) :
    Clean (p.trace writer.answer w) ∧ fit (p.run writer.answer w).2 ∧
      content (p.run writer.answer w).2 = content w ++ written (p.trace writer.answer w) := by
  induction p generalizing w with
  | done a => exact ⟨fun e he => absurd he List.not_mem_nil, hw, (List.append_nil _).symm⟩
  | step op next ih =>
    rw [Program.run_step, Program.trace]
    cases op with
    | write b =>
      obtain ⟨ok, hw', grown⟩ := h.write w b hw
      obtain ⟨clean, last, all⟩ := ih (writer.write w b).1 hw'
      exact ⟨List.forall_mem_cons.2 ⟨ok, clean⟩, last,
        by rw [Writer.answer, all, grown, written, List.append_assoc]⟩
    | flush =>
      obtain ⟨ok, hw', same⟩ := h.flush w hw
      obtain ⟨clean, last, all⟩ := ih (writer.flush w).1 hw'
      exact ⟨List.forall_mem_cons.2 ⟨ok, clean⟩, last,
        by rw [Writer.answer, all, same, written]⟩

theorem Writes.run {p : Writing α} {a : α} {b : Bytes} (hp : Writes p a b)
    (h : writer.Records fit content) {w : ω} (hw : fit w) :
    (p.run writer.answer w).1 = a ∧ content (p.run writer.answer w).2 = content w ++ b := by
  obtain ⟨clean, -, grown⟩ := h.run p hw
  obtain ⟨ha, hb⟩ := hp _ _ (Program.path_trace writer.answer p w) clean
  exact ⟨ha, by rw [grown, hb]⟩

end LogicalBackup
