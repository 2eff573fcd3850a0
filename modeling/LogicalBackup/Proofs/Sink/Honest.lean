import LogicalBackup.Proofs.Sink.Limits

/-!
# Sinks that say what they took

An honest sink may refuse any write and any flush, and may take as little of a write as it likes,
but it says how much it took, and it has that (`Sink.Honest`).  A writer before it keeps each write
that succeeds (`Writer.Keeps`), though some bytes may wait in a buffer; after a flush that succeeds
none do (`Sink.content_close_of_flushed`).
-/

namespace LogicalBackup

variable {ω : Type}

/-- The sink has the bytes of which it says that it took them, in their order. -/
structure Sink.Honest (sink : Sink ω) (content : ω → Bytes) : Prop where
  accept : ∀ w b n, (sink.accept w b).1 = .ok n →
    content (sink.accept w b).2 = content w ++ b.take n
  flush : ∀ w, (sink.flush w).1 = .ok () → content (sink.flush w).2 = content w

/-- What is written with success is not lost. -/
structure Writer.Keeps (writer : Writer ω) (content : ω → Bytes) : Prop where
  write : ∀ w b, (writer.write w b).1 = .ok () → content (writer.write w b).2 = content w ++ b
  flush : ∀ w, (writer.flush w).1 = .ok () → content (writer.flush w).2 = content w

theorem Writer.Keeps.answer {writer : Writer ω} {content : ω → Bytes} (h : writer.Keeps content)
    {op : WriterOp} {w : ω} (ok : (writer.answer op w).1 = .ok ()) :
    content (writer.answer op w).2 = content w ++ op.bytes := by
  cases op with
  | write b => exact h.write w b ok
  | flush => exact (h.flush w ok).trans (List.append_nil _).symm

namespace Sink

variable {sink : Sink ω} {content : ω → Bytes}

/-- What is offered until it is taken is there. -/
theorem Honest.offerAll (h : sink.Honest content) {stuck : String} {b : Bytes} {w : ω}
    (ok : (sink.offerAll stuck b w).1 = .ok ()) :
    content (sink.offerAll stuck b w).2.2 = content w ++ b := by
  fun_induction Sink.offerAll sink stuck b w with
  | case1 w => exact (List.append_nil _).symm
  | case2 b rest w fault w' reply => cases ok
  | case3 b rest w w' reply => cases ok
  | case4 b rest w n w' reply ih =>
    have grown := h.accept w (b :: rest) (n + 1) (congrArg Prod.fst reply)
    rw [reply] at grown
    rw [ih ok, grown, List.append_assoc, List.take_succ_cons, List.cons_append,
      List.take_append_drop]

/-- Without a buffer. -/
theorem Honest.writer_keeps (h : sink.Honest content) : sink.writer.Keeps content where
  write _ _ ok := h.offerAll ok
  flush := h.flush

/-- The pending bytes are there if they could be handed on. -/
theorem Honest.handOn (h : sink.Honest content) {w w' : Buffered ω}
    (ok : w.handOn sink = (.ok (), w')) :
    w'.pending = [] ∧ content w'.inner = content w.inner ++ w.pending := by
  have taken : (w.handOn sink).1 = .ok () := congrArg Prod.fst ok
  have grown := And.intro (offerAll_rest_of_ok taken) (h.offerAll taken)
  obtain rfl : (w.handOn sink).2 = w' := congrArg Prod.snd ok
  exact grown

/-- Bytes that go straight on do not overtake those that are kept back. -/
theorem Honest.put (h : sink.Honest content) {capacity : Nat} {b : Bytes} {w : Buffered ω}
    (order : capacity ≤ b.length → w.pending = [] ∨ b = [])
    (ok : (w.put sink capacity b).1 = .ok ()) :
    content (w.put sink capacity b).2.inner ++ (w.put sink capacity b).2.pending =
      content w.inner ++ w.pending ++ b := by
  unfold Buffered.put at ok ⊢
  split_ifs at ok ⊢ with large
  · have grown := h.writer_keeps.write w.inner b ok
    dsimp only
    rcases order large with none | rfl
    · rw [grown, none, List.append_nil, List.append_nil]
    · rw [grown, List.append_nil, List.append_nil]
  · exact (List.append_assoc _ _ _).symm

/-- With a buffer. -/
theorem Honest.buffered_keeps (h : sink.Honest content) (capacity : Nat) :
    (sink.buffered capacity).Keeps fun w => content w.inner ++ w.pending where
  write w b ok := by
    rw [buffered_write_eq] at ok ⊢
    by_cases kept : b.length < capacity - w.pending.length
    · rw [if_pos kept]
      exact (List.append_assoc _ _ _).symm
    rw [if_neg kept] at ok ⊢
    by_cases tight : capacity - w.pending.length < b.length
    · rw [if_pos tight] at ok ⊢
      rcases handed : w.handOn sink with ⟨fault | u, w'⟩
      · rw [handed] at ok
        cases ok
      · rw [handed] at ok
        obtain ⟨none, grown⟩ := h.handOn handed
        have added := h.put (fun _ => .inl none) ok
        rwa [none, List.append_nil, grown] at added
    · rw [if_neg tight] at ok ⊢
      exact h.put (w.eq_nil_or_of_exact kept tight) ok
  flush w ok := by
    unfold buffered at ok ⊢
    dsimp only at ok ⊢
    rcases handed : w.handOn sink with ⟨fault | u, w'⟩
    · rw [handed] at ok
      cases ok
    · rw [handed] at ok
      obtain ⟨none, grown⟩ := h.handOn handed
      dsimp only at ok ⊢
      rw [h.flush w'.inner ok, none, List.append_nil, grown]

/-- A target that has flushed its buffer leaves in the sink all that it wrote. -/
theorem content_close_of_flushed {w : Buffered ω} (none : w.pending = []) :
    content (w.close sink) = content w.inner ++ w.pending := by
  unfold Buffered.close Buffered.handOn
  rw [none, Sink.offerAll, List.append_nil]

end Sink

/-- A medium is honest, whatever room it has and whether or not it refuses to be flushed. -/
theorem Medium.honest_sink : Medium.sink.Honest Medium.content where
  accept m b n ok := by
    unfold sink accept at ok ⊢
    dsimp only at ok ⊢
    split_ifs at ok ⊢ with full
    cases ok
    rfl
  flush m _ := rfl

end LogicalBackup
