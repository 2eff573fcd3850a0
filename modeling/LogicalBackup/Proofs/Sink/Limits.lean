import LogicalBackup.Proofs.Sink.Recording

/-!
# Writers to sinks of limited room

A sink of limited room takes as many bytes as there is room for and then refuses every write
(`Sink.Limited`).  Of all bytes that are offered it has the first ones in the end, with a buffer
before it or without one.  `Writer.Limited` says so step by step: while nothing has failed, no byte
is lost, though some may be kept back; the first failure leaves the sink full, with the first bytes
of what was written, and from then on it does not change.
-/

namespace LogicalBackup

variable {ω : Type}

namespace Sink

/-- In the states `fit`, which it does not leave, the sink takes some of the bytes that it is
offered, the first ones, as long as there is room; `free` is the number of bytes for which there is.
When it is full it refuses every write that is not empty. -/
structure Limited (sink : Sink ω) (fit : ω → Prop) (free : ω → Nat) (content : ω → Bytes) :
    Prop where
  accept : ∀ w b, fit w → b ≠ [] → free w ≠ 0 → ∃ n, (sink.accept w b).1 = .ok n ∧ 0 < n ∧
    n ≤ b.length ∧ fit (sink.accept w b).2 ∧ free (sink.accept w b).2 + n = free w ∧
    content (sink.accept w b).2 = content w ++ b.take n
  full : ∀ w b, fit w → b ≠ [] → free w = 0 → ∃ fault, (sink.accept w b).1 = .error fault ∧
    fit (sink.accept w b).2 ∧ free (sink.accept w b).2 = 0 ∧
    content (sink.accept w b).2 = content w
  flush : ∀ w, fit w → (sink.flush w).1 = .ok () ∧ fit (sink.flush w).2 ∧
    free (sink.flush w).2 = free w ∧ content (sink.flush w).2 = content w

variable {sink : Sink ω} {fit : ω → Prop} {free : ω → Nat} {content : ω → Bytes}

/-- Offered again and again, as many bytes are taken as there is room for. -/
theorem Limited.offerAll (h : sink.Limited fit free content) (stuck : String) (b : Bytes) {w : ω}
    (hw : fit w) :
    ((sink.offerAll stuck b w).1 = .ok () ↔ b.length ≤ free w) ∧
      (sink.offerAll stuck b w).2.1 = b.drop (free w) ∧
      fit (sink.offerAll stuck b w).2.2 ∧
      free (sink.offerAll stuck b w).2.2 = free w - b.length ∧
      content (sink.offerAll stuck b w).2.2 = content w ++ b.take (free w) := by
  cases b with
  | nil =>
    rw [Sink.offerAll]
    simp [hw]
  | cons x rest =>
    by_cases room : free w = 0
    · obtain ⟨fault, refused, hw', none, same⟩ := h.full w (x :: rest) hw (List.cons_ne_nil _ _) room
      rcases reply : sink.accept w (x :: rest) with ⟨result, w'⟩
      rw [reply] at refused hw' none same
      dsimp only at refused hw' none same
      subst refused
      rw [Sink.offerAll, reply]
      simp [room, hw', none, same]
    · obtain ⟨n, taken, pos, fits, hw', left, grown⟩ :=
        h.accept w (x :: rest) hw (List.cons_ne_nil _ _) room
      obtain ⟨n, rfl⟩ : ∃ m, n = m + 1 := ⟨n - 1, by omega⟩
      rcases reply : sink.accept w (x :: rest) with ⟨result, w'⟩
      rw [reply] at taken hw' left grown
      dsimp only at taken hw' left grown
      subst taken
      obtain ⟨ok, left, last, remaining, all⟩ := h.offerAll stuck (rest.drop n) hw'
      have free_eq : free w = free w' + n + 1 := by omega
      rw [List.length_cons] at fits ⊢
      rw [List.length_drop] at ok remaining
      rw [Sink.offerAll, reply]
      refine ⟨ok.trans (by omega), ?_, last, remaining.trans (by omega), ?_⟩
      · rw [left, List.drop_drop, free_eq, List.drop_succ_cons, Nat.add_comm]
      · rw [all, grown, List.append_assoc, free_eq, List.take_succ_cons, List.take_succ_cons,
          List.cons_append, Nat.add_comm, List.take_add]
termination_by b.length
decreasing_by simp only [List.length_drop, List.length_cons]; omega

end Sink

/-- While nothing has failed, the writer `holds` all that was written.  At the first failure more was
written than the limit, and the writer is `full`, with as many bytes; that does not change. -/
structure Writer.Limited (writer : Writer ω) (holds full : ω → Bytes → Prop) (limit : Nat) :
    Prop where
  write : ∀ w x b, holds w x →
    (writer.write w b).1 = .ok () ∧ holds (writer.write w b).2 (x ++ b) ∨
      (writer.write w b).1 ≠ .ok () ∧ limit < (x ++ b).length ∧
        full (writer.write w b).2 ((x ++ b).take limit)
  flush : ∀ w x, holds w x →
    (writer.flush w).1 = .ok () ∧ holds (writer.flush w).2 x ∨
      (writer.flush w).1 ≠ .ok () ∧ limit < x.length ∧ full (writer.flush w).2 (x.take limit)
  write_full : ∀ w x b, full w x → full (writer.write w b).2 x
  flush_full : ∀ w x, full w x → full (writer.flush w).2 x

section Answer

variable {writer : Writer ω} {holds full : ω → Bytes → Prop} {limit : Nat} {w : ω} {x : Bytes}

/-- The bytes that are written. -/
def WriterOp.bytes : WriterOp → Bytes
  | .write b => b
  | .flush => []

theorem Writer.Limited.answer_of_holds (h : writer.Limited holds full limit) (op : WriterOp)
    (hw : holds w x) :
    (writer.answer op w).1 = .ok () ∧ holds (writer.answer op w).2 (x ++ op.bytes) ∨
      (writer.answer op w).1 ≠ .ok () ∧ limit < (x ++ op.bytes).length ∧
        full (writer.answer op w).2 ((x ++ op.bytes).take limit) := by
  cases op with
  | write b => exact h.write w x b hw
  | flush =>
    rw [WriterOp.bytes, List.append_nil]
    exact h.flush w x hw

theorem Writer.Limited.answer_of_full (h : writer.Limited holds full limit) (op : WriterOp)
    (hw : full w x) : full (writer.answer op w).2 x := by
  cases op with
  | write b => exact h.write_full w x b hw
  | flush => exact h.flush_full w x hw

end Answer

namespace Sink

variable {sink : Sink ω} {fit : ω → Prop} {free : ω → Nat} {content : ω → Bytes}

/-- The sink has room, for so many bytes in all, and these are the bytes it has. -/
structure Holds (fit : ω → Prop) (free : ω → Nat) (content : ω → Bytes) (limit : Nat) (w : ω)
    (x : Bytes) : Prop where
  fit : fit w
  content : content w = x
  room : x.length + free w = limit

/-- The sink has no room, and these are the bytes it has. -/
structure Full (fit : ω → Prop) (free : ω → Nat) (content : ω → Bytes) (w : ω) (x : Bytes) :
    Prop where
  fit : fit w
  content : content w = x
  room : free w = 0

section OfferAll

variable {limit : Nat} {w : ω} {x : Bytes}

theorem Holds.length_le (hw : Holds fit free content limit w x) : x.length ≤ limit := by
  have := hw.room
  omega

theorem Holds.content_eq_take (hw : Holds fit free content limit w x) :
    content w = x.take limit := by
  rw [List.take_of_length_le hw.length_le]
  exact hw.content

/-- What is offered is taken, or it fills the sink. -/
theorem Limited.offerAll_of_holds (h : sink.Limited fit free content) (stuck : String) (b : Bytes)
    (hw : Holds fit free content limit w x) :
    (sink.offerAll stuck b w).1 = .ok () ∧ (sink.offerAll stuck b w).2.1 = [] ∧
        Holds fit free content limit (sink.offerAll stuck b w).2.2 (x ++ b) ∨
      (sink.offerAll stuck b w).1 ≠ .ok () ∧ limit < (x ++ b).length ∧
        Full fit free content (sink.offerAll stuck b w).2.2 ((x ++ b).take limit) := by
  obtain ⟨fits, rfl, room⟩ := hw
  obtain ⟨ok, left, last, remaining, grown⟩ := h.offerAll stuck b fits
  rw [List.length_append]
  by_cases enough : b.length ≤ free w
  · refine .inl ⟨ok.2 enough, ?_, last, ?_, ?_⟩
    · rw [left, List.drop_eq_nil_iff]
      exact enough
    · rw [grown, List.take_of_length_le enough]
    · rw [remaining, List.length_append]
      omega
  · refine .inr ⟨mt ok.1 enough, by omega, last, ?_, by omega⟩
    rw [grown, ← room, List.take_length_add_append]

/-- What was not taken is reported. -/
theorem offerAll_rest_of_ok {sink : Sink ω} {stuck : String} {b : Bytes} {w : ω}
    (h : (sink.offerAll stuck b w).1 = .ok ()) : (sink.offerAll stuck b w).2.1 = [] := by
  fun_induction Sink.offerAll sink stuck b w with
  | case1 w => rfl
  | case2 w b rest fault w' reply => cases h
  | case3 w b rest w' reply => cases h
  | case4 w b rest w' n reply ih => exact ih h

/-- A full sink takes nothing more. -/
theorem Limited.offerAll_of_full (h : sink.Limited fit free content) (stuck : String) (b : Bytes)
    (hw : Full fit free content w x) : Full fit free content (sink.offerAll stuck b w).2.2 x := by
  obtain ⟨fits, rfl, room⟩ := hw
  obtain ⟨-, -, last, remaining, grown⟩ := h.offerAll stuck b fits
  exact ⟨last, by rw [grown, room, List.take_zero, List.append_nil], by omega⟩

theorem Limited.flush_of_holds (h : sink.Limited fit free content)
    (hw : Holds fit free content limit w x) :
    (sink.flush w).1 = .ok () ∧ Holds fit free content limit (sink.flush w).2 x := by
  obtain ⟨ok, last, left, same⟩ := h.flush w hw.fit
  exact ⟨ok, last, same.trans hw.content, left.symm ▸ hw.room⟩

theorem Limited.flush_of_full (h : sink.Limited fit free content)
    (hw : Full fit free content w x) : Full fit free content (sink.flush w).2 x := by
  obtain ⟨-, last, left, same⟩ := h.flush w hw.fit
  exact ⟨last, same.trans hw.content, left.trans hw.room⟩

end OfferAll

/-- Without a buffer. -/
theorem Limited.writer_limited (h : sink.Limited fit free content) (limit : Nat) :
    sink.writer.Limited (Holds fit free content limit) (Full fit free content) limit where
  write w x b hw := by
    rcases h.offerAll_of_holds "failed to write whole buffer" b hw with ⟨ok, -, holds⟩ | full
    · exact .inl ⟨ok, holds⟩
    · exact .inr full
  flush w x hw := .inl (h.flush_of_holds hw)
  write_full w x b hw := h.offerAll_of_full _ b hw
  flush_full w x hw := h.flush_of_full hw

/-! ## With a buffer -/

namespace Buffered

/-- The sink has room for what it has taken, and with the bytes that are kept back these are all. -/
structure Holds (fit : ω → Prop) (free : ω → Nat) (content : ω → Bytes) (limit : Nat)
    (w : Buffered ω) (x : Bytes) : Prop where
  inner : Sink.Holds fit free content limit w.inner (content w.inner)
  all : content w.inner ++ w.pending = x

/-- The sink has no room; what is kept back is lost. -/
def Full (fit : ω → Prop) (free : ω → Nat) (content : ω → Bytes) (w : Buffered ω) (x : Bytes) :
    Prop :=
  Sink.Full fit free content w.inner x

end Buffered

section Buffered

variable {limit : Nat} {w : Buffered ω} {x : Bytes}

/-- The pending bytes are taken, or they fill the sink. -/
theorem Limited.handOn_of_holds (h : sink.Limited fit free content)
    (hw : w.Holds fit free content limit x) :
    (w.handOn sink).1 = .ok () ∧ (w.handOn sink).2.pending = [] ∧
        Sink.Holds fit free content limit (w.handOn sink).2.inner x ∨
      (w.handOn sink).1 ≠ .ok () ∧ limit < x.length ∧
        (w.handOn sink).2.Full fit free content (x.take limit) := by
  obtain ⟨inner, rfl⟩ := hw
  exact h.offerAll_of_holds _ w.pending inner

theorem Limited.handOn_of_full (h : sink.Limited fit free content)
    (hw : w.Full fit free content x) : (w.handOn sink).2.Full fit free content x :=
  h.offerAll_of_full _ _ hw

theorem Buffered.holds_of_flushed (hw : Sink.Holds fit free content limit w.inner x)
    (none : w.pending = []) : w.Holds fit free content limit x where
  inner := by
    rw [hw.content]
    exact hw
  all := by rw [hw.content, none, List.append_nil]

theorem Buffered.Holds.length_le_of_flushed (hw : w.Holds fit free content limit x)
    (none : w.pending = []) : x.length ≤ limit := by
  have all := hw.all
  rw [none, List.append_nil] at all
  rw [← all]
  exact hw.inner.length_le

/-- Bytes that are kept back are not lost. -/
theorem Buffered.Holds.keep (hw : w.Holds fit free content limit x) (b : Bytes) :
    Buffered.Holds fit free content limit { w with pending := w.pending ++ b } (x ++ b) :=
  ⟨hw.inner, by rw [← hw.all, List.append_assoc]⟩

/-- Bytes that go straight on do not overtake those that are kept back. -/
theorem Limited.put_of_holds (h : sink.Limited fit free content) {capacity : Nat} {b : Bytes}
    (order : capacity ≤ b.length → w.pending = [] ∨ b = [])
    (hw : w.Holds fit free content limit x) :
    (w.put sink capacity b).1 = .ok () ∧
        (w.put sink capacity b).2.Holds fit free content limit (x ++ b) ∨
      (w.put sink capacity b).1 ≠ .ok () ∧ limit < (x ++ b).length ∧
        (w.put sink capacity b).2.Full fit free content ((x ++ b).take limit) := by
  unfold Buffered.put
  by_cases large : capacity ≤ b.length
  · rw [if_pos large]
    dsimp only
    rcases order large with none | rfl
    · obtain ⟨inner, rfl⟩ := hw
      rw [none, List.append_nil]
      rcases (h.writer_limited limit).write _ _ b inner with ⟨ok, holds⟩ | full
      · exact .inl ⟨ok, Buffered.holds_of_flushed holds rfl⟩
      · exact .inr full
    · have nothing : sink.writer.write w.inner [] = (.ok (), w.inner) := by
        simp [writer, Sink.offerAll]
      simp only [nothing, List.append_nil]
      exact .inl ⟨trivial, hw⟩
  · rw [if_neg large]
    exact .inl ⟨rfl, hw.keep b⟩

theorem Limited.put_of_full (h : sink.Limited fit free content) (capacity : Nat) (b : Bytes)
    (hw : w.Full fit free content x) : (w.put sink capacity b).2.Full fit free content x := by
  unfold Buffered.put
  split_ifs
  · exact h.offerAll_of_full _ b hw
  · exact hw

/-- With a buffer. -/
theorem Limited.buffered_limited (h : sink.Limited fit free content) (capacity limit : Nat) :
    (sink.buffered capacity).Limited (Buffered.Holds fit free content limit)
      (Buffered.Full fit free content) limit where
  write w x b hw := by
    rw [buffered_write_eq]
    by_cases kept : b.length < capacity - w.pending.length
    · rw [if_pos kept]
      exact .inl ⟨rfl, hw.keep b⟩
    rw [if_neg kept]
    by_cases tight : capacity - w.pending.length < b.length
    · rw [if_pos tight]
      have handed := h.handOn_of_holds hw
      generalize w.handOn sink = handedOn at handed ⊢
      obtain ⟨fault | u, w'⟩ := handedOn
      · obtain ⟨⟨⟩, -⟩ | ⟨-, excess, full⟩ := handed
        refine .inr ⟨nofun, ?_, ?_⟩
        · rw [List.length_append]
          omega
        · rwa [List.take_append_of_le_length (Nat.le_of_lt excess)]
      · obtain ⟨-, empty, inner⟩ | ⟨bad, -⟩ := handed
        · exact h.put_of_holds (fun _ => .inl empty) (Buffered.holds_of_flushed inner empty)
        · exact absurd rfl bad
    · rw [if_neg tight]
      exact h.put_of_holds (w.eq_nil_or_of_exact kept tight) hw
  flush w x hw := by
    have handed := h.handOn_of_holds hw
    unfold buffered
    dsimp only
    generalize w.handOn sink = handedOn at handed ⊢
    obtain ⟨fault | u, w'⟩ := handedOn
    · obtain ⟨⟨⟩, -⟩ | ⟨-, excess, full⟩ := handed
      exact .inr ⟨nofun, excess, full⟩
    · obtain ⟨-, empty, inner⟩ | ⟨bad, -⟩ := handed
      · obtain ⟨ok, holds⟩ := h.flush_of_holds inner
        exact .inl ⟨ok, Buffered.holds_of_flushed holds empty⟩
      · exact absurd rfl bad
  write_full w x b hw := by
    rw [buffered_write_eq]
    split_ifs
    · exact hw
    · have handed := h.handOn_of_full hw
      generalize w.handOn sink = handedOn at handed ⊢
      obtain ⟨fault | u, w'⟩ := handedOn
      · exact handed
      · exact h.put_of_full capacity b handed
    · exact h.put_of_full capacity b hw
  flush_full w x hw := by
    have handed := h.handOn_of_full hw
    unfold buffered
    dsimp only
    generalize w.handOn sink = handedOn at handed ⊢
    obtain ⟨fault | u, w'⟩ := handedOn
    · exact handed
    · exact h.flush_of_full handed

/-- After a flush nothing is kept back. -/
theorem buffered_flush_of_ok (sink : Sink ω) (capacity : Nat) {w : Buffered ω}
    (h : ((sink.buffered capacity).flush w).1 = .ok ()) :
    ((sink.buffered capacity).flush w).2.pending = [] := by
  have handed : (w.handOn sink).1 = .ok () → (w.handOn sink).2.pending = [] := offerAll_rest_of_ok
  unfold buffered at h ⊢
  dsimp only at h ⊢
  generalize w.handOn sink = handedOn at handed h ⊢
  obtain ⟨fault | u, w'⟩ := handedOn
  · cases h
  · exact handed rfl

/-- At the end the sink has as much of what was written as there was room for. -/
theorem Limited.content_close_of_holds (h : sink.Limited fit free content)
    (hw : w.Holds fit free content limit x) : content (w.close sink) = x.take limit := by
  rcases h.handOn_of_holds hw with ⟨-, -, inner⟩ | ⟨-, -, full⟩
  · exact inner.content_eq_take
  · exact full.content

theorem Limited.content_close_of_full (h : sink.Limited fit free content)
    (hw : w.Full fit free content x) : content (w.close sink) = x :=
  (h.handOn_of_full hw).content

end Buffered

end Sink

/-- A medium of limited room takes as many bytes as fit. -/
theorem Medium.limited_sink :
    Medium.sink.Limited (fun m => m.room ≠ none ∧ m.refusesFlush = false) (·.room.getD 0)
      Medium.content where
  accept m b hm hb pos := by
    obtain ⟨room | n, refuses, content⟩ := m
    · exact absurd rfl hm.1
    have some : n ≠ 0 := pos
    have length : 0 < b.length := List.length_pos_iff.2 hb
    have taken : Medium.taken ⟨.some n, refuses, content⟩ b.length = min b.length n := rfl
    have kept : min b.length n ≠ 0 := by omega
    refine ⟨min b.length n, ?_, by omega, by omega, ?_, ?_, ?_⟩ <;>
      simp only [sink, accept, taken, kept, false_and, if_false]
    · exact ⟨Option.some_ne_none _, hm.2⟩
    · exact Nat.sub_add_cancel (Nat.min_le_right _ _)
  full m b hm hb none := by
    obtain ⟨room | n, refuses, content⟩ := m
    · exact absurd rfl hm.1
    obtain rfl : n = 0 := none
    have taken : Medium.taken ⟨.some 0, refuses, content⟩ b.length = 0 := Nat.min_zero _
    refine ⟨⟨.other, "sink is full"⟩, ?_, ?_, ?_, ?_⟩ <;>
      simp only [sink, accept, taken, true_and, if_pos hb]
    · exact hm
    · rfl
  flush m hm := by simp [Medium.sink, hm]

end LogicalBackup
