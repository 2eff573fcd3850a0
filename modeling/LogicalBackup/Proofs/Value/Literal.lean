import LogicalBackup.Proofs.Number.Decimal
import LogicalBackup.Proofs.Text.Ascii
import LogicalBackup.Value.Literal
import Mathlib.Data.List.TakeWhile
import Mathlib.Tactic.SplitIfs

/-!
# The form of literals

A literal is a plain text, or one followed by a string between quotation marks
(`literal_eq_or`).  A plain text holds none of the bytes that tell literals and tuples apart, and a
string has eight bytes behind backslashes only (`escapeByte_cases`).
-/

namespace LogicalBackup

/-! ## Plain texts -/

/-- A character that goes for itself between literals. -/
def IsPlain (c : Char) : Prop := c ∉ ['\'', ',', '(', ')', '\n']

/-- A byte that goes for itself between literals. -/
def IsPlainByte (b : UInt8) : Prop := b ∉ [Byte.quote, Byte.comma, 0x28, 0x29, Byte.lineFeed]

instance (c : Char) : Decidable (IsPlain c) := inferInstanceAs (Decidable (c ∉ _))

instance (b : UInt8) : Decidable (IsPlainByte b) := inferInstanceAs (Decidable (b ∉ _))

theorem isPlainByte_of_mem_utf8 {s : String} (h : ∀ c ∈ s.toList, IsPlain c) {b : UInt8}
    (hb : b ∈ utf8 s) : IsPlainByte b := by
  intro special
  obtain ⟨c, hc, rfl⟩ : ∃ c ∈ ['\'', ',', '(', ')', '\n'], asciiByte c = b :=
    List.mem_map.1 (show b ∈ ['\'', ',', '(', ')', '\n'].map asciiByte from special)
  have ascii : c.toNat < 128 :=
    (by decide : ∀ d ∈ ['\'', ',', '(', ')', '\n'], d.toNat < 128) c hc
  exact h c ((mem_utf8_iff ascii s).1 hb) hc

theorem isPlain_of_isDigit {c : Char} (h : c.isDigit) : IsPlain c := by
  intro special
  have : ∀ d ∈ ['\'', ',', '(', ')', '\n'], d.isDigit = false := by decide
  rw [this c special] at h
  cases h

theorem isPlain_of_mem_toDigits {n : Nat} {c : Char} (h : c ∈ Nat.toDigits 10 n) : IsPlain c :=
  isPlain_of_isDigit (Decimal.isDigit_of_mem_toDigits h)

theorem isPlain_ofNat {n : Nat} : ∀ c ∈ (Decimal.ofNat n).toList, IsPlain c := by
  rw [Decimal.ofNat, String.toList_ofList]
  exact fun c => isPlain_of_mem_toDigits

theorem isPlain_ofInt {i : Int} : ∀ c ∈ (Decimal.ofInt i).toList, IsPlain c := by
  unfold Decimal.ofInt
  split_ifs
  · rw [String.toList_append]
    intro c hc
    rcases List.mem_append.1 hc with h | h
    · rw [List.mem_singleton.1 h]
      decide
    · exact isPlain_ofNat c h
  · exact isPlain_ofNat

/-- A digit or a point. -/
def IsDecimalChar (c : Char) : Prop := c.isDigit ∨ c = '.'

theorem IsDecimalChar.isPlain {c : Char} (h : IsDecimalChar c) : IsPlain c := by
  rcases h with digit | rfl
  · exact isPlain_of_isDigit digit
  · decide

theorem isDecimalChar_zeros {n : Nat} : ∀ c ∈ Binary.zeros n, IsDecimalChar c := by
  intro c hc
  rw [List.eq_of_mem_replicate hc]
  exact Or.inl (by decide)

theorem isDecimalChar_positional {digits : List Char} (h : ∀ c ∈ digits, IsDecimalChar c)
    (place : Int) : ∀ c ∈ Binary.positional digits place, IsDecimalChar c := by
  unfold Binary.positional
  intro c hc
  split_ifs at hc
  · rcases List.mem_append.1 hc with hc | hc
    · exact h c hc
    · exact isDecimalChar_zeros c hc
  · dsimp only at hc
    split_ifs at hc
    · rcases List.mem_append.1 hc with hc | hc
      · exact h c (List.mem_of_mem_take hc)
      · rcases List.mem_cons.1 hc with rfl | hc
        · exact Or.inr rfl
        · exact h c (List.mem_of_mem_drop hc)
    · rcases List.mem_append.1 hc with hc | hc
      · rcases List.mem_cons.1 hc with rfl | hc
        · exact Or.inl (by decide)
        · rcases List.mem_cons.1 hc with rfl | hc
          · exact Or.inr rfl
          · exact isDecimalChar_zeros c hc
      · exact h c hc

theorem isDecimalChar_finiteText (format : BinaryFormat) (mantissa : Nat) (exponent : Int) :
    ∀ c ∈ Binary.finiteText format mantissa exponent, IsDecimalChar c := by
  unfold Binary.finiteText
  split_ifs
  · exact List.forall_mem_singleton.2 (Or.inl (by decide))
  · refine isDecimalChar_positional (fun c hc => ?_) _
    have digit := List.mem_reverse.1 ((List.dropWhile_suffix _).mem (List.mem_reverse.1 hc))
    exact Or.inl (Decimal.isDigit_of_mem_toDigits digit)

theorem isPlain_text {format : BinaryFormat} (x : Binary format) :
    ∀ c ∈ x.text.toList, IsPlain c := by
  cases x with
  | nan => exact (by decide : ∀ c ∈ "NaN".toList, IsPlain c)
  | infinite negative =>
    cases negative with
    | false => exact (by decide : ∀ c ∈ "inf".toList, IsPlain c)
    | true => exact (by decide : ∀ c ∈ "-inf".toList, IsPlain c)
  | finite negative mantissa exponent =>
    rw [Binary.text, String.toList_ofList]
    split_ifs
    · rintro c (_ | ⟨_, hc⟩)
      · decide
      · exact (isDecimalChar_finiteText format mantissa exponent c hc).isPlain
    · exact fun c hc => (isDecimalChar_finiteText format mantissa exponent c hc).isPlain

/-! ## Numbers that are not empty -/

theorem toList_ofNat_ne_nil (n : Nat) : (Decimal.ofNat n).toList ≠ [] := by
  rw [Decimal.ofNat, String.toList_ofList]
  exact Nat.toDigits_ne_nil

theorem toList_ofInt_ne_nil (i : Int) : (Decimal.ofInt i).toList ≠ [] := by
  unfold Decimal.ofInt
  split_ifs
  · rw [String.toList_append]
    exact List.append_ne_nil_of_right_ne_nil _ (toList_ofNat_ne_nil _)
  · exact toList_ofNat_ne_nil _

theorem exists_mem_toDigits_ne_zero {n : Nat} (h : 0 < n) : ∃ c ∈ Nat.toDigits 10 n, c ≠ '0' := by
  have first := Decimal.head?_toDigits_ne_zero h
  have ne : Nat.toDigits 10 n ≠ [] := Nat.toDigits_ne_nil
  obtain ⟨c, s, e⟩ := List.exists_cons_of_ne_nil ne
  rw [e] at first ⊢
  exact ⟨c, List.mem_cons_self, fun zero => first (congrArg some zero)⟩

theorem positional_ne_nil {digits : List Char} (h : digits ≠ []) (place : Int) :
    Binary.positional digits place ≠ [] := by
  unfold Binary.positional
  dsimp only
  split_ifs
  · exact List.append_ne_nil_of_left_ne_nil h _
  · exact List.append_ne_nil_of_right_ne_nil _ (List.cons_ne_nil _ _)
  · exact List.cons_ne_nil _ _

theorem trimZeros_ne_nil {digits : List Char} (h : ∃ c ∈ digits, c ≠ '0') (place : Int) :
    (Binary.trimZeros digits place).1 ≠ [] := by
  obtain ⟨c, hc, hc0⟩ := h
  unfold Binary.trimZeros
  rw [ne_eq, List.reverse_eq_nil_iff, List.dropWhile_eq_nil_iff]
  intro all
  have := all c (List.mem_reverse.2 hc)
  exact hc0 (by simpa using this)

/-- The shortest form of a number that is not zero is not zero. -/
theorem shortest_pos {i : Binary.Interval} (low : 0 < i.low) (value : 0 < i.value) (places : Nat) :
    0 < (i.shortest places).1 := by
  have pos {x : Nat} (h : i.contains x) : 0 < x := by
    unfold Binary.Interval.contains at h
    split_ifs at h
    · have := (Bool.and_eq_true_iff.1 h).1
      exact lt_of_lt_of_le low (of_decide_eq_true this)
    · have := (Bool.and_eq_true_iff.1 h).1
      exact lt_trans low (of_decide_eq_true this)
  induction places with
  | zero => exact value
  | succ places ih =>
    have grid : 0 < Nat.pow 10 (places + 1) := Nat.pow_pos (by decide)
    unfold Binary.Interval.shortest
    generalize Nat.pow 10 (places + 1) = g at grid
    have multiple {x : Nat} (h : i.contains x) (hx : g ∣ x) : 0 < x / g :=
      Nat.div_pos (Nat.le_of_dvd (pos h) hx) grid
    have below : g ∣ i.value / g * g := Nat.dvd_mul_left _ _
    have above : g ∣ i.value / g * g + g := Nat.dvd_add below (Nat.dvd_refl g)
    have step {nearest other : Nat} (hn : g ∣ nearest) (ho : g ∣ other) (unit : Int) :
        0 < (if i.contains nearest then (nearest / g, unit)
          else if i.contains other then (other / g, unit) else i.shortest places).1 := by
      split_ifs with h1 h2
      · exact multiple h1 hn
      · exact multiple h2 ho
      · exact ih
    have either {a b : Nat} (ha : g ∣ a) (hb : g ∣ b) (p : Prop) [Decidable p] :
        g ∣ if p then a else b := by
      split_ifs
      · exact ha
      · exact hb
    exact step (either below above _) (either above below _) _

theorem interval_pos (format : BinaryFormat) {mantissa : Nat} (h : 0 < mantissa) (exponent : Int) :
    0 < (Binary.interval format mantissa exponent).low ∧
      0 < (Binary.interval format mantissa exponent).value := by
  have two (n : Nat) : 0 < Nat.pow 2 n := Nat.pow_pos (by decide)
  have five (n : Nat) : 0 < Nat.pow 5 n := Nat.pow_pos (by decide)
  unfold Binary.interval
  dsimp only
  constructor
  · refine Nat.mul_pos ?_ ?_
    · split_ifs <;> omega
    · split_ifs
      · exact two _
      · exact five _
  · refine Nat.mul_pos (by omega) ?_
    split_ifs
    · exact two _
    · exact five _

/-- A finite number has at least one digit. -/
theorem finiteText_ne_nil (format : BinaryFormat) (mantissa : Nat) (exponent : Int) :
    Binary.finiteText format mantissa exponent ≠ [] := by
  unfold Binary.finiteText
  split_ifs with h
  · exact List.cons_ne_nil _ _
  · obtain ⟨low, value⟩ := interval_pos format (Nat.pos_of_ne_zero h) exponent
    have digits := exists_mem_toDigits_ne_zero (shortest_pos low value
      ((Nat.toDigits 10 (Binary.interval format mantissa exponent).value).length - 1))
    dsimp only
    generalize (Binary.interval format mantissa exponent).shortest _ = r at digits ⊢
    exact positional_ne_nil (trimZeros_ne_nil digits r.2) _

theorem toList_text_ne_nil {format : BinaryFormat} (x : Binary format) : x.text.toList ≠ [] := by
  cases x with
  | nan => exact (by decide : "NaN".toList ≠ [])
  | infinite negative =>
    cases negative with
    | false => exact (by decide : "inf".toList ≠ [])
    | true => exact (by decide : "-inf".toList ≠ [])
  | finite negative mantissa exponent =>
    rw [Binary.text, String.toList_ofList]
    split_ifs
    · exact List.cons_ne_nil _ _
    · exact finiteText_ne_nil format mantissa exponent

/-! ## Strings -/

/-- The bytes that may follow a backslash in a string, and what each stands for. -/
def escapes : List (UInt8 × UInt8) :=
  [(0x30, 0), (Byte.quote, Byte.quote), (0x22, 0x22), (0x62, 0x08), (0x6e, Byte.lineFeed),
    (0x72, Byte.carriageReturn), (0x5a, 0x1a), (Byte.backslash, Byte.backslash)]

/-- The bytes that strings have behind backslashes only. -/
def escaped : List UInt8 := escapes.map Prod.snd

theorem escapeByte_cases (b : UInt8) :
    (∃ c, escapeByte b = [Byte.backslash, c] ∧ (c, b) ∈ escapes) ∨
      escapeByte b = [b] ∧ b ∉ escaped := by
  by_cases mem : b ∈ escaped
  · have written : ∀ p ∈ escapes, escapeByte p.2 = [Byte.backslash, p.1] := by decide
    obtain ⟨p, hp, rfl⟩ := List.mem_map.1 mem
    exact Or.inl ⟨p.1, written p hp, hp⟩
  · have none : b ∉ [0, Byte.quote, 0x22, 0x08, Byte.lineFeed, Byte.carriageReturn, 0x1a,
        Byte.backslash] := mem
    simp only [List.mem_cons, List.not_mem_nil, or_false, not_or] at none
    obtain ⟨h0, hq, h2, h8, hlf, hcr, h1a, hb⟩ := none
    refine Or.inr ⟨?_, mem⟩
    rw [escapeByte, if_neg h0, if_neg hq, if_neg h2, if_neg h8, if_neg hlf, if_neg hcr,
      if_neg h1a, if_neg hb]

/-- A byte of a string is written as it is, if it means nothing there, or as one behind a
backslash. -/
theorem escapeByte_eq_or (b : UInt8) :
    (∃ c, escapeByte b = [Byte.backslash, c] ∧ c ≠ Byte.lineFeed) ∨
      escapeByte b = [b] ∧ b ≠ Byte.quote ∧ b ≠ Byte.backslash ∧ b ≠ Byte.lineFeed := by
  rcases escapeByte_cases b with ⟨c, written, pair⟩ | ⟨written, bare⟩
  · have feedless : ∀ p ∈ escapes, p.1 ≠ Byte.lineFeed := by decide
    exact Or.inl ⟨c, written, feedless _ pair⟩
  · refine Or.inr ⟨written, ?_, ?_, ?_⟩ <;>
    · rintro rfl
      exact bare (by decide)

theorem escape_cons (x : UInt8) (b : Bytes) : escape (x :: b) = escapeByte x ++ escape b :=
  List.flatMap_cons

/-- Bytes without escapes are written as they are. -/
theorem escape_eq_self {b : Bytes} (h : ∀ x ∈ b, x ∉ escaped) : escape b = b := by
  induction b with
  | nil => rfl
  | cons x b ih =>
    obtain ⟨hx, hb⟩ := List.forall_mem_cons.1 h
    rcases escapeByte_cases x with ⟨c, -, pair⟩ | ⟨written, -⟩
    · exact absurd (List.mem_map_of_mem pair) hx
    · rw [escape_cons, written, ih hb, List.singleton_append]

/-- A character of which strings have the byte as it is. -/
def IsUnescaped (c : Char) : Prop := c.toNat < 128 ∧ asciiByte c ∉ escaped

instance (c : Char) : Decidable (IsUnescaped c) :=
  inferInstanceAs (Decidable (c.toNat < 128 ∧ asciiByte c ∉ escaped))

theorem isUnescaped_of_isDigit {c : Char} (h : c.isDigit) : IsUnescaped c := by
  have bounds : 48 ≤ c.toNat ∧ c.toNat ≤ 57 := Char.isDigit_iff_toNat.1 h
  have outside : ∀ b ∈ escaped, b.toNat < 48 ∨ 57 < b.toNat := by decide
  refine ⟨toNat_lt_of_isDigit h, fun mem => ?_⟩
  have code := outside _ mem
  rw [toNat_asciiByte (toNat_lt_of_isDigit h)] at code
  omega

theorem quote_of_isUnescaped {s : String} (h : ∀ c ∈ s.toList, IsUnescaped c) :
    quote (utf8 s) = utf8 ("'" ++ s ++ "'") := by
  have bytes : utf8 s = s.toList.map asciiByte := by
    rw [← utf8_ofList_eq_map fun c hc => (h c hc).1, String.ofList_toList]
  have unescaped : ∀ x ∈ utf8 s, x ∉ escaped := by
    rw [bytes]
    intro x hx
    obtain ⟨c, hc, rfl⟩ := List.mem_map.1 hx
    exact (h c hc).2
  rw [quote, escape_eq_self unescaped, utf8_append, utf8_append]
  rfl

/-- Texts whose characters stand for themselves have literals of their own. -/
theorem quote_eq_quote_iff {s t : String} (hs : ∀ c ∈ s.toList, IsUnescaped c)
    (ht : ∀ c ∈ t.toList, IsUnescaped c) : quote (utf8 s) = quote (utf8 t) ↔ s = t := by
  rw [quote_of_isUnescaped hs, quote_of_isUnescaped ht, ← String.append_right_inj "'",
    ← String.append_left_inj "'"]
  exact ⟨utf8_injective, congrArg utf8⟩

theorem lineFeed_not_mem_quote (b : Bytes) : Byte.lineFeed ∉ quote b := by
  have inner : Byte.lineFeed ∉ escape b := by
    rw [escape, List.mem_flatMap]
    rintro ⟨x, -, hx⟩
    rcases escapeByte_eq_or x with ⟨c, he, hc⟩ | ⟨he, -, -, hlf⟩
    · rw [he] at hx
      rcases List.mem_cons.1 hx with h | h
      · exact absurd h (by decide)
      · exact hc (List.mem_singleton.1 h).symm
    · rw [he] at hx
      exact hlf (List.mem_singleton.1 hx).symm
  rw [quote, List.mem_cons, List.mem_append, List.mem_singleton]
  rintro (h | h | h)
  · exact absurd h (by decide)
  · exact inner h
  · exact absurd h (by decide)

/-! ## Literals -/

/-- A literal is a plain text that is not empty, or a plain text and a string. -/
theorem literal_eq_or (v : Value) :
    ∃ head : String, (∀ c ∈ head.toList, IsPlain c) ∧
      (literal v = utf8 head ∧ head.toList ≠ [] ∨ ∃ b, literal v = utf8 head ++ quote b) := by
  cases v with
  | null => exact ⟨"NULL", by decide, Or.inl ⟨rfl, by decide⟩⟩
  | bool b =>
    cases b with
    | false => exact ⟨"0", by decide, Or.inl ⟨rfl, by decide⟩⟩
    | true => exact ⟨"1", by decide, Or.inl ⟨rfl, by decide⟩⟩
  | int64 n => exact ⟨_, isPlain_ofInt, Or.inl ⟨rfl, toList_ofInt_ne_nil _⟩⟩
  | uint64 n => exact ⟨_, isPlain_ofNat, Or.inl ⟨rfl, toList_ofNat_ne_nil _⟩⟩
  | float64 x => exact ⟨_, isPlain_text x, Or.inl ⟨rfl, toList_text_ne_nil x⟩⟩
  | text s => exact ⟨"", by decide, Or.inr ⟨utf8 s, rfl⟩⟩
  | bytes b =>
    by_cases h : b.isEmpty
    · exact ⟨"NULL", by decide, Or.inl ⟨by rw [literal, if_pos h], by decide⟩⟩
    · exact ⟨"_binary ", by decide, Or.inr ⟨b, by rw [literal, if_neg h]⟩⟩
  | date d => exact ⟨"", by decide, Or.inr ⟨utf8 d.text, rfl⟩⟩
  | dateTime m => exact ⟨"", by decide, Or.inr ⟨utf8 m.text, rfl⟩⟩
  | other s => exact ⟨"", by decide, Or.inr ⟨utf8 s, rfl⟩⟩

end LogicalBackup
