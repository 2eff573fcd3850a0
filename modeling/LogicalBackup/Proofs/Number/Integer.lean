import LogicalBackup.Proofs.Number.Decimal
import Mathlib.Tactic.SplitIfs

/-!
# Integers in digits

An `IntegerForm` is a text of digits, before which a sign may stand.  Just these texts are read as
integers, each as the one it stands for (`readInt_eq_some_iff`).  An integer is written in the form
that has no sign and no zero to spare (`IntegerForm.isCanonical_ofInt`).
-/

namespace LogicalBackup.Decimal

/-- What stands before the digits. -/
inductive Sign where
  | none
  | plus
  | minus
  deriving DecidableEq

namespace Sign

/-- The characters of a sign. -/
def chars : Sign → List Char
  | none => []
  | plus => ['+']
  | minus => ['-']

/-- The integer of this sign and absolute value. -/
def apply : Sign → Nat → Int
  | minus, n => -(n : Int)
  | _, n => n

end Sign

/-- At least one digit, with a sign before the digits or none. -/
structure IntegerForm where
  sign : Sign
  digits : List Char
  ne_nil : digits ≠ []
  isDigit : ∀ c ∈ digits, c.isDigit

namespace IntegerForm

variable (f : IntegerForm)

/-- The form as it is written. -/
def text : String := String.ofList (f.sign.chars ++ f.digits)

/-- The integer that the form stands for. -/
def value : Int := f.sign.apply (Decimal.value f.digits)

/-- No sign and no zero to spare.  Zero has no sign. -/
structure IsCanonical : Prop where
  sign_ne : f.sign ≠ .plus
  digits_eq : f.digits.head? = some '0' → f.sign = .none ∧ f.digits = ['0']

theorem toList_text : f.text.toList = f.sign.chars ++ f.digits := String.toList_ofList

end IntegerForm

/-! ## Reading -/

theorem readNat_eq_some_iff {s : List Char} {n : Nat} :
    readNat s = some n ↔ s ≠ [] ∧ (∀ c ∈ s, c.isDigit) ∧ value s = n := by
  unfold readNat
  split_ifs with h
  · simp only [Bool.or_eq_true, List.isEmpty_iff, Bool.not_eq_true', List.all_eq_false] at h
    refine iff_of_false (by simp) ?_
    rintro ⟨ne, digits, -⟩
    rcases h with none | ⟨c, hc, other⟩
    · exact ne none
    · exact other (digits c hc)
  · simp only [Bool.or_eq_true, List.isEmpty_iff, Bool.not_eq_true', not_or, Bool.not_eq_false,
      List.all_eq_true] at h
    rw [Option.some.injEq]
    exact ⟨fun same => ⟨h.1, h.2, same⟩, fun same => same.2.2⟩

/-- A sign may stand before what is read. -/
theorem exists_readInt_eq (s : List Char) : ∃ sign digits, Sign.chars sign ++ digits = s ∧
    readInt s = (readNat digits).map sign.apply := by
  unfold readInt
  split
  · next digits => exact ⟨.minus, digits, rfl, by cases readNat digits <;> rfl⟩
  · next digits => exact ⟨.plus, digits, rfl, by cases readNat digits <;> rfl⟩
  · exact ⟨.none, s, rfl, by cases readNat s <;> rfl⟩

/-- A sign is told apart from digits. -/
theorem readInt_digits {s : List Char} (h : ∀ c ∈ s, c.isDigit) :
    readInt s = (readNat s).map Sign.none.apply := by
  unfold readInt
  split
  · exact absurd (h '-' List.mem_cons_self) (by decide)
  · exact absurd (h '+' List.mem_cons_self) (by decide)
  · cases readNat s <;> rfl

theorem readInt_text (f : IntegerForm) : readInt f.text.toList = some f.value := by
  obtain ⟨sign, digits, ne, digit⟩ := f
  have read : readNat digits = some (value digits) := readNat_eq_some_iff.2 ⟨ne, digit, rfl⟩
  rw [IntegerForm.toList_text]
  cases sign with
  | none =>
    refine (readInt_digits digit).trans ?_
    rw [read]
    rfl
  | plus =>
    change readInt ('+' :: digits) = _
    rw [readInt, read]
    rfl
  | minus =>
    change readInt ('-' :: digits) = _
    rw [readInt, read]
    rfl

/-- The texts that are read as integers. -/
theorem readInt_eq_some_iff {s : List Char} {n : Int} :
    readInt s = some n ↔ ∃ f : IntegerForm, f.text.toList = s ∧ f.value = n := by
  constructor
  · intro h
    obtain ⟨sign, digits, rfl, read⟩ := exists_readInt_eq s
    rw [read] at h
    obtain ⟨m, hm, rfl⟩ := Option.map_eq_some_iff.1 h
    obtain ⟨ne, digit, rfl⟩ := readNat_eq_some_iff.1 hm
    exact ⟨⟨sign, digits, ne, digit⟩, IntegerForm.toList_text _, rfl⟩
  · rintro ⟨f, rfl, rfl⟩
    exact readInt_text f

/-! ## Writing -/

theorem eq_zero_of_head?_toDigits {n : Nat} (h : (Nat.toDigits 10 n).head? = some '0') : n = 0 := by
  by_contra pos
  exact head?_toDigits_ne_zero (Nat.pos_of_ne_zero pos) h

namespace IntegerForm

/-- The digits that an integer needs, with a minus sign below zero. -/
def ofInt (n : Int) : IntegerForm where
  sign := if n < 0 then .minus else .none
  digits := Nat.toDigits 10 n.natAbs
  ne_nil := Nat.toDigits_ne_nil
  isDigit _ := isDigit_of_mem_toDigits

theorem value_ofInt (n : Int) : (ofInt n).value = n := by
  change (if n < 0 then Sign.minus else Sign.none).apply (Decimal.value (Nat.toDigits 10 n.natAbs))
    = n
  rw [value_toDigits]
  split_ifs with negative
  · change -(n.natAbs : Int) = n
    omega
  · change (n.natAbs : Int) = n
    omega

/-- An integer is written in this form. -/
theorem text_ofInt (n : Int) : (ofInt n).text = Decimal.ofInt n := by
  change String.ofList ((if n < 0 then Sign.minus else Sign.none).chars ++ Nat.toDigits 10 n.natAbs)
    = _
  unfold Decimal.ofInt
  split_ifs
  · exact String.ofList_append
  · rfl

theorem isCanonical_ofInt (n : Int) : (ofInt n).IsCanonical where
  sign_ne := by
    change (if n < 0 then Sign.minus else Sign.none) ≠ Sign.plus
    split_ifs <;> decide
  digits_eq zero := by
    obtain rfl := Int.natAbs_eq_zero.1 (eq_zero_of_head?_toDigits zero)
    exact ⟨rfl, rfl⟩

end IntegerForm

end LogicalBackup.Decimal
