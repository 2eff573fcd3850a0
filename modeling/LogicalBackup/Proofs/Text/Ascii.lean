import LogicalBackup.Bytes
import Mathlib.Data.List.Chain

/-!
# ASCII characters in the bytes of a text

A byte below 128 of `utf8 s` is an ASCII character of `s`, and no part of another one.  So a byte
string shows the line feeds and semicolons of a text where the text has them (`mem_utf8_iff`,
`getLast?_utf8_eq_iff`), and what holds of the neighbours of such characters holds of the
neighbours of their bytes (`isChain_utf8`).
-/

namespace LogicalBackup

-- Of characters and bytes, these instances look at those of a list, and not at all that there are.

instance decidableForallMemList (p : Char → Prop) [DecidablePred p] (cs : List Char) :
    Decidable (∀ c ∈ cs, p c) := List.decidableBAll p cs

instance decidableForallMemOption (p : Char → Prop) [DecidablePred p] (o : Option Char) :
    Decidable (∀ c ∈ o, p c) := Option.decidableForallMem o

instance decidableForallMemBytes (p : UInt8 → Prop) [DecidablePred p] (b : Bytes) :
    Decidable (∀ x ∈ b, p x) := List.decidableBAll p b

instance decidableForallMemBytePairs (p : UInt8 × UInt8 → Prop) [DecidablePred p]
    (l : List (UInt8 × UInt8)) : Decidable (∀ x ∈ l, p x) := List.decidableBAll p l

/-- The byte of an ASCII character (junk for other characters). -/
def asciiByte (c : Char) : UInt8 := UInt8.ofNat c.toNat

theorem utf8EncodeChar_of_lt {c : Char} (h : c.toNat < 128) :
    String.utf8EncodeChar c = [asciiByte c] := by
  have h' : c.val.toNat ≤ 127 := by
    change c.val.toNat < 128 at h
    omega
  simp only [String.utf8EncodeChar, h', if_true]
  rfl

theorem toNat_lt_of_isDigit {c : Char} (h : c.isDigit) : c.toNat < 128 := by
  have bounds : 48 ≤ c.toNat ∧ c.toNat ≤ 57 := Char.isDigit_iff_toNat.1 h
  omega

theorem utf8_ofList_eq_map {cs : List Char} (h : ∀ c ∈ cs, c.toNat < 128) :
    utf8 (String.ofList cs) = cs.map asciiByte := by
  rw [utf8, String.toList_ofList]
  induction cs with
  | nil => rfl
  | cons c cs ih =>
    obtain ⟨hc, hcs⟩ := List.forall_mem_cons.1 h
    rw [List.flatMap_cons, utf8EncodeChar_of_lt hc, ih hcs]
    rfl

theorem le_of_mem_utf8EncodeChar {c : Char} (h : 128 ≤ c.toNat) {b : UInt8}
    (hb : b ∈ String.utf8EncodeChar c) : 128 ≤ b.toNat := by
  change 128 ≤ c.val.toNat at h
  simp only [String.utf8EncodeChar] at hb
  split_ifs at hb with h1 h2 h3
  · omega
  all_goals
    simp only [List.mem_cons, List.not_mem_nil, or_false] at hb
    rcases hb with rfl | rfl | rfl | rfl <;> rw [UInt8.toNat_ofNat'] <;> omega

theorem toNat_asciiByte {c : Char} (h : c.toNat < 128) : (asciiByte c).toNat = c.toNat := by
  rw [asciiByte, UInt8.toNat_ofNat']
  omega

theorem asciiByte_inj {c d : Char} (hc : c.toNat < 128) (hd : d.toNat < 128)
    (h : asciiByte c = asciiByte d) : c = d := by
  have := congrArg UInt8.toNat h
  rw [toNat_asciiByte hc, toNat_asciiByte hd] at this
  exact Char.toNat_inj.1 this

/-- The byte of an ASCII character occurs only in that character. -/
theorem asciiByte_mem_utf8EncodeChar_iff {c d : Char} (hc : c.toNat < 128) :
    asciiByte c ∈ String.utf8EncodeChar d ↔ c = d := by
  by_cases hd : d.toNat < 128
  · rw [utf8EncodeChar_of_lt hd, List.mem_singleton]
    exact ⟨asciiByte_inj hc hd, fun h => h ▸ rfl⟩
  · constructor
    · intro h
      have := le_of_mem_utf8EncodeChar (by omega) h
      rw [toNat_asciiByte hc] at this
      omega
    · rintro rfl
      exact absurd hc hd

theorem mem_utf8_iff {c : Char} (hc : c.toNat < 128) (s : String) :
    asciiByte c ∈ utf8 s ↔ c ∈ s.toList := by
  rw [utf8, List.mem_flatMap]
  constructor
  · rintro ⟨d, hd, h⟩
    rwa [(asciiByte_mem_utf8EncodeChar_iff hc).1 h]
  · intro h
    exact ⟨c, h, (asciiByte_mem_utf8EncodeChar_iff hc).2 rfl⟩

theorem lineFeed_mem_utf8_iff (s : String) : Byte.lineFeed ∈ utf8 s ↔ '\n' ∈ s.toList :=
  mem_utf8_iff (by decide : '\n'.toNat < 128) s

/-- The last byte of a character is the byte of an ASCII character only if it is that character. -/
theorem getLast?_utf8EncodeChar_eq_iff {c d : Char} (hc : c.toNat < 128) :
    (String.utf8EncodeChar d).getLast? = some (asciiByte c) ↔ d = c := by
  constructor
  · intro h
    exact ((asciiByte_mem_utf8EncodeChar_iff hc).1 (List.mem_of_getLast? h)).symm
  · rintro rfl
    rw [utf8EncodeChar_of_lt hc]
    rfl

theorem head?_utf8EncodeChar_eq_iff {c d : Char} (hc : c.toNat < 128) :
    (String.utf8EncodeChar d).head? = some (asciiByte c) ↔ d = c := by
  constructor
  · intro h
    exact ((asciiByte_mem_utf8EncodeChar_iff hc).1 (List.mem_of_head? h)).symm
  · rintro rfl
    rw [utf8EncodeChar_of_lt hc]
    rfl

/-- A text ends in an ASCII character where its bytes end in that character's byte. -/
theorem getLast?_utf8_eq_iff {c : Char} (hc : c.toNat < 128) (s : String) :
    (utf8 s).getLast? = some (asciiByte c) ↔ s.toList.getLast? = some c := by
  rcases List.eq_nil_or_concat s.toList with h | ⟨cs, d, h⟩
  · simp [utf8, h]
  · rw [utf8, h, List.concat_eq_append, List.flatMap_append, List.getLast?_append,
      List.getLast?_append]
    have ne : String.utf8EncodeChar d ≠ [] := String.utf8EncodeChar_ne_nil
    obtain ⟨b, hb⟩ : ∃ b, (String.utf8EncodeChar d).getLast? = some b :=
      ⟨_, List.getLast?_eq_some_getLast ne⟩
    have := getLast?_utf8EncodeChar_eq_iff (d := d) hc
    simp only [hb, Option.some.injEq] at this
    simp [hb, this]

/-- What holds between the neighbours of a text, said of characters by `R`, holds between the
neighbours of its bytes, said by `S`, if `S` says nothing about bytes that are no ASCII and agrees
with `R` on the others. -/
theorem isChain_utf8 {R : Char → Char → Prop} {S : UInt8 → UInt8 → Prop}
    (within : ∀ a b : UInt8, 128 ≤ b.toNat → S a b)
    (between : ∀ c d, R c d → ∀ a ∈ (String.utf8EncodeChar c).getLast?,
      ∀ b ∈ (String.utf8EncodeChar d).head?, S a b)
    {cs : List Char} (h : cs.IsChain R) : (cs.flatMap String.utf8EncodeChar).IsChain S := by
  rw [List.flatMap_def, List.isChain_flatten]
  · constructor
    · intro bytes hb
      obtain ⟨c, -, rfl⟩ := List.mem_map.1 hb
      by_cases hc : c.toNat < 128
      · rw [utf8EncodeChar_of_lt hc]
        exact List.isChain_singleton _
      · have high (b) (hb : b ∈ String.utf8EncodeChar c) : 128 ≤ b.toNat :=
          le_of_mem_utf8EncodeChar (by omega) hb
        generalize String.utf8EncodeChar c = bytes at high
        induction bytes with
        | nil => exact List.isChain_nil
        | cons a bytes ih =>
          refine List.isChain_cons.2 ⟨fun b hb => within a b ?_, ih fun b hb => ?_⟩
          · exact high b (List.mem_cons_of_mem _ (List.mem_of_head? hb))
          · exact high b (List.mem_cons_of_mem _ hb)
    · rw [List.isChain_map]
      exact h.imp between
  · rw [List.mem_map]
    rintro ⟨c, -, hc⟩
    exact String.utf8EncodeChar_ne_nil hc

theorem utf8_eq_nil_iff (s : String) : utf8 s = [] ↔ s.toList = [] := by
  rw [utf8, List.flatMap_eq_nil_iff, List.eq_nil_iff_forall_not_mem]
  exact forall₂_congr fun c _ => iff_of_false String.utf8EncodeChar_ne_nil not_false

end LogicalBackup
