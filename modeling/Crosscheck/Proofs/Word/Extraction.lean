import Crosscheck.Proofs.Word.Confinement
import Mathlib.Algebra.Group.Int.Defs

/-!
# Crosscheck.Proofs.Word.Extraction

**Extraction as arithmetic.** An unsigned field is a quotient and a remainder of the word; a signed
field is the quotient, rounded down, of the word that ends with the field's top bit, read as two's
complement. Both follow from which bit of the word each bit of the result is
(`BitField.getLsbD_extract_of_lt`, `BitField.getLsbD_extract_signed`).

A device extracts a field in a loop over the bits of the result, with shifts that are undefined for
amounts from 64 on. `BitField.extractLoop?` is that loop, and fails at such a shift. For no field and no
width up to 64 bits it does, and it computes the same word (`BitField.extractLoop?_eq`).
-/

namespace Crosscheck

namespace Word

variable {bits t p i : Nat}

/-- Where a bit comes from after the part of a word up to bit `t`, read as two's complement, has been
widened and shifted to the right: from bit `t` if it would come from above it. -/
theorem getLsbD_sshiftRight_signExtend (v : Word) (ht : t < bits) (hi : i < bits) :
    (((v.setWidth (t + 1)).signExtend bits).sshiftRight p).getLsbD i = v.getLsbD (min (p + i) t) := by
  have hwidened : ∀ j, j < bits →
      ((v.setWidth (t + 1)).signExtend bits).getLsbD j = v.getLsbD (min j t) := by
    intro j hj
    rw [BitVec.getLsbD_signExtend, decide_eq_true hj, Bool.true_and]
    by_cases hjt : j < t + 1
    · rw [if_pos hjt, Nat.min_eq_left (by omega), BitVec.getLsbD_setWidth, decide_eq_true hjt,
        Bool.true_and]
    · rw [if_neg hjt, Nat.min_eq_right (by omega), BitVec.msb_eq_getLsbD_last,
        Nat.add_sub_cancel, BitVec.getLsbD_setWidth, decide_eq_true (Nat.lt_succ_self t),
        Bool.true_and]
  rw [BitVec.getLsbD_sshiftRight, decide_eq_false (Nat.not_le.2 hi), Bool.not_false, Bool.true_and]
  by_cases hword : p + i < bits
  · rw [if_pos hword, hwidened _ hword]
  · rw [if_neg hword, BitVec.msb_eq_getLsbD_last, hwidened _ (by omega)]
    congr 1
    omega

/-- A number and its two's complement reading differ by a multiple of the power of the width. -/
theorem toNat_eq_toInt_emod (x : BitVec bits) : (x.toNat : Int) = x.toInt % 2 ^ bits := by
  have hpow : (2 ^ bits : Int) = ((2 ^ bits : Nat) : Int) := by push_cast; rfl
  have hlt : (x.toNat : Int) < ((2 ^ bits : Nat) : Int) := Int.ofNat_lt.2 x.isLt
  rw [BitVec.toInt_eq_toNat_bmod, hpow, Int.bmod_emod, Int.emod_eq_of_lt (Int.natCast_nonneg _) hlt]

/-! ### Machine shifts -/

/-- A shift to the right, undefined from the size of a word on. -/
def shiftRight? (v : Word) (amount : Nat) : Option Word :=
  if amount < 64 then some (v >>> amount) else none

/-- A shift to the left, undefined from the size of a word on. -/
def shiftLeft? (v : Word) (amount : Nat) : Option Word :=
  if amount < 64 then some (v <<< amount) else none

/-- One bit of a word, in the place of the lowest one. -/
def bitAt? (v : Word) (i : Nat) : Option Word := (shiftRight? v i).map (· &&& 1)

theorem bitAt?_of_lt (h : i < 64) (v : Word) :
    bitAt? v i = some ((BitVec.ofBool (v.getLsbD i)).setWidth 64) := by
  rw [bitAt?, shiftRight?, if_pos h, Option.map_some, Option.some.injEq]
  apply BitVec.eq_of_getLsbD_eq
  intro j hj
  rw [BitVec.getLsbD_and, BitVec.getLsbD_ushiftRight, BitVec.getLsbD_setWidth, BitVec.getLsbD_ofBool]
  cases j with
  | zero => simp
  | succ j => simp

end Word

open Word

namespace BitField

variable {bits i : Nat}

/-! ### The loop -/

/-- Sets bit `i` of a word that has been built up to there: to a bit of the value within the field, and
to the sign bit elsewhere. -/
def extractBit? (field : BitField) (bits : Nat) (value sign out : Word) (i : Nat) : Option Word := do
  let bit ← if i < field.span ∧ field.start + i ≤ bits - 1 then bitAt? value (field.start + i)
    else some sign
  let bit ← shiftLeft? bit i
  some (out ||| bit)

/-- The bit that fills the result above the field. -/
def signBit? (field : BitField) (bits : Nat) (signed : Bool) (value : Word) : Option Word :=
  if signed then bitAt? value (min (field.start + field.span - 1) (bits - 1)) else some 0

/-- Extraction bit by bit, by shifts. -/
def extractLoop? (field : BitField) (bits : Nat) (signed : Bool) (value : Word) : Option Word :=
  if field.span = 0 then some 0
  else (field.signBit? bits signed value).bind fun sign =>
    (List.range bits).foldlM (field.extractBit? bits value sign) 0

/-- One round of the loop adds one bit. -/
theorem extractBit?_of_lt (field : BitField) (h64 : bits ≤ 64) (hi : i < bits) (value out : Word)
    (sign : Bool) :
    field.extractBit? bits value ((BitVec.ofBool sign).setWidth 64) out i =
      some (out ||| ((BitVec.ofBool (if i < field.span ∧ field.start + i ≤ bits - 1
        then value.getLsbD (field.start + i) else sign)).setWidth 64 <<< i)) := by
  have hshift : ∀ bit : Word, shiftLeft? bit i = some (bit <<< i) := fun bit => by
    rw [shiftLeft?, if_pos (by omega)]
  by_cases hinside : i < field.span ∧ field.start + i ≤ bits - 1
  · rw [extractBit?, if_pos hinside, bitAt?_of_lt (by omega), if_pos hinside]
    simp only [bind, Option.bind, hshift]
  · rw [extractBit?, if_neg hinside, if_neg hinside]
    simp only [bind, Option.bind, hshift]

/-- The rounds so far have gathered the bits so far. -/
theorem foldlM_extractBit? (field : BitField) (h64 : bits ≤ 64) (value : Word) (sign : Bool) {n : Nat}
    (hn : n ≤ bits) :
    (List.range n).foldlM (field.extractBit? bits value ((BitVec.ofBool sign).setWidth 64)) 0 =
      some (gather (fun i => if i < field.span ∧ field.start + i ≤ bits - 1
        then value.getLsbD (field.start + i) else sign) n) := by
  induction n with
  | zero => rfl
  | succ n ih =>
      rw [List.range_succ, List.foldlM_append, ih (by omega)]
      simp only [bind, Option.bind, List.foldlM_cons, List.foldlM_nil,
        extractBit?_of_lt field h64 (show n < bits by omega), gather]
      rfl

/-- **The loop shifts by less than 64 only**, and computes the field. -/
theorem extractLoop?_eq (field : BitField) (hpos : 1 ≤ bits) (h64 : bits ≤ 64) (signed : Bool)
    (value : Word) : field.extractLoop? bits signed value = some (field.extract bits signed value) := by
  rw [extractLoop?, extract]
  by_cases hspan : field.span = 0
  · rw [if_pos hspan, if_pos hspan]
  · have hsign : field.signBit? bits signed value = some ((BitVec.ofBool (signed &&
        value.getLsbD (min (field.start + field.span - 1) (bits - 1)))).setWidth 64) := by
      cases signed with
      | true => exact bitAt?_of_lt (by omega) value
      | false => rfl
    rw [if_neg hspan, if_neg hspan, hsign, Option.bind_some]
    exact foldlM_extractBit? field h64 value _ (Nat.le_refl bits)

/-! ### Arithmetic -/

theorem extract_of_span_eq_zero {field : BitField} (h : field.span = 0) (signed : Bool)
    (value : Word) : field.extract bits signed value = 0 := by
  rw [extract, if_pos h]

/-- Each bit of a signed result comes from its place in the field, or from the field's top bit if it
would come from above it. -/
theorem getLsbD_extract_signed {field : BitField} (h64 : bits ≤ 64) (hspan : field.span ≠ 0)
    (value : Word) (hi : i < bits) :
    (field.extract bits true value).getLsbD i =
      value.getLsbD (min (field.start + i) (min (field.start + field.span - 1) (bits - 1))) := by
  have hi64 : i < 64 := by omega
  simp only [extract, if_neg hspan, getLsbD_gather, decide_eq_true hi, decide_eq_true hi64,
    Bool.true_and]
  by_cases hinside : i < field.span ∧ field.start + i ≤ bits - 1
  · rw [if_pos hinside]
    congr 1
    omega
  · rw [if_neg hinside]
    congr 1
    omega

theorem toNat_extract_unsigned (field : BitField) (hpos : 1 ≤ bits) (h64 : bits ≤ 64) (value : Word) :
    (field.extract bits false value).toNat =
      value.toNat % 2 ^ bits / 2 ^ field.start % 2 ^ field.span := by
  apply Nat.eq_of_testBit_eq
  intro i
  rw [BitVec.testBit_toNat, Nat.testBit_mod_two_pow, Nat.testBit_div_two_pow,
    Nat.testBit_mod_two_pow, BitVec.testBit_toNat, Nat.add_comm i]
  by_cases hlt : i < field.overlap bits
  · obtain ⟨hspan, hword⟩ := lt_overlap_iff.1 hlt
    rw [getLsbD_extract_of_lt h64 false value hlt, decide_eq_true hspan, decide_eq_true hword,
      Bool.true_and, Bool.true_and]
  · rw [getLsbD_extract_of_le hpos value (Nat.le_of_not_lt hlt), lt_overlap_iff, not_and_or] at *
    rcases hlt with hspan | hword
    · rw [decide_eq_false hspan, Bool.false_and]
    · rw [decide_eq_false hword, Bool.false_and, Bool.and_false]

theorem toNat_extract_signed {field : BitField} (hpos : 1 ≤ bits) (h64 : bits ≤ 64)
    (hspan : field.span ≠ 0) (value : Word) :
    ((field.extract bits true value).toNat : Int) =
      Word.signed (min (field.start + field.span - 1) (bits - 1) + 1) value / 2 ^ field.start %
        2 ^ bits := by
  generalize ht : min (field.start + field.span - 1) (bits - 1) = t
  have htop : t < bits := by omega
  -- the word of the width that holds the quotient
  let quotient := ((value.setWidth (t + 1)).signExtend bits).sshiftRight field.start
  have hbits : field.extract bits true value = quotient.setWidth 64 := by
    apply BitVec.eq_of_getLsbD_eq
    intro i hi
    rw [BitVec.getLsbD_setWidth, decide_eq_true hi, Bool.true_and]
    by_cases hword : i < bits
    · rw [getLsbD_extract_signed h64 hspan value hword, ht,
        getLsbD_sshiftRight_signExtend value htop hword]
    · rw [extract, if_neg hspan, getLsbD_gather, decide_eq_false hword, Bool.false_and,
        Bool.false_and, BitVec.getLsbD_of_ge _ _ (Nat.le_of_not_lt hword)]
  have hvalue : quotient.toInt = Word.signed (t + 1) value / 2 ^ field.start := by
    rw [BitVec.toInt_sshiftRight, BitVec.toInt_signExtend_of_le htop, Int.shiftRight_eq_div_pow]
    push_cast
    rfl
  rw [hbits, BitVec.toNat_setWidth_of_le h64, toNat_eq_toInt_emod, hvalue]

/-- **What extraction computes**, for every width up to 64 bits, every pair of 32-bit counts and every
word, with or without bits beyond the width. An empty field gives zero. An unsigned field is the
word's quotient by the power of its position, modulo the power of its length. A signed one is the
quotient, rounded down, of the two's complement number that ends with the field's top bit, or with the
word's if the field is cut there. No result exceeds the width, and none of the shifts that it takes to
extract the field bit by bit is by 64 or more. -/
theorem extract_eq_quotient (field : BitField) {bits : Nat} (hpos : 1 ≤ bits) (h64 : bits ≤ 64)
    (v : Word) :
    let p := field.position.toNat % 256
    let l := field.length.toNat % 256
    let t := min (p + l - 1) (bits - 1)
    (l = 0 → ∀ signed, field.extract bits signed v = 0) ∧
      (field.extract bits false v).toNat = v.toNat % 2 ^ bits / 2 ^ p % 2 ^ l ∧
      (0 < l → ((field.extract bits true v).toNat : Int) =
        Word.signed (t + 1) v / 2 ^ p % 2 ^ bits) ∧
      ∀ signed, (field.extract bits signed v).toNat < 2 ^ bits ∧
        field.extractLoop? bits signed v = some (field.extract bits signed v) := by
  intro p l t
  refine ⟨fun hempty signed => extract_of_span_eq_zero hempty signed v,
    toNat_extract_unsigned field hpos h64 v, fun hspan => ?_, fun signed => ⟨?_, ?_⟩⟩
  · exact toNat_extract_signed hpos h64 (Nat.ne_of_gt hspan) v
  · exact (confined_extract h64 field hpos signed v).2
  · exact extractLoop?_eq field hpos h64 signed v

/-- A signed field of twelve bits whose last four are beyond the top of the word, in a word with bits
beyond the width; the position is read modulo 256. -/
theorem extract_eq_quotient_cut :
    let field : BitField := ⟨256 + 24, 12⟩
    1 ≤ 32 ∧ 32 ≤ 64 ∧ 0 < field.length.toNat % 256 ∧
      (field.extract 32 false 0x7_9abcdef0).toNat = 0x9a ∧
      ((field.extract 32 true 0x7_9abcdef0).toNat : Int) = (-0x65432110) / 2 ^ 24 % 2 ^ 32 ∧
      field.extractLoop? 32 true 0x7_9abcdef0 = some 0xffffff9a := by
  intro field
  have hpos : 1 ≤ 32 := by decide
  have h64 : 32 ≤ 64 := by decide
  have hspan : 0 < field.length.toNat % 256 := by decide
  obtain ⟨-, hunsigned, hsigned, hloop⟩ := extract_eq_quotient field hpos h64 0x7_9abcdef0
  exact ⟨hpos, h64, hspan, hunsigned.trans (by decide), (hsigned hspan).trans (by decide),
    (hloop true).2.trans (by decide)⟩

end BitField

end Crosscheck
