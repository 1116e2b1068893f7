import Crosscheck.Proofs.Word.Shift

/-!
# Crosscheck.Proofs.Word.Machine

**Reversal and order on a machine.** A machine reverses all 64 bits of a word and compares words of 64
bits. For a width, the word is cut by a mask before it is reversed and shifted down by what the width
lacks of 64, and the sign is extended before words are compared. `Bitwise.reverse?` and
`Integer.lessThan?` do it in this way, undefined where a shift is by 64 or more. For no width from 1 to
64 bits that happens, and they come out as the reversal and the order of the low bits
(`Bitwise.reverse?_eq`, `Integer.lessThan?_eq`).
-/

namespace Crosscheck

open Word

variable {bits : Nat}

/-- Bit reversal by a mask, a reversal of the whole word and a machine shift, undefined where one of
them is. -/
def Bitwise.reverse? (bits : Nat) (a : Word) : Option Word := do
  let word ← maskByShift? bits
  let distance ← difference? 64 bits
  Word.shiftRight? (a &&& word).reverse distance

theorem Bitwise.reverse?_eq (hpos : 1 ≤ bits) (h64 : bits ≤ 64) (a : Word) :
    reverse? bits a = some (reverse bits a) := by
  have hdistance : 64 - bits < 64 := by omega
  have hbits : (low bits a).reverse >>> (64 - bits) = reverse bits a := by
    apply BitVec.eq_of_getLsbD_eq
    intro i hi
    rw [BitVec.getLsbD_ushiftRight, BitVec.getLsbD_reverse, BitVec.getMsbD_eq_getLsbD, reverse,
      getLsbD_gather, getLsbD_low]
    by_cases hword : i < bits
    · -- the place that is counted from the top of the word, counted from the top of the width
      have hplace : 64 - 1 - (64 - bits + i) = bits - 1 - i := by omega
      have hin : 64 - bits + i < 64 := by omega
      have hlow : bits - 1 - i < bits := by omega
      have hplace64 : bits - 1 - i < 64 := by omega
      simp [hplace, hin, hlow, hplace64, hword, hi]
    · have hout : ¬ 64 - bits + i < 64 := by omega
      simp [hout, hword]
  rw [reverse?, maskByShift?_eq hpos h64, Option.bind_eq_bind, Option.bind_some, and_lowMask,
    difference?, if_pos h64, Option.bind_eq_bind, Option.bind_some, Word.shiftRight?,
    if_pos hdistance, hbits]

/-- The order of signed operands by their sign extensions, that of all others by a mask; undefined where
one of the machine shifts is. -/
def Integer.lessThan? (bits : Nat) (signed : Bool) (a b : Word) : Option Bool := do
  if signed then
    let extended ← signExtend? bits a
    let other ← signExtend? bits b
    some (extended.slt other)
  else
    let word ← maskByShift? bits
    some ((a &&& word).ult (b &&& word))

theorem Integer.lessThan?_eq (hpos : 1 ≤ bits) (h64 : bits ≤ 64) (signed : Bool) (a b : Word) :
    lessThan? bits signed a b = some (lessThan bits signed a b) := by
  cases signed with
  | true =>
      simp only [lessThan?, lessThan, if_true, signExtend?_eq hpos h64, Option.bind_eq_bind,
        Option.bind_some, BitVec.slt, BitVec.toInt_signExtend_of_le h64, Word.signed]
      rfl
  | false =>
      simp only [lessThan?, lessThan, Bool.false_eq_true, if_false, maskByShift?_eq hpos h64,
        Option.bind_eq_bind, Option.bind_some, and_lowMask, BitVec.ult]

end Crosscheck
