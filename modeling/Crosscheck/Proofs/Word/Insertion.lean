import Crosscheck.Proofs.Word.Extraction

/-!
# Crosscheck.Proofs.Word.Insertion

**Insertion, bit by bit.** A bit of the result comes from the inserted value within the field, from
the base beside it, and is clear beyond the width of the word (`BitField.getLsbD_insert_eq`).

A device inserts a field by masks and shifts. A mask is the all-ones word shifted to the right, which
is undefined for an empty mask; shifts are undefined from 64 on, and counts are never negative.
`BitField.insertMasked?` makes all of these checks. For no field and no width from 1 to 64 bits one of
them fails, and the same word comes out (`BitField.insertMasked?_eq`).
-/

namespace Crosscheck

namespace Word

/-- The difference of two counts, undefined where it would be negative. -/
def difference? (m n : Nat) : Option Nat := if n ≤ m then some (m - n) else none

/-- The word whose low `n` bits are set, by a shift of the all-ones word; undefined outside of
1 to 64 bits. -/
def maskByShift? (n : Nat) : Option Word :=
  if 1 ≤ n then do
    let amount ← difference? 64 n
    shiftRight? (BitVec.allOnes 64) amount
  else none

/-- Within its range, the shift leaves exactly the low bits. -/
theorem maskByShift?_eq {n : Nat} (hpos : 1 ≤ n) (h64 : n ≤ 64) :
    maskByShift? n = some (lowMask n) := by
  have hamount : 64 - n < 64 := by omega
  have hbits : BitVec.allOnes 64 >>> (64 - n) = lowMask n := by
    apply BitVec.eq_of_getLsbD_eq
    intro i hi
    rw [BitVec.getLsbD_ushiftRight, BitVec.getLsbD_allOnes, getLsbD_lowMask]
    have hiff : 64 - n + i < 64 ↔ i < n := by omega
    simp [hi, hiff]
  rw [maskByShift?, if_pos hpos, difference?, if_pos h64, Option.bind_eq_bind, Option.bind_some,
    shiftRight?, if_pos hamount, hbits]

theorem and_lowMask (bits : Nat) (v : Word) : v &&& lowMask bits = low bits v := by
  apply BitVec.eq_of_getLsbD_eq
  intro i hi
  rw [BitVec.getLsbD_and, getLsbD_lowMask, getLsbD_low, Bool.and_comm]

end Word

open Word

namespace BitField

variable {field : BitField} {bits : Nat}

/-- **Where a bit comes from after an insertion**, in terms of the field alone: the part of it that is
beyond the top of the word has no bits there. -/
theorem getLsbD_insert_eq (h64 : bits ≤ 64) (source base : Word) (i : Nat) :
    (field.insert bits source base).getLsbD i =
      if bits ≤ i then false
      else if field.start ≤ i ∧ i < field.start + field.span then source.getLsbD (i - field.start)
      else base.getLsbD i := by
  rw [getLsbD_insert h64]
  by_cases hword : bits ≤ i
  · have houtside : ¬ (field.start ≤ i ∧ i - field.start < field.overlap bits) := by
      intro ⟨hle, hlt⟩
      have := (lt_overlap_iff.1 hlt).2
      omega
    have hnot : ¬ i < bits := by omega
    rw [if_neg houtside, if_pos hword, getLsbD_low]
    simp [hnot]
  · -- within the word, the field and the part of it that overlaps the word have the same bits
    have hiff : (field.start ≤ i ∧ i - field.start < field.overlap bits) ↔
        field.start ≤ i ∧ i < field.start + field.span := by
      rw [lt_overlap_iff]
      omega
    have hi : i < bits := by omega
    have hi64 : i < 64 := by omega
    have hlow : (low bits base).getLsbD i = base.getLsbD i := by
      rw [getLsbD_low]
      simp [hi, hi64]
    rw [if_neg hword, hlow]
    simp only [hiff]

/-! ### Masks and shifts -/

/-- Insertion by masks and shifts, undefined where one of them is. -/
def insertMasked? (field : BitField) (bits : Nat) (source base : Word) : Option Word := do
  let word ← maskByShift? bits
  if field.span = 0 ∨ bits ≤ field.start then some (base &&& word)
  else
    let room ← difference? bits field.start
    let mask ← maskByShift? (min field.span room)
    let fieldMask ← shiftLeft? mask field.start
    let shifted ← shiftLeft? source field.start
    some ((base &&& word &&& ~~~ fieldMask) ||| (shifted &&& fieldMask))

/-- **No mask is empty or too long, and no shift is by 64 or more.** -/
theorem insertMasked?_eq (field : BitField) (hpos : 1 ≤ bits) (h64 : bits ≤ 64) (source base : Word) :
    field.insertMasked? bits source base = some (field.insert bits source base) := by
  rw [insertMasked?, insert, maskByShift?_eq hpos h64, Option.bind_eq_bind, Option.bind_some,
    and_lowMask]
  by_cases hempty : field.span = 0 ∨ bits ≤ field.start
  · rw [if_pos hempty, if_pos hempty]
  · obtain ⟨hspan, hstart⟩ := not_or.1 hempty
    have hroom : difference? bits field.start = some (bits - field.start) := by
      rw [difference?, if_pos (by omega)]
    have hmask : maskByShift? (min field.span (bits - field.start)) =
        some (lowMask (min field.span (bits - field.start))) :=
      maskByShift?_eq (by omega) (by omega)
    have hshift : ∀ v : Word, shiftLeft? v field.start = some (v <<< field.start) := by
      intro v
      rw [shiftLeft?, if_pos (by omega)]
    rw [if_neg hempty, if_neg hempty, hroom]
    simp only [Option.bind_eq_bind, Option.bind_some, hmask, hshift]

/-- **Insertion, bit by bit**, for every width up to 64 bits, every pair of 32-bit counts and all
words. With the position `p` and the length `l` as the device reads them, bit `i` of the result is bit
`i - p` of the inserted value if it is one of the `l` bits from `p` on, bit `i` of the base if it is
not, and clear beyond the width. None of the masks that it takes is out of its range, and none of the
shifts is by 64 or more. -/
theorem insert_bitwise (field : BitField) {bits : Nat} (hpos : 1 ≤ bits) (h64 : bits ≤ 64)
    (source base : Word) :
    let p := field.position.toNat % 256
    let l := field.length.toNat % 256
    (∀ i,
      (i < bits → p ≤ i ∧ i < p + l →
        (field.insert bits source base).getLsbD i = source.getLsbD (i - p)) ∧
      (i < bits → ¬ (p ≤ i ∧ i < p + l) →
        (field.insert bits source base).getLsbD i = base.getLsbD i) ∧
      (bits ≤ i → (field.insert bits source base).getLsbD i = false)) ∧
    field.insertMasked? bits source base = some (field.insert bits source base) := by
  intro p l
  refine ⟨fun i => ⟨fun hi hfield => ?_, fun hi hfield => ?_, fun hi => ?_⟩,
    insertMasked?_eq field hpos h64 source base⟩
  · rw [getLsbD_insert_eq h64, if_neg (Nat.not_le.2 hi)]
    exact if_pos hfield
  · rw [getLsbD_insert_eq h64, if_neg (Nat.not_le.2 hi)]
    exact if_neg hfield
  · rw [getLsbD_insert_eq h64, if_pos hi]

/-- A field of twelve bits whose last four are beyond the top of the word, both counts read modulo 256;
the base has a bit beyond the width. -/
theorem insert_bitwise_cut :
    let field : BitField := ⟨256 + 24, 512 + 12⟩
    let result := field.insert 32 0xfed 0x7_12345678
    let p := field.position.toNat % 256
    let l := field.length.toNat % 256
    1 ≤ 32 ∧ 32 ≤ 64 ∧ (p ≤ 26 ∧ 26 < p + l) ∧ ¬ (p ≤ 23 ∧ 23 < p + l) ∧
      result.getLsbD 26 = true ∧ result.getLsbD 23 = false ∧ result.getLsbD 33 = false ∧
      field.insertMasked? 32 0xfed 0x7_12345678 = some 0xed345678 := by
  intro field result p l
  have hpos : 1 ≤ 32 := by decide
  have h64 : 32 ≤ 64 := by decide
  have hin : p ≤ 26 ∧ 26 < p + l := by decide
  have hout : ¬ (p ≤ 23 ∧ 23 < p + l) := by decide
  obtain ⟨hbits, hmasked⟩ := insert_bitwise field hpos h64 0xfed 0x7_12345678
  refine ⟨hpos, h64, hin, hout, ?_, ?_, (hbits 33).2.2 (by decide), hmasked.trans (by decide)⟩
  · exact ((hbits 26).1 (by decide) hin).trans (by decide)
  · exact ((hbits 23).2.1 (by decide) hout).trans (by decide)

end BitField

end Crosscheck
