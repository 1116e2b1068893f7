import Crosscheck.Proofs.Word.Shift
import Mathlib.Algebra.Order.Group.Unbundled.Int

/-!
# Crosscheck.Proofs.Word.Arithmetic

**Integer kernels as arithmetic.** The kernels compute on words of 64 bits and cut the result. What is
left is the residue of the exact result (`Integer.toNat_add` and the others), since wrapping around
at 64 bits loses a multiple of the power of the width. The lesser and the greater operand are those of
the numbers that the low bits stand for, `Word.number`.
-/

namespace Crosscheck

namespace Word

variable {bits : Nat}

/-- The number that the low bits stand for: in two's complement, or as a natural. -/
def number (bits : Nat) (signed : Bool) (v : Word) : Int :=
  if signed then Word.signed bits v else ((low bits v).toNat : Int)

theorem number_low (h64 : bits ≤ 64) (signed : Bool) (v : Word) :
    number bits signed (low bits v) = number bits signed v := by
  rw [number, number, signed_low h64, low_low]

theorem ofInt_toNat (v : Word) : BitVec.ofInt 64 v.toNat = v := by
  rw [BitVec.ofInt_natCast, BitVec.ofNat_toNat, BitVec.setWidth_eq]

end Word

open Word

variable {bits : Nat} (h64 : bits ≤ 64)

include h64

namespace Integer

theorem toNat_add (a b : Word) : (add bits a b).toNat = (a.toNat + b.toNat) % 2 ^ bits := by
  rw [add, toNat_low h64, BitVec.toNat_add, Nat.mod_mod_of_dvd _ (Nat.pow_dvd_pow 2 h64)]

theorem toNat_mulLow (a b : Word) : (mulLow bits a b).toNat = a.toNat * b.toNat % 2 ^ bits := by
  rw [mulLow, toNat_low h64, BitVec.toNat_mul, Nat.mod_mod_of_dvd _ (Nat.pow_dvd_pow 2 h64)]

theorem toNat_mulAddLow (a b c : Word) :
    (mulAddLow bits a b c).toNat = (a.toNat * b.toNat + c.toNat) % 2 ^ bits := by
  rw [mulAddLow, toNat_low h64, BitVec.toNat_add, BitVec.toNat_mul, Nat.mod_add_mod,
    Nat.mod_mod_of_dvd _ (Nat.pow_dvd_pow 2 h64)]

theorem toNat_sub (a b : Word) :
    ((sub bits a b).toNat : Int) = ((a.toNat : Int) - b.toNat) % 2 ^ bits := by
  have hexact : a - b = BitVec.ofInt 64 ((a.toNat : Int) - b.toNat) := by
    rw [Int.sub_eq_add_neg, BitVec.ofInt_add, BitVec.ofInt_neg, ofInt_toNat, ofInt_toNat,
      BitVec.sub_eq_add_neg]
  rw [sub, hexact, toNat_low_ofInt h64]

theorem toNat_neg (a : Word) : ((neg bits a).toNat : Int) = -(a.toNat : Int) % 2 ^ bits := by
  have hzero : neg bits a = sub bits 0 a := rfl
  rw [hzero, toNat_sub h64]
  simp

omit h64 in
/-- Words are compared by the numbers that they stand for. -/
theorem lessThan_eq (signed : Bool) (a b : Word) :
    lessThan bits signed a b = decide (number bits signed a < number bits signed b) := by
  cases signed with
  | true => simp only [lessThan, number, if_true]
  | false => simp only [lessThan, number, Bool.false_eq_true, if_false, Int.ofNat_lt]

theorem min_eq (signed : Bool) (a b : Word) :
    (min bits signed a b = low bits a ∨ min bits signed a b = low bits b) ∧
      number bits signed (min bits signed a b) =
        Min.min (number bits signed a) (number bits signed b) := by
  rw [min, lessThan_eq]
  by_cases h : number bits signed b < number bits signed a
  · rw [if_pos (decide_eq_true h), number_low h64, Int.min_eq_right (Int.le_of_lt h)]
    exact ⟨.inr rfl, rfl⟩
  · rw [if_neg (by simpa using h), number_low h64, Int.min_eq_left (Int.not_lt.1 h)]
    exact ⟨.inl rfl, rfl⟩

theorem max_eq (signed : Bool) (a b : Word) :
    (max bits signed a b = low bits a ∨ max bits signed a b = low bits b) ∧
      number bits signed (max bits signed a b) =
        Max.max (number bits signed a) (number bits signed b) := by
  rw [max, lessThan_eq]
  by_cases h : number bits signed a < number bits signed b
  · rw [if_pos (decide_eq_true h), number_low h64, Int.max_eq_right (Int.le_of_lt h)]
    exact ⟨.inr rfl, rfl⟩
  · rw [if_neg (by simpa using h), number_low h64, Int.max_eq_left (Int.not_lt.1 h)]
    exact ⟨.inl rfl, rfl⟩

end Integer

namespace Bitwise

variable {i : Nat} (hi : i < bits)

include hi

theorem getLsbD_and (a b : Word) : (and bits a b).getLsbD i = (a.getLsbD i && b.getLsbD i) := by
  rw [and, getLsbD_low_of_lt h64 hi, BitVec.getLsbD_and]

theorem getLsbD_or (a b : Word) : (or bits a b).getLsbD i = (a.getLsbD i || b.getLsbD i) := by
  rw [or, getLsbD_low_of_lt h64 hi, BitVec.getLsbD_or]

theorem getLsbD_xor (a b : Word) : (xor bits a b).getLsbD i = (a.getLsbD i ^^ b.getLsbD i) := by
  rw [xor, getLsbD_low_of_lt h64 hi, BitVec.getLsbD_xor]

theorem getLsbD_not (a : Word) : (not bits a).getLsbD i = !a.getLsbD i := by
  have hi64 : i < 64 := Nat.lt_of_lt_of_le hi h64
  rw [not, getLsbD_low_of_lt h64 hi, BitVec.getLsbD_not, decide_eq_true hi64, Bool.true_and]

theorem getLsbD_reverse (a : Word) : (reverse bits a).getLsbD i = a.getLsbD (bits - 1 - i) := by
  have hi64 : i < 64 := Nat.lt_of_lt_of_le hi h64
  rw [reverse, getLsbD_gather, decide_eq_true hi, decide_eq_true hi64, Bool.true_and, Bool.true_and]

omit hi

/-- Words with the same low bits and nothing above them are equal. -/
theorem eq_low_of_getLsbD {v a : Word} (hlt : v.toNat < 2 ^ bits)
    (h : ∀ i, i < bits → v.getLsbD i = a.getLsbD i) : v = low bits a := by
  have hv : low bits v = v := by
    apply BitVec.eq_of_toNat_eq
    rw [toNat_low h64, Nat.mod_eq_of_lt hlt]
  rw [← hv]
  apply BitVec.eq_of_getLsbD_eq
  intro i _
  rw [getLsbD_low, getLsbD_low]
  by_cases hi : i < bits
  · rw [h i hi]
  · simp [hi]

theorem not_not (a : Word) : not bits (not bits a) = low bits a := by
  refine eq_low_of_getLsbD h64 (toNat_low_lt h64 _) fun i hi => ?_
  rw [getLsbD_not h64 hi, getLsbD_not h64 hi, Bool.not_not]

theorem reverse_reverse (a : Word) : reverse bits (reverse bits a) = low bits a := by
  refine eq_low_of_getLsbD h64 (toNat_gather_lt h64 _) fun i hi => ?_
  have hback : bits - 1 - (bits - 1 - i) = i := by omega
  rw [getLsbD_reverse h64 hi, getLsbD_reverse h64 (by omega), hback]

end Bitwise

end Crosscheck
