import Crosscheck.Word
import Mathlib.Algebra.Group.Nat.Defs

/-!
# Crosscheck.Word.Lemmas

**Words as numbers.** Cutting a word to `bits` bits is the remainder modulo `2 ^ bits`.
-/

namespace Crosscheck.Word

theorem toNat_low {bits : Nat} (h : bits ≤ 64) (v : Word) :
    (low bits v).toNat = v.toNat % 2 ^ bits := by
  have hp : 2 ^ bits ≤ 2 ^ 64 := Nat.pow_le_pow_right (by decide) h
  have hlt : v.toNat % 2 ^ bits < 2 ^ bits := Nat.mod_lt _ (Nat.two_pow_pos bits)
  simp only [low, BitVec.toNat_setWidth]
  exact Nat.mod_eq_of_lt (by omega)

theorem toNat_low_lt {bits : Nat} (h : bits ≤ 64) (v : Word) :
    (low bits v).toNat < 2 ^ bits := by
  rw [toNat_low h]
  exact Nat.mod_lt _ (Nat.two_pow_pos bits)

end Crosscheck.Word
