import Crosscheck.Float.Arithmetic
import Mathlib.Algebra.Order.Group.Nat

/-!
# Crosscheck.Proofs.Float.Range

**Results are patterns of their format.** Rounding gives a sign and a magnitude that is at most that
of the infinities, or the quiet NaN, so whatever value is rounded the result has no bit beyond the
sign (`FloatFormat.round_lt`). The lesser and the greater of two patterns are one of them. So no
operation on patterns leaves the width of the format (`FloatOp.run_lt`).
-/

namespace Crosscheck

namespace FloatFormat

variable (f : FloatFormat) {a b magnitude : Nat}

theorem two_mul_signBit : 2 * f.signBit = 2 ^ f.width := by
  rw [signBit, width, Nat.one_shiftLeft, Nat.add_assoc, Nat.pow_add 2 1]

theorem infinity_add_fraction : f.infinity + 1 <<< f.fractionBits = f.signBit := by
  have hpos : 1 ≤ 2 ^ f.exponentBits := Nat.one_le_two_pow
  rw [infinity, signBit, Nat.shiftLeft_eq, Nat.one_shiftLeft, Nat.one_shiftLeft, Nat.one_shiftLeft,
    Nat.sub_mul, Nat.one_mul, Nat.pow_add]
  exact Nat.sub_add_cancel (Nat.le_mul_of_pos_left _ hpos)

theorem infinity_lt_signBit : f.infinity < f.signBit := by
  have hpos : 0 < 2 ^ f.fractionBits := Nat.two_pow_pos _
  rw [← infinity_add_fraction, Nat.one_shiftLeft]
  omega

theorem quietNaN_lt : f.quietNaN < 2 ^ f.width := by
  have hle : 2 ^ (f.fractionBits - 1) ≤ 2 ^ f.fractionBits :=
    Nat.pow_le_pow_right (by decide) (Nat.sub_le _ _)
  have hsum := f.infinity_add_fraction
  have hpos : 0 < 2 ^ f.fractionBits := Nat.two_pow_pos _
  rw [← two_mul_signBit, quietNaN, Nat.one_shiftLeft]
  rw [Nat.one_shiftLeft] at hsum
  omega

variable {f}

theorem ofMagnitude_lt (negative : Bool) (h : magnitude < f.signBit) :
    f.ofMagnitude negative magnitude < 2 ^ f.width := by
  rw [← two_mul_signBit, ofMagnitude]
  split
  · omega
  · omega

theorem roundMagnitude_le (significand : Nat) (exponent : Int) :
    f.roundMagnitude significand exponent ≤ f.infinity := by
  rw [roundMagnitude]
  split
  · exact Nat.zero_le _
  · exact Nat.min_le_left _ _

/-- **Whatever is rounded, the result is a pattern of the format.** -/
theorem round_lt (d : Datum) : f.round d < 2 ^ f.width := by
  cases d with
  | nan => exact f.quietNaN_lt
  | infinite negative => exact ofMagnitude_lt negative f.infinity_lt_signBit
  | finite negative significand exponent =>
      exact ofMagnitude_lt negative
        (Nat.lt_of_le_of_lt (roundMagnitude_le significand exponent) f.infinity_lt_signBit)

theorem min_lt (ha : a < 2 ^ f.width) (hb : b < 2 ^ f.width) : f.min a b < 2 ^ f.width := by
  rw [FloatFormat.min]
  repeat' split
  all_goals simp only [ha, hb, f.quietNaN_lt]

theorem max_lt (ha : a < 2 ^ f.width) (hb : b < 2 ^ f.width) : f.max a b < 2 ^ f.width := by
  rw [FloatFormat.max]
  repeat' split
  all_goals simp only [ha, hb, f.quietNaN_lt]

end FloatFormat

/-- An operation on patterns of a format gives a pattern of the format. -/
theorem FloatOp.run_lt (op : FloatOp) {f : FloatFormat} {a b : Nat} (ha : a < 2 ^ f.width)
    (hb : b < 2 ^ f.width) : op.run f a b < 2 ^ f.width := by
  cases op with
  | add => exact FloatFormat.round_lt _
  | sub => exact FloatFormat.round_lt _
  | mul => exact FloatFormat.round_lt _
  | min => exact FloatFormat.min_lt ha hb
  | max => exact FloatFormat.max_lt ha hb

end Crosscheck
