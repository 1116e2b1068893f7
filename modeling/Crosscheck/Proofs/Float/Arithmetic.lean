import Crosscheck.Proofs.Float.Nearest

/-!
# Crosscheck.Proofs.Float.Arithmetic

**Sums, differences and products are correctly rounded.** The operations on data are exact: the result
denotes the sum, the opposite or the product of the rational numbers that the operands denote
(`Datum.Denotes.add`, `Datum.Denotes.neg`, `Datum.Denotes.mul`). A format rounds it once, so that it is
the correctly rounded result, and the sign of a result that is zero comes from the signs of the operands.
-/

namespace Crosscheck

/-! ### Exact arithmetic -/

theorem withSign_bne (s t : Bool) (x y : ℚ) :
    withSign (s != t) (x * y) = withSign s x * withSign t y := by
  cases s <;> cases t <;> simp [withSign]

/-- A number with its own sign; zero has either one. -/
theorem eq_withSign_abs {negative : Bool} {x : ℚ} (h : x ≠ 0 → negative = decide (x < 0)) :
    x = withSign negative |x| := by
  rcases lt_trichotomy x 0 with hx | rfl | hx
  · rw [h hx.ne, decide_eq_true hx, abs_of_neg hx]
    exact (neg_neg x).symm
  · cases negative <;> simp [withSign]
  · rw [h hx.ne', decide_eq_false (not_lt.2 hx.le), abs_of_pos hx]
    rfl

namespace Datum

variable {d e : Datum} {s t : Bool} {x y : ℚ}

theorem scaled_mul (negative : Bool) (significand : Nat) {exponent lastPlace : Int}
    (h : lastPlace ≤ exponent) :
    (scaled negative significand (exponent - lastPlace).toNat * 2 ^ lastPlace : ℚ) =
      withSign negative (significand * 2 ^ exponent) := by
  have hplaces : (2 : ℚ) ^ exponent = 2 ^ (exponent - lastPlace).toNat * 2 ^ lastPlace := by
    rw [← zpow_natCast, ← zpow_add₀ (by norm_num), Int.toNat_of_nonneg (by omega), Int.sub_add_cancel]
  rw [hplaces, scaled, withSign, Nat.shiftLeft_eq]
  split
  · push_cast
    ring
  · push_cast
    ring

/-- The sum of two numbers. It has the sign of the exact sum, and a zero is negative only if both are. -/
theorem Denotes.add (hd : d.Denotes s x) (he : e.Denotes t y) :
    (d.add e).Denotes (if x + y = 0 then s && t else decide (x + y < 0)) (x + y) := by
  cases hd with
  | @finite _ m p _ hx =>
  cases he with
  | @finite _ n q _ hy =>
    have hunit : (0 : ℚ) < 2 ^ min p q := zpow_pos (by norm_num) _
    have hsum : ((scaled s m (p - min p q).toNat + scaled t n (q - min p q).toNat : Int) * 2 ^ min p q : ℚ) =
        x + y := by
      rw [Int.cast_add, add_mul, scaled_mul s m (Int.min_le_left p q),
        scaled_mul t n (Int.min_le_right p q), hx, hy]
    rw [Datum.add]
    generalize scaled s m (p - min p q).toNat + scaled t n (q - min p q).toNat = sum at hsum
    have hzero : sum = 0 ↔ x + y = 0 := by
      rw [← hsum, mul_eq_zero_iff_right hunit.ne', Int.cast_eq_zero]
    have hneg : sum < 0 ↔ x + y < 0 := by
      rw [← hsum, ← not_le, ← not_le, mul_nonneg_iff_of_pos_right hunit, Int.cast_nonneg_iff]
    have habs : (sum.natAbs * 2 ^ min p q : ℚ) = |x + y| := by
      rw [← hsum, abs_mul, abs_of_pos hunit, Nat.cast_natAbs, Int.cast_abs]
    simp only [hzero, hneg]
    refine .finite ?_
    rw [habs]
    exact eq_withSign_abs fun hne => if_neg hne

/-- The opposite number. -/
theorem Denotes.neg (hd : d.Denotes s x) : d.neg.Denotes (!s) (-x) := by
  cases hd with
  | finite hx =>
    refine .finite ?_
    rw [hx]
    cases s <;> simp [withSign]

/-- The product of two numbers. -/
theorem Denotes.mul (hd : d.Denotes s x) (he : e.Denotes t y) :
    (d.mul e).Denotes (s != t) (x * y) := by
  cases hd with
  | @finite _ m p _ hx =>
  cases he with
  | @finite _ n q _ hy =>
    refine .finite ?_
    rw [hx, hy, ← withSign_bne, zpow_add₀ (by norm_num)]
    push_cast
    ring_nf

end Datum

namespace FloatFormat

/-! ### Rounded arithmetic -/

variable {f : FloatFormat} {a b : Nat} (hfraction : 0 < f.fractionBits) (hinfinity : 0 < f.infinity)
  (ha : f.magnitude a < f.infinity) (hb : f.magnitude b < f.infinity)

include hfraction hinfinity ha hb

/-- A sum that cancels is positive zero; two negative zeros stay negative. -/
theorem roundsTo_add :
    f.RoundsTo (f.isNegative a && f.isNegative b) (f.rational a + f.rational b) (f.add a b) :=
  roundsTo_round hfraction hinfinity ((denotes_decode ha).add (denotes_decode hb)) fun h => if_pos h

/-- A difference is the sum with the opposite number, also where it is zero. -/
theorem roundsTo_sub :
    f.RoundsTo (f.isNegative a && !f.isNegative b) (f.rational a - f.rational b) (f.sub a b) := by
  rw [sub_eq_add_neg]
  exact roundsTo_round hfraction hinfinity ((denotes_decode ha).add (denotes_decode hb).neg)
    fun h => if_pos h

/-- A product that is zero has its sign like every other one. -/
theorem roundsTo_mul :
    f.RoundsTo (f.isNegative a != f.isNegative b) (f.rational a * f.rational b) (f.mul a b) :=
  roundsTo_round hfraction hinfinity ((denotes_decode ha).mul (denotes_decode hb)) fun _ => rfl

end FloatFormat

end Crosscheck
