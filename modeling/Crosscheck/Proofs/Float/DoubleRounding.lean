import Crosscheck.Proofs.Float.Arithmetic

/-!
# Crosscheck.Proofs.Float.DoubleRounding

**Arithmetic of half precision may be done in single precision.** Sums, differences and products of a
format are computed in a wider one and rounded there, and then rounded again. If the wider format has more
than twice as many bits (`FloatFormat.Doubles`), that is the same as rounding once
(`FloatFormat.Doubles.convert_add`, `FloatFormat.Doubles.convert_sub`, `FloatFormat.Doubles.convert_mul`).

Rounding twice goes wrong where the first rounding leads to a value half way between two magnitudes of the
narrow format, or across one. So the exact result is put between two magnitudes of the wide format that
have nothing of that kind between them (`FloatFormat.Bracketed`).

* A product is one of these magnitudes, and so is a sum of numbers whose last places are near each other:
  all their bits fit.
* Otherwise the lesser one of two numbers is below a quarter of the last place of the greater one, and the
  narrow format rounds the sum to that. The two quarters next to it need two more bits only.
-/

namespace Crosscheck

/-- A sum of whole numbers with signs is one. -/
theorem exists_abs_add (s t : Bool) (a b : Nat) :
    ∃ n : Nat, n ≤ a + b ∧ |withSign s a + withSign t b| = n := by
  refine ⟨((if s then -(a : Int) else a) + (if t then -(b : Int) else b)).natAbs, ?_, ?_⟩
  · split <;> split <;> omega
  · rw [Nat.cast_natAbs, Int.cast_abs]
    cases s <;> cases t <;> simp [withSign]

theorem two_pow_mul_zpow (n : Nat) (exponent : Int) :
    (2 ^ n * 2 ^ exponent : ℚ) = 2 ^ (exponent + n) := by
  rw [zpow_add₀ (by norm_num), zpow_natCast, mul_comm]

namespace FloatFormat

variable {f g : FloatFormat} {m n : Nat}

/-! ### Rounding twice -/

/-- Whether rounding a value in a wider format first makes no difference: the value lies between two
magnitudes of that format, which may be one, and `f` does not tell apart what is between them. -/
def Bracketed (f g : FloatFormat) (x : ℚ) : Prop :=
  ∃ low high, high < g.infinity ∧ x ∈ Set.Icc (g.amount low) (g.amount high) ∧
    ∀ y ∈ Set.Icc (g.amount low) (g.amount high), ∀ m < f.infinity, f.UpTo m y ↔ f.UpTo m x

/-- **Double rounding.** A bracketed number is converted to what it is rounded to in one step. -/
theorem convert_round {d e : Datum} {s : Bool} {x : ℚ} (hf : 0 < f.fractionBits) (hg : 0 < g.fractionBits)
    (h : f.Bracketed g |x|) (hd : d.Denotes s x) (he : e.Denotes s x) :
    g.convert f (g.round d) = f.round e := by
  obtain ⟨low, high, hfinite, ⟨hlow, hhigh⟩, hbetween⟩ := h
  cases d with
  | finite _ significand exponent =>
    obtain ⟨rfl, hx⟩ := hd.abs_eq
    rw [hx] at hlow hhigh
    have hle := roundMagnitude_le_of_le hg hhigh
    have hlowhigh := g.amount_strictMono.le_iff_le.1 (hlow.trans hhigh)
    have hge := le_roundMagnitude_of_le hg hlow (hlowhigh.trans hfinite.le)
    have hlt := hle.trans_lt hfinite
    have hdecode : (g.decode (g.round (.finite s significand exponent))).Denotes s
        (withSign s (g.amount (g.roundMagnitude significand exponent))) := by
      have hsign := hlt.trans g.infinity_lt_signBit
      have hp := denotes_decode ((magnitude_ofMagnitude s hsign).trans_lt hlt)
      rwa [rational, magnitude_ofMagnitude s hsign, isNegative_ofMagnitude s hsign] at hp
    refine round_congr hf hdecode he fun m hm => ?_
    rw [abs_withSign, abs_of_nonneg (g.amount_nonneg _)]
    exact hbetween _ ⟨g.amount_strictMono.monotone hge, g.amount_strictMono.monotone hle⟩ m hm
  | _ => cases hd

/-- The value of a magnitude of the wider format is bracketed. -/
theorem bracketed_amount (h : n < g.infinity) : f.Bracketed g (g.amount n) :=
  ⟨n, n, h, ⟨le_rfl, le_rfl⟩, fun _ hy _ _ => by rw [le_antisymm hy.2 hy.1]⟩

/-! ### Exact results -/

/-- A value with few enough digits has a magnitude. -/
theorem exists_amount_eq {s : Nat} {exponent : Int} (hs : s < 2 ^ (f.fractionBits + 1))
    (hexponent : f.minExponent ≤ exponent) : ∃ m, f.amount m = s * 2 ^ exponent := by
  obtain ⟨m, hm⟩ := exists_quanta_eq hs (exponent - f.minExponent).toNat
  refine ⟨m, ?_⟩
  rw [amount, hm, Nat.cast_mul, Nat.cast_pow, Nat.cast_ofNat, mul_assoc, ← zpow_natCast,
    ← zpow_add₀ (by norm_num), Int.toNat_of_nonneg (by omega), Int.sub_add_cancel]

/-- If it is in the range, it is bracketed by that magnitude. -/
theorem bracketed_exact {s : Nat} {exponent : Int} (hs : s < 2 ^ (g.fractionBits + 1))
    (hexponent : g.minExponent ≤ exponent) (hlt : s * 2 ^ exponent < g.amount g.infinity) :
    f.Bracketed g (s * 2 ^ exponent) := by
  obtain ⟨n, hn⟩ := exists_amount_eq hs hexponent
  rw [← hn] at hlt ⊢
  exact bracketed_amount (g.amount_strictMono.lt_iff_lt.1 hlt)

/-- So is a sum whose parts have one place, if there is room for the carry. -/
theorem bracketed_add_close {a b : Nat} {exponent : Int} (s t : Bool)
    (hdigits : a + b < 2 ^ (g.fractionBits + 1)) (hexponent : g.minExponent ≤ exponent)
    (hlt : |withSign s (a * 2 ^ exponent) + withSign t (b * 2 ^ exponent)| < g.amount g.infinity) :
    f.Bracketed g |withSign s (a * 2 ^ exponent) + withSign t (b * 2 ^ exponent)| := by
  have hunit : (0 : ℚ) < 2 ^ exponent := zpow_pos (by norm_num) _
  obtain ⟨n, hn, hsum⟩ := exists_abs_add s t a b
  have hvalue : |withSign s (a * 2 ^ exponent) + withSign t (b * 2 ^ exponent)| = n * 2 ^ exponent := by
    rw [withSign_mul, withSign_mul, ← add_mul, abs_mul, hsum, abs_of_pos hunit]
  rw [hvalue] at hlt ⊢
  exact bracketed_exact (hn.trans_lt hdigits) hexponent hlt

/-! ### Results near a magnitude -/

section Near

variable {q s : Nat} {y : ℚ} (hfraction : 0 < f.fractionBits)

include hfraction in
/-- What is a quarter of the last place below a power of two is half way to the magnitude before, which is
odd. -/
theorem not_upTo_binade (hm : m + 1 = (q + 1) * 2 ^ f.fractionBits + 2 ^ f.fractionBits)
    (hlow : (4 * 2 ^ f.fractionBits - 1) * 2 ^ (q + 1) ≤ 4 * y) : ¬ f.UpTo m (y * 2 ^ f.minExponent) := by
  have hpos : 0 < 2 ^ f.fractionBits := Nat.two_pow_pos _
  have hpow : 2 ^ (f.fractionBits + 1) = 2 * 2 ^ f.fractionBits := Nat.pow_succ'
  obtain ⟨t, ht⟩ : ∃ t, t + 1 = 2 * 2 ^ f.fractionBits := ⟨2 * 2 ^ f.fractionBits - 1, by omega⟩
  obtain rfl : m = q * 2 ^ f.fractionBits + t := by
    rw [Nat.succ_mul] at hm
    omega
  have hhalfway : (2 * t + 1 : ℚ) = 4 * 2 ^ f.fractionBits - 1 := by
    have hcast : (t + 1 : ℚ) = 2 * 2 ^ f.fractionBits := by exact_mod_cast ht
    linarith
  rw [upTo_significand_iff (by omega) (.inr (by omega)) hfraction, hhalfway]
  rw [pow_succ] at hlow
  rintro (h | ⟨-, heven⟩)
  · linarith
  · omega

variable (hlt : s < 2 ^ (f.fractionBits + 1)) (hfull : q = 0 ∨ 2 ^ f.fractionBits ≤ s)

include hfraction hlt hfull

/-- What is a quarter of the last place below a magnitude does not belong to the one before. -/
theorem not_upTo_pred (hm : m + 1 = q * 2 ^ f.fractionBits + s) (hlow : (4 * s - 1) * 2 ^ q ≤ 4 * y) :
    ¬ f.UpTo m (y * 2 ^ f.minExponent) := by
  by_cases hbinade : q ≠ 0 ∧ s = 2 ^ f.fractionBits
  · obtain ⟨hq, rfl⟩ := hbinade
    obtain ⟨r, rfl⟩ := Nat.exists_eq_succ_of_ne_zero hq
    push_cast at hlow
    exact not_upTo_binade hfraction hm hlow
  · have hs : s ≠ 0 := fun hs => by
      have := Nat.two_pow_pos f.fractionBits
      rcases hfull with rfl | hfull <;> omega
    obtain ⟨t, rfl⟩ := Nat.exists_eq_succ_of_ne_zero hs
    obtain rfl : m = q * 2 ^ f.fractionBits + t := by omega
    have hplace : (0 : ℚ) < 2 ^ q := by positivity
    rw [upTo_significand_iff (by omega) (by omega) hfraction]
    push_cast at hlow
    rintro (h | ⟨h, -⟩) <;> linarith

/-- What is within a quarter of the last place of a magnitude belongs to just the magnitudes from that
one on. -/
theorem upTo_near_iff {x : ℚ}
    (hx : |x - f.amount (q * 2 ^ f.fractionBits + s)| ≤ 2 ^ q / 4 * 2 ^ f.minExponent) :
    f.UpTo m x ↔ q * 2 ^ f.fractionBits + s ≤ m := by
  have hunit : (0 : ℚ) < 2 ^ f.minExponent := zpow_pos (by norm_num) _
  obtain ⟨y, rfl⟩ : ∃ y, x = y * 2 ^ f.minExponent :=
    ⟨x / 2 ^ f.minExponent, (div_mul_cancel₀ x hunit.ne').symm⟩
  rw [amount_significand hlt hfull, ← sub_mul, abs_mul, abs_of_pos hunit, mul_le_mul_iff_left₀ hunit,
    abs_le] at hx
  constructor
  · intro h
    by_contra hm
    obtain ⟨k, hk⟩ := Nat.exists_eq_succ_of_ne_zero (Nat.ne_zero_of_lt (Nat.not_le.1 hm))
    exact not_upTo_pred hfraction hlt hfull hk.symm (by linarith) (h.mono (by omega))
  · intro hm
    have hplace : (0 : ℚ) < 2 ^ q := by positivity
    exact ((upTo_significand_iff hlt hfull hfraction).2 (.inl (by linarith))).mono hm

end Near

/-! ### Twice as wide formats -/

/-- The value that the infinities would have. -/
theorem amount_infinity (h : 0 < f.exponentBits) :
    f.amount f.infinity = 2 ^ 2 ^ (f.exponentBits - 1) := by
  obtain ⟨k, hk⟩ := Nat.exists_eq_succ_of_ne_zero h.ne'
  have hpos : 1 ≤ 2 ^ k := Nat.one_le_two_pow
  have hpow : 2 ^ (k + 1) = 2 * 2 ^ k := Nat.pow_succ'
  have hfields : f.infinity = (2 ^ (k + 1) - 2) * 2 ^ f.fractionBits + 2 ^ f.fractionBits := by
    rw [infinity, Nat.shiftLeft_eq, Nat.one_shiftLeft, hk, ← Nat.succ_mul]
    congr 1
    omega
  have hlt : 2 ^ f.fractionBits < 2 ^ (f.fractionBits + 1) := Nat.pow_lt_pow_succ (by decide)
  have hexponent : ((f.fractionBits + (2 ^ (k + 1) - 2) : Nat) : Int) + f.minExponent = (2 ^ k : Nat) := by
    rw [minExponent, hk, Nat.one_shiftLeft, Nat.succ_sub_one]
    generalize 2 ^ k = j at *
    omega
  calc f.amount f.infinity = 2 ^ f.fractionBits * 2 ^ (2 ^ (k + 1) - 2) * 2 ^ f.minExponent := by
        rw [amount, hfields, quanta_significand hlt (.inr (Nat.le_refl _))]
        push_cast
        rfl
    _ = 2 ^ (((f.fractionBits + (2 ^ (k + 1) - 2) : Nat) : Int) + f.minExponent) := by
        rw [zpow_add₀ (by norm_num), zpow_natCast, pow_add 2 f.fractionBits]
    _ = 2 ^ 2 ^ k := by rw [hexponent, zpow_natCast]
    _ = 2 ^ 2 ^ (f.exponentBits - 1) := by rw [hk, Nat.succ_sub_one]

/-- A format that has room for the products of another one. -/
structure Doubles (f g : FloatFormat) : Prop where
  /-- There is an exponent. -/
  exponentBits_pos : 0 < f.exponentBits
  /-- There is a fraction. -/
  fractionBits_pos : 0 < f.fractionBits
  /-- The range of exponents is twice as large. -/
  exponentBits_lt : f.exponentBits < g.exponentBits
  /-- The significand has twice as many bits, and two more. -/
  fractionBits_le : 2 * f.fractionBits + 3 ≤ g.fractionBits

/-- Single precision is twice as wide as half precision. -/
theorem binary16_doubles : Doubles binary16 binary32 where
  exponentBits_pos := by decide
  fractionBits_pos := by decide
  exponentBits_lt := by decide
  fractionBits_le := by decide

/-- So is double precision for single precision. -/
example : Doubles binary32 binary64 := ⟨by decide, by decide, by decide, by decide⟩

namespace Doubles

variable (h : Doubles f g)

include h

theorem two_pow_mul_two_le : 2 ^ (f.exponentBits - 1) * 2 ≤ 2 ^ (g.exponentBits - 1) := by
  have hpos := h.exponentBits_pos
  have hlt := h.exponentBits_lt
  rw [← Nat.pow_succ]
  exact Nat.pow_le_pow_right (by decide) (by omega)

/-- The square of what is beyond the range is not beyond the range of the wider format. -/
theorem sq_amount_infinity_le : f.amount f.infinity ^ 2 ≤ g.amount g.infinity := by
  have hpos := h.exponentBits_pos
  rw [amount_infinity hpos, amount_infinity (hpos.trans h.exponentBits_lt), ← pow_mul]
  exact pow_le_pow_right₀ (by norm_num) h.two_pow_mul_two_le

theorem two_mul_amount_infinity_le : 2 * f.amount f.infinity ≤ g.amount g.infinity := by
  have hone : (2 : ℚ) ^ 1 ≤ f.amount f.infinity := by
    rw [amount_infinity h.exponentBits_pos]
    exact pow_le_pow_right₀ (by norm_num) Nat.one_le_two_pow
  have hsq := h.sq_amount_infinity_le
  nlinarith

theorem two_mul_minExponent_le : g.minExponent ≤ 2 * f.minExponent := by
  have hexponent := h.two_pow_mul_two_le
  have hfraction := h.fractionBits_le
  rw [minExponent, minExponent, Nat.one_shiftLeft, Nat.one_shiftLeft]
  omega

theorem minExponent_le : g.minExponent ≤ f.minExponent := by
  have hdouble := h.two_mul_minExponent_le
  have hfraction := h.fractionBits_pos
  have hpos : 1 ≤ 2 ^ (f.exponentBits - 1) := Nat.one_le_two_pow
  have hle : f.minExponent ≤ 0 := by
    rw [minExponent, Nat.one_shiftLeft]
    omega
  omega

theorem wide_fractionBits_pos : 0 < g.fractionBits := by
  have := h.fractionBits_le
  omega

theorem widens : Widens f g where
  fractionBits_le := by
    have := h.fractionBits_le
    omega
  minExponent_le := h.minExponent_le
  quanta_le := by
    have hnonneg := f.amount_nonneg f.infinity
    have hamount : f.amount f.infinity ≤ g.amount g.infinity := by
      have := h.two_mul_amount_infinity_le
      linarith
    have hunit : (0 : ℚ) < 2 ^ g.minExponent := zpow_pos (by norm_num) _
    obtain ⟨k, hk⟩ := Int.le.dest h.minExponent_le
    rw [amount, amount, ← hk, add_comm, zpow_add₀ (by norm_num), zpow_natCast, ← mul_assoc,
      mul_le_mul_iff_left₀ hunit] at hamount
    rw [← hk, add_sub_cancel_left, Int.toNat_natCast]
    exact_mod_cast hamount

/-- **Products are exact.** -/
theorem bracketed_mul (hm : m < f.infinity) (hn : n < f.infinity) :
    f.Bracketed g (f.amount m * f.amount n) := by
  have hrange : f.amount m * f.amount n < g.amount g.infinity :=
    calc f.amount m * f.amount n < f.amount f.infinity * f.amount f.infinity :=
          mul_lt_mul'' (f.amount_strictMono hm) (f.amount_strictMono hn) (f.amount_nonneg _)
            (f.amount_nonneg _)
      _ = f.amount f.infinity ^ 2 := (sq _).symm
      _ ≤ g.amount g.infinity := h.sq_amount_infinity_le
  have hfraction := h.fractionBits_le
  have hexponent := h.two_mul_minExponent_le
  obtain ⟨p, a, hma, ha, hafull⟩ := f.exists_significand m
  obtain ⟨q, b, hnb, hb, hbfull⟩ := f.exists_significand n
  have hvalue : f.amount m * f.amount n = (a * b : Nat) * 2 ^ (f.minExponent + p + (f.minExponent + q)) := by
    rw [hma, hnb, amount_significand ha hafull, amount_significand hb hbfull,
      zpow_add₀ (by norm_num) (f.minExponent + p), ← two_pow_mul_zpow, ← two_pow_mul_zpow, Nat.cast_mul]
    ring
  have hdigits : a * b < 2 ^ (g.fractionBits + 1) :=
    calc a * b < 2 ^ (f.fractionBits + 1) * 2 ^ (f.fractionBits + 1) := Nat.mul_lt_mul'' ha hb
      _ = 2 ^ (2 * f.fractionBits + 2) := by rw [← Nat.pow_add]; congr 1; omega
      _ ≤ 2 ^ (g.fractionBits + 1) := Nat.pow_le_pow_right (by decide) (by omega)
  rw [hvalue] at hrange ⊢
  exact bracketed_exact hdigits (by omega) hrange

/-- What is a quarter of the last place away from a magnitude has a magnitude of the wide format. -/
theorem exists_amount_quarter {q s : Nat} (hlt : s < 2 ^ (f.fractionBits + 1))
    (hfull : 2 ^ f.fractionBits ≤ s) :
    ∃ low high,
      g.amount low = f.amount ((q + 2) * 2 ^ f.fractionBits + s) - 2 ^ q * 2 ^ f.minExponent ∧
      g.amount high = f.amount ((q + 2) * 2 ^ f.fractionBits + s) + 2 ^ q * 2 ^ f.minExponent := by
  have hfraction := h.fractionBits_le
  have hexponent := h.minExponent_le
  have hpos : 1 ≤ s := Nat.one_le_two_pow.trans hfull
  have hdigits : 4 * s + 1 < 2 ^ (g.fractionBits + 1) := by
    have hle : 2 ^ (f.fractionBits + 1 + 2) ≤ 2 ^ (g.fractionBits + 1) :=
      Nat.pow_le_pow_right (by decide) (by omega)
    rw [Nat.pow_add] at hle
    omega
  have hamount : f.amount ((q + 2) * 2 ^ f.fractionBits + s) = 4 * s * (2 ^ q * 2 ^ f.minExponent) := by
    rw [amount_significand hlt (.inr hfull)]
    ring
  obtain ⟨low, hlow⟩ := @exists_amount_eq g (4 * s - 1) (f.minExponent + q) (by omega) (by omega)
  obtain ⟨high, hhigh⟩ := @exists_amount_eq g (4 * s + 1) (f.minExponent + q) hdigits (by omega)
  refine ⟨low, high, ?_, ?_⟩
  · rw [hlow, hamount, two_pow_mul_zpow, Nat.cast_sub (by omega)]
    push_cast
    ring
  · rw [hhigh, hamount, two_pow_mul_zpow]
    push_cast
    ring

/-- What is as near as that to a magnitude is bracketed by the two quarters. -/
theorem bracketed_near {q s : Nat} {x : ℚ} (hlt : s < 2 ^ (f.fractionBits + 1))
    (hfull : 2 ^ f.fractionBits ≤ s) (hfinite : (q + 2) * 2 ^ f.fractionBits + s < f.infinity)
    (hx : |x - f.amount ((q + 2) * 2 ^ f.fractionBits + s)| ≤ 2 ^ q * 2 ^ f.minExponent) :
    f.Bracketed g x := by
  have hnear {y : ℚ} (hy : |y - f.amount ((q + 2) * 2 ^ f.fractionBits + s)| ≤ 2 ^ q * 2 ^ f.minExponent)
      (m : Nat) : f.UpTo m y ↔ (q + 2) * 2 ^ f.fractionBits + s ≤ m := by
    refine upTo_near_iff h.fractionBits_pos hlt (.inr hfull) (hy.trans_eq ?_)
    ring
  obtain ⟨low, high, hlow, hhigh⟩ := h.exists_amount_quarter (q := q) hlt hfull
  have hrange := f.amount_strictMono hfinite
  have hdouble := h.two_mul_amount_infinity_le
  have hquarter : (2 ^ q * 2 ^ f.minExponent : ℚ) ≤ f.amount ((q + 2) * 2 ^ f.fractionBits + s) := by
    have hnonneg := g.amount_nonneg low
    linarith
  have hbounds := abs_le.1 hx
  refine ⟨low, high, g.amount_strictMono.lt_iff_lt.1 (by linarith), ⟨by linarith, by linarith⟩, ?_⟩
  rintro y ⟨hylow, hyhigh⟩ m -
  exact (hnear (abs_le.2 ⟨by linarith, by linarith⟩) m).trans (hnear hx m).symm

/-- So is the sum of a number and one below a quarter of its last place. -/
theorem bracketed_add_far {q a : Nat} {y : ℚ} (s : Bool) (hlt : a < 2 ^ (f.fractionBits + 1))
    (hfull : 2 ^ f.fractionBits ≤ a) (hfinite : (q + 2) * 2 ^ f.fractionBits + a < f.infinity)
    (hy : |y| ≤ 2 ^ q * 2 ^ f.minExponent) :
    f.Bracketed g |withSign s (f.amount ((q + 2) * 2 ^ f.fractionBits + a)) + y| := by
  refine h.bracketed_near hlt hfull hfinite (le_trans ?_ hy)
  have hle := abs_abs_sub_abs_le (withSign s (f.amount ((q + 2) * 2 ^ f.fractionBits + a)) + y)
    (withSign s (f.amount ((q + 2) * 2 ^ f.fractionBits + a)))
  rwa [add_sub_cancel_left, abs_withSign, abs_of_nonneg (f.amount_nonneg _)] at hle

/-- Sums are in the range of the wide format. -/
theorem abs_add_lt (s t : Bool) (hm : m < f.infinity) (hn : n < f.infinity) :
    |withSign s (f.amount m) + withSign t (f.amount n)| < g.amount g.infinity := by
  have htriangle := abs_add_le (withSign s (f.amount m)) (withSign t (f.amount n))
  rw [abs_withSign, abs_withSign, abs_of_nonneg (f.amount_nonneg _), abs_of_nonneg (f.amount_nonneg _)]
    at htriangle
  have hdouble := h.two_mul_amount_infinity_le
  have hmrange := f.amount_strictMono hm
  have hnrange := f.amount_strictMono hn
  linarith

/-- Significands whose last places are near each other have a sum that fits. -/
theorem shifted_add_lt {a b d : Nat} (ha : a < 2 ^ (f.fractionBits + 1)) (hb : b < 2 ^ (f.fractionBits + 1))
    (hd : d ≤ f.fractionBits + 2) : a * 2 ^ d + b < 2 ^ (g.fractionBits + 1) := by
  have hfraction := h.fractionBits_le
  have hplaces : 2 ^ d ≤ 2 ^ (f.fractionBits + 2) := Nat.pow_le_pow_right (by decide) hd
  calc a * 2 ^ d + b < 2 ^ (f.fractionBits + 1) * 2 ^ (f.fractionBits + 2) + 2 ^ (f.fractionBits + 1) :=
        Nat.add_lt_add_of_le_of_lt (Nat.mul_le_mul ha.le hplaces) hb
    _ ≤ 2 ^ (2 * f.fractionBits + 3) + 2 ^ (2 * f.fractionBits + 3) := by
        rw [← Nat.pow_add]
        exact Nat.add_le_add (Nat.pow_le_pow_right (by decide) (by omega))
          (Nat.pow_le_pow_right (by decide) (by omega))
    _ = 2 ^ (2 * f.fractionBits + 4) := by rw [Nat.pow_succ _ (2 * f.fractionBits + 3), Nat.mul_two]
    _ ≤ 2 ^ (g.fractionBits + 1) := Nat.pow_le_pow_right (by decide) (by omega)

theorem bracketed_add_of_le {p q a b : Nat} (s t : Bool) (ha : a < 2 ^ (f.fractionBits + 1))
    (hafull : p = 0 ∨ 2 ^ f.fractionBits ≤ a) (hb : b < 2 ^ (f.fractionBits + 1))
    (hbfull : q = 0 ∨ 2 ^ f.fractionBits ≤ b) (hqp : q ≤ p)
    (hm : p * 2 ^ f.fractionBits + a < f.infinity) (hn : q * 2 ^ f.fractionBits + b < f.infinity) :
    f.Bracketed g |withSign s (f.amount (p * 2 ^ f.fractionBits + a)) +
      withSign t (f.amount (q * 2 ^ f.fractionBits + b))| := by
  have hexponent := h.minExponent_le
  obtain ⟨d, rfl⟩ := Nat.exists_eq_add_of_le hqp
  rcases Nat.lt_or_ge d (f.fractionBits + 3) with hd | hd
  · have hrange := h.abs_add_lt s t hm hn
    have hshift : (a * 2 ^ (q + d) * 2 ^ f.minExponent : ℚ) =
        (a * 2 ^ d : Nat) * 2 ^ (f.minExponent + q) := by
      rw [← two_pow_mul_zpow]
      push_cast
      ring
    rw [amount_significand ha hafull, amount_significand hb hbfull, hshift, mul_assoc (b : ℚ),
      two_pow_mul_zpow] at hrange ⊢
    exact bracketed_add_close s t (h.shifted_add_lt ha hb (by omega)) (by omega) hrange
  · obtain ⟨r, hr⟩ : ∃ r, q + d = r + 2 := ⟨q + d - 2, by omega⟩
    rw [hr] at hm hafull ⊢
    refine h.bracketed_add_far s ha (hafull.resolve_left (by omega)) hm ?_
    have hsmall : b * 2 ^ q ≤ 2 ^ r :=
      calc b * 2 ^ q ≤ 2 ^ (f.fractionBits + 1) * 2 ^ q := Nat.mul_le_mul_right _ hb.le
        _ = 2 ^ (f.fractionBits + 1 + q) := (Nat.pow_add _ _ _).symm
        _ ≤ 2 ^ r := Nat.pow_le_pow_right (by decide) (by omega)
    rw [abs_withSign, abs_of_nonneg (f.amount_nonneg _), amount_significand hb hbfull]
    refine mul_le_mul_of_nonneg_right ?_ (by positivity)
    exact_mod_cast hsmall

/-- **Sums are exact or near the greater number.** -/
theorem bracketed_add (s t : Bool) (hm : m < f.infinity) (hn : n < f.infinity) :
    f.Bracketed g |withSign s (f.amount m) + withSign t (f.amount n)| := by
  obtain ⟨p, a, rfl, ha, hafull⟩ := f.exists_significand m
  obtain ⟨q, b, rfl, hb, hbfull⟩ := f.exists_significand n
  rcases Nat.le_total q p with hqp | hpq
  · exact h.bracketed_add_of_le s t ha hafull hb hbfull hqp hm hn
  · rw [add_comm]
    exact h.bracketed_add_of_le t s hb hbfull ha hafull hpq hn hm

/-! ### Arithmetic through the wider format -/

section Operation

variable {a b : Nat} (ha : f.magnitude a < f.infinity) (hb : f.magnitude b < f.infinity)

theorem denotes_convert (ha : f.magnitude a < f.infinity) :
    (g.decode (f.convert g a)).Denotes (f.isNegative a) (f.rational a) :=
  (h.widens.same_convert (decide_eq_false (Nat.lt_asymm ha))).symm.denotes (denotes_decode ha)

include ha hb

/-- **A sum may be computed in the wide format.** -/
theorem convert_add : g.convert f (g.add (f.convert g a) (f.convert g b)) = f.add a b :=
  convert_round h.fractionBits_pos h.wide_fractionBits_pos (h.bracketed_add _ _ ha hb)
    ((h.denotes_convert ha).add (h.denotes_convert hb)) ((denotes_decode ha).add (denotes_decode hb))

theorem convert_sub : g.convert f (g.sub (f.convert g a) (f.convert g b)) = f.sub a b := by
  have hbracketed := h.bracketed_add (f.isNegative a) (!f.isNegative b) ha hb
  rw [withSign_not] at hbracketed
  exact convert_round h.fractionBits_pos h.wide_fractionBits_pos hbracketed
    ((h.denotes_convert ha).add (h.denotes_convert hb).neg) ((denotes_decode ha).add (denotes_decode hb).neg)

theorem convert_mul : g.convert f (g.mul (f.convert g a) (f.convert g b)) = f.mul a b := by
  have hbracketed := h.bracketed_mul ha hb
  rw [← abs_rational, ← abs_rational, ← abs_mul] at hbracketed
  exact convert_round h.fractionBits_pos h.wide_fractionBits_pos hbracketed
    ((h.denotes_convert ha).mul (h.denotes_convert hb)) ((denotes_decode ha).mul (denotes_decode hb))

end Operation

end Doubles

end FloatFormat

/-! ### Half precision -/

namespace FloatElement

open FloatFormat

/-- **Sums, differences and products of half precision are correctly rounded**, although they are computed
in single precision: the result is the one pattern that the exact result is rounded to. -/
theorem binary_half_roundsTo {a b : Word} (ha : binary16.magnitude (pattern 16 a) < binary16.infinity)
    (hb : binary16.magnitude (pattern 16 b) < binary16.infinity) :
    let x := binary16.rational (pattern 16 a)
    let y := binary16.rational (pattern 16 b)
    let s := binary16.isNegative (pattern 16 a)
    let t := binary16.isNegative (pattern 16 b)
    (∃ p, binary .add 16 a b = some (BitVec.ofNat 64 p) ∧
      ∀ q, binary16.RoundsTo (s && t) (x + y) q ↔ q = p) ∧
    (∃ p, binary .sub 16 a b = some (BitVec.ofNat 64 p) ∧
      ∀ q, binary16.RoundsTo (s && !t) (x - y) q ↔ q = p) ∧
    ∃ p, binary .mul 16 a b = some (BitVec.ofNat 64 p) ∧
      ∀ q, binary16.RoundsTo (s != t) (x * y) q ↔ q = p := by
  intro x y s t
  have hunique {z : Bool} {x : ℚ} {p : Nat} (hp : binary16.RoundsTo z x p) (q : Nat) :
      binary16.RoundsTo z x q ↔ q = p := ⟨fun hq => hq.unique hp, fun h => h ▸ hp⟩
  have hfraction : 0 < binary16.fractionBits := by decide
  have hinfinity : 0 < binary16.infinity := by decide
  refine ⟨⟨_, rfl, ?_⟩, ⟨_, rfl, ?_⟩, ⟨_, rfl, ?_⟩⟩
  · rw [FloatOp.run, binary16_doubles.convert_add ha hb]
    exact hunique (roundsTo_add hfraction hinfinity ha hb)
  · rw [FloatOp.run, binary16_doubles.convert_sub ha hb]
    exact hunique (roundsTo_sub hfraction hinfinity ha hb)
  · rw [FloatOp.run, binary16_doubles.convert_mul ha hb]
    exact hunique (roundsTo_mul hfraction hinfinity ha hb)

/-- From 2048 on every other whole number has a pattern. The sum of 2048 and 1 is a tie, which goes to the
even magnitude of 2048. -/
theorem binary_half_roundsTo_tie :
    let a : Word := 0x6800
    let b : Word := 0x3C00
    binary16.magnitude (pattern 16 a) < binary16.infinity ∧
    binary16.magnitude (pattern 16 b) < binary16.infinity ∧
    binary .add 16 a b = some (BitVec.ofNat 64 0x6800) ∧
    ∀ q, binary16.RoundsTo false (2048 + 1) q ↔ q = 0x6800 := by
  intro a b
  have ha : binary16.magnitude (pattern 16 a) < binary16.infinity := by decide
  have hb : binary16.magnitude (pattern 16 b) < binary16.infinity := by decide
  have hresult : binary .add 16 a b = some (BitVec.ofNat 64 0x6800) := by decide +kernel
  have hnegative : binary16.isNegative (pattern 16 a) = false ∧
      binary16.isNegative (pattern 16 b) = false := by decide
  have hquanta : binary16.quanta (binary16.magnitude (pattern 16 a)) = 2 ^ 35 ∧
      binary16.quanta (binary16.magnitude (pattern 16 b)) = 2 ^ 24 := by decide
  have hexponent : binary16.minExponent = -24 := by decide
  have hx : binary16.rational (pattern 16 a) = 2048 := by
    rw [rational, hnegative.1, amount, hquanta.1, hexponent]
    norm_num [withSign]
  have hy : binary16.rational (pattern 16 b) = 1 := by
    rw [rational, hnegative.2, amount, hquanta.2, hexponent]
    norm_num [withSign]
  obtain ⟨⟨p, hp, hrounds⟩, -⟩ := binary_half_roundsTo ha hb
  have hwidth : p < 2 ^ 16 := ((hrounds p).2 rfl).lt_width
  have hpattern : p = 0x6800 := by
    have hword := congrArg BitVec.toNat (Option.some.inj (hp.symm.trans hresult))
    rw [BitVec.toNat_ofNat, BitVec.toNat_ofNat] at hword
    omega
  rw [hx, hy, hnegative.1, hnegative.2, hpattern] at hrounds
  exact ⟨ha, hb, hresult, hrounds⟩

end FloatElement

end Crosscheck
