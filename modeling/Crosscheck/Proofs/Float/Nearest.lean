import Crosscheck.Proofs.Float.Exactness

/-!
# Crosscheck.Proofs.Float.Nearest

**Rounding is correct rounding.** `FloatFormat.RoundsTo` says when a pattern is a rational number rounded
once: it has the sign of the number, no pattern is nearer to it, a tie goes to the even magnitude, and from
half way beyond the greatest magnitude on it is infinite. `FloatFormat.round` gives such a pattern
(`FloatFormat.roundsTo_round`), and there is no other one (`FloatFormat.RoundsTo.unique`).

The proof asks which values are rounded to a magnitude or to a lesser one. These are the values up to the
one half way to the next magnitude, which itself is among them if the magnitude is even
(`FloatFormat.UpTo`). So rounding and taking values are adjoint (`FloatFormat.roundMagnitude_le_iff`), and
what is said about rounding afterwards is read off that equivalence, with no look at quotients or last
places.
-/

namespace Crosscheck

/-! ### Quotients -/

/-- Up to which numbers a quotient is rounded: those from half below them on. -/
theorem roundHalfEven_le_iff {n d j : Nat} (hd : 0 < d) : roundHalfEven n d ≤ j ↔
    2 * n < (2 * j + 1) * d ∨ (2 * n = (2 * j + 1) * d ∧ j % 2 = 0) := by
  have hsplit := Nat.div_add_mod n d
  have hlt := Nat.mod_lt n hd
  have hexpand : (2 * j + 1) * d = 2 * (d * j) + d := by ring
  rw [hexpand]
  simp only [roundHalfEven]
  generalize n / d = q at *
  generalize n % d = r at *
  rcases Nat.lt_trichotomy j q with hj | rfl | hj
  · have hgap : d * j + d ≤ d * q := Nat.mul_le_mul_left d hj
    split
    · omega
    · split <;> omega
  · split
    · omega
    · split <;> omega
  · have hgap : d * q + d ≤ d * j := Nat.mul_le_mul_left d hj
    split
    · omega
    · split <;> omega

namespace FloatFormat

variable {f : FloatFormat} {m n : Nat} {significand : Nat} {exponent : Int}

/-- The significand at a last place: what is cut off is rounded. -/
def significandAt (significand : Nat) (exponent lastPlace : Int) : Nat :=
  if lastPlace ≤ exponent then significand <<< (exponent - lastPlace).toNat
  else roundHalfEven significand (1 <<< (lastPlace - exponent).toNat)

theorem significandAt_le_iff {lastPlace : Int} {j : Nat} :
    significandAt significand exponent lastPlace ≤ j ↔
      (2 * (significand * 2 ^ (exponent - lastPlace)) : ℚ) < 2 * j + 1 ∨
        ((2 * (significand * 2 ^ (exponent - lastPlace)) : ℚ) = 2 * j + 1 ∧ j % 2 = 0) := by
  rw [significandAt]
  by_cases hle : lastPlace ≤ exponent
  · have hpower : (2 : ℚ) ^ (exponent - lastPlace) = ((2 ^ (exponent - lastPlace).toNat : Nat) : ℚ) := by
      rw [Nat.cast_pow, ← zpow_natCast, Int.toNat_of_nonneg (by omega)]
      rfl
    rw [if_pos hle, Nat.shiftLeft_eq, hpower]
    norm_cast
    omega
  · have hpower : (2 : ℚ) ^ (exponent - lastPlace) =
        (((2 ^ (lastPlace - exponent).toNat : Nat) : ℚ))⁻¹ := by
      rw [Nat.cast_pow, ← zpow_natCast, Int.toNat_of_nonneg (by omega), ← zpow_neg]
      congr 1
      omega
    have hpos : 0 < 2 ^ (lastPlace - exponent).toNat := Nat.two_pow_pos _
    rw [if_neg hle, Nat.one_shiftLeft, roundHalfEven_le_iff hpos, hpower]
    generalize 2 ^ (lastPlace - exponent).toNat = d at hpos
    have hd : (0 : ℚ) < d := Nat.cast_pos.2 hpos
    rw [← mul_assoc, ← div_eq_mul_inv, div_lt_iff₀ hd, div_eq_iff hd.ne']
    norm_cast

/-- The last place that a significand is rounded to. -/
def lastPlace (f : FloatFormat) (significand : Nat) (exponent : Int) : Int :=
  Max.max f.minExponent (exponent + significand.log2 - f.fractionBits)

theorem roundMagnitude_of_ne_zero (h : significand ≠ 0) :
    f.roundMagnitude significand exponent = Min.min f.infinity
      ((f.lastPlace significand exponent - f.minExponent).toNat * 2 ^ f.fractionBits +
        significandAt significand exponent (f.lastPlace significand exponent)) := by
  rw [← Nat.shiftLeft_eq]
  exact if_neg h

/-- What is rounded fills the fraction, unless its last place is that of the subnormals. -/
theorem scaled_mem (h : significand ≠ 0) :
    (significand * 2 ^ (exponent - f.lastPlace significand exponent) : ℚ) < 2 ^ (f.fractionBits + 1) ∧
      (f.lastPlace significand exponent = f.minExponent ∨
        (2 ^ f.fractionBits : ℚ) ≤ significand * 2 ^ (exponent - f.lastPlace significand exponent)) := by
  have hpos : (0 : ℚ) < 2 ^ (exponent - f.lastPlace significand exponent) := zpow_pos (by norm_num) _
  have hlow : (2 ^ significand.log2 : ℚ) ≤ significand := mod_cast Nat.log2_self_le h
  have hhigh : (significand : ℚ) < 2 ^ (significand.log2 + 1) := mod_cast Nat.lt_log2_self
  constructor
  · calc (significand * 2 ^ (exponent - f.lastPlace significand exponent) : ℚ)
        < 2 ^ (significand.log2 + 1) * 2 ^ (exponent - f.lastPlace significand exponent) :=
          mul_lt_mul_of_pos_right hhigh hpos
      _ = 2 ^ ((significand.log2 + 1 : Nat) + (exponent - f.lastPlace significand exponent)) := by
          rw [zpow_add₀ (by norm_num), zpow_natCast]
      _ ≤ 2 ^ ((f.fractionBits + 1 : Nat) : Int) :=
          zpow_le_zpow_right₀ (by norm_num) (by rw [lastPlace]; omega)
      _ = 2 ^ (f.fractionBits + 1) := zpow_natCast _ _
  · rcases eq_or_ne (f.lastPlace significand exponent) f.minExponent with heq | hne
    · exact .inl heq
    · refine .inr ?_
      calc (2 ^ f.fractionBits : ℚ) = 2 ^ (f.fractionBits : Int) := (zpow_natCast _ _).symm
        _ = 2 ^ ((significand.log2 : Int) + (exponent - f.lastPlace significand exponent)) := by
            congr 1
            rw [lastPlace] at hne ⊢
            omega
        _ = 2 ^ significand.log2 * 2 ^ (exponent - f.lastPlace significand exponent) := by
            rw [zpow_add₀ (by norm_num), zpow_natCast]
        _ ≤ significand * 2 ^ (exponent - f.lastPlace significand exponent) :=
            mul_le_mul_of_nonneg_right hlow hpos.le

/-! ### Half way -/

/-- The value of a magnitude. For that of the infinities it is the value that would come next. -/
def amount (f : FloatFormat) (m : Nat) : ℚ := f.quanta m * 2 ^ f.minExponent

/-- The value half way from one magnitude to the next. -/
def halfway (f : FloatFormat) (m : Nat) : ℚ := (f.amount m + f.amount (m + 1)) / 2

/-- Whether a value belongs to a magnitude or to a lesser one: it is less than half way from there to the
next magnitude, or half way from an even one. -/
def UpTo (f : FloatFormat) (m : Nat) (x : ℚ) : Prop :=
  x < f.halfway m ∨ (x = f.halfway m ∧ m % 2 = 0)

/-- The magnitude after one that is given by a significand and the place of its last bit. -/
theorem quanta_significand_succ {q s : Nat} (hlt : s < 2 ^ (f.fractionBits + 1))
    (hfull : q = 0 ∨ 2 ^ f.fractionBits ≤ s) :
    f.quanta (q * 2 ^ f.fractionBits + s + 1) = (s + 1) * 2 ^ q := by
  have hle : s + 1 ≤ 2 ^ (f.fractionBits + 1) := hlt
  rcases Nat.lt_or_eq_of_le hle with hnext | hnext
  · exact quanta_significand hnext (hfull.imp_right fun h => Nat.le_succ_of_le h)
  · -- the significand is full, and the next magnitude has one more place
    have hpow : 2 ^ f.fractionBits < 2 ^ (f.fractionBits + 1) := Nat.pow_lt_pow_succ (by decide)
    have hsum : q * 2 ^ f.fractionBits + s + 1 = (q + 1) * 2 ^ f.fractionBits + 2 ^ f.fractionBits := by
      rw [Nat.add_assoc, hnext, Nat.pow_succ, Nat.succ_mul]
      omega
    rw [hsum, quanta_significand hpow (.inr (Nat.le_refl _)), hnext, Nat.pow_succ, Nat.pow_succ,
      Nat.mul_comm (2 ^ q), Nat.mul_assoc]

theorem amount_significand {q s : Nat} (hlt : s < 2 ^ (f.fractionBits + 1))
    (hfull : q = 0 ∨ 2 ^ f.fractionBits ≤ s) :
    f.amount (q * 2 ^ f.fractionBits + s) = s * 2 ^ q * 2 ^ f.minExponent := by
  rw [amount, quanta_significand hlt hfull, Nat.cast_mul, Nat.cast_pow, Nat.cast_ofNat]

theorem halfway_significand {q s : Nat} (hlt : s < 2 ^ (f.fractionBits + 1))
    (hfull : q = 0 ∨ 2 ^ f.fractionBits ≤ s) :
    f.halfway (q * 2 ^ f.fractionBits + s) = (2 * s + 1) * 2 ^ q / 2 * 2 ^ f.minExponent := by
  rw [halfway, amount_significand hlt hfull, amount, quanta_significand_succ hlt hfull]
  push_cast
  ring

theorem amount_strictMono (f : FloatFormat) : StrictMono f.amount := fun _ _ h =>
  mul_lt_mul_of_pos_right (Nat.cast_lt.2 (quanta_lt_quanta_iff.2 h)) (zpow_pos (by norm_num) _)

theorem amount_zero (f : FloatFormat) : f.amount 0 = 0 := by
  rw [amount, quanta_zero, Nat.cast_zero, zero_mul]

theorem amount_nonneg (f : FloatFormat) (m : Nat) : 0 ≤ f.amount m :=
  f.amount_zero ▸ f.amount_strictMono.monotone (Nat.zero_le m)

theorem amount_lt_halfway (f : FloatFormat) (m : Nat) : f.amount m < f.halfway m := by
  have hlt := f.amount_strictMono (Nat.lt_succ_self m)
  rw [halfway]
  linarith

theorem halfway_lt_amount (f : FloatFormat) (m : Nat) : f.halfway m < f.amount (m + 1) := by
  have hlt := f.amount_strictMono (Nat.lt_succ_self m)
  rw [halfway]
  linarith

theorem halfway_lt_halfway (h : m < n) : f.halfway m < f.halfway n :=
  calc f.halfway m < f.amount (m + 1) := f.halfway_lt_amount m
    _ ≤ f.amount n := f.amount_strictMono.monotone h
    _ < f.halfway n := f.amount_lt_halfway n

theorem UpTo.mono {x : ℚ} (h : f.UpTo m x) (hmn : m ≤ n) : f.UpTo n x := by
  rcases Nat.lt_or_eq_of_le hmn with hlt | rfl
  · refine .inl (lt_of_le_of_lt ?_ (halfway_lt_halfway hlt))
    rcases h with hx | ⟨hx, -⟩
    · exact hx.le
    · exact hx.le
  · exact h

theorem UpTo.anti {x y : ℚ} (h : f.UpTo m y) (hxy : x ≤ y) : f.UpTo m x := by
  rcases h with hy | ⟨rfl, hm⟩
  · exact .inl (lt_of_le_of_lt hxy hy)
  · exact (lt_or_eq_of_le hxy).imp id fun h => ⟨h, hm⟩

/-- The value of a magnitude belongs to that magnitude. -/
theorem upTo_amount_iff : f.UpTo m (f.amount n) ↔ n ≤ m := by
  constructor
  · intro h
    by_contra hlt
    have hbeyond := (f.halfway_lt_amount m).trans_le (f.amount_strictMono.monotone (Nat.not_le.1 hlt))
    rcases h with h | ⟨h, -⟩
    · exact lt_asymm h hbeyond
    · exact hbeyond.ne' h
  · intro hle
    exact .inl ((f.amount_strictMono.monotone hle).trans_lt (f.amount_lt_halfway m))

/-! ### Places -/

section Place

variable {q s k r : Nat} {y : ℚ} (hlt : s < 2 ^ (f.fractionBits + 1))
  (hfull : q = 0 ∨ 2 ^ f.fractionBits ≤ s)

include hlt hfull in
/-- What belongs to a magnitude that is given by a significand. -/
theorem upTo_significand_iff (hfraction : 0 < f.fractionBits) :
    f.UpTo (q * 2 ^ f.fractionBits + s) (y * 2 ^ f.minExponent) ↔
      2 * y < (2 * s + 1) * 2 ^ q ∨ (2 * y = (2 * s + 1) * 2 ^ q ∧ s % 2 = 0) := by
  have hunit : (0 : ℚ) < 2 ^ f.minExponent := zpow_pos (by norm_num) _
  have hparity : (q * 2 ^ f.fractionBits + s) % 2 = s % 2 := by
    obtain ⟨j, hj⟩ := Nat.exists_eq_add_of_lt hfraction
    rw [hj, Nat.pow_succ, ← Nat.mul_assoc, Nat.mul_add_mod']
  rw [UpTo, halfway_significand hlt hfull, hparity, mul_lt_mul_iff_left₀ hunit,
    mul_left_inj' hunit.ne', lt_div_iff₀ (by norm_num), eq_div_iff (by norm_num), mul_comm y 2]

/-- A value of a lesser place belongs to the magnitude. -/
theorem two_mul_lt_of_place_lt (hfull : 2 ^ f.fractionBits ≤ s) (hkq : k < q)
    (hhigh : y < 2 ^ (f.fractionBits + 1)) : 2 * (y * 2 ^ k) < (2 * s + 1) * 2 ^ q := by
  have hfull : (2 ^ f.fractionBits : ℚ) ≤ s := mod_cast hfull
  calc 2 * (y * 2 ^ k) = y * 2 ^ (k + 1) := by ring
    _ ≤ 2 ^ (f.fractionBits + 1) * 2 ^ q :=
        mul_le_mul hhigh.le (pow_le_pow_right₀ (by norm_num) hkq) (by positivity) (by positivity)
    _ = 2 * 2 ^ f.fractionBits * 2 ^ q := by rw [pow_succ']
    _ < (2 * s + 1) * 2 ^ q := mul_lt_mul_of_pos_right (by linarith) (by positivity)

include hlt in
/-- One of a greater place is beyond. -/
theorem lt_two_mul_of_lt_place (hqk : q < k) (hlow : 2 ^ f.fractionBits ≤ y) :
    (2 * s + 1) * 2 ^ q < 2 * (y * 2 ^ k) := by
  have hs : (s + 1 : ℚ) ≤ 2 * 2 ^ f.fractionBits := by
    rw [← pow_succ']
    exact_mod_cast hlt
  calc (2 * s + 1 : ℚ) * 2 ^ q < 2 ^ f.fractionBits * 4 * 2 ^ q :=
        mul_lt_mul_of_pos_right (by linarith) (by positivity)
    _ = 2 * 2 ^ f.fractionBits * 2 ^ (q + 1) := by ring
    _ ≤ 2 * y * 2 ^ k :=
        mul_le_mul (by linarith) (pow_le_pow_right₀ (by norm_num) hqk) (by positivity) (by linarith)
    _ = 2 * (y * 2 ^ k) := mul_assoc _ _ _

/-- A rounded significand at its last place is a magnitude: the least one that the value belongs to. -/
theorem place_add_le_iff (hfraction : 0 < f.fractionBits) (hhigh : y < 2 ^ (f.fractionBits + 1))
    (hlow : k = 0 ∨ 2 ^ f.fractionBits ≤ y)
    (hround : ∀ j : Nat, r ≤ j ↔ 2 * y < 2 * j + 1 ∨ (2 * y = 2 * j + 1 ∧ j % 2 = 0)) :
    k * 2 ^ f.fractionBits + r ≤ m ↔ f.UpTo m (y * 2 ^ k * 2 ^ f.minExponent) := by
  obtain ⟨q, s, rfl, hlt, hfull⟩ := f.exists_significand m
  rw [upTo_significand_iff hlt hfull hfraction]
  have hdouble : 2 ^ (f.fractionBits + 1) = 2 * 2 ^ f.fractionBits := Nat.pow_succ'
  have hcast : (2 ^ (f.fractionBits + 1) : ℚ) = 2 * 2 ^ f.fractionBits := pow_succ' _ _
  rcases Nat.lt_trichotomy k q with hkq | rfl | hqk
  · -- even a significand that is rounded up to the next place is no greater magnitude
    have hfull : 2 ^ f.fractionBits ≤ s := hfull.resolve_left (by omega)
    have hr : r ≤ 2 ^ (f.fractionBits + 1) := (hround _).2 (.inl (by push_cast; linarith))
    have hplaces : (k + 1) * 2 ^ f.fractionBits ≤ q * 2 ^ f.fractionBits := Nat.mul_le_mul_right _ hkq
    rw [Nat.succ_mul] at hplaces
    exact iff_of_true (by omega) (.inl (two_mul_lt_of_place_lt hfull hkq hhigh))
  · -- the significands decide
    have hplace : (0 : ℚ) < 2 ^ k := by positivity
    rw [Nat.add_le_add_iff_left, hround, ← mul_assoc, mul_lt_mul_iff_left₀ hplace, mul_left_inj' hplace.ne']
  · -- the significand fills the fraction, also when it is rounded
    have hlow : (2 ^ f.fractionBits : ℚ) ≤ y := hlow.resolve_left (by omega)
    have hr : ¬ r ≤ 2 ^ f.fractionBits - 1 := fun h => by
      have hpred : ((2 ^ f.fractionBits - 1 : Nat) : ℚ) = 2 ^ f.fractionBits - 1 := by
        rw [Nat.cast_sub Nat.one_le_two_pow, Nat.cast_pow, Nat.cast_ofNat, Nat.cast_one]
      rcases (hround _).1 h with h | ⟨h, -⟩ <;> rw [hpred] at h <;> linarith
    have hplaces : (q + 1) * 2 ^ f.fractionBits ≤ k * 2 ^ f.fractionBits := Nat.mul_le_mul_right _ hqk
    have hbeyond := lt_two_mul_of_lt_place hlt hqk hlow
    rw [Nat.succ_mul] at hplaces
    refine iff_of_false (by omega) ?_
    rintro (h | ⟨h, -⟩)
    · exact lt_asymm h hbeyond
    · exact hbeyond.ne' h

end Place

/-- **Rounding a magnitude.** A value is rounded to the least magnitude that it belongs to. -/
theorem roundMagnitude_le_iff (hfraction : 0 < f.fractionBits) (hm : m < f.infinity) :
    f.roundMagnitude significand exponent ≤ m ↔ f.UpTo m (significand * 2 ^ exponent) := by
  by_cases hzero : significand = 0
  · have hpos : 0 < f.halfway m := (f.amount_nonneg m).trans_lt (f.amount_lt_halfway m)
    rw [roundMagnitude, if_pos hzero, hzero, Nat.cast_zero, zero_mul]
    exact iff_of_true (Nat.zero_le m) (.inl hpos)
  · obtain ⟨hhigh, hlow⟩ := @scaled_mem f significand exponent hzero
    obtain ⟨k, hk⟩ : ∃ k : Nat, f.lastPlace significand exponent = f.minExponent + k :=
      ⟨(f.lastPlace significand exponent - f.minExponent).toNat, by rw [lastPlace]; omega⟩
    have hvalue : (significand * 2 ^ exponent : ℚ) =
        significand * 2 ^ (exponent - f.lastPlace significand exponent) * 2 ^ k * 2 ^ f.minExponent := by
      rw [hk, mul_assoc, mul_assoc, ← zpow_natCast, ← zpow_add₀ (by norm_num), ← zpow_add₀ (by norm_num)]
      congr 2
      omega
    have hplace : (f.lastPlace significand exponent - f.minExponent).toNat = k := by omega
    rw [roundMagnitude_of_ne_zero hzero, min_le_iff, hplace, or_iff_right (Nat.not_le_of_lt hm), hvalue]
    exact place_add_le_iff hfraction hhigh (hlow.imp_left (by omega)) fun _ => significandAt_le_iff

/-! ### Values -/

section Value

variable (hfraction : 0 < f.fractionBits)

include hfraction

theorem roundMagnitude_congr {other : Nat} {otherExponent : Int}
    (h : ∀ m < f.infinity, f.UpTo m (significand * 2 ^ exponent) ↔
      f.UpTo m (other * 2 ^ otherExponent)) :
    f.roundMagnitude significand exponent = f.roundMagnitude other otherExponent := by
  refine eq_of_forall_ge_iff fun m => ?_
  rcases Nat.lt_or_ge m f.infinity with hm | hm
  · rw [roundMagnitude_le_iff hfraction hm, roundMagnitude_le_iff hfraction hm, h m hm]
  · exact iff_of_true ((roundMagnitude_le _ _).trans hm) ((roundMagnitude_le _ _).trans hm)

theorem roundMagnitude_le_of_le (hx : significand * 2 ^ exponent ≤ f.amount n) :
    f.roundMagnitude significand exponent ≤ n := by
  rcases Nat.lt_or_ge n f.infinity with hn | hn
  · exact (roundMagnitude_le_iff hfraction hn).2 ((upTo_amount_iff.2 (Nat.le_refl n)).anti hx)
  · exact (roundMagnitude_le _ _).trans hn

theorem le_roundMagnitude_of_le (hx : f.amount n ≤ significand * 2 ^ exponent) (hn : n ≤ f.infinity) :
    n ≤ f.roundMagnitude significand exponent := by
  by_contra hlt
  have hlt := Nat.not_le.1 hlt
  have hupTo := (roundMagnitude_le_iff hfraction (hlt.trans_le hn)).1 (Nat.le_refl _)
  exact Nat.not_le_of_lt hlt (upTo_amount_iff.1 (hupTo.anti hx))

end Value

/-! ### The nearest magnitude -/

section Least

variable {x : ℚ} (hupTo : f.UpTo m x) (hleast : ∀ n < m, ¬ f.UpTo n x)

include hupTo in
/-- A value is not beyond half way to a greater magnitude. -/
theorem two_mul_le_of_lt (h : m < n) :
    2 * x ≤ f.amount m + f.amount n ∧ (2 * x = f.amount m + f.amount n → m % 2 = 0) := by
  have hnext : f.amount (m + 1) ≤ f.amount n := f.amount_strictMono.monotone h
  have hhalfway : 2 * f.halfway m = f.amount m + f.amount (m + 1) := mul_div_cancel₀ _ (by norm_num)
  rcases hupTo with hx | ⟨hx, heven⟩
  · exact ⟨by linarith, fun heq => by linarith⟩
  · exact ⟨by linarith, fun _ => heven⟩

include hleast in
/-- It is not half way to a lesser one. -/
theorem le_two_mul_of_lt (h : n < m) :
    f.amount n + f.amount m ≤ 2 * x ∧ (f.amount n + f.amount m = 2 * x → m % 2 = 0) := by
  obtain ⟨k, rfl⟩ := Nat.exists_eq_succ_of_ne_zero (Nat.ne_zero_of_lt h)
  have hnext : f.amount n ≤ f.amount k := f.amount_strictMono.monotone (Nat.lt_succ_iff.1 h)
  have hhalfway : 2 * f.halfway k = f.amount k + f.amount (k + 1) := mul_div_cancel₀ _ (by norm_num)
  have hbeyond := hleast k (Nat.lt_succ_self k)
  rw [UpTo, not_or, not_lt] at hbeyond
  refine ⟨by linarith, fun heq => ?_⟩
  have hodd : ¬ k % 2 = 0 := fun heven => hbeyond.2 ⟨by linarith, heven⟩
  omega

include hupTo hleast

/-- **The least magnitude that a value belongs to is the nearest one**, and even if another one is as
near. -/
theorem abs_sub_amount_le (n : Nat) : |x - f.amount m| ≤ |x - f.amount n| ∧
    (|x - f.amount m| = |x - f.amount n| → n ≠ m → m % 2 = 0) := by
  rcases Nat.lt_trichotomy n m with hlt | rfl | hgt
  · obtain ⟨hle, heven⟩ := le_two_mul_of_lt hleast hlt
    have hamount := f.amount_strictMono hlt
    have habs : |x - f.amount n| = x - f.amount n := abs_of_pos (by linarith)
    rw [habs]
    refine ⟨abs_le.2 ⟨by linarith, by linarith⟩, fun heq _ => heven (le_antisymm hle ?_)⟩
    rcases (abs_eq (by linarith)).1 heq with h | h <;> linarith
  · exact ⟨le_rfl, fun _ hne => absurd rfl hne⟩
  · obtain ⟨hle, heven⟩ := two_mul_le_of_lt hupTo hgt
    have hamount := f.amount_strictMono hgt
    have habs : |x - f.amount n| = f.amount n - x := by
      rw [abs_sub_comm]
      exact abs_of_pos (by linarith)
    rw [habs]
    refine ⟨abs_le.2 ⟨by linarith, by linarith⟩, fun heq _ => heven (le_antisymm hle ?_)⟩
    rcases (abs_eq (by linarith)).1 heq with h | h <;> linarith

end Least

end FloatFormat

/-! ### Signs -/

/-- A value with a sign. -/
def withSign (negative : Bool) (x : ℚ) : ℚ := if negative then -x else x

theorem withSign_add (negative : Bool) (x y : ℚ) :
    withSign negative (x + y) = withSign negative x + withSign negative y := by
  cases negative with
  | false => rfl
  | true => exact neg_add x y

theorem withSign_sub (negative : Bool) (x y : ℚ) :
    withSign negative (x - y) = withSign negative x - withSign negative y := by
  cases negative with
  | false => rfl
  | true => exact (neg_sub_neg x y).trans (neg_sub x y).symm |>.symm

theorem withSign_mul (negative : Bool) (x y : ℚ) :
    withSign negative (x * y) = withSign negative x * y := by
  cases negative with
  | false => rfl
  | true => exact (neg_mul x y).symm

theorem withSign_not (negative : Bool) (x : ℚ) : withSign (!negative) x = -withSign negative x := by
  cases negative with
  | false => rfl
  | true => exact (neg_neg x).symm

theorem abs_withSign (negative : Bool) (x : ℚ) : |withSign negative x| = |x| := by
  cases negative with
  | false => rfl
  | true => exact abs_neg x

/-- A value that is not zero has the sign it is given. -/
theorem negative_eq_of_withSign {negative : Bool} {x : ℚ} (h : 0 ≤ x) (hne : withSign negative x ≠ 0) :
    negative = decide (withSign negative x < 0) := by
  cases negative with
  | false => exact (decide_eq_false (not_lt.2 h)).symm
  | true =>
      have hpos : 0 < x := lt_of_le_of_ne h fun hzero => hne (hzero ▸ neg_zero)
      exact (decide_eq_true (neg_lt_zero.2 hpos)).symm

/-- Whether a datum is a number of a sign and a value. -/
inductive Datum.Denotes : Datum → Bool → ℚ → Prop
  | finite {negative : Bool} {significand : Nat} {exponent : Int} {x : ℚ} :
      x = withSign negative (significand * 2 ^ exponent) →
      Denotes (.finite negative significand exponent) negative x

/-- The value of a number without its sign is that of its significand. -/
theorem Datum.Denotes.abs_eq {negative s : Bool} {significand : Nat} {exponent : Int} {x : ℚ}
    (h : (Datum.finite negative significand exponent).Denotes s x) :
    s = negative ∧ |x| = significand * 2 ^ exponent := by
  cases h with
  | finite hx => exact ⟨rfl, by rw [hx, abs_withSign, abs_of_nonneg (by positivity)]⟩

theorem Datum.Same.denotes {d e : Datum} {negative : Bool} {x : ℚ} (h : d.Same e)
    (hd : d.Denotes negative x) : e.Denotes negative x := by
  cases hd with
  | finite hx =>
      cases e with
      | finite =>
          obtain ⟨rfl, hvalue⟩ := h
          exact .finite (hvalue ▸ hx)
      | _ => exact h.elim

namespace FloatFormat

variable {f : FloatFormat} {m n p : Nat} {significand : Nat} {exponent : Int}

/-- Rounding looks at a number through its sign and the magnitudes that it belongs to, and at nothing
else. -/
theorem round_congr {d e : Datum} {s : Bool} {x y : ℚ} (hfraction : 0 < f.fractionBits)
    (hd : d.Denotes s x) (he : e.Denotes s y) (h : ∀ m < f.infinity, f.UpTo m |x| ↔ f.UpTo m |y|) :
    f.round d = f.round e := by
  cases d with
  | finite _ _ _ =>
    cases e with
    | finite _ _ _ =>
      obtain ⟨rfl, hx⟩ := hd.abs_eq
      obtain ⟨rfl, hy⟩ := he.abs_eq
      rw [hx, hy] at h
      rw [round, round, roundMagnitude_congr hfraction h]
    | _ => cases he
  | _ => cases hd

/-! ### Correct rounding -/

/-- The value of a pattern that is no infinity and no NaN. -/
def rational (f : FloatFormat) (p : Nat) : ℚ := withSign (f.isNegative p) (f.amount (f.magnitude p))

theorem denotes_decode (h : f.magnitude p < f.infinity) :
    (f.decode p).Denotes (f.isNegative p) (f.rational p) :=
  (same_decode h).symm.denotes (.finite rfl)

theorem abs_rational (f : FloatFormat) (p : Nat) : |f.rational p| = f.amount (f.magnitude p) := by
  rw [rational, abs_withSign, abs_of_nonneg (f.amount_nonneg _)]

/-- **A pattern is a rational number rounded once**, to nearest with ties to even. -/
structure RoundsTo (f : FloatFormat) (zeroNegative : Bool) (x : ℚ) (p : Nat) : Prop where
  /-- It is a pattern of the format. -/
  lt_width : p < 2 ^ f.width
  /-- It is no NaN. -/
  not_nan : f.isNaN p = false
  /-- It has the sign of the number, with which zero comes as well. -/
  sign : f.isNegative p = if x = 0 then zeroNegative else decide (x < 0)
  /-- It is infinite from half way beyond the greatest magnitude on. -/
  overflow : f.magnitude p = f.infinity ↔ f.halfway (f.infinity - 1) ≤ |x|
  /-- Otherwise no other pattern is nearer. -/
  nearest : f.magnitude p < f.infinity → ∀ q, f.magnitude q < f.infinity →
    |x - f.rational p| ≤ |x - f.rational q|
  /-- If one of another value is as near, its last bit is clear. -/
  even_of_tie : f.magnitude p < f.infinity → ∀ q, f.magnitude q < f.infinity →
    |x - f.rational p| = |x - f.rational q| → f.rational q ≠ f.rational p → f.magnitude p % 2 = 0

theorem infinity_even (hfraction : 0 < f.fractionBits) : f.infinity % 2 = 0 := by
  obtain ⟨j, hj⟩ := Nat.exists_eq_add_of_lt hfraction
  rw [infinity, Nat.shiftLeft_eq, hj, Nat.pow_succ, ← Nat.mul_assoc, Nat.mul_mod_left]

section Round

variable (hfraction : 0 < f.fractionBits)

include hfraction

theorem roundMagnitude_nearest (hlt : f.roundMagnitude significand exponent < f.infinity) (n : Nat) :
    let x : ℚ := significand * 2 ^ exponent
    let m := f.roundMagnitude significand exponent
    |x - f.amount m| ≤ |x - f.amount n| ∧
      (|x - f.amount m| = |x - f.amount n| → n ≠ m → m % 2 = 0) := by
  intro x m
  refine abs_sub_amount_le ((roundMagnitude_le_iff hfraction hlt).1 (Nat.le_refl _)) (fun k hk hupTo => ?_) n
  exact Nat.not_le_of_lt hk ((roundMagnitude_le_iff hfraction (hk.trans hlt)).2 hupTo)

theorem roundMagnitude_eq_infinity_iff (hinfinity : 0 < f.infinity) :
    f.roundMagnitude significand exponent = f.infinity ↔
      f.halfway (f.infinity - 1) ≤ significand * 2 ^ exponent := by
  have heven := infinity_even hfraction
  have hle := roundMagnitude_le (f := f) significand exponent
  have hiff := @roundMagnitude_le_iff f _ significand exponent hfraction (Nat.sub_lt hinfinity Nat.one_pos)
  have hinfinite : f.roundMagnitude significand exponent = f.infinity ↔
      ¬ f.roundMagnitude significand exponent ≤ f.infinity - 1 := by omega
  have hodd : ¬ (f.infinity - 1) % 2 = 0 := by omega
  rw [hinfinite, hiff, UpTo, not_or, not_lt]
  exact and_iff_left fun h => hodd h.2

end Round

/-- The greatest number of half precision is 65504, and 65536 would come next. -/
example : binary16.halfway (binary16.infinity - 1) = 65520 := by decide +kernel

/-- On the right side of zero it is enough that the magnitude is the nearest one. -/
theorem nearest_of_magnitude {negative : Bool} {x : ℚ} (hx : 0 ≤ x) (hsign : f.isNegative p = negative)
    (h : ∀ n, |x - f.amount (f.magnitude p)| ≤ |x - f.amount n| ∧
      (|x - f.amount (f.magnitude p)| = |x - f.amount n| → n ≠ f.magnitude p →
        f.magnitude p % 2 = 0)) (q : Nat) :
    |withSign negative x - f.rational p| ≤ |withSign negative x - f.rational q| ∧
      (|withSign negative x - f.rational p| = |withSign negative x - f.rational q| →
        f.rational q ≠ f.rational p → f.magnitude p % 2 = 0) := by
  subst hsign
  have hp : |withSign (f.isNegative p) x - f.rational p| = |x - f.amount (f.magnitude p)| := by
    rw [rational, ← withSign_sub, abs_withSign]
  have hq : |x - f.amount (f.magnitude q)| ≤ |withSign (f.isNegative p) x - f.rational q| := by
    have hle := abs_abs_sub_abs_le (withSign (f.isNegative p) x) (f.rational q)
    rwa [abs_withSign, abs_of_nonneg hx, abs_rational] at hle
  obtain ⟨hle, heven⟩ := h (f.magnitude q)
  rw [hp]
  refine ⟨hle.trans hq, fun htie hne => ?_⟩
  by_cases hmagnitude : f.magnitude q = f.magnitude p
  · -- the other pattern is the opposite one, and as near only if both are zero
    have hopposite : f.rational q = -f.rational p := by
      rw [rational, rational, hmagnitude] at hne ⊢
      generalize f.amount (f.magnitude p) = y at hne ⊢
      cases hsq : f.isNegative q <;> cases hsp : f.isNegative p <;> rw [hsq, hsp] at hne
      · exact absurd rfl hne
      · exact (neg_neg y).symm
      · rfl
      · exact absurd rfl hne
    have hsum : |withSign (f.isNegative p) x - f.rational q| = x + f.amount (f.magnitude p) := by
      rw [hopposite, sub_neg_eq_add, rational, ← withSign_add, abs_withSign,
        abs_of_nonneg (add_nonneg hx (f.amount_nonneg _))]
    have hzero := (h 0).1
    rw [amount_zero, sub_zero, abs_of_nonneg hx, htie, hsum] at hzero
    have hle : f.amount (f.magnitude p) ≤ f.amount 0 := by
      rw [amount_zero]
      linarith
    rw [Nat.le_zero.1 (f.amount_strictMono.le_iff_le.1 hle)]
  · exact heven (le_antisymm hle (htie ▸ hq)) hmagnitude

/-- **Rounding is correct rounding.** -/
theorem roundsTo_round {d : Datum} {negative zeroNegative : Bool} {x : ℚ} (hfraction : 0 < f.fractionBits)
    (hinfinity : 0 < f.infinity) (hd : d.Denotes negative x) (hzero : x = 0 → negative = zeroNegative) :
    f.RoundsTo zeroNegative x (f.round d) := by
  cases hd with
  | @finite _ significand exponent _ hx =>
    have hpos : (0 : ℚ) ≤ significand * 2 ^ exponent := by positivity
    have hle := roundMagnitude_le (f := f) significand exponent
    have hlt := hle.trans_lt f.infinity_lt_signBit
    have hmagnitude := magnitude_ofMagnitude negative hlt
    have hsign := isNegative_ofMagnitude negative hlt
    have hnearest (hfinite : f.roundMagnitude significand exponent < f.infinity) (q : Nat) :=
      nearest_of_magnitude hpos hsign (by rw [hmagnitude]; exact roundMagnitude_nearest hfraction hfinite) q
    rw [hmagnitude, ← hx] at hnearest
    refine ⟨round_lt _, ?_, ?_, ?_, ?_, ?_⟩
    · exact decide_eq_false (by rw [round, hmagnitude]; exact Nat.not_lt.2 hle)
    · rw [round, hsign]
      split
      · exact hzero ‹_›
      · subst hx
        exact negative_eq_of_withSign hpos ‹_›
    · rw [round, hmagnitude, roundMagnitude_eq_infinity_iff hfraction hinfinity, hx, abs_withSign,
        abs_of_nonneg hpos]
    · rw [round, hmagnitude]
      exact fun hfinite q _ => (hnearest hfinite q).1
    · rw [round, hmagnitude]
      exact fun hfinite q _ => (hnearest hfinite q).2

/-- Of two magnitudes that are equally near and no neighbours neither is nearest. -/
theorem lt_of_between {a b c y : ℚ} (hab : a < b) (hbc : b < c) (h : |y - a| = |y - c|) :
    |y - b| < |y - a| := by
  have hmiddle : 2 * y = a + c := by
    rcases abs_eq_abs.1 h with h | h <;> linarith
  have hleft : |y - a| = y - a := abs_of_pos (by linarith)
  rw [hleft, abs_lt]
  constructor <;> linarith

namespace RoundsTo

variable {zeroNegative : Bool} {x : ℚ} {q : Nat}

theorem magnitude_le (hp : f.RoundsTo zeroNegative x p) (hq : f.RoundsTo zeroNegative x q)
    (hpfinite : f.magnitude p < f.infinity) (hqfinite : f.magnitude q < f.infinity) :
    f.magnitude q ≤ f.magnitude p := by
  by_contra hlt
  have hlt := Nat.not_le.1 hlt
  have htie : |x - f.rational p| = |x - f.rational q| :=
    le_antisymm (hp.nearest hpfinite q hqfinite) (hq.nearest hqfinite p hpfinite)
  have hne : f.rational q ≠ f.rational p := fun heq => by
    have hamount := congrArg abs heq
    rw [abs_rational, abs_rational] at hamount
    exact Nat.ne_of_gt hlt (f.amount_strictMono.injective hamount)
  -- both are even, so that there is a magnitude between them
  have hpeven := hp.even_of_tie hpfinite q hqfinite htie hne
  have hqeven := hq.even_of_tie hqfinite p hpfinite htie.symm hne.symm
  have hfinite : f.magnitude p + 1 < f.infinity := by omega
  have hsign : f.isNegative q = f.isNegative p := hq.sign.trans hp.sign.symm
  have hbound := hfinite.trans f.infinity_lt_signBit
  have hbetween := hp.nearest hpfinite (f.ofMagnitude (f.isNegative p) (f.magnitude p + 1))
    ((magnitude_ofMagnitude _ hbound).trans_lt hfinite)
  obtain ⟨y, rfl⟩ : ∃ y, x = withSign (f.isNegative p) y :=
    ⟨withSign (f.isNegative p) x, by cases f.isNegative p <;> simp [withSign]⟩
  simp only [rational, isNegative_ofMagnitude _ hbound, magnitude_ofMagnitude _ hbound, hsign,
    ← withSign_sub, abs_withSign] at htie hbetween
  have hbelow := f.amount_strictMono (Nat.lt_succ_self (f.magnitude p))
  have habove : f.amount (f.magnitude p + 1) < f.amount (f.magnitude q) :=
    f.amount_strictMono (by omega)
  exact not_lt.2 hbetween (lt_of_between hbelow habove htie)

/-- **There is no other correctly rounded pattern.** -/
theorem unique (hp : f.RoundsTo zeroNegative x p) (hq : f.RoundsTo zeroNegative x q) : p = q := by
  have hsign : f.isNegative p = f.isNegative q := hp.sign.trans hq.sign.symm
  have hmagnitude : f.magnitude p = f.magnitude q := by
    have hple := magnitude_le_of_not_nan hp.not_nan
    have hqle := magnitude_le_of_not_nan hq.not_nan
    have hinfinite : f.magnitude p = f.infinity ↔ f.magnitude q = f.infinity :=
      hp.overflow.trans hq.overflow.symm
    rcases Nat.lt_or_eq_of_le hple with hfinite | hpinfinite
    · have hqfinite : f.magnitude q < f.infinity := by omega
      exact Nat.le_antisymm (magnitude_le hq hp hqfinite hfinite) (magnitude_le hp hq hfinite hqfinite)
    · rw [hpinfinite, hinfinite.1 hpinfinite]
  rw [← ofMagnitude_self hp.lt_width, hsign, hmagnitude, ofMagnitude_self hq.lt_width]

end RoundsTo

end FloatFormat

end Crosscheck
