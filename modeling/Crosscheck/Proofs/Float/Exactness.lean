import Crosscheck.Proofs.Float.Order
import Mathlib.Data.Nat.Log
import Mathlib.Tactic.Linarith

/-!
# Crosscheck.Proofs.Float.Exactness

**Rounding fixes what has a pattern.** A magnitude is a significand that fills the fraction, or is that
of a subnormal, and the place of its last bit. Rounding recovers both from the value alone, with
whatever significand and exponent it is written (`FloatFormat.roundMagnitude_exact`), so what a pattern
denotes is rounded to the pattern itself (`FloatFormat.round_of_same`).

A format widens another one if it has room for the other's significands at all of its exponents. Then
conversion into it changes neither value nor sign (`FloatFormat.same_convert`), and conversion back gives
the pattern again (`FloatFormat.convert_convert`).
-/

namespace Crosscheck

/-- A quotient without remainder is not rounded. -/
theorem roundHalfEven_mul (a : Nat) {b : Nat} (h : 0 < b) : roundHalfEven (a * b) b = a := by
  simp only [roundHalfEven, Nat.mul_mod_left, Nat.mul_div_cancel a h, Nat.mul_zero, if_pos h]

namespace Datum.Same

variable {c d e : Datum}

theorem symm (h : d.Same e) : e.Same d := by
  cases d <;> cases e <;> try exact h.elim
  case nan.nan => trivial
  case infinite.infinite => exact Eq.symm h
  case finite.finite => exact ⟨h.1.symm, h.2.symm⟩

theorem trans (h : c.Same d) (h' : d.Same e) : c.Same e := by
  cases c <;> cases d <;> cases e <;> first | exact h.elim | exact h'.elim | skip
  case nan.nan.nan => trivial
  case infinite.infinite.infinite => exact Eq.trans h h'
  case finite.finite.finite => exact ⟨h.1.trans h'.1, h.2.trans h'.2⟩

end Datum.Same

/-! ### Significands and exponents -/

/-- Two ways of writing one value: the significand with the lesser exponent has the other one's bits
and as many zeros as the exponents differ. -/
theorem significand_eq_mul {a b : Nat} {i j : Int} (h : (a * 2 ^ i : ℚ) = b * 2 ^ j) (hij : i ≤ j) :
    a = b * 2 ^ (j - i).toNat := by
  have hsplit : (2 : ℚ) ^ j = 2 ^ (j - i).toNat * 2 ^ i := by
    rw [← zpow_natCast, ← zpow_add₀ (by norm_num), Int.toNat_of_nonneg (by omega), Int.sub_add_cancel]
  have hne : (2 : ℚ) ^ i ≠ 0 := zpow_ne_zero _ (by norm_num)
  rw [hsplit, ← mul_assoc] at h
  exact_mod_cast mul_right_cancel₀ hne h

theorem significand_eq_zero_iff {a b : Nat} {i j : Int} (h : (a * 2 ^ i : ℚ) = b * 2 ^ j) :
    a = 0 ↔ b = 0 := by
  rcases Int.le_total i j with hij | hji
  · simp [significand_eq_mul h hij]
  · simp [significand_eq_mul h.symm hji]

theorem log2_mul_two_pow {a : Nat} (h : a ≠ 0) (n : Nat) : (a * 2 ^ n).log2 = a.log2 + n := by
  have hpos : a * 2 ^ n ≠ 0 := Nat.mul_ne_zero h (Nat.two_pow_pos n).ne'
  rw [Nat.log2_eq_iff hpos, Nat.pow_add, Nat.add_right_comm, Nat.pow_add 2 (a.log2 + 1)]
  exact ⟨Nat.mul_le_mul_right _ (Nat.log2_self_le h),
    Nat.mul_lt_mul_of_pos_right Nat.lt_log2_self (Nat.two_pow_pos n)⟩

/-- Two ways of writing one value have their highest bit at one place. -/
theorem log2_add_eq {a b : Nat} {i j : Int} (h : (a * 2 ^ i : ℚ) = b * 2 ^ j) (ha : a ≠ 0)
    (hb : b ≠ 0) : i + a.log2 = j + b.log2 := by
  rcases Int.le_total i j with hij | hji
  · rw [significand_eq_mul h hij, log2_mul_two_pow hb]
    omega
  · rw [significand_eq_mul h.symm hji, log2_mul_two_pow ha]
    omega

namespace FloatFormat

variable {f g : FloatFormat} {m p : Nat}

/-- The value of a magnitude that is given by a significand and the place of its last bit above that of
the subnormals. -/
theorem quanta_significand {q s : Nat} (hlt : s < 2 ^ (f.fractionBits + 1))
    (hfull : q = 0 ∨ 2 ^ f.fractionBits ≤ s) :
    f.quanta (q * 2 ^ f.fractionBits + s) = s * 2 ^ q := by
  rw [Nat.pow_succ] at hlt
  by_cases hs : s < 2 ^ f.fractionBits
  · obtain rfl : q = 0 := by omega
    rw [Nat.zero_mul, Nat.zero_add, quanta_subnormal hs, Nat.pow_zero, Nat.mul_one]
  · obtain ⟨r, rfl⟩ := Nat.exists_eq_add_of_le (Nat.le_of_not_lt hs)
    have hsum : q * 2 ^ f.fractionBits + (2 ^ f.fractionBits + r) =
        2 ^ f.fractionBits * (q + 1) + r := by
      rw [Nat.mul_succ, Nat.mul_comm, Nat.add_assoc]
    rw [hsum, quanta_normal (by omega)]

/-- Every magnitude is given so. -/
theorem exists_significand (f : FloatFormat) (m : Nat) :
    ∃ q s, m = q * 2 ^ f.fractionBits + s ∧ s < 2 ^ (f.fractionBits + 1) ∧
      (q = 0 ∨ 2 ^ f.fractionBits ≤ s) := by
  have hlt : m % 2 ^ f.fractionBits < 2 ^ f.fractionBits := Nat.mod_lt _ (Nat.two_pow_pos _)
  have hm := Nat.div_add_mod' m (2 ^ f.fractionBits)
  rw [Nat.pow_succ]
  cases hfield : m / 2 ^ f.fractionBits with
  | zero =>
      rw [hfield] at hm
      exact ⟨0, m % 2 ^ f.fractionBits, hm.symm, by omega, .inl rfl⟩
  | succ q =>
      rw [hfield, Nat.succ_mul] at hm
      exact ⟨q, 2 ^ f.fractionBits + m % 2 ^ f.fractionBits, by omega, by omega, .inr (by omega)⟩

/-- **Rounding recovers a magnitude from its value.** -/
theorem roundMagnitude_exact {significand : Nat} {exponent : Int} (hm : m ≤ f.infinity)
    (h : (significand * 2 ^ exponent : ℚ) = f.quanta m * 2 ^ f.minExponent) :
    f.roundMagnitude significand exponent = m := by
  obtain ⟨q, s, hsum, hlt, hfull⟩ := f.exists_significand m
  have hvalue : (significand * 2 ^ exponent : ℚ) = s * 2 ^ (f.minExponent + q) := by
    rw [h, hsum, quanta_significand hlt hfull, zpow_add₀ (by norm_num), zpow_natCast]
    push_cast
    ring
  by_cases hzero : s = 0
  · have hsignificand := (significand_eq_zero_iff hvalue).2 hzero
    have hq : q = 0 := by
      have := Nat.two_pow_pos f.fractionBits
      omega
    rw [roundMagnitude, if_pos hsignificand, hsum, hzero, hq, Nat.zero_mul]
  · have hne := mt (significand_eq_zero_iff hvalue).1 hzero
    have hhigh := log2_add_eq hvalue hne hzero
    have hbits : s.log2 ≤ f.fractionBits := Nat.lt_succ_iff.1 ((Nat.log2_lt hzero).2 hlt)
    have hlast : Max.max f.minExponent (exponent + significand.log2 - f.fractionBits) =
        f.minExponent + q := by
      rcases hfull with rfl | hfull
      · omega
      · have := (Nat.le_log2 hzero).2 hfull
        omega
    simp only [roundMagnitude, if_neg hne, hlast, Nat.shiftLeft_eq, Nat.one_mul]
    have hrounded : (if f.minExponent + q ≤ exponent then
        significand * 2 ^ (exponent - (f.minExponent + q)).toNat
        else roundHalfEven significand (2 ^ (f.minExponent + q - exponent).toNat)) = s := by
      by_cases hle : f.minExponent + q ≤ exponent
      · rw [if_pos hle, significand_eq_mul hvalue.symm hle]
      · rw [if_neg hle, significand_eq_mul hvalue (by omega), roundHalfEven_mul s (Nat.two_pow_pos _)]
    have hplace : (f.minExponent + q - f.minExponent).toNat = q := by omega
    rw [hrounded, hplace, ← hsum, Nat.min_eq_right hm]

/-- A pattern is its sign and its magnitude. -/
theorem ofMagnitude_self (h : p < 2 ^ f.width) :
    f.ofMagnitude (f.isNegative p) (f.magnitude p) = p := by
  rw [← two_mul_signBit] at h
  have hsplit := Nat.div_add_mod p f.signBit
  have hpos : 0 < f.signBit := Nat.lt_of_le_of_lt (Nat.zero_le _) f.infinity_lt_signBit
  rw [ofMagnitude, isNegative, magnitude]
  rcases Nat.lt_or_ge p f.signBit with hlt | hge
  · simp [Nat.div_eq_of_lt hlt, Nat.mod_eq_of_lt hlt]
  · have hdiv : p / f.signBit = 1 := Nat.div_eq_of_lt_le (by omega) (by omega)
    rw [hdiv] at hsplit ⊢
    simp only [beq_self_eq_true, if_true]
    omega

theorem decode_infinite (h : f.magnitude p = f.infinity) :
    f.decode p = .infinite (f.isNegative p) := by
  have hnan : f.isNaN p = false := decide_eq_false (by omega)
  simp only [decode, hnan, Bool.false_eq_true, if_false, if_pos h]

theorem decode_eq_nan_iff : f.decode p = .nan ↔ f.isNaN p = true := by
  constructor
  · intro h
    by_contra hnan
    simp only [decode, Bool.not_eq_true] at h hnan
    rw [hnan, if_neg (by simp)] at h
    split at h
    · cases h
    · split at h <;> cases h
  · intro h
    simp only [decode, if_pos h]

/-- **What a pattern denotes is rounded to the pattern**, however it is written. -/
theorem round_of_same {d : Datum} (hp : p < 2 ^ f.width) (hnan : f.isNaN p = false)
    (h : d.Same (f.decode p)) : f.round d = p := by
  have hle := magnitude_le_of_not_nan hnan
  rcases Nat.lt_or_eq_of_le hle with hlt | heq
  · have hfinite := h.trans (same_decode hlt)
    cases d with
    | finite negative significand exponent =>
        obtain ⟨rfl, hvalue⟩ := hfinite
        rw [round, roundMagnitude_exact hle hvalue, ofMagnitude_self hp]
    | _ => exact hfinite.elim
  · rw [decode_infinite heq] at h
    cases d with
    | infinite negative =>
        obtain rfl : negative = f.isNegative p := h
        rw [round, ← heq, ofMagnitude_self hp]
    | _ => exact h.elim

/-! ### Wider formats -/

/-- Twice a value has a magnitude, as long as no infinities are in the way. -/
theorem exists_quanta_double (f : FloatFormat) (m : Nat) : ∃ n, f.quanta n = f.quanta m * 2 := by
  obtain ⟨q, s, rfl, hlt, hfull⟩ := f.exists_significand m
  rw [quanta_significand hlt hfull]
  by_cases hs : 2 ^ f.fractionBits ≤ s
  · refine ⟨(q + 1) * 2 ^ f.fractionBits + s, ?_⟩
    rw [quanta_significand hlt (.inr hs), Nat.pow_succ, Nat.mul_assoc]
  · -- a subnormal value has room for one more bit
    obtain rfl : q = 0 := by omega
    have hdouble : s * 2 < 2 ^ (f.fractionBits + 1) := by
      rw [Nat.pow_succ]
      omega
    refine ⟨0 * 2 ^ f.fractionBits + s * 2, ?_⟩
    rw [quanta_significand hdouble (.inl rfl), Nat.pow_zero, Nat.mul_one, Nat.mul_one]

/-- Significands that fit the fraction have magnitudes at all exponents from that of the subnormals
on. -/
theorem exists_quanta_eq {s : Nat} (h : s < 2 ^ (f.fractionBits + 1)) (n : Nat) :
    ∃ m, f.quanta m = s * 2 ^ n := by
  induction n with
  | zero =>
      have hs := quanta_significand h (.inl rfl)
      exact ⟨_, hs⟩
  | succ n ih =>
      obtain ⟨m, hm⟩ := ih
      obtain ⟨k, hk⟩ := f.exists_quanta_double m
      exact ⟨k, by rw [hk, hm, Nat.pow_succ, Nat.mul_assoc]⟩

/-- A format that has room for the significands of another one at all of its exponents. -/
structure Widens (f g : FloatFormat) : Prop where
  /-- Significands fit. -/
  fractionBits_le : f.fractionBits ≤ g.fractionBits
  /-- The least subnormal is not too small. -/
  minExponent_le : g.minExponent ≤ f.minExponent
  /-- The infinities are far enough out. -/
  quanta_le : f.quanta f.infinity * 2 ^ (f.minExponent - g.minExponent).toNat ≤ g.quanta g.infinity

/-- Single precision widens half precision. -/
theorem binary16_widens : Widens binary16 binary32 where
  fractionBits_le := by decide
  minExponent_le := by decide
  quanta_le := by decide +kernel

namespace Widens

variable (h : Widens f g)

include h

/-- The wider format has a magnitude of the same value. -/
theorem exists_magnitude (hm : m < f.infinity) : ∃ n, n < g.infinity ∧
    (g.quanta n * 2 ^ g.minExponent : ℚ) = f.quanta m * 2 ^ f.minExponent := by
  obtain ⟨q, s, hsum, hlt, hfull⟩ := f.exists_significand m
  have hquanta : f.quanta m = s * 2 ^ q := hsum ▸ quanta_significand hlt hfull
  generalize hk : (f.minExponent - g.minExponent).toNat = k
  have hwide : s < 2 ^ (g.fractionBits + 1) :=
    Nat.lt_of_lt_of_le hlt (Nat.pow_le_pow_right (by decide) (Nat.succ_le_succ h.fractionBits_le))
  obtain ⟨n, hn⟩ := exists_quanta_eq hwide (q + k)
  rw [Nat.pow_add, ← Nat.mul_assoc, ← hquanta] at hn
  refine ⟨n, ?_, ?_⟩
  · rw [← quanta_lt_quanta_iff (f := g), hn]
    have hbelow : f.quanta m < f.quanta f.infinity := quanta_lt_quanta_iff.2 hm
    exact Nat.lt_of_lt_of_le (Nat.mul_lt_mul_of_pos_right hbelow (Nat.two_pow_pos k))
      (hk ▸ h.quanta_le)
  · have hexponent : f.minExponent = (k : Int) + g.minExponent := by
      have := h.minExponent_le
      omega
    rw [hn, hexponent, zpow_add₀ (by norm_num), zpow_natCast]
    push_cast
    ring

/-- The wider format has a pattern for each number. -/
theorem exists_same (hp : f.isNaN p = false) :
    ∃ x, x < 2 ^ g.width ∧ g.isNaN x = false ∧ (f.decode p).Same (g.decode x) := by
  rcases Nat.lt_or_eq_of_le (magnitude_le_of_not_nan hp) with hlt | heq
  · obtain ⟨n, hn, hvalue⟩ := h.exists_magnitude hlt
    have hsign := Nat.lt_trans hn g.infinity_lt_signBit
    have hmagnitude := magnitude_ofMagnitude (f.isNegative p) hsign
    have hnegative := isNegative_ofMagnitude (f.isNegative p) hsign
    refine ⟨g.ofMagnitude (f.isNegative p) n, ofMagnitude_lt _ hsign, decide_eq_false (by omega), ?_⟩
    refine (same_decode hlt).trans (Datum.Same.trans ?_ (same_decode (hmagnitude.trans_lt hn)).symm)
    exact ⟨hnegative.symm, by rw [hmagnitude, hvalue]⟩
  · have hsign := g.infinity_lt_signBit
    have hmagnitude := magnitude_ofMagnitude (f.isNegative p) hsign
    refine ⟨g.ofMagnitude (f.isNegative p) g.infinity, ofMagnitude_lt _ hsign,
      decide_eq_false (by omega), ?_⟩
    rw [decode_infinite heq, decode_infinite hmagnitude, isNegative_ofMagnitude _ hsign]
    rfl

/-- **Conversion into a wider format is exact.** -/
theorem same_convert (hp : f.isNaN p = false) : (g.decode (f.convert g p)).Same (f.decode p) := by
  obtain ⟨x, hx, hnan, hsame⟩ := h.exists_same hp
  rw [convert, round_of_same hx hnan hsame]
  exact hsame.symm

theorem isNaN_convert (hp : f.isNaN p = false) : g.isNaN (f.convert g p) = false := by
  obtain ⟨x, hx, hnan, hsame⟩ := h.exists_same hp
  rw [convert, round_of_same hx hnan hsame, hnan]

/-- **Conversion back gives the number again.** -/
theorem convert_convert (hlt : p < 2 ^ f.width) (hp : f.isNaN p = false) :
    g.convert f (f.convert g p) = p :=
  round_of_same hlt hp (h.same_convert hp)

end Widens

/-- What is no number is converted to the quiet NaN. -/
theorem convert_of_nan (hp : f.isNaN p = true) : f.convert g p = g.quietNaN := by
  rw [convert, decode_eq_nan_iff.2 hp, round]

end FloatFormat

end Crosscheck
