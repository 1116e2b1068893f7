import Crosscheck.Proofs.Float.Range
import Mathlib.Algebra.Order.Field.Power
import Mathlib.Algebra.Order.Field.Rat
import Mathlib.Data.Int.ConditionallyCompleteOrder
import Mathlib.Data.Int.Interval
import Mathlib.Data.Set.Card
import Mathlib.Order.Interval.Set.UnorderedInterval
import Mathlib.Order.Monotone.Basic
import Mathlib.Order.WithBot
import Mathlib.Tactic.Ring

/-!
# Crosscheck.Proofs.Float.Order

**The numbers of a format stand at places, in order.** A pattern's place is its magnitude with its
sign, and the value at a place is a whole number of least subnormals (`FloatFormat.quanta`), which grows
with the place up to the infinities (`FloatFormat.strictMonoOn_valueAt`). So two patterns have the same
value if they have the same place, and the number of steps from one value of the format to another is the
difference of their places (`FloatFormat.steps_valueAt`).
-/

namespace Crosscheck

/-- A rational number, or one of the infinities. -/
abbrev Extended := WithBot (WithTop ℚ)

/-- The value of a datum. It stands for nothing where the datum is no number. -/
def Datum.value : Datum → Extended
  | .nan => 0
  | .infinite negative => if negative then ⊥ else ⊤
  | .finite negative significand exponent =>
    ((((if negative then -significand else significand : Int) : ℚ) * 2 ^ exponent : ℚ) : WithTop ℚ)

/-- Data that denote the same: the same value and the same sign, whatever the exponent is. -/
def Datum.Same : Datum → Datum → Prop
  | .nan, .nan => True
  | .infinite s, .infinite t => s = t
  | .finite s m p, .finite t n q => s = t ∧ (m * 2 ^ p : ℚ) = n * 2 ^ q
  | _, _ => False

theorem Datum.Same.value_eq {d e : Datum} (h : d.Same e) : d.value = e.value := by
  cases d <;> cases e <;> try exact h.elim
  case nan.nan => rfl
  case infinite.infinite s t => rw [show s = t from h]
  case finite.finite s m p t n q =>
    obtain ⟨rfl, hvalue⟩ := h
    refine congrArg (fun x : ℚ => ((x : WithTop ℚ) : Extended)) ?_
    cases s with
    | false =>
        simp only [Bool.false_eq_true, if_false, Int.cast_natCast, hvalue]
    | true =>
        simp only [if_true, Int.cast_neg, Int.cast_natCast, neg_mul, hvalue]

namespace FloatFormat

variable {f : FloatFormat} {m n p r : Nat}

/-! ### Magnitudes -/

/-- The value of a magnitude below that of the infinities, as a multiple of the least subnormal. -/
def quanta (f : FloatFormat) (magnitude : Nat) : Nat :=
  let field := magnitude / 2 ^ f.fractionBits
  let fraction := magnitude % 2 ^ f.fractionBits
  if field = 0 then fraction else (2 ^ f.fractionBits + fraction) * 2 ^ (field - 1)

theorem quanta_zero (f : FloatFormat) : f.quanta 0 = 0 := by simp [quanta]

theorem quanta_subnormal (h : r < 2 ^ f.fractionBits) : f.quanta r = r := by
  simp only [quanta, Nat.div_eq_of_lt h, if_true, Nat.mod_eq_of_lt h]

theorem quanta_normal (h : r < 2 ^ f.fractionBits) (q : Nat) :
    f.quanta (2 ^ f.fractionBits * (q + 1) + r) = (2 ^ f.fractionBits + r) * 2 ^ q := by
  have hfield : (2 ^ f.fractionBits * (q + 1) + r) / 2 ^ f.fractionBits = q + 1 := by
    rw [Nat.mul_add_div (Nat.two_pow_pos _), Nat.div_eq_of_lt h, Nat.add_zero]
  have hfraction : (2 ^ f.fractionBits * (q + 1) + r) % 2 ^ f.fractionBits = r := by
    rw [Nat.mul_add_mod, Nat.mod_eq_of_lt h]
  simp only [quanta, hfield, hfraction, Nat.succ_ne_zero, if_false, Nat.add_sub_cancel]

/-- The next magnitude is a larger value, also where the exponent changes. -/
theorem quanta_lt_succ (f : FloatFormat) (m : Nat) : f.quanta m < f.quanta (m + 1) := by
  have hpos : 0 < 2 ^ f.fractionBits := Nat.two_pow_pos _
  have hr : m % 2 ^ f.fractionBits < 2 ^ f.fractionBits := Nat.mod_lt _ hpos
  rw [← Nat.div_add_mod m (2 ^ f.fractionBits)]
  generalize m % 2 ^ f.fractionBits = r at hr
  generalize hF : m / 2 ^ f.fractionBits = q
  by_cases hlast : r + 1 < 2 ^ f.fractionBits
  · -- within an exponent
    cases q with
    | zero =>
        rw [Nat.mul_zero, Nat.zero_add, quanta_subnormal hr, quanta_subnormal hlast]
        exact Nat.lt_succ_self r
    | succ q =>
        rw [Nat.add_assoc, quanta_normal hr, quanta_normal hlast]
        exact Nat.mul_lt_mul_of_pos_right (by omega) (Nat.two_pow_pos q)
  · -- from the last magnitude of an exponent to the first of the next one
    have hnext : 2 ^ f.fractionBits * q + r + 1 = 2 ^ f.fractionBits * (q + 1) + 0 := by
      rw [Nat.mul_succ]
      omega
    rw [hnext, quanta_normal hpos]
    cases q with
    | zero =>
        rw [Nat.mul_zero, Nat.zero_add, quanta_subnormal hr]
        omega
    | succ q =>
        rw [quanta_normal hr, Nat.pow_succ' (n := q), ← Nat.mul_assoc]
        exact Nat.mul_lt_mul_of_pos_right (by omega) (Nat.two_pow_pos q)

theorem quanta_lt_quanta_iff : f.quanta m < f.quanta n ↔ m < n :=
  (strictMono_nat_of_lt_succ f.quanta_lt_succ).lt_iff_lt

/-! ### Places -/

/-- The value at a place between the infinities, as a multiple of the least subnormal. -/
def signedQuanta (f : FloatFormat) (place : Int) : Int :=
  if place < 0 then -(f.quanta place.natAbs : Int) else f.quanta place.natAbs

/-- The value at a place. -/
def valueAt (f : FloatFormat) (place : Int) : Extended :=
  if (f.infinity : Int) ≤ place then ⊤
  else if place ≤ -(f.infinity : Int) then ⊥
  else (((f.signedQuanta place : ℚ) * 2 ^ f.minExponent : ℚ) : WithTop ℚ)

theorem signedQuanta_lt {i j : Int} (h : i < j) : f.signedQuanta i < f.signedQuanta j := by
  have hij : f.quanta i.natAbs < f.quanta j.natAbs ↔ i.natAbs < j.natAbs := quanta_lt_quanta_iff
  have hji : f.quanta j.natAbs < f.quanta i.natAbs ↔ j.natAbs < i.natAbs := quanta_lt_quanta_iff
  have hzero : f.quanta 0 < f.quanta i.natAbs ↔ 0 < i.natAbs := quanta_lt_quanta_iff
  rw [quanta_zero] at hzero
  simp only [signedQuanta]
  split <;> split <;> omega

/-- **Values grow with their places**, from one infinity to the other. -/
theorem strictMonoOn_valueAt (f : FloatFormat) :
    StrictMonoOn f.valueAt (Set.Icc (-(f.infinity : Int)) f.infinity) := by
  intro i hi j hj hij
  have hi := hi.1
  have hj := hj.2
  rw [valueAt, if_neg (by omega), valueAt]
  by_cases hbottom : i ≤ -(f.infinity : Int)
  · rw [if_pos hbottom]
    split
    · exact WithBot.bot_lt_coe _
    · rw [if_neg (by omega)]
      exact WithBot.bot_lt_coe _
  · rw [if_neg hbottom]
    split
    · exact WithBot.coe_lt_coe.2 (WithTop.coe_lt_top _)
    · rw [if_neg (by omega)]
      refine WithBot.coe_lt_coe.2 (WithTop.coe_lt_coe.2 ?_)
      have hpos : (0 : ℚ) < 2 ^ f.minExponent := zpow_pos (by norm_num) _
      exact mul_lt_mul_of_pos_right (Int.cast_lt.2 (signedQuanta_lt hij)) hpos

/-! ### Patterns -/

theorem magnitude_le_of_not_nan (h : f.isNaN p = false) : f.magnitude p ≤ f.infinity := by
  simpa [isNaN] using h

theorem natAbs_place (f : FloatFormat) (p : Nat) : (f.place p).natAbs = f.magnitude p := by
  rw [place]
  split <;> omega

theorem place_mem (h : f.isNaN p = false) :
    f.place p ∈ Set.Icc (-(f.infinity : Int)) f.infinity := by
  have hle := magnitude_le_of_not_nan h
  have habs := f.natAbs_place p
  exact ⟨by omega, by omega⟩

theorem signedQuanta_place (f : FloatFormat) (p : Nat) :
    f.signedQuanta (f.place p) =
      if f.isNegative p then -(f.quanta (f.magnitude p) : Int) else f.quanta (f.magnitude p) := by
  rw [signedQuanta, natAbs_place, place]
  cases f.isNegative p with
  | false =>
      have hle : ¬ (f.magnitude p : Int) < 0 := Int.not_lt.2 (Int.natCast_nonneg _)
      simp only [Bool.false_eq_true, if_false, if_neg hle]
  | true =>
      simp only [if_true]
      by_cases hzero : f.magnitude p = 0
      · simp [hzero, quanta_zero]
      · rw [if_pos (by omega)]

/-- What a pattern below the infinities denotes, in terms of the least subnormal: the exponent above that
of the subnormals is a factor of the significand. -/
theorem same_decode (h : f.magnitude p < f.infinity) :
    (f.decode p).Same (.finite (f.isNegative p) (f.quanta (f.magnitude p)) f.minExponent) := by
  have hnan : f.isNaN p = false := decide_eq_false (Nat.lt_asymm h)
  have hne : f.magnitude p ≠ f.infinity := Nat.ne_of_lt h
  simp only [decode, hnan, Bool.false_eq_true, if_false, if_neg hne, Nat.shiftRight_eq_div_pow,
    Nat.one_shiftLeft, quanta]
  by_cases hfield : f.magnitude p / 2 ^ f.fractionBits = 0
  · simp only [if_pos hfield]
    exact ⟨rfl, rfl⟩
  · have hexponent : ((f.magnitude p / 2 ^ f.fractionBits : Nat) : Int) - 1 =
        ((f.magnitude p / 2 ^ f.fractionBits - 1 : Nat) : Int) :=
      (Int.ofNat_sub (Nat.pos_of_ne_zero hfield)).symm
    simp only [if_neg hfield, hexponent]
    refine ⟨rfl, ?_⟩
    rw [zpow_add₀ (by norm_num), zpow_natCast]
    push_cast
    ring

/-- The value of a pattern below the infinities, in terms of the least subnormal. -/
theorem value_decode_of_lt (h : f.magnitude p < f.infinity) :
    (f.decode p).value = (((f.signedQuanta (f.place p) : ℚ) * 2 ^ f.minExponent : ℚ) : WithTop ℚ) := by
  rw [(same_decode h).value_eq, Datum.value, signedQuanta_place]

/-- A pattern has the value of its place. -/
theorem value_decode (hf : 0 < f.infinity) (h : f.isNaN p = false) :
    (f.decode p).value = f.valueAt (f.place p) := by
  have hle := magnitude_le_of_not_nan h
  have habs := f.natAbs_place p
  rcases Nat.lt_or_eq_of_le hle with hlt | heq
  · rw [value_decode_of_lt hlt, valueAt, if_neg (by omega), if_neg (by omega)]
  · simp only [decode, h, Bool.false_eq_true, if_false, heq, Datum.value, valueAt, place]
    cases f.isNegative p with
    | false => simp
    | true =>
        have hpos : ¬ (f.infinity : Int) ≤ -(f.infinity : Int) := by omega
        simp only [if_true, if_neg hpos, if_pos (Int.le_refl _)]

theorem magnitude_ofMagnitude (negative : Bool) (h : m < f.signBit) :
    f.magnitude (f.ofMagnitude negative m) = m := by
  cases negative with
  | false => exact Nat.mod_eq_of_lt h
  | true => exact (Nat.add_mod_left _ _).trans (Nat.mod_eq_of_lt h)

theorem isNegative_ofMagnitude (negative : Bool) (h : m < f.signBit) :
    f.isNegative (f.ofMagnitude negative m) = negative := by
  have hpos : 0 < f.signBit := Nat.lt_of_le_of_lt (Nat.zero_le m) h
  cases negative with
  | false => simp [isNegative, ofMagnitude, Nat.div_eq_of_lt h]
  | true => simp [isNegative, ofMagnitude, Nat.add_div_left _ hpos, Nat.div_eq_of_lt h]

/-- The sign and the magnitude of a place are those of a pattern. -/
theorem place_ofMagnitude (negative : Bool) (h : m < f.signBit) :
    f.place (f.ofMagnitude negative m) = if negative then -(m : Int) else m := by
  rw [place, magnitude_ofMagnitude negative h, isNegative_ofMagnitude negative h]

/-- At each place up to the infinities there is a pattern. -/
theorem exists_place {i : Int} (h : i ∈ Set.Icc (-(f.infinity : Int)) f.infinity) :
    ∃ p, f.isNaN p = false ∧ f.place p = i := by
  obtain ⟨hlow, hhigh⟩ := h
  have hle : i.natAbs ≤ f.infinity := by omega
  have hplace := place_ofMagnitude (decide (i < 0)) (Nat.lt_of_le_of_lt hle f.infinity_lt_signBit)
  have hi : f.place (f.ofMagnitude (decide (i < 0)) i.natAbs) = i := by
    rw [hplace]
    by_cases hneg : i < 0
    · rw [decide_eq_true hneg, if_pos rfl]
      omega
    · rw [decide_eq_false hneg, if_neg (by simp)]
      omega
  refine ⟨_, decide_eq_false ?_, hi⟩
  have habs := f.natAbs_place (f.ofMagnitude (decide (i < 0)) i.natAbs)
  rw [hi] at habs
  omega

/-! ### Steps -/

/-- The values that have a pattern. -/
def values (f : FloatFormat) : Set Extended := {x | ∃ p, f.isNaN p = false ∧ (f.decode p).value = x}

/-- The number of steps from one value to the other, in either direction: each leads to the next value
that has a pattern. -/
noncomputable def steps (f : FloatFormat) (x y : Extended) : Nat := (f.values ∩ Set.uIoc x y).ncard

theorem values_eq (hf : 0 < f.infinity) :
    f.values = f.valueAt '' Set.Icc (-(f.infinity : Int)) f.infinity := by
  ext x
  constructor
  · rintro ⟨p, hp, rfl⟩
    exact ⟨f.place p, place_mem hp, (value_decode hf hp).symm⟩
  · rintro ⟨i, hi, rfl⟩
    obtain ⟨p, hp, rfl⟩ := exists_place hi
    exact ⟨p, hp, value_decode hf hp⟩

/-- The steps between two values are those between their places. -/
theorem steps_valueAt (hf : 0 < f.infinity) {i j : Int}
    (hi : i ∈ Set.Icc (-(f.infinity : Int)) f.infinity)
    (hj : j ∈ Set.Icc (-(f.infinity : Int)) f.infinity) :
    f.steps (f.valueAt i) (f.valueAt j) = (i - j).natAbs := by
  have hmono := f.strictMonoOn_valueAt
  have hmem : ∀ k ∈ Set.Icc (-(f.infinity : Int)) f.infinity,
      (f.valueAt k ∈ Set.uIoc (f.valueAt i) (f.valueAt j) ↔ k ∈ Set.uIoc i j) := by
    intro k hk
    rw [Set.mem_uIoc, Set.mem_uIoc, hmono.lt_iff_lt hi hk, hmono.le_iff_le hk hj,
      hmono.lt_iff_lt hj hk, hmono.le_iff_le hk hi]
  have hsub : Set.uIoc i j ⊆ Set.Icc (-(f.infinity : Int)) f.infinity := by
    obtain ⟨hilow, hihigh⟩ := hi
    obtain ⟨hjlow, hjhigh⟩ := hj
    intro k hk
    rw [Set.mem_uIoc] at hk
    exact ⟨by omega, by omega⟩
  have himage : f.values ∩ Set.uIoc (f.valueAt i) (f.valueAt j) = f.valueAt '' Set.uIoc i j := by
    rw [values_eq hf]
    ext x
    constructor
    · rintro ⟨⟨k, hk, rfl⟩, hx⟩
      exact ⟨k, (hmem k hk).1 hx, rfl⟩
    · rintro ⟨k, hk, rfl⟩
      exact ⟨⟨k, hsub hk, rfl⟩, (hmem k (hsub hk)).2 hk⟩
  rw [steps, himage, (hmono.injOn.mono hsub).ncard_image]
  rcases Int.le_total i j with hij | hij
  · rw [Set.uIoc_of_le hij, ← Finset.coe_Ioc, Set.ncard_coe_finset, Int.card_Ioc]
    omega
  · rw [Set.uIoc_of_ge hij, ← Finset.coe_Ioc, Set.ncard_coe_finset, Int.card_Ioc]
    omega

end FloatFormat

end Crosscheck
