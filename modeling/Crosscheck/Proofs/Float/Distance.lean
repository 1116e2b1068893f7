import Crosscheck.Float.Ulp
import Crosscheck.Proofs.Float.Order

/-!
# Crosscheck.Proofs.Float.Distance

**The distance of two elements.** For elements that are no NaN it depends on their places and their
signs (`Ulp.toNat_ofBits`). Where the signs agree, and for two zeros, it is the number of steps between the
values; otherwise it is the largest word. That is also the answer where one element is a zero and the
other has the opposite sign: from negative zero to the least positive number it is one step, but
positive zero is the only zero from which the distance is one (`Ulp.ofBits_law`).
-/

namespace Crosscheck

namespace Ulp

open FloatElement

variable {bits x y : Nat} {f : FloatFormat} {a b : Word}

/-! ### Formats and their counters -/

theorem of_ofWidth? (hf : FloatFormat.ofWidth? bits = some f) :
    (bits = 16 ∧ f = .binary16) ∨ (bits = 32 ∧ f = .binary32) ∨ (bits = 64 ∧ f = .binary64) := by
  unfold FloatFormat.ofWidth? at hf
  split at hf
  · exact .inl ⟨rfl, (Option.some.inj hf).symm⟩
  · exact .inr (.inl ⟨rfl, (Option.some.inj hf).symm⟩)
  · exact .inr (.inr ⟨rfl, (Option.some.inj hf).symm⟩)
  · cases hf

theorem infinity_pos (hf : FloatFormat.ofWidth? bits = some f) : 0 < f.infinity := by
  rcases of_ofWidth? hf with ⟨rfl, rfl⟩ | ⟨rfl, rfl⟩ | ⟨rfl, rfl⟩ <;> decide

/-- No number is so far from zero that the format's counter could not tell. -/
theorem infinity_lt_unbounded (hf : FloatFormat.ofWidth? bits = some f) :
    f.infinity < unbounded (counterBits bits) := by
  rcases of_ofWidth? hf with ⟨rfl, rfl⟩ | ⟨rfl, rfl⟩ | ⟨rfl, rfl⟩ <;> decide

theorem unbounded_lt (bits : Nat) : unbounded (counterBits bits) < 2 ^ 64 := by
  rw [counterBits]
  split <;> decide

theorem isNaN_eq (hf : FloatFormat.ofWidth? bits = some f) (a : Word) :
    isNaN bits a = f.isNaN (pattern bits a) := by
  rw [isNaN, hf]

/-! ### Places -/

/-- Numbers of one sign are at most an infinity apart. -/
theorem natAbs_sub_place_le (hx : f.isNaN x = false) (hy : f.isNaN y = false)
    (hsign : f.isNegative x = f.isNegative y) : (f.place x - f.place y).natAbs ≤ f.infinity := by
  have hx := FloatFormat.magnitude_le_of_not_nan hx
  have hy := FloatFormat.magnitude_le_of_not_nan hy
  rw [FloatFormat.place, FloatFormat.place, hsign]
  split <;> omega

/-- Two numbers in terms of their places and their signs. -/
theorem distance_eq (counter : Nat) (hx : f.isNaN x = false) (hy : f.isNaN y = false) :
    distance f counter x y =
      if f.place x = f.place y then 0
      else if f.isNegative x = f.isNegative y then (f.place x - f.place y).natAbs
      else unbounded counter := by
  simp only [distance, hx, hy, Bool.or_self, Bool.false_eq_true, if_false]
  by_cases hplace : f.place x = f.place y
  · rw [if_pos hplace, if_pos hplace]
  · rw [if_neg hplace, if_neg hplace]
    by_cases hsign : f.isNegative x = f.isNegative y
    · rw [if_pos hsign, hsign, bne_self_eq_false, if_neg (by simp), FloatFormat.place,
        FloatFormat.place, hsign]
      split <;> omega
    · rw [if_neg hsign, if_pos (bne_iff_ne.2 hsign)]

/-- **The distance in places.** -/
theorem toNat_ofBits (hf : FloatFormat.ofWidth? bits = some f) (ha : isNaN bits a = false)
    (hb : isNaN bits b = false) :
    (ofBits bits a b).toNat =
      if f.place (pattern bits a) = f.place (pattern bits b) then 0
      else if f.isNegative (pattern bits a) = f.isNegative (pattern bits b) then
        (f.place (pattern bits a) - f.place (pattern bits b)).natAbs
      else 2 ^ 64 - 1 := by
  rw [isNaN_eq hf] at ha hb
  have hword := unbounded_lt bits
  have hcounter := infinity_lt_unbounded hf
  simp only [ofBits, native, hf, distance_eq _ ha hb]
  generalize pattern bits a = x at *
  generalize pattern bits b = y at *
  by_cases hplace : f.place x = f.place y
  · have hzero : (BitVec.ofNat 64 0).toNat ≠ unbounded (counterBits bits) := by
      rw [BitVec.toNat_ofNat, Nat.zero_mod]
      omega
    rw [if_pos hplace, if_pos hplace, if_neg hzero, BitVec.toNat_ofNat, Nat.zero_mod]
  · rw [if_neg hplace, if_neg hplace]
    by_cases hsign : f.isNegative x = f.isNegative y
    · have hle := natAbs_sub_place_le ha hb hsign
      have hfits : (f.place x - f.place y).natAbs % 2 ^ 64 = (f.place x - f.place y).natAbs :=
        Nat.mod_eq_of_lt (by omega)
      rw [if_pos hsign, if_pos hsign, BitVec.toNat_ofNat, hfits, if_neg (by omega),
        BitVec.toNat_ofNat, hfits]
    · rw [if_neg hsign, if_neg hsign, BitVec.toNat_ofNat, Nat.mod_eq_of_lt hword, if_pos rfl,
        BitVec.toNat_allOnes]

/-! ### Steps -/

/-- Elements have one value if they stand at one place. -/
theorem value_eq_iff (hf : FloatFormat.ofWidth? bits = some f) (ha : isNaN bits a = false)
    (hb : isNaN bits b = false) :
    (f.decode (pattern bits a)).value = (f.decode (pattern bits b)).value ↔
      f.place (pattern bits a) = f.place (pattern bits b) := by
  rw [isNaN_eq hf] at ha hb
  have hpos := infinity_pos hf
  rw [FloatFormat.value_decode hpos ha, FloatFormat.value_decode hpos hb]
  exact f.strictMonoOn_valueAt.injOn.eq_iff (FloatFormat.place_mem ha) (FloatFormat.place_mem hb)

/-- The distance of the places is the number of steps between the values. -/
theorem steps_eq (hf : FloatFormat.ofWidth? bits = some f) (ha : isNaN bits a = false)
    (hb : isNaN bits b = false) :
    f.steps (f.decode (pattern bits a)).value (f.decode (pattern bits b)).value =
      (f.place (pattern bits a) - f.place (pattern bits b)).natAbs := by
  rw [isNaN_eq hf] at ha hb
  have hpos := infinity_pos hf
  rw [FloatFormat.value_decode hpos ha, FloatFormat.value_decode hpos hb]
  exact FloatFormat.steps_valueAt hpos (FloatFormat.place_mem ha) (FloatFormat.place_mem hb)

/-! ### Zeros -/

/-- Numbers of different signs of which one is a zero and the other is not. -/
def Across (f : FloatFormat) (x y : Nat) : Prop :=
  f.isNegative x ≠ f.isNegative y ∧ (f.place x = 0 ↔ f.place y ≠ 0)

instance (f : FloatFormat) (x y : Nat) : Decidable (Across f x y) :=
  inferInstanceAs (Decidable (_ ∧ _))

/-- Numbers of different signs at one place are the two zeros. -/
theorem place_eq_zero (hsign : f.isNegative x ≠ f.isNegative y) (hplace : f.place x = f.place y) :
    f.place x = 0 := by
  rw [FloatFormat.place, FloatFormat.place] at hplace
  rw [FloatFormat.place]
  cases hx : f.isNegative x <;> cases hy : f.isNegative y <;> simp only [hx, hy] at hsign hplace ⊢
  · exact absurd rfl hsign
  · simp only [Bool.false_eq_true, if_false, if_true] at hplace ⊢
    omega
  · simp only [Bool.false_eq_true, if_false, if_true] at hplace ⊢
    omega
  · exact absurd rfl hsign

/-- Apart from a zero and a number of the other sign, the distance is the number of steps, unless the
signs differ. -/
theorem toNat_ofBits_of_not_across (hf : FloatFormat.ofWidth? bits = some f)
    (ha : isNaN bits a = false) (hb : isNaN bits b = false)
    (h : ¬ Across f (pattern bits a) (pattern bits b)) :
    (ofBits bits a b).toNat =
      if f.isNegative (pattern bits a) ≠ f.isNegative (pattern bits b) ∧
        f.place (pattern bits a) ≠ 0 ∧ f.place (pattern bits b) ≠ 0 then 2 ^ 64 - 1
      else (f.place (pattern bits a) - f.place (pattern bits b)).natAbs := by
  rw [toNat_ofBits hf ha hb]
  generalize pattern bits a = x at *
  generalize pattern bits b = y at *
  by_cases hplace : f.place x = f.place y
  · have hcomparable : ¬ (f.isNegative x ≠ f.isNegative y ∧ f.place x ≠ 0 ∧ f.place y ≠ 0) :=
      fun hall => hall.2.1 (place_eq_zero hall.1 hplace)
    rw [if_pos hplace, if_neg hcomparable, hplace, Int.sub_self, Int.natAbs_zero]
  · by_cases hsign : f.isNegative x = f.isNegative y
    · rw [if_neg hplace, if_pos hsign, if_neg fun hall => hall.1 hsign]
    · have hzero : ¬ (f.place x = 0 ↔ f.place y ≠ 0) := fun hone => h ⟨hsign, hone⟩
      rw [if_neg hplace, if_neg hsign, if_pos ⟨hsign, by omega, by omega⟩]

/-- A zero and a number of the other sign are as far apart as a word can say. -/
theorem toNat_ofBits_of_across (hf : FloatFormat.ofWidth? bits = some f)
    (ha : isNaN bits a = false) (hb : isNaN bits b = false)
    (h : Across f (pattern bits a) (pattern bits b)) :
    (ofBits bits a b).toNat = 2 ^ 64 - 1 ∧
      (f.place (pattern bits a) - f.place (pattern bits b)).natAbs < 2 ^ 64 - 1 := by
  rw [toNat_ofBits hf ha hb]
  rw [isNaN_eq hf] at ha hb
  have hword := unbounded_lt bits
  have hcounter := infinity_lt_unbounded hf
  have hx := (f.natAbs_place _).trans_le (FloatFormat.magnitude_le_of_not_nan ha)
  have hy := (f.natAbs_place _).trans_le (FloatFormat.magnitude_le_of_not_nan hb)
  obtain ⟨hsign, hzero⟩ := h
  rw [if_neg (by omega), if_neg hsign]
  exact ⟨rfl, by omega⟩

theorem ofBits_comm (hf : FloatFormat.ofWidth? bits = some f) (ha : isNaN bits a = false)
    (hb : isNaN bits b = false) : ofBits bits a b = ofBits bits b a := by
  apply BitVec.eq_of_toNat_eq
  rw [toNat_ofBits hf ha hb, toNat_ofBits hf hb ha]
  exact if_congr eq_comm rfl (if_congr eq_comm (by omega) rfl)

theorem ofBits_eq_zero_iff (hf : FloatFormat.ofWidth? bits = some f) (ha : isNaN bits a = false)
    (hb : isNaN bits b = false) :
    ofBits bits a b = 0 ↔ f.place (pattern bits a) = f.place (pattern bits b) := by
  have hzero : ofBits bits a b = 0 ↔ (ofBits bits a b).toNat = 0 := BitVec.toNat_inj.symm
  rw [hzero, toNat_ofBits hf ha hb]
  constructor
  · intro h
    by_contra hplace
    rw [if_neg hplace] at h
    split at h <;> omega
  · exact fun hplace => if_pos hplace

/-- The words of the two zeros. -/
theorem zeros_of_both_signs (hf : FloatFormat.ofWidth? bits = some f) :
    (isNaN bits 0 = false ∧ f.place (pattern bits 0) = 0 ∧ f.isNegative (pattern bits 0) = false) ∧
      isNaN bits (BitVec.ofNat 64 f.signBit) = false ∧
      f.place (pattern bits (BitVec.ofNat 64 f.signBit)) = 0 ∧
      f.isNegative (pattern bits (BitVec.ofNat 64 f.signBit)) = true := by
  rcases of_ofWidth? hf with ⟨rfl, rfl⟩ | ⟨rfl, rfl⟩ | ⟨rfl, rfl⟩ <;> decide

/-- Only zeros have one distance to both zeros. -/
theorem ofBits_zeros_iff (hf : FloatFormat.ofWidth? bits = some f) (hb : isNaN bits b = false) :
    ofBits bits 0 b = ofBits bits (BitVec.ofNat 64 f.signBit) b ↔ f.place (pattern bits b) = 0 := by
  obtain ⟨⟨hpos, hposPlace, hposSign⟩, hneg, hnegPlace, hnegSign⟩ := zeros_of_both_signs hf
  have hword := unbounded_lt bits
  have hcounter := infinity_lt_unbounded hf
  have hle := (f.natAbs_place _).trans_le (FloatFormat.magnitude_le_of_not_nan (isNaN_eq hf b ▸ hb))
  rw [← BitVec.toNat_inj, toNat_ofBits hf hpos hb, toNat_ofBits hf hneg hb, hposPlace, hnegPlace,
    hposSign, hnegSign]
  constructor
  · intro h
    by_contra hzero
    rw [if_neg (Ne.symm hzero), if_neg (Ne.symm hzero)] at h
    cases hsign : f.isNegative (pattern bits b) <;> simp [hsign] at h <;> omega
  · intro hzero
    rw [if_pos hzero.symm, if_pos hzero.symm]

/-- **The law of distances, and where it fails.** Numbers of different signs of which neither is zero
are incomparable, and all others are apart by the number of steps between their values, which is the
difference of their places: unless one is a zero and the other is a number of the other sign. Then the
distance is the largest word, although there are fewer steps. In any case distances are symmetric, and
zero between equal values only. The two zeros have the same distance to each zero, and to no other
number. -/
theorem ofBits_law {bits : Nat} {f : FloatFormat} (hf : FloatFormat.ofWidth? bits = some f)
    {a b : Word} (ha : isNaN bits a = false) (hb : isNaN bits b = false) :
    let x := pattern bits a
    let y := pattern bits b
    (¬ Across f x y → (ofBits bits a b).toNat =
      if f.isNegative x ≠ f.isNegative y ∧ f.place x ≠ 0 ∧ f.place y ≠ 0 then 2 ^ 64 - 1
      else (f.place x - f.place y).natAbs) ∧
    (Across f x y → (ofBits bits a b).toNat = 2 ^ 64 - 1 ∧
      (f.place x - f.place y).natAbs < 2 ^ 64 - 1) ∧
    f.steps (f.decode x).value (f.decode y).value = (f.place x - f.place y).natAbs ∧
    ofBits bits a b = ofBits bits b a ∧
    (ofBits bits a b = 0 ↔ (f.decode x).value = (f.decode y).value) ∧
    (ofBits bits 0 b = ofBits bits (BitVec.ofNat 64 f.signBit) b ↔ f.place y = 0) := by
  intro x y
  refine ⟨toNat_ofBits_of_not_across hf ha hb, toNat_ofBits_of_across hf ha hb, steps_eq hf ha hb,
    ofBits_comm hf ha hb, ?_, ofBits_zeros_iff hf hb⟩
  rw [value_eq_iff hf ha hb, ofBits_eq_zero_iff hf ha hb]

/-- The least subnormals of single precision, on either side of zero, and the negative zero between
them. -/
theorem ofBits_law_subnormal :
    let f := FloatFormat.binary32
    FloatFormat.ofWidth? 32 = some f ∧ isNaN 32 0x80000000 = false ∧
      isNaN 32 0x80000001 = false ∧ isNaN 32 1 = false ∧
      (ofBits 32 0x80000000 0x80000001).toNat = 1 ∧ (ofBits 32 0x80000000 1).toNat = 2 ^ 64 - 1 ∧
      (ofBits 32 0x80000001 1).toNat = 2 ^ 64 - 1 ∧
      f.steps (f.decode 0x80000001).value (f.decode 1).value = 2 := by
  intro f
  have hf : FloatFormat.ofWidth? 32 = some f := rfl
  have hzero : isNaN 32 0x80000000 = false := by decide
  have hbelow : isNaN 32 0x80000001 = false := by decide
  have habove : isNaN 32 1 = false := by decide
  obtain ⟨hsteps, -⟩ := ofBits_law hf hzero hbelow
  obtain ⟨-, hacross, -⟩ := ofBits_law hf hzero habove
  obtain ⟨hsigns, -, hcount, -⟩ := ofBits_law hf hbelow habove
  refine ⟨hf, hzero, hbelow, habove, (hsteps (by decide)).trans (by decide),
    (hacross (by decide)).1, (hsigns (by decide)).trans (by decide), hcount.trans (by decide)⟩

/-- From positive zero to the least negative number there is one step, but they are as far apart as a
word can say, while negative zero is one step away from that number. -/
theorem ofBits_zero_negative :
    let f := FloatFormat.binary32
    isNaN 32 0 = false ∧ isNaN 32 0x80000001 = false ∧ f.place 0 = 0 ∧
      (f.place 0 - f.place 0x80000001).natAbs = 1 ∧
      ofBits 32 0 0x80000001 = BitVec.allOnes 64 ∧ ofBits 32 0x80000000 0x80000001 = 1 := by
  decide

end Ulp

end Crosscheck
