import Crosscheck.Proofs.Compare
import Crosscheck.Proofs.Float.Distance

/-!
# Crosscheck.Proofs.Compare.Acceptance

**Which elements are accepted.** Elements are accepted if they are equal, as floats also if both are NaN
or if they are numbers within a positive tolerance (`Comparator.accepts_iff`). A distance that is within
a tolerance below the largest one is that of two zeros or of numbers of one sign, so acceptance can be
read off signs and magnitudes (`Ulp.ofBits_le_iff`). It is reflexive, symmetric and monotone in the
tolerance for all types (`Comparator.accepts_law`).
-/

namespace Crosscheck

open FloatElement

namespace Ulp

variable {bits x y : Nat} {f : FloatFormat} {a b tolerance : Word}

theorem magnitude_eq_zero_iff (f : FloatFormat) (p : Nat) : f.magnitude p = 0 ↔ f.place p = 0 := by
  rw [← f.natAbs_place, Int.natAbs_eq_zero]

/-- Numbers of one sign are as far apart as their magnitudes. -/
theorem natAbs_sub_place (h : f.isNegative x = f.isNegative y) :
    (f.place x - f.place y).natAbs = ((f.magnitude x : Int) - f.magnitude y).natAbs := by
  rw [FloatFormat.place, FloatFormat.place, h]
  split <;> omega

/-- **Distances in terms of signs and magnitudes.** -/
theorem ofBits_le_iff (hf : FloatFormat.ofWidth? bits = some f) (ha : isNaN bits a = false)
    (hb : isNaN bits b = false) (htolerance : tolerance < BitVec.allOnes 64) :
    ofBits bits a b ≤ tolerance ↔
      (f.magnitude (pattern bits a) = 0 ∧ f.magnitude (pattern bits b) = 0) ∨
        (f.isNegative (pattern bits a) = f.isNegative (pattern bits b) ∧
          ((f.magnitude (pattern bits a) : Int) - f.magnitude (pattern bits b)).natAbs ≤
            tolerance.toNat) := by
  rw [BitVec.lt_def, BitVec.toNat_allOnes] at htolerance
  rw [BitVec.le_def, toNat_ofBits hf ha hb, magnitude_eq_zero_iff, magnitude_eq_zero_iff]
  generalize pattern bits a = x
  generalize pattern bits b = y
  by_cases hsign : f.isNegative x = f.isNegative y
  · rw [← natAbs_sub_place hsign, if_pos hsign]
    split <;> simp only [hsign, true_and] <;> omega
  · by_cases hplace : f.place x = f.place y
    · have hzero := place_eq_zero hsign hplace
      rw [if_pos hplace]
      exact iff_of_true (Nat.zero_le _) (.inl ⟨hzero, hplace ▸ hzero⟩)
    · rw [if_neg hplace, if_neg hsign]
      refine iff_of_false (by omega) ?_
      rintro (⟨hx, hy⟩ | ⟨hsame, -⟩)
      · exact hplace (hx.trans hy.symm)
      · exact hsign hsame

end Ulp

namespace Comparator

variable {t : ElementType} {maxUlp larger e a : Word} {f : FloatFormat}

/-- What is accepted, for elements of any type. -/
theorem accepts_iff : accepts t maxUlp e a = true ↔ t.truncate e = t.truncate a ∨
    (t.isFloat = true ∧
      ((isNaN t.bits (t.truncate e) = true ∧ isNaN t.bits (t.truncate a) = true) ∨
        (isNaN t.bits (t.truncate e) = false ∧ isNaN t.bits (t.truncate a) = false ∧
          0 < maxUlp ∧ Ulp.ofBits t.bits (t.truncate e) (t.truncate a) ≤ maxUlp))) := by
  simp only [accepts]
  generalize t.truncate e = e'
  generalize t.truncate a = a'
  by_cases heq : e' = a'
  · simp [heq]
  · cases t.isFloat <;> cases isNaN t.bits e' <;> cases isNaN t.bits a' <;> simp [heq]

theorem ofBits_comm (he : isNaN t.bits e = false) (ha : isNaN t.bits a = false) :
    Ulp.ofBits t.bits e a = Ulp.ofBits t.bits a e := by
  cases hf : FloatFormat.ofWidth? t.bits with
  | some f => exact Ulp.ofBits_comm hf he ha
  | none => simp only [Ulp.ofBits, Ulp.native, hf]

theorem accepts_comm (t : ElementType) (maxUlp e a : Word) :
    accepts t maxUlp e a = accepts t maxUlp a e := by
  have himp : ∀ v w, accepts t maxUlp v w = true → accepts t maxUlp w v = true := by
    intro v w h
    rcases accepts_iff.1 h with heq | ⟨hfloat, ⟨hv, hw⟩ | ⟨hv, hw, hpos, hle⟩⟩
    · exact accepts_iff.2 (.inl heq.symm)
    · exact accepts_iff.2 (.inr ⟨hfloat, .inl ⟨hw, hv⟩⟩)
    · exact accepts_iff.2 (.inr ⟨hfloat, .inr ⟨hw, hv, hpos, ofBits_comm hv hw ▸ hle⟩⟩)
  exact Bool.eq_iff_iff.2 ⟨himp e a, himp a e⟩

theorem accepts_mono (hle : maxUlp ≤ larger) (h : accepts t maxUlp e a = true) :
    accepts t larger e a = true := by
  rcases accepts_iff.1 h with heq | ⟨hfloat, hnan | ⟨he, ha, hpos, hdistance⟩⟩
  · exact accepts_iff.2 (.inl heq)
  · exact accepts_iff.2 (.inr ⟨hfloat, .inl hnan⟩)
  · exact accepts_iff.2 (.inr ⟨hfloat, .inr ⟨he, ha, Nat.lt_of_lt_of_le hpos hle,
      BitVec.le_trans hdistance hle⟩⟩)

theorem pattern_truncate (t : ElementType) (v : Word) :
    pattern t.bits (t.truncate v) = (t.truncate v).toNat :=
  congrArg BitVec.toNat (t.truncate_truncate v)

theorem isNaN_truncate (hf : FloatFormat.ofWidth? t.bits = some f) (v : Word) :
    isNaN t.bits (t.truncate v) = f.isNaN (t.truncate v).toNat := by
  rw [Ulp.isNaN_eq hf, pattern_truncate]

/-- **Which elements are accepted.** Let both be cut to the width of the type. Elements that are no floats
are accepted if they are equal. Floats of a width that has a format are accepted, below the largest
tolerance, if they are equal, if both are NaN, or if neither is NaN, the tolerance is positive, and both
are zeros or they have one sign and magnitudes within the tolerance. For all types, every element is
accepted for itself, which one is expected does not matter, and a larger tolerance accepts no less. -/
theorem accepts_law (t : ElementType) (e a : Word) :
    (∀ maxUlp, t.isFloat = false → (accepts t maxUlp e a = true ↔ t.truncate e = t.truncate a)) ∧
    (∀ f maxUlp, t.isFloat = true → FloatFormat.ofWidth? t.bits = some f →
      maxUlp < BitVec.allOnes 64 →
      let x := (t.truncate e).toNat
      let y := (t.truncate a).toNat
      (accepts t maxUlp e a = true ↔
        x = y ∨ (f.isNaN x = true ∧ f.isNaN y = true) ∨
        (f.isNaN x = false ∧ f.isNaN y = false ∧ 0 < maxUlp.toNat ∧
          ((f.magnitude x = 0 ∧ f.magnitude y = 0) ∨
            (f.isNegative x = f.isNegative y ∧
              ((f.magnitude x : Int) - f.magnitude y).natAbs ≤ maxUlp.toNat))))) ∧
    (∀ maxUlp, accepts t maxUlp e e = true) ∧
    (∀ maxUlp, accepts t maxUlp e a = accepts t maxUlp a e) ∧
    (∀ maxUlp larger, maxUlp ≤ larger → accepts t maxUlp e a = true →
      accepts t larger e a = true) := by
  refine ⟨fun maxUlp hfloat => ?_, fun f maxUlp hfloat hf hmax => ?_, fun maxUlp => ?_,
    fun maxUlp => accepts_comm t maxUlp e a, fun maxUlp larger => accepts_mono⟩
  · rw [accepts_iff, hfloat]
    simp
  · have hpos : 0 < maxUlp ↔ 0 < maxUlp.toNat := Iff.rfl
    have hnumbers := fun he ha =>
      Ulp.ofBits_le_iff hf ((isNaN_truncate hf e).trans he) ((isNaN_truncate hf a).trans ha) hmax
    rw [pattern_truncate, pattern_truncate] at hnumbers
    rw [accepts_iff, isNaN_truncate hf, isNaN_truncate hf, hpos, ← BitVec.toNat_inj]
    simp only [hfloat, true_and]
    exact or_congr_right (or_congr_right (and_congr_right fun he => and_congr_right fun ha =>
      and_congr_right fun _ => hnumbers he ha))
  · exact accepts_self t maxUlp e

/-- Single precision: the two zeros are accepted for one another at a tolerance of one and not at zero,
and so are the two least numbers of one sign, but not those on both sides of zero. -/
theorem accepts_law_zeros :
    let f32 := ElementType.ofWidth "f32" 32 .float
    f32.isFloat = true ∧ FloatFormat.ofWidth? f32.bits = some .binary32 ∧
      (0 : Word) < BitVec.allOnes 64 ∧ (1 : Word) < BitVec.allOnes 64 ∧
      accepts f32 0 0 0x80000000 = false ∧ accepts f32 1 0 0x80000000 = true ∧
      accepts f32 1 0x80000001 0x80000002 = true ∧ accepts f32 1 1 0x80000001 = false ∧
      accepts f32 1 0x7fc00000 0xffc00001 = true := by
  intro f32
  have hfloat : f32.isFloat = true := rfl
  have hf : FloatFormat.ofWidth? f32.bits = some .binary32 := rfl
  have hlaw := fun (maxUlp e a : Word) (hmax : maxUlp < BitVec.allOnes 64) =>
    (accepts_law f32 e a).2.1 .binary32 maxUlp hfloat hf hmax
  have hreject : ∀ {maxUlp e a : Word}, ¬ accepts f32 maxUlp e a = true →
      accepts f32 maxUlp e a = false := Bool.eq_false_iff.2
  refine ⟨hfloat, hf, by decide, by decide, hreject (mt (hlaw _ _ _ (by decide)).1 (by decide)),
    (hlaw _ _ _ (by decide)).2 (by decide), (hlaw _ _ _ (by decide)).2 (by decide),
    hreject (mt (hlaw _ _ _ (by decide)).1 (by decide)), (hlaw _ _ _ (by decide)).2 (by decide)⟩

end Comparator

end Crosscheck
