import Crosscheck.Matrix.Point
import Mathlib.Logic.Function.Basic

/-!
# Crosscheck.Proofs.Matrix.Seed

**Hashing a name loses nothing of the run's seed.** A step of the hash mixes a byte in and multiplies by an
odd constant. That constant has an inverse modulo the power of two, so `seedStepBack` takes the byte out
again, and taking out all bytes of a name, the last one first, is the inverse of hashing it
(`seedOf_eq_iff`). Different bytes make different steps. So names that differ in one byte have different
seeds: up to that byte their hashes are the same, and behind it they cannot meet again
(`seedOf_bijective_and_distinguishes`).
-/

namespace Crosscheck

/-- Lists of one length that differ at exactly one index are those that have all but one element in
common. -/
theorem differ_once_iff {as bs : List α} :
    as.length = bs.length ∧ (∃! i : Nat, as[i]? ≠ bs[i]?) ↔
      ∃ front a b back, a ≠ b ∧ as = front ++ a :: back ∧ bs = front ++ b :: back := by
  constructor
  · rintro ⟨hlength, i, hi, honly⟩
    have hsame : ∀ j, j ≠ i → as[j]? = bs[j]? := fun j hj => not_not.1 fun hne => hj (honly j hne)
    have has : i < as.length := by
      by_contra hge
      exact hi (by rw [List.getElem?_eq_none (by omega), List.getElem?_eq_none (by omega)])
    have hbs : i < bs.length := hlength ▸ has
    have hfront : as.take i = bs.take i := by
      apply List.ext_getElem?
      intro j
      rw [List.getElem?_take, List.getElem?_take]
      split
      · exact hsame j (by omega)
      · rfl
    have hback : as.drop (i + 1) = bs.drop (i + 1) := by
      apply List.ext_getElem?
      intro j
      rw [List.getElem?_drop, List.getElem?_drop, hsame _ (by omega)]
    refine ⟨as.take i, as[i], bs[i], as.drop (i + 1), fun heq => hi ?_, ?_, ?_⟩
    · rw [List.getElem?_eq_getElem has, List.getElem?_eq_getElem hbs, heq]
    · rw [List.getElem_cons_drop, List.take_append_drop]
    · rw [hfront, hback, List.getElem_cons_drop, List.take_append_drop]
  · rintro ⟨front, a, b, back, hne, rfl, rfl⟩
    refine ⟨by simp, front.length, by simpa using hne, fun j hj => ?_⟩
    by_contra hother
    refine hj ?_
    rcases Nat.lt_or_gt_of_ne hother with hlt | hgt
    · rw [List.getElem?_append_left hlt, List.getElem?_append_left hlt]
    · obtain ⟨k, hk⟩ : ∃ k, j - front.length = k + 1 := ⟨j - front.length - 1, by omega⟩
      rw [List.getElem?_append_right (by omega), List.getElem?_append_right (by omega), hk,
        List.getElem?_cons_succ, List.getElem?_cons_succ]

namespace Point

/-! ### One byte -/

/-- Multiplying by the constant of the hash is undone by multiplying by its inverse. -/
theorem mul_mul_inverse (hash : Word) : hash * 0x00000100000001b3 * 0xce965057aff6957b = hash := by
  have hinverse : (0x00000100000001b3 : Word) * 0xce965057aff6957b = 1#64 := by decide
  rw [BitVec.mul_assoc, hinverse, BitVec.mul_one]

theorem mul_inverse_mul (hash : Word) : hash * 0xce965057aff6957b * 0x00000100000001b3 = hash := by
  rw [BitVec.mul_assoc, BitVec.mul_comm 0xce965057aff6957b, ← BitVec.mul_assoc, mul_mul_inverse]

/-- Takes a byte out of the hash. -/
def seedStepBack (hash : Word) (byte : UInt8) : Word :=
  (hash * 0xce965057aff6957b) ^^^ BitVec.ofNat 64 byte.toNat

theorem seedStepBack_seedStep (hash : Word) (byte : UInt8) :
    seedStepBack (seedStep hash byte) byte = hash := by
  rw [seedStepBack, seedStep, mul_mul_inverse, BitVec.xor_assoc, BitVec.xor_self, BitVec.xor_zero]

theorem seedStep_seedStepBack (hash : Word) (byte : UInt8) :
    seedStep (seedStepBack hash byte) byte = hash := by
  rw [seedStepBack, seedStep, BitVec.xor_assoc, BitVec.xor_self, BitVec.xor_zero, mul_inverse_mul]

/-- Different bytes make different steps. -/
theorem seedStep_injective (hash : Word) : Function.Injective (seedStep hash) := by
  intro x y h
  have hmixed : hash ^^^ BitVec.ofNat 64 x.toNat = hash ^^^ BitVec.ofNat 64 y.toNat := by
    rw [← mul_mul_inverse (hash ^^^ BitVec.ofNat 64 x.toNat), ← seedStep, h, seedStep, mul_mul_inverse]
  have hword := congrArg BitVec.toNat ((BitVec.xor_right_inj hash).1 hmixed)
  have hx := x.toNat_lt
  have hy := y.toNat_lt
  rw [BitVec.toNat_ofNat, BitVec.toNat_ofNat] at hword
  exact UInt8.toNat_inj.1 (by omega)

/-! ### All bytes -/

/-- Taking out all bytes, the last one first, undoes hashing them. -/
theorem foldr_foldl_seedStep (bytes : List UInt8) (hash : Word) :
    bytes.foldr (fun byte hash => seedStepBack hash byte) (bytes.foldl seedStep hash) = hash := by
  induction bytes generalizing hash with
  | nil => rfl
  | cons byte bytes ih => rw [List.foldl_cons, List.foldr_cons, ih, seedStepBack_seedStep]

theorem foldl_foldr_seedStep (bytes : List UInt8) (hash : Word) :
    bytes.foldl seedStep (bytes.foldr (fun byte hash => seedStepBack hash byte) hash) = hash := by
  induction bytes with
  | nil => rfl
  | cons byte bytes ih => rw [List.foldr_cons, List.foldl_cons, seedStep_seedStepBack, ih]

/-- Hashes that differ never meet again. -/
theorem foldl_seedStep_injective (bytes : List UInt8) :
    Function.Injective fun hash => bytes.foldl seedStep hash :=
  Function.LeftInverse.injective
    (g := fun hash => bytes.foldr (fun byte hash => seedStepBack hash byte) hash) (foldr_foldl_seedStep bytes)

/-- Lists of bytes that differ in one place make different hashes. -/
theorem foldl_seedStep_ne (hash : Word) (front back : List UInt8) {x y : UInt8} (hne : x ≠ y) :
    (front ++ x :: back).foldl seedStep hash ≠ (front ++ y :: back).foldl seedStep hash := by
  intro h
  rw [List.foldl_append, List.foldl_append, List.foldl_cons, List.foldl_cons] at h
  exact hne (seedStep_injective _ (foldl_seedStep_injective back h))

/-- The seed of a run in which a name has a given seed. -/
def runSeedOf (seed : Word) (name : String) : Word :=
  0xcbf29ce484222325 ^^^ name.toUTF8.toList.foldr (fun byte hash => seedStepBack hash byte) seed

/-- **Every seed of a name comes from exactly one seed of the run.** -/
theorem seedOf_eq_iff {runSeed seed : Word} {name : String} :
    seedOf runSeed name = seed ↔ runSeed = runSeedOf seed name := by
  rw [seedOf, runSeedOf]
  constructor
  · rintro rfl
    rw [foldr_foldl_seedStep, ← BitVec.xor_assoc, BitVec.xor_self, BitVec.zero_xor]
  · rintro rfl
    rw [← BitVec.xor_assoc, BitVec.xor_self, BitVec.zero_xor, foldl_foldr_seedStep]

/-! ### Names that differ in one byte -/

/-- **Seeds of runs and names give distinct seeds of points.** For every name, whatever its length, the seed
of a point is a bijective function of the run's seed; and in one run, names of one length in bytes that
differ in exactly one byte have different seeds. -/
theorem seedOf_bijective_and_distinguishes :
    (∀ name, Function.Bijective fun runSeed => seedOf runSeed name) ∧
    ∀ (runSeed : Word) (a b : String), a.toUTF8.toList.length = b.toUTF8.toList.length →
      (∃! i : Nat, a.toUTF8.toList[i]? ≠ b.toUTF8.toList[i]?) → seedOf runSeed a ≠ seedOf runSeed b := by
  refine ⟨fun name => ?_, fun runSeed a b hlength hdiffer => ?_⟩
  · refine Function.bijective_iff_has_inverse.2 ⟨fun seed => runSeedOf seed name, fun s => ?_, fun s => ?_⟩
    · exact (seedOf_eq_iff.1 rfl).symm
    · exact seedOf_eq_iff.2 rfl
  · obtain ⟨front, x, y, back, hne, ha, hb⟩ := differ_once_iff.1 ⟨hlength, hdiffer⟩
    rw [seedOf, seedOf, ha, hb]
    exact foldl_seedStep_ne _ front back hne

/-- The points of two types whose names differ in a letter do not share their inputs. -/
theorem seedOf_bijective_and_distinguishes_siblings :
    "arith/add.u32".toUTF8.toList.length = "arith/add.s32".toUTF8.toList.length ∧
      (∃! i : Nat, "arith/add.u32".toUTF8.toList[i]? ≠ "arith/add.s32".toUTF8.toList[i]?) ∧
      seedOf 42 "arith/add.u32" ≠ seedOf 42 "arith/add.s32" := by
  have hu : "arith/add.u32".toUTF8.toList =
      [97, 114, 105, 116, 104, 47, 97, 100, 100, 46] ++ 117 :: [51, 50] := by decide +kernel
  have hs : "arith/add.s32".toUTF8.toList =
      [97, 114, 105, 116, 104, 47, 97, 100, 100, 46] ++ 115 :: [51, 50] := by decide +kernel
  obtain ⟨hlength, hdiffer⟩ := differ_once_iff.2 ⟨_, 117, 115, _, by decide, hu, hs⟩
  exact ⟨hlength, hdiffer, seedOf_bijective_and_distinguishes.2 42 _ _ hlength hdiffer⟩

end Point

end Crosscheck
