import Crosscheck.Catalog.ElementType
import Crosscheck.Proofs.Word.Insertion
import Mathlib.Algebra.Order.Ring.Int

/-!
# Crosscheck.Proofs.Word.Shift

**Shifts as arithmetic.** Under the clamping policy a shift multiplies or divides by a power of two,
whatever the amount is: from the width on, the remainder of the product and the quotient no longer
change (`Bitwise.clamp_eq_unbounded`).

A machine shifts words of 64 bits, by less than 64. `Bitwise.shiftLeft?` and `Bitwise.shiftRight?` are
the shifts of a width in terms of these, undefined where one of the amounts is out of range or a count
would be negative. Under no policy that happens (`Bitwise.shiftLeft?_eq`, `Bitwise.shiftRight?_eq`).

The masking policy keeps the bits of the amount that the width minus one has. That is the remainder of
the amount by the width if the width is a power of two, and for no other width
(`Bitwise.mask_eq_modulo_iff`).
-/

namespace Crosscheck

namespace Word

variable {bits n : Nat}

/-! ### Words as numbers -/

theorem toNat_low_shiftLeft (h64 : bits ≤ 64) (v : Word) (n : Nat) :
    (low bits (v <<< n)).toNat = v.toNat * 2 ^ n % 2 ^ bits := by
  rw [toNat_low h64, BitVec.toNat_shiftLeft, Nat.shiftLeft_eq,
    Nat.mod_mod_of_dvd _ (Nat.pow_dvd_pow 2 h64)]

theorem toNat_low_shiftRight (h64 : bits ≤ 64) (v : Word) (n : Nat) :
    (low bits v >>> n).toNat = v.toNat % 2 ^ bits / 2 ^ n := by
  rw [BitVec.toNat_ushiftRight, toNat_low h64, Nat.shiftRight_eq_div_pow]

theorem toNat_low_ofInt (h64 : bits ≤ 64) (z : Int) :
    ((low bits (BitVec.ofInt 64 z)).toNat : Int) = z % 2 ^ bits := by
  have hpos : (0 : Int) < ((2 ^ 64 : Nat) : Int) := by decide
  have hdvd : (2 ^ bits : Int) ∣ ((2 ^ 64 : Nat) : Int) := by
    push_cast
    exact pow_dvd_pow 2 h64
  rw [toNat_low h64, BitVec.toNat_ofInt, Int.natCast_emod,
    Int.toNat_of_nonneg (Int.emod_nonneg _ (Int.ne_of_gt hpos))]
  push_cast at hdvd ⊢
  exact Int.emod_emod_of_dvd _ hdvd

/-- From the sign bit on, quotients by powers of two are the sign. -/
theorem signed_div_of_le (v : Word) (h : bits - 1 ≤ n) :
    signed bits v / 2 ^ n = if signed bits v < 0 then -1 else 0 := by
  have hpow : (2 ^ (bits - 1) : Int) ≤ 2 ^ n := pow_le_pow_right₀ (by decide) h
  have hlow : -2 ^ (bits - 1) ≤ signed bits v := BitVec.le_toInt _
  have hhigh : signed bits v < 2 ^ (bits - 1) := BitVec.toInt_lt
  by_cases hneg : signed bits v < 0
  · rw [if_pos hneg]
    exact Int.ediv_eq_neg_one_of_neg_of_le hneg (by omega)
  · rw [if_neg hneg]
    exact Int.ediv_eq_zero_of_lt (by omega) (by omega)

/-! ### Machine shifts of signed words -/

/-- A shift to the right that fills in the sign bit, undefined from the size of a word on. -/
def arithmeticShiftRight? (v : Word) (amount : Nat) : Option Word :=
  if amount < 64 then some (v.sshiftRight amount) else none

/-- The low bits at the top of the word, and back again with the sign bit filling in. -/
def signExtend? (bits : Nat) (v : Word) : Option Word := do
  let distance ← difference? 64 bits
  let top ← shiftLeft? v distance
  arithmeticShiftRight? top distance

theorem sshiftRight_shiftLeft (hpos : 1 ≤ bits) (h64 : bits ≤ 64) (v : Word) :
    (v <<< (64 - bits)).sshiftRight (64 - bits) = (v.setWidth bits).signExtend 64 := by
  apply BitVec.eq_of_getLsbD_eq
  intro i hi
  rw [BitVec.getLsbD_sshiftRight, BitVec.getLsbD_signExtend, decide_eq_false (Nat.not_le.2 hi),
    decide_eq_true hi, Bool.not_false]
  by_cases hword : i < bits
  · have hin : 64 - bits + i < 64 := by omega
    have hup : ¬ 64 - bits + i < 64 - bits := by omega
    rw [if_pos hin, if_pos hword, BitVec.getLsbD_shiftLeft, BitVec.getLsbD_setWidth,
      decide_eq_true hin, decide_eq_false hup, decide_eq_true hword, Nat.add_sub_cancel_left]
    rfl
  · -- beyond the width there are copies of the sign bit
    have hout : ¬ 64 - bits + i < 64 := by omega
    have hup : ¬ 64 - 1 < 64 - bits := by omega
    have htop : 64 - 1 - (64 - bits) = bits - 1 := by omega
    have hlast : bits - 1 < bits := by omega
    rw [if_neg hout, if_neg hword, BitVec.msb_eq_getLsbD_last, BitVec.msb_eq_getLsbD_last,
      BitVec.getLsbD_shiftLeft, BitVec.getLsbD_setWidth, decide_eq_false hup, htop,
      decide_eq_true hlast, Bool.not_false, Bool.true_and]
    rfl

/-- Extending the sign takes shifts by less than 64 only. -/
theorem signExtend?_eq (hpos : 1 ≤ bits) (h64 : bits ≤ 64) (v : Word) :
    signExtend? bits v = some ((v.setWidth bits).signExtend 64) := by
  have hdistance : 64 - bits < 64 := by omega
  rw [signExtend?, difference?, if_pos h64, Option.bind_eq_bind, Option.bind_some, shiftLeft?,
    if_pos hdistance, Option.bind_eq_bind, Option.bind_some, arithmeticShiftRight?,
    if_pos hdistance, sshiftRight_shiftLeft hpos h64]

/-- What is shifted is the two's complement reading. -/
theorem arithmeticShiftRight?_signExtend (h64 : bits ≤ 64) (hn : n < 64) (v : Word) :
    arithmeticShiftRight? ((v.setWidth bits).signExtend 64) n =
      some (BitVec.ofInt 64 (signed bits v >>> n)) := by
  rw [arithmeticShiftRight?, if_pos hn, BitVec.sshiftRight, BitVec.toInt_signExtend_of_le h64, signed]

end Word

open Word

/-! ### Distances -/

namespace ShiftPolicy

variable {bits : Nat}

theorem effective_clamp (bits : Nat) (amount : Word) :
    clamp.effective bits amount =
      if bits ≤ amount.toNat % 2 ^ 32 then none else some (amount.toNat % 2 ^ 32) := by
  rw [effective, toNat_low (by decide)]

theorem effective_mask (bits : Nat) (amount : Word) :
    mask.effective bits amount = some (amount.toNat % 2 ^ 32 &&& (bits - 1)) := by
  rw [effective, toNat_low (by decide)]

/-- A distance is within the word. -/
theorem effective_lt (policy : ShiftPolicy) (hpos : 1 ≤ bits) {amount : Word} {n : Nat}
    (h : policy.effective bits amount = some n) : n < bits := by
  cases policy with
  | clamp =>
      rw [effective_clamp] at h
      split at h
      · cases h
      · cases h
        omega
  | mask =>
      rw [effective_mask, Option.some.injEq] at h
      have hle : amount.toNat % 2 ^ 32 &&& (bits - 1) ≤ bits - 1 := Nat.and_le_right
      omega

/-- Clamping lets an amount within the word be the distance. -/
theorem effective_clamp_ofNat (h64 : bits ≤ 64) {n : Nat} (h : n < bits) :
    clamp.effective bits (BitVec.ofNat 64 n) = some n := by
  have hamount : (BitVec.ofNat 64 n).toNat % 2 ^ 32 = n := by
    rw [BitVec.toNat_ofNat]
    omega
  rw [effective_clamp, hamount, if_neg (Nat.not_le.2 h)]

/-- The distance that bits really move, on a machine: the low half of the amount is cut out by a mask,
and the width minus one is a count. -/
def effective? (policy : ShiftPolicy) (bits : Nat) (amount : Word) : Option (Option Nat) := do
  let half ← maskByShift? 32
  let n := (amount &&& half).toNat
  match policy with
  | .clamp => some (if bits ≤ n then none else some n)
  | .mask => (difference? bits 1).map fun top => some (n &&& top)

theorem effective?_eq (policy : ShiftPolicy) (hpos : 1 ≤ bits) (amount : Word) :
    policy.effective? bits amount = some (policy.effective bits amount) := by
  rw [effective?, maskByShift?_eq (by decide) (by decide), Option.bind_eq_bind, Option.bind_some,
    and_lowMask]
  cases policy with
  | clamp => rfl
  | mask => simp only [difference?, if_pos hpos, Option.map_some, effective]

end ShiftPolicy

namespace Bitwise

variable {bits : Nat}

/-! ### Machine shifts -/

/-- Shift left by machine shifts and a mask, undefined where one of them is. -/
def shiftLeft? (policy : ShiftPolicy) (bits : Nat) (value amount : Word) : Option Word := do
  match ← policy.effective? bits amount with
  | some n =>
    let shifted ← Word.shiftLeft? value n
    let word ← maskByShift? bits
    some (shifted &&& word)
  | none => some 0

/-- Shift right by machine shifts and a mask, undefined where one of them is. -/
def shiftRight? (policy : ShiftPolicy) (bits : Nat) (signed : Bool) (value amount : Word) :
    Option Word := do
  let distance ← policy.effective? bits amount
  if signed then
    let extended ← signExtend? bits value
    let shifted ← match distance with
      | some n => arithmeticShiftRight? extended n
      | none => do
        let top ← difference? bits 1
        arithmeticShiftRight? extended top
    let word ← maskByShift? bits
    some (shifted &&& word)
  else
    match distance with
    | some n =>
      let word ← maskByShift? bits
      Word.shiftRight? (value &&& word) n
    | none => some 0

/-- **No shift to the left is by 64 or more.** -/
theorem shiftLeft?_eq (policy : ShiftPolicy) (hpos : 1 ≤ bits) (h64 : bits ≤ 64)
    (value amount : Word) :
    shiftLeft? policy bits value amount = some (shiftLeft policy bits value amount) := by
  rw [shiftLeft?, shiftLeft, policy.effective?_eq hpos, Option.bind_eq_bind, Option.bind_some]
  cases h : policy.effective bits amount with
  | none => rfl
  | some n =>
      have hn : n < 64 := Nat.lt_of_lt_of_le (policy.effective_lt hpos h) h64
      simp only [Word.shiftLeft?, if_pos hn, maskByShift?_eq hpos h64, Option.bind_eq_bind,
        Option.bind_some, and_lowMask]

/-- **No shift to the right is by 64 or more**, of the operand, for its sign or for a mask. -/
theorem shiftRight?_eq (policy : ShiftPolicy) (hpos : 1 ≤ bits) (h64 : bits ≤ 64) (signed : Bool)
    (value amount : Word) :
    shiftRight? policy bits signed value amount =
      some (shiftRight policy bits signed value amount) := by
  have hdistance : ∀ n, policy.effective bits amount = some n → n < 64 := fun n h =>
    Nat.lt_of_lt_of_le (policy.effective_lt hpos h) h64
  have htop : bits - 1 < 64 := by omega
  rw [shiftRight?, shiftRight, policy.effective?_eq hpos, Option.bind_eq_bind, Option.bind_some]
  cases signed with
  | true =>
      simp only [if_true, signExtend?_eq hpos h64, maskByShift?_eq hpos h64, Option.bind_eq_bind,
        Option.bind_some]
      cases h : policy.effective bits amount with
      | none =>
          simp only [difference?, if_pos hpos, arithmeticShiftRight?_signExtend h64 htop,
            Option.bind_some, and_lowMask, Option.getD_none]
      | some n =>
          simp only [arithmeticShiftRight?_signExtend h64 (hdistance n h), Option.bind_some,
            and_lowMask, Option.getD_some]
  | false =>
      simp only [Bool.false_eq_true, if_false]
      cases h : policy.effective bits amount with
      | none => rfl
      | some n =>
          simp only [maskByShift?_eq hpos h64, Option.bind_eq_bind, Option.bind_some, and_lowMask,
            Word.shiftRight?, if_pos (hdistance n h)]

/-! ### Clamped amounts -/

theorem toNat_shiftLeft_clamp (h64 : bits ≤ 64) (value amount : Word) :
    (shiftLeft .clamp bits value amount).toNat =
      value.toNat * 2 ^ (amount.toNat % 2 ^ 32) % 2 ^ bits := by
  rw [shiftLeft, ShiftPolicy.effective_clamp]
  generalize amount.toNat % 2 ^ 32 = n
  by_cases h : bits ≤ n
  · -- the product is a multiple of the power of the width
    have hdvd : 2 ^ bits ∣ value.toNat * 2 ^ n := Nat.dvd_mul_left_of_dvd (Nat.pow_dvd_pow 2 h) _
    rw [if_pos h, Nat.mod_eq_zero_of_dvd hdvd]
    rfl
  · rw [if_neg h]
    exact toNat_low_shiftLeft h64 value n

theorem toNat_shiftRight_clamp_unsigned (h64 : bits ≤ 64) (value amount : Word) :
    (shiftRight .clamp bits false value amount).toNat =
      value.toNat % 2 ^ bits / 2 ^ (amount.toNat % 2 ^ 32) := by
  simp only [shiftRight, ShiftPolicy.effective_clamp, Bool.false_eq_true, if_false]
  generalize amount.toNat % 2 ^ 32 = n
  by_cases h : bits ≤ n
  · have hlt : value.toNat % 2 ^ bits < 2 ^ n :=
      Nat.lt_of_lt_of_le (Nat.mod_lt _ (Nat.two_pow_pos bits)) (Nat.pow_le_pow_right (by decide) h)
    rw [if_pos h, Nat.div_eq_of_lt hlt]
    rfl
  · rw [if_neg h]
    exact toNat_low_shiftRight h64 value n

theorem toNat_shiftRight_clamp_signed (h64 : bits ≤ 64) (value amount : Word) :
    ((shiftRight .clamp bits true value amount).toNat : Int) =
      Word.signed bits value / 2 ^ (amount.toNat % 2 ^ 32) % 2 ^ bits := by
  simp only [shiftRight, ShiftPolicy.effective_clamp, if_true, toNat_low_ofInt h64,
    Int.shiftRight_eq_div_pow]
  generalize amount.toNat % 2 ^ 32 = n
  push_cast
  by_cases h : bits ≤ n
  · -- only copies of the sign are left, as after one place less than the width
    rw [if_pos h, Option.getD_none, signed_div_of_le value (Nat.le_refl _),
      signed_div_of_le value (by omega)]
  · rw [if_neg h, Option.getD_some]

/-- **Clamped shifts are unbounded shifts**, for every width up to 64 bits, every word and every amount.
Let `n` be the low 32 bits of the amount. To the left, the result is the product with the `n`-th power
of two, modulo the power of the width; to the right it is the quotient by that power, rounded down, of
the low bits read as a natural or, for signed operands, in two's complement. No machine shift that it
takes is by 64 or more. -/
theorem clamp_eq_unbounded {bits : Nat} (hpos : 1 ≤ bits) (h64 : bits ≤ 64) (value amount : Word) :
    let n := amount.toNat % 2 ^ 32
    (shiftLeft .clamp bits value amount).toNat = value.toNat * 2 ^ n % 2 ^ bits ∧
      (shiftRight .clamp bits false value amount).toNat = value.toNat % 2 ^ bits / 2 ^ n ∧
      ((shiftRight .clamp bits true value amount).toNat : Int) =
        Word.signed bits value / 2 ^ n % 2 ^ bits ∧
      shiftLeft? .clamp bits value amount = some (shiftLeft .clamp bits value amount) ∧
      ∀ signed, shiftRight? .clamp bits signed value amount =
        some (shiftRight .clamp bits signed value amount) := by
  intro n
  refine ⟨toNat_shiftLeft_clamp h64 value amount, toNat_shiftRight_clamp_unsigned h64 value amount,
    toNat_shiftRight_clamp_signed h64 value amount, ?_, fun signed => ?_⟩
  · exact shiftLeft?_eq .clamp hpos h64 value amount
  · exact shiftRight?_eq .clamp hpos h64 signed value amount

/-- A word with its sign bit set and a bit beyond the width, and an amount with a bit above the low 32:
the whole word is shifted out. -/
theorem clamp_eq_unbounded_beyond :
    let value : Word := 0x1_8000_0001
    let amount : Word := 0x1_0000_0028
    1 ≤ 32 ∧ 32 ≤ 64 ∧
      (shiftLeft .clamp 32 value amount).toNat = 0x1_8000_0001 * 2 ^ 40 % 2 ^ 32 ∧
      (shiftRight .clamp 32 false value amount).toNat = 0x8000_0001 / 2 ^ 40 ∧
      ((shiftRight .clamp 32 true value amount).toNat : Int) = (-0x7fff_ffff) / 2 ^ 40 % 2 ^ 32 ∧
      shiftRight? .clamp 32 true value amount = some 0xffff_ffff := by
  intro value amount
  have hpos : 1 ≤ 32 := by decide
  have h64 : 32 ≤ 64 := by decide
  have hvalue : value.toNat = 0x1_8000_0001 := by decide
  have hsigned : Word.signed 32 value = -0x7fff_ffff := by decide
  have hamount : amount.toNat % 2 ^ 32 = 40 := by decide
  obtain ⟨hleft, hlogical, harithmetic, -, hmachine⟩ := clamp_eq_unbounded hpos h64 value amount
  rw [hamount] at hleft hlogical harithmetic
  rw [hvalue] at hleft hlogical
  rw [hsigned] at harithmetic
  exact ⟨hpos, h64, hleft, hlogical, harithmetic, (hmachine true).trans (by decide)⟩

/-! ### Masked amounts -/

/-- Shifts to either side go by the distance. -/
theorem shift_of_effective {p q : ShiftPolicy} {a b : Word}
    (h : p.effective bits a = q.effective bits b) (value : Word) :
    shiftLeft p bits value a = shiftLeft q bits value b ∧
      ∀ signed, shiftRight p bits signed value a = shiftRight q bits signed value b := by
  simp only [shiftLeft, shiftRight, h, implies_true, and_self]

/-- The masking policy shifts as the clamping one does by what `reduce` makes of the low 32 bits of the
amount. -/
def MaskReduces (bits : Nat) (reduce : Nat → Nat) : Prop :=
  ∀ value amount : Word,
    let reduced := BitVec.ofNat 64 (reduce (amount.toNat % 2 ^ 32))
    shiftLeft .mask bits value amount = shiftLeft .clamp bits value reduced ∧
      ∀ signed, shiftRight .mask bits signed value amount =
        shiftRight .clamp bits signed value reduced

/-- Both policies shift alike by amounts within the word. -/
def PoliciesAgree (bits : Nat) : Prop :=
  ∀ value amount : Word, amount.toNat % 2 ^ 32 < bits →
    shiftLeft .mask bits value amount = shiftLeft .clamp bits value amount ∧
      ∀ signed, shiftRight .mask bits signed value amount =
        shiftRight .clamp bits signed value amount

/-- What the masking policy makes of an amount, on every width. -/
theorem maskReduces_and (hpos : 1 ≤ bits) (h64 : bits ≤ 64) :
    MaskReduces bits (· &&& (bits - 1)) := by
  intro value amount
  refine shift_of_effective ?_ value
  have hlt : amount.toNat % 2 ^ 32 &&& (bits - 1) < bits :=
    Nat.lt_of_le_of_lt Nat.and_le_right (Nat.sub_lt hpos Nat.one_pos)
  rw [ShiftPolicy.effective_mask, ShiftPolicy.effective_clamp_ofNat h64 hlt]

theorem maskReduces_mod (hpos : 1 ≤ bits) (h64 : bits ≤ 64) (h : bits.isPowerOfTwo) :
    MaskReduces bits (· % bits) := by
  obtain ⟨k, rfl⟩ := h
  have hreduce : (fun n => n &&& (2 ^ k - 1)) = fun n => n % 2 ^ k :=
    funext fun n => Nat.and_two_pow_sub_one_eq_mod n k
  exact hreduce ▸ maskReduces_and hpos h64

theorem policiesAgree_of_maskReduces (h64 : bits ≤ 64) (h : MaskReduces bits (· % bits)) :
    PoliciesAgree bits := by
  intro value amount hlt
  obtain ⟨hleft, hright⟩ := h value amount
  have hdistance : ShiftPolicy.clamp.effective bits (BitVec.ofNat 64 (amount.toNat % 2 ^ 32 % bits)) =
      ShiftPolicy.clamp.effective bits amount := by
    rw [Nat.mod_eq_of_lt hlt, ShiftPolicy.effective_clamp_ofNat h64 hlt, ShiftPolicy.effective_clamp,
      if_neg (Nat.not_le.2 hlt)]
  obtain ⟨hleft', hright'⟩ := shift_of_effective hdistance value
  exact ⟨hleft.trans hleft', fun signed => (hright signed).trans (hright' signed)⟩

/-- Where the policies agree, no bit of an amount within the word is lost: shifted to the left, a single
bit tells the distance. -/
theorem and_pred_of_policiesAgree (hpos : 1 ≤ bits) (h64 : bits ≤ 64) (h : PoliciesAgree bits)
    {n : Nat} (hn : n < bits) : n &&& (bits - 1) = n := by
  have hlow : (BitVec.ofNat 64 n).toNat % 2 ^ 32 = n := by
    rw [BitVec.toNat_ofNat]
    omega
  have hmasked : n &&& (bits - 1) < bits :=
    Nat.lt_of_le_of_lt Nat.and_le_right (Nat.sub_lt hpos Nat.one_pos)
  have hsingle : ∀ d, d < bits → (low bits ((1 : Word) <<< d)).toNat = 2 ^ d := by
    intro d hd
    have hone : (1 : Word).toNat * 2 ^ d = 2 ^ d := Nat.one_mul _
    rw [toNat_low_shiftLeft h64, hone, Nat.mod_eq_of_lt (Nat.pow_lt_pow_right (by decide) hd)]
  have hleft := congrArg BitVec.toNat (h 1 (BitVec.ofNat 64 n) (by omega)).1
  simp only [shiftLeft, ShiftPolicy.effective_mask, ShiftPolicy.effective_clamp_ofNat h64 hn,
    hlow] at hleft
  rw [hsingle _ hmasked, hsingle _ hn] at hleft
  exact Nat.pow_right_injective (Nat.le_refl 2) hleft

end Bitwise

/-- A number below which the bits of its predecessor lose nothing is a power of two: the predecessor has
all the bits below its highest one. -/
theorem isPowerOfTwo_of_and_pred {w : Nat} (hpos : 1 ≤ w) (h : ∀ n, n < w → n &&& (w - 1) = n) :
    w.isPowerOfTwo := by
  have hlow : 2 ^ w.log2 ≤ w := Nat.log2_self_le (Nat.ne_of_gt hpos)
  have hhigh : w < 2 ^ (w.log2 + 1) := Nat.lt_log2_self
  rw [Nat.pow_succ] at hhigh
  have hk : 0 < 2 ^ w.log2 := Nat.two_pow_pos _
  have hkept := h (2 ^ w.log2 - 1) (by omega)
  rw [Nat.and_comm, Nat.and_two_pow_sub_one_eq_mod] at hkept
  refine ⟨w.log2, ?_⟩
  by_contra hne
  have hmod : (w - 1) % 2 ^ w.log2 = w - 1 - 2 ^ w.log2 := by
    rw [Nat.mod_eq_sub_mod (by omega), Nat.mod_eq_of_lt (by omega)]
  omega

namespace Bitwise

/-- **The masking policy reduces amounts modulo the width if the width is a power of two**, and for no
other width; nor do the policies agree on the amounts within the word for any other width. On every
width the amount that counts has the bits that its low 32 bits share with the width minus one. -/
theorem mask_eq_modulo_iff {bits : Nat} (hpos : 1 ≤ bits) (h64 : bits ≤ 64) :
    MaskReduces bits (· &&& (bits - 1)) ∧
      (MaskReduces bits (· % bits) ↔ bits.isPowerOfTwo) ∧
      (PoliciesAgree bits ↔ bits.isPowerOfTwo) := by
  have hagree : PoliciesAgree bits → bits.isPowerOfTwo := fun h =>
    isPowerOfTwo_of_and_pred hpos fun _ hn => and_pred_of_policiesAgree hpos h64 h hn
  refine ⟨maskReduces_and hpos h64, ⟨fun h => ?_, maskReduces_mod hpos h64⟩, hagree, fun h => ?_⟩
  · exact hagree (policiesAgree_of_maskReduces h64 h)
  · exact policiesAgree_of_maskReduces h64 (maskReduces_mod hpos h64 h)

/-- Words of 32 bits, by an amount with bits above the low 32. -/
theorem mask_eq_modulo_iff_word :
    let amount : Word := 0x1_0000_0023
    1 ≤ 32 ∧ 32 ≤ 64 ∧ Nat.isPowerOfTwo 32 ∧
      shiftLeft .mask 32 1 amount = shiftLeft .clamp 32 1 3 ∧
      shiftRight .mask 32 true 0x8000_0000 amount = shiftRight .clamp 32 true 0x8000_0000 3 ∧
      shiftLeft .mask 32 1 31 = shiftLeft .clamp 32 1 31 := by
  intro amount
  have hpos : 1 ≤ 32 := by decide
  have h64 : 32 ≤ 64 := by decide
  have hpower : Nat.isPowerOfTwo 32 := ⟨5, rfl⟩
  obtain ⟨-, hmodulo, hagree⟩ := mask_eq_modulo_iff hpos h64
  -- the remainder by the width is three
  have hreduced : BitVec.ofNat 64 (amount.toNat % 2 ^ 32 % 32) = 3 := by decide
  have hleft := (hmodulo.2 hpower 1 amount).1
  have hright := (hmodulo.2 hpower 0x8000_0000 amount).2 true
  simp only [hreduced] at hleft hright
  exact ⟨hpos, h64, hpower, hleft, hright, (hagree.2 hpower 1 31 (by decide)).1⟩

/-- A type of three bytes can be catalogued, and the shift of one by eight places, which is within the
word, is no shift at all under the masking policy. -/
theorem mask_loses_amount :
    (ElementType.ofWidth "b24" 24 .bits).WellFormed ∧
      shiftLeft .mask 24 1 8 = 1 ∧ shiftLeft .clamp 24 1 8 = 0x100 ∧ 8 % 2 ^ 32 % 24 = 8 ∧
      ¬ MaskReduces 24 (· % 24) ∧ ¬ PoliciesAgree 24 := by
  have hleft : shiftLeft .mask 24 1 8 = 1 := by decide
  have hclamp : shiftLeft .clamp 24 1 8 = 0x100 := by decide
  have hne : shiftLeft .mask 24 1 8 ≠ shiftLeft .clamp 24 1 8 := by
    rw [hleft, hclamp]
    decide
  exact ⟨by decide, hleft, hclamp, by decide, fun h => hne (h 1 8).1,
    fun h => hne (h 1 8 (by decide)).1⟩

end Bitwise

end Crosscheck
