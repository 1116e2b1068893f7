import Crosscheck.Catalog.Operation
import Crosscheck.Proofs.Float.Range
import Crosscheck.Proofs.Word.BitField
import Crosscheck.Word.Bitwise
import Crosscheck.Word.Integer

/-!
# Crosscheck.Proofs.Word.Confinement

**Kernels work on the significant bits only.** A kernel is confined to a width if it ignores the bits
of its operands beyond the width and sets no such bits in its result. Kernels get there in different
ways: most cut what they compute, some compare cut operands, others gather their result bit by bit.
All are confined (`Word.confined_kernels`) but one: floating-point negation flips the sign bit and
leaves the rest of the word as it is, so that what stands beyond the width passes through it.
-/

namespace Crosscheck

namespace Word

variable {bits n : Nat} {a b v : Word}

/-! ### Confinement -/

/-- A kernel of one operand ignores the bits of the operand beyond the width, and sets none. -/
def Confined₁ (bits : Nat) (f : Word → Word) : Prop :=
  ∀ a, f (low bits a) = f a ∧ (f a).toNat < 2 ^ bits

/-- A kernel of two operands ignores the bits of the operands beyond the width, which for the second
operand may be a different one, and sets none. -/
def Confined₂ (bits secondBits : Nat) (f : Word → Word → Word) : Prop :=
  ∀ a b, f (low bits a) (low secondBits b) = f a b ∧ (f a b).toNat < 2 ^ bits

/-- A kernel of three operands ignores the bits of the operands beyond the width, and sets none. -/
def Confined₃ (bits : Nat) (f : Word → Word → Word → Word) : Prop :=
  ∀ a b c, f (low bits a) (low bits b) (low bits c) = f a b c ∧ (f a b c).toNat < 2 ^ bits

/-! ### Words within a width -/

theorem toNat_lt_of_low_eq (h64 : bits ≤ 64) (h : low bits v = v) : v.toNat < 2 ^ bits :=
  h ▸ toNat_low_lt h64 v

/-- A word is within a width if all bits beyond it are clear. -/
theorem toNat_lt_of_getLsbD (h64 : bits ≤ 64) (h : ∀ i, bits ≤ i → v.getLsbD i = false) :
    v.toNat < 2 ^ bits := by
  refine toNat_lt_of_low_eq h64 (BitVec.eq_of_getLsbD_eq fun i hi => ?_)
  rw [getLsbD_low]
  by_cases hbits : i < bits
  · simp [hi, hbits]
  · simp [h i (Nat.le_of_not_lt hbits)]

theorem toNat_zero_lt : (0 : Word).toNat < 2 ^ bits :=
  Nat.two_pow_pos bits

theorem toNat_gather_lt (h64 : n ≤ 64) (f : Nat → Bool) : (gather f n).toNat < 2 ^ n := by
  refine toNat_lt_of_getLsbD h64 fun i hi => ?_
  simp [getLsbD_gather, Nat.not_lt.2 hi]

theorem gather_congr {f g : Nat → Bool} (h : ∀ i, i < n → f i = g i) : gather f n = gather g n := by
  apply BitVec.eq_of_getLsbD_eq
  intro i _
  rw [getLsbD_gather, getLsbD_gather]
  by_cases hi : i < n
  · rw [h i hi]
  · simp [hi]

theorem getLsbD_low_of_lt (h64 : bits ≤ 64) {i : Nat} (hi : i < bits) (v : Word) :
    (low bits v).getLsbD i = v.getLsbD i := by
  have hi64 : i < 64 := Nat.lt_of_lt_of_le hi h64
  rw [getLsbD_low, decide_eq_true hi, decide_eq_true hi64, Bool.true_and, Bool.true_and]

/-! ### Kernels that cut what they compute -/

section Cut

variable (h64 : bits ≤ 64)

include h64

theorem setWidth_low (v : Word) : (low bits v).setWidth bits = v.setWidth bits := by
  rw [low, BitVec.setWidth_setWidth (by omega), BitVec.setWidth_eq]

theorem low_eq_low_iff : low bits a = low bits b ↔ a.setWidth bits = b.setWidth bits :=
  ⟨fun h => by rw [← setWidth_low h64 a, h, setWidth_low h64], fun h => by rw [low, h, low]⟩

/-- What cuts the result of an operation is confined if the operation has a counterpart on the words
of the width. -/
theorem confined₁_low {op : Word → Word} {g : BitVec bits → BitVec bits}
    (h : ∀ a, (op a).setWidth bits = g (a.setWidth bits)) :
    Confined₁ bits fun a => low bits (op a) := by
  refine fun a => ⟨?_, toNat_low_lt h64 _⟩
  simp only [low_eq_low_iff h64, h, setWidth_low h64]

theorem confined₂_low {op : Word → Word → Word} {g : BitVec bits → BitVec bits → BitVec bits}
    (h : ∀ a b, (op a b).setWidth bits = g (a.setWidth bits) (b.setWidth bits)) :
    Confined₂ bits bits fun a b => low bits (op a b) := by
  refine fun a b => ⟨?_, toNat_low_lt h64 _⟩
  simp only [low_eq_low_iff h64, h, setWidth_low h64]

theorem confined₃_low {op : Word → Word → Word → Word}
    {g : BitVec bits → BitVec bits → BitVec bits → BitVec bits}
    (h : ∀ a b c, (op a b c).setWidth bits =
      g (a.setWidth bits) (b.setWidth bits) (c.setWidth bits)) :
    Confined₃ bits fun a b c => low bits (op a b c) := by
  refine fun a b c => ⟨?_, toNat_low_lt h64 _⟩
  simp only [low_eq_low_iff h64, h, setWidth_low h64]

theorem signed_low (v : Word) : signed bits (low bits v) = signed bits v := by
  rw [signed, setWidth_low h64, signed]

/-- The low bits of a word that has been shifted to the left come from its low bits. -/
theorem low_shiftLeft_low (v : Word) (distance : Nat) :
    low bits (low bits v <<< distance) = low bits (v <<< distance) := by
  apply BitVec.eq_of_getLsbD_eq
  intro i _
  by_cases hi : i < bits
  · rw [getLsbD_low_of_lt h64 hi, getLsbD_low_of_lt h64 hi, BitVec.getLsbD_shiftLeft,
      BitVec.getLsbD_shiftLeft, getLsbD_low_of_lt h64 (by omega)]
  · simp [getLsbD_low, hi]

end Cut

end Word

open Word

/-- The distance of a shift depends on the low 32 bits of the amount. -/
theorem ShiftPolicy.effective_low (policy : ShiftPolicy) (bits : Nat) (amount : Word) :
    policy.effective bits (low 32 amount) = policy.effective bits amount := by
  simp only [effective, low_low]

variable {bits : Nat} (h64 : bits ≤ 64)

include h64

/-! ### Integers -/

namespace Integer

theorem confined_add : Confined₂ bits bits (add bits) :=
  confined₂_low h64 (g := (· + ·)) fun a b => BitVec.setWidth_add a b h64

theorem confined_sub : Confined₂ bits bits (sub bits) := by
  refine confined₂_low h64 (g := (· - ·)) fun a b => ?_
  simp only [BitVec.sub_eq_add_neg, BitVec.setWidth_add _ _ h64, BitVec.setWidth_neg_of_le h64]

theorem confined_mulLow : Confined₂ bits bits (mulLow bits) :=
  confined₂_low h64 (g := (· * ·)) fun a b => BitVec.setWidth_mul a b h64

theorem confined_mulAddLow : Confined₃ bits (mulAddLow bits) := by
  refine confined₃_low h64 (g := fun a b c => a * b + c) fun a b c => ?_
  simp only [BitVec.setWidth_add _ _ h64, BitVec.setWidth_mul _ _ h64]

theorem confined_neg : Confined₁ bits (neg bits) := by
  refine confined₁_low h64 (g := (- ·)) fun a => ?_
  have hneg : 0 - a = -a := BitVec.zero_sub a
  rw [hneg, BitVec.setWidth_neg_of_le h64]

/-- The order of two words is that of their low bits. -/
theorem lessThan_low (signed : Bool) (a b : Word) :
    lessThan bits signed (low bits a) (low bits b) = lessThan bits signed a b := by
  simp only [lessThan, signed_low h64, low_low]

theorem confined_min (signed : Bool) : Confined₂ bits bits (min bits signed) := by
  intro a b
  simp only [min, lessThan_low h64, low_low, true_and]
  split
  · exact toNat_low_lt h64 b
  · exact toNat_low_lt h64 a

theorem confined_max (signed : Bool) : Confined₂ bits bits (max bits signed) := by
  intro a b
  simp only [max, lessThan_low h64, low_low, true_and]
  split
  · exact toNat_low_lt h64 b
  · exact toNat_low_lt h64 a

end Integer

/-! ### Bits and shifts -/

namespace Bitwise

theorem confined_and : Confined₂ bits bits (and bits) :=
  confined₂_low h64 (g := (· &&& ·)) fun _ _ => BitVec.setWidth_and

theorem confined_or : Confined₂ bits bits (or bits) :=
  confined₂_low h64 (g := (· ||| ·)) fun _ _ => BitVec.setWidth_or

theorem confined_xor : Confined₂ bits bits (xor bits) :=
  confined₂_low h64 (g := (· ^^^ ·)) fun _ _ => BitVec.setWidth_xor

theorem confined_not : Confined₁ bits (not bits) :=
  confined₁_low h64 (g := (~~~ ·)) fun _ => BitVec.setWidth_not h64

theorem confined_reverse : Confined₁ bits (reverse bits) := by
  refine fun a => ⟨gather_congr fun i hi => ?_, toNat_gather_lt h64 _⟩
  exact getLsbD_low_of_lt h64 (by omega) a

theorem confined_shiftLeft (policy : ShiftPolicy) :
    Confined₂ bits 32 (shiftLeft policy bits) := by
  intro value amount
  rw [shiftLeft, policy.effective_low, shiftLeft]
  cases policy.effective bits amount with
  | none => exact ⟨rfl, toNat_zero_lt⟩
  | some distance =>
      exact ⟨low_shiftLeft_low h64 value distance, toNat_low_lt h64 _⟩

theorem confined_shiftRight (policy : ShiftPolicy) (signed : Bool) :
    Confined₂ bits 32 (shiftRight policy bits signed) := by
  intro value amount
  simp only [shiftRight, policy.effective_low, signed_low h64, low_low, true_and]
  cases signed with
  | true => exact toNat_low_lt h64 _
  | false =>
      cases policy.effective bits amount with
      | none => exact toNat_zero_lt
      | some distance =>
          have hle : (low bits value >>> distance).toNat ≤ (low bits value).toNat := by
            rw [BitVec.toNat_ushiftRight]
            exact Nat.shiftRight_le _ _
          exact Nat.lt_of_le_of_lt hle (toNat_low_lt h64 value)

end Bitwise

/-! ### Bit fields -/

namespace BitField

theorem confined_extract (field : BitField) (hpos : 1 ≤ bits) (signed : Bool) :
    Confined₁ bits (field.extract bits signed) := by
  intro a
  simp only [extract]
  split
  · exact ⟨rfl, toNat_zero_lt⟩
  · -- neither a bit of the field nor the sign bit is read beyond the top of the word
    refine ⟨gather_congr fun i hi => ?_, toNat_gather_lt h64 _⟩
    split
    · exact getLsbD_low_of_lt h64 (by omega) a
    · rw [getLsbD_low_of_lt h64 (by omega) a]

theorem confined_insert (field : BitField) : Confined₂ bits bits (field.insert bits) := by
  intro source base
  constructor
  · apply BitVec.eq_of_getLsbD_eq
    intro i _
    rw [getLsbD_insert h64, getLsbD_insert h64, low_low]
    split
    · rename_i hfield
      have hword := (lt_overlap_iff.1 hfield.2).2
      exact getLsbD_low_of_lt h64 (by omega) source
    · rfl
  · refine toNat_lt_of_getLsbD h64 fun i hi => ?_
    rw [getLsbD_insert h64, if_neg, getLsbD_low]
    · simp [Nat.not_lt.2 hi]
    · intro hfield
      have hword := (lt_overlap_iff.1 hfield.2).2
      omega

end BitField

omit h64

/-! ### Floats -/

namespace FloatElement

theorem pattern_low (bits : Nat) (v : Word) : pattern bits (low bits v) = pattern bits v := by
  rw [pattern, low_low, pattern]

theorem pattern_lt (h64 : bits ≤ 64) (v : Word) : pattern bits v < 2 ^ bits := toNat_low_lt h64 v

theorem toNat_ofNat_lt {n : Nat} (h : n < 2 ^ bits) : (BitVec.ofNat 64 n).toNat < 2 ^ bits := by
  rw [BitVec.toNat_ofNat]
  exact Nat.lt_of_le_of_lt (Nat.mod_le _ _) h

/-- Binary operations have a result on each width that has a format, and are confined to it. -/
theorem confined_binary (op : FloatOp) (h : bits ∈ Operation.allWidths) :
    ∃ f, binary op bits = (fun a b => some (f a b)) ∧ Confined₂ bits bits f := by
  simp only [Operation.allWidths, List.mem_cons, List.not_mem_nil, or_false] at h
  rcases h with rfl | rfl | rfl
  · refine ⟨_, rfl, fun a b => ⟨?_, toNat_ofNat_lt (FloatFormat.round_lt (f := .binary16) _)⟩⟩
    simp only [pattern_low]
  · refine ⟨_, rfl, fun a b => ⟨?_, toNat_ofNat_lt (op.run_lt (f := .binary32) ?_ ?_)⟩⟩
    · simp only [pattern_low]
    · exact pattern_lt (by decide) a
    · exact pattern_lt (by decide) b
  · refine ⟨_, rfl, fun a b => ⟨?_, toNat_ofNat_lt (op.run_lt (f := .binary64) ?_ ?_)⟩⟩
    · simp only [pattern_low]
    · exact pattern_lt (by decide) a
    · exact pattern_lt (by decide) b

theorem confined_fma (h : bits ∈ Operation.wordWidths) :
    ∃ f, fma bits = (fun a b c => some (f a b c)) ∧ Confined₃ bits f := by
  simp only [Operation.wordWidths, List.mem_cons, List.not_mem_nil, or_false] at h
  rcases h with rfl | rfl
  · refine ⟨_, rfl, fun a b c => ⟨?_, toNat_ofNat_lt (FloatFormat.round_lt (f := .binary32) _)⟩⟩
    simp only [pattern_low]
  · refine ⟨_, rfl, fun a b c => ⟨?_, toNat_ofNat_lt (FloatFormat.round_lt (f := .binary64) _)⟩⟩
    simp only [pattern_low]

/-- Negation flips the sign bit, and no other bit of the word. -/
theorem getLsbD_neg (hpos : 1 ≤ bits) (h64 : bits ≤ 64) (a : Word) (i : Nat) :
    (neg bits a).getLsbD i = (a.getLsbD i ^^ decide (i = bits - 1)) := by
  have hsign : ((1 <<< (bits - 1) : Nat) : Word).getLsbD i = decide (i = bits - 1) := by
    rw [Nat.one_shiftLeft, BitVec.natCast_eq_ofNat, BitVec.getLsbD_ofNat, Nat.testBit_two_pow]
    by_cases hi : i = bits - 1
    · have hlt : bits - 1 < 64 := by omega
      simp [hi, hlt]
    · simp [hi, Ne.symm hi]
  rw [neg, BitVec.getLsbD_xor, hsign]

theorem getLsbD_neg_of_le (hpos : 1 ≤ bits) (h64 : bits ≤ 64) (a : Word) {i : Nat} (hi : bits ≤ i) :
    (neg bits a).getLsbD i = a.getLsbD i := by
  have hne : i ≠ bits - 1 := by omega
  rw [getLsbD_neg hpos h64, decide_eq_false hne, Bool.xor_false]

/-- Within the width, negation is what it would be on the low bits alone. -/
theorem low_neg (hpos : 1 ≤ bits) (h64 : bits ≤ 64) (a : Word) :
    low bits (neg bits a) = neg bits (low bits a) := by
  apply BitVec.eq_of_getLsbD_eq
  intro i hi
  by_cases hbits : i < bits
  · rw [getLsbD_low_of_lt h64 hbits, getLsbD_neg hpos h64, getLsbD_neg hpos h64,
      getLsbD_low_of_lt h64 hbits]
  · rw [getLsbD_neg_of_le hpos h64 _ (Nat.le_of_not_lt hbits), getLsbD_low, getLsbD_low]
    simp [hbits]

end FloatElement

/-! ### All kernels -/

/-- **All kernels but one are confined to their width.** They ignore what stands beyond it in their
operands (beyond the low 32 bits in shift amounts), and their results are below `2 ^ bits`. That holds
of integers, bits, shifts and bit fields at each width up to 64 bits, and of floats at the widths that
have a format. Floating-point negation does as much with the low bits, but keeps all bits beyond the
width as they are. -/
theorem Word.confined_kernels {bits : Nat} (hpos : 1 ≤ bits) (h64 : bits ≤ 64) (signed : Bool)
    (policy : ShiftPolicy) (field : BitField) :
    (∀ f ∈ [Integer.neg bits, Bitwise.not bits, Bitwise.reverse bits, field.extract bits signed],
      Confined₁ bits f) ∧
    (∀ f ∈ [Integer.add bits, Integer.sub bits, Integer.mulLow bits, Integer.min bits signed,
        Integer.max bits signed, Bitwise.and bits, Bitwise.or bits, Bitwise.xor bits,
        field.insert bits],
      Confined₂ bits bits f) ∧
    (∀ f ∈ [Bitwise.shiftLeft policy bits, Bitwise.shiftRight policy bits signed],
      Confined₂ bits 32 f) ∧
    Confined₃ bits (Integer.mulAddLow bits) ∧
    (bits ∈ Operation.allWidths → ∀ op, ∃ f,
      FloatElement.binary op bits = (fun a b => some (f a b)) ∧ Confined₂ bits bits f) ∧
    (bits ∈ Operation.wordWidths → ∃ f,
      FloatElement.fma bits = (fun a b c => some (f a b c)) ∧ Confined₃ bits f) ∧
    ∀ a, low bits (FloatElement.neg bits a) = FloatElement.neg bits (low bits a) ∧
      (FloatElement.neg bits (low bits a)).toNat < 2 ^ bits ∧
      ∀ i, bits ≤ i → (FloatElement.neg bits a).getLsbD i = a.getLsbD i := by
  refine ⟨?_, ?_, ?_, Integer.confined_mulAddLow h64,
    fun h op => FloatElement.confined_binary op h, FloatElement.confined_fma, fun a => ⟨?_, ?_, ?_⟩⟩
  · simp only [List.forall_mem_cons, List.not_mem_nil, false_implies, implies_true, and_true]
    exact ⟨Integer.confined_neg h64, Bitwise.confined_not h64, Bitwise.confined_reverse h64,
      BitField.confined_extract h64 field hpos signed⟩
  · simp only [List.forall_mem_cons, List.not_mem_nil, false_implies, implies_true, and_true]
    exact ⟨Integer.confined_add h64, Integer.confined_sub h64, Integer.confined_mulLow h64,
      Integer.confined_min h64 signed, Integer.confined_max h64 signed, Bitwise.confined_and h64,
      Bitwise.confined_or h64, Bitwise.confined_xor h64, BitField.confined_insert h64 field⟩
  · simp only [List.forall_mem_cons, List.not_mem_nil, false_implies, implies_true, and_true]
    exact ⟨Bitwise.confined_shiftLeft h64 policy, Bitwise.confined_shiftRight h64 policy signed⟩
  · exact FloatElement.low_neg hpos h64 a
  · rw [← FloatElement.low_neg hpos h64]
    exact toNat_low_lt h64 _
  · exact fun i hi => FloatElement.getLsbD_neg_of_le hpos h64 a hi

/-- Single precision, on words that have a bit beyond the width. -/
theorem Word.confined_kernels_single :
    let beyond : Word := 0x1_0000_0000
    1 ≤ 32 ∧ 32 ≤ 64 ∧ 32 ∈ Operation.allWidths ∧ 32 ∈ Operation.wordWidths ∧
      Integer.add 32 (low 32 (beyond + 5)) (low 32 7) = Integer.add 32 (beyond + 5) 7 ∧
      Bitwise.shiftLeft .clamp 32 (low 32 1) (low 32 (beyond + 3)) =
        Bitwise.shiftLeft .clamp 32 1 (beyond + 3) ∧
      (∃ v, FloatElement.binary .add 32 beyond 0x3f800000 = some v ∧ v.toNat < 2 ^ 32) ∧
      (FloatElement.neg 32 beyond).getLsbD 32 = true := by
  intro beyond
  have hpos : 1 ≤ 32 := by decide
  have h64 : 32 ≤ 64 := by decide
  have hall : 32 ∈ Operation.allWidths := by decide
  have hword : 32 ∈ Operation.wordWidths := by decide
  obtain ⟨-, htwo, hshift, -, hbinary, -, hneg⟩ :=
    confined_kernels hpos h64 false .clamp ⟨0, 0⟩
  obtain ⟨f, hf, hconfined⟩ := hbinary hall .add
  refine ⟨hpos, h64, hall, hword, (htwo _ (by simp) _ _).1, (hshift _ (by simp) _ _).1,
    ⟨f beyond 0x3f800000, by rw [hf], (hconfined _ _).2⟩, ?_⟩
  rw [(hneg beyond).2.2 32 (by decide)]
  decide

/-- A bit beyond the width passes through the negation of a float: it makes the result different from
that of the low bits, and larger than any word of the width. -/
theorem FloatElement.not_confined_neg :
    neg 32 0x1_0000_0000 = 0x1_8000_0000 ∧ neg 32 (low 32 0x1_0000_0000) = 0x8000_0000 ∧
      ¬ (neg 32 0x1_0000_0000).toNat < 2 ^ 32 ∧ ¬ Confined₁ 32 (neg 32) := by
  have hlarge : ¬ (neg 32 0x1_0000_0000).toNat < 2 ^ 32 := by decide
  exact ⟨by decide, by decide, hlarge, fun h => hlarge (h 0x1_0000_0000).2⟩

end Crosscheck
