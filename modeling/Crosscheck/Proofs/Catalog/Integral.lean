import Crosscheck.Catalog.Semantics
import Crosscheck.Proofs.List
import Crosscheck.Proofs.Word.Arithmetic
import Mathlib.Data.List.Basic

/-!
# Crosscheck.Proofs.Catalog.Integral

**The reference semantics of integers is arithmetic modulo the power of the width.** What arithmetic
says of each kind of operation is `OperationKind.Computes`, in terms of the operand words themselves,
whatever stands in them beyond the width. Each kind has a kernel that does as it says
(`OperationKind.computes_of_kernel?`), and the semantics of a type that is no floating-point type sends
each kind to its kernel (`Semantics.evaluate_of_kernel?`). No result of any operation on any type
exceeds the width (`Semantics.lt_of_apply`).
-/

namespace Crosscheck

open Word

namespace OperationKind

/-- The kinds of operation that are integer arithmetic or logic. -/
def integral : List OperationKind :=
  [.add, .sub, .mulLow, .mulAdd, .neg, .min, .max, .and, .or, .xor, .not, .reverse]

/-- What arithmetic says of the result of an operation on words of `bits` significant bits. -/
def Computes (bits : Nat) (signed : Bool) : OperationKind → List Word → Word → Prop
  | .add, [a, b], v => v.toNat = (a.toNat + b.toNat) % 2 ^ bits
  | .sub, [a, b], v => (v.toNat : Int) = ((a.toNat : Int) - b.toNat) % 2 ^ bits
  | .mulLow, [a, b], v => v.toNat = a.toNat * b.toNat % 2 ^ bits
  | .mulAdd, [a, b, c], v => v.toNat = (a.toNat * b.toNat + c.toNat) % 2 ^ bits
  | .neg, [a], v => (v.toNat : Int) = -(a.toNat : Int) % 2 ^ bits
  | .min, [a, b], v => (v = low bits a ∨ v = low bits b) ∧
      number bits signed v = Min.min (number bits signed a) (number bits signed b)
  | .max, [a, b], v => (v = low bits a ∨ v = low bits b) ∧
      number bits signed v = Max.max (number bits signed a) (number bits signed b)
  | .and, [a, b], v => ∀ i, i < bits → v.getLsbD i = (a.getLsbD i && b.getLsbD i)
  | .or, [a, b], v => ∀ i, i < bits → v.getLsbD i = (a.getLsbD i || b.getLsbD i)
  | .xor, [a, b], v => ∀ i, i < bits → v.getLsbD i = (a.getLsbD i ^^ b.getLsbD i)
  | .not, [a], v => ∀ i, i < bits → v.getLsbD i = !a.getLsbD i
  | .reverse, [a], v => ∀ i, i < bits → v.getLsbD i = a.getLsbD (bits - 1 - i)
  | _, _, _ => False

/-- The kernel of an integer operation. -/
def kernel? (bits : Nat) (signed : Bool) : OperationKind → List Word → Option Word
  | .add, [a, b] => some (Integer.add bits a b)
  | .sub, [a, b] => some (Integer.sub bits a b)
  | .mulLow, [a, b] => some (Integer.mulLow bits a b)
  | .mulAdd, [a, b, c] => some (Integer.mulAddLow bits a b c)
  | .neg, [a] => some (Integer.neg bits a)
  | .min, [a, b] => some (Integer.min bits signed a b)
  | .max, [a, b] => some (Integer.max bits signed a b)
  | .and, [a, b] => some (Bitwise.and bits a b)
  | .or, [a, b] => some (Bitwise.or bits a b)
  | .xor, [a, b] => some (Bitwise.xor bits a b)
  | .not, [a] => some (Bitwise.not bits a)
  | .reverse, [a] => some (Bitwise.reverse bits a)
  | _, _ => none

variable {bits : Nat} {signed : Bool} {kind : OperationKind} {operands : List Word} {v : Word}

/-- A kernel does what arithmetic says. -/
theorem computes_of_kernel? (h64 : bits ≤ 64) (h : kind.kernel? bits signed operands = some v) :
    kind.Computes bits signed operands v := by
  unfold kernel? at h
  split at h <;> cases h
  case h_1 a b => exact Integer.toNat_add h64 a b
  case h_2 a b => exact Integer.toNat_sub h64 a b
  case h_3 a b => exact Integer.toNat_mulLow h64 a b
  case h_4 a b c => exact Integer.toNat_mulAddLow h64 a b c
  case h_5 a => exact Integer.toNat_neg h64 a
  case h_6 a b => exact Integer.min_eq h64 signed a b
  case h_7 a b => exact Integer.max_eq h64 signed a b
  case h_8 a b => exact fun i hi => Bitwise.getLsbD_and h64 hi a b
  case h_9 a b => exact fun i hi => Bitwise.getLsbD_or h64 hi a b
  case h_10 a b => exact fun i hi => Bitwise.getLsbD_xor h64 hi a b
  case h_11 a => exact fun i hi => Bitwise.getLsbD_not h64 hi a
  case h_12 a => exact fun i hi => Bitwise.getLsbD_reverse h64 hi a

/-- Kernels do not see what stands beyond the width. -/
theorem kernel?_map_low (h64 : bits ≤ 64) (h : kind.kernel? bits signed operands = some v) :
    kind.kernel? bits signed (operands.map (low bits)) = some v := by
  unfold kernel? at h
  split at h <;> cases h
  case h_1 a b => exact congrArg some (Integer.confined_add h64 a b).1
  case h_2 a b => exact congrArg some (Integer.confined_sub h64 a b).1
  case h_3 a b => exact congrArg some (Integer.confined_mulLow h64 a b).1
  case h_4 a b c => exact congrArg some (Integer.confined_mulAddLow h64 a b c).1
  case h_5 a => exact congrArg some (Integer.confined_neg h64 a).1
  case h_6 a b => exact congrArg some (Integer.confined_min h64 signed a b).1
  case h_7 a b => exact congrArg some (Integer.confined_max h64 signed a b).1
  case h_8 a b => exact congrArg some (Bitwise.confined_and h64 a b).1
  case h_9 a b => exact congrArg some (Bitwise.confined_or h64 a b).1
  case h_10 a b => exact congrArg some (Bitwise.confined_xor h64 a b).1
  case h_11 a => exact congrArg some (Bitwise.confined_not h64 a).1
  case h_12 a => exact congrArg some (Bitwise.confined_reverse h64 a).1

/-- What complements or reverses a word does so back to its low bits. -/
theorem kernel?_twice (h64 : bits ≤ 64) (hkind : kind ∈ [.not, .reverse])
    (h : kind.kernel? bits signed operands = some v) :
    ∃ u, kind.kernel? bits signed [v] = some u ∧ operands.map (·.toNat % 2 ^ bits) = [u.toNat] := by
  unfold kernel? at h
  split at h <;> cases h
  case h_11 a =>
    refine ⟨_, rfl, ?_⟩
    rw [Bitwise.not_not h64, toNat_low h64, List.map_singleton]
  case h_12 a =>
    refine ⟨_, rfl, ?_⟩
    rw [Bitwise.reverse_reverse h64, toNat_low h64, List.map_singleton]
  all_goals exact absurd hkind (by decide)

/-- Each integer operation of the catalog has a kernel for its number of operands. -/
theorem exists_kernel? {arity : Arity} (hkind : kind ∈ integral)
    (harity : (Operation.ofKind? kind).map Operation.arity = some arity)
    (hlen : operands.length = arity.operands) (bits : Nat) (signed : Bool) :
    ∃ v, kind.kernel? bits signed operands = some v := by
  cases kind
  case mul | fma | shiftLeft | shiftRight | extract | insert => exact absurd hkind (by decide)
  all_goals obtain rfl := Option.some.inj harity
  case mulAdd =>
    obtain ⟨a, b, c, rfl⟩ := List.length_eq_three.1 hlen
    exact ⟨_, rfl⟩
  case neg | not | reverse =>
    obtain ⟨a, rfl⟩ := List.length_eq_one_iff.1 hlen
    exact ⟨_, rfl⟩
  all_goals
    obtain ⟨a, b, rfl⟩ := List.length_eq_two.1 hlen
    exact ⟨_, rfl⟩

end OperationKind

namespace Semantics

variable {s : Semantics} {operands : List Word} {field : Option BitField} {v : Word}

/-! ### Integers -/

theorem operand_eq_getD (s : Semantics) (operands : List Word) (i : Nat) :
    s.operand operands i = (operands.map (low s.type.bits)).getD i 0 := by
  rw [operand, List.getD_eq_getElem?_getD, List.getElem?_map]
  cases operands[i]? with
  | none => rfl
  | some v => rfl

/-- Integer operations go to their kernels. -/
theorem evaluate_of_kernel? (hfloat : s.type.isFloat = false)
    (h : s.kind.kernel? s.type.bits s.type.isSigned (operands.map (low s.type.bits)) = some v) :
    s.evaluate operands field = .ok v := by
  unfold OperationKind.kernel? at h
  split at h <;> cases h
  all_goals
    rename_i hkind hoperands
    simp only [evaluate, hkind, hfloat, operand_eq_getD, hoperands]
    rfl

/-- The semantics of an integer operation is its kernel. -/
theorem apply_of_kernel? (hfloat : s.type.isFloat = false) (h64 : s.type.bits ≤ 64)
    (hlen : operands.length = s.arity.operands)
    (h : s.kind.kernel? s.type.bits s.type.isSigned operands = some v) :
    s.apply operands field = .ok v := by
  rw [apply, if_pos hlen]
  exact evaluate_of_kernel? hfloat (OperationKind.kernel?_map_low h64 h)

/-! ### The range of results -/

theorem mem_allWidths_of_binary {op : FloatOp} {bits : Nat} {a b : Word}
    (h : FloatElement.binary op bits a b = some v) : bits ∈ Operation.allWidths := by
  unfold FloatElement.binary at h
  split at h
  case h_4 => cases h
  all_goals decide

theorem mem_wordWidths_of_fma {bits : Nat} {a b c : Word}
    (h : FloatElement.fma bits a b c = some v) : bits ∈ Operation.wordWidths := by
  unfold FloatElement.fma at h
  split at h
  case h_3 => cases h
  all_goals decide

theorem floatResult_eq_ok {result : Option Word} (h : s.floatResult result = .ok v) :
    result = some v := by
  cases result with
  | none => cases h
  | some w => cases h; rfl

theorem lt_of_binary {op : FloatOp} {a b : Word}
    (h : s.floatResult (FloatElement.binary op s.type.bits a b) = .ok v) :
    v.toNat < 2 ^ s.type.bits := by
  have hsome := floatResult_eq_ok h
  obtain ⟨f, hf, hconfined⟩ :=
    FloatElement.confined_binary op (mem_allWidths_of_binary hsome)
  rw [hf] at hsome
  cases hsome
  exact (hconfined a b).2

theorem lt_of_fma {a b c : Word}
    (h : s.floatResult (FloatElement.fma s.type.bits a b c) = .ok v) :
    v.toNat < 2 ^ s.type.bits := by
  have hsome := floatResult_eq_ok h
  obtain ⟨f, hf, hconfined⟩ := FloatElement.confined_fma (mem_wordWidths_of_fma hsome)
  rw [hf] at hsome
  cases hsome
  exact (hconfined a b c).2

/-- The operations that integers and floats share. -/
theorem lt_of_float_or_integer {op : FloatOp} {a b w : Word} (hw : w.toNat < 2 ^ s.type.bits)
    (h : (if s.type.isFloat then s.floatResult (FloatElement.binary op s.type.bits a b)
      else .ok w) = .ok v) : v.toNat < 2 ^ s.type.bits := by
  split at h
  · exact lt_of_binary h
  · cases h
    exact hw

theorem low_operand (s : Semantics) (operands : List Word) (i : Nat) :
    low s.type.bits (s.operand operands i) = s.operand operands i := by
  rw [operand]
  split
  · exact low_low _ _
  · simp [low]

/-- The operands are cut before a sign is flipped. -/
theorem neg_operand_lt (hpos : 1 ≤ s.type.bits) (h64 : s.type.bits ≤ 64) (operands : List Word)
    (i : Nat) : (FloatElement.neg s.type.bits (s.operand operands i)).toNat < 2 ^ s.type.bits := by
  rw [← low_operand, ← FloatElement.low_neg hpos h64]
  exact toNat_low_lt h64 _

/-- **No result exceeds the width**, of whatever operation on whatever type. -/
theorem lt_of_apply (hpos : 1 ≤ s.type.bits) (h64 : s.type.bits ≤ 64)
    (h : s.apply operands field = .ok v) : v.toNat < 2 ^ s.type.bits := by
  rw [apply] at h
  split at h
  case isFalse => cases h
  rw [evaluate] at h
  generalize s.operand operands 1 = b, s.operand operands 2 = c at h
  have hneg := neg_operand_lt hpos h64 operands 0
  generalize s.operand operands 0 = a at h hneg
  cases hkind : s.kind <;> simp only [hkind] at h
  case add => exact lt_of_float_or_integer (Integer.confined_add h64 a b).2 h
  case sub => exact lt_of_float_or_integer (Integer.confined_sub h64 a b).2 h
  case min => exact lt_of_float_or_integer (Integer.confined_min h64 _ a b).2 h
  case max => exact lt_of_float_or_integer (Integer.confined_max h64 _ a b).2 h
  case mul => exact lt_of_binary h
  case fma => exact lt_of_fma h
  case shiftLeft =>
    obtain ⟨amount, -, hv⟩ := Except.bind_eq_ok.1 h
    cases hv
    exact (Bitwise.confined_shiftLeft h64 _ a amount).2
  case shiftRight =>
    obtain ⟨amount, -, hv⟩ := Except.bind_eq_ok.1 h
    cases hv
    exact (Bitwise.confined_shiftRight h64 _ _ a amount).2
  case extract =>
    obtain ⟨f, -, hv⟩ := Except.bind_eq_ok.1 h
    cases hv
    exact (BitField.confined_extract h64 f hpos _ a).2
  case insert =>
    obtain ⟨f, -, hv⟩ := Except.bind_eq_ok.1 h
    cases hv
    exact (BitField.confined_insert h64 f a b).2
  case neg =>
    cases h
    split
    · exact hneg
    · exact (Integer.confined_neg h64 a).2
  all_goals obtain rfl := Except.ok.inj h
  case mulLow => exact (Integer.confined_mulLow h64 a b).2
  case and => exact (Bitwise.confined_and h64 a b).2
  case or => exact (Bitwise.confined_or h64 a b).2
  case xor => exact (Bitwise.confined_xor h64 a b).2
  case not => exact (Bitwise.confined_not h64 a).2
  case reverse => exact (Bitwise.confined_reverse h64 a).2
  case mulAdd => exact (Integer.confined_mulAddLow h64 a b c).2

end Semantics

/-- **Integer semantics is arithmetic modulo the power of the width**, in every catalog, on every type
that is no floating-point type and that the operation supports, if the operation has the number of
operands that it has in the built-in catalog. It holds of all operand words, also of those that have
bits beyond the width. Complementing or reversing a word twice gives its low bits. No result of any
operation exceeds the width. -/
theorem Registry.apply_integral (r : Registry) {op : Operation}
    (harity : (Operation.ofKind? op.kind).map Operation.arity = some op.arity) {t : ElementType}
    (hs : op.supports t = true) (hfloat : t.isFloat = false) (hpos : 1 ≤ t.bits) (h64 : t.bits ≤ 64)
    {operands : List Word} (hlen : operands.length = op.operandCount) (field : Option BitField) :
    ∃ s, r.semanticsOf op t = .ok s ∧
      (op.kind ∈ OperationKind.integral → ∃ v, s.apply operands field = .ok v ∧
        op.kind.Computes t.bits t.isSigned operands v ∧
        (op.kind ∈ [.not, .reverse] → ∃ u, s.apply [v] field = .ok u ∧
          operands.map (·.toNat % 2 ^ t.bits) = [u.toNat])) ∧
      ∀ v, s.apply operands field = .ok v → v.toNat < 2 ^ t.bits := by
  refine ⟨⟨op.kind, op.arity, t, r.shiftPolicy⟩, if_pos hs, fun hkind => ?_, fun v => ?_⟩
  · obtain ⟨v, hv⟩ := OperationKind.exists_kernel? hkind harity hlen t.bits t.isSigned
    refine ⟨v, Semantics.apply_of_kernel? hfloat h64 hlen hv, ?_, fun htwice => ?_⟩
    · exact OperationKind.computes_of_kernel? h64 hv
    · obtain ⟨u, hu, hlow⟩ := OperationKind.kernel?_twice h64 htwice hv
      have hone : operands.length = 1 := by simpa using congrArg List.length hlow
      exact ⟨u, Semantics.apply_of_kernel? hfloat h64 (hone.symm.trans hlen) hu, hlow⟩
  · exact Semantics.lt_of_apply hpos h64

/-- A catalog with a type of three bytes. -/
def Registry.threeBytes : Registry where
  types := [.ofWidth "s24" 24 .signed]
  operations := [⟨.min, "min", .binary, .binary, [.signed], [24]⟩]
  shiftPolicy := .clamp
  types_ne_nil := by simp
  operations_ne_nil := by simp
  wellFormed := by decide

/-- The lesser of five and the least number of three bytes, in a word that has a bit beyond them. -/
theorem Registry.apply_integral_least :
    let op : Operation := ⟨.min, "min", .binary, .binary, [.signed], [24]⟩
    let t := ElementType.ofWidth "s24" 24 .signed
    let operands : List Word := [0x100_800000, 5]
    op ∈ threeBytes.operations ∧ t ∈ threeBytes.types ∧
      (Operation.ofKind? op.kind).map Operation.arity = some op.arity ∧ op.supports t = true ∧
      t.isFloat = false ∧ 1 ≤ t.bits ∧ t.bits ≤ 64 ∧ operands.length = op.operandCount ∧
      ∃ s, threeBytes.semanticsOf op t = .ok s ∧ s.apply operands none = .ok 0x800000 := by
  intro op t operands
  have harity : (Operation.ofKind? op.kind).map Operation.arity = some op.arity := rfl
  have hs : op.supports t = true := by decide
  have hfloat : t.isFloat = false := rfl
  have hpos : 1 ≤ t.bits := by decide
  have h64 : t.bits ≤ 64 := by decide
  have hlen : operands.length = op.operandCount := rfl
  refine ⟨by decide, by decide, harity, hs, hfloat, hpos, h64, hlen, ?_⟩
  obtain ⟨s, hsemantics, hintegral, -⟩ :=
    threeBytes.apply_integral harity hs hfloat hpos h64 hlen none
  obtain ⟨v, happly, ⟨hv | hv, hnumber⟩, -⟩ := hintegral (by decide)
  · exact ⟨s, hsemantics, happly.trans (congrArg Except.ok (hv.trans (by decide)))⟩
  · -- five is not the lesser number
    rw [hv] at hnumber
    exact absurd hnumber (by decide)

end Crosscheck
