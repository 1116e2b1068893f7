import Crosscheck.Proofs.Catalog.Integral
import Crosscheck.Proofs.Catalog.Totality

/-!
# Crosscheck.Proofs.Catalog.Operands

**What the reference semantics of the catalog refuses.** A wrong number of operands is refused first, then a
missing bit field, and nothing else: whatever the operands and the field are, there is a result otherwise
(`Operation.apply_eq`), and it fits the type (`Semantics.value_lt`). So no operation comes to a width at
which it has no meaning. Nor does it look for an operand that is not there: what it looks at is as much as
has been counted (`Operation.lt_operandCount_of_reads`).
-/

namespace Crosscheck

namespace OperationKind

/-- How many operands the semantics of a kind looks at. -/
def operandsRead : OperationKind → Nat
  | .neg | .not | .reverse | .extract => 1
  | .mulAdd | .fma => 3
  | _ => 2

end OperationKind

namespace Semantics

variable {s : Semantics} {operands others : List Word} {field : Option BitField} {i : Nat}

/-- The result depends on an operand. -/
def Reads (s : Semantics) (i : Nat) : Prop :=
  ∃ operands others field, (∀ j, j ≠ i → operands[j]? = others[j]?) ∧
    s.evaluate operands field ≠ s.evaluate others field

/-- Nothing else is looked at. -/
theorem evaluate_congr (h : ∀ j < s.kind.operandsRead, operands[j]? = others[j]?)
    (field : Option BitField) : s.evaluate operands field = s.evaluate others field := by
  have hoperand : ∀ j < s.kind.operandsRead, s.operand operands j = s.operand others j := by
    intro j hj
    rw [operand, operand, h j hj]
  have hamount : 1 < s.kind.operandsRead → s.shiftAmount operands = s.shiftAmount others := by
    intro hone
    rw [shiftAmount, shiftAmount, h 1 hone]
  rw [evaluate, evaluate]
  cases hkind : s.kind <;> simp only [hkind, OperationKind.operandsRead] at hoperand hamount ⊢
  case neg | not | reverse | extract => rw [hoperand 0 (by decide)]
  case mulAdd | fma => rw [hoperand 0 (by decide), hoperand 1 (by decide), hoperand 2 (by decide)]
  case shiftLeft | shiftRight => rw [hoperand 0 (by decide), hamount (by decide)]
  all_goals rw [hoperand 0 (by decide), hoperand 1 (by decide)]

theorem lt_operandsRead_of_reads (h : s.Reads i) : i < s.kind.operandsRead := by
  obtain ⟨operands, others, field, hsame, hne⟩ := h
  by_contra hi
  exact hne (evaluate_congr (fun j hj => hsame j (by omega)) field)

/-- Without a field there is no result of an operation on fields. -/
theorem evaluate_without_field (hkind : s.kind = .extract ∨ s.kind = .insert) (operands : List Word) :
    s.evaluate operands none = .error (.missingBitField s.kind.name) := by
  have hmissing : s.requireField none = .error (.missingBitField s.kind.name) := rfl
  rw [evaluate]
  rcases hkind with hkind | hkind
  · simp only [hkind, hmissing, Except.error_bind]
  · simp only [hkind, hmissing, Except.error_bind]

/-- The result fits the type, and so does the zero that stands for none. -/
theorem value_lt (hpos : 1 ≤ s.type.bits) (h64 : s.type.bits ≤ 64) (operands : List Word)
    (field : Option BitField) : (s.value operands field).toNat < 2 ^ s.type.bits := by
  rw [value]
  cases happly : s.apply operands field with
  | ok v => exact lt_of_apply hpos h64 happly
  | error e => exact Word.toNat_zero_lt

end Semantics

namespace Operation

variable {op : Operation} {t : ElementType}

/-! ### The catalog -/

/-- An operation takes the operands that its semantics looks at. -/
theorem operandCount_eq_operandsRead (hop : op ∈ builtin) : op.operandCount = op.kind.operandsRead := by
  revert op
  decide

theorem lt_operandCount_of_reads (hop : op ∈ builtin) {policy : ShiftPolicy} {i : Nat}
    (h : (Semantics.mk op.kind op.arity t policy).Reads i) : i < op.operandCount :=
  operandCount_eq_operandsRead hop ▸ Semantics.lt_operandsRead_of_reads h

/-- The operations that need a field are those of a class with fields. -/
theorem hasBitField_iff (hop : op ∈ builtin) :
    op.shape.hasBitField = true ↔ op.kind = .extract ∨ op.kind = .insert := by
  revert op
  decide

theorem bits_of_supports (hop : op ∈ builtin) (hs : op.supports t = true) : t.bits ∈ allWidths := by
  have hwidths : ∀ op ∈ builtin, ∀ w ∈ op.widths, w ∈ allWidths := by decide
  rw [supports, Bool.and_eq_true] at hs
  exact hwidths op hop t.bits (by simpa using hs.2)

/-- What applying an operation of the catalog comes to on a type that it supports. -/
theorem apply_eq (hop : op ∈ builtin) (hs : op.supports t = true) (policy : ShiftPolicy)
    (operands : List Word) (field : Option BitField) :
    let s := Semantics.mk op.kind op.arity t policy
    s.apply operands field =
      if operands.length ≠ op.operandCount then
        .error (.operandCount op.kind.title op.operandCount operands.length)
      else if (op.kind = .extract ∨ op.kind = .insert) ∧ field = none then
        .error (.missingBitField op.kind.name)
      else .ok (s.value operands field) := by
  intro s
  by_cases hlen : operands.length = op.operandCount
  · rw [if_neg (not_not.2 hlen)]
    split
    case isTrue hmissing =>
      obtain ⟨hkind, rfl⟩ := hmissing
      exact (if_pos hlen).trans (Semantics.evaluate_without_field hkind operands)
    case isFalse hfield =>
      refine apply_builtin hop hs policy hlen fun hshape => ?_
      rw [Option.isSome_iff_ne_none]
      exact fun hnone => hfield ⟨(hasBitField_iff hop).1 hshape, hnone⟩
  · rw [if_pos hlen]
    exact if_neg hlen

end Operation

end Crosscheck
