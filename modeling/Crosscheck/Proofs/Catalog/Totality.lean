import Crosscheck.Catalog.Semantics

/-!
# Crosscheck.Proofs.Catalog.Totality

**The reference semantics of the catalog have no gaps.** What a kind of operation needs to have a
result is said by `Semantics.Defined`: a width that has a floating-point format, a shift amount, a
bit field. Every operation of the catalog has it on the types that it supports, so on the right
number of operands there is always a result (`Operation.apply_builtin`).
-/

namespace Crosscheck

theorem FloatElement.binary_isSome (op : FloatOp) {bits : Nat} (h : bits ∈ Operation.allWidths)
    (a b : Word) : (binary op bits a b).isSome = true := by
  simp only [Operation.allWidths, List.mem_cons, List.not_mem_nil, or_false] at h
  rcases h with rfl | rfl | rfl <;> rfl

theorem FloatElement.fma_isSome {bits : Nat} (h : bits ∈ Operation.wordWidths) (a b c : Word) :
    (fma bits a b c).isSome = true := by
  simp only [Operation.wordWidths, List.mem_cons, List.not_mem_nil, or_false] at h
  rcases h with rfl | rfl <;> rfl

namespace Semantics

variable {s : Semantics} {operands : List Word} {field : Option BitField}

/-- What an operation needs to have a result. -/
def Defined (s : Semantics) (operands : List Word) (field : Option BitField) : Prop :=
  match s.kind with
  | .add | .sub | .min | .max => s.type.isFloat = true → s.type.bits ∈ Operation.allWidths
  | .mul => s.type.bits ∈ Operation.allWidths
  | .fma => s.type.bits ∈ Operation.wordWidths
  | .shiftLeft | .shiftRight => operands.length = 2
  | .extract | .insert => field.isSome = true
  | _ => True

theorem floatResult_of_isSome {result : Option Word} (h : result.isSome = true) :
    ∃ v, s.floatResult result = .ok v := by
  obtain ⟨v, rfl⟩ := Option.isSome_iff_exists.1 h
  exact ⟨v, rfl⟩

/-- The operations that integers and floats share. -/
theorem float_or_integer {op : FloatOp} {a b v : Word}
    (h : s.type.isFloat = true → s.type.bits ∈ Operation.allWidths) :
    ∃ w, (if s.type.isFloat then s.floatResult (FloatElement.binary op s.type.bits a b)
      else .ok v) = .ok w := by
  cases hfloat : s.type.isFloat with
  | true => exact floatResult_of_isSome (FloatElement.binary_isSome op (h hfloat) a b)
  | false => exact ⟨v, rfl⟩

/-- Where an operation has what it needs, it has a result. -/
theorem evaluate_of_defined (h : s.Defined operands field) :
    ∃ v, s.evaluate operands field = .ok v := by
  rw [evaluate]
  rw [Defined] at h
  cases hkind : s.kind <;> simp only [hkind] at h ⊢
  case add | sub | min | max => exact float_or_integer h
  case mul => exact floatResult_of_isSome (FloatElement.binary_isSome .mul h _ _)
  case fma => exact floatResult_of_isSome (FloatElement.fma_isSome h _ _ _)
  case shiftLeft | shiftRight =>
    match operands, h with
    | [a, b], _ => exact ⟨_, rfl⟩
  case extract | insert =>
    obtain ⟨f, rfl⟩ := Option.isSome_iff_exists.1 h
    exact ⟨_, rfl⟩
  all_goals exact ⟨_, rfl⟩

/-- The result of the operation, and zero where there is none. -/
def value (s : Semantics) (operands : List Word) (field : Option BitField) : Word :=
  match s.apply operands field with
  | .ok v => v
  | .error _ => 0

/-- Only shifts ask for the policy. -/
theorem value_policy {kind : OperationKind} {arity : Arity} {t : ElementType}
    (hleft : kind ≠ .shiftLeft) (hright : kind ≠ .shiftRight) (policy other : ShiftPolicy) :
    (mk kind arity t policy).value operands field = (mk kind arity t other).value operands field := by
  have hevaluate : (mk kind arity t policy).evaluate operands field =
      (mk kind arity t other).evaluate operands field := by
    cases kind <;> first | rfl | contradiction
  simp only [value, apply, hevaluate]

end Semantics

namespace Operation

variable {op : Operation} {t : ElementType} {operands : List Word} {field : Option BitField}

theorem defined_of_supports (hop : op ∈ builtin) (hs : op.supports t = true) (policy : ShiftPolicy)
    (hlen : operands.length = op.operandCount)
    (hfield : op.shape.hasBitField = true → field.isSome = true) :
    (Semantics.mk op.kind op.arity t policy).Defined operands field := by
  simp only [builtin, List.mem_cons, List.not_mem_nil, or_false] at hop
  rcases hop with rfl | rfl | rfl | rfl | rfl | rfl | rfl | rfl | rfl | rfl | rfl | rfl | rfl | rfl |
    rfl | rfl | rfl | rfl <;>
    simp_all [Semantics.Defined, supports, operandCount, Arity.operands, OperationClass.hasBitField]

/-- The operations that shift are those of the shift class. -/
theorem kind_ne_shift (hop : op ∈ builtin) (hshape : op.shape ≠ .shift) :
    op.kind ≠ .shiftLeft ∧ op.kind ≠ .shiftRight := by
  revert op
  decide

/-- **Every operation of the catalog has a result** on each type that it supports, if it gets its
number of operands, and a bit field where it needs one. -/
theorem apply_builtin (hop : op ∈ builtin) (hs : op.supports t = true) (policy : ShiftPolicy)
    (hlen : operands.length = op.operandCount)
    (hfield : op.shape.hasBitField = true → field.isSome = true) :
    let s := Semantics.mk op.kind op.arity t policy
    s.apply operands field = .ok (s.value operands field) := by
  obtain ⟨v, hv⟩ :=
    Semantics.evaluate_of_defined (defined_of_supports hop hs policy hlen hfield)
  have happly : (Semantics.mk op.kind op.arity t policy).apply operands field = .ok v :=
    (if_pos hlen).trans hv
  simp only [Semantics.value, happly]

end Operation

end Crosscheck
