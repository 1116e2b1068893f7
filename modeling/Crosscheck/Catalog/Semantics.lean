import Crosscheck.Catalog.Registry
import Crosscheck.Word.Integer

/-!
# Crosscheck.Catalog.Semantics

**The reference semantics of catalogued operations, one element at a time.** `Registry.semanticsOf`
selects the function for an operation on a type, and `Semantics.apply` computes a result word from
operand words.

Operands come in the order of a kernel's input buffers: a shift amount is the second operand, and
an inserted field comes before its base. All operands are cut to the type except the shift amount,
which is a 32-bit value whatever the value type is. The number of operands is checked first and the
bit field second.
-/

namespace Crosscheck

/-- A catalogued operation on a type, ready to be applied. -/
structure Semantics where
  /-- Which operation. -/
  kind : OperationKind
  /-- How many operands it takes. -/
  arity : Arity
  /-- The type of values and results. -/
  type : ElementType
  /-- What shift amounts at or beyond the width do. -/
  shiftPolicy : ShiftPolicy
  deriving DecidableEq

/-- The semantics of an operation on a type, if the operation supports it. -/
def Registry.semanticsOf (r : Registry) (op : Operation) (t : ElementType) :
    Except CheckError Semantics :=
  if op.supports t then .ok ⟨op.kind, op.arity, t, r.shiftPolicy⟩
  else .error (.unsupportedCombination op.mnemonic t.name)

namespace Semantics

/-- The value operand at an index, cut to the type; zero where there is none. -/
def operand (s : Semantics) (operands : List Word) (i : Nat) : Word :=
  match operands[i]? with
  | some v => s.type.truncate v
  | none => 0

/-- A floating-point result, where the width has a format. -/
def floatResult (s : Semantics) (result : Option Word) : Except CheckError Word :=
  match result with
  | some v => .ok v
  | none => .error (.undefinedSemantics s.kind.title s.type.bits)

/-- The shift amount among the operands. -/
def shiftAmount (s : Semantics) (operands : List Word) : Except CheckError Word :=
  match operands[1]? with
  | some v => .ok v
  | none => .error (.undefinedSemantics s.kind.title s.type.bits)

/-- The bit field of the operation. -/
def requireField (s : Semantics) (field : Option BitField) : Except CheckError BitField :=
  match field with
  | some f => .ok f
  | none => .error (.missingBitField s.kind.name)

/-- The result of the operation on operands of the right number. -/
def evaluate (s : Semantics) (operands : List Word) (field : Option BitField) :
    Except CheckError Word :=
  let bits := s.type.bits
  let signed := s.type.isSigned
  let isFloat := s.type.isFloat
  let a := s.operand operands 0
  let b := s.operand operands 1
  let c := s.operand operands 2
  match s.kind with
  | .add =>
    if isFloat then s.floatResult (FloatElement.binary .add bits a b) else .ok (Integer.add bits a b)
  | .sub =>
    if isFloat then s.floatResult (FloatElement.binary .sub bits a b) else .ok (Integer.sub bits a b)
  | .mulLow => .ok (Integer.mulLow bits a b)
  | .mul => s.floatResult (FloatElement.binary .mul bits a b)
  | .min =>
    if isFloat then s.floatResult (FloatElement.binary .min bits a b)
    else .ok (Integer.min bits signed a b)
  | .max =>
    if isFloat then s.floatResult (FloatElement.binary .max bits a b)
    else .ok (Integer.max bits signed a b)
  | .and => .ok (Bitwise.and bits a b)
  | .or => .ok (Bitwise.or bits a b)
  | .xor => .ok (Bitwise.xor bits a b)
  | .neg => .ok (if isFloat then FloatElement.neg bits a else Integer.neg bits a)
  | .not => .ok (Bitwise.not bits a)
  | .reverse => .ok (Bitwise.reverse bits a)
  | .mulAdd => .ok (Integer.mulAddLow bits a b c)
  | .fma => s.floatResult (FloatElement.fma bits a b c)
  | .shiftLeft => do
    let amount ← s.shiftAmount operands
    .ok (Bitwise.shiftLeft s.shiftPolicy bits a amount)
  | .shiftRight => do
    let amount ← s.shiftAmount operands
    .ok (Bitwise.shiftRight s.shiftPolicy bits signed a amount)
  | .extract => do
    let f ← s.requireField field
    .ok (f.extract bits signed a)
  | .insert => do
    let f ← s.requireField field
    .ok (f.insert bits a b)

/-- The result of the operation, after checking the number of operands. -/
def apply (s : Semantics) (operands : List Word) (field : Option BitField) :
    Except CheckError Word :=
  if operands.length = s.arity.operands then s.evaluate operands field
  else .error (.operandCount s.kind.title s.arity.operands operands.length)

end Semantics

end Crosscheck
