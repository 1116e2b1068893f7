import Crosscheck.Catalog.ElementType
import Crosscheck.Word.BitField

/-!
# Crosscheck.Catalog.Operation

**Operations: which instructions are tested, on which types.** An operation has a kind, which
selects its reference semantics, and a profile: how its opcode is written, how many operands it
takes, which template class it belongs to and which types it is defined for.
-/

namespace Crosscheck

/-- The operations that have reference semantics. -/
inductive OperationKind where
  /-- Sum. -/
  | add
  /-- Difference. -/
  | sub
  /-- Low half of an integer product. -/
  | mulLow
  /-- Floating-point product. -/
  | mul
  /-- Least operand. -/
  | min
  /-- Greatest operand. -/
  | max
  /-- Bitwise conjunction. -/
  | and
  /-- Bitwise disjunction. -/
  | or
  /-- Bitwise exclusive disjunction. -/
  | xor
  /-- Negation. -/
  | neg
  /-- Bitwise complement. -/
  | not
  /-- Bit reversal. -/
  | reverse
  /-- Low half of an integer product, plus a third operand. -/
  | mulAdd
  /-- Floating-point product plus a third operand, rounded once. -/
  | fma
  /-- Shift left. -/
  | shiftLeft
  /-- Shift right. -/
  | shiftRight
  /-- Bit-field extract. -/
  | extract
  /-- Bit-field insert. -/
  | insert
  deriving DecidableEq, Repr

namespace OperationKind

/-- All kinds, in catalog order. -/
def all : List OperationKind :=
  [.add, .sub, .mulLow, .mul, .min, .max, .and, .or, .xor, .neg, .not, .reverse, .mulAdd, .fma,
   .shiftLeft, .shiftRight, .extract, .insert]

/-- The written name of a kind in reports. -/
def name : OperationKind → String
  | .add => "add"
  | .sub => "sub"
  | .mulLow => "mul_lo"
  | .mul => "mul"
  | .min => "min"
  | .max => "max"
  | .and => "and"
  | .or => "or"
  | .xor => "xor"
  | .neg => "neg"
  | .not => "not"
  | .reverse => "brev"
  | .mulAdd => "mad"
  | .fma => "fma"
  | .shiftLeft => "shl"
  | .shiftRight => "shr"
  | .extract => "bfe"
  | .insert => "bfi"

/-- The written name of a kind in error messages. -/
def title : OperationKind → String
  | .add => "Add"
  | .sub => "Sub"
  | .mulLow => "MulLo"
  | .mul => "Mul"
  | .min => "Min"
  | .max => "Max"
  | .and => "And"
  | .or => "Or"
  | .xor => "Xor"
  | .neg => "Neg"
  | .not => "Not"
  | .reverse => "Brev"
  | .mulAdd => "Mad"
  | .fma => "Fma"
  | .shiftLeft => "Shl"
  | .shiftRight => "Shr"
  | .extract => "Bfe"
  | .insert => "Bfi"

/-- The kind of a written name. -/
def ofName? (s : String) : Option OperationKind := all.find? (·.name == s)

end OperationKind

/-- The template shape an operation fits. -/
inductive OperationClass where
  /-- Two operands of the value type. -/
  | binary
  /-- One operand of the value type. -/
  | unary
  /-- Three operands of the value type. -/
  | ternary
  /-- A value and a shift amount. -/
  | shift
  /-- A value; the field is an immediate. -/
  | bitFieldExtract
  /-- A field value and a base; the field is an immediate. -/
  | bitFieldInsert
  deriving DecidableEq, Repr

namespace OperationClass

/-- All classes. -/
def all : List OperationClass := [.binary, .unary, .ternary, .shift, .bitFieldExtract, .bitFieldInsert]

/-- The written name of a class. -/
def name : OperationClass → String
  | .binary => "binary"
  | .unary => "unary"
  | .ternary => "ternary"
  | .shift => "shift"
  | .bitFieldExtract => "bit_field_extract"
  | .bitFieldInsert => "bit_field_insert"

/-- The class of a written name. -/
def ofName? (s : String) : Option OperationClass := all.find? (·.name == s)

/-- Whether points of this class carry a bit field. -/
def hasBitField : OperationClass → Bool
  | .bitFieldExtract | .bitFieldInsert => true
  | _ => false

end OperationClass

/-- How many operands an operation takes. -/
inductive Arity where
  /-- One operand. -/
  | unary
  /-- Two operands. -/
  | binary
  /-- Three operands. -/
  | ternary
  deriving DecidableEq, Repr

/-- The number of operands. -/
def Arity.operands : Arity → Nat
  | .unary => 1
  | .binary => 2
  | .ternary => 3

/-- A catalog entry. -/
structure Operation where
  /-- Which reference semantics apply. -/
  kind : OperationKind
  /-- The opcode without its type. -/
  mnemonic : String
  /-- How many operands it takes. -/
  arity : Arity
  /-- Which templates it fits. -/
  shape : OperationClass
  /-- The numeric classes it is defined for. -/
  numerics : List TypeClass
  /-- The widths it is defined for. -/
  widths : List Nat
  deriving DecidableEq, Repr

namespace Operation

/-- Whether an operation is defined for a type. -/
def supports (op : Operation) (t : ElementType) : Bool :=
  op.numerics.contains t.numeric && op.widths.contains t.bits

/-- The opcode of an operation on a type. -/
def opcode (op : Operation) (t : ElementType) : String := op.mnemonic ++ "." ++ t.name

/-- Number of operand buffers of a kernel for this operation. -/
def operandCount (op : Operation) : Nat := op.arity.operands

/-- Widths of most built-in operations. -/
def allWidths : List Nat := [16, 32, 64]

/-- Widths of the built-in operations without a half-word form. -/
def wordWidths : List Nat := [32, 64]

/-- The built-in operations, in catalog order. -/
def builtin : List Operation :=
  let int := [.unsigned, .signed]
  let intOrFloat := [.unsigned, .signed, .float]
  [⟨.add, "add", .binary, .binary, intOrFloat, allWidths⟩,
   ⟨.sub, "sub", .binary, .binary, intOrFloat, allWidths⟩,
   ⟨.mulLow, "mul.lo", .binary, .binary, int, allWidths⟩,
   ⟨.mul, "mul.rn", .binary, .binary, [.float], allWidths⟩,
   ⟨.min, "min", .binary, .binary, intOrFloat, allWidths⟩,
   ⟨.max, "max", .binary, .binary, intOrFloat, allWidths⟩,
   ⟨.and, "and", .binary, .binary, [.bits], allWidths⟩,
   ⟨.or, "or", .binary, .binary, [.bits], allWidths⟩,
   ⟨.xor, "xor", .binary, .binary, [.bits], allWidths⟩,
   ⟨.neg, "neg", .unary, .unary, [.signed, .float], allWidths⟩,
   ⟨.not, "not", .unary, .unary, [.bits], allWidths⟩,
   ⟨.reverse, "brev", .unary, .unary, [.bits], wordWidths⟩,
   ⟨.mulAdd, "mad.lo", .ternary, .ternary, int, allWidths⟩,
   ⟨.fma, "fma.rn", .ternary, .ternary, [.float], wordWidths⟩,
   ⟨.shiftLeft, "shl", .binary, .shift, [.bits], allWidths⟩,
   ⟨.shiftRight, "shr", .binary, .shift, [.unsigned, .signed, .bits], allWidths⟩,
   ⟨.extract, "bfe", .unary, .bitFieldExtract, int, wordWidths⟩,
   ⟨.insert, "bfi", .binary, .bitFieldInsert, [.bits], wordWidths⟩]

/-- The built-in operation of a kind. -/
def ofKind? (kind : OperationKind) : Option Operation := builtin.find? (·.kind == kind)

end Operation

end Crosscheck
