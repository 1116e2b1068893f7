import Crosscheck.Catalog.Operation
import Crosscheck.Error
import Crosscheck.Text.Blank
import Crosscheck.Word.Bitwise

/-!
# Crosscheck.Catalog.Registry

**The catalog of a run: its types, its operations and its shift convention.** A registry is
validated once, when it is built, and is read-only afterwards; `Registry.ofParts` is the only check,
and what it establishes is part of the type.

Opcodes are `mnemonic.type`. `Registry.decodeOpcode?` reads one back: the first catalogued operation
that is written so and supports the type wins, and a type name finds the first type of that name.
-/

namespace Crosscheck

/-- A validated catalog. -/
structure Registry where
  /-- The element types, in catalog order. -/
  types : List ElementType
  /-- The operations, in catalog order. -/
  operations : List Operation
  /-- What shift amounts at or beyond the width do. -/
  shiftPolicy : ShiftPolicy
  /-- There is a type. -/
  types_ne_nil : types ≠ []
  /-- There is an operation. -/
  operations_ne_nil : operations ≠ []
  /-- All types have whole bytes and an exact byte size. -/
  wellFormed : ∀ t ∈ types, t.WellFormed

namespace Registry

/-- Validates a catalog. Missing types are reported first, missing operations second, then the
first type that is not well formed. -/
def ofParts (types : List ElementType) (operations : List Operation) (policy : ShiftPolicy) :
    Except CheckError Registry :=
  if ht : types = [] then .error (.emptyCatalog "types")
  else if ho : operations = [] then .error (.emptyCatalog "operations")
  else
    match h : types.find? (fun t => !decide t.WellFormed) with
    | some t => .error (.invalidType t.name t.bits t.bytes)
    | none => .ok
      { types := types
        operations := operations
        shiftPolicy := policy
        types_ne_nil := ht
        operations_ne_nil := ho
        wellFormed := by
          intro t mem
          have := List.find?_eq_none.1 h t mem
          simpa using this }

/-- The built-in catalog. -/
def builtin (policy : ShiftPolicy) : Registry where
  types := ElementType.builtin
  operations := Operation.builtin
  shiftPolicy := policy
  types_ne_nil := by simp [ElementType.builtin]
  operations_ne_nil := by simp [Operation.builtin]
  wellFormed := ElementType.builtin_wellFormed

/-- The first type of a name. -/
def typeNamed? (r : Registry) (name : String) : Option ElementType :=
  r.types.find? (·.name == name)

/-- The first operation of a kind. -/
def operation? (r : Registry) (kind : OperationKind) : Option Operation :=
  r.operations.find? (·.kind == kind)

/-- The operations of a class, in catalog order. -/
def operationsIn (r : Registry) (shape : OperationClass) : List Operation :=
  r.operations.filter (·.shape == shape)

/-- The types that some operation of a class supports, in catalog order. -/
def typesFor (r : Registry) (shape : OperationClass) : List ElementType :=
  r.types.filter fun t => (r.operationsIn shape).any (·.supports t)

/-- The type that an opcode names if it is one of the given operation. -/
def typeOfOpcode? (r : Registry) (op : Operation) (opcode : String) : Option ElementType := do
  let suffix ← Text.dropPrefix? (op.mnemonic.toList ++ ['.']) opcode.toList
  let t ← r.typeNamed? (String.ofList suffix)
  if op.supports t then some t else none

/-- The operation and type that an opcode is written for. -/
def decodeOpcode? (r : Registry) (opcode : String) : Option (Operation × ElementType) :=
  r.operations.findSome? fun op => (r.typeOfOpcode? op opcode).map fun t => (op, t)

end Registry

end Crosscheck
