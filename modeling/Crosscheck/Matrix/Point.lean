import Crosscheck.Buffer
import Crosscheck.Catalog.Registry

/-!
# Crosscheck.Matrix.Point

**Test points: one operation on one type in one template, with its inputs.** A point's name
identifies it, and its inputs depend on the run's seed and that name alone, so it reproduces
whatever else is selected with it.
-/

namespace Crosscheck

/-- A test point. -/
structure Point where
  /-- Its position among all points of the template. -/
  index : Nat
  /-- Its name. -/
  name : String
  /-- The template it belongs to. -/
  template : String
  /-- The operation. -/
  operation : Operation
  /-- The type of values and results. -/
  type : ElementType
  /-- The bit field, for operations on fields. -/
  bitField : Option BitField
  /-- The seed of its random inputs. -/
  seed : Word
  /-- Its input buffers, in operand order. -/
  inputs : List Buffer
  deriving DecidableEq, Repr

/-- The names of input buffers, in operand order. -/
def inputNames : List String := ["input_a", "input_b", "input_c"]

/-- The name of the output buffer. -/
def outputName : String := "output"

namespace Point

/-- The opcode of the point. -/
def opcode (p : Point) : String := p.operation.opcode p.type

/-- The number of elements, which is that of the first input buffer. -/
def length (p : Point) : Nat :=
  match p.inputs with
  | [] => 0
  | b :: _ => b.length

/-- The shape of the output buffer. -/
def outputSpec (p : Point) : BufferSpec := ⟨outputName, p.type, p.length⟩

/-- The operands of an element, in buffer order. -/
def operandsAt (p : Point) (i : Nat) : List Word := p.inputs.map fun b => b.data.getD i 0

/-- The operands of all elements. -/
def rows (p : Point) : List (List Word) := Buffer.rows p.length (p.inputs.map (·.data))

/-- The name of the point of a template for an operation, a type and maybe a bit field. -/
def nameOf (template : String) (op : Operation) (t : ElementType) (field : Option BitField) :
    String :=
  match field with
  | some f => template ++ "/" ++ op.opcode t ++ "/" ++ f.text
  | none => template ++ "/" ++ op.opcode t

/-- One step of the hash over a name: mix in a byte, then multiply by an odd constant. -/
def seedStep (hash : Word) (byte : UInt8) : Word :=
  (hash ^^^ BitVec.ofNat 64 byte.toNat) * 0x00000100000001b3

/-- The seed of a point: a hash over the bytes of its name that starts from the run's seed. -/
def seedOf (runSeed : Word) (name : String) : Word :=
  name.toUTF8.toList.foldl seedStep (0xcbf29ce484222325 ^^^ runSeed)

end Point

end Crosscheck
