import Crosscheck.Matrix.Point
import Crosscheck.Order
import Crosscheck.Random.Sampling

/-!
# Crosscheck.Matrix.Inputs

**The inputs of a test point.** First comes every combination of the operands' edge values, with the
last operand varying fastest; then random rows, drawn operand by operand from the point's own
stream. Asking for more random rows appends to the same stream, so it never changes earlier rows.
-/

namespace Crosscheck.Inputs

/-- The type of shift amounts, whatever is shifted. -/
def shiftAmountType : ElementType := .ofWidth "u32" 32 .unsigned

/-- Whether an operand is a shift amount. -/
def isShiftAmount (op : Operation) (operand : Nat) : Bool := op.shape == .shift && operand == 1

/-- The element type of each operand. -/
def operandTypes (op : Operation) (t : ElementType) : List ElementType :=
  (List.range op.operandCount).map fun i => if isShiftAmount op i then shiftAmountType else t

/-- Boundary shift amounts for a value of `bits` bits: around zero, around the width, and far
beyond it. -/
def shiftAmountEdges (bits : Nat) : List Word :=
  ascending (fun a b => decide (a < b))
    [0, 1, BitVec.ofNat 64 (bits - 1), BitVec.ofNat 64 bits, BitVec.ofNat 64 (bits + 1), 255,
     0xFFFFFFFF]

/-- The edge values of each operand. -/
def edges (op : Operation) (t : ElementType) : List (List Word) :=
  (operandTypes op t).zipIdx.map fun (operandType, i) =>
    if isShiftAmount op i then shiftAmountEdges t.bits else operandType.edgeValues

/-- Every combination of one value per operand; the first operand varies slowest. -/
def combinations : List (List Word) → List (List Word)
  | [] => [[]]
  | values :: later => values.flatMap fun v => (combinations later).map (v :: ·)

/-- Draws a shift amount: mostly one up to twice the width, and any 32-bit amount otherwise. -/
def drawShiftAmount (bits : Nat) (g : Random.ChaCha) : Word × Random.ChaCha :=
  let (inRange, g) := Random.chance 0xC000000000000000 g
  if inRange then
    let (n, g) := Random.below (2 * bits + 1) g
    (BitVec.ofNat 64 n, g)
  else
    let (w, g) := g.next32
    (BitVec.ofNat 64 w.toNat, g)

/-- Draws an operand. -/
def drawOperand (op : Operation) (t : ElementType) (operand : Nat) (g : Random.ChaCha) :
    Word × Random.ChaCha :=
  if isShiftAmount op operand then drawShiftAmount t.bits g
  else
    let (v, g) := g.next64
    (t.truncate v, g)

/-- Draws the operands `operand, operand + 1, …`, `count` of them. -/
def drawRow (op : Operation) (t : ElementType) :
    (count operand : Nat) → Random.ChaCha → List Word × Random.ChaCha
  | 0, _, g => ([], g)
  | count + 1, operand, g =>
    let (v, g) := drawOperand op t operand g
    let (vs, g) := drawRow op t count (operand + 1) g
    (v :: vs, g)

/-- Draws rows of operands. -/
def drawRows (op : Operation) (t : ElementType) : Nat → Random.ChaCha → List (List Word)
  | 0, _ => []
  | n + 1, g =>
    let (row, g) := drawRow op t op.operandCount 0 g
    row :: drawRows op t n g

/-- All rows of a point. -/
def rowsOf (op : Operation) (t : ElementType) (seed : Word) (samples : Nat) : List (List Word) :=
  combinations (edges op t) ++ drawRows op t samples (Random.ChaCha.ofSeed seed)

/-- The input buffers of a point: one per operand, as far as there are names. -/
def buffersOf (op : Operation) (t : ElementType) (seed : Word) (samples : Nat) : List Buffer :=
  let rows := rowsOf op t seed samples
  ((operandTypes op t).zip inputNames).zipIdx.map fun ((operandType, name), i) =>
    Buffer.ofWords name operandType (rows.map fun row => row.getD i 0)

end Crosscheck.Inputs
