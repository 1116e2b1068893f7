import Crosscheck.Float.Format
import Crosscheck.Word

/-!
# Crosscheck.Float.Arithmetic

**Floating-point arithmetic on patterns.** Operations compute the exact value and round once, to
nearest with ties to even.

* `Datum.add`, `Datum.mul` and `Datum.neg` are exact arithmetic, signs of zeros included.
* `FloatFormat.add`, `mul`, `fma`, … round the exact result of a format's own patterns.
* `FloatElement.binary` and `FloatElement.fma` dispatch on the width of an element. Half-precision operands are
  widened to single precision, and the single-precision result is rounded to half precision.
* `min` and `max` never round: a number wins over NaN, and negative zero is below positive zero.
-/

namespace Crosscheck

namespace Datum

/-- The signed significand at a smaller exponent. -/
def scaled (negative : Bool) (significand : Nat) (shift : Nat) : Int :=
  if negative then -((significand <<< shift : Nat) : Int) else (significand <<< shift : Nat)

/-- The exact sum. A sum that cancels is positive zero; two negative zeros stay negative. -/
def add : Datum → Datum → Datum
  | .nan, _ => .nan
  | _, .nan => .nan
  | .infinite s, .infinite t => if s = t then .infinite s else .nan
  | .infinite s, .finite .. => .infinite s
  | .finite .., .infinite t => .infinite t
  | .finite s m p, .finite t n q =>
    let e := min p q
    let sum := scaled s m (p - e).toNat + scaled t n (q - e).toNat
    .finite (if sum = 0 then s && t else decide (sum < 0)) sum.natAbs e

/-- The opposite value; NaN stays NaN. -/
def neg : Datum → Datum
  | .nan => .nan
  | .infinite s => .infinite (!s)
  | .finite s m e => .finite (!s) m e

/-- The exact product. Zero times infinity has no value. -/
def mul : Datum → Datum → Datum
  | .nan, _ => .nan
  | _, .nan => .nan
  | .infinite s, .infinite t => .infinite (s != t)
  | .infinite s, .finite t n _ => if n = 0 then .nan else .infinite (s != t)
  | .finite s m _, .infinite t => if m = 0 then .nan else .infinite (s != t)
  | .finite s m p, .finite t n q => .finite (s != t) (m * n) (p + q)

end Datum

namespace FloatFormat

/-- The sum, rounded once. -/
def add (f : FloatFormat) (a b : Nat) : Nat := f.round ((f.decode a).add (f.decode b))

/-- The difference, rounded once. -/
def sub (f : FloatFormat) (a b : Nat) : Nat := f.round ((f.decode a).add (f.decode b).neg)

/-- The product, rounded once. -/
def mul (f : FloatFormat) (a b : Nat) : Nat := f.round ((f.decode a).mul (f.decode b))

/-- `a * b + c`, rounded once. -/
def fma (f : FloatFormat) (a b c : Nat) : Nat :=
  f.round (((f.decode a).mul (f.decode b)).add (f.decode c))

/-- The place of a number among the numbers of its format: its magnitude, counted from zero
downwards for negative ones. Both zeros stand at place zero. -/
def place (f : FloatFormat) (pattern : Nat) : Int :=
  if f.isNegative pattern then -(f.magnitude pattern : Int) else (f.magnitude pattern : Int)

/-- The lesser operand. -/
def min (f : FloatFormat) (a b : Nat) : Nat :=
  match f.isNaN a, f.isNaN b with
  | true, true => f.quietNaN
  | true, false => b
  | false, true => a
  | false, false =>
    if f.place a = 0 ∧ f.place b = 0 then if f.isNegative a then a else b
    else if f.place b < f.place a then b else a

/-- The greater operand. -/
def max (f : FloatFormat) (a b : Nat) : Nat :=
  match f.isNaN a, f.isNaN b with
  | true, true => f.quietNaN
  | true, false => b
  | false, true => a
  | false, false =>
    if f.place a = 0 ∧ f.place b = 0 then if f.isNegative a then b else a
    else if f.place a < f.place b then b else a

end FloatFormat

/-- The binary operations of floating-point types. -/
inductive FloatOp where
  /-- Sum. -/
  | add
  /-- Difference. -/
  | sub
  /-- Product. -/
  | mul
  /-- Lesser operand. -/
  | min
  /-- Greater operand. -/
  | max
  deriving DecidableEq, Repr

/-- The operation on patterns of one format. -/
def FloatOp.run : FloatOp → FloatFormat → Nat → Nat → Nat
  | .add => FloatFormat.add
  | .sub => FloatFormat.sub
  | .mul => FloatFormat.mul
  | .min => FloatFormat.min
  | .max => FloatFormat.max

namespace FloatElement

/-- The pattern held by the low bits of a word. -/
def pattern (bits : Nat) (v : Word) : Nat := (Word.low bits v).toNat

/-- A binary operation on elements of the given width; `none` where no format has that width. -/
def binary (op : FloatOp) (bits : Nat) (a b : Word) : Option Word :=
  match bits with
  | 16 =>
    let widen := FloatFormat.binary16.convert .binary32
    let wide := op.run .binary32 (widen (pattern 16 a)) (widen (pattern 16 b))
    some (BitVec.ofNat 64 (FloatFormat.binary32.convert .binary16 wide))
  | 32 => some (BitVec.ofNat 64 (op.run .binary32 (pattern 32 a) (pattern 32 b)))
  | 64 => some (BitVec.ofNat 64 (op.run .binary64 (pattern 64 a) (pattern 64 b)))
  | _ => none

/-- Fused multiply-add; defined for single and double precision. -/
def fma (bits : Nat) (a b c : Word) : Option Word :=
  match bits with
  | 32 => some (BitVec.ofNat 64 (FloatFormat.binary32.fma (pattern 32 a) (pattern 32 b) (pattern 32 c)))
  | 64 => some (BitVec.ofNat 64 (FloatFormat.binary64.fma (pattern 64 a) (pattern 64 b) (pattern 64 c)))
  | _ => none

/-- Flips the sign bit, NaN included. All other bits of the word stay. -/
def neg (bits : Nat) (a : Word) : Word := a ^^^ (1 <<< (bits - 1))

/-- Whether the low bits are a NaN of that width; no word is one where no format has that width. -/
def isNaN (bits : Nat) (a : Word) : Bool :=
  match FloatFormat.ofWidth? bits with
  | some f => f.isNaN (pattern bits a)
  | none => false

end FloatElement

end Crosscheck
