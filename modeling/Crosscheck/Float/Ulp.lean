import Crosscheck.Float.Arithmetic

/-!
# Crosscheck.Float.Ulp

**The distance between floating-point values, in units in the last place.** Between two numbers of
one sign it is the number of representable steps from one to the other. Numbers of different sign,
and anything compared with NaN, are as far apart as the format's own counter can say.
-/

namespace Crosscheck.Ulp

/-- The largest distance a counter of the given width can hold: the answer for incomparable
values. -/
def unbounded (counterBits : Nat) : Nat := 1 <<< counterBits - 1

/-- The distance of two patterns of a format, in a counter of `counterBits` bits. Equal values,
the two zeros among them, are at distance zero. -/
def distance (f : FloatFormat) (counterBits : Nat) (a b : Nat) : Nat :=
  if f.isNaN a || f.isNaN b then unbounded counterBits
  else if f.place a = f.place b then 0
  else if f.isNegative a != f.isNegative b then unbounded counterBits
  else (f.magnitude a - f.magnitude b) + (f.magnitude b - f.magnitude a)

/-- The counter that a format's distances are held in. -/
def counterBits (bits : Nat) : Nat := if bits = 64 then 64 else 32

/-- The distance of two elements as their own format counts it: 32-bit counts for half and single
precision, 64-bit counts for double precision. -/
def native (bits : Nat) (a b : Word) : Word :=
  match FloatFormat.ofWidth? bits with
  | some f =>
    BitVec.ofNat 64 (distance f (counterBits bits) (FloatElement.pattern bits a) (FloatElement.pattern bits b))
  | none => BitVec.allOnes 64

/-- The distance of two elements, with "incomparable" the same largest word for every width. -/
def ofBits (bits : Nat) (a b : Word) : Word :=
  let d := native bits a b
  if d.toNat = unbounded (counterBits bits) then BitVec.allOnes 64 else d

end Crosscheck.Ulp
