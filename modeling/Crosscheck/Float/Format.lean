/-!
# Crosscheck.Float.Format

**Binary floating-point formats and what their patterns denote.** A format is two field widths,
and everything else (bias, special patterns, rounding) follows from them, so one definition serves
half, single and double precision.

* A *pattern* is a natural number below `2 ^ width`; its low bits without the sign bit are its
  *magnitude*. Magnitudes order the non-negative values, which is why rounding, comparison and
  the distance between values are all arithmetic on magnitudes.
* `FloatFormat.decode` reads a pattern as a `Datum`: not a number, an infinity, or the exact value
  `± significand * 2 ^ exponent`.
* `FloatFormat.round` is its inverse up to rounding: the nearest pattern of an exact value, with
  ties going to the even magnitude and overflow going to infinity.
-/

namespace Crosscheck

/-- A binary floating-point format. -/
structure FloatFormat where
  /-- Width of the exponent field. -/
  exponentBits : Nat
  /-- Width of the fraction field. -/
  fractionBits : Nat
  deriving DecidableEq, Repr

/-- What a pattern denotes. -/
inductive Datum where
  /-- Not a number. -/
  | nan
  /-- An infinity of the given sign. -/
  | infinite (negative : Bool)
  /-- The value `significand * 2 ^ exponent`, negated if `negative`; zeros keep their sign. -/
  | finite (negative : Bool) (significand : Nat) (exponent : Int)
  deriving DecidableEq, Repr

/-- The quotient rounded to the nearest natural number; a tie goes to the even one. -/
def roundHalfEven (numerator denominator : Nat) : Nat :=
  let quotient := numerator / denominator
  let twice := 2 * (numerator % denominator)
  if twice < denominator then quotient
  else if denominator < twice then quotient + 1
  else quotient + quotient % 2

namespace FloatFormat

/-- Half precision. -/
def binary16 : FloatFormat := ⟨5, 10⟩

/-- Single precision. -/
def binary32 : FloatFormat := ⟨8, 23⟩

/-- Double precision. -/
def binary64 : FloatFormat := ⟨11, 52⟩

/-- The format of a width, if there is one. -/
def ofWidth? : Nat → Option FloatFormat
  | 16 => some binary16
  | 32 => some binary32
  | 64 => some binary64
  | _ => none

/-- Number of bits of a pattern. -/
def width (f : FloatFormat) : Nat := 1 + f.exponentBits + f.fractionBits

/-- The pattern of negative zero: the sign bit alone. -/
def signBit (f : FloatFormat) : Nat := 1 <<< (f.exponentBits + f.fractionBits)

/-- The magnitude of the infinities. -/
def infinity (f : FloatFormat) : Nat := (1 <<< f.exponentBits - 1) <<< f.fractionBits

/-- The pattern that every arithmetic result without a value gets. -/
def quietNaN (f : FloatFormat) : Nat := f.infinity + 1 <<< (f.fractionBits - 1)

/-- The exponent of the last place of the subnormal values, the least one that occurs. -/
def minExponent (f : FloatFormat) : Int :=
  2 - (1 <<< (f.exponentBits - 1) : Nat) - (f.fractionBits : Int)

/-- The pattern without its sign. -/
def magnitude (f : FloatFormat) (pattern : Nat) : Nat := pattern % f.signBit

/-- Whether the sign bit is set. -/
def isNegative (f : FloatFormat) (pattern : Nat) : Bool := pattern / f.signBit % 2 == 1

/-- Whether a pattern denotes no number. -/
def isNaN (f : FloatFormat) (pattern : Nat) : Bool := decide (f.infinity < f.magnitude pattern)

/-- The pattern of a sign and a magnitude. -/
def ofMagnitude (f : FloatFormat) (negative : Bool) (magnitude : Nat) : Nat :=
  if negative then f.signBit + magnitude else magnitude

/-- What a pattern denotes. -/
def decode (f : FloatFormat) (pattern : Nat) : Datum :=
  let magnitude := f.magnitude pattern
  let field := magnitude >>> f.fractionBits
  let fraction := magnitude % 1 <<< f.fractionBits
  if f.isNaN pattern then .nan
  else if magnitude = f.infinity then .infinite (f.isNegative pattern)
  else if field = 0 then .finite (f.isNegative pattern) fraction f.minExponent
  else .finite (f.isNegative pattern) (1 <<< f.fractionBits + fraction) (f.minExponent + (field - 1))

/-- The magnitude nearest to `significand * 2 ^ exponent`. The last place is chosen so that the
significand fills the fraction, or is that of the subnormals; a significand that rounds up to the
next power of two carries into the exponent field by itself. -/
def roundMagnitude (f : FloatFormat) (significand : Nat) (exponent : Int) : Nat :=
  if significand = 0 then 0
  else
    let lastPlace := max f.minExponent (exponent + significand.log2 - f.fractionBits)
    let rounded :=
      if lastPlace ≤ exponent then significand <<< (exponent - lastPlace).toNat
      else roundHalfEven significand (1 <<< (lastPlace - exponent).toNat)
    min f.infinity ((lastPlace - f.minExponent).toNat <<< f.fractionBits + rounded)

/-- The pattern nearest to an exact value. -/
def round (f : FloatFormat) : Datum → Nat
  | .nan => f.quietNaN
  | .infinite negative => f.ofMagnitude negative f.infinity
  | .finite negative significand exponent =>
    f.ofMagnitude negative (f.roundMagnitude significand exponent)

/-- The pattern of format `target` nearest to the value of a pattern of format `f`. -/
def convert (f target : FloatFormat) (pattern : Nat) : Nat := target.round (f.decode pattern)

end FloatFormat

end Crosscheck
