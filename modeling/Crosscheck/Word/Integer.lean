import Crosscheck.Word

/-!
# Crosscheck.Word.Integer

**Integer arithmetic on the low bits of words.** Results wrap modulo `2 ^ bits`. Signedness is
visible in `min` and `max` only: the low half of a sum, difference or product does not depend on it.
-/

namespace Crosscheck.Integer

open Word

/-- The sum, modulo `2 ^ bits`. -/
def add (bits : Nat) (a b : Word) : Word := low bits (a + b)

/-- The difference, modulo `2 ^ bits`. -/
def sub (bits : Nat) (a b : Word) : Word := low bits (a - b)

/-- The low `bits` bits of the product. -/
def mulLow (bits : Nat) (a b : Word) : Word := low bits (a * b)

/-- The low `bits` bits of `a * b + c`. -/
def mulAddLow (bits : Nat) (a b c : Word) : Word := low bits (a * b + c)

/-- Two's complement negation. -/
def neg (bits : Nat) (a : Word) : Word := low bits (0 - a)

/-- Strict order of the low bits, read as two's complement or as naturals. -/
def lessThan (bits : Nat) (signed : Bool) (a b : Word) : Bool :=
  if signed then decide (Word.signed bits a < Word.signed bits b)
  else decide ((low bits a).toNat < (low bits b).toNat)

/-- The least operand; the first one of two equal ones. -/
def min (bits : Nat) (signed : Bool) (a b : Word) : Word :=
  if lessThan bits signed b a then low bits b else low bits a

/-- The greatest operand; the first one of two equal ones. -/
def max (bits : Nat) (signed : Bool) (a b : Word) : Word :=
  if lessThan bits signed a b then low bits b else low bits a

end Crosscheck.Integer
