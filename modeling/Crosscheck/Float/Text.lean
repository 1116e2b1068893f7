import Crosscheck.Float.Arithmetic
import Crosscheck.Float.Shortest

/-!
# Crosscheck.Float.Text

**How floating-point elements are written in diagnostics.** Single and double precision are written
in scientific notation, half precision positionally with the digits of its single-precision value.
Infinities are `inf` and `-inf`, NaN has no sign, and zeros keep theirs.
-/

namespace Crosscheck

namespace Decimal

/-- The digits of the number. -/
def digitText (d : Decimal) : String := toString d.digits

/-- Scientific notation: one digit before the point, no point if that is all, and the exponent
without a plus sign. -/
def scientific (d : Decimal) : String :=
  match d.digitText.toList with
  | [] => ""
  | first :: rest =>
    let exponent := if d.digits = 0 then 0 else d.exponent + rest.length
    let fraction := if rest.isEmpty then "" else "." ++ String.ofList rest
    String.singleton first ++ fraction ++ "e" ++ toString exponent

/-- Positional notation, with no exponent however small or large the number is. -/
def positional (d : Decimal) : String :=
  let digits := d.digitText.toList
  if 0 ≤ d.exponent then
    String.ofList (digits ++ List.replicate (if d.digits = 0 then 0 else d.exponent.toNat) '0')
  else
    let places := (-d.exponent).toNat
    let padded := List.replicate (places + 1 - digits.length) '0' ++ digits
    String.ofList (padded.take (padded.length - places)) ++ "."
      ++ String.ofList (padded.drop (padded.length - places))

end Decimal

namespace FloatFormat

/-- The text of a pattern, with finite magnitudes written by `write`. -/
def textWith (f : FloatFormat) (write : Decimal → String) (pattern : Nat) : String :=
  match f.decode pattern with
  | .nan => "NaN"
  | .infinite negative => if negative then "-inf" else "inf"
  | .finite negative significand exponent =>
    (if negative then "-" else "") ++ write (f.shortest significand exponent)

end FloatFormat

/-- The text of an element; the bare word in hexadecimal where no format has that width. -/
def FloatElement.display (bits : Nat) (a : Word) : String :=
  match bits with
  | 16 =>
    FloatFormat.binary32.textWith Decimal.positional
      (FloatFormat.binary16.convert .binary32 (FloatElement.pattern 16 a))
  | 32 => FloatFormat.binary32.textWith Decimal.scientific (FloatElement.pattern 32 a)
  | 64 => FloatFormat.binary64.textWith Decimal.scientific (FloatElement.pattern 64 a)
  | _ => "0x" ++ String.ofList (Nat.toDigits 16 a.toNat)

end Crosscheck
