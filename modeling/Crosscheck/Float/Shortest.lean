import Crosscheck.Float.Format

/-!
# Crosscheck.Float.Shortest

**The fewest decimal digits that read back as the same value.** Around every finite value lies the
interval of reals that round to it. Decimal grids are tried from coarse to fine; on each, only the
two grid points next to the value can lie in the interval, and the first grid with a hit gives the
digits. If both neighbours lie in it the nearer one wins, and the upper one if they are equally near.

All quantities are exact: the value, and the ends of its interval, are `numerator / denominator`
with one common denominator.
-/

namespace Crosscheck

/-- The decimal number `digits * 10 ^ exponent`. -/
structure Decimal where
  /-- The digits, as one number. -/
  digits : Nat
  /-- The power of ten of the last digit. -/
  exponent : Int
  deriving DecidableEq, Repr

/-- A value and the interval of reals that round to it, over a common denominator. -/
structure RoundingInterval where
  /-- Numerator of the lower end. -/
  lower : Nat
  /-- Numerator of the value. -/
  value : Nat
  /-- Numerator of the upper end. -/
  upper : Nat
  /-- The common denominator. -/
  denominator : Nat
  /-- Whether the ends themselves round to the value. -/
  closed : Bool
  deriving Repr

namespace RoundingInterval

/-- The interval of `significand * 2 ^ exponent`. The ends lie half a step away, but a significand
that is the least one of its binade has its lower neighbour, and so the lower end, twice as near.
Ends belong to the interval if the significand is even. -/
def ofFinite (f : FloatFormat) (significand : Nat) (exponent : Int) : RoundingInterval :=
  let scale := 1 <<< (exponent - 2).toNat
  let below := if significand = 1 <<< f.fractionBits then 1 else 2
  { lower := (4 * significand - below) * scale
    value := 4 * significand * scale
    upper := (4 * significand + 2) * scale
    denominator := 1 <<< (2 - exponent).toNat
    closed := significand % 2 == 0 }

/-- The grid point of the interval with unit `10 ^ exponent` that is nearest to the value. -/
def onGrid? (i : RoundingInterval) (exponent : Int) : Option Decimal :=
  let unit := Nat.pow 10 exponent.toNat * i.denominator
  let scale := Nat.pow 10 (-exponent).toNat
  let value := i.value * scale
  let floor := value / unit
  let remainder := value % unit
  let downFits :=
    if i.closed then i.lower * scale ≤ floor * unit else i.lower * scale < floor * unit
  let upFits :=
    if i.closed then (floor + 1) * unit ≤ i.upper * scale else (floor + 1) * unit < i.upper * scale
  if upFits ∧ (¬ downFits ∨ unit ≤ 2 * remainder) then some ⟨floor + 1, exponent⟩
  else if downFits then some ⟨floor, exponent⟩
  else none

/-- The first hit on the grids of exponents `exponent`, `exponent - 1`, …; after `fuel` grids the
digits down to the last grid. -/
def search (i : RoundingInterval) : Nat → Int → Decimal
  | 0, exponent =>
    let unit := Nat.pow 10 exponent.toNat * i.denominator
    ⟨i.value * Nat.pow 10 (-exponent).toNat / unit, exponent⟩
  | fuel + 1, exponent =>
    match i.onGrid? exponent with
    | some d => d
    | none => search i fuel (exponent - 1)

/-- A power of ten that exceeds the interval: two above an estimate of the value's decimal
exponent from the number of its bits. -/
def startExponent (i : RoundingInterval) : Int :=
  (((i.value.log2 : Int) - (i.denominator.log2 : Int)) * 30103) / 100000 + 2

/-- The shortest decimal in the interval. -/
def shortest (i : RoundingInterval) : Decimal := i.search 25 i.startExponent

end RoundingInterval

/-- The shortest decimal that reads back as the positive value `significand * 2 ^ exponent`. -/
def FloatFormat.shortest (f : FloatFormat) (significand : Nat) (exponent : Int) : Decimal :=
  if significand = 0 then ⟨0, 0⟩
  else (RoundingInterval.ofFinite f significand exponent).shortest

end Crosscheck
