import Crosscheck.Float.Ulp
import Crosscheck.Report.Result

/-!
# Crosscheck.Compare

**Comparing a device's output with the oracle's.** Integers and bits have to be equal. Two floats
also match if both are NaNs, whatever their payloads, or if they are at most the tolerated distance
apart; a tolerance of zero asks for equal bits, so that the two zeros differ.
-/

namespace Crosscheck

/-- How outputs are compared. -/
structure Comparator where
  /-- The largest tolerated distance of two floats. -/
  maxUlp : Word
  /-- How many mismatching elements of a point are listed. -/
  maxListed : Nat
  deriving DecidableEq, Repr

namespace Comparator

/-- Equal bits, with at most eight mismatches listed. -/
def exact : Comparator := ⟨0, 8⟩

/-- Whether an element of a type may stand for the expected one under a tolerance. -/
def accepts (t : ElementType) (maxUlp : Word) (expected actual : Word) : Bool :=
  let e := t.truncate expected
  let a := t.truncate actual
  if e = a then true
  else if !t.isFloat then false
  else if FloatElement.isNaN t.bits e || FloatElement.isNaN t.bits a then
    FloatElement.isNaN t.bits e && FloatElement.isNaN t.bits a
  else decide (0 < maxUlp) && decide (Ulp.ofBits t.bits e a ≤ maxUlp)

/-- The distance that a mismatch is listed with. -/
def listedUlp (t : ElementType) (expected actual : Word) : Option Word :=
  if t.isFloat && !FloatElement.isNaN t.bits expected && !FloatElement.isNaN t.bits actual then
    some (Ulp.ofBits t.bits expected actual)
  else none

/-- The description of a mismatching element of a point. -/
def describe (p : Point) (index : Nat) (expected actual : Word) : ElementMismatch where
  index := index
  inputs := p.inputs.map fun b => b.type.formatValue (b.data.getD index 0)
  expected := p.type.formatValue expected
  actual := p.type.formatValue actual
  ulp := listedUlp p.type expected actual

/-- What a comparison has found so far. -/
structure Findings where
  /-- The number of mismatching elements. -/
  total : Nat
  /-- The descriptions of the first of them. -/
  listed : Array ElementMismatch

/-- Compares one more element of two outputs of a point. -/
def examine (c : Comparator) (p : Point) (found : Findings) : (Word × Word) × Nat → Findings
  | ((expected, actual), index) =>
    if accepts p.type c.maxUlp expected actual then found
    else
      { total := found.total + 1
        listed :=
          if found.listed.size < c.maxListed then
            found.listed.push (describe p index expected actual)
          else found.listed }

/-- Compares two outputs of a point. Outputs of different lengths are a failure of the device. -/
def compare (c : Comparator) (p : Point) (expected actual : Buffer) : TestResult :=
  match expected.spec.check actual with
  | .error failure => .executionFailure p failure.message
  | .ok _ =>
    let found := (expected.data.zip actual.data).zipIdx.foldl (c.examine p) ⟨0, #[]⟩
    { point := p.key
      elements := expected.length
      outcome := if found.total = 0 then .pass else .mismatch found.total found.listed.toList
      expected := some expected
      actual := some actual }

end Comparator

end Crosscheck
