import Crosscheck.Matrix.Point

/-!
# Crosscheck.Report.Result

**What became of a point.** A result names its point by a key, so that it can be archived without the
point's data, and says whether the device agreed with the oracle, in which elements it did not, or
why there is nothing to compare.
-/

namespace Crosscheck

/-- The identity of a point, as reports record it. -/
structure PointKey where
  /-- Its position among all points of the template. -/
  index : Nat
  /-- Its name. -/
  name : String
  /-- The template. -/
  template : String
  /-- The opcode. -/
  opcode : String
  /-- The mnemonic of the operation. -/
  operation : String
  /-- The name of the type. -/
  type : String
  /-- The bit field, if there is one. -/
  bitField : Option BitField
  /-- The seed of the random inputs. -/
  seed : Word
  deriving DecidableEq, Repr

/-- The key of a point. -/
def Point.key (p : Point) : PointKey where
  index := p.index
  name := p.name
  template := p.template
  opcode := p.opcode
  operation := p.operation.mnemonic
  type := p.type.name
  bitField := p.bitField
  seed := p.seed

/-- The order of points: by template, and within a template by index. -/
def PointKey.notAfter (k l : PointKey) : Bool :=
  decide (k.template < l.template) || (k.template == l.template && decide (k.index ≤ l.index))

/-- An element on which device and oracle disagree, as texts. -/
structure ElementMismatch where
  /-- Its position. -/
  index : Nat
  /-- The operands. -/
  inputs : List String
  /-- What the oracle says. -/
  expected : String
  /-- What the device says. -/
  actual : String
  /-- The distance of two floats of which neither is a NaN. -/
  ulp : Option Word
  deriving DecidableEq, Repr

/-- What became of a point. -/
inductive Outcome where
  /-- Device and oracle agree. -/
  | pass
  /-- They disagree on `total` elements, the first of which are listed. -/
  | mismatch (total : Nat) (elements : List ElementMismatch)
  /-- The device gave no comparable output. -/
  | executionFailure (reason : String)
  /-- There is no kernel, or no expected output. -/
  | generationFailure (reason : String)
  deriving DecidableEq, Repr

namespace Outcome

/-- Whether device and oracle agree. -/
def isPass : Outcome → Bool
  | pass => true
  | _ => false

/-- The word a report starts a point's line with. -/
def label : Outcome → String
  | pass => "PASS"
  | mismatch .. => "MISMATCH"
  | executionFailure _ => "EXEC-FAIL"
  | generationFailure _ => "GEN-FAIL"

end Outcome

/-- The result of one point. -/
structure TestResult where
  /-- The point. -/
  point : PointKey
  /-- The number of its elements. -/
  elements : Nat
  /-- What became of it. -/
  outcome : Outcome
  /-- The expected output, if outputs were compared; it is not archived. -/
  expected : Option Buffer
  /-- The device's output, if outputs were compared; it is not archived. -/
  actual : Option Buffer
  deriving DecidableEq, Repr

namespace TestResult

/-- Whether device and oracle agree. -/
def passed (r : TestResult) : Bool := r.outcome.isPass

/-- The result of a point without comparable output. -/
def executionFailure (p : Point) (reason : String) : TestResult :=
  ⟨p.key, p.length, .executionFailure reason, none, none⟩

/-- The result of a point without kernel or expected output. -/
def generationFailure (p : Point) (reason : String) : TestResult :=
  ⟨p.key, p.length, .generationFailure reason, none, none⟩

end TestResult

/-- A template that was skipped for a whole run. -/
structure TemplateRejection where
  /-- The template. -/
  template : String
  /-- Why no kernel can be made from it. -/
  reason : String
  deriving DecidableEq, Repr

end Crosscheck
