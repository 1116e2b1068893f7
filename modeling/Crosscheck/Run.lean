import Crosscheck.Config
import Crosscheck.Device.Basic
import Crosscheck.Oracle
import Crosscheck.Report.Basic
import Crosscheck.Template.Bindings
import Crosscheck.Template.Store

/-!
# Crosscheck.Run

**Runs: every selected point of every template, on one device.** A point's kernel runs on the device,
and the output is compared with the oracle's. What the device makes of a point is recorded with the
point and touches no other one. A template of which not even the first selected point has a kernel is
skipped as a whole. Where no worker can be named for the call of a point, the run breaks down.
-/

namespace Crosscheck

/-- What is checked against what. -/
structure Runner where
  /-- The catalog that the points come from. -/
  registry : Registry
  /-- Says what outputs have to be. -/
  oracle : Oracle
  /-- The device. -/
  device : Device
  /-- The configuration. -/
  config : RunConfig
  /-- Which points are wanted. -/
  selection : Selection

namespace Runner

/-- What the device returns for a call, if it is in time. -/
def execute (r : Runner) (call : DeviceCall) : Except ExecutionFailure (List Buffer) :=
  if r.config.timeout.isZero then .error (.timeout r.config.timeout) else r.device.submit call

/-- The result of comparing what the device returned with what is expected. -/
def judge (r : Runner) (p : Point) (expected : Buffer) :
    Except ExecutionFailure (List Buffer) → TestResult
  | .ok (actual :: _) => r.config.comparator.compare p expected actual
  | .ok [] => .executionFailure p (ExecutionFailure.missingOutput outputName).message
  | .error failure => .executionFailure p failure.message

/-- Whether there is a worker for the call of a point, or no call to make. -/
def canCall (t : Template) (p : Point) : Bool :=
  match t.expand p with
  | .error _ => true
  | .ok kernel => DeviceCall.isNameable ⟨kernel, p.inputs, [p.outputSpec]⟩

/-- Runs a point of a template for which there is a worker. -/
def runPoint (r : Runner) (t : Template) (p : Point) : TestResult :=
  match t.expand p with
  | .error e => .generationFailure p e.message
  | .ok kernel =>
    match r.oracle.expectedOutput p with
    | .error e => .generationFailure p e.message
    | .ok expected => r.judge p expected (r.execute ⟨kernel, p.inputs, [p.outputSpec]⟩)

/-- What a run says about a template. -/
inductive TemplateOutcome where
  /-- It was skipped. -/
  | rejected (why : TemplateRejection)
  /-- Its selected points, of which there may be none, were run. -/
  | results (points : List TestResult)
  deriving DecidableEq, Repr

/-- Runs a template. -/
def runTemplate (r : Runner) (t : Template) : TemplateOutcome :=
  match Matrix.selected r.registry t r.config.matrixOptions r.selection with
  | [] => .results []
  | first :: rest =>
    let point := Matrix.materialize t r.config.matrixOptions
    match t.expand (point first) with
    | .error e => .rejected ⟨t.id, e.message⟩
    | .ok _ => .results ((first :: rest).map fun c => r.runPoint t (point c))

namespace TemplateOutcome

/-- The results of points. -/
def resultList : TemplateOutcome → List TestResult
  | results points => points
  | rejected _ => []

/-- The rejections. -/
def rejectionList : TemplateOutcome → List TemplateRejection
  | results _ => []
  | rejected why => [why]

end TemplateOutcome

/-- Whether there are workers for the calls of all points of a template, unless it is skipped. -/
def canRun (r : Runner) (t : Template) : Bool :=
  match Matrix.points r.registry t r.config.matrixOptions r.selection with
  | [] => true
  | first :: rest =>
    match t.expand first with
    | .error _ => true
    | .ok _ => (first :: rest).all (canCall t)

/-- What there is to report of all templates of a store. -/
def report (r : Runner) (s : TemplateStore) : Report :=
  let outcomes := s.templates.map r.runTemplate
  .ofResults r.config.seed (outcomes.flatMap (·.resultList)) (outcomes.flatMap (·.rejectionList))

/-- Runs all templates of a store. If the run breaks down, nothing is reported. -/
def run (r : Runner) (s : TemplateStore) : Option Report :=
  if s.templates.all r.canRun then some (r.report s) else none

end Runner

end Crosscheck
