import Crosscheck.Json.Printer
import Crosscheck.Json.Reader
import Crosscheck.Json.Record
import Crosscheck.Report.Basic

/-!
# Crosscheck.Report.Archive

**Archived reports.** A report is kept as JSON and can be read back; the compared buffers are not
part of it. Fields that are not there are left out when writing.
-/

namespace Crosscheck

/-- A field that is left out where it has no value. -/
def Json.fieldIf (name : String) (write : α → Json) : Option α → List (String × Json)
  | some a => [(name, write a)]
  | none => []

/-- A word, as a decimal number. -/
def Json.ofWord (w : Word) : Json := .ofNat w.toNat

namespace BitField

/-- A bit field as JSON. -/
def toJson (f : BitField) : Json :=
  .ofFields [("position", .ofNat f.position.toNat), ("length", .ofNat f.length.toNat)]

/-- The bit field of a JSON value. -/
def ofJson? (j : Json) : Option BitField := do
  let [position, length] ← j.record? ["position", "length"] | none
  let position ← position.required (Json.below? UInt32.size)
  let length ← length.required (Json.below? UInt32.size)
  some ⟨UInt32.ofNat position, UInt32.ofNat length⟩

end BitField

namespace PointKey

/-- A key as JSON. -/
def toJson (k : PointKey) : Json :=
  .ofFields <|
    [("index", .ofNat k.index), ("name", .ofString k.name), ("template", .ofString k.template),
      ("opcode", .ofString k.opcode), ("operation", .ofString k.operation),
      ("type", .ofString k.type)]
    ++ Json.fieldIf "bit_field" BitField.toJson k.bitField
    ++ [("seed", .ofWord k.seed)]

/-- The key of a JSON value. -/
def ofJson? (j : Json) : Option PointKey := do
  let [index, name, template, opcode, operation, type, bitField, seed] ← j.record?
    ["index", "name", "template", "opcode", "operation", "type", "bit_field", "seed"] | none
  some {
    index := ← index.required Json.count?
    name := ← name.required Json.string?
    template := ← template.required Json.string?
    opcode := ← opcode.required Json.string?
    operation := ← operation.required Json.string?
    type := ← type.required Json.string?
    bitField := ← bitField.optional BitField.ofJson?
    seed := ← seed.required Json.word? }

end PointKey

namespace ElementMismatch

/-- A mismatching element as JSON. -/
def toJson (m : ElementMismatch) : Json :=
  .ofFields <|
    [("index", .ofNat m.index), ("inputs", .array (m.inputs.map .ofString)),
      ("expected", .ofString m.expected), ("actual", .ofString m.actual)]
    ++ Json.fieldIf "ulp" Json.ofWord m.ulp

/-- The mismatching element of a JSON value. -/
def ofJson? (j : Json) : Option ElementMismatch := do
  let [index, inputs, expected, actual, ulp] ← j.record?
    ["index", "inputs", "expected", "actual", "ulp"] | none
  some {
    index := ← index.required Json.count?
    inputs := ← inputs.required (Json.list? Json.string?)
    expected := ← expected.required Json.string?
    actual := ← actual.required Json.string?
    ulp := ← ulp.optional Json.word? }

end ElementMismatch

namespace Outcome

/-- An outcome as JSON: its status, and then what belongs to it. -/
def toJson : Outcome → Json
  | pass => .ofFields [("status", .ofString "pass")]
  | mismatch total elements =>
    .ofFields [("status", .ofString "mismatch"), ("total", .ofNat total),
      ("elements", .array (elements.map ElementMismatch.toJson))]
  | executionFailure reason =>
    .ofFields [("status", .ofString "execution_failure"), ("reason", .ofString reason)]
  | generationFailure reason =>
    .ofFields [("status", .ofString "generation_failure"), ("reason", .ofString reason)]

/-- Splits an outcome into its status and a record of the rest. -/
def statusOf? : Json → Option (String × Json)
  | .object members =>
    match members.filter (fun member => member.1 == some "status") with
    | [(_, .text (some status))] =>
      some (status, .object (members.filter fun member => member.1 != some "status"))
    | _ => none
  | .array (.text (some status) :: items) => some (status, .array items)
  | _ => none

/-- The outcome of a JSON value; unlike elsewhere, all of it has to be plain, and not nested more
than `depth` deep. -/
def ofJson? (depth : Nat) (j : Json) : Option Outcome := do
  let (status, content) ← if j.isPlain depth then statusOf? j else none
  match status with
  | "pass" =>
    match content with
    | .array (_ :: _) => none
    | _ => some .pass
  | "mismatch" => do
    let [total, elements] ← content.record? ["total", "elements"] | none
    some (.mismatch (← total.required Json.count?)
      (← elements.required (Json.list? ElementMismatch.ofJson?)))
  | "execution_failure" => do
    let [reason] ← content.record? ["reason"] | none
    some (.executionFailure (← reason.required Json.string?))
  | "generation_failure" => do
    let [reason] ← content.record? ["reason"] | none
    some (.generationFailure (← reason.required Json.string?))
  | _ => none

end Outcome

/-- How deep the arrays and objects of a report may be nested. -/
def Report.maxDepth : Nat := 127

namespace TestResult

/-- A result as JSON. -/
def toJson (r : TestResult) : Json :=
  .ofFields [("point", r.point.toJson), ("elements", .ofNat r.elements),
    ("outcome", r.outcome.toJson)]

/-- The result of a JSON value that is itself inside `depth` arrays or objects. -/
def ofJson? (depth : Nat) (j : Json) : Option TestResult := do
  let [point, elements, outcome] ← j.record? ["point", "elements", "outcome"] | none
  some {
    point := ← point.required PointKey.ofJson?
    elements := ← elements.required Json.count?
    outcome := ← outcome.required (Outcome.ofJson? (Report.maxDepth - (depth + 1)))
    expected := none
    actual := none }

end TestResult

namespace TemplateRejection

/-- A rejection as JSON. -/
def toJson (r : TemplateRejection) : Json :=
  .ofFields [("template", .ofString r.template), ("reason", .ofString r.reason)]

/-- The rejection of a JSON value. -/
def ofJson? (j : Json) : Option TemplateRejection := do
  let [template, reason] ← j.record? ["template", "reason"] | none
  some ⟨← template.required Json.string?, ← reason.required Json.string?⟩

end TemplateRejection

namespace Tally

/-- A tally as JSON. -/
def toJson (t : Tally) : Json :=
  .ofFields [("passed", .ofNat t.passed), ("failed", .ofNat t.failed)]

/-- The tally of a JSON value. -/
def ofJson? (j : Json) : Option Tally := do
  let [passed, failed] ← j.record? ["passed", "failed"] | none
  some ⟨← passed.required Json.count?, ← failed.required Json.count?⟩

end Tally

namespace TallyTable

/-- A table as JSON. -/
def toJson (t : TallyTable) : Json := .ofFields (t.map fun (name, tally) => (name, tally.toJson))

/-- The table of a JSON value. -/
def ofJson? : Json → Option TallyTable := Json.table? TallyTable.insert [] Tally.ofJson?

end TallyTable

namespace Summary

/-- A summary as JSON. -/
def toJson (s : Summary) : Json :=
  .ofFields [("total", .ofNat s.total), ("passed", .ofNat s.passed),
    ("mismatched", .ofNat s.mismatched), ("execution_failures", .ofNat s.executionFailures),
    ("generation_failures", .ofNat s.generationFailures),
    ("rejected_templates", .ofNat s.rejectedTemplates), ("by_template", s.byTemplate.toJson),
    ("by_type", s.byType.toJson), ("by_operation", s.byOperation.toJson)]

/-- The summary of a JSON value. -/
def ofJson? (j : Json) : Option Summary := do
  let [total, passed, mismatched, executionFailures, generationFailures, rejectedTemplates,
    byTemplate, byType, byOperation] ← j.record?
      ["total", "passed", "mismatched", "execution_failures", "generation_failures",
        "rejected_templates", "by_template", "by_type", "by_operation"] | none
  some {
    total := ← total.required Json.count?
    passed := ← passed.required Json.count?
    mismatched := ← mismatched.required Json.count?
    executionFailures := ← executionFailures.required Json.count?
    generationFailures := ← generationFailures.required Json.count?
    rejectedTemplates := ← rejectedTemplates.required Json.count?
    byTemplate := ← byTemplate.required TallyTable.ofJson?
    byType := ← byType.required TallyTable.ofJson?
    byOperation := ← byOperation.required TallyTable.ofJson? }

end Summary

namespace Report

/-- A report as JSON. -/
def toJson (r : Report) : Json :=
  .ofFields [("seed", .ofWord r.seed), ("results", .array (r.results.map TestResult.toJson)),
    ("rejected", .array (r.rejected.map TemplateRejection.toJson)),
    ("summary", r.summary.toJson)]

/-- The report of a JSON value. -/
def ofJson? (j : Json) : Option Report := do
  let [seed, results, rejected, summary] ← j.record? ["seed", "results", "rejected", "summary"]
    | none
  some {
    seed := ← seed.required Json.word?
    results := ← results.required (Json.list? (TestResult.ofJson? 2))
    rejected := ← rejected.required (Json.list? TemplateRejection.ofJson?)
    summary := ← summary.required Summary.ofJson? }

/-- A report as it is archived. -/
def archived (r : Report) : String := r.toJson.pretty

/-- The report of an archived text. -/
def ofArchived? (s : String) : Option Report := (Json.ofText? s).bind ofJson?

end Report

end Crosscheck
