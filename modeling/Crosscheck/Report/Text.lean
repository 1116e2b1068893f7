import Crosscheck.Report.Basic

/-!
# Crosscheck.Report.Text

**Reports for reading.** Skipped templates come first, then every point that did not pass with its
mismatching elements or its reason, then the counts. Points that passed are listed on request.
-/

namespace Crosscheck

namespace Report

/-- A text followed by blanks up to a width in characters. -/
def padRight (width : Nat) (s : String) : String :=
  s ++ String.ofList (List.replicate (width - s.length) ' ')

/-- A number with blanks before it up to a width. -/
def padLeft (width n : Nat) : String :=
  let s := toString n
  String.ofList (List.replicate (width - s.length) ' ') ++ s

/-- A line on a mismatching element. -/
def elementLine (m : ElementMismatch) : String :=
  "    [" ++ toString m.index ++ "] inputs (" ++ ", ".intercalate m.inputs ++ ") expected "
    ++ m.expected ++ " got " ++ m.actual
    ++ (match m.ulp with
      | some d => " (" ++ toString d.toNat ++ " ulp)"
      | none => "")
    ++ "\n"

/-- The lines on a result. -/
def resultLines (r : TestResult) : String :=
  padRight 9 r.outcome.label ++ " " ++ r.point.name ++ " (" ++ toString r.elements ++ " elements)\n"
    ++ match r.outcome with
      | .pass => ""
      | .mismatch total elements =>
        String.join (elements.map elementLine)
          ++ if elements.length < total then
              "    ... " ++ toString (total - elements.length) ++ " more\n"
            else ""
      | .executionFailure reason => "    " ++ reason ++ "\n"
      | .generationFailure reason => "    " ++ reason ++ "\n"

/-- The line on a skipped template. -/
def rejectionLine (r : TemplateRejection) : String :=
  "REJECTED  " ++ r.template ++ ": " ++ r.reason ++ "\n"

/-- A line on a template or a type. -/
def tallyLine (entry : String × Tally) : String :=
  "  " ++ padRight 12 entry.1 ++ " " ++ padLeft 5 entry.2.passed ++ " passed "
    ++ padLeft 5 entry.2.failed ++ " failed\n"

/-- The last lines of a report. -/
def summaryLines (seed : Word) (s : Summary) : String :=
  "\nSeed: " ++ toString seed.toNat ++ "\n"
    ++ "By template:\n" ++ String.join (s.byTemplate.map tallyLine)
    ++ "By type:\n" ++ String.join (s.byType.map tallyLine)
    ++ "\nTotal: " ++ toString s.total ++ " points, " ++ toString s.passed ++ " passed, "
    ++ toString s.mismatched ++ " mismatched, " ++ toString s.executionFailures
    ++ " execution failures, " ++ toString s.generationFailures ++ " generation failures, "
    ++ toString s.rejectedTemplates ++ " templates rejected\n"

/-- A report as text. -/
def text (r : Report) (verbose : Bool) : String :=
  let listed := if verbose then r.results else r.failures
  String.join (r.rejected.map rejectionLine) ++ String.join (listed.map resultLines)
    ++ summaryLines r.seed r.summary

end Report

end Crosscheck
