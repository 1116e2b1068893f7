import Crosscheck.Order
import Crosscheck.Report.Result

/-!
# Crosscheck.Report.Basic

**Reports: the results of a run, in matrix order, with a summary.** The order of a report does not
depend on the order in which points finished. The summary counts results by outcome, and passed and
failed results by template, type and operation.
-/

namespace Crosscheck

/-- Passed and failed results. -/
structure Tally where
  /-- The number of passed results. -/
  passed : Nat
  /-- The number of failed results. -/
  failed : Nat
  deriving DecidableEq, Repr

/-- One more result. -/
def Tally.record (t : Tally) (passed : Bool) : Tally :=
  if passed then { t with passed := t.passed + 1 } else { t with failed := t.failed + 1 }

/-- Tallies by name, in ascending order of the names. -/
abbrev TallyTable := List (String × Tally)

namespace TallyTable

/-- The tally of a name. Under a name that is not there, nothing was counted. -/
def get (table : TallyTable) (name : String) : Tally := (table.lookup name).getD ⟨0, 0⟩

/-- Enters a tally; one that was there under the name is replaced. -/
def insert (name : String) (tally : Tally) : TallyTable → TallyTable
  | [] => [(name, tally)]
  | (other, t) :: rest =>
    if name < other then (name, tally) :: (other, t) :: rest
    else if other < name then (other, t) :: insert name tally rest
    else (name, tally) :: rest

/-- One more result of a name. -/
def record (table : TallyTable) (name : String) (passed : Bool) : TallyTable :=
  table.insert name ((table.get name).record passed)

end TallyTable

/-- The counts of a run. -/
structure Summary where
  /-- All results. -/
  total : Nat
  /-- Results in which device and oracle agree. -/
  passed : Nat
  /-- Results in which they disagree. -/
  mismatched : Nat
  /-- Results without comparable output. -/
  executionFailures : Nat
  /-- Results without kernel or expected output. -/
  generationFailures : Nat
  /-- Templates that were skipped. -/
  rejectedTemplates : Nat
  /-- Passed and failed results of each template. -/
  byTemplate : TallyTable
  /-- Passed and failed results of each type. -/
  byType : TallyTable
  /-- Passed and failed results of each operation. -/
  byOperation : TallyTable
  deriving DecidableEq, Repr

namespace Summary

/-- The number of results that did not pass. Counts are 64 bits wide, which shows only in an archived
summary that claims more passed results than there are. -/
def failed (s : Summary) : Nat :=
  if s.passed ≤ s.total then s.total - s.passed else UInt64.size - (s.passed - s.total)

/-- One more outcome. -/
def recordOutcome (s : Summary) : Outcome → Summary
  | .pass => { s with passed := s.passed + 1 }
  | .mismatch .. => { s with mismatched := s.mismatched + 1 }
  | .executionFailure _ => { s with executionFailures := s.executionFailures + 1 }
  | .generationFailure _ => { s with generationFailures := s.generationFailures + 1 }

/-- One more of the results that are expected in total. -/
def record (s : Summary) (r : TestResult) : Summary :=
  { s.recordOutcome r.outcome with
    byTemplate := s.byTemplate.record r.point.template r.passed
    byType := s.byType.record r.point.type r.passed
    byOperation := s.byOperation.record r.point.operation r.passed }

/-- A summary of so many results, none of which is recorded yet. -/
def start (total rejectedTemplates : Nat) : Summary :=
  ⟨total, 0, 0, 0, 0, rejectedTemplates, [], [], []⟩

/-- The counts of some results, which are recorded one after the other, and of templates that were
skipped. -/
def ofResults (results : List TestResult) (rejectedTemplates : Nat) : Summary :=
  results.foldl record (start results.length rejectedTemplates)

end Summary

/-- A report on a run. -/
structure Report where
  /-- The seed of the run. -/
  seed : Word
  /-- The results. -/
  results : List TestResult
  /-- The templates that were skipped. -/
  rejected : List TemplateRejection
  /-- The counts. -/
  summary : Summary
  deriving DecidableEq, Repr

namespace Report

/-- A report on results, which are put in matrix order. -/
def ofResults (seed : Word) (results : List TestResult) (rejected : List TemplateRejection) :
    Report :=
  let sorted := results.mergeSort fun r s => r.point.notAfter s.point
  ⟨seed, sorted, rejected, Summary.ofResults sorted rejected.length⟩

/-- Whether every point passed and no template was skipped. -/
def allPassed (r : Report) : Bool := r.summary.failed == 0 && r.rejected.isEmpty

/-- The results that did not pass. -/
def failures (r : Report) : List TestResult := r.results.filter (!·.passed)

end Report

end Crosscheck
