import Crosscheck.CommandLine.Perform
import Crosscheck.Proofs.Report.Conservation

/-!
# Crosscheck.Proofs.CommandLine.Success

**A run succeeds if every point passed and no template was skipped.** The command for runs either stops
before there is a report, and fails, or finishes with a report (`CommandLine.finishRun_succeeds_iff`),
and the counts of a report miss nothing that failed (`CommandLine.summary_conserved`).
-/

namespace Crosscheck.CommandLine

theorem error_finishOf (o : RunOptions) (report : Report) :
    (finishOf o report).error = none ↔ report.allPassed = true := by
  rw [finishOf]
  cases report.allPassed <;> simp

/-- When a run finishes without an error. -/
theorem finishRun_succeeds_iff {o : RunOptions}
    {prepared : Except CheckError (Option (Runner × TemplateStore))} :
    (∃ f, finishRun o prepared = some f ∧ f.error = none) ↔
      ∃ runner store report, prepared = .ok (some (runner, store)) ∧
        runner.run store = some report ∧ report.allPassed = true := by
  match prepared with
  | .error e => simp [finishRun, Finish.failed]
  | .ok none => simp [finishRun, Finish.failed]
  | .ok (some (runner, store)) =>
      constructor
      · rintro ⟨f, hfinish, herror⟩
        obtain ⟨report, hrun, rfl⟩ := Option.map_eq_some_iff.1 hfinish
        exact ⟨runner, store, report, rfl, hrun, (error_finishOf o report).1 herror⟩
      · rintro ⟨_, _, report, hprepared, hrun, hpassed⟩
        cases hprepared
        exact ⟨_, Option.map_eq_some_iff.2 ⟨report, hrun, rfl⟩, (error_finishOf o report).2 hpassed⟩

/-- The report of a run says whether everything passed. -/
theorem allPassed_of_run {runner : Runner} {store : TemplateStore} {report : Report}
    (h : runner.run store = some report) :
    report.allPassed = true ↔ (∀ r ∈ report.results, r.outcome = .pass) ∧ report.rejected = [] := by
  rw [Runner.run] at h
  split at h
  case isTrue =>
    cases h
    simp only [Runner.report, Report.allPassed_iff, Report.mem_results_ofResults]
    rfl
  case isFalse => cases h

/-- **Counts are conserved, and success means that nothing failed.** The summary of a report on any
results conserves them. Failed results are those that the report lists as failures. Everything passed
if every result is a pass and no template was skipped, and that is when a run with this report finishes
without an error.

A run with something wrong about its options or files, or without a device, fails, whatever programs
there are to be run. Any other run finishes with the report that it made, if it made one. -/
theorem summary_conserved :
    (∀ seed results rejected,
      let report := Report.ofResults seed results rejected
      report.summary.Conserves results ∧
      report.summary.failed = report.failures.length ∧
      (report.allPassed = true ↔ (∀ r ∈ results, r.outcome = .pass) ∧ rejected = []) ∧
      ∀ o, (finishOf o report).error = none ↔ report.allPassed = true) ∧
    ∀ (m : Type → Type) [Monad m] [LawfulMonad m] (programs : Shell.Files → Shell.Programs)
      (read? : String → m (Option String)) (standardInput : m String) (select : SelectOptions)
      (o : RunOptions) (program : List String),
      Command.perform programs read? standardInput (.run select o program) =
        finishRun o <$> (prepareRun programs read? select o program).run ∧
      ∀ prepared, (∃ f, finishRun o prepared = some f ∧ f.error = none) ↔
        ∃ runner store report, prepared = .ok (some (runner, store)) ∧
          runner.run store = some report ∧
          (∀ r ∈ report.results, r.outcome = .pass) ∧ report.rejected = [] := by
  refine ⟨fun seed results rejected => ⟨?_, ?_, ?_, fun o => error_finishOf o _⟩,
    fun m _ _ programs read? input select o program => ⟨?_, fun prepared => ?_⟩⟩
  · rw [Report.summary_ofResults]
    exact Summary.conserves_ofResults results rejected.length
  · rw [Report.summary_ofResults, Summary.failed_ofResults, Report.length_failures]
  · exact Report.allPassed_iff seed results rejected
  · rw [Command.perform, map_eq_pure_bind]
  · rw [finishRun_succeeds_iff]
    refine exists_congr fun runner => exists_congr fun store => exists_congr fun report =>
      and_congr_right fun _ => and_congr_right fun hrun => allPassed_of_run hrun

/-- Two of three results did not pass, and a run without a device fails. -/
theorem summary_conserved_failing :
    let result (outcome : Outcome) : TestResult :=
      ⟨⟨0, "", "a", "", "add", "u32", none, 0⟩, 1, outcome, none, none⟩
    let results := [result .pass, result (.mismatch 2 []), result (.executionFailure "off")]
    let report := Report.ofResults 7 results []
    let select : SelectOptions := ⟨none, [], [], [], none⟩
    let options : RunOptions :=
      ⟨none, none, none, none, none, none, none, false, false, false, false⟩
    let programs : Shell.Files → Shell.Programs := fun _ _ _ => .error "not found"
    report.summary.Conserves results ∧ report.summary.total = 3 ∧
      report.summary.failed = report.failures.length ∧ report.allPassed = false ∧
      (finishOf options report).error ≠ none ∧
      ∀ f, Id.run (Command.perform (m := Id) programs (fun _ => none) ""
        (.run select options [])) = some f → f.error ≠ none := by
  intro result results report select options programs
  obtain ⟨hreports, hcommands⟩ := summary_conserved
  obtain ⟨hconserves, hfailed, hpassed, herror⟩ := hreports 7 results []
  obtain ⟨hperform, hfinish⟩ := hcommands Id programs (fun _ => none) "" select options []
  have hnot : ¬ report.allPassed = true := fun h => absurd (hpassed.1 h).1 (by decide)
  refine ⟨hconserves, hconserves.total, hfailed, Bool.eq_false_iff.2 hnot,
    fun h => hnot ((herror options).1 h), fun f hf h => ?_⟩
  have hnone : (prepareRun (m := Id) programs (fun _ => none) select options []).run =
      .ok none := rfl
  rw [hperform, hnone] at hf
  obtain ⟨_, _, _, hprepared, -⟩ := (hfinish (.ok none)).1 ⟨f, hf, h⟩
  cases hprepared

end Crosscheck.CommandLine
