import Crosscheck.Proofs.Report.MatrixOrder
import Crosscheck.Proofs.Report.Summary
import Mathlib.Algebra.GroupWithZero.Nat

/-!
# Crosscheck.Proofs.Report.Conservation

**A summary loses no result and counts none twice.** Recording a result adds one to one of the four
counts of outcomes and to one tally in every table, so that these keep adding up
(`Summary.Balanced.record`), in the end to the total. So everything passed according to a report if
every result is a pass (`Report.allPassed_iff`).
-/

namespace Crosscheck

variable {results : List TestResult}

/-! ### Tables -/

namespace TallyTable

variable {table : TallyTable} {name : String} {t : Tally}

/-- All tallies together. -/
def sum (table : TallyTable) : Tally :=
  ⟨(table.map (·.2.passed)).sum, (table.map (·.2.failed)).sum⟩

theorem names_cons (entry : String × Tally) (table : TallyTable) :
    names (entry :: table) = entry.1 :: table.names :=
  rfl

theorem sum_cons (entry : String × Tally) (table : TallyTable) :
    sum (entry :: table) = entry.2.plus table.sum := by
  simp [sum, Tally.plus]

theorem get_cons_self (name : String) (t : Tally) (table : TallyTable) :
    get ((name, t) :: table) name = t := by
  simp [get]

theorem get_cons_of_ne {other : String} (h : name ≠ other) (t : Tally) (table : TallyTable) :
    get ((other, t) :: table) name = table.get name := by
  rw [get, List.lookup_cons, beq_false_of_ne h]
  rfl

theorem get_of_not_mem (h : name ∉ table.names) : table.get name = ⟨0, 0⟩ := by
  rw [get, lookup_eq_none h]
  rfl

theorem names_insert (name : String) (t : Tally) (table : TallyTable) :
    (table.insert name t).names = insertAscending textBefore name table.names := by
  induction table with
  | nil => rfl
  | cons entry table ih =>
      obtain ⟨other, u⟩ := entry
      rw [names_cons]
      rcases Std.lt_trichotomy name other with hbefore | rfl | hafter
      · rw [insert_of_lt hbefore, insertAscending_of_lt hbefore]
        rfl
      · rw [insert_self, insertAscending_self]
        rfl
      · rw [insert_of_gt hafter, insertAscending_of_gt hafter, names_cons, ih]

theorem pairwise_names_insert (h : table.names.Pairwise (· < ·)) (name : String) (t : Tally) :
    (table.insert name t).names.Pairwise (· < ·) := by
  have hbefore : table.names.Pairwise fun x y => textBefore x y = true :=
    h.imp fun hlt => decide_eq_true hlt
  rw [names_insert]
  exact (pairwise_insertAscending textBefore_trans name hbefore).imp fun hlt => of_decide_eq_true hlt

/-- A tally takes the place of the one that was there under the name. -/
theorem sum_insert (h : table.names.Pairwise (· < ·)) (name : String) (t : Tally) :
    ((table.insert name t).sum).plus (table.get name) = table.sum.plus t := by
  induction table with
  | nil => simp [insert, sum, get, Tally.plus]
  | cons entry table ih =>
      obtain ⟨other, u⟩ := entry
      rw [names_cons, List.pairwise_cons] at h
      rcases Std.lt_trichotomy name other with hbefore | rfl | hafter
      · have hnone : name ∉ names ((other, u) :: table) := by
          rw [names_cons, List.mem_cons, not_or]
          refine ⟨fun heq => String.lt_irrefl _ (heq ▸ hbefore), fun hmem => ?_⟩
          exact String.lt_irrefl _ (String.lt_trans hbefore (h.1 name hmem))
        rw [insert_of_lt hbefore, get_of_not_mem hnone, sum_cons]
        simp only [Tally.plus, Tally.mk.injEq]
        omega
      · rw [insert_self, sum_cons, sum_cons, get_cons_self]
        simp only [Tally.plus, Tally.mk.injEq]
        omega
      · have hne : name ≠ other := fun heq => String.lt_irrefl _ (heq ▸ hafter)
        have ih := ih h.2
        rw [insert_of_gt hafter, sum_cons, sum_cons, get_cons_of_ne hne]
        simp only [Tally.plus, Tally.mk.injEq] at ih ⊢
        omega

/-- Recording a result adds one to the sum. -/
theorem sum_record (h : table.names.Pairwise (· < ·)) (name : String) (passed : Bool) :
    (table.record name passed).sum = table.sum.record passed := by
  have hsum := sum_insert h name ((table.get name).record passed)
  rw [← record] at hsum
  generalize (table.record name passed).sum = new at hsum ⊢
  obtain ⟨p, q⟩ := new
  cases passed with
  | true =>
      simp only [Tally.plus, Tally.record, if_true, Tally.mk.injEq] at hsum ⊢
      omega
  | false =>
      simp only [Tally.plus, Tally.record, Bool.false_eq_true, if_false, Tally.mk.injEq] at hsum ⊢
      omega

/-- A table in order whose tallies add up to a tally. -/
structure AddsUp (table : TallyTable) (t : Tally) : Prop where
  ascending : table.names.Pairwise (· < ·)
  sum : table.sum = t

theorem AddsUp.nil : AddsUp [] ⟨0, 0⟩ := ⟨List.Pairwise.nil, rfl⟩

theorem AddsUp.record (h : table.AddsUp t) (name : String) (passed : Bool) :
    (table.record name passed).AddsUp (t.record passed) where
  ascending := pairwise_names_insert h.ascending name _
  sum := by rw [sum_record h.ascending, h.sum]

end TallyTable

/-! ### Summaries -/

namespace Summary

variable {s : Summary} {recorded : Nat}

/-- Passed and failed results. -/
def tally (s : Summary) : Tally :=
  ⟨s.passed, s.mismatched + s.executionFailures + s.generationFailures⟩

/-- The counts of a summary of which some results are recorded add up: the outcomes to the number of
these results, and every table to the passed and the failed results. -/
structure Balanced (recorded : Nat) (s : Summary) : Prop where
  outcomes : recorded = s.passed + s.mismatched + s.executionFailures + s.generationFailures
  byTemplate : s.byTemplate.AddsUp s.tally
  byType : s.byType.AddsUp s.tally
  byOperation : s.byOperation.AddsUp s.tally

theorem tally_record (s : Summary) (r : TestResult) : (s.record r).tally = s.tally.record r.passed := by
  cases h : r.outcome <;>
    simp [record, recordOutcome, tally, Tally.record, TestResult.passed, Outcome.isPass, h] <;> omega

/-- **Recording a result keeps the counts balanced.** -/
theorem Balanced.record (h : s.Balanced recorded) (r : TestResult) :
    (s.record r).Balanced (recorded + 1) where
  outcomes := by
    have houtcomes := h.outcomes
    cases houtcome : r.outcome <;> simp only [Summary.record, recordOutcome, houtcome] <;> omega
  byTemplate := tally_record s r ▸ h.byTemplate.record _ _
  byType := tally_record s r ▸ h.byType.record _ _
  byOperation := tally_record s r ▸ h.byOperation.record _ _

theorem Balanced.foldl (h : s.Balanced recorded) (results : List TestResult) :
    (results.foldl Summary.record s).Balanced (recorded + results.length) := by
  induction results generalizing s recorded with
  | nil => exact h
  | cons r results ih =>
      have hlater := ih (h.record r)
      rwa [Nat.add_assoc, Nat.add_comm 1] at hlater

theorem balanced_ofResults (results : List TestResult) (n : Nat) :
    (ofResults results n).Balanced results.length := by
  have hstart : (start results.length n).Balanced 0 := ⟨rfl, .nil, .nil, .nil⟩
  have hend := hstart.foldl results
  rwa [Nat.zero_add] at hend

end Summary

/-! ### What a summary says about the results -/

/-- A table counts some results by a label. -/
structure TallyTable.Counts (table : TallyTable) (label : PointKey → String)
    (results : List TestResult) : Prop where
  ascending : table.names.Pairwise (· < ·)
  names : ∀ name, name ∈ table.names ↔ ∃ r ∈ results, label r.point = name
  passed : ∀ entry ∈ table,
    entry.2.passed = results.countP fun r => label r.point == entry.1 && r.passed
  failed : ∀ entry ∈ table,
    entry.2.failed = results.countP fun r => label r.point == entry.1 && !r.passed

theorem TallyTable.counts_ofResults (label : PointKey → String) (results : List TestResult) :
    (ofResults label results).Counts label results where
  ascending := by
    rw [names_ofResults]
    exact pairwise_ascendingTexts _
  names name := by rw [names_ofResults, mem_ascendingTexts, List.mem_map]
  passed entry hentry := by
    obtain ⟨name, -, rfl⟩ := List.mem_map.1 hentry
    simp only [Tally.ofResults, List.countP_filter, Bool.and_comm]
  failed entry hentry := by
    obtain ⟨name, -, rfl⟩ := List.mem_map.1 hentry
    simp only [Tally.ofResults, List.countP_filter, Bool.and_comm]

theorem TestResult.passed_iff {r : TestResult} : r.passed = true ↔ r.outcome = .pass := by
  rw [passed]
  cases r.outcome <;> simp [Outcome.isPass]

namespace Summary

variable (results : List TestResult) (n : Nat)

/-- The counts of a summary are those of some results: every result is counted once by its outcome and
once in every table. -/
structure Conserves (s : Summary) (results : List TestResult) : Prop where
  total : s.total = results.length
  outcomes : s.total = s.passed + s.mismatched + s.executionFailures + s.generationFailures
  byTemplate : s.byTemplate.Counts (·.template) results ∧ s.byTemplate.sum = ⟨s.passed, s.failed⟩
  byType : s.byType.Counts (·.type) results ∧ s.byType.sum = ⟨s.passed, s.failed⟩
  byOperation : s.byOperation.Counts (·.operation) results ∧
    s.byOperation.sum = ⟨s.passed, s.failed⟩
  failed : s.passed ≤ s.total ∧ s.failed = s.total - s.passed

theorem conserves_ofResults : (ofResults results n).Conserves results := by
  obtain ⟨houtcomes, htemplate, htype, hoperation⟩ := balanced_ofResults results n
  rw [ofResults_eq_counted] at houtcomes htemplate htype hoperation ⊢
  have hle : (counted results.length results n).passed ≤ (counted results.length results n).total :=
    List.countP_le_length
  have hfailed : (counted results.length results n).failed =
      (counted results.length results n).total - (counted results.length results n).passed :=
    if_pos hle
  have htally : (counted results.length results n).tally =
      ⟨(counted results.length results n).passed, (counted results.length results n).failed⟩ := by
    have htotal : (counted results.length results n).total = results.length := rfl
    rw [tally, Tally.mk.injEq]
    omega
  exact {
    total := rfl
    outcomes := houtcomes
    byTemplate := ⟨TallyTable.counts_ofResults _ _, htemplate.sum.trans htally⟩
    byType := ⟨TallyTable.counts_ofResults _ _, htype.sum.trans htally⟩
    byOperation := ⟨TallyTable.counts_ofResults _ _, hoperation.sum.trans htally⟩
    failed := ⟨hle, hfailed⟩ }

theorem failed_ofResults : (ofResults results n).failed = results.countP (!·.passed) := by
  have htotal : results.length = results.countP (·.passed) + results.countP (!·.passed) := by
    simpa using List.length_eq_countP_add_countP TestResult.passed (l := results)
  rw [(conserves_ofResults results n).failed.2, ofResults_eq_counted]
  show results.length - results.countP (·.passed) = _
  omega

end Summary

namespace Report

variable (seed : Word) (results : List TestResult) (rejected : List TemplateRejection)

theorem summary_ofResults :
    (ofResults seed results rejected).summary = Summary.ofResults results rejected.length :=
  Summary.ofResults_perm (perm_results seed results rejected) _

theorem mem_results_ofResults {r : TestResult} :
    r ∈ (ofResults seed results rejected).results ↔ r ∈ results :=
  (perm_results seed results rejected).mem_iff

theorem length_failures :
    (ofResults seed results rejected).failures.length = results.countP (!·.passed) := by
  rw [failures, ← List.countP_eq_length_filter]
  exact (perm_results seed results rejected).countP_eq _

theorem allPassed_iff :
    (ofResults seed results rejected).allPassed = true ↔
      (∀ r ∈ results, r.outcome = .pass) ∧ rejected = [] := by
  have hrejected : (ofResults seed results rejected).rejected = rejected := rfl
  rw [allPassed, summary_ofResults, Summary.failed_ofResults, hrejected, Bool.and_eq_true,
    beq_iff_eq, List.isEmpty_iff, List.countP_eq_zero]
  simp only [Bool.not_eq_true', Bool.not_eq_false, TestResult.passed_iff]

end Report

end Crosscheck
