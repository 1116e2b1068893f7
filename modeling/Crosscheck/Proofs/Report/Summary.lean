import Crosscheck.Proofs.Order
import Crosscheck.Report.Basic
import Mathlib.Data.List.Induction

/-!
# Crosscheck.Proofs.Report.Summary

**Summaries count, and add up.** A summary is made by recording the results one after the other. What
it says after some of them is what counting these results says (`Summary.foldl_record`), for one more
result adds one to each count that it belongs to. So the counts of two lists of results together are
the sums of their counts (`Summary.ofResults_append`), name by name where results are counted by name,
and the order of the results does not matter (`Summary.ofResults_perm`).
-/

namespace Crosscheck

variable {results others : List TestResult} {name : String}

/-! ### Tallies -/

namespace Tally

/-- The counts of some results. -/
def ofResults (results : List TestResult) : Tally :=
  ⟨results.countP (·.passed), results.countP (!·.passed)⟩

theorem ofResults_concat (results : List TestResult) (r : TestResult) :
    ofResults (results ++ [r]) = (ofResults results).record r.passed := by
  cases h : r.passed <;> simp [ofResults, record, h]

/-- The counts of two tallies together. -/
def plus (t u : Tally) : Tally := ⟨t.passed + u.passed, t.failed + u.failed⟩

theorem ofResults_append (results others : List TestResult) :
    ofResults (results ++ others) = (ofResults results).plus (ofResults others) := by
  simp only [ofResults, plus, List.countP_append]

theorem ofResults_perm (h : results.Perm others) : ofResults results = ofResults others := by
  rw [ofResults, ofResults, h.countP_eq, h.countP_eq]

end Tally

/-! ### Tables -/

namespace TallyTable

/-- The tallies of results with equal labels. -/
def ofResults (label : PointKey → String) (results : List TestResult) : TallyTable :=
  (ascendingTexts (results.map fun r => label r.point)).map fun name =>
    (name, Tally.ofResults (results.filter fun r => label r.point == name))

/-- The names of a table. -/
def names (table : TallyTable) : List String := table.map (·.1)

/-- The counts of two tables together, name by name. -/
def plus (table other : TallyTable) : TallyTable :=
  (ascendingTexts (table.names ++ other.names)).map fun name =>
    (name, (table.get name).plus (other.get name))

theorem names_ofResults (label : PointKey → String) (results : List TestResult) :
    (ofResults label results).names = ascendingTexts (results.map fun r => label r.point) := by
  rw [names, ofResults, List.map_map]
  exact List.map_id _

/-- Looking up a name in a table that is computed from its names. -/
theorem lookup_map_self {f : String → Tally} {names : List String} (h : name ∈ names) :
    (names.map fun n => (n, f n)).lookup name = some (f name) := by
  induction names with
  | nil => cases h
  | cons n names ih =>
      rw [List.map_cons, List.lookup_cons]
      by_cases heq : name = n
      · subst heq
        simp
      · rw [beq_false_of_ne heq]
        exact ih ((List.mem_cons.1 h).resolve_left heq)

theorem lookup_eq_none {table : TallyTable} (h : name ∉ table.names) : table.lookup name = none := by
  rw [List.lookup_eq_none_iff]
  intro entry hentry
  have hne : name ≠ entry.1 := fun heq => h (heq ▸ List.mem_map_of_mem hentry)
  exact bne_iff_ne.2 hne

/-- A table counts under a name the results with that label. -/
theorem get_ofResults (label : PointKey → String) (results : List TestResult) (name : String) :
    (ofResults label results).get name =
      Tally.ofResults (results.filter fun r => label r.point == name) := by
  rw [get]
  by_cases hname : name ∈ ascendingTexts (results.map fun r => label r.point)
  · rw [ofResults, lookup_map_self hname]
    rfl
  · rw [lookup_eq_none (names_ofResults label results ▸ hname)]
    -- no result has the label
    have hnone : results.filter (fun r => label r.point == name) = [] := by
      rw [List.filter_eq_nil_iff]
      intro r hr hlabel
      refine hname (mem_ascendingTexts.2 (List.mem_map.2 ⟨r, hr, ?_⟩))
      exact eq_of_beq hlabel
    rw [hnone]
    rfl

/-! An entry goes before a later name, behind an earlier one, or in the place of its own. -/

theorem insert_of_lt {other : String} (h : name < other) (t u : Tally) (table : TallyTable) :
    insert name t ((other, u) :: table) = (name, t) :: (other, u) :: table := by
  rw [insert, if_pos h]

theorem insert_of_gt {other : String} (h : other < name) (t u : Tally) (table : TallyTable) :
    insert name t ((other, u) :: table) = (other, u) :: insert name t table := by
  rw [insert, if_neg (String.lt_asymm h), if_pos h]

theorem insert_self (name : String) (t u : Tally) (table : TallyTable) :
    insert name t ((name, u) :: table) = (name, t) :: table := by
  rw [insert, if_neg (String.lt_irrefl name), if_neg (String.lt_irrefl name)]

/-- Inserting into a table that is computed from its names. -/
theorem insert_map {f : String → Tally} {names : List String} (h : names.Pairwise (· < ·))
    (name : String) (t : Tally) :
    insert name t (names.map fun n => (n, f n)) =
      (insertAscending textBefore name names).map fun n => (n, if n = name then t else f n) := by
  have hlater : ∀ {names : List String}, (∀ n ∈ names, name < n) →
      names.map (fun n => (n, f n)) = names.map fun n => (n, if n = name then t else f n) := by
    intro names hlt
    refine List.map_congr_left fun n hn => ?_
    rw [if_neg fun heq => String.lt_irrefl _ (heq ▸ hlt n hn)]
  induction names with
  | nil => simp [insert, insertAscending]
  | cons other names ih =>
      obtain ⟨hleast, htail⟩ := List.pairwise_cons.1 h
      rw [List.map_cons]
      rcases Std.lt_trichotomy name other with hbefore | rfl | hafter
      · have hall : ∀ n ∈ other :: names, name < n :=
          List.forall_mem_cons.2 ⟨hbefore, fun n hn => String.lt_trans hbefore (hleast n hn)⟩
        rw [insert_of_lt hbefore, insertAscending_of_lt hbefore, List.map_cons, ← hlater hall,
          if_pos rfl, List.map_cons]
      · rw [insert_self, insertAscending_self, List.map_cons, ← hlater hleast, if_pos rfl]
      · have hne : other ≠ name := fun heq => String.lt_irrefl _ (heq ▸ hafter)
        rw [insert_of_gt hafter, insertAscending_of_gt hafter, List.map_cons, if_neg hne, ih htail]

/-- A table of results, of which the last is recorded last. -/
theorem ofResults_concat (label : PointKey → String) (results : List TestResult) (r : TestResult) :
    ofResults label (results ++ [r]) =
      (ofResults label results).record (label r.point) r.passed := by
  have hnames : ascendingTexts ((results ++ [r]).map fun r => label r.point) =
      insertAscending textBefore (label r.point)
        (ascendingTexts (results.map fun r => label r.point)) := by
    rw [List.map_append, ascendingTexts, ascending, List.foldl_append]
    rfl
  rw [record, get_ofResults, ofResults, ofResults, insert_map (pairwise_ascendingTexts _), hnames]
  refine List.map_congr_left fun name _ => ?_
  rw [List.filter_append]
  by_cases hname : name = label r.point
  · subst hname
    simp [Tally.ofResults_concat]
  · have hne : (label r.point == name) = false := beq_false_of_ne (Ne.symm hname)
    simp [hname, hne]

theorem ofResults_append (label : PointKey → String) (results others : List TestResult) :
    ofResults label (results ++ others) =
      (ofResults label results).plus (ofResults label others) := by
  have hnames : ascendingTexts ((results ++ others).map fun r => label r.point) =
      ascendingTexts ((ofResults label results).names ++ (ofResults label others).names) := by
    refine ascendingTexts_congr fun name => ?_
    rw [names_ofResults, names_ofResults, List.map_append, List.mem_append, List.mem_append,
      mem_ascendingTexts, mem_ascendingTexts]
  rw [plus, ← hnames, ofResults]
  refine List.map_congr_left fun name _ => ?_
  rw [get_ofResults, get_ofResults, List.filter_append, Tally.ofResults_append]

theorem ofResults_perm (label : PointKey → String) (h : results.Perm others) :
    ofResults label results = ofResults label others := by
  have hnames : ascendingTexts (results.map fun r => label r.point) =
      ascendingTexts (others.map fun r => label r.point) :=
    ascendingTexts_congr fun name => (h.map _).mem_iff
  rw [ofResults, hnames, ofResults]
  refine List.map_congr_left fun name _ => ?_
  rw [Tally.ofResults_perm (h.filter _)]

end TallyTable

/-! ### Summaries -/

namespace Summary

/-- The number of results with an outcome of some kind. -/
def countOf (kind : Outcome → Bool) (results : List TestResult) : Nat :=
  results.countP fun r => kind r.outcome

/-- What is recorded of some results, if there are so many in total. -/
def counted (total : Nat) (results : List TestResult) (rejectedTemplates : Nat) : Summary where
  total := total
  passed := results.countP (·.passed)
  mismatched := countOf (fun o => o matches .mismatch ..) results
  executionFailures := countOf (fun o => o matches .executionFailure _) results
  generationFailures := countOf (fun o => o matches .generationFailure _) results
  rejectedTemplates := rejectedTemplates
  byTemplate := TallyTable.ofResults (·.template) results
  byType := TallyTable.ofResults (·.type) results
  byOperation := TallyTable.ofResults (·.operation) results

/-- **Recording a result counts it.** -/
theorem counted_concat (total : Nat) (results : List TestResult) (r : TestResult) (n : Nat) :
    counted total (results ++ [r]) n = (counted total results n).record r := by
  cases h : r.outcome <;>
    simp [counted, record, recordOutcome, countOf, TallyTable.ofResults_concat, TestResult.passed,
      Outcome.isPass, h]

/-- At any time, what is recorded are the counts of the results so far. -/
theorem foldl_record (total : Nat) (results : List TestResult) (n : Nat) :
    results.foldl record (start total n) = counted total results n := by
  induction results using List.reverseRecOn with
  | nil => rfl
  | append_singleton results r ih =>
      rw [List.foldl_append, ih, counted_concat]
      rfl

/-- **A summary counts the results.** -/
theorem ofResults_eq_counted (results : List TestResult) (n : Nat) :
    ofResults results n = counted results.length results n :=
  foldl_record results.length results n

/-- The counts of two summaries together. -/
def plus (s u : Summary) : Summary where
  total := s.total + u.total
  passed := s.passed + u.passed
  mismatched := s.mismatched + u.mismatched
  executionFailures := s.executionFailures + u.executionFailures
  generationFailures := s.generationFailures + u.generationFailures
  rejectedTemplates := s.rejectedTemplates + u.rejectedTemplates
  byTemplate := s.byTemplate.plus u.byTemplate
  byType := s.byType.plus u.byType
  byOperation := s.byOperation.plus u.byOperation

/-- **The counts of results together are the sums of their counts.** -/
theorem ofResults_append (results others : List TestResult) (m n : Nat) :
    ofResults (results ++ others) (m + n) = (ofResults results m).plus (ofResults others n) := by
  simp only [ofResults_eq_counted, counted, plus, countOf, List.length_append, List.countP_append,
    TallyTable.ofResults_append]

/-- **The order of the results does not matter.** -/
theorem ofResults_perm (h : results.Perm others) (n : Nat) :
    ofResults results n = ofResults others n := by
  simp only [ofResults_eq_counted, counted, countOf, h.length_eq, h.countP_eq,
    TallyTable.ofResults_perm _ h]

/-- The results with some property can be counted apart. -/
theorem ofResults_filter (p : TestResult → Bool) (results : List TestResult) (n : Nat) :
    ofResults results n =
      (ofResults (results.filter (!p ·)) n).plus (ofResults (results.filter p) 0) := by
  rw [← ofResults_append, Nat.add_zero]
  refine ofResults_perm ?_ n
  exact ((List.filter_append_perm p results).symm.trans List.perm_append_comm)

end Summary

end Crosscheck
