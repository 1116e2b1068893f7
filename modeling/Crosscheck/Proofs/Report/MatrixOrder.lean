import Crosscheck.Report.Basic
import Mathlib.Data.List.Nodup

/-!
# Crosscheck.Proofs.Report.MatrixOrder

**A report is in matrix order, in whatever order its results come in.** Keys are ordered by template
and index. Where these determine the result, a report does not depend on the order of the results
that it is made from (`Report.ofResults_perm`), and its own results are strictly ascending
(`Report.pairwise_before`).
-/

namespace Crosscheck

namespace PointKey

variable {k l m : PointKey}

/-- What keys are ordered by. -/
def position (k : PointKey) : String × Nat := (k.template, k.index)

/-- Strict matrix order. -/
def Before (k l : PointKey) : Prop :=
  k.template < l.template ∨ k.template = l.template ∧ k.index < l.index

theorem notAfter_iff :
    k.notAfter l = true ↔ k.template < l.template ∨ k.template = l.template ∧ k.index ≤ l.index := by
  simp [notAfter]

theorem notAfter_trans (hkl : k.notAfter l = true) (hlm : l.notAfter m = true) :
    k.notAfter m = true := by
  rw [notAfter_iff] at *
  rcases hkl with hkl | ⟨hkl, hi⟩ <;> rcases hlm with hlm | ⟨hlm, hj⟩
  · exact .inl (String.lt_trans hkl hlm)
  · exact .inl (hlm ▸ hkl)
  · exact .inl (hkl ▸ hlm)
  · exact .inr ⟨hkl.trans hlm, Nat.le_trans hi hj⟩

theorem notAfter_total (k l : PointKey) : (k.notAfter l || l.notAfter k) = true := by
  rw [Bool.or_eq_true, notAfter_iff, notAfter_iff]
  by_cases hkl : k.template < l.template
  · exact .inl (.inl hkl)
  · by_cases hlk : l.template < k.template
    · exact .inr (.inl hlk)
    · have heq : k.template = l.template := by
        exact String.le_antisymm (String.not_lt.1 hlk) (String.not_lt.1 hkl)
      rcases Nat.le_total k.index l.index with hi | hi
      · exact .inl (.inr ⟨heq, hi⟩)
      · exact .inr (.inr ⟨heq.symm, hi⟩)

/-- Keys of which none is after the other have template and index in common. -/
theorem eq_of_notAfter (hkl : k.notAfter l = true) (hlk : l.notAfter k = true) :
    k.template = l.template ∧ k.index = l.index := by
  rw [notAfter_iff] at *
  rcases hkl with hkl | ⟨heq, hi⟩
  · rcases hlk with hlk | ⟨heq, -⟩
    · exact absurd hlk (String.lt_asymm hkl)
    · exact absurd (heq ▸ hkl) (String.lt_irrefl _)
  · rcases hlk with hlk | ⟨-, hj⟩
    · exact absurd (heq ▸ hlk) (String.lt_irrefl _)
    · exact ⟨heq, Nat.le_antisymm hi hj⟩

theorem before_of_notAfter (h : k.notAfter l = true) (hne : k.position ≠ l.position) :
    k.Before l := by
  rw [notAfter_iff] at h
  refine h.imp_right fun ⟨htemplate, hindex⟩ => ⟨htemplate, ?_⟩
  refine Nat.lt_of_le_of_ne hindex fun heq => hne ?_
  exact Prod.ext htemplate heq

end PointKey

namespace Report

variable {results others : List TestResult}

/-- Template and index of a point say which result it has. -/
def Distinct (results : List TestResult) : Prop :=
  ∀ a ∈ results, ∀ b ∈ results,
    a.point.template = b.point.template → a.point.index = b.point.index → a = b

theorem distinct_of_nodup (h : (results.map (·.point.position)).Nodup) : Distinct results := by
  intro a ha b hb htemplate hindex
  exact List.inj_on_of_nodup_map h ha hb (Prod.ext htemplate hindex)

theorem pairwise_notAfter : ∀ results : List TestResult,
    (results.mergeSort fun a b => a.point.notAfter b.point).Pairwise
      fun a b => a.point.notAfter b.point = true :=
  List.pairwise_mergeSort (fun _ _ _ => PointKey.notAfter_trans)
    (fun a b => PointKey.notAfter_total a.point b.point)

theorem perm_results (seed : Word) (results : List TestResult) (rejected : List TemplateRejection) :
    (ofResults seed results rejected).results.Perm results :=
  List.mergeSort_perm results _

/-- The results of a report are in strict matrix order. -/
theorem pairwise_before (h : (results.map (·.point.position)).Nodup) (seed : Word)
    (rejected : List TemplateRejection) :
    (ofResults seed results rejected).results.Pairwise fun a b => a.point.Before b.point := by
  have hperm := (perm_results seed results rejected).map (·.point.position)
  have hdistinct := List.pairwise_map.1 (hperm.nodup_iff.2 h)
  exact ((pairwise_notAfter results).and hdistinct).imp fun ⟨hnotAfter, hne⟩ =>
    PointKey.before_of_notAfter hnotAfter hne

/-- **The order in which results come in does not matter.** -/
theorem ofResults_perm (h : results.Perm others) (hdistinct : Distinct results) (seed : Word)
    (rejected : List TemplateRejection) :
    ofResults seed results rejected = ofResults seed others rejected := by
  let le (a b : TestResult) : Bool := a.point.notAfter b.point
  have hperm : (results.mergeSort le).Perm (others.mergeSort le) :=
    (List.mergeSort_perm results le).trans (h.trans (List.mergeSort_perm others le).symm)
  have heq : results.mergeSort le = others.mergeSort le := by
    refine hperm.eq_of_pairwise ?_ (pairwise_notAfter results) (pairwise_notAfter others)
    intro a b ha hb hab hba
    obtain ⟨htemplate, hindex⟩ := PointKey.eq_of_notAfter hab hba
    exact hdistinct a (List.mem_mergeSort.1 ha) b (h.mem_iff.2 (List.mem_mergeSort.1 hb))
      htemplate hindex
  have hreport := congrArg
    (fun sorted => Report.mk seed sorted rejected (Summary.ofResults sorted rejected.length)) heq
  exact hreport

end Report

end Crosscheck
