import Crosscheck.Proofs.List
import Crosscheck.Proofs.Template.Bindable
import Crosscheck.Template.Store
import Mathlib.Data.List.Nodup

/-!
# Crosscheck.Proofs.Template.Loading

**Loading templates and validating them are one judgement.** Loading stops at the first offence and
validation lists all violations, and each keeps its own account of the identifiers that it has seen.
The offence of a template is the first error among its violations (`offence?_cons`), so a store is
built where validation finds no error, and what loading reports is the first error that validation
finds (`TemplateStore.ofTemplates_iff_violationsOf`).
-/

namespace Crosscheck

namespace Template

variable {t : Template} {v : Violation} {seen : List String} {ts : List Template}

/-! ### Violations, template by template -/

theorem violationsAfter_append (seen : List String) (ts us : List Template) :
    violationsAfter seen (ts ++ us) =
      violationsAfter seen ts ++ violationsAfter ((ts.map (·.id)).reverse ++ seen) us := by
  induction ts generalizing seen with
  | nil => rfl
  | cons t ts ih => simp [violationsAfter, ih]

theorem violationsAfter_cons (seen : List String) (t : Template) (ts : List Template) :
    violationsAfter seen (t :: ts) = violationsAfter seen [t] ++ violationsAfter (t.id :: seen) ts :=
  violationsAfter_append seen [t] ts

/-- The rule on repeated identifiers is not a rule on single templates. -/
theorem rule_of_mem_violations (h : v ∈ t.violations) : v.rule ≠ "TPL-008" := by
  rw [violations, List.mem_append, List.mem_append] at h
  rcases h with (h | h) | h
  · exact ne_of_mem_of_not_mem (rule_of_mem_identityViolations h) (by decide)
  · exact ne_of_mem_of_not_mem (rule_of_mem_textViolations h) (by decide)
  · exact ne_of_mem_of_not_mem (rule_of_mem_bindingViolations h) (by decide)

/-- The failure to load a template that has a violation. -/
def failureOf (t : Template) (v : Violation) : CheckError :=
  if v.rule = "TPL-008" then .duplicateTemplate t.id else .malformedTemplate t.id v.text

end Template

namespace TemplateStore

open Template

variable {t : Template} {e : CheckError} {seen : List String} {ts : List Template}

/-! ### The first offence -/

/-- The offence of a template is the first error among its violations. -/
theorem offence?_cons (seen : List String) (t : Template) (ts : List Template) :
    offence? seen (t :: ts) =
      match (violationsAfter seen [t]).find? Violation.isError with
      | some v => some (t.failureOf v)
      | none => offence? (t.id :: seen) ts := by
  rw [offence?]
  by_cases hseen : seen.contains t.id = true
  · -- the rule on identifiers comes first
    have hfind : (violationsAfter seen [t]).find? Violation.isError = some t.duplicateViolation := by
      rw [violationsAfter, if_pos hseen]
      rfl
    rw [if_pos hseen, hfind]
    rfl
  · have hblock : violationsAfter seen [t] = t.violations := by
      rw [violationsAfter, if_neg hseen, violationsAfter, List.nil_append, List.append_nil]
    rw [if_neg hseen, hblock]
    cases hfind : t.violations.find? Violation.isError with
    | none => rfl
    | some v =>
        have hrule : v.rule ≠ "TPL-008" := rule_of_mem_violations (List.mem_of_find?_eq_some hfind)
        simp only [failureOf, if_neg hrule]

/-- Templates without an offence are those without an error. -/
theorem offence?_eq_none_iff :
    offence? seen ts = none ↔ (violationsAfter seen ts).find? Violation.isError = none := by
  induction ts generalizing seen with
  | nil => simp [offence?, violationsAfter]
  | cons t ts ih =>
      rw [offence?_cons, violationsAfter_cons seen t ts, List.find?_append]
      cases (violationsAfter seen [t]).find? Violation.isError with
      | some v => simp only [reduceCtorEq, Option.some_or]
      | none => simpa only [Option.none_or] using ih

/-- The first offence is that of the first template with an error. -/
theorem exists_of_offence? (h : offence? seen ts = some e) :
    ∃ before t after v, ts = before ++ t :: after ∧
      (violationsAfter seen before).find? Violation.isError = none ∧
      (violationsAfter seen (before ++ [t])).find? Violation.isError = some v ∧ e = t.failureOf v := by
  induction ts generalizing seen with
  | nil => cases h
  | cons t ts ih =>
      rw [offence?_cons] at h
      cases hblock : (violationsAfter seen [t]).find? Violation.isError with
      | some v =>
          simp only [hblock, Option.some.injEq] at h
          exact ⟨[], t, ts, v, rfl, rfl, hblock, h.symm⟩
      | none =>
          simp only [hblock] at h
          obtain ⟨before, u, after, v, hsplit, hclean, hfound, he⟩ := ih h
          refine ⟨t :: before, u, after, v, by rw [hsplit, List.cons_append], ?_, ?_, he⟩
          · rw [violationsAfter_cons, List.find?_append, hblock, Option.none_or, hclean]
          · rw [List.cons_append, violationsAfter_cons, List.find?_append, hblock, Option.none_or,
              hfound]

/-! ### Stores -/

/-- The templates of a store have identifiers of their own. -/
theorem nodup_of_offence? (h : offence? seen ts = none) :
    (ts.map (·.id)).Nodup ∧ ∀ t ∈ ts, t.id ∉ seen := by
  induction ts generalizing seen with
  | nil => exact ⟨List.nodup_nil, fun t ht => by cases ht⟩
  | cons t ts ih =>
      rw [offence?] at h
      split at h
      case isTrue => cases h
      case isFalse hseen =>
        split at h
        case h_1 => cases h
        case h_2 =>
          obtain ⟨hnodup, hnew⟩ := ih h
          refine ⟨List.nodup_cons.2 ⟨fun hmem => ?_, hnodup⟩, fun u hu => ?_⟩
          · obtain ⟨u, hu, heq⟩ := List.mem_map.1 hmem
            exact hnew u hu (heq ▸ List.mem_cons_self)
          · rcases List.mem_cons.1 hu with rfl | hu
            · simpa using hseen
            · exact fun hmem => hnew u hu (List.mem_cons_of_mem _ hmem)

theorem nodup_ids {s : TemplateStore} (h : ofTemplates ts = .ok s) :
    (s.templates.map (·.id)).Nodup := by
  rw [ofTemplates] at h
  split at h
  case h_1 => cases h
  case h_2 hnone =>
    cases h
    exact (nodup_of_offence? hnone).1

theorem find?_isError_eq_none {vs : List Violation} :
    vs.find? Violation.isError = none ↔ ∀ v ∈ vs, v.severity ≠ .error := by
  simp [List.find?_eq_none, Violation.isError]

/-- **Loading and validating agree.** A list of templates makes a store exactly if validation finds no
error. The store then has the templates in their order, and finds each of them by its identifier. If
there is an error, the first one that validation finds is also the one that loading reports: it is an
error of the first template that has one, and the report has the identifier of this template. -/
theorem ofTemplates_iff_violationsOf (ts : List Template) :
    ((∃ s, ofTemplates ts = .ok s) ↔ ∀ v ∈ violationsOf ts, v.severity ≠ .error) ∧
    match ofTemplates ts with
    | .ok s => s.templates = ts ∧ ∀ t ∈ ts, s.get? t.id = some t
    | .error e => ∃ before t after v, ts = before ++ t :: after ∧
        (∀ w ∈ violationsOf before, w.severity ≠ .error) ∧ v ∈ violationsOf (before ++ [t]) ∧
        (violationsOf ts).find? (·.severity == .error) = some v ∧
        e = if v.rule = "TPL-008" then .duplicateTemplate t.id
          else .malformedTemplate t.id v.text := by
  rw [← find?_isError_eq_none, violationsOf, ← offence?_eq_none_iff]
  cases hoffence : offence? [] ts with
  | none =>
      have hload : ofTemplates ts = .ok ⟨ts⟩ := by simp only [ofTemplates, hoffence]
      have hnodup : (ts.map (·.id)).Nodup := nodup_ids hload
      simp only [hload, Except.ok.injEq, exists_eq', true_and]
      exact fun t ht => find?_of_nodup_map hnodup ht
  | some e =>
      have hload : ofTemplates ts = .error e := by simp only [ofTemplates, hoffence]
      obtain ⟨before, t, after, v, rfl, hclean, hfound, he⟩ := exists_of_offence? hoffence
      have hfirst : (violationsAfter [] (before ++ t :: after)).find? Violation.isError = some v := by
        rw [List.append_cons, violationsAfter_append, List.find?_append, hfound, Option.some_or]
      simp only [hload, reduceCtorEq, exists_false, true_and]
      exact ⟨before, t, after, v, rfl, find?_isError_eq_none.1 hclean,
        List.mem_of_find?_eq_some hfound, hfirst, he⟩

end TemplateStore

end Crosscheck
