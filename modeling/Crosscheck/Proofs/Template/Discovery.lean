import Crosscheck.Proofs.Template.Bindable
import Crosscheck.Proofs.Template.Marking

/-!
# Crosscheck.Proofs.Template.Discovery

**Which markers are found in a text.** A scan from left to right that never looks back finds every name in
brackets, wherever stray or unclosed brackets stand around it, because names have no brackets in them
(`MarkerGrammar.mem_occurrences_iff`). It finds them where they stand, in the order of the text
(`MarkerGrammar.mem_places_iff`). Every identifier in brackets is therefore either a placeholder or warned
about, and which of the two depends on its characters alone (`markers_discovered`).
-/

namespace Crosscheck

/-! ### Names -/

/-- An upper-case letter, then upper-case letters, digits and underscores. -/
def IsPlaceholderName (name : List Char) : Prop :=
  ∃ c cs, name = c :: cs ∧ ('A' ≤ c ∧ c ≤ 'Z') ∧
    ∀ d ∈ cs, ('A' ≤ d ∧ d ≤ 'Z') ∨ ('0' ≤ d ∧ d ≤ '9') ∨ d = '_'

/-- A letter of either case or an underscore, then letters, digits and underscores. -/
def IsIdentifier (name : List Char) : Prop :=
  ∃ c cs, name = c :: cs ∧ (('A' ≤ c ∧ c ≤ 'Z') ∨ ('a' ≤ c ∧ c ≤ 'z') ∨ c = '_') ∧
    ∀ d ∈ cs, ('A' ≤ d ∧ d ≤ 'Z') ∨ ('a' ≤ d ∧ d ≤ 'z') ∨ ('0' ≤ d ∧ d ≤ '9') ∨ d = '_'

namespace MarkerGrammar

variable {g : MarkerGrammar} {name text : List Char} {segs : List Segment} {start offset : Nat}

theorem isName_iff : g.isName name = true ↔
    ∃ c cs, name = c :: cs ∧ g.first c = true ∧ ∀ d ∈ cs, g.later d = true := by
  cases name with
  | nil => simp [isName]
  | cons c cs => simp [isName]

theorem isName_placeholder_iff : placeholder.isName name = true ↔ IsPlaceholderName name := by
  simp [isName_iff, IsPlaceholderName, placeholder, isUpper, isDigit, or_assoc]

theorem isName_identifier_iff : identifier.isName name = true ↔ IsIdentifier name := by
  simp [isName_iff, IsIdentifier, identifier, isLetter, isUpper, isDigit, or_assoc]

theorem identifier_bracketless : identifier.Bracketless :=
  ⟨by decide, by decide, by decide, by decide⟩

/-! ### Places -/

/-- The names of the markers of a form, each with its place, where the form begins at `start`. -/
def places (start : Nat) : List Segment → List (Nat × String)
  | [] => []
  | s :: segs =>
    (s.name?.map fun name => (start, name)).toList ++ places (start + s.text.length) segs

theorem length_text_pos (s : Segment) : 0 < s.text.length := by
  cases s with
  | literal c => exact Nat.one_pos
  | marker name => exact Nat.succ_pos _

theorem map_snd_places (start : Nat) (segs : List Segment) :
    (places start segs).map Prod.snd = segs.filterMap Segment.name? := by
  induction segs generalizing start with
  | nil => rfl
  | cons s segs ih =>
      rw [places, List.map_append, ih, List.filterMap_cons]
      cases s.name? <;> rfl

theorem mem_places_iff_append {name : String} : (offset, name) ∈ places start segs ↔
    ∃ left right, segs = left ++ .marker name.toList :: right ∧
      offset = start + (left.flatMap Segment.text).length := by
  induction segs generalizing start with
  | nil => simp [places]
  | cons s segs ih =>
      rw [places, List.mem_append, ih]
      constructor
      · rintro (hmem | ⟨left, right, rfl, rfl⟩)
        · obtain ⟨name', hname, heq⟩ := Option.map_eq_some_iff.1 (Option.mem_toList.1 hmem)
          obtain ⟨rfl, rfl⟩ := Prod.mk.inj heq
          exact ⟨[], segs, by rw [Segment.name?_eq_some_iff.1 hname]; rfl, rfl⟩
        · exact ⟨s :: left, right, rfl, by simp [Nat.add_assoc]⟩
      · rintro ⟨left, right, hsegs, rfl⟩
        cases left with
        | nil =>
            obtain ⟨rfl, rfl⟩ := List.cons.inj hsegs
            exact .inl (by simp [Segment.name?])
        | cons s' left =>
            obtain ⟨rfl, rfl⟩ := List.cons.inj hsegs
            exact .inr ⟨left, right, rfl, by simp [Nat.add_assoc]⟩

/-- Places ascend. -/
theorem pairwise_places (start : Nat) (segs : List Segment) :
    (places start segs).Pairwise fun x y => x.1 < y.1 := by
  induction segs generalizing start with
  | nil => exact List.Pairwise.nil
  | cons s segs ih =>
      rw [places, List.pairwise_append]
      refine ⟨?_, ih _, fun x hx y hy => ?_⟩
      · cases s.name? with
        | none => exact List.Pairwise.nil
        | some name => exact List.pairwise_singleton _ _
      · obtain ⟨name, -, rfl⟩ := Option.map_eq_some_iff.1 (Option.mem_toList.1 hx)
        obtain ⟨left, right, -, hplace⟩ := mem_places_iff_append.1 hy
        have := length_text_pos s
        omega

/-- **Every name in brackets is found where it stands.** -/
theorem mem_places_iff (hg : g.Bracketless) {name : String} :
    (offset, name) ∈ places 0 (g.segments text) ↔
      g.isName name.toList = true ∧ (Segment.marker name.toList).text <+: text.drop offset := by
  have hmarks := marks_segments hg text
  constructor
  · intro h
    obtain ⟨left, right, hsegs, rfl⟩ := mem_places_iff_append.1 h
    refine ⟨hmarks.isName _ (hsegs ▸ List.mem_append_right _ List.mem_cons_self), ?_⟩
    rw [← hmarks.text_eq, hsegs, List.flatMap_append, Nat.zero_add, List.drop_left, List.flatMap_cons]
    exact List.prefix_append _ _
  · rintro ⟨hname, after, hafter⟩
    -- what is in front of the place is as long as the place says, since a bracket stands there
    have hlength : (text.take offset).length = offset := by
      have hlonger := congrArg List.length hafter
      simp only [Segment.text, List.length_append, List.length_cons, List.length_drop] at hlonger
      rw [List.length_take]
      omega
    have hoccurs : g.OccursIn (text.take offset) name.toList after text :=
      ⟨hname, by conv_lhs => rw [← List.take_append_drop offset text, ← hafter]; simp [Segment.text]⟩
    obtain ⟨left, right, hsegs, hleft, -⟩ := hmarks.complete _ _ _ hoccurs
    exact mem_places_iff_append.2 ⟨left, right, hsegs, by rw [hleft, hlength, Nat.zero_add]⟩

/-- **Every name in brackets is found.** -/
theorem mem_occurrences_iff (hg : g.Bracketless) {text name : String} :
    name ∈ g.occurrences text ↔
      g.isName name.toList = true ∧ (Segment.marker name.toList).text <:+: text.toList := by
  rw [occurrences, ← map_snd_places 0, List.mem_map]
  constructor
  · rintro ⟨⟨offset, name⟩, hmem, rfl⟩
    obtain ⟨hname, hstands⟩ := (mem_places_iff hg).1 hmem
    exact ⟨hname, hstands.isInfix.trans (List.drop_suffix _ _).isInfix⟩
  · rintro ⟨hname, before, after, htext⟩
    refine ⟨(before.length, name), (mem_places_iff hg).2 ⟨hname, ?_⟩, rfl⟩
    rw [← htext, List.append_assoc, List.drop_left]
    exact List.prefix_append _ _

end MarkerGrammar

open MarkerGrammar

theorem mem_placeholders_iff {text name : String} : name ∈ placeholders text ↔
    IsPlaceholderName name.toList ∧ (Segment.marker name.toList).text <:+: text.toList := by
  rw [placeholders, mem_ascendingTexts, mem_occurrences_iff placeholder_bracketless,
    isName_placeholder_iff]

example : placeholders "<<OP> %r<4>; <TYPE<POS><POS>" = ["OP", "POS"] := by decide +kernel

/-! ### Warnings -/

namespace Template

variable {t : Template}

/-- What the validator says about an identifier in brackets that is no placeholder. -/
def strayWarning (t : Template) (name : String) : Violation :=
  ⟨.warning, "TPL-009",
    t.id ++ ": <" ++ name ++ "> looks like a placeholder but is not upper-case; it will be emitted verbatim",
    some t.id⟩

/-- There is no marker in a blank text. -/
theorem nearPlaceholders_of_isBlankText (h : Text.isBlankText t.text = true) :
    t.nearPlaceholders = [] := by
  rw [nearPlaceholders, List.filter_eq_nil_iff]
  intro name hname
  obtain ⟨-, hbracketed⟩ := (mem_occurrences_iff identifier_bracketless).1 hname
  have hopen : '<' ∈ t.text.toList := hbracketed.subset List.mem_cons_self
  have hblank : Text.isBlank '<' = true := List.all_eq_true.1 h _ hopen
  exact absurd hblank (by decide)

theorem filter_textViolations (t : Template) :
    t.textViolations.filter (fun v => v.rule = "TPL-009") = t.nearPlaceholders.map t.strayWarning := by
  rw [textViolations]
  split
  · rename_i hblank
    rw [nearPlaceholders_of_isBlankText hblank]
    rfl
  · have hwarnings : (t.nearPlaceholders.map t.strayWarning).filter (fun v => v.rule = "TPL-009") =
        t.nearPlaceholders.map t.strayWarning := by
      refine List.filter_eq_self.2 fun v hv => ?_
      obtain ⟨name, -, rfl⟩ := List.mem_map.1 hv
      rfl
    -- neither of the other two rules has this name
    rw [List.filter_append, List.filter_append]
    split <;> split <;> exact hwarnings

/-- None of the violations of some rules is one of another rule. -/
theorem filter_rule_eq_nil {vs : List Violation} {rules : List String} {rule : String}
    (hvs : ∀ v ∈ vs, v.rule ∈ rules) (hrule : rule ∉ rules) :
    vs.filter (fun v => v.rule = rule) = [] := by
  refine List.filter_eq_nil_iff.2 fun v hv => ?_
  simpa using ne_of_mem_of_not_mem (hvs v hv) hrule

/-- The warnings of the rule on brackets, among all violations. -/
theorem filter_violations (t : Template) :
    t.violations.filter (fun v => v.rule = "TPL-009") = t.nearPlaceholders.map t.strayWarning := by
  have hidentity : t.identityViolations.filter (fun v => v.rule = "TPL-009") = [] :=
    filter_rule_eq_nil (fun _ => rule_of_mem_identityViolations) (by decide)
  have hbinding : t.bindingViolations.filter (fun v => v.rule = "TPL-009") = [] :=
    filter_rule_eq_nil (fun _ => rule_of_mem_bindingViolations) (by decide)
  rw [violations, List.filter_append, List.filter_append, hidentity, hbinding, filter_textViolations,
    List.nil_append, List.append_nil]

/-- The identifiers in brackets that are no placeholders, each with its place. -/
def strays (t : Template) : List (Nat × String) :=
  (places 0 (identifier.segments t.text.toList)).filter fun x => !t.placeholders.contains x.2

theorem map_snd_strays (t : Template) : t.strays.map Prod.snd = t.nearPlaceholders := by
  rw [nearPlaceholders, occurrences, ← map_snd_places 0, List.filter_map]
  rfl

theorem mem_strays_iff {offset : Nat} {name : String} : (offset, name) ∈ t.strays ↔
    (IsIdentifier name.toList ∧ ¬ IsPlaceholderName name.toList) ∧
      (Segment.marker name.toList).text <+: t.text.toList.drop offset := by
  rw [strays, List.mem_filter, mem_places_iff identifier_bracketless, isName_identifier_iff,
    Bool.not_eq_true', List.contains_eq_mem, decide_eq_false_iff_not, Template.placeholders,
    mem_placeholders_iff]
  constructor
  · rintro ⟨⟨hname, hstands⟩, hnone⟩
    exact ⟨⟨hname, fun hupper =>
      hnone ⟨hupper, hstands.isInfix.trans (List.drop_suffix _ _).isInfix⟩⟩, hstands⟩
  · rintro ⟨⟨hname, hnot⟩, hstands⟩
    exact ⟨⟨hname, hstands⟩, fun hfound => hnot hfound.1⟩

end Template

/-- **Which markers are found.** The placeholders of a text are the upper-case names that stand in brackets
anywhere in it. The rule on brackets warns of every identifier in brackets that is not upper-case, once for
each place where it stands, in the order of the text, and of nothing else. -/
theorem markers_discovered :
    (∀ text name : String, name ∈ placeholders text ↔
      IsPlaceholderName name.toList ∧ (Segment.marker name.toList).text <:+: text.toList) ∧
    ∀ t : Template, ∃ found : List (Nat × String),
      found.Pairwise (fun x y => x.1 < y.1) ∧
      (∀ offset name, (offset, name) ∈ found ↔
        (IsIdentifier name.toList ∧ ¬ IsPlaceholderName name.toList) ∧
          (Segment.marker name.toList).text <+: t.text.toList.drop offset) ∧
      t.violations.filter (fun v => v.rule = "TPL-009") = found.map fun x => t.strayWarning x.2 := by
  refine ⟨fun _ _ => mem_placeholders_iff, fun t => ⟨t.strays, ?_, fun _ _ => Template.mem_strays_iff, ?_⟩⟩
  · exact (pairwise_places 0 _).filter _
  · rw [t.filter_violations, ← t.map_snd_strays, List.map_map]
    rfl

end Crosscheck
