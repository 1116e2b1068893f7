import Crosscheck.Proofs.Order
import Crosscheck.Proofs.Template.Expansion

/-!
# Crosscheck.Proofs.Template.Marking

**What expansion does to a text, said without the scan.** A text has one form in which all its
placeholders are marked (`MarkerGrammar.Marks`), because names have no brackets in them: two
occurrences never overlap, however brackets are nested or left open. The scan finds that form
(`marks_segments`), and expansion replaces the markers in it.
-/

namespace Crosscheck

theorem Segment.name?_eq_some_iff {s : Segment} {name : String} :
    s.name? = some name ↔ s = .marker name.toList := by
  cases s with
  | literal c => simp [name?]
  | marker cs => rw [name?, Option.some.injEq, marker.injEq, ← String.toList_inj, String.toList_ofList]

namespace MarkerGrammar

variable {g : MarkerGrammar} {name text before after : List Char}

/-! ### Occurrences -/

/-- The text consists of what is before a name in brackets, that name, and what is after it. -/
structure OccursIn (g : MarkerGrammar) (before name after text : List Char) : Prop where
  isName : g.isName name = true
  text_eq : text = before ++ '<' :: (name ++ '>' :: after)

/-- A grammar whose names have no brackets in them. -/
structure Bracketless (g : MarkerGrammar) : Prop where
  first_open : g.first '<' = false
  later_open : g.later '<' = false
  first_close : g.first '>' = false
  later_close : g.later '>' = false

theorem placeholder_bracketless : placeholder.Bracketless :=
  ⟨by decide, by decide, by decide, by decide⟩

theorem not_mem_of_isName {c : Char} (hfirst : g.first c = false) (hlater : g.later c = false)
    (h : g.isName name = true) : c ∉ name := by
  intro hc
  cases name with
  | nil => cases hc
  | cons d ds =>
      simp only [isName, Bool.and_eq_true, List.all_eq_true] at h
      rcases List.mem_cons.1 hc with rfl | hc
      · exact Bool.false_ne_true (hfirst.symm.trans h.1)
      · exact Bool.false_ne_true (hlater.symm.trans (h.2 c hc))

theorem Bracketless.not_open (hg : g.Bracketless) (h : g.isName name = true) : '<' ∉ name :=
  not_mem_of_isName hg.first_open hg.later_open h

theorem Bracketless.not_close (hg : g.Bracketless) (h : g.isName name = true) : '>' ∉ name :=
  not_mem_of_isName hg.first_close hg.later_close h

theorem eq_of_append_close {cs ds : List Char} {rest other : List Char} (hcs : '>' ∉ cs)
    (hds : '>' ∉ ds) (h : cs ++ '>' :: rest = ds ++ '>' :: other) : cs = ds ∧ rest = other := by
  induction cs generalizing ds with
  | nil =>
      cases ds with
      | nil => exact ⟨rfl, (List.cons.inj h).2⟩
      | cons d ds => exact absurd (List.cons.inj h).1 fun heq => hds (heq ▸ List.mem_cons_self)
  | cons c cs ih =>
      cases ds with
      | nil => exact absurd (List.cons.inj h).1 fun heq => hcs (heq ▸ List.mem_cons_self)
      | cons d ds =>
          obtain ⟨rfl, htail⟩ := List.cons.inj h
          obtain ⟨rfl, hrest⟩ := ih (fun hmem => hcs (List.mem_cons_of_mem _ hmem))
            (fun hmem => hds (List.mem_cons_of_mem _ hmem)) htail
          exact ⟨rfl, hrest⟩

/-- A bracket opens a marker if a name and the other bracket follow. -/
theorem markerAfterBracket?_eq_some_iff (hg : g.Bracketless) {cs rest : List Char} :
    g.markerAfterBracket? cs = some (name, rest) ↔ g.isName name = true ∧ cs = name ++ '>' :: rest := by
  constructor
  · intro h
    refine ⟨?_, eq_of_markerAfterBracket? h⟩
    cases cs with
    | nil => cases h
    | cons c cs =>
        rw [markerAfterBracket?] at h
        by_cases hfirst : g.first c = true
        · rw [if_pos hfirst] at h
          split at h
          · obtain ⟨rfl, -⟩ := Prod.mk.inj (Option.some.inj h)
            rw [isName, hfirst, List.all_takeWhile]
            rfl
          · cases h
        · rw [if_neg hfirst] at h
          cases h
  · rintro ⟨hname, rfl⟩
    cases name with
    | nil => cases hname
    | cons c cs =>
        simp only [isName, Bool.and_eq_true, List.all_eq_true] at hname
        obtain ⟨hfirst, hlater⟩ := hname
        rw [List.cons_append, markerAfterBracket?, if_pos hfirst, List.dropWhile_append_of_pos hlater,
          List.takeWhile_append_of_pos hlater, List.dropWhile_cons_of_neg (by simp [hg.later_close]),
          List.takeWhile_cons_of_neg (by simp [hg.later_close]), List.append_nil]
        rfl

/-! ### Forms of a text -/

/-- A form of a text in which all its markers are marked. -/
structure Marks (g : MarkerGrammar) (text : List Char) (segs : List Segment) : Prop where
  text_eq : segs.flatMap Segment.text = text
  isName : ∀ name, .marker name ∈ segs → g.isName name = true
  complete : ∀ before name after, g.OccursIn before name after text →
    ∃ left right, segs = left ++ .marker name :: right ∧ left.flatMap Segment.text = before ∧
      right.flatMap Segment.text = after

namespace Marks

variable {segs others : List Segment}

/-- A marker that the text begins with is the first segment. -/
theorem eq_cons_of_occursIn (h : g.Marks text segs) (hoccurs : g.OccursIn [] name after text) :
    ∃ right, segs = .marker name :: right := by
  obtain ⟨left, right, rfl, hleft, -⟩ := h.complete _ _ _ hoccurs
  cases left with
  | nil => exact ⟨right, rfl⟩
  | cons s left => cases s <;> cases hleft

/-- The form of a text without its first segment is a form of the rest. -/
theorem tail {s : Segment} {rest : List Char} (h : g.Marks (s.text ++ rest) (s :: segs)) :
    g.Marks rest segs where
  text_eq := List.append_cancel_left h.text_eq
  isName name hmem := h.isName name (List.mem_cons_of_mem _ hmem)
  complete before name after hoccurs := by
    have hlonger : g.OccursIn (s.text ++ before) name after (s.text ++ rest) :=
      ⟨hoccurs.isName, by rw [hoccurs.text_eq, List.append_assoc]⟩
    obtain ⟨left, right, hsegs, hleft, hright⟩ := h.complete _ _ _ hlonger
    cases left with
    | nil =>
        -- the segment would have to have no text
        have hnone : s.text = [] := (List.append_eq_nil_iff.1 hleft.symm).1
        cases s <;> cases hnone
    | cons s' left =>
        obtain ⟨rfl, rfl⟩ := List.cons.inj hsegs
        exact ⟨left, right, rfl, List.append_cancel_left hleft, hright⟩

/-- **A text has one form only.** -/
theorem unique (h : g.Marks text segs) (hother : g.Marks text others) : others = segs := by
  induction segs generalizing text others with
  | nil =>
      obtain rfl := h.text_eq
      cases others with
      | nil => rfl
      | cons s others =>
          have hnone : s.text = [] := (List.append_eq_nil_iff.1 hother.text_eq).1
          cases s <;> cases hnone
  | cons s segs ih =>
      obtain rfl := h.text_eq
      -- the other form begins with the same segment, since a leading marker is marked in both
      have hhead : ∃ right, others = s :: right := by
        cases s with
        | marker name =>
            have hoccurs : g.OccursIn [] name (segs.flatMap Segment.text)
                ((Segment.marker name :: segs).flatMap Segment.text) :=
              ⟨h.isName name List.mem_cons_self, by simp [Segment.text]⟩
            exact hother.eq_cons_of_occursIn hoccurs
        | literal c =>
            cases others with
            | nil => cases hother.text_eq
            | cons s' others =>
                cases s' with
                | literal d =>
                    obtain ⟨rfl, -⟩ := List.cons.inj hother.text_eq
                    exact ⟨others, rfl⟩
                | marker name =>
                    have htext := hother.text_eq
                    have hoccurs : g.OccursIn [] name (others.flatMap Segment.text)
                        ((Segment.literal c :: segs).flatMap Segment.text) :=
                      ⟨hother.isName name List.mem_cons_self, by rw [← htext]; simp [Segment.text]⟩
                    obtain ⟨right, hright⟩ := h.eq_cons_of_occursIn hoccurs
                    cases hright
      obtain ⟨right, rfl⟩ := hhead
      rw [ih h.tail hother.tail]

end Marks

/-- A marker that begins behind a first character. -/
theorem OccursIn.tail {c d : Char} {cs : List Char} (h : g.OccursIn (d :: before) name after (c :: cs)) :
    d = c ∧ g.OccursIn before name after cs := by
  obtain ⟨rfl, htail⟩ := List.cons.inj h.text_eq
  exact ⟨rfl, h.isName, htail⟩

/-- A marker after another one begins behind it: they do not overlap. -/
theorem OccursIn.behind (hg : g.Bracketless) {first rest : List Char} (hfirst : g.isName first = true)
    (h : g.OccursIn before name after ('<' :: (first ++ '>' :: rest))) :
    before = [] ∧ name = first ∧ after = rest ∨
      ∃ between, before = '<' :: (first ++ '>' :: between) ∧ g.OccursIn between name after rest := by
  cases before with
  | nil =>
      have htail := (List.cons.inj h.text_eq).2
      obtain ⟨rfl, rfl⟩ :=
        eq_of_append_close (hg.not_close hfirst) (hg.not_close h.isName) htail
      exact .inl ⟨rfl, rfl, rfl⟩
  | cons d before =>
      right
      obtain ⟨rfl, hname, htext⟩ := h.tail
      rcases List.append_eq_append_iff.1 htext with ⟨between, rfl, hrest⟩ | ⟨between, hsplit, hrest⟩
      · -- the first name ends before the other marker begins
        cases between with
        | nil => cases (List.cons.inj hrest).1
        | cons e between =>
            obtain ⟨rfl, htail⟩ := List.cons.inj hrest
            exact ⟨between, rfl, hname, htail⟩
      · -- otherwise there would be a bracket in the first name
        cases between with
        | nil => cases (List.cons.inj hrest).1
        | cons e between =>
            obtain ⟨rfl, -⟩ := List.cons.inj hrest
            exact absurd (by simp [hsplit]) (hg.not_open hfirst)

/-! ### The scan -/

namespace Marks

variable {segs : List Segment} {rest : List Char}

/-- The markers of the form are the names that occur in brackets. -/
theorem marker_mem_iff (h : g.Marks text segs) :
    .marker name ∈ segs ↔ ∃ before after, g.OccursIn before name after text := by
  constructor
  · intro hmem
    obtain ⟨left, right, rfl⟩ := List.append_of_mem hmem
    refine ⟨left.flatMap Segment.text, right.flatMap Segment.text, h.isName name hmem, ?_⟩
    rw [← h.text_eq]
    simp [Segment.text]
  · rintro ⟨before, after, hoccurs⟩
    obtain ⟨left, right, rfl, -, -⟩ := h.complete _ _ _ hoccurs
    exact List.mem_append_right _ List.mem_cons_self

theorem nil : g.Marks [] [] where
  text_eq := rfl
  isName name hmem := by cases hmem
  complete before name after hoccurs := by
    have hnone := hoccurs.text_eq
    simp at hnone

theorem marker_cons (hg : g.Bracketless) (hname : g.isName name = true) (h : g.Marks rest segs) :
    g.Marks ('<' :: (name ++ '>' :: rest)) (.marker name :: segs) where
  text_eq := by
    rw [List.flatMap_cons, h.text_eq]
    simp [Segment.text]
  isName other hmem := by
    rcases List.mem_cons.1 hmem with heq | hmem
    · cases heq
      exact hname
    · exact h.isName other hmem
  complete before other after hoccurs := by
    rcases hoccurs.behind hg hname with ⟨rfl, rfl, rfl⟩ | ⟨between, rfl, hbetween⟩
    · exact ⟨[], segs, rfl, rfl, h.text_eq⟩
    · obtain ⟨left, right, rfl, rfl, hright⟩ := h.complete _ _ _ hbetween
      exact ⟨.marker name :: left, right, rfl, by simp [Segment.text], hright⟩

theorem literal_cons {c : Char} (h : g.Marks rest segs)
    (hc : ∀ name after, ¬ g.OccursIn [] name after (c :: rest)) :
    g.Marks (c :: rest) (.literal c :: segs) where
  text_eq := by
    rw [List.flatMap_cons, h.text_eq]
    rfl
  isName name hmem := by
    rcases List.mem_cons.1 hmem with heq | hmem
    · cases heq
    · exact h.isName name hmem
  complete before name after hoccurs := by
    cases before with
    | nil => exact absurd hoccurs (hc name after)
    | cons d before =>
        obtain ⟨rfl, htail⟩ := hoccurs.tail
        obtain ⟨left, right, rfl, rfl, hright⟩ := h.complete _ _ _ htail
        exact ⟨.literal d :: left, right, rfl, rfl, hright⟩

end Marks

/-- **The scan marks all markers**, whatever brackets there are besides. -/
theorem marks_segments (hg : g.Bracketless) (text : List Char) :
    g.Marks text (g.segments text) := by
  fun_induction g.segments text with
  | case1 => exact .nil
  | case2 cs first rest hmarker ih =>
      obtain ⟨hname, rfl⟩ := (markerAfterBracket?_eq_some_iff hg).1 hmarker
      exact ih.marker_cons hg hname
  | case3 cs hnone ih =>
      refine ih.literal_cons fun name after hoccurs => ?_
      have hmarker := (markerAfterBracket?_eq_some_iff hg).2
        ⟨hoccurs.isName, (List.cons.inj hoccurs.text_eq).2⟩
      rw [hmarker] at hnone
      cases hnone
  | case4 c cs hc ih =>
      exact ih.literal_cons fun name after hoccurs => hc (List.cons.inj hoccurs.text_eq).1

end MarkerGrammar

/-! ### Expansion -/

namespace Template

variable {t : Template} {b : Bindings} {name : String}

/-- The name is a placeholder of the template to which nothing is bound. -/
def Unbound (t : Template) (b : Bindings) (name : String) : Prop :=
  (∃ before after, MarkerGrammar.placeholder.OccursIn before name.toList after t.text.toList) ∧
    b.get? name = none

theorem marks_text (t : Template) :
    MarkerGrammar.placeholder.Marks t.text.toList
      (MarkerGrammar.placeholder.segments t.text.toList) :=
  MarkerGrammar.marks_segments MarkerGrammar.placeholder_bracketless _

theorem mem_placeholders_iff_marker :
    name ∈ t.placeholders ↔
      .marker name.toList ∈ MarkerGrammar.placeholder.segments t.text.toList := by
  simp [mem_placeholders, MarkerGrammar.occurrences, List.mem_filterMap, Segment.name?_eq_some_iff]

theorem unbound_iff : t.Unbound b name ↔ name ∈ t.placeholders ∧ b.get? name = none := by
  rw [Unbound, mem_placeholders_iff_marker, t.marks_text.marker_mem_iff]

/-- Of several unbound placeholders the least is reported. -/
theorem expandWith_of_unbound (h : t.Unbound b name) :
    ∃ least, t.Unbound b least ∧ (∀ other, t.Unbound b other → least ≤ other) ∧
      t.expandWith b = .error (.unresolvedPlaceholder t.id least) := by
  obtain ⟨hmem, hnone⟩ := unbound_iff.1 h
  cases hfind : t.placeholders.find? (fun name => (b.get? name).isNone) with
  | none =>
      have hbound := List.find?_eq_none.1 hfind name hmem
      simp [hnone] at hbound
  | some least =>
      refine ⟨least, unbound_iff.2 ⟨List.mem_of_find?_eq_some hfind, ?_⟩, ?_, ?_⟩
      · simpa using List.find?_some hfind
      · intro other hother
        obtain ⟨hmem, hnone⟩ := unbound_iff.1 hother
        exact le_of_find?_eq_some (pairwise_ascendingTexts _) hfind hmem (by simp [hnone])
      · rw [expandWith, hfind]

/-- **What expansion gives.** The text has a unique form in which all its placeholders are marked.
If nothing is bound to some of them, expansion fails, and the error names the template and the least
of these. Otherwise the kernel has the template's entry, and its text is that form with every marker
replaced by the value of its name. Values are copied: whatever brackets they bring in stay. -/
theorem expandWith_exact (t : Template) (b : Bindings) :
    ∃ segs, MarkerGrammar.placeholder.Marks t.text.toList segs ∧
      (∀ others, MarkerGrammar.placeholder.Marks t.text.toList others → others = segs) ∧
      ((∃ name, t.Unbound b name ∧ (∀ other, t.Unbound b other → name ≤ other) ∧
          t.expandWith b = .error (.unresolvedPlaceholder t.id name)) ∨
        (∀ name, ¬ t.Unbound b name) ∧
          ∃ value : String → String,
            (∀ name, .marker name ∈ segs →
              b.get? (String.ofList name) = some (value (String.ofList name))) ∧
            t.expandWith b = .ok ⟨t.entry, String.ofList
              (segs.flatMap (Segment.fill fun name => (value name).toList))⟩) := by
  refine ⟨_, t.marks_text, fun others hothers => t.marks_text.unique hothers, ?_⟩
  by_cases hunbound : ∃ name, t.Unbound b name
  · obtain ⟨name, hname⟩ := hunbound
    exact .inl (expandWith_of_unbound hname)
  · have hbound : ∀ name ∈ t.placeholders, (b.get? name).isSome = true := by
      intro name hmem
      rw [Option.isSome_iff_ne_none]
      exact fun hnone => hunbound ⟨name, unbound_iff.2 ⟨hmem, hnone⟩⟩
    refine .inr ⟨fun name hname => hunbound ⟨name, hname⟩, fun name => (b.get? name).getD "", ?_,
      expandWith_of_bound hbound⟩
    intro name hmem
    have hplaceholder : String.ofList name ∈ t.placeholders := by
      rw [mem_placeholders_iff_marker, String.toList_ofList]
      exact hmem
    obtain ⟨value, hvalue⟩ := Option.isSome_iff_exists.1 (hbound _ hplaceholder)
    simp [hvalue]

/-- Brackets around a marker stay, and so does what looks like a marker in a value. -/
example : (Template.mk "t" "k" .unary "<A<OP>> <<LEN> <op> %r<4>").expandWith
    ⟨[("OP", "<LEN>"), ("LEN", "$1")]⟩ = .ok ⟨"k", "<A<LEN>> <$1 <op> %r<4>"⟩ := by
  cbv

end Template

end Crosscheck
