import Crosscheck.Proofs.Text.Lines
import Crosscheck.Template.Bindings
import Crosscheck.Template.Bundled

/-!
# Crosscheck.Proofs.Template.Expansion

**Expansion, line by line.** No marker reaches over the end of a line, so a text of whole lines is
expanded by expanding its lines (`segments_flatMap_lines`). A template whose placeholders are all
bound has a kernel, and the lines of that kernel are the expanded lines of the template
(`lines_expandWith`).
-/

namespace Crosscheck

namespace MarkerGrammar

variable {g : MarkerGrammar} {stop : Char}

/-! ### Characters that no marker reaches over -/

/-- A character that is no part of any marker. -/
structure Stops (g : MarkerGrammar) (stop : Char) : Prop where
  /-- No name begins with it. -/
  not_first : g.first stop = false
  /-- No name goes on with it. -/
  not_later : g.later stop = false
  /-- It does not open a marker. -/
  not_open : stop ≠ '<'
  /-- It does not close a marker. -/
  not_close : stop ≠ '>'

theorem placeholder_stops_lineFeed : placeholder.Stops '\n' :=
  ⟨by decide, by decide, by decide, by decide⟩

/-- The class of further characters ends before a stopping character. -/
theorem dropWhile_append_stop (hs : g.Stops stop) (cs rest : List Char) :
    (cs ++ stop :: rest).dropWhile g.later = cs.dropWhile g.later ++ stop :: rest := by
  induction cs with
  | nil => simp [hs.not_later]
  | cons c cs ih =>
      by_cases hc : g.later c = true
      · simp [hc, ih]
      · simp [hc]

theorem takeWhile_append_stop (hs : g.Stops stop) (cs rest : List Char) :
    (cs ++ stop :: rest).takeWhile g.later = cs.takeWhile g.later := by
  induction cs with
  | nil => simp [hs.not_later]
  | cons c cs ih =>
      by_cases hc : g.later c = true
      · simp [hc, ih]
      · simp [hc]

/-- Whether a bracket opens a marker is decided before the next stopping character. -/
theorem markerAfterBracket?_append_stop (hs : g.Stops stop) (cs rest : List Char) :
    g.markerAfterBracket? (cs ++ stop :: rest) =
      (g.markerAfterBracket? cs).map fun (name, after) => (name, after ++ stop :: rest) := by
  cases cs with
  | nil => simp [markerAfterBracket?, hs.not_first]
  | cons c cs =>
      rw [List.cons_append, markerAfterBracket?, markerAfterBracket?]
      by_cases hc : g.first c = true
      · rw [if_pos hc, if_pos hc, dropWhile_append_stop hs, takeWhile_append_stop hs]
        cases hdrop : cs.dropWhile g.later with
        | nil => simp [hs.not_close]
        | cons d ds =>
            by_cases hd : d = '>'
            · subst hd
              rfl
            · simp [hd]
      · simp [hc]

/-! ### Segments of a text and of its parts -/

theorem segments_cons_of_ne {c : Char} (hc : c ≠ '<') (cs : List Char) :
    g.segments (c :: cs) = .literal c :: g.segments cs := by
  rw [segments, if_neg hc]

theorem segments_bracket_of_some {cs name rest : List Char}
    (h : g.markerAfterBracket? cs = some (name, rest)) :
    g.segments ('<' :: cs) = .marker name :: g.segments rest := by
  rw [segments, if_pos rfl]
  split
  · rename_i heq
    obtain ⟨rfl, rfl⟩ : _ ∧ _ := by simpa using h.symm.trans heq
    rfl
  · rename_i heq
    simp [h] at heq

theorem segments_bracket_of_none {cs : List Char} (h : g.markerAfterBracket? cs = none) :
    g.segments ('<' :: cs) = .literal '<' :: g.segments cs := by
  rw [segments, if_pos rfl]
  split
  · rename_i heq
    simp [h] at heq
  · rfl

/-- A text is cut at a stopping character. -/
theorem segments_append_stop (hs : g.Stops stop) (cs rest : List Char) :
    g.segments (cs ++ stop :: rest) = g.segments cs ++ .literal stop :: g.segments rest := by
  induction h : cs.length using Nat.strongRecOn generalizing cs with
  | ind n ih =>
      subst h
      cases cs with
      | nil => simp [segments_cons_of_ne hs.not_open, segments]
      | cons c cs =>
          by_cases hc : c = '<'
          · subst hc
            cases hm : g.markerAfterBracket? cs with
            | some found =>
                obtain ⟨name, after⟩ := found
                have hlt := length_markerAfterBracket? hm
                have happ : g.markerAfterBracket? (cs ++ stop :: rest) =
                    some (name, after ++ stop :: rest) := by
                  rw [markerAfterBracket?_append_stop hs, hm]
                  rfl
                rw [List.cons_append, segments_bracket_of_some happ, segments_bracket_of_some hm,
                  ih after.length (by simp only [List.length_cons]; omega) after rfl,
                  List.cons_append]
            | none =>
                have happ : g.markerAfterBracket? (cs ++ stop :: rest) = none := by
                  rw [markerAfterBracket?_append_stop hs, hm]
                  rfl
                rw [List.cons_append, segments_bracket_of_none happ, segments_bracket_of_none hm,
                  ih cs.length (by simp) cs rfl, List.cons_append]
          · rw [List.cons_append, segments_cons_of_ne hc, segments_cons_of_ne hc,
              ih cs.length (by simp) cs rfl, List.cons_append]

/-- A text of whole lines is cut line by line. -/
theorem segments_flatMap_lines (hs : g.Stops '\n') (ls : List (List Char)) :
    g.segments (ls.flatMap (· ++ ['\n'])) =
      ls.flatMap fun l => g.segments l ++ [.literal '\n'] := by
  induction ls with
  | nil => simp [segments]
  | cons l ls ih =>
      rw [List.flatMap_cons, List.append_assoc, List.singleton_append, segments_append_stop hs, ih,
        List.flatMap_cons, List.append_assoc, List.singleton_append]

/-! ### The text of the segments -/

theorem eq_of_markerAfterBracket? {cs name rest : List Char}
    (h : g.markerAfterBracket? cs = some (name, rest)) : cs = name ++ '>' :: rest := by
  cases cs with
  | nil => simp [markerAfterBracket?] at h
  | cons c cs =>
      rw [markerAfterBracket?] at h
      split at h
      · split at h
        · rename_i after heq
          obtain ⟨rfl, rfl⟩ := by simpa using h
          rw [List.cons_append, ← heq, List.takeWhile_append_dropWhile]
        · simp at h
      · simp at h

/-- Cutting loses nothing. -/
theorem flatMap_text_segments (cs : List Char) : (g.segments cs).flatMap Segment.text = cs := by
  induction h : cs.length using Nat.strongRecOn generalizing cs with
  | ind n ih =>
      subst h
      cases cs with
      | nil => simp [segments]
      | cons c cs =>
          by_cases hc : c = '<'
          · subst hc
            cases hm : g.markerAfterBracket? cs with
            | some found =>
                obtain ⟨name, rest⟩ := found
                have hlt := length_markerAfterBracket? hm
                rw [segments_bracket_of_some hm, List.flatMap_cons,
                  ih rest.length (by simp only [List.length_cons]; omega) rest rfl]
                simp [Segment.text, eq_of_markerAfterBracket? hm]
            | none =>
                rw [segments_bracket_of_none hm, List.flatMap_cons, ih cs.length (by simp) cs rfl]
                rfl
          · rw [segments_cons_of_ne hc, List.flatMap_cons, ih cs.length (by simp) cs rfl]
            rfl

theorem mem_of_literal_mem_segments {c : Char} {cs : List Char}
    (h : .literal c ∈ g.segments cs) : c ∈ cs := by
  rw [← flatMap_text_segments (g := g) cs]
  exact List.mem_flatMap.2 ⟨_, h, by simp [Segment.text]⟩

end MarkerGrammar

/-! ### Kernels of templates -/

/-- The text that a name stands for; nothing for an unbound name. -/
def Bindings.value (b : Bindings) (name : String) : List Char := ((b.get? name).getD "").toList

/-- A line of a template with its markers replaced. -/
def filledLine (value : String → List Char) (line : String) : List Char :=
  (MarkerGrammar.placeholder.segments line.toList).flatMap (Segment.fill value)

namespace Template

theorem mem_placeholders {t : Template} {name : String} :
    name ∈ t.placeholders ↔ name ∈ MarkerGrammar.placeholder.occurrences t.text :=
  mem_ascendingTexts

theorem expandWith_of_bound {t : Template} {b : Bindings}
    (h : ∀ name ∈ t.placeholders, (b.get? name).isSome = true) :
    t.expandWith b = .ok ⟨t.entry, String.ofList
      ((MarkerGrammar.placeholder.segments t.text.toList).flatMap (Segment.fill b.value))⟩ := by
  have hnone : t.placeholders.find? (fun name => (b.get? name).isNone) = none := by
    rw [List.find?_eq_none]
    intro name hmem
    simpa [Option.isSome_iff_ne_none] using h name hmem
  rw [expandWith, hnone]
  rfl

theorem toList_textOfLines (ls : List String) :
    (textOfLines ls).toList = (ls.map String.toList).flatMap (· ++ ['\n']) := by
  rw [textOfLines, String.toList_join, List.flatMap_map, List.flatMap_map]
  simp

theorem segments_textOfLines (ls : List String) :
    MarkerGrammar.placeholder.segments (textOfLines ls).toList =
      ls.flatMap fun l => MarkerGrammar.placeholder.segments l.toList ++ [.literal '\n'] := by
  rw [toList_textOfLines,
    MarkerGrammar.segments_flatMap_lines MarkerGrammar.placeholder_stops_lineFeed, List.flatMap_map]

/-- The names of a text of whole lines are the names of its lines. -/
theorem mem_occurrences_textOfLines {ls : List String} {name : String} :
    name ∈ MarkerGrammar.placeholder.occurrences (textOfLines ls) ↔
      ∃ l ∈ ls, name ∈ MarkerGrammar.placeholder.occurrences l := by
  simp [MarkerGrammar.occurrences, segments_textOfLines, List.filterMap_flatMap, Segment.name?]

/-- **The kernel of a template of whole lines.** If all placeholders are bound and no value brings a
line end into the text, expansion succeeds, and its lines are the filled lines of the template. -/
theorem lines_expandWith {t : Template} {ls : List String} {b : Bindings}
    (htext : t.text = textOfLines ls)
    (hbound : ∀ l ∈ ls, ∀ name ∈ MarkerGrammar.placeholder.occurrences l, (b.get? name).isSome = true)
    (hlines : ∀ l ∈ ls, Text.IsLine (filledLine b.value l)) :
    ∃ k, t.expandWith b = .ok k ∧ Text.lines k.source = ls.map (filledLine b.value) := by
  refine ⟨_, expandWith_of_bound ?_, ?_⟩
  · intro name hmem
    rw [mem_placeholders, htext, mem_occurrences_textOfLines] at hmem
    obtain ⟨l, hl, hname⟩ := hmem
    exact hbound l hl name hname
  · have hfill : (MarkerGrammar.placeholder.segments t.text.toList).flatMap (Segment.fill b.value) =
        (ls.map (filledLine b.value)).flatMap (· ++ ['\n']) := by
      rw [htext, segments_textOfLines, List.flatMap_assoc, List.flatMap_map]
      refine congrArg (List.flatMap · ls) (funext fun l => ?_)
      simp [filledLine, Segment.fill]
    rw [hfill]
    refine Text.lines_ofList_flatMap fun l hl => ?_
    obtain ⟨line, hline, rfl⟩ := List.mem_map.1 hl
    exact hlines line hline

end Template

end Crosscheck
