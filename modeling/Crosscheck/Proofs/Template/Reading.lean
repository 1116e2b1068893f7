import Crosscheck.Device.Assembly
import Crosscheck.Proofs.Template.Expansion
import Crosscheck.Proofs.Text.Split
import Mathlib.Data.List.Basic

/-!
# Crosscheck.Proofs.Template.Reading

**Reading the instructions of an expanded template.** A line of a template can be read as an
instruction before its markers are replaced (`InstructionTemplate.ofSegments?`): a marker counts as
a piece of a word. If the values are plain, which means that they have no blanks and no separators in
them, then filling the line and reading it gives the same instruction as reading it and filling the
instruction (`ofLine?_flatMap_fill`). So the instructions of a kernel are those of its template,
filled (`Template.ofSource_expandWith`), and what is left to check of a concrete template are its own
lines, which hold no values yet.
-/

namespace Crosscheck

/-! ### Symbols and their spelling

The statements about lists of segments hold for any symbols that are spelled with characters. -/

section Spelling

variable {α : Type} {spell : α → List Char} {p : Char → Bool} {q : α → Bool} {as : List α}

/-- Every symbol has a spelling, and `q` says of the symbol what `p` says of each of its characters. -/
def Spells (spell : α → List Char) (p : Char → Bool) (q : α → Bool) (as : List α) : Prop :=
  ∀ a ∈ as, spell a ≠ [] ∧ ∀ c ∈ spell a, p c = q a

theorem Spells.mono {bs : List α} (h : Spells spell p q as) (hsub : ∀ b ∈ bs, b ∈ as) :
    Spells spell p q bs :=
  fun b hb => h b (hsub b hb)

theorem Spells.not (h : Spells spell p q as) :
    Spells spell (fun c => !p c) (fun a => !q a) as :=
  fun a ha => ⟨(h a ha).1, fun c hc => congrArg (!·) ((h a ha).2 c hc)⟩

theorem Spells.reverse (h : Spells spell p q as) :
    Spells (fun a => (spell a).reverse) p q as.reverse := by
  intro a ha
  have ha := h a (List.mem_reverse.1 ha)
  exact ⟨by simpa using ha.1, fun c hc => ha.2 c (List.mem_reverse.1 hc)⟩

/-- Cutting a spelled text where the class of its characters ends cuts between two symbols. -/
theorem takeWhile_flatMap (h : Spells spell p q as) :
    (as.flatMap spell).takeWhile p = (as.takeWhile q).flatMap spell := by
  induction as with
  | nil => rfl
  | cons a as ih =>
      have ha := h a (by simp)
      rw [List.flatMap_cons]
      cases hq : q a with
      | true =>
          rw [List.takeWhile_append_of_pos fun c hc => (ha.2 c hc).trans hq,
            ih (h.mono fun b hb => by simp [hb]), List.takeWhile_cons_of_pos hq, List.flatMap_cons]
      | false =>
          obtain ⟨c, cs, hspell⟩ := List.exists_cons_of_ne_nil ha.1
          have hc : p c = false := (ha.2 c (by simp [hspell])).trans hq
          simp [hspell, hc, hq]

theorem dropWhile_flatMap (h : Spells spell p q as) :
    (as.flatMap spell).dropWhile p = (as.dropWhile q).flatMap spell := by
  induction as with
  | nil => rfl
  | cons a as ih =>
      have ha := h a (by simp)
      rw [List.flatMap_cons]
      cases hq : q a with
      | true =>
          rw [List.dropWhile_append_of_pos fun c hc => (ha.2 c hc).trans hq,
            ih (h.mono fun b hb => by simp [hb]), List.dropWhile_cons_of_pos hq]
      | false =>
          obtain ⟨c, cs, hspell⟩ := List.exists_cons_of_ne_nil ha.1
          have hc : p c = false := (ha.2 c (by simp [hspell])).trans hq
          simp [hspell, hc, hq]

/-- The symbols before a run of symbols of a class at the end. -/
def dropEnd (q : α → Bool) (as : List α) : List α := (as.reverse.dropWhile q).reverse

theorem mem_of_mem_dropEnd {a : α} (h : a ∈ dropEnd q as) : a ∈ as :=
  List.mem_reverse.1 ((List.dropWhile_suffix q).mem (List.mem_reverse.1 h))

theorem dropEnd_flatMap (h : Spells spell p q as) :
    ((as.flatMap spell).reverse.dropWhile p).reverse = (dropEnd q as).flatMap spell := by
  have hreverse : (as.flatMap spell).reverse = as.reverse.flatMap fun a => (spell a).reverse :=
    List.reverse_flatMap
  rw [hreverse, dropWhile_flatMap h.reverse, dropEnd, List.reverse_flatMap]
  simp [Function.comp_def]

/-- The symbols without the blank ones at both ends. -/
def trimSymbols (blank : α → Bool) (as : List α) : List α := dropEnd blank (as.dropWhile blank)

theorem mem_of_mem_trimSymbols {blank : α → Bool} {a : α} (h : a ∈ trimSymbols blank as) : a ∈ as :=
  (List.dropWhile_suffix blank).mem (mem_of_mem_dropEnd h)

theorem trim_flatMap (h : Spells spell Text.isBlank q as) :
    Text.trim (as.flatMap spell) = (trimSymbols q as).flatMap spell := by
  rw [Text.trim, Text.trimStart, dropWhile_flatMap h, Text.trimEnd,
    dropEnd_flatMap (h.mono fun _ => (List.dropWhile_suffix q).mem), trimSymbols]

/-- The pieces between single symbols of a class. -/
def splitSymbols (q : α → Bool) : List α → List (List α)
  | [] => [[]]
  | a :: as =>
    if q a then [] :: splitSymbols q as
    else
      match splitSymbols q as with
      | [] => [[a]]
      | piece :: pieces => (a :: piece) :: pieces

theorem mem_of_mem_splitSymbols {piece : List α} {a : α} (hpiece : piece ∈ splitSymbols q as)
    (ha : a ∈ piece) : a ∈ as := by
  induction as generalizing piece with
  | nil =>
      obtain rfl : piece = [] := by simpa [splitSymbols] using hpiece
      exact ha
  | cons b as ih =>
      rw [splitSymbols] at hpiece
      split at hpiece
      · rcases List.mem_cons.1 hpiece with rfl | hpiece
        · simp at ha
        · exact List.mem_cons_of_mem _ (ih hpiece ha)
      · split at hpiece
        · obtain rfl : piece = [b] := by simpa using hpiece
          exact List.mem_cons.2 (.inl (by simpa using ha))
        · rename_i first rest heq
          rcases List.mem_cons.1 hpiece with rfl | hpiece
          · rcases List.mem_cons.1 ha with rfl | ha
            · simp
            · exact List.mem_cons_of_mem _ (ih (heq ▸ List.mem_cons_self) ha)
          · exact List.mem_cons_of_mem _ (ih (heq ▸ List.mem_cons_of_mem _ hpiece) ha)

theorem splitSymbols_ne_nil (q : α → Bool) (as : List α) : splitSymbols q as ≠ [] := by
  cases as with
  | nil => simp [splitSymbols]
  | cons a as =>
      rw [splitSymbols]
      split
      · simp
      · split <;> simp

/-- Splitting a spelled text splits between symbols, if only the separator spells itself. -/
theorem splitOnChar_flatMap {sep : Char}
    (h : ∀ a ∈ as, (q a = true → spell a = [sep]) ∧ (q a = false → sep ∉ spell a)) :
    Text.splitOnChar sep (as.flatMap spell) = (splitSymbols q as).map (·.flatMap spell) := by
  induction as with
  | nil => rfl
  | cons a as ih =>
      have ih := ih fun b hb => h b (List.mem_cons_of_mem _ hb)
      have ha := h a (by simp)
      rw [List.flatMap_cons, splitSymbols]
      cases hq : q a with
      | true =>
          rw [ha.1 hq, List.singleton_append, Text.splitOnChar_cons_sep, ih]
          rfl
      | false =>
          obtain ⟨piece, pieces, hsplit⟩ := List.exists_cons_of_ne_nil (splitSymbols_ne_nil q as)
          rw [hsplit, List.map_cons] at ih
          rw [Text.splitOnChar_append (ha.2 hq) ih, hsplit]
          rfl

end Spelling

/-! ### Segments as symbols -/

namespace Segment

/-- Whether a segment is a character of a class. A marker is not. -/
def holds (p : Char → Bool) : Segment → Bool
  | .literal c => p c
  | .marker _ => false

/-- The characters of a text as segments. -/
def ofText (s : String) : List Segment := s.toList.map .literal

@[simp] theorem flatMap_fill_ofText (value : String → List Char) (s : String) :
    (ofText s).flatMap (fill value) = s.toList := by
  rw [ofText, List.flatMap_map]
  exact List.flatMap_singleton' _

end Segment

/-- Text without blanks and separators, and not empty: it can only be a part of a word. -/
def PlainText (cs : List Char) : Prop :=
  cs ≠ [] ∧ ∀ c ∈ cs, Text.isBlank c = false ∧ c ≠ ';' ∧ c ≠ ','

/-- The values of all markers of a line are plain. -/
def PlainValues (value : String → List Char) (segs : List Segment) : Prop :=
  ∀ name, .marker name ∈ segs → PlainText (value (String.ofList name))

theorem PlainValues.spells {value : String → List Char} {segs : List Segment}
    (h : PlainValues value segs) {p : Char → Bool}
    (hp : ∀ c, Text.isBlank c = false → c ≠ ';' → c ≠ ',' → p c = false) :
    Spells (Segment.fill value) p (Segment.holds p) segs := by
  intro s hs
  cases s with
  | literal c => simp [Segment.fill, Segment.holds]
  | marker name =>
      obtain ⟨hne, hplain⟩ := h name hs
      exact ⟨hne, fun c hc => hp c (hplain c hc).1 (hplain c hc).2.1 (hplain c hc).2.2⟩

/-- An instruction of a template: its texts still have markers in them. -/
structure InstructionTemplate where
  /-- The opcode. -/
  opcode : List Segment
  /-- The operands, trimmed. -/
  operands : List (List Segment)
  deriving DecidableEq, Repr

namespace InstructionTemplate

/-- The instruction of a line of a template. -/
def ofSegments? (line : List Segment) : Option InstructionTemplate :=
  let blank := Segment.holds Text.isBlank
  let line := dropEnd (Segment.holds (· == ';')) (trimSymbols blank line)
  match line.dropWhile (!blank ·) with
  | [] => none
  | _ :: rest => some {
      opcode := line.takeWhile (!blank ·)
      operands := (splitSymbols (Segment.holds (· == ',')) rest).map (trimSymbols blank) }

/-- The instruction with its markers replaced. -/
def fill (value : String → List Char) (i : InstructionTemplate) : Instruction where
  opcode := String.ofList (i.opcode.flatMap (Segment.fill value))
  operands := i.operands.map fun o => String.ofList (o.flatMap (Segment.fill value))

end InstructionTemplate

/-- The pieces between commas, trimmed, of a filled text. -/
theorem operands_flatMap_fill {value : String → List Char} {segs : List Segment}
    (h : PlainValues value segs) :
    (Text.splitOnChar ',' (segs.flatMap (Segment.fill value))).map
        (fun o => String.ofList (Text.trim o)) =
      (splitSymbols (Segment.holds (· == ',')) segs).map fun o =>
        String.ofList ((trimSymbols (Segment.holds Text.isBlank) o).flatMap (Segment.fill value)) := by
  have hsplit : ∀ s ∈ segs, (Segment.holds (· == ',') s = true → s.fill value = [',']) ∧
      (Segment.holds (· == ',') s = false → ',' ∉ s.fill value) := by
    intro s hs
    cases s with
    | literal c =>
        refine ⟨fun hc => ?_, fun hc hmem => ?_⟩
        · obtain rfl : c = ',' := by simpa [Segment.holds] using hc
          rfl
        · obtain rfl : ',' = c := by simpa [Segment.fill] using hmem
          simp [Segment.holds] at hc
    | marker name =>
        refine ⟨fun hfalse => by simp [Segment.holds] at hfalse, fun _ hmem => ?_⟩
        exact ((h name hs).2 ',' hmem).2.2 rfl
  rw [splitOnChar_flatMap hsplit, List.map_map]
  refine List.map_congr_left fun piece hpiece => ?_
  have hpiece : PlainValues value piece := fun name hname =>
    h name (mem_of_mem_splitSymbols hpiece hname)
  exact congrArg String.ofList (trim_flatMap (hpiece.spells fun _ hc _ _ => hc))

/-- **Reading and filling commute.** -/
theorem ofLine?_flatMap_fill {value : String → List Char} {segs : List Segment}
    (h : PlainValues value segs) :
    Instruction.ofLine? (segs.flatMap (Segment.fill value)) =
      (InstructionTemplate.ofSegments? segs).map (InstructionTemplate.fill value) := by
  have hblank : ∀ {part : List Segment}, (∀ s ∈ part, s ∈ segs) →
      Spells (Segment.fill value) Text.isBlank (Segment.holds Text.isBlank) part :=
    fun hsub => (h.spells fun _ hc _ _ => hc).mono hsub
  have hsemicolon : Spells (Segment.fill value) (· == ';') (Segment.holds (· == ';')) segs :=
    h.spells fun c _ hc _ => by simpa using hc
  have htrim : ∀ s ∈ trimSymbols (Segment.holds Text.isBlank) segs, s ∈ segs :=
    fun _ => mem_of_mem_trimSymbols
  rw [Instruction.ofLine?, InstructionTemplate.ofSegments?, Instruction.dropTrailing,
    trim_flatMap (hblank fun _ hs => hs), dropEnd_flatMap (hsemicolon.mono htrim)]
  -- what is left of the line after trimming
  generalize hline : dropEnd (Segment.holds (· == ';')) _ = line
  have hmem : ∀ s ∈ line, s ∈ segs := fun s hs =>
    htrim s (mem_of_mem_dropEnd (hline ▸ hs))
  rw [dropWhile_flatMap (hblank hmem).not, takeWhile_flatMap (hblank hmem).not]
  cases hrest : line.dropWhile (fun s => !Segment.holds Text.isBlank s) with
  | nil => rfl
  | cons s rest =>
      have hsuffix : ∀ r ∈ s :: rest, r ∈ segs := fun r hr =>
        hmem r ((List.dropWhile_suffix _).mem (hrest ▸ hr))
      have hs : Segment.holds Text.isBlank s = true := by
        have hhead := List.head?_dropWhile_not (fun s => !Segment.holds Text.isBlank s) line
        simpa [hrest] using hhead
      -- a blank segment is a single character, and the operands begin right after it
      cases s with
      | marker name => simp [Segment.holds] at hs
      | literal c =>
          have hplain : PlainValues value rest := fun name hname =>
            h name (hsuffix _ (List.mem_cons_of_mem _ hname))
          simp only [List.flatMap_cons, Segment.fill, List.singleton_append]
          rw [operands_flatMap_fill hplain]
          simp [InstructionTemplate.fill]

/-! ### The instructions of a kernel -/

/-- The instructions of the lines of a template. -/
def Template.program (lines : List (List Char)) : List InstructionTemplate :=
  lines.filterMap fun l =>
    InstructionTemplate.ofSegments? (MarkerGrammar.placeholder.segments l)

theorem isLine_filledLine {value : String → List Char} {line : String}
    (hline : Text.IsLine line.toList)
    (hvalues : PlainValues value (MarkerGrammar.placeholder.segments line.toList)) :
    Text.IsLine (filledLine value line) := by
  have hchars : ∀ c ∈ filledLine value line, c ∈ line.toList ∨ Text.isBlank c = false := by
    intro c hc
    obtain ⟨s, hs, hc⟩ := List.mem_flatMap.1 hc
    cases s with
    | literal d =>
        obtain rfl : c = d := by simpa [Segment.fill] using hc
        exact .inl (MarkerGrammar.mem_of_literal_mem_segments hs)
    | marker name => exact .inr ((hvalues name hs).2 c hc).1
  refine ⟨fun hc => ?_, fun hc => ?_⟩
  · rcases hchars _ hc with hmem | hblank
    · exact hline.1 hmem
    · exact absurd hblank (by decide)
  · rcases hchars _ hc with hmem | hblank
    · exact hline.2 hmem
    · exact absurd hblank (by decide)

/-- **The instructions of a kernel are those of its template, filled.** Expansion succeeds if every
marker has a value, and the instructions are those that the template's own lines show if all the
values are plain. -/
theorem Template.ofSource_expandWith {t : Template} {ls : List String} {b : Bindings}
    (htext : t.text = textOfLines ls) (hlines : ∀ l ∈ ls, Text.IsLine l.toList)
    (hbound : ∀ l ∈ ls, ∀ name ∈ MarkerGrammar.placeholder.occurrences l,
      (b.get? name).isSome = true ∧ PlainText (b.value name)) :
    ∃ k, t.expandWith b = .ok k ∧
      Instruction.ofSource k.source =
        (program (ls.map String.toList)).map (InstructionTemplate.fill b.value) := by
  have hvalues : ∀ l ∈ ls, PlainValues b.value (MarkerGrammar.placeholder.segments l.toList) :=
    fun l hl name hname => (hbound l hl _ (List.mem_filterMap.2 ⟨_, hname, rfl⟩)).2
  obtain ⟨k, hk, hsource⟩ := lines_expandWith htext (fun l hl name hname => (hbound l hl name hname).1)
    fun l hl => isLine_filledLine (hlines l hl) (hvalues l hl)
  refine ⟨k, hk, ?_⟩
  rw [Instruction.ofSource, hsource, program, List.filterMap_map, List.filterMap_map,
    List.map_filterMap]
  exact List.filterMap_congr fun l hl => ofLine?_flatMap_fill (hvalues l hl)

end Crosscheck
