import Crosscheck.Proofs.Device.Assembly
import Crosscheck.Proofs.Template.Bindable
import Crosscheck.Proofs.Text.Words

/-!
# Crosscheck.Proofs.Template.Declaration

**Which declarations of an entry the validator sees.** A line declares an entry where the word
`.entry` and the name stand, with a blank, an opening parenthesis or the end of the line behind the
name (`Template.DeclaresBetween`). Validation looks at the word behind the first `.entry` of a line only,
and takes opening parentheses off its end. So it sees a declaration if no other word `.entry` stands in
front of it and nothing but a blank follows its parentheses (`Template.lineDeclaresEntry_iff`). It sees
nothing else, and overlooks the others: also `.entry k()`, though it declares `k`
(`Template.overlooks_declarations`).
-/

namespace Crosscheck

namespace Instruction

theorem takeWhile_beq_eq_replicate (c : Char) (cs : List Char) :
    cs.takeWhile (· == c) = List.replicate (cs.takeWhile (· == c)).length c := by
  refine List.eq_replicate_iff.2 ⟨rfl, fun d hd => ?_⟩
  have hd := List.mem_takeWhile_imp hd
  simpa using hd

/-- What a text without a character at its end can have been before the character was taken off. -/
theorem dropTrailing_eq_iff {c : Char} {as cs : List Char} (h : ∀ d ∈ as, d ≠ c) :
    dropTrailing c cs = as ↔ ∃ count, cs = as ++ List.replicate count c := by
  constructor
  · rintro rfl
    refine ⟨(cs.reverse.takeWhile (· == c)).length, ?_⟩
    rw [← List.reverse_replicate, ← takeWhile_beq_eq_replicate, dropTrailing, ← List.reverse_append,
      List.takeWhile_append_dropWhile, List.reverse_reverse]
  · rintro ⟨count, rfl⟩
    rw [dropTrailing, List.reverse_append, List.reverse_replicate, List.dropWhile_append_of_pos]
    · exact dropTrailing_of_forall_ne h
    · intro d hd
      simp [List.eq_of_mem_replicate hd]

end Instruction

namespace Template

open Text

variable {t : Template} {v : Violation} {entry line before after : List Char}

/-- A name that an entry can have: the characters of identifiers, at least one. -/
def IsEntryName (entry : List Char) : Prop :=
  entry ≠ [] ∧ entry.all Instruction.isNameChar = true

instance (entry : List Char) : Decidable (IsEntryName entry) := inferInstanceAs (Decidable (_ ∧ _))

/-- A line declares an entry between two texts: it has the word `.entry`, then blanks, then the name,
and the name ends at a blank, an opening parenthesis or the end of the line. -/
def DeclaresBetween (entry line before after : List Char) : Prop :=
  ∃ gap, line = before ++ (".entry".toList ++ (gap ++ (entry ++ after))) ∧ EndsBlank before ∧
    (gap ≠ [] ∧ gap.all isBlank = true) ∧ after.head?.all (fun c => isBlank c || c == '(') = true

/-! ### Lines -/

theorem IsEntryName.forall_ne (h : IsEntryName entry) : ∀ c ∈ entry, c ≠ '(' := by
  rintro c hc rfl
  have hchar : Instruction.isNameChar '(' = true := List.all_eq_true.1 h.2 _ hc
  revert hchar
  decide

theorem IsEntryName.isWord (h : IsEntryName entry) : ∀ c ∈ entry, isBlank c = false :=
  Instruction.isWord_of_isNameChar h.2

theorem isWord_keyword : ".entry".toList ≠ [] ∧ ∀ c ∈ ".entry".toList, isBlank c = false := by
  have hall : (".entry".toList.all fun c => !isBlank c) = true := by decide
  refine ⟨by decide, fun c hc => ?_⟩
  have hc := List.all_eq_true.1 hall c hc
  simpa using hc

/-- Opening parentheses and what follows them, if that begins with a blank. -/
theorem dropWhile_replicate_append (count : Nat) (h : StartsBlank after) :
    (List.replicate count '(' ++ after).dropWhile (· == '(') = after := by
  rw [List.dropWhile_append_of_pos fun c hc => by simp [List.eq_of_mem_replicate hc]]
  cases after with
  | nil => rfl
  | cons c after =>
      have hne : c ≠ '(' := by
        rintro rfl
        have hblank : isBlank '(' = true := startsBlank_cons.1 h
        revert hblank
        decide
      rw [List.dropWhile_cons_of_neg (by simpa using hne)]

/-- A declaration that is seen: the first word `.entry` of the line, and behind it the name with
parentheses and a blank. -/
theorem lineDeclaresEntry_of_declaresBetween (hentry : IsEntryName entry)
    (h : DeclaresBetween entry line before after) (hfirst : ".entry".toList ∉ words before)
    (hafter : StartsBlank (after.dropWhile (· == '('))) : lineDeclaresEntry entry line = true := by
  obtain ⟨gap, rfl, hbefore, ⟨hgap, hall⟩, -⟩ := h
  have hblanks : ∀ c ∈ gap, isBlank c = true := List.all_eq_true.1 hall
  -- the word behind `.entry`, with its parentheses
  have hparens := Instruction.takeWhile_beq_eq_replicate '(' after
  have hsplit : after = after.takeWhile (· == '(') ++ after.dropWhile (· == '(') :=
    List.takeWhile_append_dropWhile.symm
  generalize after.dropWhile (· == '(') = rest at hsplit hafter
  generalize (after.takeWhile (· == '(')).length = count at hparens
  rw [hparens] at hsplit
  have hword : (entry ++ List.replicate count '(') ≠ [] ∧
      ∀ c ∈ entry ++ List.replicate count '(', isBlank c = false := by
    refine ⟨by simp [hentry.1], fun c hc => ?_⟩
    rcases List.mem_append.1 hc with hc | hc
    · exact hentry.isWord c hc
    · rw [List.eq_of_mem_replicate hc]
      decide
  have hwords : words (before ++ (".entry".toList ++ (gap ++ (entry ++ after)))) =
      words before ++ ".entry".toList :: (entry ++ List.replicate count '(') :: words rest := by
    rw [words_append hbefore isWord_keyword.1 isWord_keyword.2 (startsBlank_of_blanks hblanks hgap _),
      hsplit, ← List.append_assoc entry,
      words_append (endsBlank_of_blanks hblanks) hword.1 hword.2 hafter, words_of_blanks hblanks,
      List.nil_append]
  have hdrop : (words before ++ ".entry".toList :: (entry ++ List.replicate count '(') ::
      words rest).dropWhile (· != ".entry".toList) =
      ".entry".toList :: (entry ++ List.replicate count '(') :: words rest := by
    rw [List.dropWhile_append_of_pos, List.dropWhile_cons_of_neg (by simp)]
    intro w hw
    have hne : w ≠ ".entry".toList := fun heq => hfirst (heq ▸ hw)
    simpa using hne
  rw [lineDeclaresEntry, hwords, hdrop]
  exact beq_iff_eq.2 ((Instruction.dropTrailing_eq_iff hentry.forall_ne).2 ⟨count, rfl⟩)

/-- Nothing else is taken for a declaration. -/
theorem exists_of_lineDeclaresEntry (hentry : IsEntryName entry)
    (h : lineDeclaresEntry entry line = true) :
    ∃ before after, DeclaresBetween entry line before after ∧ ".entry".toList ∉ words before ∧
      StartsBlank (after.dropWhile (· == '(')) := by
  rw [lineDeclaresEntry] at h
  have hhead := List.head?_dropWhile_not (· != ".entry".toList) (words line)
  split at h
  case h_2 => cases h
  case h_1 keyword name rest hdrop =>
    rw [hdrop] at hhead
    obtain rfl : keyword = ".entry".toList := by simpa using hhead
    obtain ⟨count, rfl⟩ := (Instruction.dropTrailing_eq_iff hentry.forall_ne).1 (beq_iff_eq.1 h)
    have hsplit : words line = (words line).takeWhile (· != ".entry".toList) ++
        ".entry".toList :: (entry ++ List.replicate count '(') :: rest := by
      rw [← hdrop, List.takeWhile_append_dropWhile]
    have hfirst : ".entry".toList ∉ (words line).takeWhile (· != ".entry".toList) := by
      intro hmem
      have hne := List.mem_takeWhile_imp hmem
      simp at hne
    obtain ⟨before, behind, rfl, hbefore, -, hbehind, hwords, hrest⟩ :=
      exists_of_words_eq_append hsplit
    obtain ⟨gap, after, rfl, hblanks, hword, hafter, -⟩ := exists_of_words_eq_cons hrest
    have hgap : gap ≠ [] := (hbehind.of_append_word hword.1 hword.2).1
    have hend : (List.replicate count '(' ++ after).head?.all (fun c => isBlank c || c == '(') =
        true := by
      cases count with
      | zero =>
          cases after with
          | nil => rfl
          | cons c after => simpa using Or.inl (startsBlank_cons.1 hafter)
      | succ count => simp [List.replicate_succ]
    exact ⟨before, List.replicate count '(' ++ after,
      ⟨gap, by simp, hbefore, ⟨hgap, List.all_eq_true.2 hblanks⟩, hend⟩,
      by rwa [hwords], by rwa [dropWhile_replicate_append count hafter]⟩

/-- **The declarations that are seen in a line.** -/
theorem lineDeclaresEntry_iff (hentry : IsEntryName entry) :
    lineDeclaresEntry entry line = true ↔
      ∃ before after, DeclaresBetween entry line before after ∧ ".entry".toList ∉ words before ∧
        StartsBlank (after.dropWhile (· == '(')) := by
  constructor
  · exact exists_of_lineDeclaresEntry hentry
  · rintro ⟨before, after, h, hfirst, hafter⟩
    exact lineDeclaresEntry_of_declaresBetween hentry h hfirst hafter

/-! ### Violations -/

/-- What the validator says about a text that does not declare the entry. -/
def missingEntry (t : Template) : Violation :=
  ⟨.error, "TPL-003", t.id ++ ": no `.entry " ++ t.entry ++ "` in template text",
    some (t.id ++ ".entry")⟩

theorem mem_violations_of_rule (hrule : v.rule = "TPL-003") :
    v ∈ t.violations ↔ v ∈ t.textViolations := by
  rw [violations, List.mem_append, List.mem_append]
  constructor
  · rintro ((h | h) | h)
    · have hmem := rule_of_mem_identityViolations h
      rw [hrule] at hmem
      exact absurd hmem (by decide)
    · exact h
    · have hmem := rule_of_mem_bindingViolations h
      rw [hrule] at hmem
      exact absurd hmem (by decide)
  · exact fun h => .inl (.inr h)

/-- The rule on the entry is broken by one violation, where no line is taken for a declaration. -/
theorem mem_textViolations_iff (hentry : t.entry ≠ "") (htext : isBlankText t.text = false)
    (hrule : v.rule = "TPL-003") :
    v ∈ t.textViolations ↔ t.declaresEntry = false ∧ v = t.missingEntry := by
  have hblank : ¬ isBlankText t.text = true := by simp [htext]
  rw [textViolations, if_neg hblank, List.mem_append, List.mem_append]
  constructor
  · rintro ((h | h) | h)
    · split at h
      · cases h
      · obtain rfl := List.mem_singleton.1 h
        simp at hrule
    · split at h
      · rename_i hmissing
        exact ⟨hmissing.2, List.mem_singleton.1 h⟩
      · cases h
    · obtain ⟨name, -, rfl⟩ := List.mem_map.1 h
      simp at hrule
  · rintro ⟨hmissing, rfl⟩
    refine .inl (.inr ?_)
    rw [if_pos ⟨hentry, hmissing⟩]
    exact List.mem_singleton.2 rfl

theorem exists_missingEntry_iff (hentry : t.entry ≠ "") (htext : isBlankText t.text = false) :
    (∃ v ∈ t.violations, v.rule = "TPL-003") ↔
      ∀ line ∈ lines t.text, lineDeclaresEntry t.entry.toList line = false := by
  have hexists : (∃ v ∈ t.violations, v.rule = "TPL-003") ↔ t.declaresEntry = false := by
    constructor
    · rintro ⟨v, hv, hrule⟩
      exact ((mem_textViolations_iff hentry htext hrule).1 ((mem_violations_of_rule hrule).1 hv)).1
    · intro hmissing
      have hmem := (mem_textViolations_iff hentry htext (v := t.missingEntry) rfl).2 ⟨hmissing, rfl⟩
      exact ⟨t.missingEntry, (mem_violations_of_rule rfl).2 hmem, rfl⟩
  rw [hexists, declaresEntry, List.any_eq_false]
  simp only [Bool.not_eq_true]

/-- **Where the validator misses an entry**, for every text that is not blank and every name of
identifier characters. It does so if all declarations of the entry in the text, if there are any, stand
behind another word `.entry` of their line or have something other than a blank behind their opening
parentheses. So a text without a declaration is always found out, and a declaration that is the first
of its line, with at most opening parentheses up to the next blank, is always seen. There is one
violation, and it names the entry. -/
theorem missesEntry_iff (hentry : IsEntryName t.entry.toList) (htext : isBlankText t.text = false) :
    ((∃ v ∈ t.violations, v.rule = "TPL-003") ↔
      ∀ line ∈ lines t.text, ∀ before after, DeclaresBetween t.entry.toList line before after →
        ".entry".toList ∈ words before ∨ ¬ StartsBlank (after.dropWhile (· == '('))) ∧
    ∀ v ∈ t.violations, v.rule = "TPL-003" →
      v = ⟨.error, "TPL-003", t.id ++ ": no `.entry " ++ t.entry ++ "` in template text",
        some (t.id ++ ".entry")⟩ := by
  have hne : t.entry ≠ "" := by
    intro heq
    exact hentry.1 (by rw [heq]; rfl)
  refine ⟨?_, fun v hv hrule => ?_⟩
  · rw [exists_missingEntry_iff hne htext]
    refine forall_congr' fun line => imp_congr Iff.rfl ?_
    rw [← Bool.not_eq_true, lineDeclaresEntry_iff hentry]
    constructor
    · intro hnone before after h
      by_contra hseen
      exact hnone ⟨before, after, h, by tauto, by tauto⟩
    · rintro hall ⟨before, after, h, hfirst, hafter⟩
      rcases hall before after h with hbehind | hnot
      · exact hfirst hbehind
      · exact hnot hafter
  · exact ((mem_textViolations_iff hne htext hrule).1 ((mem_violations_of_rule hrule).1 hv)).2

/-- A line for another entry, and one that declares the entry with a parenthesis behind a blank. -/
theorem missesEntry_iff_visible :
    let t : Template := ⟨"t", "k", .unary, ".entry kernel(\n.visible .entry k (\n) { <OP> %d; }"⟩
    IsEntryName t.entry.toList ∧ isBlankText t.text = false ∧
      ¬ ∃ v ∈ t.violations, v.rule = "TPL-003" := by
  intro t
  have hentry : IsEntryName t.entry.toList := by decide
  have htext : isBlankText t.text = false := by decide
  refine ⟨hentry, htext, fun hmissing => ?_⟩
  have hline : ".visible .entry k (".toList ∈ lines t.text := by decide
  have hdeclares : DeclaresBetween t.entry.toList ".visible .entry k (".toList ".visible ".toList
      " (".toList :=
    ⟨[' '], by decide, by decide, by decide, by decide⟩
  have hall := (missesEntry_iff hentry htext).1.1 hmissing _ hline _ _ hdeclares
  revert hall
  decide

/-- **Declarations that are overlooked**: one with both parentheses at the name, one with a parameter
in the same line, and the second one of a line. -/
theorem overlooks_declarations :
    let empty : Template := ⟨"t", "k", .unary, ".entry k() { <OP> %d; }"⟩
    let parameter : Template := ⟨"t", "k", .unary, ".entry k(.param .u64 a) { <OP> %d; }"⟩
    let second : Template := ⟨"t", "k", .unary, ".entry other( ) .entry k( ) { <OP> %d; }"⟩
    ∀ t ∈ [empty, parameter, second],
      IsEntryName t.entry.toList ∧ isBlankText t.text = false ∧
        (∃ line ∈ lines t.text, ∃ before after, DeclaresBetween t.entry.toList line before after) ∧
        ∃ v ∈ t.violations, v.rule = "TPL-003" := by
  intro empty parameter second
  have hmissing : ∀ t ∈ [empty, parameter, second], t.entry ≠ "" ∧ isBlankText t.text = false ∧
      ∀ line ∈ lines t.text, lineDeclaresEntry t.entry.toList line = false := by
    decide
  have hdeclares : ∀ t ∈ [empty, parameter, second],
      ∃ line ∈ lines t.text, ∃ before after, DeclaresBetween t.entry.toList line before after := by
    simp only [List.forall_mem_cons, List.not_mem_nil, false_implies, implies_true, and_true]
    refine ⟨⟨empty.text.toList, by decide, [], "() { <OP> %d; }".toList, [' '], ?_⟩,
      ⟨parameter.text.toList, by decide, [], "(.param .u64 a) { <OP> %d; }".toList, [' '], ?_⟩,
      ⟨second.text.toList, by decide, ".entry other( ) ".toList, "( ) { <OP> %d; }".toList, [' '], ?_⟩⟩
    · exact ⟨by decide, by decide, by decide, by decide⟩
    · exact ⟨by decide, by decide, by decide, by decide⟩
    · exact ⟨by decide, by decide, by decide, by decide⟩
  intro t ht
  have hentry : ∀ t ∈ [empty, parameter, second], IsEntryName t.entry.toList := by decide
  obtain ⟨hne, htext, hlines⟩ := hmissing t ht
  exact ⟨hentry t ht, htext, hdeclares t ht, (exists_missingEntry_iff hne htext).2 hlines⟩

end Template

end Crosscheck
