import Crosscheck.Device.Assembly
import Crosscheck.Proofs.Text.Split
import Mathlib.Data.List.TakeWhile

/-!
# Crosscheck.Proofs.Device.Assembly

**The lines of a kernel.** `Stands` is the grammar of the lines that a kernel usually has: blanks,
brackets, directives, comments, labels and instructions, one to a line. A line with an instruction is
read as this instruction (`ofLine?_instruction`). Other lines may be read as something, but its opcode
is what they begin with (`opcode_isPrefix`), and that is no opcode.
-/

namespace Crosscheck

namespace Instruction

/-! ### Cutting off the ends of a text -/

theorem dropWhile_of_forall_not {p : Char → Bool} {cs : List Char} (h : ∀ c ∈ cs, p c = false) :
    cs.dropWhile p = cs := by
  cases cs with
  | nil => rfl
  | cons c cs => rw [List.dropWhile_cons_of_neg (by simp [h c (by simp)])]

theorem trim_of_isOperand {cs : List Char} (h : ∀ c ∈ cs, Text.isBlank c = false) :
    Text.trim cs = cs := by
  rw [Text.trim, Text.trimStart, dropWhile_of_forall_not h, Text.trimEnd,
    dropWhile_of_forall_not fun c hc => h c (List.mem_reverse.1 hc), List.reverse_reverse]

theorem dropTrailing_of_forall_ne {c : Char} {cs : List Char} (h : ∀ d ∈ cs, d ≠ c) :
    dropTrailing c cs = cs := by
  rw [dropTrailing, dropWhile_of_forall_not fun d hd => by simpa using h d (List.mem_reverse.1 hd),
    List.reverse_reverse]

/-- One character at the end is dropped. -/
theorem dropTrailing_concat {c : Char} {cs : List Char} (h : ∀ d ∈ cs, d ≠ c) :
    dropTrailing c (cs ++ [c]) = cs := by
  rw [dropTrailing, List.reverse_append, List.reverse_singleton, List.singleton_append,
    List.dropWhile_cons_of_pos (by simp)]
  exact dropTrailing_of_forall_ne h

theorem dropTrailing_isPrefix (c : Char) (cs : List Char) : dropTrailing c cs <+: cs := by
  rw [dropTrailing, ← List.reverse_suffix, List.reverse_reverse]
  exact List.dropWhile_suffix _

theorem trimEnd_isPrefix (cs : List Char) : Text.trimEnd cs <+: cs := by
  rw [Text.trimEnd, ← List.reverse_suffix, List.reverse_reverse]
  exact List.dropWhile_suffix _

theorem trimStart_append {indent cs : List Char} (h : ∀ c ∈ indent, Text.isBlank c = true) :
    Text.trimStart (indent ++ cs) = Text.trimStart cs := by
  rw [Text.trimStart, List.dropWhile_append_of_pos h, Text.trimStart]

theorem trimStart_cons {c : Char} {cs : List Char} (h : Text.isBlank c = false) :
    Text.trimStart (c :: cs) = c :: cs := by
  rw [Text.trimStart, List.dropWhile_cons_of_neg (by simp [h])]

/-- Blanks behind a character that is not blank are cut off. -/
theorem trimEnd_append {cs trail : List Char} {c : Char} (hc : Text.isBlank c = false)
    (h : ∀ d ∈ trail, Text.isBlank d = true) : Text.trimEnd (cs ++ c :: trail) = cs ++ [c] := by
  rw [Text.trimEnd, List.reverse_append, List.reverse_cons, List.append_assoc,
    List.dropWhile_append_of_pos fun d hd => h d (List.mem_reverse.1 hd), List.singleton_append,
    List.dropWhile_cons_of_neg (by simp [hc]), List.reverse_cons, List.reverse_reverse]

/-! ### The grammar of a line -/

/-- A text inside one statement: it neither ends a statement nor begins a comment. -/
def IsCode (cs : List Char) : Prop :=
  ';' ∉ cs ∧ ¬ ['/', '/'] <:+: cs ∧ ¬ ['/', '*'] <:+: cs

/-- A text of blanks only. -/
def IsBlanks (cs : List Char) : Prop := ∀ c ∈ cs, Text.isBlank c = true

/-- A text of blanks and of the brackets around parameters and bodies. -/
def IsPunctuation (cs : List Char) : Prop :=
  ∀ c ∈ cs, Text.isBlank c = true ∨ c ∈ ['(', ')', '{', '}']

/-- A text without blanks. -/
def IsWord (cs : List Char) : Prop := ∀ c ∈ cs, Text.isBlank c = false

/-- The opcode of an instruction without a predicate. It begins with a letter, and it is not a
label. -/
def IsOpcode (cs : List Char) : Prop :=
  cs.head?.any Char.isAlpha = true ∧ IsWord cs ∧ IsCode cs ∧ cs.getLast? ≠ some ':'

/-- The characters of a name. -/
def isNameChar (c : Char) : Bool := c.isAlphanum || ['_', '$', '%'].contains c

theorem IsWord.concat {cs : List Char} {c : Char} (h : IsWord cs) (hc : Text.isBlank c = false) :
    IsWord (cs ++ [c]) := by
  intro d hd
  rcases List.mem_append.1 hd with hd | hd
  · exact h d hd
  · obtain rfl : d = c := by simpa using hd
    exact hc

theorem isWord_of_isNameChar {name : List Char} (h : name.all isNameChar = true) : IsWord name := by
  intro c hc
  have hchar : isNameChar c = true := List.all_eq_true.1 h c hc
  rw [isNameChar, Bool.or_eq_true] at hchar
  rcases hchar with halnum | hother
  · rw [Bool.eq_false_iff]
    intro hblank
    simp only [Text.isBlank, Text.blankRanges, List.any_cons, List.any_nil, Bool.or_eq_true,
      Bool.and_eq_true, decide_eq_true_eq, Bool.false_eq_true, or_false] at hblank
    delta Char.isAlphanum Char.isAlpha Char.isUpper Char.isLower Char.isDigit at halnum
    simp only [Bool.or_eq_true, Bool.and_eq_true, decide_eq_true_eq, ge_iff_le,
      UInt32.le_iff_toNat_le] at halnum
    have hval : c.val.toNat = c.toNat := rfl
    simp at halnum
    omega
  · have hmem : c ∈ ['_', '$', '%'] := by simpa using hother
    simp only [List.mem_cons, List.not_mem_nil, or_false] at hmem
    rcases hmem with rfl | rfl | rfl <;> decide

instance (cs : List Char) : Decidable (IsCode cs) := inferInstanceAs (Decidable (_ ∧ _))

instance (cs : List Char) : Decidable (IsBlanks cs) := List.decidableBAll _ cs

instance (cs : List Char) : Decidable (IsPunctuation cs) := List.decidableBAll _ cs

instance (cs : List Char) : Decidable (IsWord cs) := List.decidableBAll _ cs

instance (cs : List Char) : Decidable (IsOpcode cs) := inferInstanceAs (Decidable (_ ∧ _))

/-- What a line of a kernel stands for: an instruction or nothing. -/
inductive Stands : List Char → Option Instruction → Prop
  /-- A blank line, or brackets. -/
  | blank {line : List Char} : IsPunctuation line → Stands line none
  /-- A directive. -/
  | directive {indent directive stop trail : List Char} :
      IsBlanks indent → IsCode directive → stop = [] ∨ stop = [';'] → IsBlanks trail →
      Stands (indent ++ '.' :: directive ++ stop ++ trail) none
  /-- A comment on a line of its own. -/
  | comment {indent text : List Char} :
      IsBlanks indent → Stands (indent ++ '/' :: '/' :: text) none
  /-- A label. -/
  | label {indent name trail : List Char} :
      IsBlanks indent → name.all isNameChar = true → IsBlanks trail →
      Stands (indent ++ name ++ ':' :: trail) none
  /-- An instruction without operands. -/
  | bare {indent opcode trail : List Char} :
      IsBlanks indent → IsOpcode opcode → IsBlanks trail →
      Stands (indent ++ opcode ++ ';' :: trail) (some ⟨String.ofList opcode, []⟩)
  /-- An instruction with operands. -/
  | instruction {indent opcode operands trail : List Char} {gap : Char} :
      IsBlanks indent → IsOpcode opcode → Text.isBlank gap = true → IsCode operands →
      IsBlanks trail →
      Stands (indent ++ opcode ++ gap :: operands ++ ';' :: trail)
        (some ⟨String.ofList opcode,
          (Text.splitOnChar ',' operands).map fun o => String.ofList (Text.trim o)⟩)

/-! ### How lines are read -/

/-- The opcode that is read is what the line begins with. -/
theorem opcode_isPrefix {line : List Char} {i : Instruction} (h : ofLine? line = some i) :
    i.opcode.toList <+: Text.trimStart line := by
  rw [ofLine?] at h
  split at h
  · cases h
  · cases h
    rw [String.toList_ofList]
    exact (List.takeWhile_prefix _).trans
      ((dropTrailing_isPrefix _ _).trans (trimEnd_isPrefix _))

/-- A single word is not read as an instruction. -/
theorem ofLine?_word {indent word trail : List Char} {c : Char} (hindent : IsBlanks indent)
    (hword : IsWord (word ++ [c])) (htrail : IsBlanks trail) :
    ofLine? (indent ++ word ++ c :: trail) = none := by
  have hstart : Text.trimStart (word ++ c :: trail) = word ++ c :: trail := by
    cases word with
    | nil => exact trimStart_cons (hword c (by simp))
    | cons d word => exact trimStart_cons (hword d (by simp))
  have htrim : Text.trim (indent ++ word ++ c :: trail) = word ++ [c] := by
    rw [Text.trim, List.append_assoc, trimStart_append hindent, hstart,
      trimEnd_append (hword c (by simp)) htrail]
  have hnone : (dropTrailing ';' (word ++ [c])).dropWhile (!Text.isBlank ·) = [] := by
    rw [List.dropWhile_eq_nil_iff]
    intro d hd
    simp [hword d ((dropTrailing_isPrefix _ _).mem hd)]
  rw [ofLine?, htrim]
  simp only [hnone]

/-- An instruction is read as it stands. -/
theorem ofLine?_instruction {indent opcode operands trail : List Char} {gap : Char}
    (hindent : IsBlanks indent) (hopcode : IsOpcode opcode) (hgap : Text.isBlank gap = true)
    (hoperands : IsCode operands) (htrail : IsBlanks trail) :
    ofLine? (indent ++ opcode ++ gap :: operands ++ ';' :: trail) =
      some ⟨String.ofList opcode,
        (Text.splitOnChar ',' operands).map fun o => String.ofList (Text.trim o)⟩ := by
  obtain ⟨hhead, hword, hcode, -⟩ := hopcode
  have hstart : Text.trimStart (opcode ++ gap :: operands ++ ';' :: trail) =
      opcode ++ gap :: operands ++ ';' :: trail := by
    cases opcode with
    | nil => simp at hhead
    | cons c opcode => exact trimStart_cons (hword c (by simp))
  have htrim : Text.trim (indent ++ opcode ++ gap :: operands ++ ';' :: trail) =
      opcode ++ gap :: operands ++ [';'] := by
    rw [Text.trim, List.append_assoc, List.append_assoc, trimStart_append hindent,
      ← List.append_assoc, hstart, trimEnd_append (by decide) htrail]
  have hsemicolon : ∀ d ∈ opcode ++ gap :: operands, d ≠ ';' := by
    rintro d hd rfl
    rcases List.mem_append.1 hd with hd | hd
    · exact hcode.1 hd
    · rcases List.mem_cons.1 hd with rfl | hd
      · exact absurd hgap (by decide)
      · exact hoperands.1 hd
  have hopcode : ∀ c ∈ opcode, (!Text.isBlank c) = true := fun c hc => by simp [hword c hc]
  have htake : (opcode ++ gap :: operands).takeWhile (!Text.isBlank ·) = opcode := by
    rw [List.takeWhile_append_of_pos hopcode, List.takeWhile_cons_of_neg (by simp [hgap]),
      List.append_nil]
  have hdrop : (opcode ++ gap :: operands).dropWhile (!Text.isBlank ·) = gap :: operands := by
    rw [List.dropWhile_append_of_pos hopcode, List.dropWhile_cons_of_neg (by simp [hgap])]
  rw [ofLine?, htrim, dropTrailing_concat hsemicolon]
  simp only [hdrop, htake]

end Instruction

end Crosscheck
