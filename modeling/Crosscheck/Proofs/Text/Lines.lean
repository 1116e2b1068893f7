import Crosscheck.Text.Lines

/-!
# Crosscheck.Proofs.Text.Lines

**Lines read back.** Lines that are written one after the other, each with its line feed, are the
lines that are read (`lines_ofList_flatMap`). The texts of bundled templates and their expansions are
written that way.
-/

namespace Crosscheck.Text

/-- A line without its end: the characters that end a line do not occur in it. -/
def IsLine (line : List Char) : Prop := '\n' ∉ line ∧ '\r' ∉ line

instance (line : List Char) : Decidable (IsLine line) := inferInstanceAs (Decidable (_ ∧ _))

theorem IsLine.append {l m : List Char} (hl : IsLine l) (hm : IsLine m) : IsLine (l ++ m) := by
  simp only [IsLine, List.mem_append, not_or] at *
  exact ⟨⟨hl.1, hm.1⟩, hl.2, hm.2⟩

theorem linesFrom_lineFeed {before rest : List Char} (h : '\r' ∉ before) :
    linesFrom before ('\n' :: rest) = before.reverse :: linesFrom [] rest := by
  rw [linesFrom]
  rintro before rfl
  exact h (by simp)

theorem linesFrom_char {c : Char} (hc : c ≠ '\n') (before rest : List Char) :
    linesFrom before (c :: rest) = linesFrom (c :: before) rest := by
  rw [linesFrom]
  exact hc

/-- Reading up to a line feed, when `before` has been read of the line. -/
theorem linesFrom_append_lineFeed {line before rest : List Char} (h : IsLine (before.reverse ++ line)) :
    linesFrom before (line ++ '\n' :: rest) = (before.reverse ++ line) :: linesFrom [] rest := by
  induction line generalizing before with
  | nil =>
      rw [List.nil_append, linesFrom_lineFeed (by simpa using h.2), List.append_nil]
  | cons c line ih =>
      have hc : c ≠ '\n' := fun heq => h.1 (by simp [heq])
      have hmove : (c :: before).reverse ++ line = before.reverse ++ c :: line := by simp
      rw [List.cons_append, linesFrom_char hc, ih (by rw [hmove]; exact h), hmove]

theorem linesFrom_flatMap {ls : List (List Char)} (h : ∀ l ∈ ls, IsLine l) :
    linesFrom [] (ls.flatMap (· ++ ['\n'])) = ls := by
  induction ls with
  | nil => rfl
  | cons l ls ih =>
      have hl : IsLine l := h l (by simp)
      rw [List.flatMap_cons, List.append_assoc, List.singleton_append,
        linesFrom_append_lineFeed (by simpa using hl), ih fun m hm => h m (by simp [hm])]
      rfl

/-- Written lines are read back. -/
theorem lines_ofList_flatMap {ls : List (List Char)} (h : ∀ l ∈ ls, IsLine l) :
    lines (String.ofList (ls.flatMap (· ++ ['\n']))) = ls := by
  rw [lines, String.toList_ofList, linesFrom_flatMap h]

end Crosscheck.Text
