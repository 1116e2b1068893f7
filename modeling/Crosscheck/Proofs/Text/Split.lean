import Crosscheck.Text.Blank

/-!
# Crosscheck.Proofs.Text.Split

**Splitting at separators.** Characters in front of a text that are no separators belong to its first
piece, and the last separator of a text divides it in one way only (`append_cons_inj`).
-/

namespace Crosscheck.Text

variable {sep : Char}

theorem splitOnChar_cons_sep (cs : List Char) :
    splitOnChar sep (sep :: cs) = [] :: splitOnChar sep cs := by
  rw [splitOnChar, if_pos rfl]

theorem splitOnChar_cons_of_ne {c : Char} {cs piece : List Char} {pieces : List (List Char)}
    (hc : c ≠ sep) (hcs : splitOnChar sep cs = piece :: pieces) :
    splitOnChar sep (c :: cs) = (c :: piece) :: pieces := by
  rw [splitOnChar, if_neg hc, hcs]

/-- A text without separators is put in front of the first piece. -/
theorem splitOnChar_append {word cs piece : List Char} {pieces : List (List Char)}
    (hword : sep ∉ word) (hcs : splitOnChar sep cs = piece :: pieces) :
    splitOnChar sep (word ++ cs) = (word ++ piece) :: pieces := by
  induction word with
  | nil => exact hcs
  | cons c word ih =>
      have hc : c ≠ sep := fun heq => hword (by simp [heq])
      exact splitOnChar_cons_of_ne hc (ih fun hmem => hword (List.mem_cons_of_mem _ hmem))

/-- Two texts that are cut at their last separator are equal only if both parts are. -/
theorem append_cons_inj {a b c d : List Char} (h : a ++ sep :: b = c ++ sep :: d) (hb : sep ∉ b)
    (hd : sep ∉ d) : a = c ∧ b = d := by
  rcases List.append_eq_append_iff.1 h with ⟨as, rfl, hrest⟩ | ⟨as, rfl, hrest⟩
  all_goals
    cases as with
    | nil =>
        obtain rfl : b = d := by simpa [eq_comm] using hrest
        simp
    | cons x as =>
        obtain ⟨rfl, rfl⟩ := List.cons.inj hrest
        simp at hb hd

end Crosscheck.Text
