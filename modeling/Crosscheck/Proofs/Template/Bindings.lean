import Crosscheck.Proofs.Template.Reading
import Crosscheck.Proofs.Text.Numeral

/-!
# Crosscheck.Proofs.Template.Bindings

**What the placeholders of a point stand for.** A later binding hides an earlier one of the same name
and no other, so the value of a placeholder is read off the bindings (`get?_bind`). Numerals and
opcodes are plain text: they fit into a word of an instruction.
-/

namespace Crosscheck

namespace Bindings

theorem lookup_filter_ne {entries : List (String × String)} {name other : String}
    (h : other ≠ name) : (entries.filter (·.1 != name)).lookup other = entries.lookup other := by
  induction entries with
  | nil => rfl
  | cons e entries ih =>
      obtain ⟨key, value⟩ := e
      by_cases hkey : key = name
      · subst hkey
        have hbeq : (other == key) = false := by simpa using h
        simp [List.lookup_cons, hbeq, ih]
      · rw [List.filter_cons_of_pos (by simpa using hkey), List.lookup_cons, List.lookup_cons, ih]

/-- A binding hides earlier ones of its own name. -/
@[simp] theorem get?_bind (b : Bindings) (name value other : String) :
    (b.bind name value).get? other = if other = name then some value else b.get? other := by
  by_cases h : other = name
  · simp [bind, get?, h]
  · have hbeq : (other == name) = false := by simpa using h
    simp [bind, get?, List.lookup_cons, hbeq, lookup_filter_ne h, h]

@[simp] theorem get?_empty (name : String) : empty.get? name = none := rfl

/-- The placeholders of a buffer's type. -/
def typeNames (start : String) : List String :=
  ["TYPE", "BTYPE", "TYPE_SIZE", "TYPE_BITS"].map (start ++ ·)

theorem get?_bindType_of_not_mem {b : Bindings} {start name : String} {t : ElementType}
    (h : name ∉ typeNames start) : (b.bindType start t).get? name = b.get? name := by
  simp only [typeNames, List.map_cons, List.map_nil, List.mem_cons, List.not_mem_nil, or_false,
    not_or] at h
  simp [bindType, h]

theorem get?_bindField_of_not_mem {b : Bindings} {name : String} {f : BitField}
    (h : name ∉ ["POS", "LEN"]) : (b.bindField f).get? name = b.get? name := by
  simp only [List.mem_cons, List.not_mem_nil, or_false, not_or] at h
  simp [bindField, h]

section Points

variable {p : Point} {amount : Buffer} {field : BitField}

/-- The type and the opcode are bound by every point, and nothing hides them. -/
theorem get?_ofPoint {name : String} (hshift : name ∉ typeNames shiftPrefix)
    (hfield : name ∉ ["POS", "LEN"]) :
    (ofPoint p).get? name =
      ((empty.bindType "" p.type).bindOpcode p.operation p.type).get? name := by
  rw [ofPoint]
  cases p.bitField with
  | none =>
      dsimp only
      split
      · split
        · rw [get?_bindType_of_not_mem hshift]
        · rfl
      · rfl
  | some f =>
      dsimp only
      rw [get?_bindField_of_not_mem hfield]
      split
      · split
        · rw [get?_bindType_of_not_mem hshift]
        · rfl
      · rfl

theorem get?_ofPoint_op : (ofPoint p).get? "OP" = some p.opcode :=
  (get?_ofPoint (by decide) (by decide)).trans (by simp [bindOpcode, Point.opcode])

theorem get?_ofPoint_bitName : (ofPoint p).get? "BTYPE" = some p.type.bitName :=
  (get?_ofPoint (by decide) (by decide)).trans (by simp [bindOpcode, bindType])

theorem get?_ofPoint_size : (ofPoint p).get? "TYPE_SIZE" = some (toString p.type.bytes.toNat) :=
  (get?_ofPoint (by decide) (by decide)).trans (by simp [bindOpcode, bindType])

theorem get?_ofPoint_shift (hshape : p.operation.shape = .shift) (hamount : p.inputs[1]? = some amount) :
    (ofPoint p).get? "SHIFT_BTYPE" = some amount.type.bitName ∧
      (ofPoint p).get? "SHIFT_TYPE_SIZE" = some (toString amount.type.bytes.toNat) := by
  rw [ofPoint, if_pos hshape, hamount]
  cases p.bitField <;> simp [bindField, bindType, shiftPrefix]

theorem get?_ofPoint_field (hfield : p.bitField = some field) :
    (ofPoint p).get? "POS" = some (toString field.position.toNat) ∧
      (ofPoint p).get? "LEN" = some (toString field.length.toNat) := by
  rw [ofPoint, hfield]
  simp [bindField]

end Points

end Bindings

/-! ### Plain values -/

theorem PlainText.append {cs ds : List Char} (hc : PlainText cs) (hd : PlainText ds) :
    PlainText (cs ++ ds) := by
  refine ⟨by simp [hc.1], fun c h => ?_⟩
  rcases List.mem_append.1 h with h | h
  · exact hc.2 c h
  · exact hd.2 c h

instance (cs : List Char) : Decidable (PlainText cs) :=
  @instDecidableAnd _ _ _ (List.decidableBAll _ cs)

/-- Digits are neither blanks nor separators nor brackets. -/
theorem plain_of_isDigit {c : Char} (h : c.isDigit = true) :
    Text.isBlank c = false ∧ c ≠ ';' ∧ c ≠ ',' ∧ c ≠ '[' ∧ c ≠ ']' := by
  have hrange : 48 ≤ c.toNat ∧ c.toNat ≤ 57 := by
    simp only [Char.isDigit, Bool.and_eq_true, decide_eq_true_eq, ge_iff_le] at h
    exact h
  refine ⟨?_, ?_, ?_, ?_, ?_⟩
  · simp only [Text.isBlank, Text.blankRanges, List.any_cons, List.any_nil, Bool.or_false,
      Bool.or_eq_false_iff, Bool.and_eq_false_iff, decide_eq_false_iff_not]
    omega
  all_goals
    rintro rfl
    revert h
    decide

theorem plainText_repr (n : Nat) : PlainText n.repr.toList := by
  rw [Nat.toList_repr]
  refine ⟨Nat.toDigits_ne_nil, fun c hc => ?_⟩
  have h := plain_of_isDigit (Text.isDigit_of_mem_toDigits hc)
  exact ⟨h.1, h.2.1, h.2.2.1⟩

end Crosscheck
