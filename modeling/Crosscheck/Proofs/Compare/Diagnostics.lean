import Crosscheck.Proofs.Compare.Listing
import Crosscheck.Proofs.Text.Numeral
import Mathlib.Algebra.Group.Int.Defs

/-!
# Crosscheck.Proofs.Compare.Diagnostics

**Diagnostics reproduce the values they are about.** However an element is written, the numeral behind
the last `0x` of the text denotes it (`ElementType.lastNumber?_formatValue`), so no two elements of a
type are written alike. A listed mismatch therefore tells the operands of its element, and what is
expected never looks like what the device gave (`Comparator.diagnostics_read_back`).
-/

namespace Crosscheck

/-! ### The last pattern of a text -/

namespace Text

variable {cs digits after : List Char}

/-- A hexadecimal digit in lower case. -/
def IsLowerHex (c : Char) : Prop := ('0' ≤ c ∧ c ≤ '9') ∨ ('a' ≤ c ∧ c ≤ 'f')

instance (c : Char) : Decidable (IsLowerHex c) := inferInstanceAs (Decidable (_ ∨ _))

/-- The letters and digits behind the last `0x` of a text. -/
def lastHex? : List Char → Option (List Char)
  | [] => none
  | c :: cs =>
    match lastHex? cs with
    | some digits => some digits
    | none =>
      if c = '0' ∧ cs.head? = some 'x' then some (cs.tail.takeWhile Char.isAlphanum) else none

/-- The number that the numeral behind the last `0x` of a text denotes. -/
def lastNumber? (text : String) : Option Nat := (lastHex? text.toList).bind (ofDigits? 16)

theorem lastHex?_eq_none (h : 'x' ∉ cs) : lastHex? cs = none := by
  induction cs with
  | nil => rfl
  | cons c cs ih =>
      have hcs : 'x' ∉ cs := fun hmem => h (List.mem_cons_of_mem _ hmem)
      rw [lastHex?, ih hcs]
      exact if_neg fun hhead => hcs (List.mem_of_head? hhead.2)

theorem lastHex?_append (hdigits : ∀ c ∈ digits, c.isAlphanum = true)
    (hafter : ∀ c ∈ after.head?, c.isAlphanum = false) (hlast : 'x' ∉ digits ++ after)
    (before : List Char) :
    lastHex? (before ++ '0' :: 'x' :: (digits ++ after)) = some digits := by
  induction before with
  | nil =>
      have hnone : lastHex? ('x' :: (digits ++ after)) = none := by
        rw [lastHex?, lastHex?_eq_none hlast]
        exact if_neg fun hzero => absurd hzero.1 (by decide)
      have hrest : after.takeWhile Char.isAlphanum = [] := by
        cases after with
        | nil => rfl
        | cons c after => exact List.takeWhile_cons_of_neg (by simp [hafter c rfl])
      rw [List.nil_append, lastHex?, hnone]
      show (if _ then some ((digits ++ after).takeWhile Char.isAlphanum) else none) = _
      rw [if_pos ⟨rfl, rfl⟩, List.takeWhile_append_of_pos hdigits, hrest, List.append_nil]
  | cons c before ih => rw [List.cons_append, lastHex?, ih]

end Text

/-! ### Elements -/

/-- The two's complement reading of a word in range. -/
theorem Word.signed_of_lt {bits : Nat} {v : Word} (hpos : 0 < bits) (h : v.toNat < 2 ^ bits) :
    signed bits v = if v.toNat < 2 ^ (bits - 1) then (v.toNat : Int) else v.toNat - 2 ^ bits := by
  have htop : 2 ^ bits = 2 * 2 ^ (bits - 1) := by
    rw [← Nat.pow_succ', Nat.succ_eq_add_one, Nat.sub_add_cancel hpos]
  rw [signed, BitVec.toInt_eq_toNat_cond, BitVec.toNat_setWidth, Nat.mod_eq_of_lt h]
  refine if_congr ?_ rfl (by push_cast; rfl)
  omega

namespace ElementType

variable {t : ElementType} {v : Word}

/-- Every written element ends in its pattern, but for a parenthesis. -/
theorem exists_toList_formatValue (t : ElementType) (v : Word) :
    ∃ before after, (after = [] ∨ after = [')']) ∧ (t.formatValue v).toList =
      before ++ '0' :: 'x' :: (Text.hexDigits (t.bits / 4) v.toNat ++ after) := by
  have hpattern : (t.patternText v).toList = '0' :: 'x' :: Text.hexDigits (t.bits / 4) v.toNat := by
    simp [patternText, Text.hexPadded]
  rw [formatValue]
  cases t.numeric with
  | float => exact ⟨(FloatElement.display t.bits v).toList ++ [' ', '('], _, .inr rfl, by simp [hpattern]⟩
  | signed =>
      exact ⟨(toString (Word.signed t.bits v)).toList ++ [' ', '('], _, .inr rfl, by simp [hpattern]⟩
  | unsigned => exact ⟨[], _, .inl rfl, by simp [hpattern]⟩
  | bits => exact ⟨[], _, .inl rfl, by simp [hpattern]⟩

/-- The last pattern of a written element is its own. -/
theorem lastHex?_formatValue (t : ElementType) (v : Word) :
    Text.lastHex? (t.formatValue v).toList = some (Text.hexDigits (t.bits / 4) v.toNat) := by
  obtain ⟨before, after, hafter, htext⟩ := exists_toList_formatValue t v
  obtain ⟨hhead, hnone⟩ : (∀ c ∈ after.head?, c.isAlphanum = false) ∧ 'x' ∉ after := by
    rcases hafter with rfl | rfl <;> simp
  have halphanum := Text.forall_mem_hexDigits (P := (·.isAlphanum = true)) (by decide) (t.bits / 4)
    v.toNat
  have hdigits := Text.forall_mem_hexDigits (P := (· ≠ 'x')) (by decide) (t.bits / 4) v.toNat
  rw [htext]
  refine Text.lastHex?_append halphanum hhead ?_ before
  rw [List.mem_append, not_or]
  exact ⟨fun hmem => hdigits _ hmem rfl, hnone⟩

/-- **A written element is read back.** -/
theorem lastNumber?_formatValue (t : ElementType) (v : Word) :
    Text.lastNumber? (t.formatValue v) = some v.toNat := by
  rw [Text.lastNumber?, lastHex?_formatValue, Option.bind_some, Text.ofDigits?_hexDigits]

/-- No two elements are written alike. -/
theorem formatValue_injective (t : ElementType) : Function.Injective t.formatValue := by
  intro v w h
  have hread := lastNumber?_formatValue t v
  rw [h, lastNumber?_formatValue] at hread
  exact (BitVec.eq_of_toNat_eq (Option.some.inj hread)).symm

/-- The pattern has one digit for every four bits. -/
theorem WellFormed.length_hexDigits (ht : t.WellFormed) (hv : v.toNat < 2 ^ t.bits) :
    (Text.hexDigits (t.bits / 4) v.toNat).length = t.bits / 4 := by
  obtain ⟨hpos, -, hbytes, -⟩ := ht
  have hbits : 4 * (t.bits / 4) = t.bits := by omega
  have hpow : 16 ^ (t.bits / 4) = 2 ^ t.bits := by
    rw [show 16 = 2 ^ 4 from rfl, ← Nat.pow_mul, hbits]
  exact Text.length_hexDigits (by omega) (hpow ▸ hv)

end ElementType

/-! ### Mismatches -/

namespace Comparator

variable {c : Comparator} {p : Point} {expected actual : Buffer} {total : Nat}
  {listed : List ElementMismatch} {d : ElementMismatch}

/-- A listed mismatch describes two elements of which one is not accepted for the other. -/
theorem exists_of_mem_listed (h : (c.compare p expected actual).outcome = .mismatch total listed)
    (hd : d ∈ listed) : ∃ i e a, d = describe p i e a ∧ expected.data[i]? = some e ∧
      actual.data[i]? = some a ∧ accepts p.type c.maxUlp e a = false := by
  by_cases hlength : expected.length = actual.length
  · rw [compare_of_eq hlength] at h
    dsimp only at h
    split at h
    · cases h
    · cases h
      obtain ⟨⟨⟨e, a⟩, i⟩, hmem, rfl⟩ := List.mem_map.1 hd
      exact ⟨i, e, a, rfl, mem_mismatches_iff.1 (List.mem_of_mem_take hmem)⟩
  · rw [compare_of_ne hlength] at h
    cases h

/-- **Diagnostics reproduce the values they are about.** The last pattern in the text of an element has
one lower-case digit for every four bits of its type, and denotes the element. Signed elements are
written as a decimal number first, the two's complement reading of the element. Hence a text is that of
one element only. In every mismatch that a comparison lists, the texts of the inputs denote the operands
at its index, the other two denote the elements that the outputs have there, and these two differ. -/
theorem diagnostics_read_back (r : Registry) :
    (∀ t ∈ r.types, ∀ v : Word, v.toNat < 2 ^ t.bits →
      (∃ digits, Text.lastHex? (t.formatValue v).toList = some digits ∧ digits.length = t.bits / 4 ∧
        (∀ c ∈ digits, Text.IsLowerHex c) ∧ Text.ofDigits? 16 digits = some v.toNat) ∧
      (t.isSigned = true → ∃ rest, t.formatValue v =
        toString (if v.toNat < 2 ^ (t.bits - 1) then (v.toNat : Int) else v.toNat - 2 ^ t.bits)
          ++ " (" ++ rest) ∧
      ∀ w : Word, t.formatValue w = t.formatValue v → w = v) ∧
    ∀ (c : Comparator) (p : Point) (expected actual : Buffer) (total : Nat)
      (listed : List ElementMismatch),
      (c.compare p expected actual).outcome = .mismatch total listed → ∀ d ∈ listed,
        d.inputs.map Text.lastNumber? = (p.operandsAt d.index).map (fun v => some v.toNat) ∧
        (∃ e a, expected.data[d.index]? = some e ∧ actual.data[d.index]? = some a ∧
          Text.lastNumber? d.expected = some e.toNat ∧ Text.lastNumber? d.actual = some a.toNat) ∧
        d.expected ≠ d.actual := by
  refine ⟨fun t ht v hv => ⟨?_, fun hsigned => ?_, fun w hw => t.formatValue_injective hw⟩, ?_⟩
  · exact ⟨_, t.lastHex?_formatValue v, (r.wellFormed t ht).length_hexDigits hv,
      Text.forall_mem_hexDigits (by decide) _ _, Text.ofDigits?_hexDigits _ _⟩
  · have hnumeric : t.numeric = .signed := by simpa [ElementType.isSigned] using hsigned
    rw [← Word.signed_of_lt (r.wellFormed t ht).1 hv, ElementType.formatValue, hnumeric]
    exact ⟨t.patternText v ++ ")", by simp [String.append_assoc]⟩
  · intro c p expected actual total listed h d hd
    obtain ⟨i, e, a, rfl, he, ha, hrejected⟩ := exists_of_mem_listed h hd
    refine ⟨?_, ⟨e, a, he, ha, p.type.lastNumber?_formatValue e, p.type.lastNumber?_formatValue a⟩, ?_⟩
    · simp [describe, Point.operandsAt, ElementType.lastNumber?_formatValue]
    · intro heq
      rw [p.type.formatValue_injective heq, accepts_self] at hrejected
      cases hrejected

/-- A negative element, and a difference of which the device has lost the upper byte. -/
theorem diagnostics_read_back_negative :
    let s16 := ElementType.ofWidth "s16" 16 .signed
    let p : Point :=
      { index := 0, name := "arith/sub.s16", template := "arith",
        operation := ⟨.sub, "sub", .binary, .binary, [.signed], [16]⟩, type := s16, bitField := none,
        seed := 0, inputs := [.ofWords "input_a" s16 [7, 1], .ofWords "input_b" s16 [7, 3]] }
    let expected := Buffer.ofWords "output" s16 [0, 0xfffe]
    let actual := Buffer.ofWords "output" s16 [0, 0xfe]
    (s16 ∈ (Registry.builtin .clamp).types ∧ (0xfffe : Word).toNat < 2 ^ s16.bits ∧
      (∃ digits, Text.lastHex? (s16.formatValue 0xfffe).toList = some digits ∧ digits.length = 4 ∧
        Text.ofDigits? 16 digits = some 0xfffe) ∧
      ∃ rest, s16.formatValue 0xfffe = "-2" ++ " (" ++ rest) ∧
    ∃ d, (compare ⟨0, 8⟩ p expected actual).outcome = .mismatch 1 [d] ∧
      d.inputs.map Text.lastNumber? = [some 1, some 3] ∧ d.expected ≠ d.actual := by
  intro s16 p expected actual
  have hmem : s16 ∈ (Registry.builtin .clamp).types := by decide
  have hv : (0xfffe : Word).toNat < 2 ^ s16.bits := by decide
  obtain ⟨hvalues, hlisted⟩ := diagnostics_read_back (Registry.builtin .clamp)
  obtain ⟨⟨digits, hdigits, hlength, -, hvalue⟩, hsigned, -⟩ := hvalues s16 hmem 0xfffe hv
  have hfound : mismatches ⟨0, 8⟩ p.type expected actual = [((0xfffe, 0xfe), 1)] := by decide
  have houtcome : (compare ⟨0, 8⟩ p expected actual).outcome =
      .mismatch 1 [describe p 1 0xfffe 0xfe] := by
    have hlength : expected.length = actual.length := rfl
    rw [compare_of_eq hlength, hfound]
    rfl
  obtain ⟨hinputs, -, hdiffer⟩ := hlisted _ _ _ _ _ _ houtcome _ (List.mem_singleton_self _)
  exact ⟨⟨hmem, hv, ⟨digits, hdigits, hlength.trans (by decide), hvalue⟩, hsigned rfl⟩, _, houtcome,
    hinputs, hdiffer⟩

end Comparator

end Crosscheck
