import Crosscheck.Word.BitField
import Crosscheck.Word.Lemmas

/-!
# Crosscheck.Proofs.Word.BitField

**Extracting a bit field and inserting it undo each other.** Extraction copies bits one by one,
insertion masks and shifts. Both are read bit by bit here, in terms of the bits of the field that
lie within the word (`BitField.overlap`): `getLsbD_insert` and `getLsbD_extract_of_lt` say where a
bit of the result comes from. The field may be empty, fill the word, be cut at the top or start
beyond it.
-/

namespace Crosscheck

namespace Word

theorem getLsbD_lowMask (bits i : Nat) :
    (lowMask bits).getLsbD i = (decide (i < 64) && decide (i < bits)) := by
  rw [lowMask, getLsbD_low, BitVec.getLsbD_allOnes]
  by_cases h : i < 64
  · simp [h]
  · simp [h]

end Word

namespace BitField

open Word

variable {field : BitField} {bits i : Nat}

/-- How many bits of the field lie within a word of `bits` bits. -/
def overlap (field : BitField) (bits : Nat) : Nat :=
  if field.start < bits then min field.span (bits - field.start) else 0

/-- The first bits of the field are those that are neither beyond its end nor beyond the word's. -/
theorem lt_overlap_iff : i < field.overlap bits ↔ i < field.span ∧ field.start + i < bits := by
  rw [overlap]
  by_cases h : field.start < bits
  · rw [if_pos h, Nat.lt_min]
    omega
  · rw [if_neg h]
    omega

theorem overlap_eq_zero_iff : field.overlap bits = 0 ↔ field.span = 0 ∨ bits ≤ field.start := by
  have hfirst : 0 < field.overlap bits ↔ 0 < field.span ∧ field.start + 0 < bits := lt_overlap_iff
  omega

/-- What is extracted from the word, whether or not the field is signed. -/
theorem getLsbD_extract_of_lt (h64 : bits ≤ 64) (signed : Bool) (x : Word)
    (h : i < field.overlap bits) :
    (field.extract bits signed x).getLsbD i = x.getLsbD (field.start + i) := by
  obtain ⟨hspan, hword⟩ := lt_overlap_iff.1 h
  have hne : field.span ≠ 0 := by omega
  have hinside : i < field.span ∧ field.start + i ≤ bits - 1 := ⟨hspan, by omega⟩
  have hi : i < bits := by omega
  rw [extract, if_neg hne, getLsbD_gather, if_pos hinside]
  simp [hi, Nat.lt_of_lt_of_le hi h64]

/-- Above the field, an unsigned result is clear. -/
theorem getLsbD_extract_of_le (hpos : 0 < bits) (x : Word) (h : field.overlap bits ≤ i) :
    (field.extract bits false x).getLsbD i = false := by
  rw [extract]
  by_cases hspan : field.span = 0
  · rw [if_pos hspan]
    exact BitVec.getLsbD_zero
  · -- the bit is beyond the end of the field or of the word
    have houtside : ¬ (i < field.span ∧ field.start + i ≤ bits - 1) := by
      intro hinside
      have hlt : i < field.overlap bits := lt_overlap_iff.2 ⟨hinside.1, by omega⟩
      omega
    rw [if_neg hspan, getLsbD_gather, if_neg houtside]
    simp

/-- **Where a bit comes from after an insertion**: from the source within the field, and from the
base everywhere else. -/
theorem getLsbD_insert (h64 : bits ≤ 64) (source base : Word) (i : Nat) :
    (field.insert bits source base).getLsbD i =
      if field.start ≤ i ∧ i - field.start < field.overlap bits then source.getLsbD (i - field.start)
      else (low bits base).getLsbD i := by
  rw [insert]
  by_cases hempty : field.span = 0 ∨ bits ≤ field.start
  · have hzero : field.overlap bits = 0 := overlap_eq_zero_iff.2 hempty
    rw [if_pos hempty, if_neg (by omega)]
  · have hoverlap : min field.span (bits - field.start) = field.overlap bits := by
      rw [overlap, if_pos (by omega)]
    rw [if_neg hempty, hoverlap]
    simp only [BitVec.getLsbD_or, BitVec.getLsbD_and, BitVec.getLsbD_not, BitVec.getLsbD_shiftLeft,
      getLsbD_lowMask]
    by_cases hfield : field.start ≤ i ∧ i - field.start < field.overlap bits
    · -- a bit of the field is a bit of the word, so the mask has it
      obtain ⟨hle, hlt⟩ := hfield
      have hword := (lt_overlap_iff.1 hlt).2
      have hi : i < 64 := by omega
      have hshifted : i - field.start < 64 := by omega
      simp [hle, hlt, hi, hshifted, Nat.not_lt.2 hle]
    · rw [if_neg hfield]
      by_cases hle : field.start ≤ i
      · have hge : ¬ i - field.start < field.overlap bits := fun hlt => hfield ⟨hle, hlt⟩
        by_cases hi : i < 64
        · simp [hge, hi]
        · simp [hi, getLsbD_low]
      · have hbelow : i < field.start := Nat.lt_of_not_le hle
        by_cases hi : i < 64
        · simp [hbelow, hi]
        · simp [hi, getLsbD_low]

/-- What has been extracted is put back where it was. -/
theorem insert_extract_self (h64 : bits ≤ 64) (signed : Bool) (x : Word) :
    field.insert bits (field.extract bits signed x) x = low bits x := by
  apply BitVec.eq_of_getLsbD_eq
  intro i hi
  rw [getLsbD_insert h64]
  by_cases hfield : field.start ≤ i ∧ i - field.start < field.overlap bits
  · obtain ⟨hle, hlt⟩ := hfield
    have hword : i < bits := by
      have := (lt_overlap_iff.1 hlt).2
      omega
    rw [if_pos ⟨hle, hlt⟩, getLsbD_extract_of_lt h64 signed x hlt, Nat.add_sub_cancel' hle,
      getLsbD_low]
    simp [hi, hword]
  · rw [if_neg hfield]

/-- What has been inserted is extracted again, as far as it is within the word. -/
theorem extract_insert_self (hpos : 0 < bits) (h64 : bits ≤ 64) (source base : Word) :
    field.extract bits false (field.insert bits source base) = low (field.overlap bits) source := by
  apply BitVec.eq_of_getLsbD_eq
  intro i hi
  rw [getLsbD_low]
  by_cases hlt : i < field.overlap bits
  · have hfield : field.start ≤ field.start + i ∧
        field.start + i - field.start < field.overlap bits :=
      ⟨Nat.le_add_right _ _, by rwa [Nat.add_sub_cancel_left]⟩
    rw [getLsbD_extract_of_lt h64 false _ hlt, getLsbD_insert h64, if_pos hfield,
      Nat.add_sub_cancel_left]
    simp [hi, hlt]
  · rw [getLsbD_extract_of_le hpos _ (Nat.le_of_not_lt hlt)]
    simp [hlt]

/-- **Extraction and insertion undo each other**, for every word width up to 64 bits and every pair
of 32-bit counts as position and length. Putting back what was extracted, with or without sign,
leaves the word's low bits; extracting what was inserted gives as many of its low bits as there are
in the word. -/
theorem insert_extract_and_extract_insert (field : BitField) {bits : Nat} (hpos : 1 ≤ bits)
    (h64 : bits ≤ 64) (signed : Bool) (x f b : Word) :
    let p := field.position.toNat % 256
    let l := field.length.toNat % 256
    let w := if p < bits then min l (bits - p) else 0
    (field.insert bits (field.extract bits signed x) x).toNat = x.toNat % 2 ^ bits ∧
      (field.extract bits false (field.insert bits f b)).toNat = f.toNat % 2 ^ w := by
  intro p l w
  have hw : w ≤ 64 := by
    have hle : w ≤ bits := by
      by_cases hp : p < bits
      · simp only [w, if_pos hp]
        omega
      · simp only [w, if_neg hp]
        omega
    omega
  constructor
  · rw [insert_extract_self h64, toNat_low h64]
  · have hoverlap : field.overlap bits = w := rfl
    rw [extract_insert_self hpos h64, hoverlap, toNat_low hw]

/-- A field of twelve bits whose last four are beyond the top of the word; the position is read
modulo 256. -/
theorem insert_extract_and_extract_insert_cut :
    let field : BitField := ⟨256 + 24, 12⟩
    1 ≤ 32 ∧ 32 ≤ 64 ∧
      (field.insert 32 (field.extract 32 true 0x9abcdef0) 0x9abcdef0).toNat = 0x9abcdef0 ∧
      (field.extract 32 false (field.insert 32 0xfed 0x12345678)).toNat = 0xed := by
  intro field
  have hpos : 1 ≤ 32 := by decide
  have h64 : 32 ≤ 64 := by decide
  obtain ⟨hback, hcut⟩ :=
    insert_extract_and_extract_insert field hpos h64 true 0x9abcdef0 0xfed 0x12345678
  exact ⟨hpos, h64, hback.trans (by decide), hcut.trans (by decide)⟩

end BitField

end Crosscheck
