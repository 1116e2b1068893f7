import Crosscheck.Proofs.List
import Crosscheck.Proofs.Matrix.Naming

/-!
# Crosscheck.Proofs.Matrix.Fields

**Which bit fields are tested.** On a word of 8 to `2 ^ 31` bits, every length of a short list is tried at
every position of another one, as far as the field fits, and where the field ends at the top bit
(`bitFieldPairs_enumerates`). Positions and lengths are 32-bit counts. In this range no sum of them leaves
32 bits and no difference is negative: the enumeration that checks each of its operations
(`bitFieldPairs?`) never gives up, and lists the same fields.
-/

namespace Crosscheck

variable {bits position length : UInt32} {zeroLength : Bool} {p l : Nat}

/-! ### Counts -/

namespace Count

/-- The sum of two counts, undefined where it needs more than 32 bits. -/
def sum? (m n : UInt32) : Option UInt32 := if m.toNat + n.toNat < 2 ^ 32 then some (m + n) else none

/-- The difference of two counts, undefined where it would be negative. -/
def difference? (m n : UInt32) : Option UInt32 := if n.toNat ≤ m.toNat then some (m - n) else none

theorem toNat_sub {m n : UInt32} (h : n.toNat ≤ m.toNat) : (m - n).toNat = m.toNat - n.toNat :=
  UInt32.toNat_sub_of_le m n (UInt32.le_iff_toNat_le.2 h)

end Count

namespace BitField

/-- The position and the length of a field. -/
def toPair (f : BitField) : Nat × Nat := (f.position.toNat, f.length.toNat)

theorem eq_of_before {f g : BitField} (hfg : f.before g = false) (hgf : g.before f = false) : f = g := by
  rw [← Bool.not_eq_true, before_iff, UInt32.lt_iff_toNat_lt, UInt32.lt_iff_toNat_lt] at hfg hgf
  cases f
  cases g
  simp only [mk.injEq, ← UInt32.toNat_inj] at *
  omega

theorem fits_iff (h : position.toNat + length.toNat < 2 ^ 32) {n : Nat} :
    (mk position length).fits n = true ↔ position.toNat + length.toNat ≤ n := by
  rw [fits, decide_eq_true_iff, UInt32.toNat_add, Nat.mod_eq_of_lt h]

end BitField

/-! ### Candidates -/

/-- The positions at which fields are tried. -/
def fieldPositions (bits : Nat) : List Nat := [0, 1, 3, bits / 2, bits - 1]

/-- The lengths of the fields. -/
def fieldLengths (bits : Nat) (zeroLength : Bool) : List Nat :=
  [1, 4, 8, bits / 2, bits - 1, bits] ++ if zeroLength then [0] else []

/-- The positions as counts. -/
def candidatePositions (bits : UInt32) : List UInt32 := [0, 1, 3, bits / 2, bits - 1]

/-- The lengths as counts. -/
def candidateLengths (bits : UInt32) (zeroLength : Bool) : List UInt32 :=
  [1, 4, 8, bits / 2, bits - 1, bits] ++ if zeroLength then [0] else []

theorem map_toNat_candidatePositions (hpos : 1 ≤ bits.toNat) :
    (candidatePositions bits).map UInt32.toNat = fieldPositions bits.toNat := by
  have hone : (1 : UInt32).toNat ≤ bits.toNat := hpos
  simp [candidatePositions, fieldPositions, UInt32.toNat_div, Count.toNat_sub hone]

theorem map_toNat_candidateLengths (hpos : 1 ≤ bits.toNat) :
    (candidateLengths bits zeroLength).map UInt32.toNat = fieldLengths bits.toNat zeroLength := by
  have hone : (1 : UInt32).toNat ≤ bits.toNat := hpos
  cases zeroLength <;> simp [candidateLengths, fieldLengths, UInt32.toNat_div, Count.toNat_sub hone]

theorem lt_of_mem_fieldPositions {n : Nat} (h8 : 8 ≤ n) (h : p ∈ fieldPositions n) : p < n := by
  simp only [fieldPositions, List.mem_cons, List.not_mem_nil, or_false] at h
  omega

theorem le_of_mem_fieldLengths {n : Nat} (h8 : 8 ≤ n) (h : l ∈ fieldLengths n zeroLength) : l ≤ n := by
  simp only [fieldLengths, List.mem_append, List.mem_cons, List.not_mem_nil, or_false] at h
  rcases h with h | h
  · omega
  · split at h
    · rw [List.mem_singleton.1 h]
      exact Nat.zero_le n
    · cases h

/-- An empty field is tried if it is asked for, and not otherwise. -/
theorem zero_mem_fieldLengths {n : Nat} (h8 : 8 ≤ n) : 0 ∈ fieldLengths n zeroLength ↔ zeroLength = true := by
  cases zeroLength with
  | true => simp [fieldLengths]
  | false =>
      simp only [fieldLengths, Bool.false_eq_true, if_false, List.append_nil, List.mem_cons,
        List.not_mem_nil, or_false, iff_false]
      omega

/-! ### The enumeration -/

/-- The fields of a length, at the given positions and at the top. -/
def fieldsOfLength (bits : UInt32) (positions : List UInt32) (length : UInt32) : List BitField :=
  (positions.map fun position => BitField.mk position length).filter (·.fits bits.toNat)
    ++ [⟨bits - length, length⟩]

theorem bitFieldPairs_eq (bits : UInt32) (zeroLength : Bool) :
    bitFieldPairs bits zeroLength = ascending BitField.before
      ((candidateLengths bits zeroLength).flatMap (fieldsOfLength bits (candidatePositions bits))) :=
  rfl

/-- The fields of a length, undefined where a sum or a difference is. -/
def fieldsOfLength? (bits : UInt32) (positions : List UInt32) (length : UInt32) :
    Option (List BitField) := do
  let stops ← positions.mapM fun position =>
    (Count.sum? position length).map fun stop => (BitField.mk position length, stop)
  let last ← Count.difference? bits length
  some ((stops.filter fun x => x.2.toNat ≤ bits.toNat).map Prod.fst ++ [⟨last, length⟩])

/-- The enumeration, undefined where a sum or a difference is. -/
def bitFieldPairs? (bits : UInt32) (zeroLength : Bool) : Option (List BitField) := do
  let last ← Count.difference? bits 1
  let lengths := [1, 4, 8, bits / 2, last, bits] ++ if zeroLength then [0] else []
  let pieces ← lengths.mapM (fieldsOfLength? bits [0, 1, 3, bits / 2, last])
  some (ascending BitField.before pieces.flatten)

theorem fieldsOfLength?_eq {positions : List UInt32}
    (hpositions : ∀ position ∈ positions, position.toNat + length.toNat < 2 ^ 32)
    (hlength : length.toNat ≤ bits.toNat) :
    fieldsOfLength? bits positions length = some (fieldsOfLength bits positions length) := by
  have hstops : (positions.mapM fun position =>
      (Count.sum? position length).map fun stop => (BitField.mk position length, stop)) =
      some (positions.map fun position => (BitField.mk position length, position + length)) := by
    refine Option.mapM_eq_some fun position hmem => ?_
    rw [Count.sum?, if_pos (hpositions position hmem), Option.map_some]
  rw [fieldsOfLength?, hstops, Count.difference?, if_pos hlength]
  simp only [Option.bind_eq_bind, Option.bind_some, fieldsOfLength, List.filter_map, List.map_map]
  rfl

/-- No difference of the width and a length is negative, and no sum of a position and a length too great. -/
theorem candidates_bounded (h8 : 8 ≤ bits.toNat) (hbits : bits.toNat ≤ 2 ^ 31)
    (hlength : length ∈ candidateLengths bits zeroLength) : length.toNat ≤ bits.toNat ∧
      ∀ position ∈ candidatePositions bits, position.toNat + length.toNat < 2 ^ 32 := by
  have hmem : length.toNat ∈ fieldLengths bits.toNat zeroLength :=
    map_toNat_candidateLengths (Nat.le_trans (by decide) h8) ▸ List.mem_map_of_mem hlength
  have hle := le_of_mem_fieldLengths h8 hmem
  refine ⟨hle, fun position hposition => ?_⟩
  have hmem : position.toNat ∈ fieldPositions bits.toNat :=
    map_toNat_candidatePositions (Nat.le_trans (by decide) h8) ▸ List.mem_map_of_mem hposition
  have hlt := lt_of_mem_fieldPositions h8 hmem
  omega

/-- **No operation on the counts is undefined.** -/
theorem bitFieldPairs?_eq (h8 : 8 ≤ bits.toNat) (hbits : bits.toNat ≤ 2 ^ 31) :
    bitFieldPairs? bits zeroLength = some (bitFieldPairs bits zeroLength) := by
  have hone : (1 : UInt32).toNat ≤ bits.toNat := Nat.le_trans (by decide) h8
  have hpieces : (candidateLengths bits zeroLength).mapM
      (fieldsOfLength? bits (candidatePositions bits)) =
      some ((candidateLengths bits zeroLength).map
        (fieldsOfLength bits (candidatePositions bits))) := by
    refine Option.mapM_eq_some fun length hlength => ?_
    obtain ⟨hle, hsum⟩ := candidates_bounded h8 hbits hlength
    exact fieldsOfLength?_eq hsum hle
  rw [bitFieldPairs?, Count.difference?, if_pos hone, bitFieldPairs_eq, List.flatMap_def]
  simp only [Option.bind_eq_bind, Option.bind_some]
  rw [candidateLengths, candidatePositions] at hpieces
  rw [hpieces]
  rfl

theorem mem_bitFieldPairs {f : BitField} : f ∈ bitFieldPairs bits zeroLength ↔
    f.length ∈ candidateLengths bits zeroLength ∧
      (f.position ∈ candidatePositions bits ∧ f.fits bits.toNat = true ∨
        f.position = bits - f.length) := by
  rw [bitFieldPairs_eq, mem_ascending fun f g => BitField.eq_of_before, List.mem_flatMap]
  constructor
  · rintro ⟨length, hlength, hmem⟩
    rcases List.mem_append.1 hmem with hmem | hmem
    · obtain ⟨hmem, hfits⟩ := List.mem_filter.1 hmem
      obtain ⟨position, hposition, rfl⟩ := List.mem_map.1 hmem
      exact ⟨hlength, .inl ⟨hposition, hfits⟩⟩
    · rw [List.mem_singleton.1 hmem]
      exact ⟨hlength, .inr rfl⟩
  · rintro ⟨hlength, h⟩
    refine ⟨f.length, hlength, List.mem_append.2 ?_⟩
    rcases h with ⟨hposition, hfits⟩ | htop
    · exact .inl (List.mem_filter.2 ⟨List.mem_map.2 ⟨f.position, hposition, rfl⟩, hfits⟩)
    · exact .inr (List.mem_singleton.2 (htop ▸ rfl))

/-- **The fields in numbers.** -/
theorem mem_map_toPair (h8 : 8 ≤ bits.toNat) (hbits : bits.toNat ≤ 2 ^ 31) :
    (p, l) ∈ (bitFieldPairs bits zeroLength).map BitField.toPair ↔
      l ∈ fieldLengths bits.toNat zeroLength ∧
        (p ∈ fieldPositions bits.toNat ∧ p + l ≤ bits.toNat ∨ p = bits.toNat - l) := by
  have hpos : 1 ≤ bits.toNat := Nat.le_trans (by decide) h8
  rw [← map_toNat_candidateLengths hpos, ← map_toNat_candidatePositions hpos, List.mem_map]
  constructor
  · rintro ⟨⟨position, length⟩, hmem, heq⟩
    obtain ⟨rfl, rfl⟩ := Prod.mk.inj heq
    obtain ⟨hlength, h⟩ := mem_bitFieldPairs.1 hmem
    obtain ⟨hle, hsum⟩ := candidates_bounded h8 hbits hlength
    refine ⟨List.mem_map_of_mem hlength, h.imp ?_ ?_⟩
    · rintro ⟨hposition, hfits⟩
      exact ⟨List.mem_map_of_mem hposition, (BitField.fits_iff (hsum _ hposition)).1 hfits⟩
    · rintro htop
      exact htop ▸ Count.toNat_sub hle
  · rintro ⟨hl, h⟩
    obtain ⟨length, hlength, rfl⟩ := List.mem_map.1 hl
    obtain ⟨hle, hsum⟩ := candidates_bounded h8 hbits hlength
    rcases h with ⟨hp, hfits⟩ | rfl
    · obtain ⟨position, hposition, rfl⟩ := List.mem_map.1 hp
      have hfits := (BitField.fits_iff (hsum _ hposition)).2 hfits
      exact ⟨⟨position, length⟩, mem_bitFieldPairs.2 ⟨hlength, .inl ⟨hposition, hfits⟩⟩, rfl⟩
    · exact ⟨⟨bits - length, length⟩, mem_bitFieldPairs.2 ⟨hlength, .inr rfl⟩,
        Prod.ext (Count.toNat_sub hle) rfl⟩

theorem pairwise_map_toPair (bits : UInt32) (zeroLength : Bool) :
    ((bitFieldPairs bits zeroLength).map BitField.toPair).Pairwise fun x y =>
      x.1 < y.1 ∨ x.1 = y.1 ∧ x.2 < y.2 := by
  refine List.pairwise_map.2 ((pairwise_ascending BitField.before_trans _).imp fun {f g} hbefore => ?_)
  rw [BitField.before_iff, UInt32.lt_iff_toNat_lt, UInt32.lt_iff_toNat_lt, ← UInt32.toNat_inj] at hbefore
  exact hbefore

/-- **Which bit fields are tested**, on a word of 8 to `2 ^ 31` bits. None of the sums and differences that
are computed leaves the range of its 32-bit counts. The fields are listed by ascending position, and those
at one position by ascending length. There is one of each length at each position at which it fits, and one
that ends at the top bit, and there are no others. So no field is listed twice, all fit, each length occurs
both at the lowest bit and at the top, and an empty field occurs if it is asked for. -/
theorem bitFieldPairs_enumerates (bits : UInt32) (zeroLength : Bool) (h8 : 8 ≤ bits.toNat)
    (hbits : bits.toNat ≤ 2 ^ 31) :
    bitFieldPairs? bits zeroLength = some (bitFieldPairs bits zeroLength) ∧
    let pairs := (bitFieldPairs bits zeroLength).map BitField.toPair
    let positions := fieldPositions bits.toNat
    let lengths := fieldLengths bits.toNat zeroLength
    pairs.Pairwise (fun x y => x.1 < y.1 ∨ x.1 = y.1 ∧ x.2 < y.2) ∧
    (∀ p l, (p, l) ∈ pairs ↔
      l ∈ lengths ∧ (p ∈ positions ∧ p + l ≤ bits.toNat ∨ p = bits.toNat - l)) ∧
    pairs.Nodup ∧
    (∀ p l, (p, l) ∈ pairs → p + l ≤ bits.toNat) ∧
    (∀ l ∈ lengths, (0, l) ∈ pairs ∧ (bits.toNat - l, l) ∈ pairs) ∧
    ((∃ p, (p, 0) ∈ pairs) ↔ zeroLength = true) := by
  refine ⟨bitFieldPairs?_eq h8 hbits, ?_⟩
  intro pairs positions lengths
  have hmem : ∀ p l, (p, l) ∈ pairs ↔
      l ∈ lengths ∧ (p ∈ positions ∧ p + l ≤ bits.toNat ∨ p = bits.toNat - l) :=
    fun p l => mem_map_toPair h8 hbits
  have hsorted : pairs.Pairwise fun x y => x.1 < y.1 ∨ x.1 = y.1 ∧ x.2 < y.2 :=
    pairwise_map_toPair bits zeroLength
  have hlengths : ∀ l ∈ lengths, l ≤ bits.toNat := fun l => le_of_mem_fieldLengths h8
  refine ⟨hsorted, hmem, hsorted.imp ?_, fun p l h => ?_, fun l hl => ?_, ?_⟩
  · rintro x y h rfl
    omega
  · obtain ⟨hl, h⟩ := (hmem p l).1 h
    have := hlengths l hl
    omega
  · have hzero : 0 ∈ positions := List.mem_cons_self
    have hfits : 0 + l ≤ bits.toNat := by simpa using hlengths l hl
    exact ⟨(hmem _ _).2 ⟨hl, .inl ⟨hzero, hfits⟩⟩, (hmem _ _).2 ⟨hl, .inr rfl⟩⟩
  · rw [← zero_mem_fieldLengths h8]
    constructor
    · rintro ⟨p, hp⟩
      exact ((hmem p 0).1 hp).1
    · intro hzero
      exact ⟨_, (hmem _ 0).2 ⟨hzero, .inr rfl⟩⟩

/-- On the widest word, the sum of the greatest position and the greatest length is the greatest count. A
field of half the width fits in the middle, and one of two bits is not tried. -/
theorem bitFieldPairs_enumerates_widest :
    let bits : UInt32 := 0x80000000
    let pairs := (bitFieldPairs bits false).map BitField.toPair
    8 ≤ bits.toNat ∧ bits.toNat ≤ 2 ^ 31 ∧ (bitFieldPairs? bits false).isSome = true ∧
      pairs.Nodup ∧ (0x40000000, 0x40000000) ∈ pairs ∧ ¬ (∃ p, (p, 2) ∈ pairs) ∧
      ¬ ∃ p, (p, 0) ∈ pairs := by
  intro bits pairs
  have h8 : 8 ≤ bits.toNat := by decide
  have hbits : bits.toNat ≤ 2 ^ 31 := by decide
  obtain ⟨hdefined, -, hmem, hnodup, -, -, hzero⟩ := bitFieldPairs_enumerates bits false h8 hbits
  refine ⟨h8, hbits, by rw [hdefined]; rfl, hnodup, (hmem _ _).2 (by decide), ?_, ?_⟩
  · rintro ⟨p, hp⟩
    exact absurd ((hmem _ _).1 hp).1 (by decide)
  · rw [hzero]
    decide

end Crosscheck
