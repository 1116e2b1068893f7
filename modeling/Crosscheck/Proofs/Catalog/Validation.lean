import Crosscheck.Catalog.Registry
import Mathlib.Algebra.Group.Nat.Defs

/-!
# Crosscheck.Proofs.Catalog.Validation

**What a catalog is refused for.** A catalog has to have types and operations, and all its types have to be
valid; the first thing that is missing, or the first type that is not valid, is what it is refused for, and
otherwise it is kept as it is (`Registry.Validates`). Validation is exactly that (`Registry.ofParts_eq_iff`).

A type is valid if it has whole bytes, at most eight of them, and a byte size that spells its width
(`ElementType.Exact`). But the size in bits is computed as a 32-bit count, in which the three highest bits of
a byte size are lost, so what is checked is `ElementType.counted`, the type without them. These are the same
for all byte sizes that make a 32-bit count of bits. Beyond that a type with a byte size of more than half a
billion passes for one of a few bytes (`Registry.ofParts_overlooks`).
-/

namespace Crosscheck

namespace ElementType

variable {t : ElementType}

/-- A valid type: whole bytes, at most eight of them, and a byte size that spells the width. -/
structure Exact (t : ElementType) : Prop where
  /-- There is a byte. -/
  eight_le : 8 ≤ t.bits
  /-- A word holds all bits. -/
  le_64 : t.bits ≤ 64
  /-- There are whole bytes. -/
  whole : t.bits % 8 = 0
  /-- The bytes have as many bits as the type. -/
  bytes : t.bytes.toNat * 8 = t.bits

/-- The type with the byte size that is left of its own in a 32-bit count of bits. -/
def counted (t : ElementType) : ElementType := { t with bytes := t.bytes % 0x20000000 }

theorem toNat_bytes_counted (t : ElementType) : t.counted.bytes.toNat = t.bytes.toNat % 2 ^ 29 :=
  rfl

/-- What is checked of a type is that it is valid as far as its bits are counted. -/
theorem wellFormed_iff : t.WellFormed ↔ t.counted.Exact := by
  have hcount : t.bits ≤ 64 → (t.bytes * 8 = UInt32.ofNat t.bits ↔
      t.bytes.toNat % 2 ^ 29 * 8 = t.bits) := by
    intro h64
    have hbits : (UInt32.ofNat t.bits).toNat = t.bits := UInt32.toNat_ofNat_of_lt' (by
      rw [UInt32.size]
      omega)
    have hbytes : (t.bytes * 8).toNat = t.bytes.toNat * 8 % 2 ^ 32 := UInt32.toNat_mul _ _
    rw [← UInt32.toNat_inj, hbits, hbytes]
    omega
  constructor
  · rintro ⟨hpos, h64, hwhole, hbytes⟩
    exact ⟨show 8 ≤ t.bits by omega, h64, hwhole, (hcount h64).1 hbytes⟩
  · rintro ⟨h8, h64, hwhole, hbytes⟩
    exact ⟨Nat.lt_of_lt_of_le (by decide) h8, h64, hwhole, (hcount h64).2 hbytes⟩

/-- If the bits of the byte size can be counted, nothing is lost. -/
theorem counted_eq_self (h : t.bytes.toNat * 8 < 2 ^ 32) : t.counted = t := by
  have hbytes : t.bytes % 0x20000000 = t.bytes := by
    rw [← UInt32.toNat_inj]
    exact (toNat_bytes_counted t).trans (Nat.mod_eq_of_lt (by omega))
  rw [counted, hbytes]

/-- A valid type has between one and eight bytes. -/
theorem Exact.bytes_range (h : t.Exact) : 1 ≤ t.bytes.toNat ∧ t.bytes.toNat ≤ 8 := by
  obtain ⟨h8, h64, -, hbytes⟩ := h
  omega

/-- A type that does not pass for a valid one by what is lost passes just if it is valid. -/
theorem wellFormed_iff_exact (h : t.counted.Exact → t.bytes.toNat * 8 < 2 ^ 32) :
    t.WellFormed ↔ t.Exact := by
  rw [wellFormed_iff]
  constructor
  · intro hcounted
    exact counted_eq_self (h hcounted) ▸ hcounted
  · intro hexact
    have hrange := hexact.bytes_range
    rwa [counted_eq_self (by omega)]

end ElementType

namespace Registry

variable {valid other : ElementType → Prop} {types : List ElementType} {operations : List Operation}
  {policy : ShiftPolicy} {outcome : Except CheckError Registry}

/-- What validating a catalog comes to if its types have to be `valid`. -/
inductive Validates (valid : ElementType → Prop) (types : List ElementType)
    (operations : List Operation) (policy : ShiftPolicy) : Except CheckError Registry → Prop
  /-- There are no types. -/
  | noTypes : types = [] → Validates valid types operations policy (.error (.emptyCatalog "types"))
  /-- There are types, but no operations. -/
  | noOperations : types ≠ [] → operations = [] →
      Validates valid types operations policy (.error (.emptyCatalog "operations"))
  /-- There are both, and a type is the first one that is not valid. -/
  | invalidType {before after : List ElementType} {t : ElementType} : operations ≠ [] →
      types = before ++ t :: after → (∀ u ∈ before, valid u) → ¬ valid t →
      Validates valid types operations policy (.error (.invalidType t.name t.bits t.bytes))
  /-- There are both, and all types are valid. -/
  | kept {r : Registry} : types ≠ [] → operations ≠ [] → (∀ t ∈ types, valid t) →
      r.types = types → r.operations = operations → r.shiftPolicy = policy →
      Validates valid types operations policy (.ok r)

/-- Only what is valid among the types of the catalog matters. -/
theorem Validates.congr (h : Validates valid types operations policy outcome)
    (hiff : ∀ t ∈ types, valid t ↔ other t) : Validates other types operations policy outcome := by
  cases h with
  | noTypes htypes => exact .noTypes htypes
  | noOperations htypes hoperations => exact .noOperations htypes hoperations
  | invalidType hoperations hsplit hbefore ht =>
      refine .invalidType hoperations hsplit (fun u hu => (hiff u ?_).1 (hbefore u hu)) ?_
      · exact hsplit ▸ List.mem_append_left _ hu
      · exact fun hother => ht ((hiff _ (by simp [hsplit])).2 hother)
  | kept htypes hoperations hvalid htypes' hoperations' hpolicy =>
      exact .kept htypes hoperations (fun t ht => (hiff t ht).1 (hvalid t ht)) htypes' hoperations' hpolicy

/-- Two catalogs of the same types, operations and policy are the same. -/
theorem eq_of_parts {r s : Registry} (htypes : r.types = s.types)
    (hoperations : r.operations = s.operations) (hpolicy : r.shiftPolicy = s.shiftPolicy) : r = s := by
  cases r
  cases s
  cases htypes
  cases hoperations
  cases hpolicy
  rfl

theorem validates_ofParts (types : List ElementType) (operations : List Operation)
    (policy : ShiftPolicy) :
    Validates ElementType.WellFormed types operations policy (ofParts types operations policy) := by
  rw [ofParts]
  split
  case isTrue htypes => exact .noTypes htypes
  case isFalse htypes =>
    split
    case isTrue hoperations => exact .noOperations htypes hoperations
    case isFalse hoperations =>
      split
      case h_1 t hfound =>
        obtain ⟨hinvalid, before, after, rfl, hbefore⟩ := List.find?_eq_some_iff_append.1 hfound
        exact .invalidType hoperations rfl (fun u hu => by simpa using hbefore u hu)
          (by simpa using hinvalid)
      case h_2 hnone =>
        refine .kept htypes hoperations (fun t ht => ?_) rfl rfl rfl
        simpa using List.find?_eq_none.1 hnone t ht

theorem ofParts_of_validates (h : Validates ElementType.WellFormed types operations policy outcome) :
    ofParts types operations policy = outcome := by
  cases h with
  | noTypes htypes => rw [ofParts, dif_pos htypes]
  | noOperations htypes hoperations => rw [ofParts, dif_neg htypes, dif_pos hoperations]
  | @invalidType before after t hoperations hsplit hbefore ht =>
      have htypes : types ≠ [] := by simp [hsplit]
      have hfound : types.find? (fun t => !decide t.WellFormed) = some t :=
        List.find?_eq_some_iff_append.2
          ⟨by simpa using ht, before, after, hsplit, fun u hu => by simpa using hbefore u hu⟩
      rw [ofParts, dif_neg htypes, dif_neg hoperations]
      split
      case h_1 u hu =>
        obtain rfl : u = t := Option.some.inj (hu.symm.trans hfound)
        rfl
      case h_2 hnone => cases hnone.symm.trans hfound
  | @kept r htypes hoperations hvalid htypes' hoperations' hpolicy =>
      rw [ofParts, dif_neg htypes, dif_neg hoperations]
      split
      case h_1 u hu =>
        exact absurd (hvalid u (List.mem_of_find?_eq_some hu)) (by simpa using List.find?_some hu)
      case h_2 =>
        exact congrArg Except.ok (eq_of_parts htypes'.symm hoperations'.symm hpolicy.symm)

/-- **Validation is exact, as far as the bits of a type can be counted.** For all lists of types and
operations, a catalog is refused for having no types, else for having no operations, else for its first
type that is not valid, and is kept as it is otherwise; where a type is taken for valid if it is without the
bits of its byte size that a 32-bit count of bits loses. Unless a type passes that loses some, only valid
types are taken for valid, and in a catalog that is kept all types have between one and eight bytes. The
widths in a catalog are those of one to eight bytes in any case. -/
theorem ofParts_eq_iff (types : List ElementType) (operations : List Operation) (policy : ShiftPolicy) :
    (∀ outcome, ofParts types operations policy = outcome ↔
      Validates (·.counted.Exact) types operations policy outcome) ∧
    (∀ r : Registry, ∀ t ∈ r.types, 8 ≤ t.bits ∧ t.bits ≤ 64) ∧
    ((∀ t ∈ types, t.counted.Exact → t.bytes.toNat * 8 < 2 ^ 32) →
      (∀ outcome, ofParts types operations policy = outcome ↔
        Validates ElementType.Exact types operations policy outcome) ∧
      ∀ r, ofParts types operations policy = .ok r →
        ∀ t ∈ r.types, 1 ≤ t.bytes.toNat ∧ t.bytes.toNat ≤ 8) := by
  have hwell : ∀ outcome, ofParts types operations policy = outcome ↔
      Validates ElementType.WellFormed types operations policy outcome := fun outcome =>
    ⟨fun h => h ▸ validates_ofParts types operations policy, ofParts_of_validates⟩
  refine ⟨fun outcome => ?_, fun r t ht => ?_, fun hcount => ?_⟩
  · rw [hwell]
    exact ⟨(·.congr fun _ _ => ElementType.wellFormed_iff),
      (·.congr fun _ _ => ElementType.wellFormed_iff.symm)⟩
  · have hexact := ElementType.wellFormed_iff.1 (r.wellFormed t ht)
    exact ⟨hexact.eight_le, hexact.le_64⟩
  · have hiff : ∀ t ∈ types, t.WellFormed ↔ t.Exact := fun t ht =>
      ElementType.wellFormed_iff_exact (hcount t ht)
    refine ⟨fun outcome => ?_, fun r hr t ht => ?_⟩
    · rw [hwell]
      exact ⟨(·.congr hiff), (·.congr fun t ht => (hiff t ht).symm)⟩
    · have hvalidates := (hwell _).1 hr
      cases hvalidates with
      | kept _ _ _ htypes => exact ((hiff t (htypes ▸ ht)).1 (r.wellFormed t ht)).bytes_range

/-- Of two types that are not valid the first one is reported, although its byte size loses bits, and a
catalog without operations is refused before its types are looked at. -/
theorem ofParts_eq_iff_refused :
    let byte := ElementType.ofWidth "u8" 8 .unsigned
    let inexact : ElementType := ⟨"u24", 24, 0x20000002, .unsigned⟩
    let types := [byte, inexact, ⟨"u12", 12, 1, .unsigned⟩]
    (∀ t ∈ types, t.counted.Exact → t.bytes.toNat * 8 < 2 ^ 32) ∧
      ofParts types Operation.builtin .clamp = .error (.invalidType "u24" 24 0x20000002) ∧
      ofParts types [] .clamp = .error (.emptyCatalog "operations") ∧
      (∃ r, ofParts [byte] Operation.builtin .mask = .ok r ∧ r.types = [byte] ∧
        r.operations = Operation.builtin ∧ r.shiftPolicy = .mask) := by
  intro byte inexact types
  have hcount : ∀ t ∈ types, t.counted.Exact → t.bytes.toNat * 8 < 2 ^ 32 := by
    intro t ht hexact
    simp only [types, List.mem_cons, List.not_mem_nil, or_false] at ht
    rcases ht with rfl | rfl | rfl
    · decide
    · exact absurd hexact.bytes (by decide)
    · decide
  have hbyte : ∀ t ∈ [byte], t.counted.Exact → t.bytes.toNat * 8 < 2 ^ 32 :=
    fun t ht => hcount t (List.mem_cons.2 (.inl (List.mem_singleton.1 ht)))
  have hexact : byte.Exact := ⟨by decide, by decide, by decide, by decide⟩
  let kept : Registry := ⟨[byte], Operation.builtin, .mask, by simp, by simp [Operation.builtin], by decide⟩
  obtain ⟨-, -, hrefused⟩ := ofParts_eq_iff types Operation.builtin .clamp
  obtain ⟨-, -, hempty⟩ := ofParts_eq_iff types [] .clamp
  obtain ⟨-, -, hkept⟩ := ofParts_eq_iff [byte] Operation.builtin .mask
  refine ⟨hcount, ((hrefused hcount).1 _).2 ?_, ((hempty hcount).1 _).2 ?_, kept,
    ((hkept hbyte).1 _).2 ?_, rfl, rfl, rfl⟩
  · have hsplit : types = [byte] ++ inexact :: [⟨"u12", 12, 1, .unsigned⟩] := rfl
    exact .invalidType (by simp [Operation.builtin]) hsplit (by simpa using hexact)
      fun h => absurd h.bytes (by decide)
  · exact .noOperations (by simp [types]) rfl
  · exact .kept (by simp) (by simp [Operation.builtin]) (by simpa using hexact) rfl rfl rfl

/-- A type of eight bits and 536 870 913 bytes is taken for one of a single byte. -/
theorem ofParts_overlooks :
    let t : ElementType := ⟨"u8", 8, 0x20000001, .unsigned⟩
    t.bytes.toNat = 536870913 ∧ ¬ t.Exact ∧
      (∃ r, ofParts [t] Operation.builtin .clamp = .ok r ∧ t ∈ r.types) ∧
      ¬ Validates ElementType.Exact [t] Operation.builtin .clamp
        (ofParts [t] Operation.builtin .clamp) := by
  intro t
  have hbytes : t.bytes.toNat = 536870913 := rfl
  have hexact : ¬ t.Exact := fun h => absurd h.bytes (by rw [hbytes]; decide)
  let r : Registry := ⟨[t], Operation.builtin, .clamp, by simp, by simp [Operation.builtin], by decide⟩
  have hkept : ofParts [t] Operation.builtin .clamp = .ok r :=
    ofParts_of_validates (.kept (by simp) (by simp [Operation.builtin]) r.wellFormed rfl rfl rfl)
  refine ⟨hbytes, hexact, ⟨r, hkept, by simp [r]⟩, fun h => ?_⟩
  rw [hkept] at h
  cases h with
  | kept _ _ hvalid => exact hexact (hvalid t (by simp))

end Registry

end Crosscheck
