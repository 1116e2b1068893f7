import Crosscheck.Catalog.Registry
import Crosscheck.Proofs.List
import Crosscheck.Proofs.Text.Split

/-!
# Crosscheck.Proofs.Catalog.Decoding

**Opcodes read back.** An opcode is a mnemonic, a dot and a type name. What is decoded is always a
pair of the catalog that is written so (`of_decodeOpcode?`), and with types that have names of their
own nothing is missed (`decodeOpcode?_eq_none_iff`). A text may still be the opcode of several pairs.
If type names have no dots in them, the last dot separates the two parts, and in a catalog without
repeated mnemonics the opcode of an operation on a type is decoded as that operation and that type
(`decodeOpcode?_opcode`).
-/

namespace Crosscheck

/-- A catalog whose opcodes can be told apart. -/
structure Registry.Unambiguous (r : Registry) : Prop where
  /-- No two operations are written alike. -/
  mnemonics : (r.operations.map (·.mnemonic)).Nodup
  /-- No two types have one name. -/
  names : (r.types.map (·.name)).Nodup
  /-- The name of a type is what follows the last dot. -/
  dotless : ∀ t ∈ r.types, '.' ∉ t.name.toList

namespace Registry

variable {r : Registry} {op : Operation} {t : ElementType} {text : String}

theorem toList_opcode (op : Operation) (t : ElementType) :
    (op.opcode t).toList = op.mnemonic.toList ++ '.' :: t.name.toList := by
  simp [Operation.opcode]

/-! ### One operation -/

/-- What an operation takes a text for: its own opcode on a type that it supports. -/
theorem of_typeOfOpcode? (h : r.typeOfOpcode? op text = some t) :
    t ∈ r.types ∧ op.supports t = true ∧ op.opcode t = text := by
  obtain ⟨suffix, hsuffix, htype⟩ := Option.bind_eq_some_iff.1 h
  obtain ⟨found, hfound, hsupports⟩ := Option.bind_eq_some_iff.1 htype
  rw [Option.ite_none_right_eq_some] at hsupports
  obtain ⟨hsupports, heq⟩ := hsupports
  obtain rfl : found = t := Option.some.inj heq
  have hname : found.name.toList = suffix := by
    rw [eq_of_beq (List.find?_some hfound :), String.toList_ofList]
  refine ⟨List.mem_of_find?_eq_some hfound, hsupports, String.toList_inj.1 ?_⟩
  rw [toList_opcode, hname, Text.dropPrefix?_eq_some_iff.1 hsuffix]
  simp

theorem typeNamed?_name (hnames : (r.types.map (·.name)).Nodup) (ht : t ∈ r.types) :
    r.typeNamed? t.name = some t :=
  find?_of_nodup_map hnames ht

theorem typeOfOpcode?_opcode (hnames : (r.types.map (·.name)).Nodup) (ht : t ∈ r.types)
    (hs : op.supports t = true) : r.typeOfOpcode? op (op.opcode t) = some t := by
  have hsuffix : Text.dropPrefix? (op.mnemonic.toList ++ ['.']) (op.opcode t).toList =
      some t.name.toList := by
    rw [Text.dropPrefix?_eq_some_iff, toList_opcode]
    simp
  simp [typeOfOpcode?, hsuffix, typeNamed?_name hnames ht, hs]

/-- An opcode names no type to an operation that is written differently. -/
theorem typeOfOpcode?_of_mnemonic_ne {other : Operation} (h : r.Unambiguous) (ht : t ∈ r.types)
    (hne : other.mnemonic ≠ op.mnemonic) : r.typeOfOpcode? other (op.opcode t) = none := by
  rw [typeOfOpcode?]
  cases hsuffix : Text.dropPrefix? (other.mnemonic.toList ++ ['.']) (op.opcode t).toList with
  | none => rfl
  | some suffix =>
      have hnamed : r.typeNamed? (String.ofList suffix) = none := by
        refine List.find?_eq_none.2 fun found hfound hname => hne ?_
        obtain rfl : suffix = found.name.toList := by
          rw [eq_of_beq hname, String.toList_ofList]
        rw [Text.dropPrefix?_eq_some_iff, toList_opcode] at hsuffix
        have hparts := Text.append_cons_inj (by simpa using hsuffix) (h.dotless t ht)
          (h.dotless found hfound)
        exact String.toList_inj.1 hparts.1.symm
      simp [hnamed]

/-! ### The catalog -/

/-- **What is decoded is a pair of the catalog that is written so.** -/
theorem of_decodeOpcode? (h : r.decodeOpcode? text = some (op, t)) :
    op ∈ r.operations ∧ t ∈ r.types ∧ op.supports t = true ∧ op.opcode t = text := by
  rw [decodeOpcode?] at h
  obtain ⟨found, hfound, hdecoded⟩ := List.exists_of_findSome?_eq_some h
  obtain ⟨type, htype, heq⟩ := Option.map_eq_some_iff.1 hdecoded
  obtain ⟨rfl, rfl⟩ := Prod.mk.inj heq
  exact ⟨hfound, of_typeOfOpcode? htype⟩

/-- **Nothing is missed** where types have names of their own: a text that is not decoded is not the
opcode of any operation on a type that it supports. -/
theorem decodeOpcode?_eq_none_iff (hnames : (r.types.map (·.name)).Nodup) :
    r.decodeOpcode? text = none ↔
      ∀ op ∈ r.operations, ∀ t ∈ r.types, op.supports t = true → op.opcode t ≠ text := by
  constructor
  · rintro hnone op hop t ht hs rfl
    have hop := List.findSome?_eq_none_iff.1 hnone op hop
    rw [typeOfOpcode?_opcode hnames ht hs] at hop
    cases hop
  · intro hnone
    cases hdecoded : r.decodeOpcode? text with
    | none => rfl
    | some pair =>
        obtain ⟨hop, ht, hs, heq⟩ := of_decodeOpcode? hdecoded
        exact absurd heq (hnone pair.1 hop pair.2 ht hs)

/-- **The opcode of an operation on a type is decoded as that operation and that type.** -/
theorem decodeOpcode?_opcode (h : r.Unambiguous) (hop : op ∈ r.operations) (ht : t ∈ r.types)
    (hs : op.supports t = true) : r.decodeOpcode? (op.opcode t) = some (op, t) := by
  obtain ⟨before, after, hsplit⟩ := List.append_of_mem hop
  have hbefore : ∀ other ∈ before, other.mnemonic ≠ op.mnemonic := by
    intro other hother heq
    have hnodup := h.mnemonics
    rw [hsplit, List.map_append, List.map_cons] at hnodup
    exact (List.nodup_append.1 hnodup).2.2 _ (List.mem_map_of_mem hother) _ (by simp) heq
  rw [decodeOpcode?, List.findSome?_eq_some_iff]
  refine ⟨before, op, after, hsplit, ?_, ?_⟩
  · simp [typeOfOpcode?_opcode h.names ht hs]
  · intro other hother
    simp [typeOfOpcode?_of_mnemonic_ne h ht (hbefore other hother)]

theorem builtin_unambiguous (policy : ShiftPolicy) : (builtin policy).Unambiguous where
  mnemonics := by
    show (Operation.builtin.map (·.mnemonic)).Nodup
    decide
  names := by
    show (ElementType.builtin.map (·.name)).Nodup
    decide
  dotless := by
    show ∀ t ∈ ElementType.builtin, '.' ∉ t.name.toList
    decide

/-- **Decoding is the inverse of writing opcodes.** What is decoded is a pair of the catalog, supported
and written so. Where types have names of their own, a text is decoded unless no supported pair is
written so. Where moreover no type name has a dot and mnemonics are not repeated, as in the built-in
catalog, every supported pair is decoded from its opcode, so no two of them have one in common. -/
theorem decodeOpcode?_inverts_opcode (r : Registry) :
    (∀ text op t, r.decodeOpcode? text = some (op, t) →
      op ∈ r.operations ∧ t ∈ r.types ∧ op.supports t = true ∧ op.opcode t = text) ∧
    ((r.types.map (·.name)).Nodup → ∀ text, r.decodeOpcode? text = none ↔
      ∀ op ∈ r.operations, ∀ t ∈ r.types, op.supports t = true → op.opcode t ≠ text) ∧
    (r.Unambiguous → ∀ op ∈ r.operations, ∀ t ∈ r.types, op.supports t = true →
      r.decodeOpcode? (op.opcode t) = some (op, t) ∧
        ∀ op' ∈ r.operations, ∀ t' ∈ r.types, op'.supports t' = true →
          op'.opcode t' = op.opcode t → op' = op ∧ t' = t) ∧
    ∀ policy, (builtin policy).Unambiguous := by
  refine ⟨fun text op t => of_decodeOpcode?, fun hnames text => decodeOpcode?_eq_none_iff hnames,
    fun h op hop t ht hs => ⟨decodeOpcode?_opcode h hop ht hs, ?_⟩, builtin_unambiguous⟩
  intro op' hop' t' ht' hs' heq
  have hdecoded := decodeOpcode?_opcode h hop' ht' hs'
  rw [heq, decodeOpcode?_opcode h hop ht hs, Option.some.injEq, Prod.mk.injEq] at hdecoded
  exact ⟨hdecoded.1.symm, hdecoded.2.symm⟩

/-- A catalog in which one mnemonic is the beginning of the other, and what the longer one adds is
also the name of a type. -/
def nestedMnemonics : Registry where
  types := [.ofWidth "u32" 32 .unsigned, .ofWidth "lo" 16 .unsigned]
  operations :=
    [⟨.mul, "mul", .binary, .binary, [.unsigned], [16, 32]⟩,
      ⟨.mulLow, "mul.lo", .binary, .binary, [.unsigned], [16, 32]⟩]
  shiftPolicy := .clamp
  types_ne_nil := by simp
  operations_ne_nil := by simp
  wellFormed := by decide

theorem decodeOpcode?_inverts_opcode_nested :
    let r := nestedMnemonics
    let mul : Operation := ⟨.mul, "mul", .binary, .binary, [.unsigned], [16, 32]⟩
    let mulLow : Operation := ⟨.mulLow, "mul.lo", .binary, .binary, [.unsigned], [16, 32]⟩
    let word := ElementType.ofWidth "u32" 32 .unsigned
    let half := ElementType.ofWidth "lo" 16 .unsigned
    r.Unambiguous ∧ r.decodeOpcode? "mul.lo" = some (mul, half) ∧
      r.decodeOpcode? "mul.lo.u32" = some (mulLow, word) ∧
      r.decodeOpcode? "mul.lo.lo" = some (mulLow, half) ∧ r.decodeOpcode? "mul.u16" = none := by
  intro r mul mulLow word half
  have hnames : (r.types.map (·.name)).Nodup := by decide
  have h : r.Unambiguous := ⟨by decide, hnames, by decide⟩
  obtain ⟨-, hnone, hpairs, -⟩ := decodeOpcode?_inverts_opcode r
  refine ⟨h, (hpairs h mul ?_ half ?_ rfl).1, (hpairs h mulLow ?_ word ?_ rfl).1,
    (hpairs h mulLow ?_ half ?_ rfl).1, (hnone hnames _).2 ?_⟩
  all_goals decide

end Registry

end Crosscheck
