import Crosscheck.Proofs.Catalog.Decoding
import Crosscheck.Proofs.Matrix.Hosted
import Crosscheck.Proofs.Order
import Crosscheck.Proofs.Text.Numeral
import Mathlib.Data.List.Nodup

/-!
# Crosscheck.Proofs.Matrix.Naming

**The name of a point says which point it is.** A name is the identifier of a template, an opcode and
maybe a bit field, with slashes between them. Identifiers are arbitrary texts with slashes of their own,
so a name is read from its end: what follows the last slash is an opcode if there is a dot in it, and a
bit field if there is none. The parts of a name are therefore unique (`Point.nameOf_inj`), and because a
matrix enumerates no combination twice (`Matrix.nodup_triples`), no two points have a name in common.
-/

namespace Crosscheck

/-- A catalog whose opcodes have no slashes in them. -/
structure Registry.Slashless (r : Registry) : Prop where
  /-- Mnemonics have none. -/
  mnemonics : ∀ op ∈ r.operations, '/' ∉ op.mnemonic.toList
  /-- Names of types have none. -/
  names : ∀ t ∈ r.types, '/' ∉ t.name.toList

theorem Registry.builtin_slashless (policy : ShiftPolicy) : (builtin policy).Slashless where
  mnemonics := by
    show ∀ op ∈ Operation.builtin, '/' ∉ op.mnemonic.toList
    decide
  names := by
    show ∀ t ∈ ElementType.builtin, '/' ∉ t.name.toList
    decide

/-! ### Bit fields -/

namespace BitField

variable {f g : BitField}

theorem toList_text (f : BitField) :
    f.text.toList = ('p' :: (Nat.toDigits 10 f.position.toNat ++ ['_'])) ++
      'l' :: Nat.toDigits 10 f.length.toNat := by
  simp [text, Nat.toList_repr]

theorem not_mem_toDigits {n : Nat} {c : Char} (hc : c.isDigit = false) : c ∉ Nat.toDigits 10 n := by
  intro hmem
  rw [Text.isDigit_of_mem_toDigits hmem] at hc
  cases hc

theorem text_injective (heq : f.text = g.text) : f = g := by
  have hlist : f.text.toList = g.text.toList := congrArg String.toList heq
  rw [toList_text, toList_text] at hlist
  obtain ⟨hfront, hlength⟩ :=
    Text.append_cons_inj hlist (not_mem_toDigits rfl) (not_mem_toDigits rfl)
  have hposition := List.append_cancel_right (List.cons.inj hfront).2
  cases f
  cases g
  simp only [mk.injEq]
  exact ⟨UInt32.toNat_inj.1 (Text.toDigits_injective hposition),
    UInt32.toNat_inj.1 (Text.toDigits_injective hlength)⟩

/-- The characters of a written field are digits and the letters around them. -/
theorem not_mem_text {c : Char} (hdigit : c.isDigit = false) (hc : c ∉ ['p', '_', 'l']) :
    c ∉ f.text.toList := by
  simp only [List.mem_cons, List.not_mem_nil, or_false, not_or] at hc
  simp [toList_text, not_mem_toDigits hdigit, hc]

theorem before_iff : f.before g = true ↔
    f.position < g.position ∨ f.position = g.position ∧ f.length < g.length := by
  simp [before]

theorem before_trans (f g h : BitField) (hfg : f.before g = true) (hgh : g.before h = true) :
    f.before h = true := by
  simp only [before_iff, UInt32.lt_iff_toNat_lt, ← UInt32.toNat_inj] at *
  omega

theorem before_irrefl (f : BitField) : f.before f = false := by
  simp [before]

end BitField

/-! ### Parts of a name -/

namespace Point

variable {r : Registry} {id id' : String} {op op' : Operation} {t t' : ElementType}
  {field field' : Option BitField}

/-- The characters of a name: what stands before the last slash, and what stands after it. -/
theorem toList_nameOf (id : String) (op : Operation) (t : ElementType) (field : Option BitField) :
    (nameOf id op t field).toList =
      match field with
      | some f => (id.toList ++ '/' :: (op.opcode t).toList) ++ '/' :: f.text.toList
      | none => id.toList ++ '/' :: (op.opcode t).toList := by
  cases field <;> simp [nameOf]

theorem slash_not_mem_opcode (h : r.Slashless) (hop : op ∈ r.operations) (ht : t ∈ r.types) :
    '/' ∉ (op.opcode t).toList := by
  simp [Registry.toList_opcode, h.mnemonics op hop, h.names t ht]

/-- **Equal names have equal parts**: the identifier, the opcode and the bit field, if there is one. -/
theorem nameOf_inj (h : r.Slashless) (hop : op ∈ r.operations) (ht : t ∈ r.types)
    (hop' : op' ∈ r.operations) (ht' : t' ∈ r.types)
    (heq : nameOf id op t field = nameOf id' op' t' field') :
    id = id' ∧ op.opcode t = op'.opcode t' ∧ field = field' := by
  have hslash := slash_not_mem_opcode h hop ht
  have hslash' := slash_not_mem_opcode h hop' ht'
  have hfield : ∀ f : BitField, '/' ∉ f.text.toList := fun f => BitField.not_mem_text rfl (by decide)
  -- an opcode has a dot and is therefore no bit field
  have hdot : ∀ (f : BitField) (op : Operation) (t : ElementType),
      f.text.toList ≠ (op.opcode t).toList := by
    intro f op t hlist
    have hnone : '.' ∉ f.text.toList := BitField.not_mem_text rfl (by decide)
    rw [hlist, Registry.toList_opcode] at hnone
    exact hnone (by simp)
  have hlist := congrArg String.toList heq
  rw [toList_nameOf, toList_nameOf] at hlist
  cases field with
  | none =>
      cases field' with
      | none =>
          obtain ⟨hid, hopcode⟩ := Text.append_cons_inj hlist hslash hslash'
          exact ⟨String.toList_inj.1 hid, String.toList_inj.1 hopcode, rfl⟩
      | some f' => exact absurd (Text.append_cons_inj hlist hslash (hfield f')).2.symm (hdot f' op t)
  | some f =>
      cases field' with
      | none => exact absurd (Text.append_cons_inj hlist (hfield f) hslash').2 (hdot f op' t')
      | some f' =>
          obtain ⟨hfront, htext⟩ := Text.append_cons_inj hlist (hfield f) (hfield f')
          obtain ⟨hid, hopcode⟩ := Text.append_cons_inj hfront hslash hslash'
          exact ⟨String.toList_inj.1 hid, String.toList_inj.1 hopcode,
            congrArg some (BitField.text_injective (String.toList_inj.1 htext))⟩

end Point

/-! ### The matrix -/

namespace Matrix

variable {r : Registry} {t : Template} {o : MatrixOptions} {s : Selection} {c d : Combination}

theorem nodup_fieldsOf (shape : OperationClass) (type : ElementType) (zeroLength : Bool) :
    (fieldsOf shape type zeroLength).Nodup := by
  rw [fieldsOf]
  split
  · exact (nodup_ascending BitField.before_trans BitField.before_irrefl _).map fun f g heq =>
      Option.some.inj heq
  · exact List.nodup_singleton _

/-- **A matrix enumerates no combination twice**, as long as the catalog has no entry twice. -/
theorem nodup_triples (h : r.Unambiguous) (shape : OperationClass) (zeroLength : Bool) :
    (triples r shape zeroLength).Nodup := by
  have hops : (r.operationsIn shape).Nodup := h.mnemonics.of_map.filter _
  have htypes : ∀ op : Operation, (r.types.filter op.supports).Nodup :=
    fun op => h.names.of_map.filter _
  rw [triples, List.nodup_flatMap]
  constructor
  · intro op _
    rw [List.nodup_flatMap]
    constructor
    · intro type _
      exact (nodup_fieldsOf shape type zeroLength).map fun f g heq => by simpa using heq
    · refine (htypes op).imp fun {type type'} hne => ?_
      simp only [Function.onFun, List.disjoint_left, List.mem_map]
      rintro _ ⟨f, -, rfl⟩ ⟨g, -, heq⟩
      simp only [Prod.mk.injEq] at heq
      exact hne heq.2.1.symm
  · refine hops.imp fun {op op'} hne => ?_
    simp only [Function.onFun, List.disjoint_left, List.mem_flatMap, List.mem_map]
    rintro _ ⟨type, -, f, -, rfl⟩ ⟨type', -, g, -, heq⟩
    simp only [Prod.mk.injEq] at heq
    exact hne heq.1.symm

/-- The name of a combination among the triples of a class. -/
def nameOfTriple (id : String) (triple : Operation × ElementType × Option BitField) : String :=
  Point.nameOf id triple.1 triple.2.1 triple.2.2

theorem nameOfTriple_inj (h : r.Unambiguous) (hslash : r.Slashless) {id id' : String}
    {shape shape' : OperationClass} {zeroLength zeroLength' : Bool}
    {p q : Operation × ElementType × Option BitField} (hp : p ∈ triples r shape zeroLength)
    (hq : q ∈ triples r shape' zeroLength') (heq : nameOfTriple id p = nameOfTriple id' q) :
    id = id' ∧ p = q := by
  obtain ⟨op, type, field⟩ := p
  obtain ⟨op', type', field'⟩ := q
  obtain ⟨⟨hop, -⟩, ⟨htype, hsupports⟩, -⟩ := mem_triples.1 hp
  obtain ⟨⟨hop', -⟩, ⟨htype', hsupports'⟩, -⟩ := mem_triples.1 hq
  obtain ⟨hid, hopcode, rfl⟩ := Point.nameOf_inj hslash hop htype hop' htype' heq
  -- the opcode is decoded as both pairs
  have hdecoded := Registry.decodeOpcode?_opcode h hop htype hsupports
  rw [hopcode, Registry.decodeOpcode?_opcode h hop' htype' hsupports', Option.some.injEq,
    Prod.mk.injEq] at hdecoded
  obtain ⟨rfl, rfl⟩ := hdecoded
  exact ⟨hid, rfl⟩

theorem names_eq (r : Registry) (t : Template) (o : MatrixOptions) (s : Selection) :
    names r t o s = (points r t o s).map (·.name) := by
  rw [points, List.map_map]
  rfl

/-- Selecting points leaves some of the names out and keeps the others in order. -/
theorem names_sublist (r : Registry) (t : Template) (o : MatrixOptions) (s : Selection) :
    (names r t o s).Sublist ((triples r t.shape o.zeroLength).map (nameOfTriple t.id)) := by
  have hall : (combinations r t.shape o.zeroLength).map (nameOf t) =
      (triples r t.shape o.zeroLength).map (nameOfTriple t.id) := by
    rw [combinations, List.map_map, ← List.zipIdx_map_fst 0 (triples r t.shape o.zeroLength),
      List.map_map, List.zipIdx_map_fst]
    rfl
  rw [← hall, names, selected]
  split
  · exact List.filter_sublist.map _
  · exact List.nil_sublist _

theorem nodup_names_self (h : r.Unambiguous) (hslash : r.Slashless) (t : Template) (o : MatrixOptions)
    (s : Selection) : (names r t o s).Nodup := by
  refine (names_sublist r t o s).nodup ((nodup_triples h t.shape o.zeroLength).map_on ?_)
  exact fun p hp q hq heq => (nameOfTriple_inj h hslash hp hq heq).2

/-- **Points are told apart by their names.** The points of templates with identifiers of their own,
whatever these are and whatever is selected of the matrices, have names of their own, if the catalog
has neither repeated names nor slashes in them, nor dots in the names of types. -/
theorem nodup_pointNames {ts : List Template} (hids : (ts.map (·.id)).Nodup) (h : r.Unambiguous)
    (hslash : r.Slashless) (o : Template → MatrixOptions) (s : Template → Selection) :
    (ts.flatMap fun t => names r t (o t) (s t)).Nodup := by
  rw [List.nodup_flatMap]
  refine ⟨fun t _ => nodup_names_self h hslash t (o t) (s t), ?_⟩
  refine (List.pairwise_map.1 hids).imp fun {t u} hne => ?_
  simp only [Function.onFun, List.disjoint_left]
  intro name ht hu
  obtain ⟨p, hp, rfl⟩ := List.mem_map.1 ((names_sublist r t _ _).subset ht)
  obtain ⟨q, hq, heq⟩ := List.mem_map.1 ((names_sublist r u _ _).subset hu)
  exact hne (nameOfTriple_inj h hslash hp hq heq.symm).1

/-- The identifier of the second template begins like the names of the first one's points. -/
theorem nodup_pointNames_builtin :
    let extracting : Template := ⟨"a", "k", .bitFieldExtract, ".entry k( ) { <OP> %d, <POS>, <LEN>; }"⟩
    let adding : Template := ⟨"a/bfe.u32", "k", .binary, ".entry k( ) { <OP> %d; }"⟩
    let r := Registry.builtin .clamp
    ([extracting, adding].map (·.id)).Nodup ∧ r.Unambiguous ∧ r.Slashless ∧
      ([extracting, adding].flatMap fun t => names r t ⟨7, 3, true⟩ Selection.all).Nodup := by
  intro extracting adding r
  have hids : ([extracting, adding].map (·.id)).Nodup := by decide
  have h : r.Unambiguous := Registry.builtin_unambiguous .clamp
  have hslash : r.Slashless := Registry.builtin_slashless .clamp
  exact ⟨hids, h, hslash, nodup_pointNames hids h hslash (fun _ => ⟨7, 3, true⟩) fun _ => Selection.all⟩

end Matrix

end Crosscheck
