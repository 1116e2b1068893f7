import Crosscheck.Proofs.Matrix.Hosted
import Crosscheck.Proofs.Template.Marking
import Crosscheck.Template.Store

/-!
# Crosscheck.Proofs.Template.Composite

**Markers that expansion puts together.** Values are copied and never read again, so a value can end up
between brackets that the text has around its placeholder. Of the values that the points of the catalog
have, only numbers can be part of a name, and none has brackets in it (`Matrix.telling_of_mem_points`).
So the markers of a kernel are those that the text of the template spells out up to some numbers
(`Template.occursIn_expand_iff`).
-/

namespace Crosscheck

open MarkerGrammar (placeholder isUpper)

/-! ### Values and names -/

/-- The placeholders that stand for numbers. -/
def numberNames : List String :=
  ["TYPE_SIZE", "TYPE_BITS", "SHIFT_TYPE_SIZE", "SHIFT_TYPE_BITS", "POS", "LEN"]

/-- Digits, at least one. -/
def Numeral (cs : List Char) : Prop :=
  cs ≠ [] ∧ ∀ c ∈ cs, c.isDigit = true

/-- A text that is no part of any name and has no brackets in it. -/
def Foreign (cs : List Char) : Prop :=
  (∃ c ∈ cs, placeholder.later c = false) ∧ '<' ∉ cs ∧ '>' ∉ cs

-- the characters of the text are searched, not all characters there are
instance (cs : List Char) : Decidable (Foreign cs) :=
  @instDecidableAnd _ _ (List.decidableBEx _ cs) inferInstance

/-- The value is a numeral if the placeholder is one of a number, and foreign to names otherwise. -/
def Tells (name : String) (value : List Char) : Prop :=
  if name ∈ numberNames then Numeral value else Foreign value

theorem Foreign.append {cs ds : List Char} (hc : Foreign cs) (hd : Foreign ds) : Foreign (cs ++ ds) := by
  obtain ⟨⟨c, hmem, hlater⟩, hopen, hclose⟩ := hc
  obtain ⟨-, hopen', hclose'⟩ := hd
  exact ⟨⟨c, List.mem_append_left _ hmem, hlater⟩, by simp [hopen, hopen'], by simp [hclose, hclose']⟩

theorem numeral_toString (n : Nat) : Numeral (toString n).toList := by
  show Numeral n.repr.toList
  rw [Nat.toList_repr]
  exact ⟨Nat.toDigits_ne_nil, fun c hc => Text.isDigit_of_mem_toDigits hc⟩

theorem later_of_isDigit {c : Char} (h : c.isDigit = true) : placeholder.later c = true := by
  have hdigit : MarkerGrammar.isDigit c = true := by
    simpa [MarkerGrammar.isDigit, Char.isDigit, Char.le_def] using h
  simp [placeholder, hdigit]

theorem isUpper_of_isDigit {c : Char} (h : c.isDigit = true) : isUpper c = false := by
  simp only [Char.isDigit, Bool.and_eq_true, decide_eq_true_eq, ge_iff_le, UInt32.le_iff_toNat_le] at h
  have hlow : ¬ 'A' ≤ c := by
    rw [Char.le_def, UInt32.le_iff_toNat_le]
    have h57 : c.val.toNat ≤ 57 := h.2
    have h65 : 'A'.val.toNat = 65 := rfl
    omega
  simp [isUpper, hlow]

/-- All characters of a name are further characters. -/
theorem later_of_isName {cs : List Char} (h : placeholder.isName cs = true) :
    ∀ c ∈ cs, placeholder.later c = true := by
  cases cs with
  | nil => cases h
  | cons c cs =>
      rw [MarkerGrammar.isName, Bool.and_eq_true, List.all_eq_true] at h
      intro d hd
      rcases List.mem_cons.1 hd with rfl | hd
      · have hupper : isUpper d = true := h.1
        simp [placeholder, hupper]
      · exact h.2 d hd

theorem Tells.not_bracket {name : String} {value : List Char} (h : Tells name value) :
    '<' ∉ value ∧ '>' ∉ value := by
  unfold Tells at h
  split at h
  · exact ⟨fun hmem => absurd (h.2 _ hmem) (by decide), fun hmem => absurd (h.2 _ hmem) (by decide)⟩
  · exact h.2

/-- No name begins with the value of a placeholder: numerals do not begin like a name, and other values
do not fit into one. -/
theorem Tells.not_isName {name : String} {value : List Char} (h : Tells name value) (rest : List Char) :
    placeholder.isName (value ++ rest) = false := by
  rw [← Bool.not_eq_true]
  intro hname
  unfold Tells at h
  split at h
  · obtain ⟨hne, hdigits⟩ := h
    obtain ⟨d, ds, rfl⟩ := List.exists_cons_of_ne_nil hne
    rw [List.cons_append, MarkerGrammar.isName, Bool.and_eq_true] at hname
    have hupper : isUpper d = true := hname.1
    rw [isUpper_of_isDigit (hdigits d List.mem_cons_self)] at hupper
    cases hupper
  · obtain ⟨c, hc, hstranger⟩ := h.1
    have hlater := later_of_isName hname c (List.mem_append_left _ hc)
    exact Bool.false_ne_true (hstranger.symm.trans hlater)

namespace Segment

variable {segs pieces : List Segment} {value : String → List Char} {before name after : List Char}

/-- The values of all markers tell whether they are numbers. -/
def Telling (value : String → List Char) (segs : List Segment) : Prop :=
  ∀ name, .marker name ∈ segs → Tells (String.ofList name) (value (String.ofList name))

theorem Telling.mono (h : Telling value segs) (hsub : ∀ s ∈ pieces, s ∈ segs) : Telling value pieces :=
  fun name hname => h name (hsub _ hname)

/-- What can be filled with a part of a name: a character of names, or the placeholder of a number. -/
def FitsName : Segment → Prop
  | .literal c => placeholder.later c = true
  | .marker name => String.ofList name ∈ numberNames

instance : (s : Segment) → Decidable s.FitsName
  | .literal c => inferInstanceAs (Decidable (placeholder.later c = true))
  | .marker name => inferInstanceAs (Decidable (String.ofList name ∈ numberNames))

theorem fitsName_iff {s : Segment} (h : Telling value [s]) :
    s.FitsName ↔ ∀ c ∈ s.fill value, placeholder.later c = true := by
  cases s with
  | literal c => simp [FitsName, fill]
  | marker name =>
      have htells := h name List.mem_cons_self
      unfold Tells at htells
      split at htells
      case isTrue hnumber =>
        exact iff_of_true hnumber fun c hc => later_of_isDigit (htells.2 c hc)
      case isFalse hnumber =>
        refine iff_of_false hnumber fun hlater => ?_
        obtain ⟨c, hc, hstranger⟩ := htells.1
        exact Bool.false_ne_true (hstranger.symm.trans (hlater c hc))

/-- A filled text is a name if its first letter is spelled out, and whatever is not is a number. -/
theorem isName_flatMap_fill_iff (h : Telling value segs) :
    placeholder.isName (segs.flatMap (fill value)) = true ↔
      ∃ c pieces, segs = .literal c :: pieces ∧ isUpper c = true ∧ ∀ s ∈ pieces, s.FitsName := by
  have hfits : ∀ s ∈ segs, (s.FitsName ↔ ∀ c ∈ s.fill value, placeholder.later c = true) := by
    intro s hs
    refine fitsName_iff (h.mono fun r hr => ?_)
    rwa [List.mem_singleton.1 hr]
  cases segs with
  | nil => simp [MarkerGrammar.isName]
  | cons s pieces =>
      have hpieces : (∀ s ∈ pieces, s.FitsName) ↔
          ∀ c ∈ pieces.flatMap (fill value), placeholder.later c = true := by
        simp only [List.mem_flatMap]
        constructor
        · rintro hall c ⟨s, hs, hc⟩
          exact (hfits s (List.mem_cons_of_mem _ hs)).1 (hall s hs) c hc
        · intro hall s hs
          exact (hfits s (List.mem_cons_of_mem _ hs)).2 fun c hc => hall c ⟨s, hs, hc⟩
      cases s with
      | literal c =>
          rw [List.flatMap_cons, fill, List.singleton_append, MarkerGrammar.isName, Bool.and_eq_true,
            List.all_eq_true, ← hpieces]
          constructor
          · rintro ⟨hupper, hall⟩
            exact ⟨c, pieces, rfl, hupper, hall⟩
          · rintro ⟨_, _, ⟨⟩, hupper, hall⟩
            exact ⟨hupper, hall⟩
      | marker name =>
          have hnot := (h name List.mem_cons_self).not_isName (pieces.flatMap (fill value))
          rw [List.flatMap_cons, fill, hnot]
          simp

/-- A character that no value has in it is spelled out. -/
theorem exists_literal_of_flatMap_fill {c : Char}
    (hc : ∀ name, .marker name ∈ segs → c ∉ value (String.ofList name))
    (h : segs.flatMap (fill value) = before ++ c :: after) :
    ∃ left right, segs = left ++ .literal c :: right ∧ left.flatMap (fill value) = before ∧
      right.flatMap (fill value) = after := by
  induction segs generalizing before with
  | nil => simp at h
  | cons s segs ih =>
      have hvalues : ∀ name, .marker name ∈ segs → c ∉ value (String.ofList name) :=
        fun name hname => hc name (List.mem_cons_of_mem _ hname)
      rw [List.flatMap_cons] at h
      rcases List.append_eq_append_iff.1 h with ⟨between, rfl, hrest⟩ | ⟨between, hfill, hrest⟩
      · obtain ⟨left, right, rfl, rfl, hright⟩ := ih hvalues hrest
        exact ⟨s :: left, right, rfl, List.flatMap_cons, hright⟩
      · cases between with
        | nil =>
            have hbegins : segs.flatMap (fill value) = [] ++ c :: after := hrest.symm
            obtain ⟨left, right, rfl, hleft, hright⟩ := ih hvalues hbegins
            exact ⟨s :: left, right, rfl, by simp [hfill, hleft], hright⟩
        | cons d between =>
            obtain ⟨rfl, rfl⟩ := List.cons.inj hrest
            cases s with
            | marker name =>
                have hmem : c ∈ value (String.ofList name) := by
                  have hvalue : value (String.ofList name) = before ++ c :: between := hfill
                  simp [hvalue]
                exact absurd hmem (hc name List.mem_cons_self)
            | literal e =>
                obtain ⟨rfl, hsingle⟩ | ⟨between', rfl, hnil⟩ :=
                  List.append_eq_cons_iff.1 (show before ++ c :: between = [e] from hfill.symm)
                · obtain ⟨rfl, rfl⟩ := List.cons.inj hsingle
                  exact ⟨[], segs, rfl, rfl, rfl⟩
                · simp at hnil

/-- The markers of a filled text: both brackets are spelled out, and so is the first letter. -/
theorem occursIn_flatMap_fill_iff (h : Telling value segs) :
    placeholder.OccursIn before name after (segs.flatMap (fill value)) ↔
      ∃ left c pieces right,
        segs = left ++ .literal '<' :: (.literal c :: pieces ++ .literal '>' :: right) ∧
        isUpper c = true ∧ (∀ s ∈ pieces, s.FitsName) ∧ left.flatMap (fill value) = before ∧
        c :: pieces.flatMap (fill value) = name ∧ right.flatMap (fill value) = after := by
  constructor
  · rintro ⟨hname, htext⟩
    obtain ⟨left, rest, rfl, hleft, hrest⟩ :=
      exists_literal_of_flatMap_fill (fun name hname => (h name hname).not_bracket.1) htext
    have hinside : Telling value rest :=
      h.mono fun s hs => List.mem_append_right _ (List.mem_cons_of_mem _ hs)
    obtain ⟨inner, right, rfl, rfl, hright⟩ :=
      exists_literal_of_flatMap_fill (fun name hname => (hinside name hname).not_bracket.2) hrest
    have hinner : Telling value inner := hinside.mono fun s hs => List.mem_append_left _ hs
    obtain ⟨c, pieces, rfl, hupper, hpieces⟩ := (isName_flatMap_fill_iff hinner).1 hname
    exact ⟨left, c, pieces, right, rfl, hupper, hpieces, hleft, rfl, hright⟩
  · rintro ⟨left, c, pieces, right, rfl, hupper, hpieces, rfl, rfl, rfl⟩
    have hinner : Telling value (.literal c :: pieces) :=
      h.mono fun s hs => List.mem_append_right _ (List.mem_cons_of_mem _ (List.mem_append_left _ hs))
    exact ⟨(isName_flatMap_fill_iff hinner).2 ⟨c, pieces, rfl, hupper, hpieces⟩, by simp [fill]⟩

end Segment

/-! ### Forms of a text -/

/-- Where the form of a text has a marker with some numbers left open: the text before it, the first
letter of the name, the rest of the name, and the text after it. -/
structure Composite (left : List Segment) (c : Char) (pieces right segs : List Segment) : Prop where
  segs_eq : segs = left ++ .literal '<' :: (.literal c :: pieces ++ .literal '>' :: right)
  isUpper : isUpper c = true
  fitsName : ∀ s ∈ pieces, s.FitsName
  /-- There is a number in it. -/
  number : ∃ name, .marker name ∈ pieces

namespace MarkerGrammar.Marks

variable {segs : List Segment} {text : List Char}

/-- The form of a text without some first segments is a form of the rest. -/
theorem drop {left : List Segment} (h : placeholder.Marks text (left ++ segs)) :
    placeholder.Marks (segs.flatMap Segment.text) segs := by
  induction left generalizing text with
  | nil =>
      have htext : segs.flatMap Segment.text = text := h.text_eq
      rwa [htext]
  | cons s left ih =>
      obtain rfl := h.text_eq
      exact ih h.tail

/-- A name that is spelled out in full would be marked, so there is a number in it. -/
theorem exists_marker {left pieces right : List Segment} {c : Char}
    (h : placeholder.Marks text
      (left ++ .literal '<' :: (.literal c :: pieces ++ .literal '>' :: right)))
    (hupper : isUpper c = true) (hpieces : ∀ s ∈ pieces, s.FitsName) :
    ∃ name, .marker name ∈ pieces := by
  by_contra hnone
  -- without markers, filling a text is writing it
  have hfill : pieces.flatMap (Segment.fill fun _ => []) = pieces.flatMap Segment.text := by
    refine List.flatMap_congr fun s hs => ?_
    cases s with
    | literal d => rfl
    | marker name => exact absurd ⟨name, hs⟩ hnone
  have htelling : Segment.Telling (fun _ => []) (.literal c :: pieces) := by
    intro name hname
    rcases List.mem_cons.1 hname with hname | hname
    · cases hname
    · exact absurd ⟨name, hname⟩ hnone
  have hname : placeholder.isName (c :: pieces.flatMap Segment.text) = true := by
    rw [← hfill]
    exact (Segment.isName_flatMap_fill_iff htelling).2 ⟨c, pieces, rfl, hupper, hpieces⟩
  have hoccurs : placeholder.OccursIn [] (c :: pieces.flatMap Segment.text)
      (right.flatMap Segment.text)
      ((.literal '<' :: (.literal c :: pieces ++ .literal '>' :: right)).flatMap Segment.text) :=
    ⟨hname, by simp [Segment.text]⟩
  obtain ⟨rest, hrest⟩ := h.drop.eq_cons_of_occursIn hoccurs
  cases hrest

end MarkerGrammar.Marks

/-! ### The values of the points of the catalog -/

namespace Bindings

variable {b : Bindings} {name value start : String} {t : ElementType} {p : Point}

/-- All bound values tell whether they are numbers. -/
def Telling (b : Bindings) : Prop :=
  ∀ name value, b.get? name = some value → Tells name value.toList

theorem Telling.empty : empty.Telling := by
  intro name value h
  cases h

theorem Telling.bind (h : b.Telling) (hvalue : Tells name value.toList) :
    (b.bind name value).Telling := by
  intro other found hget
  rw [get?_bind] at hget
  split at hget
  case isTrue heq =>
    cases hget
    rwa [heq]
  case isFalse => exact h other found hget

theorem Telling.bindNumber (h : b.Telling) (hname : name ∈ numberNames) (n : Nat) :
    (b.bind name (toString n)).Telling := by
  refine h.bind ?_
  rw [Tells, if_pos hname]
  exact numeral_toString n

theorem Telling.bindText (h : b.Telling) (hname : name ∉ numberNames) (hvalue : Foreign value.toList) :
    (b.bind name value).Telling := by
  refine h.bind ?_
  rwa [Tells, if_neg hname]

theorem foreign_bitName (t : ElementType) : Foreign t.bitName.toList := by
  obtain ⟨-, hdigits⟩ := numeral_toString t.bits
  rw [ElementType.bitName, String.toList_append]
  refine ⟨⟨'b', by simp, by decide⟩, fun hmem => ?_, fun hmem => ?_⟩
  all_goals
    rcases List.mem_append.1 hmem with hmem | hmem
    · exact absurd hmem (by decide)
    · exact absurd (hdigits _ hmem) (by decide)

theorem Telling.bindType (h : b.Telling) (hstart : start ∈ ["", shiftPrefix])
    (hname : Foreign t.name.toList) : (b.bindType start t).Telling := by
  have hnames : ∀ start ∈ ["", shiftPrefix], start ++ "TYPE" ∉ numberNames ∧
      start ++ "BTYPE" ∉ numberNames ∧ start ++ "TYPE_SIZE" ∈ numberNames ∧
      start ++ "TYPE_BITS" ∈ numberNames := by
    decide
  obtain ⟨htype, hbits, hsize, hwidth⟩ := hnames start hstart
  exact (((h.bindText htype hname).bindText hbits (foreign_bitName t)).bindNumber hsize _).bindNumber
    hwidth _

theorem Telling.bindField (h : b.Telling) (f : BitField) : (b.bindField f).Telling :=
  (h.bindNumber (by decide) _).bindNumber (by decide) _

theorem telling_ofPoint (htype : Foreign p.type.name.toList) (hopcode : Foreign p.opcode.toList)
    (hamount : ∀ amount, p.inputs[1]? = some amount → Foreign amount.type.name.toList) :
    (ofPoint p).Telling := by
  have htyped : ((Bindings.empty.bindType "" p.type).bindOpcode p.operation p.type).Telling :=
    (Telling.empty.bindType (by decide) htype).bindText (by decide) hopcode
  rw [ofPoint]
  generalize (Bindings.empty.bindType "" p.type).bindOpcode p.operation p.type = typed at htyped ⊢
  cases p.bitField
  case' none => dsimp only
  case' some f => refine Telling.bindField ?_ f
  -- the bindings below the field are the same with a field and without
  all_goals
    split
    · split
      case h_1 amount hget => exact htyped.bindType (by decide) (hamount amount hget)
      case h_2 => exact htyped
    · exact htyped

end Bindings

theorem Operation.foreign_opcode {op : Operation} {t : ElementType} (hop : op ∈ Operation.builtin)
    (hname : Foreign t.name.toList) : Foreign (op.opcode t).toList := by
  have hmnemonic : ∀ op ∈ Operation.builtin, Foreign (op.mnemonic ++ ".").toList := by
    decide +kernel
  rw [Operation.opcode, String.toList_append]
  exact (hmnemonic op hop).append hname

theorem ElementType.foreign_name : ∀ t ∈ ElementType.builtin, Foreign t.name.toList := by
  decide +kernel

theorem Inputs.type_of_mem_buffersOf {op : Operation} {t : ElementType} {seed : Word} {samples : Nat}
    {b : Buffer} (h : b ∈ buffersOf op t seed samples) : b.type = shiftAmountType ∨ b.type = t := by
  obtain ⟨⟨⟨type, name⟩, i⟩, hmem, rfl⟩ := List.mem_map.1 h
  have hpair : (type, name) ∈ (operandTypes op t).zip inputNames :=
    (List.mem_zipIdx hmem).2.2 ▸ List.getElem_mem _
  obtain ⟨j, -, hj⟩ := List.mem_map.1 (List.of_mem_zip hpair).1
  show type = _ ∨ type = _
  rw [← hj]
  split
  · exact .inl rfl
  · exact .inr rfl

/-- The values of the points of the built-in catalog tell whether they are numbers. -/
theorem Matrix.telling_of_mem_points {policy : ShiftPolicy} {t : Template} {o : MatrixOptions}
    {s : Selection} {p : Point} (hp : p ∈ points (Registry.builtin policy) t o s) :
    (Bindings.ofPoint p).Telling := by
  obtain ⟨c, hc, rfl⟩ := List.mem_map.1 hp
  obtain ⟨⟨hop, -⟩, ⟨htype, -⟩, -⟩ := mem_triples.1 (mem_triples_of_mem_selected hc)
  have hname : Foreign c.type.name.toList := ElementType.foreign_name _ htype
  refine Bindings.telling_ofPoint hname (Operation.foreign_opcode hop hname) fun amount hget => ?_
  rcases Inputs.type_of_mem_buffersOf (List.mem_of_getElem? hget) with heq | heq
  · rw [heq]
    decide
  · rwa [heq]

/-! ### Kernels -/

namespace Template

variable {t : Template} {b : Bindings} {k : Kernel}

theorem expandWith_eq_ok (h : t.expandWith b = .ok k) :
    (∀ name ∈ t.placeholders, (b.get? name).isSome = true) ∧ k = ⟨t.entry, String.ofList
      ((placeholder.segments t.text.toList).flatMap (Segment.fill b.value))⟩ := by
  rw [expandWith] at h
  split at h
  case h_1 => cases h
  case h_2 hnone =>
    cases h
    refine ⟨fun name hmem => ?_, rfl⟩
    have hbound := List.find?_eq_none.1 hnone name hmem
    rwa [Bool.not_eq_true, Option.isNone_eq_false_iff] at hbound

/-- **The markers of a kernel.** Let a point be one of the matrix of a template over the built-in
catalog, and let the template have a kernel for it. A name stands in brackets in this kernel exactly
where the template has the brackets, the first letter of the name, and then further characters of it
and placeholders of numbers. At least one of these is a number. -/
theorem occursIn_expand_iff {policy : ShiftPolicy} {o : MatrixOptions} {s : Selection} {p : Point}
    {segs : List Segment} {before name after : List Char}
    (hp : p ∈ Matrix.points (Registry.builtin policy) t o s)
    (hsegs : placeholder.Marks t.text.toList segs) (hexpand : t.expand p = .ok k) :
    placeholder.OccursIn before name after k.source.toList ↔
      ∃ left c pieces right, Composite left c pieces right segs ∧
        left.flatMap (Segment.fill (Bindings.ofPoint p).value) = before ∧
        c :: pieces.flatMap (Segment.fill (Bindings.ofPoint p).value) = name ∧
        right.flatMap (Segment.fill (Bindings.ofPoint p).value) = after := by
  obtain ⟨hbound, rfl⟩ := expandWith_eq_ok hexpand
  obtain rfl : segs = placeholder.segments t.text.toList := t.marks_text.unique hsegs
  have htelling : Segment.Telling (Bindings.ofPoint p).value (placeholder.segments t.text.toList) := by
    intro name hname
    have hmem : String.ofList name ∈ t.placeholders := by
      rwa [mem_placeholders_iff_marker, String.toList_ofList]
    obtain ⟨value, hvalue⟩ := Option.isSome_iff_exists.1 (hbound _ hmem)
    rw [Bindings.value, hvalue]
    exact Matrix.telling_of_mem_points hp _ _ hvalue
  rw [String.toList_ofList, Segment.occursIn_flatMap_fill_iff htelling]
  constructor
  · rintro ⟨left, c, pieces, right, heq, hupper, hpieces, hfilled⟩
    have hnumber := (heq ▸ hsegs).exists_marker hupper hpieces
    exact ⟨left, c, pieces, right, ⟨heq, hupper, hpieces, hnumber⟩, hfilled⟩
  · rintro ⟨left, c, pieces, right, hcomposite, hfilled⟩
    exact ⟨left, c, pieces, right, hcomposite.segs_eq, hcomposite.isUpper, hcomposite.fitsName, hfilled⟩

section Nested

/-- A template that spells a name out up to a number. -/
def nested : Template where
  id := "nested"
  entry := "k"
  shape := .binary
  text := ".entry k( ) { <OP> %d, <A<TYPE_BITS>>; }"

/-- The first combination of its matrix. -/
def halfAddition : Combination where
  index := 0
  operation := ⟨.add, "add", .binary, .binary, [.unsigned, .signed, .float], Operation.allWidths⟩
  type := .ofWidth "u16" 16 .unsigned
  bitField := none

def nestedPoint : Point := Matrix.materialize nested ⟨0, 0, true⟩ halfAddition

theorem mem_points_nested :
    nestedPoint ∈ Matrix.points (Registry.builtin .clamp) nested ⟨0, 0, true⟩ .all :=
  List.mem_map_of_mem (by decide +kernel)

theorem expand_nested :
    nested.expand nestedPoint = .ok ⟨"k", ".entry k( ) { add.u16 %d, <A16>; }"⟩ := by
  have hbindings : Bindings.ofPoint nestedPoint =
      (Bindings.empty.bindType "" halfAddition.type).bindOpcode halfAddition.operation
        halfAddition.type := rfl
  rw [expand, hbindings]
  decide +kernel

/-- The text around a number makes a marker of it. The template has no violation of any rule. -/
theorem marker_of_nested :
    violationsOf [nested] = [] ∧ TemplateStore.ofTemplates [nested] = .ok ⟨[nested]⟩ ∧
    nestedPoint ∈ Matrix.points (Registry.builtin .clamp) nested ⟨0, 0, true⟩ .all ∧
    ∃ k, nested.expand nestedPoint = .ok k ∧
      placeholder.OccursIn ".entry k( ) \x7b add.u16 %d, ".toList "A16".toList "; \x7d".toList
        k.source.toList := by
  have hviolations : violationsOf [nested] = [] := by decide +kernel
  have hoffence : TemplateStore.offence? [] [nested] = none := by decide +kernel
  refine ⟨hviolations, ?_, mem_points_nested, _, expand_nested, by decide, by decide +kernel⟩
  rw [TemplateStore.ofTemplates, hoffence]

/-- The marker is one of a number in a name. -/
theorem occursIn_expand_iff_nested :
    ∃ k left right, nested.expand nestedPoint = .ok k ∧
      Composite left 'A' [.marker "TYPE_BITS".toList] right
        (placeholder.segments nested.text.toList) ∧
      placeholder.OccursIn (left.flatMap (Segment.fill (Bindings.ofPoint nestedPoint).value))
        "A16".toList (right.flatMap (Segment.fill (Bindings.ofPoint nestedPoint).value))
        k.source.toList := by
  have hcomposite : Composite ((placeholder.segments nested.text.toList).take 20) 'A'
      [.marker "TYPE_BITS".toList] ((placeholder.segments nested.text.toList).drop 24)
      (placeholder.segments nested.text.toList) :=
    ⟨by decide +kernel, by decide, by decide +kernel, _, List.mem_singleton_self _⟩
  refine ⟨_, _, _, expand_nested, hcomposite, ?_⟩
  exact (occursIn_expand_iff mem_points_nested nested.marks_text expand_nested).2
    ⟨_, _, _, _, hcomposite, rfl, by decide +kernel, rfl⟩

end Nested

end Template

end Crosscheck
