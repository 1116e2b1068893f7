import Crosscheck.Matrix.Inputs
import Crosscheck.Oracle
import Crosscheck.Proofs.Catalog.Decoding
import Crosscheck.Proofs.Catalog.Totality
import Crosscheck.Proofs.Template.Bindings
import Crosscheck.Proofs.Template.Framed

/-!
# Crosscheck.Proofs.Device.Agreement

**Expansion, emulator and oracle agree on the catalog.** `Point.Hosted` says that a point is one that a
bundled template can have: an operation of its class, a type that the operation supports, a bit field
where the class has one, and one column of words for every operand. Such a point has a kernel
(`Point.kernel_of_hosted`), the emulator accepts it and decodes the point's own operation, type and
field, and so it computes the words that the oracle expects.
-/

namespace Crosscheck

/-- Replacements for the semantics of some kinds. -/
abbrev Replacements := OperationKind → Option Replacement

/-! ### The inputs of a point -/

namespace Inputs

/-- Input buffers with given columns, one for each operand. -/
def ofColumns (op : Operation) (t : ElementType) (columns : List (List Word)) : List Buffer :=
  (((operandTypes op t).zip inputNames).zip columns).map fun ((operandType, name), column) =>
    Buffer.ofWords name operandType column

/-- The type of the buffers whose placeholders begin with a text. -/
def typeOfStart (t : ElementType) (start : String) : ElementType :=
  if start = Bindings.shiftPrefix then shiftAmountType else t

theorem operandTypes_builtin {op : Operation} (hop : op ∈ Operation.builtin) (t : ElementType) :
    operandTypes op t = (Frame.ofShape op.shape).inputs.map fun c => typeOfStart t c.start := by
  simp only [Operation.builtin, List.mem_cons, List.not_mem_nil, or_false] at hop
  rcases hop with rfl | rfl | rfl | rfl | rfl | rfl | rfl | rfl | rfl | rfl | rfl | rfl | rfl | rfl |
    rfl | rfl | rfl | rfl <;> rfl

theorem operandCount_builtin {op : Operation} (hop : op ∈ Operation.builtin) :
    op.operandCount = (Frame.ofShape op.shape).inputs.length := by
  have h := congrArg List.length (operandTypes_builtin hop shiftAmountType)
  simpa [operandTypes] using h

theorem params_ofShape (shape : OperationClass) :
    (Frame.ofShape shape).inputs.map (·.param) =
      inputNames.take (Frame.ofShape shape).inputs.length := by
  cases shape <;> rfl

/-- The names and types of the inputs are those of the frame. -/
theorem map_name_type_ofColumns {op : Operation} (hop : op ∈ Operation.builtin) (t : ElementType)
    {columns : List (List Word)} (hlen : columns.length = op.operandCount) :
    (ofColumns op t columns).map (fun b => (b.name, b.type)) =
      (Frame.ofShape op.shape).inputs.map fun c => (c.param, typeOfStart t c.start) := by
  rw [operandCount_builtin hop] at hlen
  rw [ofColumns, operandTypes_builtin hop]
  generalize op.shape = shape at hlen ⊢
  have hcolumns : ∀ {types : List ElementType}, types.length = columns.length →
      (((types.zip inputNames).zip columns).map fun ((operandType, name), column) =>
        Buffer.ofWords name operandType column).map (fun b => (b.name, b.type)) =
      (types.zip inputNames).map fun (operandType, name) => (name, operandType) := by
    intro types htypes
    have hle : (types.zip inputNames).length ≤ columns.length := by
      rw [List.length_zip]
      omega
    conv => rhs; rw [← List.map_fst_zip hle]
    simp [Function.comp_def, Buffer.ofWords]
  rw [hcolumns (by simp [hlen])]
  cases shape <;> rfl

end Inputs

theorem Buffer.length_of_mem_rows {count : Nat} {columns : List (List Word)} {row : List Word}
    (h : row ∈ rows count columns) : row.length = columns.length := by
  induction count generalizing columns with
  | zero => simp [rows] at h
  | succ count ih =>
      rw [rows, List.mem_cons] at h
      rcases h with rfl | h
      · simp
      · simpa using ih h

/-! ### Points of the catalog -/

namespace Point

/-- A point that a bundled template can have: an operation of its class, a type that the operation
supports, a bit field where the class has one, and a column of words for every operand. -/
structure Hosted (p : Point) (t : Template) (columns : List (List Word)) : Prop where
  /-- The template is bundled. -/
  template : t ∈ Template.bundled
  /-- The operation is in the catalog. -/
  operation : p.operation ∈ Operation.builtin
  /-- The operation is of the template's class. -/
  shape : p.operation.shape = t.shape
  /-- The type is in the catalog. -/
  type : p.type ∈ ElementType.builtin
  /-- The operation is defined for the type. -/
  supports : p.operation.supports p.type = true
  /-- There is a bit field where the class has one. -/
  bitField : p.bitField.isSome = t.shape.hasBitField
  /-- There is a column for every operand. -/
  length_columns : columns.length = p.operation.operandCount
  /-- The columns are the inputs. -/
  inputs : p.inputs = Inputs.ofColumns p.operation p.type columns

/-- The frame of the point's kernel. -/
def frame (p : Point) : Frame := Frame.ofShape p.operation.shape

/-- The texts of the placeholders. -/
def texts (p : Point) : String → String := Frame.textOf (Bindings.ofPoint p).value

section Texts

variable {p : Point} {t : Template} {columns : List (List Word)}

theorem texts_of_get? {name value : String} (h : (Bindings.ofPoint p).get? name = some value) :
    p.texts name = value := by
  rw [texts, Frame.textOf, Bindings.value, h, Option.getD_some, String.ofList_toList]

/-- The buffers of the frame are the inputs, in order. -/
theorem Hosted.map_name_type (h : p.Hosted t columns) :
    p.inputs.map (fun b => (b.name, b.type)) =
      p.frame.inputs.map fun c => (c.param, Inputs.typeOfStart p.type c.start) := by
  rw [h.inputs, Inputs.map_name_type_ofColumns h.operation p.type h.length_columns, frame]

theorem Hosted.length_inputs (h : p.Hosted t columns) :
    p.inputs.length = p.operation.operandCount := by
  have hlen := congrArg List.length h.map_name_type
  rw [Inputs.operandCount_builtin h.operation]
  simpa [frame] using hlen

/-- What placeholders of a class begin with: nothing, or the prefix of a shift amount. -/
theorem start_of_mem_columns {shape : OperationClass} {c : Column}
    (hc : c ∈ (Frame.ofShape shape).columns) :
    c.start = "" ∨ c.start = Bindings.shiftPrefix ∧ shape = .shift := by
  revert c
  cases shape <;> decide

/-- The placeholders of a buffer are bound to the width and the size of its type. -/
theorem Hosted.get?_start (h : p.Hosted t columns) {c : Column} (hc : c ∈ p.frame.columns) :
    (Bindings.ofPoint p).get? (c.start ++ "BTYPE") =
        some (Inputs.typeOfStart p.type c.start).bitName ∧
      (Bindings.ofPoint p).get? (c.start ++ "TYPE_SIZE") =
        some (toString (Inputs.typeOfStart p.type c.start).bytes.toNat) := by
  rcases start_of_mem_columns hc with hstart | ⟨hstart, hshape⟩
  · rw [hstart]
    exact ⟨Bindings.get?_ofPoint_bitName, Bindings.get?_ofPoint_size⟩
  · have hamount : (p.inputs[1]?).map (fun b => (b.name, b.type)) =
        some ("input_b", Inputs.shiftAmountType) := by
      rw [← List.getElem?_map, h.map_name_type, frame, hshape]
      rfl
    obtain ⟨amount, hamount, htype⟩ := Option.map_eq_some_iff.1 hamount
    obtain ⟨-, htype⟩ := Prod.mk.inj htype
    have hget := Bindings.get?_ofPoint_shift hshape hamount
    rw [htype] at hget
    rw [hstart]
    exact hget

/-- Where the class has bit fields, position and length are bound. -/
theorem Hosted.get?_field (h : p.Hosted t columns) (hfield : p.frame.hasField = true) :
    ∃ f, p.bitField = some f ∧
      (Bindings.ofPoint p).get? "POS" = some (toString f.position.toNat) ∧
      (Bindings.ofPoint p).get? "LEN" = some (toString f.length.toNat) := by
  have hclass : t.shape.hasBitField = true := by
    rw [← h.shape]
    revert hfield
    rw [frame]
    cases p.operation.shape <;> decide
  obtain ⟨f, hf⟩ := Option.isSome_iff_exists.1 (h.bitField.trans hclass)
  exact ⟨f, hf, Bindings.get?_ofPoint_field hf⟩

/-! ### The values are plain -/

theorem plainText_opcode {op : Operation} {type : ElementType} (hop : op ∈ Operation.builtin)
    (htype : type ∈ ElementType.builtin) : PlainText (op.opcode type).toList := by
  have hmnemonic : ∀ op ∈ Operation.builtin, PlainText (op.mnemonic ++ ".").toList := by
    decide +kernel
  have hname : ∀ type ∈ ElementType.builtin, PlainText type.name.toList := by decide +kernel
  rw [Operation.opcode, String.toList_append]
  exact (hmnemonic op hop).append (hname type htype)

theorem plainText_bitName (type : ElementType) : PlainText type.bitName.toList := by
  rw [ElementType.bitName, String.toList_append]
  exact PlainText.append (by decide) (plainText_repr type.bits)

theorem Hosted.plain (h : p.Hosted t columns) {name : List Char} (hname : name ∈ p.frame.placeholders) :
    ((Bindings.ofPoint p).get? (String.ofList name)).isSome = true ∧
      PlainText ((Bindings.ofPoint p).value (String.ofList name)) := by
  have of_get? : ∀ {value : String}, (Bindings.ofPoint p).get? (String.ofList name) = some value →
      PlainText value.toList → ((Bindings.ofPoint p).get? (String.ofList name)).isSome = true ∧
        PlainText ((Bindings.ofPoint p).value (String.ofList name)) := by
    intro value hget hplain
    rw [Bindings.value, hget]
    exact ⟨rfl, hplain⟩
  rw [Frame.placeholders, List.mem_append, List.mem_cons, List.mem_flatMap] at hname
  rcases hname with (rfl | ⟨c, hc, hname⟩) | hname
  · exact of_get? Bindings.get?_ofPoint_op (plainText_opcode h.operation h.type)
  · obtain ⟨hwidth, hsize⟩ := h.get?_start hc
    simp only [List.mem_cons, List.not_mem_nil, or_false, ← String.toList_append] at hname
    rcases hname with rfl | rfl
    · exact of_get? (by rw [String.ofList_toList, hwidth]) (plainText_bitName _)
    · exact of_get? (by rw [String.ofList_toList, hsize]; rfl) (plainText_repr _)
  · cases hfield : p.frame.hasField with
    | false => simp [hfield] at hname
    | true =>
        obtain ⟨f, -, hpos, hlen⟩ := h.get?_field hfield
        simp only [hfield, if_true, List.mem_cons, List.not_mem_nil, or_false] at hname
        rcases hname with rfl | rfl
        · exact of_get? hpos (plainText_repr _)
        · exact of_get? hlen (plainText_repr _)

/-! ### The address check -/

theorem isOperand_repr (n : Nat) : Instruction.IsOperand n.repr := by
  intro c hc
  rw [Nat.toList_repr] at hc
  obtain ⟨hblank, -, -, hopen, hclose⟩ := plain_of_isDigit (Text.isDigit_of_mem_toDigits hc)
  exact ⟨hopen, hclose, hblank⟩

/-- The width of an access is read off the name of the container. -/
theorem accessBits?_bitName {type : ElementType} (h : type.bits < 2 ^ 32) :
    Addressing.accessBits? type.bitName = some type.bits := by
  have hchars : type.bitName.toList = 'b' :: type.bits.repr.toList := by
    rw [ElementType.bitName, String.toList_append]
    rfl
  rw [Addressing.accessBits?, hchars]
  simp only [show 'b'.toNat < 128 by decide, if_true]
  exact Text.unsigned?_repr h

/-- No opcode of the catalog begins like one that has to do with addresses, except for sums. -/
theorem opcode_not_prefix {op : Operation} (hop : op ∈ Operation.builtin) (type : ElementType)
    {start : String} (hstart : start ∈ Instruction.addressOpcodes)
    (hsum : start = "add.u64" → op.shape ≠ .binary) : ¬ start.toList <+: (op.opcode type).toList := by
  have hdiffers : ∀ op ∈ Operation.builtin, ∀ start ∈ Instruction.addressOpcodes,
      (start = "add.u64" → op.shape ≠ .binary) →
      Segment.differs (Segment.ofText (op.mnemonic ++ ".") ++ [.marker []]) start.toList = true := by
    decide +kernel
  have h := Segment.not_isPrefix_of_differs (hdiffers op hop start hstart hsum)
    fun _ => type.name.toList
  simpa [Operation.opcode, Segment.fill, List.flatMap_append] using h

/-- The computing instruction is not one of address arithmetic, or computes no address. -/
theorem Hosted.step_computation (h : p.Hosted t columns) (typeOf? : String → Option ElementType)
    {trace : Addressing.Trace}
    (huntracked : ∀ r, r ≠ Frame.offset → r ∉ p.frame.registers → trace.registers r = none) :
    Addressing.step typeOf? trace (p.frame.computation p.texts) = .ok trace := by
  have hopcode : (p.frame.computation p.texts).opcode = p.opcode :=
    texts_of_get? Bindings.get?_ofPoint_op
  have hbegins : ∀ start ∈ Instruction.addressOpcodes,
      (start = "add.u64" → p.operation.shape ≠ .binary) →
      ¬ start.toList <+: (p.frame.computation p.texts).opcode.toList := by
    rw [hopcode]
    exact fun start => opcode_not_prefix h.operation p.type
  have hne : ∀ start ∈ Instruction.addressOpcodes,
      (start = "add.u64" → p.operation.shape ≠ .binary) →
      (p.frame.computation p.texts).opcode ≠ start := by
    rintro start hstart hsum rfl
    exact hbegins _ hstart hsum (List.prefix_refl _)
  refine Addressing.step_of_untracked typeOf?
    (Instruction.suffix?_eq_none (hbegins _ (by decide) fun heq => absurd heq (by decide)))
    (Instruction.suffix?_eq_none (hbegins _ (by decide) fun heq => absurd heq (by decide))) ?_ ?_
  · intro hmem
    simp only [List.mem_cons, List.not_mem_nil, or_false] at hmem
    rcases hmem with heq | heq | heq
    all_goals exact hne _ (by decide) (fun heq => absurd heq (by decide)) heq
  · intro heq r hr
    have hbinary : p.operation.shape = .binary := by
      by_cases hshape : p.operation.shape = .binary
      · exact hshape
      · exact absurd heq (hne _ (by decide) fun _ => hshape)
    rw [frame, hbinary] at hr huntracked
    have hoperands : ∀ r ∈ ["%d", "%a", "%b"].map Instruction.unbracketed,
        r ≠ Frame.offset ∧ r ∉ (Frame.ofShape .binary).registers := by
      decide
    exact huntracked r (hoperands r hr).1 (hoperands r hr).2

theorem Hosted.nodup_names (h : p.Hosted t columns) :
    (p.inputs.map (·.name) ++ [p.outputSpec].map (·.name)).Nodup := by
  have hnames : p.inputs.map (·.name) = p.frame.inputs.map (·.param) := by
    have hmap := congrArg (List.map Prod.fst) h.map_name_type
    simpa [Function.comp_def] using hmap
  have houtput : [p.outputSpec].map (·.name) = [outputName] := rfl
  rw [hnames, houtput, frame, Inputs.params_ofShape]
  cases p.operation.shape <;> decide

/-- The texts of the placeholders fit the types of the buffers. -/
theorem Hosted.fits (h : p.Hosted t columns) :
    p.frame.Fits p.texts (Inputs.typeOfStart p.type) (Addressing.typeOf? p.inputs [p.outputSpec]) where
  typed := by
    intro c hc
    refine Addressing.typeOf?_of_mem h.nodup_names ?_
    rw [h.map_name_type, List.mem_append]
    rcases List.mem_append.1 hc with hc | hc
    · exact .inl (List.mem_map.2 ⟨c, hc, rfl⟩)
    · obtain rfl : c = Frame.output := by simpa using hc
      exact .inr (by simp [outputSpec, Frame.output, Inputs.typeOfStart, Bindings.shiftPrefix])
  stride := by
    intro c hc
    rw [texts_of_get? (h.get?_start hc).2]
    exact ⟨isOperand_repr _, Text.unsigned?_repr (UInt32.toNat_lt _)⟩
  width := by
    intro c hc
    rw [texts_of_get? (h.get?_start hc).1]
    refine accessBits?_bitName ?_
    have hbits := (ElementType.builtin_wellFormed p.type h.type).2.1
    rw [Inputs.typeOfStart]
    split
    · decide
    · omega
  computation := fun _ huntracked => h.step_computation _ huntracked

/-! ### Decoding -/

theorem immediate_repr (n : UInt32) : Emulator.immediate (toString n.toNat) = .ok n := by
  have hread : Text.unsigned? 32 (toString n.toNat).toList = some n.toNat :=
    Text.unsigned?_repr (UInt32.toNat_lt n)
  rw [Emulator.immediate, hread]
  simp

/-- The computing instruction is read as the point's operation, type and bit field. -/
theorem Hosted.interpret_computation (h : p.Hosted t columns) (policy : ShiftPolicy) :
    Emulator.interpret (Registry.builtin policy) (p.frame.computation p.texts) =
      .ok ⟨p.operation, p.type, p.bitField⟩ := by
  have hopcode : (p.frame.computation p.texts).opcode = p.operation.opcode p.type :=
    texts_of_get? Bindings.get?_ofPoint_op
  rw [Emulator.interpret, hopcode,
    Registry.decodeOpcode?_opcode (Registry.builtin_unambiguous policy) h.operation h.type h.supports]
  have hclass : p.operation.shape.hasBitField = p.frame.hasField := by
    rw [frame]
    cases p.operation.shape <;> rfl
  cases hfield : p.frame.hasField with
  | false =>
      have hnone : p.bitField = none := by
        rw [← Option.not_isSome_iff_eq_none, h.bitField, ← h.shape, hclass, hfield]
        simp
      simp [hclass, hfield, hnone]
  | true =>
      obtain ⟨f, hf, hpos, hlen⟩ := h.get?_field hfield
      have hoperands : (p.frame.computation p.texts).operands.reverse =
          toString f.length.toNat :: toString f.position.toNat ::
            (Frame.output.value :: p.frame.inputs.map (·.value)).reverse := by
        simp [Frame.computation, hfield, texts_of_get? hpos, texts_of_get? hlen]
      simp only [hclass, hfield, if_true, Emulator.trailingField, hoperands, immediate_repr,
        Except.ok_bind, hf]

/-! ### The kernel -/

/-- **The kernel of a point of the catalog.** It passes the address check, and what it computes is the
point's operation on the point's type and bit field. -/
theorem kernel_of_hosted (h : p.Hosted t columns) :
    ∃ kernel, t.expand p = .ok kernel ∧
      Addressing.check kernel.source p.inputs [p.outputSpec] = .ok () ∧
      ∀ policy, Emulator.decode (Registry.builtin policy) kernel.source =
        .ok ⟨p.operation, p.type, p.bitField⟩ := by
  have hframed : t.Framed p.frame := by
    rw [frame, h.shape]
    exact Template.bundled_framed t h.template
  have hwell : p.frame.WellFormed := Frame.ofShape_wellFormed p.operation.shape
  obtain ⟨kernel, hexpand, htrace, hresult⟩ :=
    Template.expandWith_of_framed hframed fun _ hname => h.plain hname
  refine ⟨kernel, hexpand, ?_, fun policy => ?_⟩
  · obtain ⟨regs, hrun⟩ := Frame.trace _ hwell h.fits
    refine Addressing.check_eq_ok.2 ⟨_, (htrace _ _).trans hrun, fun b hb => ?_, fun o ho => ?_⟩
    · have hmem : (b.name, b.type) ∈ p.inputs.map fun b => (b.name, b.type) :=
        List.mem_map_of_mem hb
      rw [h.map_name_type] at hmem
      obtain ⟨c, hc, heq⟩ := List.mem_map.1 hmem
      have hname : c.param = b.name := congrArg Prod.fst heq
      simpa using ⟨c, hc, hname⟩
    · obtain rfl := List.mem_singleton.1 ho
      exact List.mem_singleton_self _
  · rw [Emulator.decode, hresult.trans (Frame.find?_result hwell p.texts)]
    exact h.interpret_computation policy

/-! ### Values -/

/-- The reference semantics of the point. -/
def semantics (p : Point) (policy : ShiftPolicy) : Semantics :=
  ⟨p.operation.kind, p.operation.arity, p.type, policy⟩

/-- The output of the point under the reference semantics. -/
def output (p : Point) (policy : ShiftPolicy) : Buffer :=
  Buffer.ofWords outputName p.type
    (p.rows.map fun operands => (p.semantics policy).value operands p.bitField)

/-- A point that the catalog has an output for: its operation is in the catalog and defined for its type, it
has a bit field if it is an operation on fields, and it has an input for every operand. -/
structure Computable (p : Point) : Prop where
  /-- The operation is in the catalog. -/
  operation : p.operation ∈ Operation.builtin
  /-- The operation is defined for the type. -/
  supports : p.operation.supports p.type = true
  /-- There is a bit field if the operation is on fields. -/
  bitField : p.bitField.isSome = p.operation.shape.hasBitField
  /-- There is an input for every operand. -/
  length_inputs : p.inputs.length = p.operation.operandCount

theorem Hosted.computable (h : p.Hosted t columns) : p.Computable where
  operation := h.operation
  supports := h.supports
  bitField := by rw [h.bitField, h.shape]
  length_inputs := h.length_inputs

theorem Computable.semanticsOf (h : p.Computable) (policy : ShiftPolicy) :
    (Registry.builtin policy).semanticsOf p.operation p.type = .ok (p.semantics policy) := by
  rw [Registry.semanticsOf, if_pos h.supports]
  rfl

/-- On every row of the inputs the reference semantics have a result. -/
theorem Computable.apply_row (h : p.Computable) (policy : ShiftPolicy) {operands : List Word}
    (hrow : operands ∈ p.rows) :
    (p.semantics policy).apply operands p.bitField =
      .ok ((p.semantics policy).value operands p.bitField) := by
  refine Operation.apply_builtin h.operation h.supports policy ?_ fun hfield => ?_
  · rw [Buffer.length_of_mem_rows hrow, List.length_map, h.length_inputs]
  · rw [h.bitField, hfield]

theorem getD_length_head? (p : Point) :
    (p.inputs.head?.map Buffer.length).getD 0 = p.length := by
  rw [length]
  cases p.inputs <;> rfl

/-- The emulator computes the output of the point. -/
theorem Hosted.emulate (h : p.Hosted t columns) {source : String}
    (hcheck : Addressing.check source p.inputs [p.outputSpec] = .ok ()) (policy : ShiftPolicy)
    (hdecode : Emulator.decode (Registry.builtin policy) source =
      .ok ⟨p.operation, p.type, p.bitField⟩) :
    Emulator.emulate (Registry.builtin policy) source p.inputs [p.outputSpec] =
      .ok [p.output policy] := by
  have hrows : (Buffer.rows p.length (p.inputs.map (·.data))).mapM (fun operands =>
      Emulator.reported ((p.semantics policy).apply operands p.bitField)) =
      .ok (p.rows.map fun operands => (p.semantics policy).value operands p.bitField) :=
    Except.mapM_eq_ok fun operands hrow => by rw [h.computable.apply_row policy hrow]; rfl
  have hsemantics : Emulator.reported
      ((Registry.builtin policy).semanticsOf p.operation p.type) = .ok (p.semantics policy) := by
    rw [h.computable.semanticsOf policy]
    rfl
  simp only [Emulator.emulate, hcheck, hdecode, Except.ok_bind, hsemantics, getD_length_head?, hrows]
  rfl

/-- The word of an element under the reference semantics. -/
def wordAt (p : Point) (policy : ShiftPolicy) (i : Nat) : Word :=
  (p.semantics policy).value (p.operandsAt i) p.bitField

/-- The word that an oracle with replacements has for an element: that of the replacement, cut to the
type, if the kind is replaced, and that of the reference semantics otherwise. -/
def expectedAt (p : Point) (policy : ShiftPolicy) (replacement? : Replacements) (i : Nat) : Word :=
  match replacement? p.operation.kind with
  | some f => p.type.truncate (f p.type (p.operandsAt i) p.bitField)
  | none => p.wordAt policy i

/-- The rows are the operands of the elements, in order. -/
theorem rows_eq_map_range (p : Point) : p.rows = (List.range p.length).map p.operandsAt := by
  apply List.ext_getElem?
  intro i
  by_cases hi : i < p.length
  · rw [rows, Buffer.getElem?_rows hi, List.getElem?_map, List.getElem?_range hi, List.map_map]
    rfl
  · have hrows : p.rows.length ≤ i := by
      rw [rows, Buffer.length_rows]
      omega
    rw [List.getElem?_eq_none hrows, List.getElem?_eq_none (by simpa using hi)]

theorem operandsAt_mem_rows {i : Nat} (hi : i < p.length) : p.operandsAt i ∈ p.rows := by
  rw [rows_eq_map_range]
  exact List.mem_map_of_mem (List.mem_range.2 hi)

theorem output_eq (p : Point) (policy : ShiftPolicy) :
    p.output policy =
      Buffer.ofWords outputName p.type ((List.range p.length).map (p.wordAt policy)) := by
  rw [output, rows_eq_map_range, List.map_map]
  rfl

/-- The oracle's output, replacements included. -/
theorem Computable.expectedOutput_replaced (h : p.Computable) (policy : ShiftPolicy)
    (replacement? : Replacements) :
    Oracle.expectedOutput ⟨Registry.builtin policy, replacement?⟩ p =
      .ok (Buffer.ofWords outputName p.type
        ((List.range p.length).map (p.expectedAt policy replacement?))) := by
  have hrows : p.rows.mapM (fun operands =>
      Oracle.evaluate ⟨Registry.builtin policy, replacement?⟩ p.operation p.type operands p.bitField) =
      .ok ((List.range p.length).map (p.expectedAt policy replacement?)) := by
    rw [rows_eq_map_range, List.mapM_map]
    refine Except.mapM_eq_ok fun i hi => ?_
    have hrow := operandsAt_mem_rows (List.mem_range.1 hi)
    simp only [Oracle.evaluate, h.semanticsOf policy, Except.ok_bind, expectedAt]
    cases replacement? p.operation.kind with
    | some f => rfl
    | none => exact h.apply_row policy hrow
  rw [Oracle.expectedOutput, hrows]
  rfl

/-- The oracle of the reference semantics expects the output of the point. -/
theorem Computable.expectedOutput (h : p.Computable) (policy : ShiftPolicy) :
    (Oracle.ofRegistry (Registry.builtin policy)).expectedOutput p = .ok (p.output policy) := by
  rw [output_eq]
  exact h.expectedOutput_replaced policy fun _ => none

theorem Hosted.expectedOutput (h : p.Hosted t columns) (policy : ShiftPolicy) :
    (Oracle.ofRegistry (Registry.builtin policy)).expectedOutput p = .ok (p.output policy) :=
  h.computable.expectedOutput policy

end Texts

/-- **Expansion, emulator and oracle agree on every point of the catalog.** Under either shift policy,
for every bit field and for columns of any length, the template has a kernel for the point, the
emulator runs it on the inputs and returns one buffer, and that is the buffer the oracle expects. -/
theorem emulate_eq_expectedOutput {p : Point} {t : Template} {columns : List (List Word)}
    (h : p.Hosted t columns) (policy : ShiftPolicy) :
    ∃ kernel out, t.expand p = .ok kernel ∧
      Emulator.emulate (Registry.builtin policy) kernel.source p.inputs [p.outputSpec] = .ok [out] ∧
      (Oracle.ofRegistry (Registry.builtin policy)).expectedOutput p = .ok out := by
  obtain ⟨kernel, hexpand, hcheck, hdecode⟩ := kernel_of_hosted h
  exact ⟨kernel, p.output policy, hexpand, h.emulate hcheck policy (hdecode policy),
    h.expectedOutput policy⟩

/-- A point whose bit field lies beyond the top of the type. -/
def insertBeyondTop : Point where
  index := 0
  name := "bfi/bfi.b64/p70_l300"
  template := "bfi"
  operation := ⟨.insert, "bfi", .binary, .bitFieldInsert, [.bits], Operation.wordWidths⟩
  type := .ofWidth "b64" 64 .bits
  bitField := some ⟨70, 300⟩
  seed := 0
  inputs := Inputs.ofColumns ⟨.insert, "bfi", .binary, .bitFieldInsert, [.bits], Operation.wordWidths⟩
    (.ofWidth "b64" 64 .bits) [[1, 2, 0xFF], [3, 0xFFFFFFFFFFFFFFFF, 0]]

theorem insertBeyondTop_hosted :
    insertBeyondTop.Hosted Template.bfiBundled [[1, 2, 0xFF], [3, 0xFFFFFFFFFFFFFFFF, 0]] where
  template := by simp [Template.bundled]
  operation := by decide
  shape := rfl
  type := by decide
  supports := by decide
  bitField := rfl
  length_columns := rfl
  inputs := rfl

theorem emulate_eq_expectedOutput_insertBeyondTop :
    ∃ kernel out, Template.bfiBundled.expand insertBeyondTop = .ok kernel ∧
      Emulator.emulate (Registry.builtin .mask) kernel.source insertBeyondTop.inputs
        [insertBeyondTop.outputSpec] = .ok [out] ∧
      (Oracle.ofRegistry (Registry.builtin .mask)).expectedOutput insertBeyondTop = .ok out :=
  emulate_eq_expectedOutput insertBeyondTop_hosted .mask

end Point

end Crosscheck
