import Crosscheck.Proofs.Device.Frame
import Crosscheck.Proofs.Template.Reading

/-!
# Crosscheck.Proofs.Template.Framed

**The bundled templates have the usual frame.** Most lines of a template have to do neither with
addresses nor with the result, whatever their markers stand for (`InstructionTemplate.quiet`). The
other lines of the six bundled templates are those of a frame, which `bundled_framed` checks line by
line. So the kernel of a bundled template is traced like its frame (`Framed.foldlM_step`), and its
computing instruction is that of the frame (`Framed.find?_result`).
-/

namespace Crosscheck

/-! ### Lines that do not matter -/

namespace Segment

/-- Whether the characters before the first marker are enough to see that nothing that is spelled
begins with the text. -/
def differs : List Segment → List Char → Bool
  | _, [] => false
  | [], _ :: _ => true
  | .literal c :: segs, d :: text => c != d || differs segs text
  | .marker _ :: _, _ :: _ => false

/-- Whether a segment is a character or a marker of one of the names. -/
def isOf (names : List (List Char)) : Segment → Bool
  | .literal _ => true
  | .marker name => names.contains name

theorem not_isPrefix_of_differs {segs : List Segment} {text : List Char}
    (h : differs segs text = true) (value : String → List Char) :
    ¬ text <+: segs.flatMap (fill value) := by
  induction segs generalizing text with
  | nil =>
      cases text with
      | nil => simp [differs] at h
      | cons d text => simp
  | cons s segs ih =>
      cases text with
      | nil => simp [differs] at h
      | cons d text =>
          cases s with
          | marker name => simp [differs] at h
          | literal c =>
              rw [differs, Bool.or_eq_true, bne_iff_ne] at h
              rw [List.flatMap_cons, fill, List.singleton_append, List.cons_prefix_cons]
              rintro ⟨rfl, hbegins⟩
              rcases h with h | h
              · exact h rfl
              · exact ih h hbegins

end Segment

namespace InstructionTemplate

/-- Whether an instruction has to do neither with addresses nor with the result, whatever its markers
stand for. -/
def quiet (i : InstructionTemplate) : Bool :=
  Instruction.addressOpcodes.all (fun start => Segment.differs i.opcode start.toList)
    && i.operands.head?.all fun o => Segment.differs o Emulator.resultRegister.toList

variable {i : InstructionTemplate} {value : String → List Char}

theorem action?_of_quiet (h : i.quiet = true) : (i.fill value).action? = none := by
  rw [quiet, Bool.and_eq_true, List.all_eq_true] at h
  refine Instruction.action?_eq_none fun start hstart => ?_
  rw [fill, String.toList_ofList]
  exact Segment.not_isPrefix_of_differs (h.1 start hstart) value

theorem result_of_quiet (h : i.quiet = true) :
    (i.fill value).operands.head? ≠ some Emulator.resultRegister := by
  rw [quiet, Bool.and_eq_true] at h
  rw [fill, List.head?_map]
  cases hhead : i.operands.head? with
  | none => simp
  | some o =>
      have hdiffers : Segment.differs o Emulator.resultRegister.toList = true := by
        simpa [hhead] using h.2
      intro heq
      have htext : o.flatMap (Segment.fill value) = Emulator.resultRegister.toList := by
        rw [← Option.some.inj heq, String.toList_ofList]
      exact Segment.not_isPrefix_of_differs hdiffers value (htext ▸ List.prefix_refl _)

end InstructionTemplate

/-! ### Templates with a frame -/

namespace Frame

/-- The marker of a placeholder. -/
def marker (start name : String) : List Segment := [.marker (start.toList ++ name.toList)]

/-- The instructions of a template of the frame. -/
def templates (f : Frame) : List InstructionTemplate :=
  let word := Segment.ofText
  let address (s : String) := word (Instruction.bracketed s)
  f.columns.map (fun c => ⟨word "ld.param.u64", [word c.register, address c.param]⟩)
    ++ f.columns.map (fun c =>
      ⟨word "cvta.to.global.u64", [word c.register, word c.register]⟩)
    ++ f.groups.flatMap (fun g =>
      ⟨word "mul.wide.u32", [word offset, word index, marker g.1 "TYPE_SIZE"]⟩
        :: g.2.map fun r => ⟨word "add.u64", [word r, word r, word offset]⟩)
    ++ f.inputs.map (fun c =>
      ⟨word "ld.global." ++ marker c.start "BTYPE", [word c.value, address c.register]⟩)
    ++ [⟨marker "" "OP", word output.value :: f.inputs.map (fun c => word c.value)
          ++ if f.hasField then [marker "" "POS", marker "" "LEN"] else []⟩,
        ⟨word "st.global." ++ marker output.start "BTYPE",
          [address output.register, word output.value]⟩]

/-- The placeholders of a template of the frame. -/
def placeholders (f : Frame) : List (List Char) :=
  "OP".toList :: f.columns.flatMap (fun c =>
      [c.start.toList ++ "BTYPE".toList, c.start.toList ++ "TYPE_SIZE".toList])
    ++ if f.hasField then ["POS".toList, "LEN".toList] else []

/-- The text of a placeholder. -/
def textOf (value : String → List Char) (name : String) : String := String.ofList (value name)

theorem ofList_fill_marker (value : String → List Char) (start name : String) :
    String.ofList ((marker start name).flatMap (Segment.fill value)) =
      textOf value (start ++ name) := by
  simp [marker, Segment.fill, textOf, ← String.toList_append]

theorem ofList_fill_word (value : String → List Char) (s : String) :
    String.ofList ((Segment.ofText s).flatMap (Segment.fill value)) = s := by
  rw [Segment.flatMap_fill_ofText, String.ofList_toList]

theorem ofList_fill_opcode (value : String → List Char) (word start name : String) :
    String.ofList ((Segment.ofText word ++ marker start name).flatMap (Segment.fill value)) =
      word ++ textOf value (start ++ name) := by
  rw [List.flatMap_append, String.ofList_append, ofList_fill_word, ofList_fill_marker]

/-- The instructions of the template, filled, are those of the kernel. -/
theorem map_fill_templates (f : Frame) (value : String → List Char) :
    f.templates.map (InstructionTemplate.fill value) = f.instructions (textOf value) := by
  have hfield : (if f.hasField then [marker "" "POS", marker "" "LEN"] else []).map
      (fun o => String.ofList (o.flatMap (Segment.fill value))) =
      if f.hasField then [textOf value "POS", textOf value "LEN"] else [] := by
    cases f.hasField with
    | true => simp only [if_true, List.map_cons, List.map_nil, ofList_fill_marker]; rfl
    | false => rfl
  simp only [templates, instructions, loads, computation, List.map_append, List.map_map,
    List.map_flatMap, List.map_cons, List.map_nil, Function.comp_def, InstructionTemplate.fill,
    ofList_fill_word, ofList_fill_marker, ofList_fill_opcode, hfield, Instruction.loadParam,
    Instruction.toGlobal, Instruction.loadElement, Instruction.storeElement, List.cons_append]
  rfl

/-- Whether lines are those of a template of the frame: they have no other placeholders, and what is
not quiet of them is the frame. -/
def describes (f : Frame) (lines : List (List Char)) : Bool :=
  lines.all (fun l => decide (Text.IsLine l)
      && (MarkerGrammar.placeholder.segments l).all (Segment.isOf f.placeholders))
    && (Template.program lines).filter (!·.quiet) == f.templates

end Frame

/-- A template of a frame. -/
def Template.Framed (t : Template) (f : Frame) : Prop :=
  ∃ ls, t.text = textOfLines ls ∧ f.describes (ls.map String.toList) = true

namespace Template

/-- **The kernels of a template of a frame.** If the placeholders of the frame have plain values,
expansion succeeds. The address check finds in the kernel what it finds in the frame, and the result
is computed by the same instruction. -/
theorem expandWith_of_framed {t : Template} {f : Frame} {b : Bindings} (h : t.Framed f)
    (hb : ∀ name ∈ f.placeholders,
      (b.get? (String.ofList name)).isSome = true ∧ PlainText (b.value (String.ofList name))) :
    ∃ k, t.expandWith b = .ok k ∧
      (∀ typeOf? trace, (Instruction.ofSource k.source).foldlM (Addressing.step typeOf?) trace =
        (f.instructions (Frame.textOf b.value)).foldlM (Addressing.step typeOf?) trace) ∧
      (Instruction.ofSource k.source).find?
          (·.operands.head? == some Emulator.resultRegister) =
        (f.instructions (Frame.textOf b.value)).find?
          (·.operands.head? == some Emulator.resultRegister) := by
  obtain ⟨ls, htext, hdescribes⟩ := h
  rw [Frame.describes, Bool.and_eq_true, List.all_eq_true] at hdescribes
  obtain ⟨hlines, hprogram⟩ := hdescribes
  have hline : ∀ l ∈ ls, Text.IsLine l.toList ∧
      ∀ s ∈ MarkerGrammar.placeholder.segments l.toList, s.isOf f.placeholders = true := by
    intro l hl
    simpa using hlines l.toList (List.mem_map_of_mem hl)
  obtain ⟨k, hk, hsource⟩ := ofSource_expandWith htext (fun l hl => (hline l hl).1) (b := b)
    fun l hl name hname => by
      obtain ⟨s, hs, hname⟩ := List.mem_filterMap.1 hname
      cases s with
      | literal c => simp [Segment.name?] at hname
      | marker cs =>
          obtain rfl : String.ofList cs = name := by simpa [Segment.name?] using hname
          exact hb cs (by simpa [Segment.isOf] using (hline l hl).2 _ hs)
  have hframe : f.instructions (Frame.textOf b.value) =
      ((program (ls.map String.toList)).filter (!·.quiet)).map (InstructionTemplate.fill b.value) := by
    rw [eq_of_beq hprogram, Frame.map_fill_templates]
  refine ⟨k, hk, ?_, ?_⟩
  · intro typeOf? trace
    rw [hsource, hframe, List.foldlM_map, List.foldlM_map]
    refine Except.foldlM_filter (fun i _ hquiet t => ?_) trace
    exact Addressing.step_of_no_action typeOf? t
      (InstructionTemplate.action?_of_quiet (by simpa using hquiet))
  · rw [hsource, hframe, List.find?_map, List.find?_map, List.find?_filter]
    congr 2
    funext i
    cases hquiet : i.quiet with
    | false => simp [beq_eq_decide]
    | true => simpa using InstructionTemplate.result_of_quiet hquiet

end Template

/-! ### The bundled templates -/

namespace Frame

/-- The first input. -/
def inputA : Column := ⟨"%rd_a", "input_a", "%a", ""⟩

/-- The second input. -/
def inputB : Column := ⟨"%rd_b", "input_b", "%b", ""⟩

/-- The third input. -/
def inputC : Column := ⟨"%rd_c", "input_c", "%c", ""⟩

/-- The second input of a shift, which has a type of its own. -/
def shiftAmount : Column := ⟨"%rd_b", "input_b", "%b", Bindings.shiftPrefix⟩

/-- A frame whose buffers have one type. -/
def elementwise (inputs : List Column) (hasField : Bool) : Frame where
  inputs := inputs
  groups := [("", inputs.map (·.register) ++ [output.register])]
  hasField := hasField

/-- The frame of the bundled template of a class. -/
def ofShape : OperationClass → Frame
  | .binary => elementwise [inputA, inputB] false
  | .unary => elementwise [inputA] false
  | .ternary => elementwise [inputA, inputB, inputC] false
  | .shift =>
    { inputs := [inputA, shiftAmount]
      groups := [("", [inputA.register, output.register]),
        (Bindings.shiftPrefix, [shiftAmount.register])]
      hasField := false }
  | .bitFieldExtract => elementwise [inputA] true
  | .bitFieldInsert => elementwise [inputA, inputB] true

theorem ofShape_wellFormed (shape : OperationClass) : (ofShape shape).WellFormed := by
  cases shape <;>
    exact ⟨by decide, by decide, by decide, by decide, by decide, by decide, by decide⟩

end Frame

/-- Every bundled template has the frame of its class. -/
theorem Template.bundled_framed : ∀ t ∈ bundled, t.Framed (Frame.ofShape t.shape) := by
  simp only [bundled, List.forall_mem_cons, List.not_mem_nil, false_implies, implies_true, and_true]
  refine ⟨⟨_, rfl, ?_⟩, ⟨_, rfl, ?_⟩, ⟨_, rfl, ?_⟩, ⟨_, rfl, ?_⟩, ⟨_, rfl, ?_⟩, ⟨_, rfl, ?_⟩⟩
  -- the characters of the lines are written out first, because evaluation is slow on texts
  all_goals
    simp only [headerLines, indexLines, closingLines, List.cons_append, List.nil_append,
      List.map_cons, List.map_nil]
    repeat rw [String.toList_ofList]
    decide +kernel

end Crosscheck
