import Crosscheck.Device.Emulator
import Crosscheck.Matrix.Point
import Crosscheck.Proofs.Device.Assembly
import Crosscheck.Proofs.Device.Tracing

/-!
# Crosscheck.Proofs.Device.Frame

**Kernels of the usual frame pass the address check.** A kernel of this frame reads the bases of its
buffers, adds to each of them the thread's index times a stride, loads the inputs, computes and stores
the result. `Frame` says which registers and parameters take part, `Frame.instructions` are the
instructions, and `Frame.trace` is what the address check finds out about them: if every stride and
every width belong to the type of the buffer, all inputs are loaded and the output is stored.
-/

namespace Crosscheck

/-! ### Instructions of the frame -/

namespace Instruction

/-- A text that is an operand as it stands: it has neither brackets nor blanks. -/
def IsOperand (s : String) : Prop :=
  ∀ c ∈ s.toList, c ≠ '[' ∧ c ≠ ']' ∧ Text.isBlank c = false

instance (s : String) : Decidable (IsOperand s) := List.decidableBAll _ s.toList

theorem unbracketed_of_isOperand {s : String} (h : IsOperand s) : unbracketed s = s := by
  rw [unbracketed, dropWhile_of_forall_not fun c hc => by simpa using (h c hc).1,
    dropTrailing_of_forall_ne fun c hc => (h c hc).2.1, trim_of_isOperand fun c hc => (h c hc).2.2,
    String.ofList_toList]

/-- An operand in brackets. -/
def bracketed (s : String) : String := "[" ++ s ++ "]"

theorem unbracketed_bracketed {s : String} (h : IsOperand s) : unbracketed (bracketed s) = s := by
  have hopen : (bracketed s).toList.dropWhile (· == '[') = s.toList ++ [']'] := by
    rw [bracketed, String.toList_append, String.toList_append]
    show ((s.toList ++ [']']).dropWhile (· == '[')) = _
    refine dropWhile_of_forall_not fun c hc => ?_
    rcases List.mem_append.1 hc with hc | hc
    · simpa using (h c hc).1
    · obtain rfl : c = ']' := by simpa using hc
      rfl
  have hclose : dropTrailing ']' (s.toList ++ [']']) = s.toList := by
    rw [dropTrailing, List.reverse_append]
    exact dropTrailing_of_forall_ne fun c hc => (h c hc).2.1
  rw [unbracketed, hopen, hclose, trim_of_isOperand fun c hc => (h c hc).2.2, String.ofList_toList]

/-- Reads the base of a buffer. -/
def loadParam (register param : String) : Instruction :=
  ⟨"ld.param.u64", [register, bracketed param]⟩

/-- Makes an address one of global memory. -/
def toGlobal (register : String) : Instruction := ⟨"cvta.to.global.u64", [register, register]⟩

/-- Multiplies an index by a stride. -/
def scaleIndex (dst index stride : String) : Instruction := ⟨"mul.wide.u32", [dst, index, stride]⟩

/-- Adds an offset to an address. -/
def addOffset (register offset : String) : Instruction :=
  ⟨"add.u64", [register, register, offset]⟩

/-- Loads an element. -/
def loadElement (width value register : String) : Instruction :=
  ⟨"ld.global." ++ width, [value, bracketed register]⟩

/-- Stores an element. -/
def storeElement (width value register : String) : Instruction :=
  ⟨"st.global." ++ width, [bracketed register, value]⟩

theorem suffix?_append (start rest : String) (operands : List String) :
    (Instruction.mk (start ++ rest) operands).suffix? start = some rest := by
  have hdrop : Text.dropPrefix? start.toList (start ++ rest).toList = some rest.toList := by
    rw [Text.dropPrefix?_eq_some_iff, String.toList_append]
  rw [suffix?, hdrop, Option.map_some, String.ofList_toList]

section Actions

variable {register param offset index stride width value : String}

theorem action?_loadParam (hr : IsOperand register) (hp : IsOperand param) :
    (loadParam register param).action? = some (.base register param) := by
  simp [action?, arithmetic?, loadParam, addresses, unbracketed_of_isOperand hr,
    unbracketed_bracketed hp]

theorem action?_toGlobal (hr : IsOperand register) :
    (toGlobal register).action? = some (.copy register register) := by
  simp [action?, arithmetic?, toGlobal, addresses, unbracketed_of_isOperand hr]

theorem action?_scaleIndex (ho : IsOperand offset) (hi : IsOperand index) (hs : IsOperand stride) :
    (scaleIndex offset index stride).action? =
      some (.scale offset index (Text.unsigned? 32 stride.toList)) := by
  simp [action?, arithmetic?, scaleIndex, addresses, unbracketed_of_isOperand ho,
    unbracketed_of_isOperand hi, unbracketed_of_isOperand hs]

theorem action?_addOffset (hr : IsOperand register) (ho : IsOperand offset) :
    (addOffset register offset).action? = some (.add register register offset) := by
  simp [action?, arithmetic?, addOffset, addresses, unbracketed_of_isOperand hr,
    unbracketed_of_isOperand ho]

theorem action?_loadElement (hr : IsOperand register) :
    (loadElement width value register).action? = some (.load width register) := by
  have hsuffix : (loadElement width value register).suffix? "ld.global." = some width :=
    suffix?_append _ _ _
  rw [action?, arithmetic?_of_suffix? (.inl hsuffix), access?, hsuffix]
  simp [loadElement, addresses, unbracketed_bracketed hr]

theorem action?_storeElement (hr : IsOperand register) :
    (storeElement width value register).action? = some (.store width register) := by
  have hsuffix : (storeElement width value register).suffix? "st.global." = some width :=
    suffix?_append _ _ _
  have hload : (storeElement width value register).suffix? "ld.global." = none := by
    simp [storeElement, suffix?, Text.dropPrefix?]
  rw [action?, arithmetic?_of_suffix? (.inr hsuffix), access?, hload, hsuffix]
  simp [storeElement, addresses, unbracketed_bracketed hr]

end Actions

end Instruction

/-! ### Frames -/

/-- A buffer of a kernel. -/
structure Column where
  /-- The register of its address. -/
  register : String
  /-- The parameter that passes its base. -/
  param : String
  /-- The register of the element. -/
  value : String
  /-- What the placeholders of its type begin with. -/
  start : String
  deriving DecidableEq, Repr

/-- Which buffers a kernel of the usual frame takes. -/
structure Frame where
  /-- The inputs, in operand order. -/
  inputs : List Column
  /-- The address registers, grouped by what the placeholders of their stride begin with. -/
  groups : List (String × List String)
  /-- Whether the computing instruction takes a bit field. -/
  hasField : Bool
  deriving DecidableEq, Repr

namespace Frame

/-- The register of the offset. -/
def offset : String := "%rd_off"

/-- The register of the thread's index. -/
def index : String := "%r_i"

/-- The output. -/
def output : Column := ⟨"%rd_out", outputName, Emulator.resultRegister, ""⟩

/-- All buffers. -/
def columns (f : Frame) : List Column := f.inputs ++ [output]

/-- The address registers. -/
def registers (f : Frame) : List String := f.columns.map (·.register)

/-- The computing instruction, given the texts of placeholders. -/
def computation (f : Frame) (text : String → String) : Instruction where
  opcode := text "OP"
  operands := output.value :: f.inputs.map (·.value)
    ++ if f.hasField then [text "POS", text "LEN"] else []

/-- Scales the index and adds it to the registers of a group. -/
def addressing (text : String → String) (group : String × List String) : List Instruction :=
  .scaleIndex offset index (text (group.1 ++ "TYPE_SIZE")) :: group.2.map (.addOffset · offset)

/-- The loads of inputs. -/
def loads (text : String → String) (cs : List Column) : List Instruction :=
  cs.map fun c => .loadElement (text (c.start ++ "BTYPE")) c.value c.register

/-- The instructions of a kernel of the frame, given the texts of placeholders. Those that have to do
neither with addresses nor with the result are left out. -/
def instructions (f : Frame) (text : String → String) : List Instruction :=
  f.columns.map (fun c => .loadParam c.register c.param)
    ++ f.columns.map (fun c => .toGlobal c.register)
    ++ f.groups.flatMap (addressing text)
    ++ loads text f.inputs
    ++ [f.computation text,
      .storeElement (text (output.start ++ "BTYPE")) output.value output.register]

/-- No register is used twice, and every buffer gets the stride of its own placeholders. -/
structure WellFormed (f : Frame) : Prop where
  /-- Registers and parameters are written as they are. -/
  operands : ∀ c ∈ f.columns, Instruction.IsOperand c.register ∧ Instruction.IsOperand c.param
  /-- Every buffer has an address register of its own. -/
  nodup : f.registers.Nodup
  /-- The offset has a register of its own. -/
  offset_not_mem : offset ∉ f.registers
  /-- An address gets one offset. -/
  groups_nodup : (f.groups.flatMap (·.2)).Nodup
  /-- Only addresses get offsets, and the strides are those of buffers. -/
  groups_sub : ∀ g ∈ f.groups, (∀ r ∈ g.2, r ∈ f.registers) ∧ ∃ c ∈ f.columns, c.start = g.1
  /-- Every address gets the stride of its buffer. -/
  groups_mem : ∀ c ∈ f.columns, ∃ g ∈ f.groups, g.1 = c.start ∧ c.register ∈ g.2
  /-- Only the computing instruction writes the result. -/
  result : Emulator.resultRegister ∉ f.registers ++ f.inputs.map (·.value)

/-- The texts of placeholders belong to the types of the buffers. -/
structure Fits (f : Frame) (text : String → String) (types : String → ElementType)
    (typeOf? : String → Option ElementType) : Prop where
  /-- The buffers have the types. -/
  typed : ∀ c ∈ f.columns, typeOf? c.param = some (types c.start)
  /-- The strides are the element sizes. -/
  stride : ∀ c ∈ f.columns, Instruction.IsOperand (text (c.start ++ "TYPE_SIZE")) ∧
    Text.unsigned? 32 (text (c.start ++ "TYPE_SIZE")).toList = some (types c.start).bytes.toNat
  /-- The accesses are as wide as the elements. -/
  width : ∀ c ∈ f.columns,
    Addressing.accessBits? (text (c.start ++ "BTYPE")) = some (types c.start).bits
  /-- The computing instruction leaves the trace of addresses alone. -/
  computation : ∀ t : Addressing.Trace, (∀ r, r ≠ offset → r ∉ f.registers → t.registers r = none) →
    Addressing.step typeOf? t (f.computation text) = .ok t

/-! ### The trace of a frame

One lemma for each part of the kernel. A part either says what the registers are afterwards, which is
all that the next part needs, or which buffers were accessed. -/

section Trace

variable (typeOf? : String → Option ElementType) {text : String → String}
  {types : String → ElementType} {f : Frame} (loaded stored : List String)

open Addressing Instruction

/-- After the parameters are read, every address register points to its buffer. -/
theorem trace_loadParams {cs : List Column}
    (hops : ∀ c ∈ cs, IsOperand c.register ∧ IsOperand c.param)
    (hnodup : (cs.map (·.register)).Nodup) (regs : Registers) :
    ∃ regs', (cs.map fun c => loadParam c.register c.param).foldlM (step typeOf?)
        ⟨regs, loaded, stored⟩ = .ok ⟨regs', loaded, stored⟩ ∧
      (∀ c ∈ cs, regs' c.register = some (.pointer c.param none)) ∧
      ∀ r, r ∉ cs.map (·.register) → regs' r = regs r := by
  induction cs generalizing regs with
  | nil => exact ⟨regs, rfl, by simp, fun _ _ => rfl⟩
  | cons c cs ih =>
      obtain ⟨hc, hcs⟩ := List.nodup_cons.1 hnodup
      obtain ⟨hreg, hparam⟩ := hops c (by simp)
      obtain ⟨regs', hrun, hpoint, hframe⟩ := ih (fun d hd => hops d (List.mem_cons_of_mem _ hd)) hcs
        (regs.set c.register (some (.pointer c.param none)))
      refine ⟨regs', ?_, ?_, ?_⟩
      · rw [List.map_cons, List.foldlM_cons, step_of_action? _ _ (action?_loadParam hreg hparam)]
        exact hrun
      · intro d hd
        rcases List.mem_cons.1 hd with rfl | hd
        · rw [hframe _ hc, Registers.set_same]
        · exact hpoint d hd
      · intro r hr
        rw [List.map_cons, List.mem_cons, not_or] at hr
        rw [hframe r hr.2, Registers.set_of_ne _ _ hr.1]

/-- Copying addresses onto themselves changes nothing. -/
theorem trace_toGlobals {cs : List Column} (hops : ∀ c ∈ cs, IsOperand c.register) (t : Trace) :
    (cs.map fun c => toGlobal c.register).foldlM (step typeOf?) t = .ok t := by
  induction cs with
  | nil => rfl
  | cons c cs ih =>
      have hstep : step typeOf? t (toGlobal c.register) = .ok t := by
        rw [step_of_action? _ t (action?_toGlobal (hops c (by simp))), act, Registers.set_self]
      rw [List.map_cons, List.foldlM_cons, hstep, Except.ok_bind,
        ih fun d hd => hops d (List.mem_cons_of_mem _ hd)]

/-- Adding one offset to several pointers. -/
theorem trace_addOffsets {rs : List String} {stride : Nat} (hops : ∀ r ∈ rs, IsOperand r)
    (hnodup : rs.Nodup) (hmem : offset ∉ rs) {regs : Registers}
    (hoffset : regs offset = some (.offset stride))
    (hbase : ∀ r ∈ rs, ∃ p, regs r = some (.pointer p none)) :
    ∃ regs', (rs.map (addOffset · offset)).foldlM (step typeOf?) ⟨regs, loaded, stored⟩ =
        .ok ⟨regs', loaded, stored⟩ ∧
      (∀ r ∈ rs, ∀ p, regs r = some (.pointer p none) → regs' r = some (.pointer p (some stride))) ∧
      ∀ r, r ∉ rs → regs' r = regs r := by
  induction rs generalizing regs with
  | nil => exact ⟨regs, rfl, by simp, fun _ _ => rfl⟩
  | cons r rs ih =>
      obtain ⟨hr, hrs⟩ := List.nodup_cons.1 hnodup
      rw [List.mem_cons, not_or] at hmem
      obtain ⟨p, hp⟩ := hbase r (by simp)
      have hother : ∀ s ∈ rs, s ≠ r := fun s hs heq => hr (heq ▸ hs)
      have hstep : step typeOf? ⟨regs, loaded, stored⟩ (addOffset r offset) =
          .ok ⟨regs.set r (some (.pointer p (some stride))), loaded, stored⟩ := by
        rw [step_of_action? _ _ (action?_addOffset (hops r (by simp)) (by decide))]
        simp only [act, hp, hoffset]
        rfl
      have hoffset' : regs.set r (some (.pointer p (some stride))) offset = some (.offset stride) := by
        rw [Registers.set_of_ne _ _ hmem.1, hoffset]
      have hbase' : ∀ s ∈ rs, ∃ q,
          regs.set r (some (.pointer p (some stride))) s = some (.pointer q none) := by
        intro s hs
        rw [Registers.set_of_ne _ _ (hother s hs)]
        exact hbase s (List.mem_cons_of_mem _ hs)
      obtain ⟨regs', hrun, hpoint, hframe⟩ :=
        ih (fun s hs => hops s (List.mem_cons_of_mem _ hs)) hrs hmem.2 hoffset' hbase'
      refine ⟨regs', ?_, ?_, ?_⟩
      · rw [List.map_cons, List.foldlM_cons, hstep]
        exact hrun
      · intro s hs q hq
        rcases List.mem_cons.1 hs with rfl | hs
        · obtain rfl : p = q := by simpa [hp] using hq
          rw [hframe _ hr, Registers.set_same]
        · exact hpoint s hs q (by rw [Registers.set_of_ne _ _ (hother s hs), hq])
      · intro s hs
        rw [List.mem_cons, not_or] at hs
        rw [hframe s hs.2, Registers.set_of_ne _ _ hs.1]

/-- Scaling the index and adding it to the pointers of a group. -/
theorem trace_addressing {group : String × List String} {stride : Nat}
    (hops : ∀ r ∈ group.2, IsOperand r) (hnodup : group.2.Nodup) (hmem : offset ∉ group.2)
    (hoperand : IsOperand (text (group.1 ++ "TYPE_SIZE")))
    (hstride : Text.unsigned? 32 (text (group.1 ++ "TYPE_SIZE")).toList = some stride)
    {regs : Registers} (hbase : ∀ r ∈ group.2, ∃ p, regs r = some (.pointer p none)) :
    ∃ regs', (addressing text group).foldlM (step typeOf?) ⟨regs, loaded, stored⟩ =
        .ok ⟨regs', loaded, stored⟩ ∧
      (∀ r ∈ group.2, ∀ p, regs r = some (.pointer p none) →
        regs' r = some (.pointer p (some stride))) ∧
      ∀ r, r ∉ group.2 → r ≠ offset → regs' r = regs r := by
  have hne : ∀ r ∈ group.2, r ≠ offset := fun r hr heq => hmem (heq ▸ hr)
  have hbase' : ∀ r ∈ group.2, ∃ p,
      regs.set offset (some (.offset stride)) r = some (.pointer p none) := by
    intro r hr
    rw [Registers.set_of_ne _ _ (hne r hr)]
    exact hbase r hr
  obtain ⟨regs', hrun, hpoint, hframe⟩ := trace_addOffsets typeOf? loaded stored hops hnodup
    hmem (Registers.set_same regs offset _) hbase'
  refine ⟨regs', ?_, ?_, ?_⟩
  · rw [addressing, List.foldlM_cons,
      step_of_action? _ _ (action?_scaleIndex (by decide) (by decide) hoperand), hstride]
    exact hrun
  · intro r hr p hp
    exact hpoint r hr p (by rw [Registers.set_of_ne _ _ (hne r hr), hp])
  · intro r hr hoff
    rw [hframe r hr, Registers.set_of_ne _ _ hoff]

/-- The address arithmetic of all groups. -/
theorem trace_groups (text : String → String) (strides : String → Nat)
    {groups : List (String × List String)}
    (hops : ∀ g ∈ groups, ∀ r ∈ g.2, IsOperand r) (hnodup : (groups.flatMap (·.2)).Nodup)
    (hmem : offset ∉ groups.flatMap (·.2))
    (hstrides : ∀ g ∈ groups, IsOperand (text (g.1 ++ "TYPE_SIZE")) ∧
      Text.unsigned? 32 (text (g.1 ++ "TYPE_SIZE")).toList = some (strides g.1))
    (regs : Registers) (hbase : ∀ g ∈ groups, ∀ r ∈ g.2, ∃ p, regs r = some (.pointer p none)) :
    ∃ regs', (groups.flatMap (addressing text)).foldlM (step typeOf?) ⟨regs, loaded, stored⟩ =
        .ok ⟨regs', loaded, stored⟩ ∧
      (∀ g ∈ groups, ∀ r ∈ g.2, ∀ p, regs r = some (.pointer p none) →
        regs' r = some (.pointer p (some (strides g.1)))) ∧
      ∀ r, r ∉ groups.flatMap (·.2) → r ≠ offset → regs' r = regs r := by
  induction groups generalizing regs with
  | nil => exact ⟨regs, rfl, by simp, fun _ _ _ => rfl⟩
  | cons g gs ih =>
      rw [List.flatMap_cons, List.nodup_append] at hnodup
      obtain ⟨hg, hgs, hdisjoint⟩ := hnodup
      rw [List.flatMap_cons, List.mem_append, not_or] at hmem
      obtain ⟨hoperand, hstride⟩ := hstrides g (by simp)
      obtain ⟨middle, hfirst, hpoint, hframe⟩ := trace_addressing typeOf? loaded stored
        (hops g (by simp)) hg hmem.1 hoperand hstride (hbase g (by simp))
      -- the registers of later groups are still as they were
      have hlater : ∀ h ∈ gs, ∀ r ∈ h.2, middle r = regs r := by
        intro h hh r hr
        have hrgs : r ∈ gs.flatMap (·.2) := List.mem_flatMap.2 ⟨h, hh, hr⟩
        exact hframe r (fun hrg => hdisjoint r hrg r hrgs rfl) fun heq => hmem.2 (heq ▸ hrgs)
      obtain ⟨regs', hrest, hpoints, hframes⟩ := ih
        (fun h hh => hops h (List.mem_cons_of_mem _ hh)) hgs hmem.2
        (fun h hh => hstrides h (List.mem_cons_of_mem _ hh)) middle
        fun h hh r hr => by
          rw [hlater h hh r hr]
          exact hbase h (List.mem_cons_of_mem _ hh) r hr
      refine ⟨regs', ?_, ?_, ?_⟩
      · rw [List.flatMap_cons, List.foldlM_append, hfirst]
        exact hrest
      · intro h hh r hr p hp
        rcases List.mem_cons.1 hh with rfl | hh
        · have hrgs : r ∉ gs.flatMap (·.2) := fun hrgs => hdisjoint r hr r hrgs rfl
          rw [hframes r hrgs fun heq => hmem.1 (heq ▸ hr), hpoint r hr p hp]
        · exact hpoints h hh r hr p (by rw [hlater h hh r hr, hp])
      · intro r hr hoff
        rw [List.flatMap_cons, List.mem_append, not_or] at hr
        rw [hframes r hr.2 hoff, hframe r hr.1 hoff]

/-- Loading the inputs through pointers with the right strides. -/
theorem trace_loads {cs : List Column} {regs : Registers} (hops : ∀ c ∈ cs, IsOperand c.register)
    (hregs : ∀ c ∈ cs,
      regs c.register = some (.pointer c.param (some (types c.start).bytes.toNat)))
    (htyped : ∀ c ∈ cs, typeOf? c.param = some (types c.start))
    (hwidth : ∀ c ∈ cs, accessBits? (text (c.start ++ "BTYPE")) = some (types c.start).bits)
    (loaded : List String) :
    (loads text cs).foldlM (step typeOf?) ⟨regs, loaded, stored⟩ =
      .ok ⟨regs, (cs.map (·.param)).reverse ++ loaded, stored⟩ := by
  induction cs generalizing loaded with
  | nil => rfl
  | cons c cs ih =>
      have hstep : step typeOf? ⟨regs, loaded, stored⟩
          (loadElement (text (c.start ++ "BTYPE")) c.value c.register) =
          .ok ⟨regs, c.param :: loaded, stored⟩ := by
        rw [step_of_action? _ _ (action?_loadElement (hops c (by simp))), act,
          checkAccess_eq_ok.2 ⟨_, hwidth c (by simp), hregs c (by simp), htyped c (by simp)⟩]
        rfl
      rw [loads, List.map_cons, List.foldlM_cons, hstep, Except.ok_bind, ← loads,
        ih (fun d hd => hops d (List.mem_cons_of_mem _ hd))
          (fun d hd => hregs d (List.mem_cons_of_mem _ hd))
          (fun d hd => htyped d (List.mem_cons_of_mem _ hd))
          (fun d hd => hwidth d (List.mem_cons_of_mem _ hd))]
      simp

/-- **The trace of a frame.** All inputs are loaded and the output is stored. -/
theorem trace (hf : f.WellFormed) (hfits : f.Fits text types typeOf?) :
    ∃ regs, (f.instructions text).foldlM (step typeOf?) ⟨.empty, [], []⟩ =
      .ok ⟨regs, (f.inputs.map (·.param)).reverse, [output.param]⟩ := by
  have hinput : ∀ c ∈ f.inputs, c ∈ f.columns := fun c hc => List.mem_append_left _ hc
  have houtput : output ∈ f.columns := List.mem_append_right _ (by simp)
  obtain ⟨bases, hbases, hpoint, hempty⟩ := trace_loadParams typeOf? [] [] hf.operands hf.nodup
    Registers.empty
  have hgroup : ∀ g ∈ f.groups, ∀ r ∈ g.2, r ∈ f.registers := fun g hg => (hf.groups_sub g hg).1
  have hsub : ∀ r, r ∈ f.groups.flatMap (·.2) → r ∈ f.registers := by
    intro r hr
    obtain ⟨g, hg, hr⟩ := List.mem_flatMap.1 hr
    exact hgroup g hg r hr
  have hcolumn : ∀ g ∈ f.groups, ∀ r ∈ g.2, ∃ c ∈ f.columns, c.register = r :=
    fun g hg r hr => List.mem_map.1 (hgroup g hg r hr)
  obtain ⟨regs, haddressing, hpoints, hframe⟩ := trace_groups typeOf? [] [] text
    (fun start => (types start).bytes.toNat)
    (fun g hg r hr => by
      obtain ⟨c, hc, rfl⟩ := hcolumn g hg r hr
      exact (hf.operands c hc).1)
    hf.groups_nodup (fun hmem => hf.offset_not_mem (hsub _ hmem))
    (fun g hg => by
      obtain ⟨c, hc, hstart⟩ := (hf.groups_sub g hg).2
      rw [← hstart]
      exact hfits.stride c hc)
    bases fun g hg r hr => by
      obtain ⟨c, hc, rfl⟩ := hcolumn g hg r hr
      exact ⟨c.param, hpoint c hc⟩
  have hregs : ∀ c ∈ f.columns,
      regs c.register = some (.pointer c.param (some (types c.start).bytes.toNat)) := by
    intro c hc
    obtain ⟨g, hg, hstart, hr⟩ := hf.groups_mem c hc
    rw [hpoints g hg c.register hr c.param (hpoint c hc), hstart]
  have huntracked : ∀ r, r ≠ offset → r ∉ f.registers → regs r = none := by
    intro r hoff hr
    rw [hframe r (fun hmem => hr (hsub r hmem)) hoff, hempty r hr]
    rfl
  have hloads := trace_loads typeOf? [] (fun c hc => (hf.operands c (hinput c hc)).1)
    (fun c hc => hregs c (hinput c hc)) (fun c hc => hfits.typed c (hinput c hc))
    (fun c hc => hfits.width c (hinput c hc)) []
  have hstore : step typeOf? ⟨regs, (f.inputs.map (·.param)).reverse, []⟩
      (storeElement (text (output.start ++ "BTYPE")) output.value output.register) =
      .ok ⟨regs, (f.inputs.map (·.param)).reverse, [output.param]⟩ := by
    rw [step_of_action? _ _ (action?_storeElement (hf.operands _ houtput).1), act,
      checkAccess_eq_ok.2 ⟨_, hfits.width _ houtput, hregs _ houtput, hfits.typed _ houtput⟩]
    rfl
  refine ⟨regs, ?_⟩
  rw [instructions, List.foldlM_append, List.foldlM_append, List.foldlM_append, List.foldlM_append,
    hbases, Except.ok_bind, trace_toGlobals typeOf? fun c hc => (hf.operands c hc).1, Except.ok_bind,
    haddressing, Except.ok_bind, hloads, Except.ok_bind, List.append_nil, List.foldlM_cons,
    hfits.computation _ huntracked, Except.ok_bind, List.foldlM_cons, hstore]
  rfl

end Trace

/-- **The computing instruction of a frame** is the first one that writes the result. -/
theorem find?_result {f : Frame} (hf : f.WellFormed) (text : String → String) :
    (f.instructions text).find? (·.operands.head? == some Emulator.resultRegister) =
      some (f.computation text) := by
  have hresult := hf.result
  rw [List.mem_append, not_or] at hresult
  have hregister : ∀ r ∈ f.registers, r ≠ Emulator.resultRegister :=
    fun r hr heq => hresult.1 (heq ▸ hr)
  have hcolumn : ∀ c ∈ f.columns, c.register ≠ Emulator.resultRegister :=
    fun c hc => hregister _ (List.mem_map_of_mem hc)
  have hvalue : ∀ c ∈ f.inputs, c.value ≠ Emulator.resultRegister :=
    fun c hc heq => hresult.2 (List.mem_map.2 ⟨c, hc, heq⟩)
  rw [instructions, List.find?_append, List.find?_eq_none.2, Option.none_or]
  · rw [List.find?_cons_of_pos]
    simp [computation, output]
  · intro i hi
    simp only [List.mem_append, or_assoc] at hi
    rcases hi with hi | hi | hi | hi
    · obtain ⟨c, hc, rfl⟩ := List.mem_map.1 hi
      simpa [Instruction.loadParam] using hcolumn c hc
    · obtain ⟨c, hc, rfl⟩ := List.mem_map.1 hi
      simpa [Instruction.toGlobal] using hcolumn c hc
    · obtain ⟨g, hg, hi⟩ := List.mem_flatMap.1 hi
      rcases List.mem_cons.1 hi with rfl | hi
      · simp only [Instruction.scaleIndex, List.head?_cons]
        decide
      · obtain ⟨r, hr, rfl⟩ := List.mem_map.1 hi
        simpa [Instruction.addOffset] using hregister r ((hf.groups_sub g hg).1 r hr)
    · obtain ⟨c, hc, rfl⟩ := List.mem_map.1 hi
      simpa [Instruction.loadElement] using hvalue c hc

end Frame

end Crosscheck
