import Crosscheck.Proofs.Device.Soundness

/-!
# Crosscheck.Proofs.Device.Overwriting

**What the trace knows of a register that something else has overwritten.** Only the four instructions
of address arithmetic change what is known of a register, so the trace goes on with the address that a
register held before any other instruction wrote it (`Addressing.check_of_overwritten`). A kernel that
moves an address, or adds to it with another opcode, is checked as if it did not.
-/

namespace Crosscheck

namespace Instruction

/-- The opcodes of address arithmetic. -/
def arithmeticOpcodes : List String :=
  ["ld.param.u64", "cvta.to.global.u64", "mul.wide.u32", "add.u64"]

theorem arithmetic?_of_opcode {i : Instruction} (h : i.opcode ∉ arithmeticOpcodes) :
    i.arithmetic? = none := by
  simp only [arithmeticOpcodes, List.mem_cons, List.not_mem_nil, or_false, not_or] at h
  unfold arithmetic?
  split
  case h_5 => rfl
  all_goals simp_all

/-- The register that an instruction writes: its first operand, unless that is an address. -/
def destination? (i : Instruction) : Option String :=
  i.operands.head?.filter fun operand => operand.toList.head? ≠ some '['

end Instruction

namespace Addressing

open Instruction

variable {typeOf? : String → Option ElementType} {r : String}

/-! ### Only actions matter -/

theorem foldlM_step_eq_act (is : List Instruction) (t : Trace) :
    is.foldlM (step typeOf?) t = (is.filterMap action?).foldlM (act typeOf?) t := by
  induction is generalizing t with
  | nil => rfl
  | cons i is ih =>
      rw [List.foldlM_cons, step_eq_act]
      cases ha : i.action? with
      | none => simp [ha, ih]
      | some a => simp [ha, ih]

/-- What is known of a register changes only where address arithmetic writes it. -/
theorem registers_of_act {t t' : Trace} {a : AddressAction} (hr : a.target? ≠ some r)
    (h : act typeOf? t a = .ok t') : t'.registers r = t.registers r := by
  cases a with
  | base dst param | copy dst src | scale dst index stride =>
      cases h
      exact Registers.set_of_ne _ _ fun heq => hr (by rw [heq, AddressAction.target?])
  | add dst a b =>
      obtain ⟨known, -, h⟩ := Except.bind_eq_ok.1 h
      cases h
      exact Registers.set_of_ne _ _ fun heq => hr (by rw [heq, AddressAction.target?])
  | load width register | store width register =>
      obtain ⟨name, -, h⟩ := Except.bind_eq_ok.1 h
      cases h
      rfl

theorem registers_of_step_of_ne {t t' : Trace} {i : Instruction}
    (hr : ∀ a, i.action? = some a → a.target? ≠ some r) (h : step typeOf? t i = .ok t') :
    t'.registers r = t.registers r := by
  rw [step_eq_act] at h
  cases ha : i.action? with
  | none =>
      cases (ha ▸ h : Except.ok t = Except.ok t')
      rfl
  | some a =>
      simp only [ha] at h
      exact registers_of_act (hr a ha) h

/-- Whatever address arithmetic writes to a register from here on is not known. -/
def NeverKnown (typeOf? : String → Option ElementType) (r : String) :
    List Instruction → Trace → Prop
  | [], _ => True
  | i :: is, t => ∀ t', step typeOf? t i = .ok t' →
    ((∃ a, i.action? = some a ∧ a.target? = some r) → t'.registers r = none) ∧
      NeverKnown typeOf? r is t'

/-- Where a register gets no known content, it keeps what is known of it or loses it. -/
theorem NeverKnown.registers {is : List Instruction} {t t' : Trace}
    (h : NeverKnown typeOf? r is t) (hrun : is.foldlM (step typeOf?) t = .ok t') :
    t'.registers r = t.registers r ∨ t'.registers r = none := by
  induction is generalizing t with
  | nil =>
      cases hrun
      exact .inl rfl
  | cons i is ih =>
      rw [List.foldlM_cons, Except.bind_eq_ok] at hrun
      obtain ⟨u, hstep, hrest⟩ := hrun
      obtain ⟨hwrites, htail⟩ := h u hstep
      have hrun := ih htail hrest
      by_cases htarget : ∃ a, i.action? = some a ∧ a.target? = some r
      · exact .inr (hrun.elim (fun heq => heq.trans (hwrites htarget)) id)
      · rwa [registers_of_step_of_ne (fun a ha hr => htarget ⟨a, ha, hr⟩) hstep] at hrun

/-- An access passes only through a register that is known to hold the address of an element. -/
theorem pointer_of_access {t t' : Trace} {i : Instruction} {width : String}
    (haccess : i.action? = some (.load width r) ∨ i.action? = some (.store width r))
    (h : step typeOf? t i = .ok t') :
    ∃ name stride, t.registers r = some (.pointer name (some stride)) := by
  rcases haccess with ha | ha
  all_goals
    rw [step_of_action? _ _ ha, act, Except.bind_eq_ok] at h
    obtain ⟨name, hpass, -⟩ := h
    obtain ⟨type, -, hpointer, -⟩ := checkAccess_eq_ok.1 hpass
    exact ⟨name, _, hpointer⟩

/-- Kernels that do the same with addresses pass the check together. -/
theorem check_congr {source other : String} {units others : List (Option Instruction)}
    (hsource : List.Forall₂ Stands (Text.lines source) units)
    (hother : List.Forall₂ Stands (Text.lines other) others)
    (h : (units.filterMap id).filterMap action? = (others.filterMap id).filterMap action?)
    (inputs : List Buffer) (outputs : List BufferSpec) :
    check source inputs outputs = check other inputs outputs := by
  have htrace : (ofSource source).foldlM (step (Addressing.typeOf? inputs outputs)) ⟨.empty, [], []⟩ =
      (ofSource other).foldlM (step (Addressing.typeOf? inputs outputs)) ⟨.empty, [], []⟩ := by
    rw [ofSource, ofSource, foldlM_step_of_stands hsource, foldlM_step_of_stands hother,
      foldlM_step_eq_act, foldlM_step_eq_act, h]
  rw [check, check, htrace]

/-- **An instruction outside address arithmetic may overwrite what it likes.** The check accepts an
access through a register only if the register held the address of an element before any such
instruction, unless address arithmetic has made it one since. But this is all that it asks for: an
instruction that accesses nothing does not change the verdict, whichever registers it writes. -/
theorem check_of_overwritten {source : String} {units : List (Option Instruction)}
    {inputs : List Buffer} {outputs : List BufferSpec} {before middle after : List Instruction}
    {i j : Instruction} {width : String} (hsource : List.Forall₂ Stands (Text.lines source) units)
    (hkernel : units.filterMap id = before ++ i :: (middle ++ j :: after))
    (hopcode : i.opcode ∉ arithmeticOpcodes)
    (hmiddle : ∀ t, (before ++ [i]).foldlM (step (Addressing.typeOf? inputs outputs))
      ⟨.empty, [], []⟩ = .ok t → NeverKnown (Addressing.typeOf? inputs outputs) r middle t)
    (haccess : j.action? = some (.load width r) ∨ j.action? = some (.store width r)) :
    (check source inputs outputs = .ok () →
      ∃ t name stride, before.foldlM (step (Addressing.typeOf? inputs outputs)) ⟨.empty, [], []⟩ = .ok t ∧
        t.registers r = some (.pointer name (some stride))) ∧
    (i.access? = none → ∀ shorter others, List.Forall₂ Stands (Text.lines shorter) others →
      others.filterMap id = before ++ (middle ++ j :: after) →
        check source inputs outputs = check shorter inputs outputs) := by
  have harith : i.arithmetic? = none := arithmetic?_of_opcode hopcode
  refine ⟨fun hcheck => ?_, fun hnone shorter others hshorter hothers => ?_⟩
  · obtain ⟨last, htrace, -, -⟩ := check_eq_ok.1 hcheck
    rw [ofSource, foldlM_step_of_stands hsource, hkernel, List.foldlM_append, Except.bind_eq_ok] at htrace
    obtain ⟨t, hbefore, htrace⟩ := htrace
    rw [List.foldlM_cons, Except.bind_eq_ok] at htrace
    obtain ⟨u, hi, htrace⟩ := htrace
    rw [List.foldlM_append, Except.bind_eq_ok] at htrace
    obtain ⟨v, hmid, htrace⟩ := htrace
    rw [List.foldlM_cons, Except.bind_eq_ok] at htrace
    obtain ⟨w, hj, -⟩ := htrace
    -- what the access finds in the register was there before the middle, and so before `i`
    obtain ⟨name, stride, hpointer⟩ := pointer_of_access haccess hj
    have hreach : (before ++ [i]).foldlM (step (Addressing.typeOf? inputs outputs)) ⟨.empty, [], []⟩ =
        .ok u := by
      simp [List.foldlM_append, hbefore, hi]
    rcases (hmiddle u hreach).registers hmid with hkept | hlost
    · refine ⟨t, name, stride, hbefore, ?_⟩
      rw [← registers_of_step harith hi, ← hkept, hpointer]
    · rw [hlost] at hpointer
      cases hpointer
  · have hi : i.action? = none := by rw [action?, harith, hnone]
    refine check_congr hsource hshorter ?_ inputs outputs
    rw [hkernel, hothers]
    simp [hi]

section Restriding

/-- The code of a kernel that first adds the offset of an input element to the base of the input. Then
it adds the offset of an output element instead, with an opcode that the trace does not follow, and
loads from there. -/
def restriding : List (String × String) :=
  [("ld.param.u64", "%a, [in]"),
    ("ld.param.u64", "%b, [out]"),
    ("mul.wide.u32", "%o, %i, 4"),
    ("mul.wide.u32", "%w, %i, 8"),
    ("add.u64", "%b, %b, %w"),
    ("add.u64", "%p, %a, %o"),
    ("add.s64", "%p, %a, %w"),
    ("ld.global.b32", "%v, [%p]"),
    ("not.b64", "%d, %v"),
    ("st.global.b64", "[%b], %d")]

/-- The code up to the first addition to the base. -/
def addressing : List Instruction := (restriding.take 6).map codeInstruction

/-- The code after the load. -/
def complementing : List Instruction := (restriding.drop 8).map codeInstruction

def narrowInputs : List Buffer := [⟨"in", ⟨"b32", 32, 4, .bits⟩, []⟩]

def wideOutputs : List BufferSpec := [⟨"out", ⟨"b64", 64, 8, .bits⟩, 0⟩]

/-- The text of a code, one instruction to a line. -/
def sourceOf (code : List (String × String)) : String :=
  String.ofList ((code.map codeLine).flatMap (· ++ ['\n']))

theorem stands_sourceOf {code : List (String × String)}
    (hcode : ∀ c ∈ code, Text.IsLine (codeLine c) ∧ IsOpcode c.1.toList ∧ IsCode c.2.toList) :
    List.Forall₂ Stands (Text.lines (sourceOf code)) ((code.map codeInstruction).map some) := by
  have hlines : ∀ line ∈ code.map codeLine, Text.IsLine line := by
    intro line hmem
    obtain ⟨c, hc, rfl⟩ := List.mem_map.1 hmem
    exact (hcode c hc).1
  rw [sourceOf, Text.lines_ofList_flatMap hlines, List.map_map, List.forall₂_map_left_iff,
    List.forall₂_map_right_iff, List.forall₂_same]
  exact fun c hmem => stands_codeLine (hcode c hmem).2.1 (hcode c hmem).2.2

theorem stands_restriding :
    List.Forall₂ Stands (Text.lines (sourceOf restriding)) ((restriding.map codeInstruction).map some) :=
  stands_sourceOf (by decide +kernel)

theorem check_restriding : check (sourceOf restriding) narrowInputs wideOutputs = .ok () := by
  rw [check, ofSource, foldlM_step_of_stands stands_restriding]
  decide +kernel

/-- The load goes through what `add.s64` has left in the register, and the check accepts it. -/
theorem check_accepts_overwritten :
    ∃ before i j after,
      List.Forall₂ Stands (Text.lines (sourceOf restriding)) ((before ++ i :: j :: after).map some) ∧
      i.opcode ∉ arithmeticOpcodes ∧ i.destination? = some "%p" ∧
      j.action? = some (.load "b32" "%p") ∧
      check (sourceOf restriding) narrowInputs wideOutputs = .ok () := by
  refine ⟨addressing, codeInstruction ("add.s64", "%p, %a, %w"),
    codeInstruction ("ld.global.b32", "%v, [%p]"), complementing, stands_restriding, ?_, ?_, ?_,
    check_restriding⟩
  all_goals decide +kernel

/-- The address of the load is the one of the first addition, and the second makes no difference. -/
theorem check_of_overwritten_restriding :
    (∃ t name stride,
      addressing.foldlM (step (Addressing.typeOf? narrowInputs wideOutputs)) ⟨.empty, [], []⟩ = .ok t ∧
      t.registers "%p" = some (.pointer name (some stride))) ∧
    check (sourceOf restriding) narrowInputs wideOutputs =
      check (sourceOf (restriding.eraseIdx 6)) narrowInputs wideOutputs := by
  have hkernel : ((restriding.map codeInstruction).map some).filterMap id =
      addressing ++ codeInstruction ("add.s64", "%p, %a, %w") :: ([] ++
        codeInstruction ("ld.global.b32", "%v, [%p]") :: complementing) := by
    rw [List.filterMap_map, Function.id_comp, List.filterMap_some]
    rfl
  have hload : (codeInstruction ("ld.global.b32", "%v, [%p]")).action? = some (.load "b32" "%p") := by
    decide +kernel
  obtain ⟨hknown, hsame⟩ := check_of_overwritten stands_restriding hkernel (by decide +kernel)
    (fun _ _ => trivial) (.inl hload)
  exact ⟨hknown check_restriding, hsame (by decide +kernel) _ _
    (stands_sourceOf (by decide +kernel)) rfl⟩

end Restriding

end Addressing

end Crosscheck
