import Crosscheck.Device.Addressing
import Crosscheck.Proofs.List

/-!
# Crosscheck.Proofs.Device.Tracing

**What an instruction does to the trace of addresses, said once.** Of all instructions the trace
takes notice of six forms: four that compute addresses and two that use one. `Instruction.action?`
names the form, `Addressing.act` is its effect, and `step_eq_act` says that a step of the trace is
this effect and nothing else. Everything about the trace is proved by cases on the action.
-/

namespace Crosscheck

namespace Registers

@[simp] theorem set_same (regs : Registers) (name : String) (value : Option Address) :
    regs.set name value name = value := by
  simp [set]

theorem set_of_ne (regs : Registers) {name other : String} (value : Option Address)
    (h : other ≠ name) : regs.set name value other = regs other := by
  simp [set, h]

@[simp] theorem set_self (regs : Registers) (name : String) : regs.set name (regs name) = regs := by
  funext other
  by_cases h : other = name
  · rw [h, set_same]
  · rw [set_of_ne regs _ h]

end Registers

/-- What an instruction does with addresses. -/
inductive AddressAction where
  /-- Reads the base of the buffer that a parameter passes. -/
  | base (dst param : String)
  /-- Copies an address. -/
  | copy (dst src : String)
  /-- Multiplies an index by a stride, which is known if it is written as a number. -/
  | scale (dst index : String) (stride : Option Nat)
  /-- Adds. -/
  | add (dst a b : String)
  /-- Loads through an address. -/
  | load (width register : String)
  /-- Stores through an address. -/
  | store (width register : String)
  deriving DecidableEq, Repr

namespace Instruction

/-- How an instruction computes an address, if it does. -/
def arithmetic? (i : Instruction) : Option AddressAction :=
  match i.opcode, i.addresses with
  | "ld.param.u64", [dst, param] => some (.base dst param)
  | "cvta.to.global.u64", [dst, src] => some (.copy dst src)
  | "mul.wide.u32", [dst, index, stride] =>
    some (.scale dst index (Text.unsigned? 32 stride.toList))
  | "add.u64", [dst, a, b] => some (.add dst a b)
  | _, _ => none

/-- How an instruction accesses memory through an address, if it does. -/
def access? (i : Instruction) : Option AddressAction :=
  match i.suffix? "ld.global.", i.addresses with
  | some width, _ :: register :: _ => some (.load width register)
  | some _, _ => none
  | none, addresses =>
    match i.suffix? "st.global.", addresses with
    | some width, register :: _ => some (.store width register)
    | _, _ => none

/-- What an instruction does with addresses, if anything. -/
def action? (i : Instruction) : Option AddressAction :=
  match i.arithmetic? with
  | some a => some a
  | none => i.access?

/-- An opcode with a suffix is the beginning and the suffix. -/
theorem opcode_of_suffix? {i : Instruction} {start rest : String}
    (h : i.suffix? start = some rest) : i.opcode = start ++ rest := by
  obtain ⟨cs, hcs, rfl⟩ := Option.map_eq_some_iff.1 h
  rw [Text.dropPrefix?_eq_some_iff] at hcs
  apply String.toList_inj.1
  simpa using hcs

/-- No opcode is both a load and a store. -/
theorem suffix?_store_of_load {i : Instruction} {width : String}
    (h : i.suffix? "ld.global." = some width) : i.suffix? "st.global." = none := by
  have hchars : i.opcode.toList = "ld.global.".toList ++ width.toList := by
    rw [opcode_of_suffix? h, String.toList_append]
  rw [suffix?, hchars]
  simp [Text.dropPrefix?]

/-- An instruction of address arithmetic accesses nothing. -/
theorem suffix?_of_arithmetic? {i : Instruction} {a : AddressAction} (h : i.arithmetic? = some a) :
    i.suffix? "ld.global." = none ∧ i.suffix? "st.global." = none := by
  rw [arithmetic?] at h
  split at h
  case h_5 => cases h
  all_goals
    rename_i hop _
    simp [suffix?, hop, Text.dropPrefix?]

/-- An instruction that accesses memory computes no address. -/
theorem arithmetic?_of_suffix? {i : Instruction} {width : String}
    (h : i.suffix? "ld.global." = some width ∨ i.suffix? "st.global." = some width) :
    i.arithmetic? = none := by
  cases harith : i.arithmetic? with
  | none => rfl
  | some a =>
      obtain ⟨hl, hs⟩ := suffix?_of_arithmetic? harith
      rcases h with h | h
      · simp [hl] at h
      · simp [hs] at h

/-- An access loads or stores. -/
theorem access?_eq_some {i : Instruction} {a : AddressAction} (h : i.access? = some a) :
    (∃ width register, a = .load width register) ∨ ∃ width register, a = .store width register := by
  rw [access?] at h
  split at h
  · cases h
    exact .inl ⟨_, _, rfl⟩
  · cases h
  · split at h
    · cases h
      exact .inr ⟨_, _, rfl⟩
    · cases h

/-- What the opcodes that have to do with addresses begin with. -/
def addressOpcodes : List String :=
  ["ld.param.u64", "cvta.to.global.u64", "mul.wide.u32", "add.u64", "ld.global.", "st.global."]

theorem suffix?_eq_none {i : Instruction} {start : String}
    (h : ¬ start.toList <+: i.opcode.toList) : i.suffix? start = none := by
  rw [suffix?, Option.map_eq_none_iff]
  cases hrest : Text.dropPrefix? start.toList i.opcode.toList with
  | none => rfl
  | some rest => exact absurd ⟨rest, (Text.dropPrefix?_eq_some_iff.1 hrest).symm⟩ h

theorem action?_eq_none {i : Instruction}
    (h : ∀ start ∈ addressOpcodes, ¬ start.toList <+: i.opcode.toList) : i.action? = none := by
  have hne : ∀ start ∈ addressOpcodes, i.opcode ≠ start := by
    rintro start hstart rfl
    exact h _ hstart (List.prefix_refl _)
  simp only [addressOpcodes, List.mem_cons, List.not_mem_nil, or_false, forall_eq_or_imp,
    forall_eq] at h hne
  have harith : i.arithmetic? = none := by
    rw [arithmetic?]
    split <;> simp_all
  rw [action?, harith, access?, suffix?_eq_none h.2.2.2.2.1, suffix?_eq_none h.2.2.2.2.2]

end Instruction

namespace Addressing

/-- In a launch without repeated names, every buffer has its own type. -/
theorem typeOf?_of_mem {inputs : List Buffer} {outputs : List BufferSpec} {name : String}
    {type : ElementType} (hnodup : (inputs.map (·.name) ++ outputs.map (·.name)).Nodup)
    (hmem : (name, type) ∈ inputs.map (fun b => (b.name, b.type)) ++
      outputs.map (fun s => (s.name, s.type))) :
    typeOf? inputs outputs name = some type := by
  have hkeys : ((inputs.map (fun b => (b.name, b.type)) ++
      outputs.map (fun s => (s.name, s.type))).reverse.map (·.1)).Nodup := by
    rw [List.map_reverse, (List.reverse_perm _).nodup_iff]
    simpa [Function.comp_def] using hnodup
  have hfind := find?_of_nodup_map hkeys (List.mem_reverse.2 hmem)
  simp only [typeOf?, hfind, Option.map_some]

/-- An access passes if its buffer has the stride of the pointer and the width of the opcode. -/
theorem checkAccess_eq_ok {typeOf? : String → Option ElementType} {regs : Registers}
    {opcode width register param : String} :
    checkAccess typeOf? regs opcode width register = .ok param ↔
      ∃ type, accessBits? width = some type.bits ∧
        regs register = some (.pointer param (some type.bytes.toNat)) ∧
        typeOf? param = some type := by
  constructor
  · intro h
    rw [checkAccess] at h
    cases hwidth : accessBits? width with
    | none => simp [hwidth] at h
    | some bits =>
        rcases hreg : regs register with _ | ⟨p, _ | stride⟩ | stride
        · simp [hwidth, hreg] at h
        · simp [hwidth, hreg] at h
        · cases htype : typeOf? p with
          | none => simp [hwidth, hreg, htype] at h
          | some type =>
              by_cases hstride : stride = type.bytes.toNat
              · by_cases hbits : bits = type.bits
                · obtain rfl : p = param := by simpa [hwidth, hreg, htype, hstride, hbits] using h
                  exact ⟨type, by rw [hbits], by rw [hstride], htype⟩
                · simp [hwidth, hreg, htype, hstride, hbits] at h
              · simp [hwidth, hreg, htype, hstride] at h
        · simp [hwidth, hreg] at h
  · rintro ⟨type, hwidth, hreg, htype⟩
    simp [checkAccess, hwidth, hreg, htype]

variable (typeOf? : String → Option ElementType)

/-- The trace after an action. -/
def act (t : Trace) : AddressAction → Except ExecutionFailure Trace
  | .base dst param => .ok { t with registers := t.registers.set dst (some (.pointer param none)) }
  | .copy dst src => .ok { t with registers := t.registers.set dst (t.registers src) }
  | .scale dst _ stride => .ok { t with registers := t.registers.set dst (stride.map .offset) }
  | .add dst a b => do
    let value ← sum (t.registers a) (t.registers b)
    .ok { t with registers := t.registers.set dst value }
  | .load width register => do
    let param ← checkAccess typeOf? t.registers ("ld.global." ++ width) width register
    .ok { t with loaded := param :: t.loaded }
  | .store width register => do
    let param ← checkAccess typeOf? t.registers ("st.global." ++ width) width register
    .ok { t with stored := param :: t.stored }

/-- The address arithmetic of an instruction is its action. -/
theorem execute_of_arithmetic? {i : Instruction} {a : AddressAction} (t : Trace)
    (h : i.arithmetic? = some a) :
    (execute t.registers i).map (fun registers => { t with registers := registers }) =
      act typeOf? t a := by
  rw [Instruction.arithmetic?] at h
  split at h
  case h_5 => cases h
  case h_4 dst a b hop haddr =>
    cases h
    simp only [execute, hop, haddr, act]
    cases sum (t.registers a) (t.registers b) <;> rfl
  all_goals
    rename_i hop haddr
    cases h
    simp only [execute, hop, haddr]
    rfl

theorem execute_of_arithmetic?_none {i : Instruction} (registers : Registers)
    (h : i.arithmetic? = none) : execute registers i = .ok registers := by
  rw [Instruction.arithmetic?] at h
  split at h
  case h_5 =>
    rw [execute]
    split <;> simp_all
  all_goals cases h

/-- **A step of the trace is the action of its instruction.** -/
theorem step_eq_act (t : Trace) (i : Instruction) :
    step typeOf? t i =
      match i.action? with
      | some a => act typeOf? t a
      | none => .ok t := by
  rw [Instruction.action?, step]
  cases harith : i.arithmetic? with
  | some a =>
      obtain ⟨hl, hs⟩ := Instruction.suffix?_of_arithmetic? harith
      simp only [hl, hs]
      rw [← execute_of_arithmetic? typeOf? t harith]
      cases execute t.registers i <;> rfl
  | none =>
      rw [execute_of_arithmetic?_none t.registers harith, Except.ok_bind, Instruction.access?]
      cases hl : i.suffix? "ld.global." with
      | some width =>
          rw [Instruction.suffix?_store_of_load hl, Instruction.opcode_of_suffix? hl]
          rcases i.addresses with _ | ⟨_, _ | ⟨register, _⟩⟩
          · rfl
          · rfl
          · simp only [act]
            cases checkAccess typeOf? t.registers ("ld.global." ++ width) width register <;> rfl
      | none =>
          cases hs : i.suffix? "st.global." with
          | some width =>
              rw [Instruction.opcode_of_suffix? hs]
              rcases i.addresses with _ | ⟨register, _⟩
              · rfl
              · simp only [act, Except.ok_bind]
          | none => rfl

theorem step_of_action? {i : Instruction} {a : AddressAction} (t : Trace) (h : i.action? = some a) :
    step typeOf? t i = act typeOf? t a := by
  rw [step_eq_act, h]

theorem step_of_no_action {i : Instruction} (t : Trace) (h : i.action? = none) :
    step typeOf? t i = .ok t := by
  rw [step_eq_act, h]

/-- An instruction outside address arithmetic leaves the registers alone. -/
theorem registers_of_step {typeOf? : String → Option ElementType} {t t' : Trace} {i : Instruction}
    (harith : i.arithmetic? = none) (h : step typeOf? t i = .ok t') :
    t'.registers = t.registers := by
  rw [step_eq_act, Instruction.action?, harith] at h
  cases haccess : i.access? with
  | none =>
      cases (haccess ▸ h : Except.ok t = Except.ok t')
      rfl
  | some a =>
      simp only [haccess] at h
      rcases Instruction.access?_eq_some haccess with ⟨width, register, rfl⟩ | ⟨width, register, rfl⟩
      all_goals
        rw [act, Except.bind_eq_ok] at h
        obtain ⟨param, -, ⟨⟩⟩ := h
        rfl

/-- An instruction that neither moves addresses nor accesses memory leaves the trace alone. The
opcode of a sum is that of address arithmetic too, but on other registers it computes no address. -/
theorem step_of_untracked {t : Trace} {i : Instruction} (hload : i.suffix? "ld.global." = none)
    (hstore : i.suffix? "st.global." = none)
    (hopcode : i.opcode ∉ ["ld.param.u64", "cvta.to.global.u64", "mul.wide.u32"])
    (hsum : i.opcode = "add.u64" → ∀ r ∈ i.addresses, t.registers r = none) :
    step typeOf? t i = .ok t := by
  cases harith : i.arithmetic? with
  | none => exact step_of_no_action typeOf? t (by simp [Instruction.action?, harith,
      Instruction.access?, hload, hstore])
  | some a =>
      rw [step_of_action? typeOf? t (by rw [Instruction.action?, harith])]
      rw [Instruction.arithmetic?] at harith
      split at harith
      case h_4 dst a b hop haddr =>
        cases harith
        have hnone := hsum hop
        rw [haddr] at hnone
        have hdst : t.registers.set dst none = t.registers := by
          rw [← hnone dst (by simp), Registers.set_self]
        simp [act, hnone a (by simp), hnone b (by simp), sum, hdst]
      all_goals simp_all

/-- A kernel passes if its trace succeeds and notes a load of every input and a store of every
output. -/
theorem check_eq_ok {source : String} {inputs : List Buffer} {outputs : List BufferSpec} :
    check source inputs outputs = .ok () ↔
      ∃ t, (Instruction.ofSource source).foldlM (step (Addressing.typeOf? inputs outputs))
          ⟨.empty, [], []⟩ = .ok t ∧
        (∀ b ∈ inputs, b.name ∈ t.loaded) ∧ ∀ o ∈ outputs, o.name ∈ t.stored := by
  constructor
  · intro h
    rw [check, Except.bind_eq_ok] at h
    obtain ⟨t, htrace, hnoted⟩ := h
    cases hread : inputs.find? (fun b => !t.loaded.contains b.name) with
    | some b => simp only [hread, reduceCtorEq] at hnoted
    | none =>
        cases hwritten : outputs.find? (fun s => !t.stored.contains s.name) with
        | some o => simp only [hread, hwritten, reduceCtorEq] at hnoted
        | none =>
            rw [List.find?_eq_none] at hread hwritten
            exact ⟨t, htrace, fun b hb => by simpa using hread b hb,
              fun o ho => by simpa using hwritten o ho⟩
  · rintro ⟨t, htrace, hloaded, hstored⟩
    have hread : inputs.find? (fun b => !t.loaded.contains b.name) = none :=
      List.find?_eq_none.2 fun b hb => by simpa using hloaded b hb
    have hwritten : outputs.find? (fun s => !t.stored.contains s.name) = none :=
      List.find?_eq_none.2 fun o ho => by simpa using hstored o ho
    rw [check, htrace, Except.ok_bind]
    simp only [hread, hwritten]

end Addressing

end Crosscheck
