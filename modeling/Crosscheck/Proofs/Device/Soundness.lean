import Crosscheck.Proofs.Device.Assembly
import Crosscheck.Proofs.Device.Execution
import Crosscheck.Proofs.Text.Lines
import Mathlib.Data.List.Forall2
import Mathlib.Data.List.Infix

/-!
# Crosscheck.Proofs.Device.Soundness

**A kernel that passes the address check reaches its buffers.** In a disciplined kernel, what the trace
knows of a register is true of its contents in every run (`Sound.step`, `Sound.run`). So if the check
finds no fault, every access goes to the thread's element of a buffer of the right width, every input
is loaded and every output is stored (`Addressing.check_sound`).
-/

namespace Crosscheck

/-! ### What the trace knows is true -/

namespace Address

/-- The multiple of the index that a known content has in it. -/
def stride? : Address → Option Nat
  | .pointer _ stride => stride
  | .offset stride => some stride

/-- What a register with a known content holds. -/
def value (base : String → Word) (index : Word) : Address → Word
  | .pointer param none => base param
  | .pointer param (some stride) => base param + elementOffset index stride
  | .offset stride => elementOffset index stride

/-- The start of a buffer does not depend on the index. -/
theorem value_congr {base : String → Word} {a : Address} {i j : Word}
    (h : a.stride? ≠ none → i = j) : a.value base i = a.value base j := by
  cases a with
  | pointer param stride =>
      cases stride with
      | none => rfl
      | some stride => rw [h (by simp [stride?])]
  | offset stride => rw [h (by simp [stride?])]

end Address

namespace Addressing

open Instruction

variable {base : String → Word} {clobbers : Instruction → List String} {index : String}
  {kernel : List Instruction} {typeOf? : String → Option ElementType}

/-- What is known of the address registers of a kernel is true of their contents, and where the index
has been used, the `rest` of the kernel does not write it. -/
structure Sound (base : String → Word) (clobbers : Instruction → List String) (index : String)
    (kernel rest : List Instruction) (regs : Registers) (s : Store) : Prop where
  /-- The contents are what is known of them. -/
  value : ∀ r a, r ∈ addressRegisters kernel → regs r = some a → s r = a.value base (s index)
  /-- An index in use stays. -/
  settled : ∀ r a, r ∈ addressRegisters kernel → regs r = some a → a.stride? ≠ none →
    ∀ i ∈ rest, index ∉ writes clobbers i

theorem Sound.empty (s : Store) : Sound base clobbers index kernel kernel .empty s where
  value _ _ _ h := by simp [Registers.empty] at h
  settled _ _ _ h := by simp [Registers.empty] at h

section Steps

variable {i : Instruction} {rest : List Instruction} {regs : Registers} {s s' : Store}

/-- What was known of a register describes the same word after an instruction. -/
theorem Sound.value_step (h : Sound base clobbers index kernel (i :: rest) regs s)
    (hstep : Step base clobbers i s s') {r : String} {a : Address}
    (hr : r ∈ addressRegisters kernel) (ha : regs r = some a) : s r = a.value base (s' index) := by
  rw [h.value r a hr ha]
  exact Address.value_congr fun hstride =>
    (hstep.frame (h.settled r a hr ha hstride i (by simp))).symm

/-- An instruction that writes one register keeps the knowledge true if what is said of this register
is true. -/
theorem Sound.set (h : Sound base clobbers index kernel (i :: rest) regs s)
    (hstep : Step base clobbers i s s') {dst : String} (hwrites : writes clobbers i = [dst])
    {known : Option Address}
    (hvalue : ∀ a, dst ∈ addressRegisters kernel → known = some a →
      s' dst = a.value base (s' index))
    (hsettled : ∀ a, dst ∈ addressRegisters kernel → known = some a → a.stride? ≠ none →
      ∀ j ∈ rest, index ∉ writes clobbers j) :
    Sound base clobbers index kernel rest (regs.set dst known) s' where
  value r a hr ha := by
    by_cases hdst : r = dst
    · subst hdst
      rw [Registers.set_same] at ha
      exact hvalue a hr ha
    · rw [Registers.set_of_ne _ _ hdst] at ha
      rw [hstep.frame (by simpa [hwrites] using hdst)]
      exact h.value_step hstep hr ha
  settled r a hr ha hstride j hj := by
    by_cases hdst : r = dst
    · subst hdst
      rw [Registers.set_same] at ha
      exact hsettled a hr ha hstride j hj
    · rw [Registers.set_of_ne _ _ hdst] at ha
      exact h.settled r a hr ha hstride j (List.mem_cons_of_mem _ hj)

/-- The sum of two known contents. -/
theorem sum_eq_ok {x y : Option Address} {known : Option Address} (h : sum x y = .ok known) :
    known = none ∨ ∃ param stride, known = some (.pointer param (some stride)) ∧
      (x = some (.pointer param none) ∧ y = some (.offset stride) ∨
        x = some (.offset stride) ∧ y = some (.pointer param none)) := by
  unfold sum at h
  split at h
  · cases h
    exact .inr ⟨_, _, rfl, .inl ⟨rfl, rfl⟩⟩
  · cases h
    exact .inr ⟨_, _, rfl, .inr ⟨rfl, rfl⟩⟩
  · cases h
  · cases h
  · cases h
    exact .inl rfl

/-- **A step keeps the knowledge true.** -/
theorem Sound.step {t t' : Trace}
    (h : Sound base clobbers index kernel (i :: rest) t.registers s)
    (hsuffix : i :: rest <:+ kernel) (hdisc : Disciplined clobbers index kernel)
    (hstep : Step base clobbers i s s') (htrace : step typeOf? t i = .ok t') :
    Sound base clobbers index kernel rest t'.registers s' := by
  have hi : i ∈ kernel := hsuffix.mem (List.mem_cons_self ..)
  have hsource : ∀ {a r}, i.action? = some a → r ∈ a.sources → r ∈ addressRegisters kernel :=
    mem_addressRegisters hi
  -- what the step leaves alone is needed in every case
  have hwhole := hstep
  cases hstep with
  | base ha =>
      cases (step_of_action? typeOf? t ha).symm.trans htrace
      refine h.set hwhole (writes_of_action? ha rfl) ?_ ?_
      · rintro _ - ⟨⟩
        exact Function.update_self ..
      · rintro _ - ⟨⟩ hstride
        simp [Address.stride?] at hstride
  | copy ha =>
      have hsrc := hsource ha (List.mem_singleton_self _)
      cases (step_of_action? typeOf? t ha).symm.trans htrace
      refine h.set hwhole (writes_of_action? ha rfl) ?_ ?_
      · intro a _ hknown
        rw [Function.update_self]
        exact h.value_step hwhole hsrc hknown
      · intro a _ hknown hstride j hj
        exact h.settled _ a hsrc hknown hstride j (List.mem_cons_of_mem _ hj)
  | @scale dst src stride ha =>
      cases (step_of_action? typeOf? t ha).symm.trans htrace
      refine h.set hwhole (writes_of_action? ha rfl) ?_ ?_
      · -- the product is one of the index, and the index is not the register that it goes to
        rintro _ hdst ⟨⟩
        obtain ⟨rfl, hindex⟩ := hdisc.scaled i rest hsuffix _ _ _ ha hdst
        rw [Function.update_self, Address.value, hwhole.frame (hindex i (by simp))]
      · rintro _ hdst ⟨⟩ - j hj
        exact (hdisc.scaled i rest hsuffix _ _ _ ha hdst).2 j (List.mem_cons_of_mem _ hj)
  | scaleBy product ha =>
      cases (step_of_action? typeOf? t ha).symm.trans htrace
      refine h.set hwhole (writes_of_action? ha rfl) ?_ ?_
      · rintro _ - ⟨⟩
      · rintro _ - ⟨⟩
  | @add dst a b ha =>
      have hsrcA := hsource ha (r := a) (by simp [AddressAction.sources])
      have hsrcB := hsource ha (r := b) (by simp [AddressAction.sources])
      rw [step_of_action? typeOf? t ha, act, Except.bind_eq_ok] at htrace
      obtain ⟨known, hsum, ⟨⟩⟩ := htrace
      refine h.set hwhole (writes_of_action? ha rfl) ?_ ?_
      · rintro known - rfl
        rw [Function.update_self]
        rcases sum_eq_ok hsum with hnone | ⟨param, stride, hknown, ⟨hx, hy⟩ | ⟨hx, hy⟩⟩
        · cases hnone
        · cases hknown
          exact congrArg₂ (· + ·) (h.value_step hwhole hsrcA hx) (h.value_step hwhole hsrcB hy)
        · cases hknown
          exact (BitVec.add_comm _ _).trans
            (congrArg₂ (· + ·) (h.value_step hwhole hsrcB hy) (h.value_step hwhole hsrcA hx))
      · rintro known - rfl - j hj
        -- one of the summands is an offset, so the index is in use already
        rcases sum_eq_ok hsum with hnone | ⟨param, stride, -, ⟨-, hy⟩ | ⟨hx, -⟩⟩
        · cases hnone
        · exact h.settled b _ hsrcB hy (by simp [Address.stride?]) j (List.mem_cons_of_mem _ hj)
        · exact h.settled a _ hsrcA hx (by simp [Address.stride?]) j (List.mem_cons_of_mem _ hj)
  | other harith hframe =>
      have hregs : t'.registers = t.registers := registers_of_step harith htrace
      rw [hregs]
      constructor
      · intro r a hr ha
        rw [hframe r fun hmem => hdisc.arithmetic i hi harith r hmem hr]
        exact h.value_step hwhole hr ha
      · intro r a hr ha hstride j hj
        exact h.settled r a hr ha hstride j (List.mem_cons_of_mem _ hj)

end Steps

/-- **A run keeps the knowledge true.** -/
theorem Sound.run {before after : List Instruction} {t t' : Trace} {s s' : Store}
    (h : Sound base clobbers index kernel (before ++ after) t.registers s)
    (hsuffix : before ++ after <:+ kernel) (hdisc : Disciplined clobbers index kernel)
    (hrun : Run base clobbers before s s')
    (htrace : before.foldlM (Addressing.step typeOf?) t = .ok t') :
    Sound base clobbers index kernel after t'.registers s' := by
  induction hrun generalizing t with
  | nil s =>
      cases htrace
      exact h
  | @cons i is s u s' hstep _ ih =>
      rw [List.foldlM_cons, Except.bind_eq_ok] at htrace
      obtain ⟨v, hfirst, hrest⟩ := htrace
      exact ih (h.step hsuffix hdisc hstep hfirst) ((List.suffix_cons _ _).trans hsuffix) hrest

/-! ### What the check finds out -/

/-- Before an instruction, a register holds the address of the thread's element of a buffer in every
run, and the access has the width of this element. The index is what it is at the end of the run; it
has not changed since. -/
def Reaches (clobbers : Instruction → List String) (index : String)
    (before after : List Instruction) (width register name : String) (type : ElementType) : Prop :=
  accessBits? width = some type.bits ∧
    ∀ base s₀ s s₁, Run base clobbers before s₀ s → Run base clobbers after s s₁ →
      s index = s₁ index ∧ s register = base name + elementOffset (s₁ index) type.bytes.toNat

/-- An access that passes reaches its buffer. -/
theorem reaches_of_checkAccess {before after : List Instruction} {i : Instruction} {t : Trace}
    {opcode width register name : String} (hdisc : Disciplined clobbers index (before ++ i :: after))
    (hregister : register ∈ addressRegisters (before ++ i :: after))
    (htrace : before.foldlM (step typeOf?) ⟨.empty, [], []⟩ = .ok t)
    (hcheck : checkAccess typeOf? t.registers opcode width register = .ok name) :
    ∃ type, typeOf? name = some type ∧
      Reaches clobbers index before (i :: after) width register name type := by
  obtain ⟨type, hwidth, hknown, htype⟩ := checkAccess_eq_ok.1 hcheck
  refine ⟨type, htype, hwidth, fun base s₀ s s₁ hbefore hafter => ?_⟩
  -- the access is part of the rest of the kernel, so the index stays what it is here
  have hsound : Sound base clobbers index (before ++ i :: after) (i :: after) t.registers s :=
    (Sound.empty s₀).run (List.suffix_refl _) hdisc hbefore htrace
  have hindex : s₁ index = s index :=
    hafter.frame (hsound.settled register _ hregister hknown (by simp [Address.stride?]))
  refine ⟨hindex.symm, ?_⟩
  rw [hsound.value register _ hregister hknown, hindex]
  rfl

/-- A step notes only accesses of a form, and only those that pass. -/
def Notes (typeOf? : String → Option ElementType) (noted : Trace → List String)
    (form : String → String → AddressAction) : Prop :=
  ∀ t i t', step typeOf? t i = .ok t' → ∀ name ∈ noted t', name ∈ noted t ∨
    ∃ width register opcode, i.action? = some (form width register) ∧
      checkAccess typeOf? t.registers opcode width register = .ok name

/-- What a trace has noted, it had noted at the beginning or at an instruction. -/
theorem Notes.exists_of_mem {noted : Trace → List String} {form : String → String → AddressAction}
    (hnotes : Notes typeOf? noted form) {is : List Instruction} {t t' : Trace} (htrace : is.foldlM (step typeOf?) t = .ok t')
    {name : String} (hname : name ∈ noted t') :
    name ∈ noted t ∨ ∃ before i after u width register opcode, is = before ++ i :: after ∧
      before.foldlM (step typeOf?) t = .ok u ∧ i.action? = some (form width register) ∧
        checkAccess typeOf? u.registers opcode width register = .ok name := by
  induction is generalizing t with
  | nil =>
      cases htrace
      exact .inl hname
  | cons i is ih =>
      rw [List.foldlM_cons, Except.bind_eq_ok] at htrace
      obtain ⟨v, hfirst, hrest⟩ := htrace
      rcases ih hrest with hv | ⟨before, j, after, u, width, register, opcode, rfl, hu, hj, hcheck⟩
      · rcases hnotes t i v hfirst name hv with ht | ⟨width, register, opcode, hi, hcheck⟩
        · exact .inl ht
        · exact .inr ⟨[], i, is, t, width, register, opcode, rfl, rfl, hi, hcheck⟩
      · refine .inr ⟨i :: before, j, after, u, width, register, opcode, rfl, ?_, hj, hcheck⟩
        rw [List.foldlM_cons, hfirst, Except.ok_bind, hu]

/-- What a step notes: a load, a store or nothing. -/
theorem noted_of_step {t t' : Trace} {i : Instruction} (h : step typeOf? t i = .ok t') :
    (t'.loaded = t.loaded ∧ t'.stored = t.stored) ∨
      ∃ width register opcode name,
        checkAccess typeOf? t.registers opcode width register = .ok name ∧
        (i.action? = some (.load width register) ∧
            t'.loaded = name :: t.loaded ∧ t'.stored = t.stored ∨
          i.action? = some (.store width register) ∧
            t'.loaded = t.loaded ∧ t'.stored = name :: t.stored) := by
  rw [step_eq_act] at h
  split at h
  case h_2 =>
    cases h
    exact .inl ⟨rfl, rfl⟩
  case h_1 a ha =>
    cases a with
    | load width register =>
        rw [act, Except.bind_eq_ok] at h
        obtain ⟨name, hcheck, ⟨⟩⟩ := h
        exact .inr ⟨width, register, _, name, hcheck, .inl ⟨ha, rfl, rfl⟩⟩
    | store width register =>
        rw [act, Except.bind_eq_ok] at h
        obtain ⟨name, hcheck, ⟨⟩⟩ := h
        exact .inr ⟨width, register, _, name, hcheck, .inr ⟨ha, rfl, rfl⟩⟩
    | add dst a b =>
        rw [act, Except.bind_eq_ok] at h
        obtain ⟨known, -, ⟨⟩⟩ := h
        exact .inl ⟨rfl, rfl⟩
    | base dst param | copy dst src | scale dst src stride =>
        cases h
        exact .inl ⟨rfl, rfl⟩

theorem notes_loaded (typeOf? : String → Option ElementType) :
    Notes typeOf? Trace.loaded .load := by
  intro t i t' h name hname
  rcases noted_of_step h with ⟨hloaded, -⟩ |
    ⟨width, register, opcode, new, hcheck, ⟨ha, hloaded, -⟩ | ⟨-, hloaded, -⟩⟩
  · exact .inl (hloaded ▸ hname)
  · rcases List.mem_cons.1 (hloaded ▸ hname) with rfl | hold
    · exact .inr ⟨width, register, opcode, ha, hcheck⟩
    · exact .inl hold
  · exact .inl (hloaded ▸ hname)

theorem notes_stored (typeOf? : String → Option ElementType) :
    Notes typeOf? Trace.stored .store := by
  intro t i t' h name hname
  rcases noted_of_step h with ⟨-, hstored⟩ |
    ⟨width, register, opcode, new, hcheck, ⟨-, -, hstored⟩ | ⟨ha, -, hstored⟩⟩
  · exact .inl (hstored ▸ hname)
  · exact .inl (hstored ▸ hname)
  · rcases List.mem_cons.1 (hstored ▸ hname) with rfl | hold
    · exact .inr ⟨width, register, opcode, ha, hcheck⟩
    · exact .inl hold

/-- If the trace of a kernel has noted an access to a buffer, then an instruction reaches it. -/
theorem Notes.exists_reaching {noted : Trace → List String}
    {form : String → String → AddressAction} (hnotes : Notes typeOf? noted form)
    (hform : ∀ width register, register ∈ (form width register).sources)
    (hdisc : Disciplined clobbers index kernel) {t : Trace}
    (htrace : kernel.foldlM (step typeOf?) ⟨.empty, [], []⟩ = .ok t) {name : String}
    (hname : name ∈ noted t) (hnew : name ∉ noted ⟨.empty, [], []⟩) {type : ElementType}
    (htype : typeOf? name = some type) :
    ∃ before i after width register, kernel = before ++ i :: after ∧
      i.action? = some (form width register) ∧
        Reaches clobbers index before (i :: after) width register name type := by
  -- nothing is noted at the beginning
  rcases hnotes.exists_of_mem htrace hname with
    hold | ⟨before, i, after, u, width, register, opcode, rfl, hbefore, ha, hpass⟩
  · exact absurd hold hnew
  · have hregister : register ∈ addressRegisters (before ++ i :: after) :=
      mem_addressRegisters (List.mem_append_right _ (List.mem_cons_self ..)) ha
        (hform width register)
    obtain ⟨type', htype', hreaches⟩ := reaches_of_checkAccess hdisc hregister hbefore hpass
    obtain rfl : type = type' := Option.some.inj (htype.symm.trans htype')
    exact ⟨before, i, after, width, register, rfl, ha, hreaches⟩

/-! ### Reading the kernel -/

/-- What begins with anything but a letter is read as nothing that has to do with addresses. -/
theorem action?_of_head {line : List Char}
    (hhead : ∀ c ∈ (Text.trimStart line).head?, Char.isAlpha c = false) :
    (ofLine? line).bind action? = none := by
  cases hread : ofLine? line with
  | none => rfl
  | some i =>
      refine action?_eq_none fun start hstart hbegins => ?_
      obtain ⟨rest, hline⟩ := hbegins.trans (opcode_isPrefix hread)
      obtain ⟨c, cs, hchars, hc⟩ : ∃ c cs, start.toList = c :: cs ∧ Char.isAlpha c = true := by
        simp only [addressOpcodes, List.mem_cons, List.not_mem_nil, or_false] at hstart
        rcases hstart with rfl | rfl | rfl | rfl | rfl | rfl <;> exact ⟨_, _, rfl, by decide⟩
      have hnot : Char.isAlpha c = false := hhead c (by rw [← hline, hchars]; rfl)
      exact absurd hc (by simp [hnot])

theorem action?_of_no_operands (opcode : String) : (Instruction.mk opcode []).action? = none := by
  have harith : (Instruction.mk opcode []).arithmetic? = none := by
    simp [arithmetic?, addresses]
  rw [action?, harith]
  cases haccess : (Instruction.mk opcode []).access? with
  | none => rfl
  | some a =>
      rw [access?] at haccess
      simp only [addresses, List.map_nil] at haccess
      split at haccess <;> simp_all

/-- Whatever a line stands for, it is read as something with the same effect on addresses. -/
theorem action?_of_stands {line : List Char} {unit : Option Instruction} (h : Stands line unit) :
    (ofLine? line).bind action? = unit.bind action? := by
  cases h with
  | blank hline =>
      refine action?_of_head fun c hc => ?_
      have hnot : Text.isBlank c = false := by
        have hhead := List.head?_dropWhile_not Text.isBlank line
        rw [← Text.trimStart, Option.mem_def.1 hc] at hhead
        exact hhead
      have hmem : c ∈ line := (List.dropWhile_suffix _).mem (List.mem_of_head? hc)
      rcases hline c hmem with hblank | hbracket
      · simp [hblank] at hnot
      · simp only [List.mem_cons, List.not_mem_nil, or_false] at hbracket
        rcases hbracket with rfl | rfl | rfl | rfl <;> decide
  | directive hindent =>
      refine action?_of_head fun c hc => ?_
      rw [List.append_assoc, List.append_assoc, trimStart_append hindent, List.cons_append,
        trimStart_cons (by decide)] at hc
      obtain rfl : '.' = c := by simpa using hc
      decide
  | comment hindent =>
      refine action?_of_head fun c hc => ?_
      rw [trimStart_append hindent, trimStart_cons (by decide)] at hc
      obtain rfl : '/' = c := by simpa using hc
      decide
  | label hindent hname htrail =>
      rw [ofLine?_word hindent ((isWord_of_isNameChar hname).concat (by decide)) htrail]
  | @bare _ opcode _ hindent hopcode htrail =>
      rw [ofLine?_word hindent (hopcode.2.1.concat (by decide)) htrail]
      exact (action?_of_no_operands (String.ofList opcode)).symm
  | instruction hindent hopcode hgap hoperands htrail =>
      rw [ofLine?_instruction hindent hopcode hgap hoperands htrail]

/-- The trace of the instructions that are read is that of the instructions that stand there. -/
theorem foldlM_step_of_stands {lines : List (List Char)} {units : List (Option Instruction)}
    (h : List.Forall₂ Stands lines units) (t : Trace) :
    (lines.filterMap ofLine?).foldlM (step typeOf?) t =
      (units.filterMap id).foldlM (step typeOf?) t := by
  induction h generalizing t with
  | nil => rfl
  | @cons line unit lines units hline _ ih =>
      have haction := action?_of_stands hline
      cases hread : ofLine? line with
      | none =>
          rw [List.filterMap_cons_none hread, ih]
          cases unit with
          | none => rfl
          | some i =>
              have hi : i.action? = none := by simpa [hread] using haction.symm
              rw [List.filterMap_cons_some (f := id) rfl, List.foldlM_cons, step_of_no_action _ _ hi,
                Except.ok_bind]
      | some j =>
          rw [List.filterMap_cons_some hread, List.foldlM_cons]
          cases unit with
          | none =>
              have hj : j.action? = none := by simpa [hread] using haction
              rw [step_of_no_action _ _ hj, Except.ok_bind, ih]
              rfl
          | some i =>
              have hij : j.action? = i.action? := by simpa [hread] using haction
              rw [List.filterMap_cons_some (f := id) rfl, List.foldlM_cons, step_eq_act, step_eq_act,
                hij]
              exact bind_congr fun u => ih u

theorem mem_of_typeOf? {inputs : List Buffer} {outputs : List BufferSpec} {name : String}
    {type : ElementType} (h : Addressing.typeOf? inputs outputs name = some type) :
    (name, type) ∈ inputs.map (fun b => (b.name, b.type)) ++
      outputs.map (fun s => (s.name, s.type)) := by
  obtain ⟨entry, hfind, rfl⟩ := Option.map_eq_some_iff.1 h
  obtain rfl : entry.1 = name := by simpa using List.find?_some hfind
  exact List.mem_reverse.1 (List.mem_of_find?_eq_some hfind)

/-- **The address check is sound.** Every line of the source stands for an instruction or nothing.
The kernel made of these instructions is disciplined, and the launch repeats no name. If the check
finds no fault, then for any starts of buffers and any index, every access goes to the thread's element
of a buffer of the launch with the width of the access, and every input is loaded and every output
stored. -/
theorem check_sound {source : String} {units : List (Option Instruction)} {inputs : List Buffer}
    {outputs : List BufferSpec} (hsource : List.Forall₂ Stands (Text.lines source) units)
    (hkernel : units.filterMap id = kernel) (hdisc : Disciplined clobbers index kernel)
    (hnodup : (inputs.map (·.name) ++ outputs.map (·.name)).Nodup)
    (hcheck : check source inputs outputs = .ok ()) :
    (∀ before i after width register, kernel = before ++ i :: after →
      i.action? = some (.load width register) ∨ i.action? = some (.store width register) →
        ∃ name type, (name, type) ∈ inputs.map (fun b => (b.name, b.type)) ++
            outputs.map (fun s => (s.name, s.type)) ∧
          Reaches clobbers index before (i :: after) width register name type) ∧
      (∀ b ∈ inputs, ∃ before i after width register, kernel = before ++ i :: after ∧
        i.action? = some (.load width register) ∧
          Reaches clobbers index before (i :: after) width register b.name b.type) ∧
      ∀ o ∈ outputs, ∃ before i after width register, kernel = before ++ i :: after ∧
        i.action? = some (.store width register) ∧
          Reaches clobbers index before (i :: after) width register o.name o.type := by
  obtain ⟨t, htrace, hloaded, hstored⟩ := check_eq_ok.1 hcheck
  rw [ofSource, foldlM_step_of_stands hsource, hkernel] at htrace
  refine ⟨fun before i after width register hsplit haccess => ?_, fun b hb => ?_, fun o ho => ?_⟩
  · -- the trace stops at the access first, where the check looks at its register
    subst hsplit
    rw [List.foldlM_append, Except.bind_eq_ok] at htrace
    obtain ⟨u, hbefore, hafter⟩ := htrace
    rw [List.foldlM_cons, Except.bind_eq_ok] at hafter
    obtain ⟨v, hstep, -⟩ := hafter
    obtain ⟨a, ha, hsource, opcode, name, hpass⟩ : ∃ a, i.action? = some a ∧
        register ∈ a.sources ∧ ∃ opcode name, checkAccess (Addressing.typeOf? inputs outputs)
          u.registers opcode width register = .ok name := by
      rcases haccess with ha | ha
      all_goals
        rw [step_of_action? _ _ ha, act, Except.bind_eq_ok] at hstep
        obtain ⟨name, hpass, -⟩ := hstep
        exact ⟨_, ha, List.mem_singleton_self _, _, name, hpass⟩
    have hregister : register ∈ addressRegisters (before ++ i :: after) :=
      mem_addressRegisters (List.mem_append_right _ (List.mem_cons_self ..)) ha hsource
    obtain ⟨type, htype, hreaches⟩ := reaches_of_checkAccess hdisc hregister hbefore hpass
    exact ⟨name, type, mem_of_typeOf? htype, hreaches⟩
  · exact (notes_loaded _).exists_reaching (fun _ _ => List.mem_singleton_self _) hdisc htrace
      (hloaded b hb) List.not_mem_nil
      (typeOf?_of_mem hnodup (List.mem_append_left _ (List.mem_map_of_mem hb)))
  · exact (notes_stored _).exists_reaching (fun _ _ => List.mem_singleton_self _) hdisc htrace
      (hstored o ho) List.not_mem_nil
      (typeOf?_of_mem hnodup (List.mem_append_right _ (List.mem_map_of_mem ho)))

section Halving

/-- The line of an instruction, given its opcode and its operands. -/
def codeLine (code : String × String) : List Char :=
  ['\t'] ++ code.1.toList ++ ' ' :: code.2.toList ++ [';']

/-- The instruction of the line. -/
def codeInstruction (code : String × String) : Instruction :=
  ⟨code.1, (Text.splitOnChar ',' code.2.toList).map fun o => String.ofList (Text.trim o)⟩

theorem stands_codeLine {code : String × String} (hopcode : IsOpcode code.1.toList)
    (hoperands : IsCode code.2.toList) : Stands (codeLine code) (some (codeInstruction code)) := by
  have h : Stands (['\t'] ++ code.1.toList ++ ' ' :: code.2.toList ++ ';' :: [])
      (some ⟨String.ofList code.1.toList, _⟩) :=
    .instruction (by decide) hopcode (by decide) hoperands (by decide)
  rwa [String.ofList_toList] at h

/-- The code of a kernel that keeps the low half of every element. -/
def halving : List (String × String) :=
  [("mov.u32", "%i, %tid.x"),
    ("ld.param.u64", "%a, [in]"),
    ("ld.param.u64", "%b, [out]"),
    ("cvta.to.global.u64", "%a, %a"),
    ("mul.wide.u32", "%o, %i, 4"),
    ("add.u64", "%a, %a, %o"),
    ("mul.wide.u32", "%o, %i, 2"),
    ("add.u64", "%b, %o, %b"),
    ("ld.global.b32", "%v, [%a]"),
    ("cvt.u16.u32", "%w, %v"),
    ("st.global.b16", "[%b], %w")]

/-- The lines of the kernel. -/
def halvingLines : List (List Char) :=
  [".entry halve(.param .u64 in, .param .u64 out)".toList, ['{'],
    "\t// per thread".toList] ++ halving.map codeLine ++
    ["done:".toList, "\tret;".toList, ['}']]

/-- The text of the kernel. -/
def halvingSource : String := String.ofList (halvingLines.flatMap (· ++ ['\n']))

/-- What the lines stand for. -/
def halvingUnits : List (Option Instruction) :=
  [none, none, none] ++ halving.map (fun code => some (codeInstruction code)) ++
    [none, some ⟨"ret", []⟩, none]

theorem stands_halvingLines : List.Forall₂ Stands halvingLines halvingUnits := by
  have hcode : ∀ code ∈ halving, IsOpcode code.1.toList ∧ IsCode code.2.toList := by
    decide +kernel
  have hbody : List.Forall₂ Stands (halving.map codeLine)
      (halving.map fun code => some (codeInstruction code)) := by
    rw [List.forall₂_map_left_iff, List.forall₂_map_right_iff, List.forall₂_same]
    exact fun code hmem => stands_codeLine (hcode code hmem).1 (hcode code hmem).2
  have hentry : Stands
      ([] ++ '.' :: "entry halve(.param .u64 in, .param .u64 out)".toList ++ [] ++ []) none :=
    .directive (by decide) (by decide +kernel) (.inl rfl) (by decide)
  have hcomment : Stands (['\t'] ++ '/' :: '/' :: " per thread".toList) none :=
    .comment (by decide)
  have hlabel : Stands ([] ++ "done".toList ++ ':' :: []) none :=
    .label (by decide) (by decide) (by decide)
  have hreturn : Stands (['\t'] ++ "ret".toList ++ ';' :: [])
      (some ⟨String.ofList "ret".toList, []⟩) :=
    .bare (by decide) (by decide +kernel) (by decide)
  refine List.rel_append (List.rel_append ?_ hbody) ?_
  · exact .cons hentry (.cons (.blank (by decide)) (.cons hcomment .nil))
  · exact .cons hlabel (.cons hreturn (.cons (.blank (by decide)) .nil))

/-- The first operand of an instruction. -/
def firstOperand (i : Instruction) : List String := i.operands.take 1

theorem disciplined_halving :
    Disciplined firstOperand "%i" (halvingUnits.filterMap id) where
  arithmetic := by decide +kernel
  scaled i after hsuffix dst src stride ha _ := by
    have hscaled : ∀ l ∈ (halvingUnits.filterMap id).tails, ∀ i ∈ l.head?.toList,
        ∀ a ∈ i.action?.toList, (match a with
          | .scale _ src _ => src == "%i" && l.all fun j => !(writes firstOperand j).contains "%i"
          | _ => true) = true := by
      decide +kernel
    have h := hscaled (i :: after) ((List.mem_tails _ _).2 hsuffix) i (by simp) (.scale dst src stride)
      (by rw [ha, Option.toList_some, List.mem_singleton])
    simpa using h

/-- The kernel's store goes to the thread's element of the output. -/
theorem check_sound_halving :
    check halvingSource [⟨"in", ⟨"b32", 32, 4, .bits⟩, []⟩] [⟨"out", ⟨"b16", 16, 2, .bits⟩, 0⟩] =
        .ok () ∧
      ∃ before i after width register, halvingUnits.filterMap id = before ++ i :: after ∧
        i.action? = some (.store width register) ∧
        ∃ s s₁, Run (fun _ => 4096) firstOperand before (fun _ => 7) s ∧
          Run (fun _ => 4096) firstOperand (i :: after) s s₁ ∧
          s register = 4096 + elementOffset (s₁ "%i") 2 := by
  have hlines : Text.lines halvingSource = halvingLines :=
    Text.lines_ofList_flatMap (by decide +kernel)
  have hsource : List.Forall₂ Stands (Text.lines halvingSource) halvingUnits :=
    hlines ▸ stands_halvingLines
  have hcheck : check halvingSource [⟨"in", ⟨"b32", 32, 4, .bits⟩, []⟩]
      [⟨"out", ⟨"b16", 16, 2, .bits⟩, 0⟩] = .ok () := by
    rw [check, ofSource, foldlM_step_of_stands hsource]
    decide +kernel
  obtain ⟨-, -, houtputs⟩ := check_sound hsource rfl disciplined_halving (by decide) hcheck
  obtain ⟨before, i, after, width, register, hsplit, ha, -, hreaches⟩ :=
    houtputs _ (List.mem_singleton_self _)
  obtain ⟨s, hbefore⟩ := exists_run (fun _ => 4096) firstOperand before fun _ => 7
  obtain ⟨s₁, hafter⟩ := exists_run (fun _ => 4096) firstOperand (i :: after) s
  exact ⟨hcheck, before, i, after, width, register, hsplit, ha, s, s₁, hbefore, hafter,
    (hreaches _ _ _ _ hbefore hafter).2⟩

end Halving

end Addressing

end Crosscheck
