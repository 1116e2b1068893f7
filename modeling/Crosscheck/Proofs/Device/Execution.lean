import Crosscheck.Proofs.Device.Tracing
import Mathlib.Logic.Function.Basic

/-!
# Crosscheck.Proofs.Device.Execution

**What a kernel computes in its registers.** `Step` says what an instruction of a thread does: address
arithmetic computes modulo 2^64, and any other instruction may do what it likes to the registers that
it writes. A run is one step after the other; there is one from any registers (`exists_run`). In a
`Disciplined` kernel only address arithmetic writes addresses, and offsets are multiples of one index.
-/

namespace Crosscheck

/-- The contents of registers, by name. Immediate operands are looked up like registers. -/
abbrev Store := String → Word

/-- How far the thread's element is from the start of a buffer; the index is a 32-bit number. -/
def elementOffset (index : Word) (stride : Nat) : Word := Word.low 32 index * BitVec.ofNat 64 stride

namespace AddressAction

/-- The register that an action writes. -/
def target? : AddressAction → Option String
  | .base dst _ | .copy dst _ | .scale dst _ _ | .add dst _ _ => some dst
  | .load _ _ | .store _ _ => none

/-- The registers in which an action expects addresses and their parts. -/
def sources : AddressAction → List String
  | .base _ _ | .scale _ _ _ => []
  | .copy _ src => [src]
  | .add _ a b => [a, b]
  | .load _ register | .store _ register => [register]

end AddressAction

namespace Instruction

/-- The registers in which a kernel expects addresses and their parts. -/
def addressRegisters (kernel : List Instruction) : List String :=
  kernel.flatMap fun i => i.action?.toList.flatMap AddressAction.sources

theorem mem_addressRegisters {kernel : List Instruction} {i : Instruction} {a : AddressAction}
    {r : String} (hi : i ∈ kernel) (ha : i.action? = some a) (hr : r ∈ a.sources) :
    r ∈ addressRegisters kernel :=
  List.mem_flatMap.2 ⟨i, hi, by simpa [ha] using hr⟩

section Runs

variable (base : String → Word) (clobbers : Instruction → List String)

/-- An instruction of a thread. The buffers start at `base`, and an instruction that has nothing to do
with address arithmetic may write the registers it `clobbers`. -/
inductive Step (i : Instruction) : Store → Store → Prop
  /-- The start of the buffer that a parameter passes. -/
  | base {s : Store} {dst param : String} : i.action? = some (.base dst param) →
      Step i s (Function.update s dst (base param))
  /-- A copy of an address. -/
  | copy {s : Store} {dst src : String} : i.action? = some (.copy dst src) →
      Step i s (Function.update s dst (s src))
  /-- A multiple of an index. -/
  | scale {s : Store} {dst src : String} {stride : Nat} :
      i.action? = some (.scale dst src (some stride)) →
      Step i s (Function.update s dst (elementOffset (s src) stride))
  /-- A multiple of an index by a factor that is not written as a number. -/
  | scaleBy {s : Store} {dst src : String} (product : Word) :
      i.action? = some (.scale dst src none) → Step i s (Function.update s dst product)
  /-- A sum. -/
  | add {s : Store} {dst a b : String} : i.action? = some (.add dst a b) →
      Step i s (Function.update s dst (s a + s b))
  /-- Anything else. -/
  | other {s s' : Store} : i.arithmetic? = none → (∀ r, r ∉ clobbers i → s' r = s r) → Step i s s'

/-- One instruction after the other. -/
inductive Run : List Instruction → Store → Store → Prop
  | nil (s : Store) : Run [] s s
  | cons {i : Instruction} {is : List Instruction} {s t u : Store} :
      Step base clobbers i s t → Run is t u → Run (i :: is) s u

/-- The registers that an instruction may write. -/
def writes (i : Instruction) : List String :=
  match i.arithmetic? with
  | some a => a.target?.toList
  | none => clobbers i

/-- Only address arithmetic writes addresses, and all their offsets are multiples of one index, which
is not written from its first use on. -/
structure Disciplined (index : String) (kernel : List Instruction) : Prop where
  /-- Other instructions write no addresses. -/
  arithmetic : ∀ i ∈ kernel, i.arithmetic? = none → ∀ r ∈ clobbers i, r ∉ addressRegisters kernel
  /-- Offsets are multiples of the index. -/
  scaled : ∀ i after, i :: after <:+ kernel → ∀ dst src stride,
    i.action? = some (.scale dst src stride) → dst ∈ addressRegisters kernel →
      src = index ∧ ∀ j ∈ i :: after, index ∉ writes clobbers j

end Runs

variable {base : String → Word} {clobbers : Instruction → List String}

theorem writes_of_action? {i : Instruction} {a : AddressAction} {dst : String}
    (h : i.action? = some a) (ha : a.target? = some dst) : writes clobbers i = [dst] := by
  rw [action?] at h
  cases harith : i.arithmetic? with
  | some b =>
      obtain rfl : b = a := by simpa [harith] using h
      simp [writes, harith, ha]
  | none =>
      simp only [harith] at h
      rcases access?_eq_some h with ⟨width, register, rfl⟩ | ⟨width, register, rfl⟩
      · simp [AddressAction.target?] at ha
      · simp [AddressAction.target?] at ha

/-- An instruction leaves the registers alone that it does not write. -/
theorem Step.frame {i : Instruction} {s s' : Store} {r : String} (h : Step base clobbers i s s')
    (hr : r ∉ writes clobbers i) : s' r = s r := by
  cases h with
  | other harith hframe => exact hframe r (by simpa [writes, harith] using hr)
  | base ha | copy ha | scale ha | scaleBy _ ha | add ha =>
      rw [writes_of_action? ha rfl, List.mem_singleton] at hr
      exact Function.update_of_ne hr _ _

theorem Run.frame {is : List Instruction} {s s' : Store} {r : String} (h : Run base clobbers is s s')
    (hr : ∀ i ∈ is, r ∉ writes clobbers i) : s' r = s r := by
  induction h with
  | nil => rfl
  | cons hstep _ ih =>
      rw [ih fun i hi => hr i (List.mem_cons_of_mem _ hi), hstep.frame (hr _ (by simp))]

/-- No instruction gets stuck. -/
theorem exists_step (base : String → Word) (clobbers : Instruction → List String) (i : Instruction)
    (s : Store) : ∃ s', Step base clobbers i s s' := by
  cases harith : i.arithmetic? with
  | none => exact ⟨s, .other harith fun _ _ => rfl⟩
  | some a =>
      have ha : i.action? = some a := by rw [action?, harith]
      cases a with
      | base dst param => exact ⟨_, .base ha⟩
      | copy dst src => exact ⟨_, .copy ha⟩
      | add dst a b => exact ⟨_, .add ha⟩
      | scale dst src stride =>
          cases stride with
          | some stride => exact ⟨_, .scale ha⟩
          | none => exact ⟨_, .scaleBy 0 ha⟩
      | load width register | store width register =>
          rw [arithmetic?] at harith
          split at harith <;> cases harith

/-- Every kernel has a run from any registers. -/
theorem exists_run (base : String → Word) (clobbers : Instruction → List String)
    (kernel : List Instruction) (s : Store) : ∃ s', Run base clobbers kernel s s' := by
  induction kernel generalizing s with
  | nil => exact ⟨s, .nil s⟩
  | cons i kernel ih =>
      obtain ⟨t, hstep⟩ := exists_step base clobbers i s
      obtain ⟨u, hrun⟩ := ih t
      exact ⟨u, .cons hstep hrun⟩

end Instruction

end Crosscheck
