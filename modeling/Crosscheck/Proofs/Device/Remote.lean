import Crosscheck.Proofs.Compare
import Crosscheck.Proofs.Device.Agreement
import Crosscheck.Proofs.Device.Tracing

/-!
# Crosscheck.Proofs.Device.Remote

**The emulator behind the wire is the emulator.** A request carries the names of types and no types,
data is cut to its type on both sides, and a failure crosses the wire as a text. For buffers that are
cut to catalogued types nothing of this shows (`Emulator.submit_remote`): the caller gets the buffers
or the complaint about their length that it gets from the emulator itself, and a failure of the
emulator as a report of its text.
-/

namespace Crosscheck

/-! ### Computations that fail with a report -/

/-- The only failures are reports of the device. -/
def Reporting {α : Type} (x : Except ExecutionFailure α) : Prop :=
  ∀ e, x = .error e → ∃ reason, e = .driver reason

namespace Reporting

variable {α β : Type}

theorem ok (a : α) : Reporting (.ok a) := by
  intro e h
  cases h

theorem error (reason : String) : Reporting (.error (.driver reason) : Except ExecutionFailure α) := by
  intro e h
  cases h
  exact ⟨reason, rfl⟩

theorem bind {x : Except ExecutionFailure α} {f : α → Except ExecutionFailure β} (hx : Reporting x)
    (hf : ∀ a, Reporting (f a)) : Reporting (x >>= f) := by
  intro e h
  cases x with
  | ok a => exact hf a e h
  | error cause =>
      obtain rfl : cause = e := Except.error.inj h
      exact hx _ rfl

theorem foldlM {step : β → α → Except ExecutionFailure β} (h : ∀ b a, Reporting (step b a))
    (as : List α) (b : β) : Reporting (as.foldlM step b) := by
  induction as generalizing b with
  | nil => exact ok b
  | cons a as ih =>
      rw [List.foldlM_cons]
      exact (h b a).bind ih

theorem mapM {f : α → Except ExecutionFailure β} (h : ∀ a, Reporting (f a)) (as : List α) :
    Reporting (as.mapM f) := by
  induction as with
  | nil => exact ok []
  | cons a as ih =>
      rw [List.mapM_cons]
      exact (h a).bind fun b => ih.bind fun bs => ok (b :: bs)

end Reporting

namespace Addressing

theorem reporting_sum (a b : Option Address) : Reporting (sum a b) := by
  unfold sum
  split
  case h_3 | h_4 => exact .error _
  all_goals exact .ok _

variable (typeOf? : String → Option ElementType)

theorem reporting_checkAccess (regs : Registers) (opcode width register : String) :
    Reporting (checkAccess typeOf? regs opcode width register) := by
  unfold checkAccess
  dsimp only [failure]
  split
  case h_2 => exact .error _
  case h_1 =>
    split
    case h_2 | h_3 => exact .error _
    case h_1 =>
      simp only [Except.ok_bind]
      split
      case h_2 => exact .error _
      case h_1 =>
        split
        · exact .error _
        · split
          · exact .error _
          · exact .ok _

theorem reporting_step (t : Trace) (i : Instruction) : Reporting (step typeOf? t i) := by
  rw [step_eq_act]
  cases i.action? with
  | none => exact .ok t
  | some a =>
      cases a with
      | base dst param | copy dst src | scale dst index stride => exact .ok _
      | add dst a b => exact (reporting_sum _ _).bind fun _ => .ok _
      | load width register | store width register =>
          exact (reporting_checkAccess _ _ _ _ _).bind fun _ => .ok _

theorem reporting_check (source : String) (inputs : List Buffer) (outputs : List BufferSpec) :
    Reporting (check source inputs outputs) := by
  unfold check
  refine (Reporting.foldlM (reporting_step _) _ _).bind fun t => ?_
  split
  · exact .error _
  · split
    · exact .error _
    · exact .ok _

end Addressing

namespace Emulator

variable {r : Registry}

theorem reporting_immediate (operand : String) : Reporting (immediate operand) := by
  unfold immediate
  split
  · exact .ok _
  · exact .error _

theorem reporting_decode (r : Registry) (source : String) : Reporting (decode r source) := by
  unfold decode
  split
  case h_2 => exact .error _
  case h_1 i _ =>
    unfold interpret
    split
    · exact .error _
    · split
      · refine .bind ?_ fun _ => .ok _
        unfold trailingField
        split
        · exact (reporting_immediate _).bind fun _ => (reporting_immediate _).bind fun _ => .ok _
        · exact .error _
      · exact .ok _

theorem reporting_reported {α : Type} (x : Except CheckError α) : Reporting (reported x) := by
  cases x with
  | ok a => exact .ok a
  | error e => exact .error e.message

theorem reporting_emulate (r : Registry) (source : String) (inputs : List Buffer)
    (outputs : List BufferSpec) : Reporting (emulate r source inputs outputs) := by
  unfold emulate
  split
  · exact .error _
  · exact (Addressing.reporting_check _ _ _).bind fun _ => (reporting_decode _ _).bind fun _ =>
      (reporting_reported _).bind fun _ =>
        (Reporting.mapM (fun _ => reporting_reported _) _).bind fun _ => .ok _

/-- The emulator returns one buffer, made for the first output. -/
theorem emulate_eq_ok {source : String} {inputs buffers : List Buffer} {spec : BufferSpec}
    {specs : List BufferSpec} (h : emulate r source inputs (spec :: specs) = .ok buffers) :
    ∃ data, buffers = [Buffer.ofWords spec.name spec.type data] := by
  unfold emulate at h
  simp only [Except.bind_eq_ok] at h
  obtain ⟨-, -, -, -, -, -, data, -, h⟩ := h
  cases h
  exact ⟨data, rfl⟩

/-! ### Over the wire -/

/-- The emulator in a process of its own, with the texts of requests and responses left out. -/
def remote (r : Registry) (concurrency : Nat) : Device where
  concurrency := concurrency
  reply call := .ofResult ((serve r (.ofCall call)).toBuffers call.outputs)

theorem typeNamed_eq_ok {name : String} {t : ElementType} (h : r.typeNamed? name = some t) :
    typeNamed r name = .ok t := by
  rw [typeNamed, h]

/-- A request is run as the call that it was made for, if types are known by their names. -/
theorem runRequest_ofCall {call : DeviceCall}
    (hbuilt : ∀ b ∈ call.inputs, ∃ words, b = Buffer.ofWords b.name b.type words)
    (hinputs : ∀ b ∈ call.inputs, r.typeNamed? b.type.name = some b.type)
    (houtputs : ∀ s ∈ call.outputs, r.typeNamed? s.type.name = some s.type) :
    runRequest r (.ofCall call) = emulate r call.kernel.source call.inputs call.outputs := by
  have hbuffers : (call.inputs.map WireBuffer.ofBuffer).mapM (fun b => do
      .ok (Buffer.ofWords b.name (← typeNamed r b.type) b.data)) = .ok call.inputs := by
    rw [List.mapM_map]
    refine (Except.mapM_eq_ok (g := id) fun b hb => ?_).trans (by rw [List.map_id])
    obtain ⟨words, hwords⟩ := hbuilt b hb
    simp only [Function.comp_apply, WireBuffer.ofBuffer, typeNamed_eq_ok (hinputs b hb),
      Except.ok_bind, id]
    -- what has been cut to its type once stays as it is
    generalize b.name = name, b.type = type at hwords ⊢
    rw [hwords, Buffer.ofWords_data]
  have hspecs : (call.outputs.map WireSpec.ofSpec).mapM (fun s => do
      .ok (BufferSpec.mk s.name (← typeNamed r s.type) s.length)) = .ok call.outputs := by
    rw [List.mapM_map]
    refine (Except.mapM_eq_ok (g := id) fun s hs => ?_).trans (by rw [List.map_id])
    simp only [Function.comp_apply, WireSpec.ofSpec, typeNamed_eq_ok (houtputs s hs), Except.ok_bind,
      id]
  unfold runRequest
  simp only [WireRequest.ofCall, hbuffers, hspecs, Except.ok_bind]

/-- A buffer that is made for an output survives the wire. -/
theorem toBuffers_ofBuffers (spec : BufferSpec) (data : List Word) :
    (WireResponse.ofBuffers [Buffer.ofWords spec.name spec.type data]).toBuffers [spec] =
      .ok [Buffer.ofWords spec.name spec.type data] := by
  have hfound : (WireResponse.ofBuffers [Buffer.ofWords spec.name spec.type data]).bufferFor spec =
      .ok (Buffer.ofWords spec.name spec.type data) := by
    have hname : (Buffer.ofWords spec.name spec.type data).name = spec.name := rfl
    simp [WireResponse.bufferFor_ofBuffers, hname, Buffer.ofWords_data]
  show [spec].mapM _ = _
  rw [List.mapM_cons, hfound]
  rfl

theorem checkOutputs_ofWords (spec : BufferSpec) (data : List Word) :
    checkOutputs [spec] [Buffer.ofWords spec.name spec.type data] =
      if data.length = spec.length then .ok [Buffer.ofWords spec.name spec.type data]
      else .error (.outputShape spec.name spec.length data.length) := by
  have hname : (Buffer.ofWords spec.name spec.type data).name = spec.name := rfl
  by_cases h : data.length = spec.length
  · simp [checkOutputs, BufferSpec.check, h, hname, Buffer.ofWords_data]
  · simp [checkOutputs, BufferSpec.check, h, hname]

/-- **The wire changes nothing but the texts of reports.** Let all types of a call be what their names
find in the catalog, and let its inputs be cut to their types. Then the emulator behind the wire
returns the buffers that the emulator itself returns, and complains about their length in the same
way. It reports an error where the emulator does, and what it reports is the text of that error. The
emulator has no other way to end. -/
theorem submit_remote (r : Registry) (near far : Nat) {kernel : Kernel} {inputs : List Buffer}
    {spec : BufferSpec} (hbuilt : ∀ b ∈ inputs, ∃ words, b = Buffer.ofWords b.name b.type words)
    (htypes : ∀ t ∈ spec.type :: inputs.map (·.type), r.typeNamed? t.name = some t) :
    let here := (device r near).submit ⟨kernel, inputs, [spec]⟩
    let there := (remote r far).submit ⟨kernel, inputs, [spec]⟩
    (∀ buffers, there = .ok buffers ↔ here = .ok buffers) ∧
    (∀ name expected actual, there = .error (.outputShape name expected actual) ↔
      here = .error (.outputShape name expected actual)) ∧
    (∀ reason, there = .error (.driver reason) ↔
      ∃ cause, here = .error (.driver cause) ∧ reason = (ExecutionFailure.driver cause).message) ∧
    ((∃ buffers, here = .ok buffers) ∨
      (∃ name expected actual, here = .error (.outputShape name expected actual)) ∨
      ∃ cause, here = .error (.driver cause)) := by
  intro here there
  have hrun : runRequest r (.ofCall ⟨kernel, inputs, [spec]⟩) = emulate r kernel.source inputs [spec] := by
    refine runRequest_ofCall hbuilt (fun b hb => htypes _ ?_) fun s hs => ?_
    · exact List.mem_cons_of_mem _ (List.mem_map_of_mem hb)
    · obtain rfl := List.mem_singleton.1 hs
      exact htypes _ List.mem_cons_self
  cases hemulate : emulate r kernel.source inputs [spec] with
  | error e =>
      obtain ⟨cause, rfl⟩ := reporting_emulate r _ _ _ e hemulate
      have hhere : here = .error (.driver cause) := by
        simp [here, Device.submit, device, DeviceReply.ofResult, hemulate]
      have hthere : there = .error (.driver (ExecutionFailure.driver cause).message) := by
        simp [there, Device.submit, remote, DeviceReply.ofResult, serve, hrun, hemulate,
          WireResponse.ofError, WireResponse.toBuffers]
      simp [hhere, hthere, eq_comm]
  | ok buffers =>
      obtain ⟨data, rfl⟩ := emulate_eq_ok hemulate
      have hhere : here = checkOutputs [spec] [Buffer.ofWords spec.name spec.type data] := by
        simp [here, Device.submit, device, DeviceReply.ofResult, hemulate]
      have hthere : there = here := by
        simp [hhere, there, Device.submit, remote, DeviceReply.ofResult, serve, hrun, hemulate,
          toBuffers_ofBuffers]
      rw [checkOutputs_ofWords] at hhere
      by_cases hlength : data.length = spec.length
      · simp [hthere, hhere, hlength]
      · simp [hthere, hhere, hlength]

/-- The kernel of a point runs behind the wire as it runs here, and a kernel without instructions is
refused behind the wire as it is refused here. -/
theorem submit_remote_insertBeyondTop :
    (∃ kernel, Template.bfiBundled.expand Point.insertBeyondTop = .ok kernel ∧
      (remote (Registry.builtin .mask) 1).submit
        ⟨kernel, Point.insertBeyondTop.inputs, [Point.insertBeyondTop.outputSpec]⟩ =
          .ok [Point.insertBeyondTop.output .mask]) ∧
    (remote (Registry.builtin .mask) 1).submit
        ⟨⟨"bfi", "ret;"⟩, Point.insertBeyondTop.inputs, [Point.insertBeyondTop.outputSpec]⟩ =
      .error (.driver "driver error: input_a is never loaded") := by
  have hbuilt : ∀ b ∈ Point.insertBeyondTop.inputs, ∃ words, b = Buffer.ofWords b.name b.type words := by
    intro b hb
    obtain ⟨words, -, rfl⟩ := List.mem_map.1 hb
    exact ⟨words.2, rfl⟩
  have htypes : ∀ t ∈ Point.insertBeyondTop.outputSpec.type ::
      Point.insertBeyondTop.inputs.map (·.type),
      (Registry.builtin .mask).typeNamed? t.name = some t := by
    decide +kernel
  have hremote := fun kernel : Kernel =>
    @submit_remote (Registry.builtin .mask) 1 1 kernel _ _ hbuilt htypes
  refine ⟨?_, (((hremote _).2.2.1 _).2 ⟨"input_a is never loaded", ?_, rfl⟩)⟩
  · obtain ⟨kernel, hexpand, hcheck, hdecode⟩ := Point.kernel_of_hosted Point.insertBeyondTop_hosted
    refine ⟨kernel, hexpand, ((hremote kernel).1 _).2 ?_⟩
    have hemulate := Point.insertBeyondTop_hosted.emulate hcheck .mask (hdecode .mask)
    simp only [Device.submit, device, DeviceReply.ofResult, hemulate]
    decide +kernel
  · cbv

end Emulator

end Crosscheck
