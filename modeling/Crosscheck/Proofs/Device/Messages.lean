import Crosscheck.CommandLine.Perform
import Crosscheck.Proofs.Compare
import Crosscheck.Proofs.Json.Record
import Crosscheck.Proofs.Json.RoundTrip
import Crosscheck.Proofs.List

/-!
# Crosscheck.Proofs.Device.Messages

**Messages to and from devices survive their texts.** Reading the text of a request or of a response
gives the request or the response again (`WireRequest.ofText?_text`, `WireResponse.ofText?_text`),
whatever strings and words are in it and whatever blanks follow. So the caller of a device gets the
buffers that the device answered with, as long as their names differ, or its complaint
(`messages_survive`).
-/

namespace Crosscheck

open Json

variable {blanks : List Char}

/-! ### Values of messages -/

theorem WireBuffer.ofJson?_toJson (b : WireBuffer) : ofJson? b.toJson = some b := by
  have hdata : list? word? (.array (b.data.map fun w => ofNat w.toNat)) = some b.data :=
    list?_array_map fun w _ => word?_ofNat w
  rw [ofJson?, toJson, record?_ofFields]
  · simp [fieldOf, List.lookup_cons, Member.required, hdata]
  · simp

theorem WireBuffer.textual_toJson (b : WireBuffer) : b.toJson.Textual := by
  refine .ofFields ?_
  simp only [List.forall_mem_cons, List.not_mem_nil, false_implies, implies_true, and_true]
  exact ⟨.text _, .text _, .array_map (fun _ => .number _) _⟩

theorem WireSpec.ofJson?_toJson {s : WireSpec} (h : s.length < UInt64.size) :
    ofJson? s.toJson = some s := by
  rw [ofJson?, toJson, record?_ofFields]
  · simp [fieldOf, List.lookup_cons, Member.required, count?_ofNat h]
  · simp

theorem WireSpec.textual_toJson (s : WireSpec) : s.toJson.Textual := by
  refine .ofFields ?_
  simp only [List.forall_mem_cons, List.not_mem_nil, false_implies, implies_true, and_true]
  exact ⟨.text _, .text _, .number _⟩

/-! ### Requests -/

namespace WireRequest

/-- The counts of a request have 64 bits. -/
structure Bounded (r : WireRequest) : Prop where
  elements : r.elements < UInt64.size
  lengths : ∀ s ∈ r.outputs, s.length < UInt64.size

theorem ofJson?_toJson {r : WireRequest} (h : r.Bounded) : ofJson? r.toJson = some r := by
  have hinputs : list? WireBuffer.ofJson? (.array (r.inputs.map WireBuffer.toJson)) = some r.inputs :=
    list?_array_map fun b _ => b.ofJson?_toJson
  have houtputs : list? WireSpec.ofJson? (.array (r.outputs.map WireSpec.toJson)) = some r.outputs :=
    list?_array_map fun s hs => WireSpec.ofJson?_toJson (h.lengths s hs)
  rw [ofJson?, toJson, record?_ofFields]
  · simp [fieldOf, List.lookup_cons, Member.required, count?_ofNat h.elements, hinputs, houtputs]
  · simp

theorem textual_toJson (r : WireRequest) : r.toJson.Textual := by
  refine .ofFields ?_
  simp only [List.forall_mem_cons, List.not_mem_nil, false_implies, implies_true, and_true]
  exact ⟨.text _, .text _, .number _, .array_map WireBuffer.textual_toJson _,
    .array_map WireSpec.textual_toJson _⟩

theorem ofText?_text {r : WireRequest} (h : r.Bounded)
    (hblanks : ∀ c ∈ blanks, JsonToken.isBlank c = true) :
    ofText? (r.text ++ String.ofList blanks) = some r := by
  rw [ofText?, text, compact, ← String.ofList_append,
    ofText?_render r.textual_toJson false hblanks, Option.bind_some, ofJson?_toJson h]

end WireRequest

/-! ### Responses -/

namespace WireResponse

theorem ofJson?_toJson (r : WireResponse) : ofJson? r.toJson = some r := by
  obtain ⟨outputs, error⟩ := r
  have houtputs : list? WireBuffer.ofJson? (.array (outputs.map WireBuffer.toJson)) = some outputs :=
    list?_array_map fun b _ => b.ofJson?_toJson
  rw [ofJson?, toJson]
  cases error with
  | none =>
      rw [record?_ofFields]
      · simp [fieldOf, List.lookup_cons, Member.withDefault, houtputs]
      · simp
  | some reason =>
      rw [record?_ofFields]
      · simp [fieldOf, List.lookup_cons, Member.withDefault, houtputs, nullable, ofString, string?]
      · simp

theorem textual_toJson (r : WireResponse) : r.toJson.Textual := by
  refine .ofFields ?_
  rw [List.forall_mem_cons]
  refine ⟨.array_map WireBuffer.textual_toJson _, ?_⟩
  cases r.error with
  | none => nofun
  | some reason => simpa using .text reason

theorem ofText?_text (r : WireResponse) (hblanks : ∀ c ∈ blanks, JsonToken.isBlank c = true) :
    ofText? (r.text ++ String.ofList blanks) = some r := by
  rw [ofText?, text, compact, ← String.ofList_append,
    ofText?_render r.textual_toJson false hblanks, Option.bind_some, ofJson?_toJson]

/-- A response in buffers of different names gives those buffers for their shapes. -/
theorem toBuffers_ofBuffers {bs : List Buffer} (hnames : (bs.map (·.name)).Nodup)
    (hbuilt : ∀ b ∈ bs, ∃ words, b = Buffer.ofWords b.name b.type words) :
    (ofBuffers bs).toBuffers (bs.map Buffer.spec) = .ok bs := by
  have hfound : ∀ b ∈ bs, (ofBuffers bs).bufferFor b.spec = .ok b := by
    intro b hb
    have hfind : bs.find? (·.name == b.name) = some b := find?_of_nodup_map hnames hb
    obtain ⟨words, hwords⟩ := hbuilt b hb
    have hdata : Buffer.ofWords b.name b.type b.data = b := by
      generalize b.name = name, b.type = type at hwords ⊢
      rw [hwords, Buffer.ofWords_data]
    simp only [bufferFor_ofBuffers, Buffer.spec, hfind, hdata]
  show (bs.map Buffer.spec).mapM _ = _
  rw [List.mapM_map, Except.mapM_eq_ok (f := _ ∘ Buffer.spec) hfound, List.map_id']

end WireResponse

/-! ### Both together -/

theorem isBlank_newline : ∀ c ∈ ['\n'], JsonToken.isBlank c = true :=
  List.forall_mem_singleton.2 rfl

/-- The emulator in a process of its own reads the request that is sent to it and prints its answer
as it is read again. -/
theorem CommandLine.emulationOf_text (policy : ShiftPolicy) {r : WireRequest} (h : r.Bounded)
    (hblanks : ∀ c ∈ blanks, JsonToken.isBlank c = true) :
    ∃ answer, emulationOf policy (r.text ++ String.ofList blanks) = ⟨answer, none⟩ ∧
      WireResponse.ofText? answer = some (Emulator.serve (Registry.builtin policy) r) := by
  refine ⟨(Emulator.serve (Registry.builtin policy) r).text ++ "\n", ?_, ?_⟩
  · rw [emulationOf, WireRequest.ofText?_text h hblanks]
  · exact WireResponse.ofText?_text _ isBlank_newline

/-- **Messages survive.** A request is read from its text, and a response from its, with any blanks
after them. From the text of a response that has buffers of different names the caller gets those
buffers, and from that of a response with an error it gets the error. The answer that the emulator
prints to the text of a request is read as the answer to that request. -/
theorem messages_survive {blanks : List Char}
    (hblanks : ∀ c ∈ blanks, JsonToken.isBlank c = true) :
    (∀ r : WireRequest, r.Bounded →
      WireRequest.ofText? (r.text ++ String.ofList blanks) = some r) ∧
    (∀ r : WireResponse, WireResponse.ofText? (r.text ++ String.ofList blanks) = some r) ∧
    (∀ bs : List Buffer, (bs.map (·.name)).Nodup →
      (∀ b ∈ bs, ∃ words, b = Buffer.ofWords b.name b.type words) →
      (WireResponse.ofText? ((WireResponse.ofBuffers bs).text ++ String.ofList blanks)).map
        (·.toBuffers (bs.map Buffer.spec)) = some (.ok bs)) ∧
    (∀ (r : WireResponse) (reason : String) (specs : List BufferSpec), r.error = some reason →
      (WireResponse.ofText? (r.text ++ String.ofList blanks)).map (·.toBuffers specs) =
        some (.error (.driver reason))) ∧
    ∀ (policy : ShiftPolicy) (r : WireRequest), r.Bounded →
      ∃ answer, CommandLine.emulationOf policy (r.text ++ String.ofList blanks) = ⟨answer, none⟩ ∧
        WireResponse.ofText? answer = some (Emulator.serve (Registry.builtin policy) r) := by
  refine ⟨fun r h => WireRequest.ofText?_text h hblanks, fun r => r.ofText?_text hblanks,
    fun bs hnames hbuilt => ?_, fun r reason specs herror => ?_,
    fun policy r h => CommandLine.emulationOf_text policy h hblanks⟩
  · rw [WireResponse.ofText?_text _ hblanks, Option.map_some,
      WireResponse.toBuffers_ofBuffers hnames hbuilt]
  · rw [WireResponse.ofText?_text _ hblanks, Option.map_some, WireResponse.toBuffers, herror]

/-- Quotes, backslashes and control characters are no obstacle, and neither is the largest word. -/
theorem messages_survive_newline :
    let request : WireRequest :=
      ⟨"a\"b", "\\ \t\x01 é", 2, [⟨"input_a", "u64", [0xFFFFFFFFFFFFFFFF, 0]⟩],
        [⟨"out", "b8", UInt64.size - 1⟩]⟩
    let buffers := [Buffer.ofWords "out\n" (.ofWidth "b64" 64 .bits) [0xFFFFFFFFFFFFFFFF],
      Buffer.ofWords "" (.ofWidth "u16" 16 .unsigned) [0x1FFFF, 7]]
    WireRequest.ofText? (request.text ++ "\n") = some request ∧
      (WireResponse.ofText? ((WireResponse.ofBuffers buffers).text ++ "\n")).map
        (·.toBuffers (buffers.map Buffer.spec)) = some (.ok buffers) ∧
      (WireResponse.ofText? ((WireResponse.ofError "\"\"").text ++ "\n")).map (·.toBuffers []) =
        some (.error (.driver "\"\"")) := by
  intro request buffers
  obtain ⟨hrequest, -, hbuffers, herror, -⟩ := messages_survive isBlank_newline
  refine ⟨hrequest _ ⟨by decide, by decide⟩, hbuffers _ (by decide) ?_, herror _ _ _ rfl⟩
  simp only [buffers, List.forall_mem_cons, List.not_mem_nil, false_implies, implies_true, and_true]
  exact ⟨⟨_, rfl⟩, ⟨_, rfl⟩⟩

end Crosscheck
