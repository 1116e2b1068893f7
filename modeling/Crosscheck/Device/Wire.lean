import Crosscheck.Device.Basic
import Crosscheck.Json.Printer
import Crosscheck.Json.Reader
import Crosscheck.Json.Record

/-!
# Crosscheck.Device.Wire

**Device calls as JSON.** A device in a process of its own gets one request and answers with one
response, each a JSON text. Types go by their names; the caller knows the types of its outputs and
takes only the elements from a response.
-/

namespace Crosscheck

/-- A buffer on the wire. -/
structure WireBuffer where
  /-- The kernel parameter it stands for. -/
  name : String
  /-- The name of its type. -/
  type : String
  /-- Its elements. -/
  data : List Word
  deriving DecidableEq, Repr

/-- The shape of a buffer on the wire. -/
structure WireSpec where
  /-- The kernel parameter it stands for. -/
  name : String
  /-- The name of its type. -/
  type : String
  /-- The number of its elements. -/
  length : Nat
  deriving DecidableEq, Repr

/-- A device call on the wire. -/
structure WireRequest where
  /-- The entry point of the kernel. -/
  entry : String
  /-- The text of the kernel. -/
  source : String
  /-- The value of the kernel's last parameter, the number of elements. -/
  elements : Nat
  /-- The input buffers. -/
  inputs : List WireBuffer
  /-- The shapes of the output buffers. -/
  outputs : List WireSpec
  deriving DecidableEq, Repr

/-- An answer on the wire; one with an error has failed, whatever else it holds. -/
structure WireResponse where
  /-- The output buffers. -/
  outputs : List WireBuffer
  /-- Why the call failed. -/
  error : Option String
  deriving DecidableEq, Repr

namespace WireBuffer

/-- A buffer, ready for the wire. -/
def ofBuffer (b : Buffer) : WireBuffer := ⟨b.name, b.type.name, b.data⟩

/-- A buffer as JSON. -/
def toJson (b : WireBuffer) : Json :=
  .ofFields [("name", .ofString b.name), ("type", .ofString b.type),
    ("data", .array (b.data.map fun w => .ofNat w.toNat))]

/-- The buffer of a JSON value. -/
def ofJson? (j : Json) : Option WireBuffer := do
  let [name, type, data] ← j.record? ["name", "type", "data"] | none
  some ⟨← name.required Json.string?, ← type.required Json.string?,
    ← data.required (Json.list? Json.word?)⟩

end WireBuffer

namespace WireSpec

/-- A shape, ready for the wire. -/
def ofSpec (s : BufferSpec) : WireSpec := ⟨s.name, s.type.name, s.length⟩

/-- A shape as JSON. -/
def toJson (s : WireSpec) : Json :=
  .ofFields [("name", .ofString s.name), ("type", .ofString s.type), ("len", .ofNat s.length)]

/-- The shape of a JSON value. -/
def ofJson? (j : Json) : Option WireSpec := do
  let [name, type, length] ← j.record? ["name", "type", "len"] | none
  some ⟨← name.required Json.string?, ← type.required Json.string?,
    ← length.required Json.count?⟩

end WireSpec

namespace WireRequest

/-- The request of a call. -/
def ofCall (call : DeviceCall) : WireRequest where
  entry := call.kernel.entry
  source := call.kernel.source
  elements := (call.inputs.head?.map Buffer.length).getD 0
  inputs := call.inputs.map WireBuffer.ofBuffer
  outputs := call.outputs.map WireSpec.ofSpec

/-- A request as JSON. -/
def toJson (r : WireRequest) : Json :=
  .ofFields [("entry", .ofString r.entry), ("source", .ofString r.source),
    ("elements", .ofNat r.elements), ("inputs", .array (r.inputs.map WireBuffer.toJson)),
    ("outputs", .array (r.outputs.map WireSpec.toJson))]

/-- The request of a JSON value. -/
def ofJson? (j : Json) : Option WireRequest := do
  let [entry, source, elements, inputs, outputs] ← j.record?
    ["entry", "source", "elements", "inputs", "outputs"] | none
  some {
    entry := ← entry.required Json.string?
    source := ← source.required Json.string?
    elements := ← elements.required Json.count?
    inputs := ← inputs.required (Json.list? WireBuffer.ofJson?)
    outputs := ← outputs.required (Json.list? WireSpec.ofJson?) }

/-- A request as it is sent. -/
def text (r : WireRequest) : String := r.toJson.compact

/-- The request of a sent text. -/
def ofText? (s : String) : Option WireRequest := (Json.ofText? s).bind ofJson?

end WireRequest

namespace WireResponse

/-- The answer that returns buffers. -/
def ofBuffers (bs : List Buffer) : WireResponse := ⟨bs.map WireBuffer.ofBuffer, none⟩

/-- The answer of a call that failed. -/
def ofError (reason : String) : WireResponse := ⟨[], some reason⟩

/-- An answer as JSON. -/
def toJson (r : WireResponse) : Json :=
  .ofFields <| ("outputs", .array (r.outputs.map WireBuffer.toJson)) ::
    match r.error with
    | some reason => [("error", .ofString reason)]
    | none => []

/-- The answer of a JSON value; either field may be missing. -/
def ofJson? (j : Json) : Option WireResponse := do
  let [outputs, error] ← j.record? ["outputs", "error"] | none
  some ⟨← outputs.withDefault [] (Json.list? WireBuffer.ofJson?),
    ← error.withDefault none (Json.nullable Json.string?)⟩

/-- An answer as it is sent. -/
def text (r : WireResponse) : String := r.toJson.compact

/-- The answer of a sent text. -/
def ofText? (s : String) : Option WireResponse := (Json.ofText? s).bind ofJson?

/-- The buffer for a shape: the first one of its name, with the shape's type. -/
def bufferFor (r : WireResponse) (spec : BufferSpec) : Except ExecutionFailure Buffer :=
  match r.outputs.find? (·.name == spec.name) with
  | some b => .ok (Buffer.ofWords spec.name spec.type b.data)
  | none => .error (.missingOutput spec.name)

/-- What is read back for a shape has the words of the first returned buffer of its name. -/
theorem bufferFor_ofBuffers (bs : List Buffer) (spec : BufferSpec) :
    (ofBuffers bs).bufferFor spec =
      match bs.find? (·.name == spec.name) with
      | some b => .ok (Buffer.ofWords spec.name spec.type b.data)
      | none => .error (.missingOutput spec.name) := by
  have hname : (fun b : WireBuffer => b.name == spec.name) ∘ WireBuffer.ofBuffer =
      fun b : Buffer => b.name == spec.name := rfl
  simp only [bufferFor, ofBuffers, List.find?_map, hname]
  cases bs.find? (·.name == spec.name) with
  | none => rfl
  | some b => rfl

/-- The buffers for some shapes. -/
def toBuffers (r : WireResponse) (specs : List BufferSpec) :
    Except ExecutionFailure (List Buffer) :=
  match r.error with
  | some reason => .error (.driver reason)
  | none => specs.mapM r.bufferFor

end WireResponse

end Crosscheck
