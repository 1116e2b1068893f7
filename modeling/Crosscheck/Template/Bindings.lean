import Crosscheck.Matrix.Point
import Crosscheck.Template.Basic

/-!
# Crosscheck.Template.Bindings

**What placeholders stand for, and expansion.** The four placeholders of a buffer's element type
are only ever bound together and from one type, so the width of a load and the stride of its address
cannot disagree. The shift amount's buffer has its own four, with a prefix.

Expansion replaces all placeholders in one pass: bound values are copied and never read again. An
unbound placeholder is an error, and of several the least name is reported.
-/

namespace Crosscheck

/-- Values of placeholder names; every name is bound once. -/
structure Bindings where
  /-- The names with their values. -/
  entries : List (String × String)
  deriving DecidableEq, Repr

namespace Bindings

/-- No bindings. -/
def empty : Bindings := ⟨[]⟩

/-- The value of a name. -/
def get? (b : Bindings) (name : String) : Option String := b.entries.lookup name

/-- Binds a name; an earlier value of it is lost. -/
def bind (b : Bindings) (name value : String) : Bindings :=
  ⟨(name, value) :: b.entries.filter (·.1 != name)⟩

/-- The bound names, in ascending order. -/
def names (b : Bindings) : List String := ascendingTexts (b.entries.map (·.1))

/-- Binds the four placeholders of a buffer's element type. -/
def bindType (b : Bindings) (start : String) (t : ElementType) : Bindings :=
  (((b.bind (start ++ "TYPE") t.name).bind (start ++ "BTYPE") t.bitName).bind
    (start ++ "TYPE_SIZE") (toString t.bytes.toNat)).bind
    (start ++ "TYPE_BITS") (toString t.bits)

/-- Binds the opcode. -/
def bindOpcode (b : Bindings) (op : Operation) (t : ElementType) : Bindings :=
  b.bind "OP" (op.opcode t)

/-- Binds the position and length of a bit field. -/
def bindField (b : Bindings) (f : BitField) : Bindings :=
  (b.bind "POS" (toString f.position.toNat)).bind "LEN" (toString f.length.toNat)

/-- What the placeholders of the shift amount's type begin with. -/
def shiftPrefix : String := "SHIFT_"

/-- The bindings of a test point: its type and opcode, the type of the shift amount if the
operation shifts, and the bit field if there is one. -/
def ofPoint (p : Point) : Bindings :=
  let typed := (empty.bindType "" p.type).bindOpcode p.operation p.type
  let shifted :=
    if p.operation.shape = .shift then
      match p.inputs[1]? with
      | some amount => typed.bindType shiftPrefix amount.type
      | none => typed
    else typed
  match p.bitField with
  | some f => shifted.bindField f
  | none => shifted

/-- The names that a template of the given class can have bound, in ascending order. -/
def bindableNames (shape : OperationClass) : List String :=
  let ofType (start : String) :=
    ["TYPE", "BTYPE", "TYPE_SIZE", "TYPE_BITS"].map (start ++ ·)
  ascendingTexts <|
    "OP" :: ofType "" ++ (if shape = .shift then ofType shiftPrefix else [])
      ++ (if shape.hasBitField then ["POS", "LEN"] else [])

end Bindings

namespace Template

/-- The kernel of a template under some bindings. -/
def expandWith (t : Template) (b : Bindings) : Except CheckError Kernel :=
  match t.placeholders.find? (fun name => (b.get? name).isNone) with
  | some missing => .error (.unresolvedPlaceholder t.id missing)
  | none =>
    let value (name : String) : List Char := ((b.get? name).getD "").toList
    let filled := (MarkerGrammar.placeholder.segments t.text.toList).flatMap (Segment.fill value)
    .ok ⟨t.entry, String.ofList filled⟩

/-- The kernel of a template for a test point. -/
def expand (t : Template) (p : Point) : Except CheckError Kernel :=
  t.expandWith (Bindings.ofPoint p)

end Template

end Crosscheck
