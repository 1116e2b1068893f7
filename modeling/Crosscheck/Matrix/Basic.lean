import Crosscheck.Matrix.Inputs
import Crosscheck.Pattern.Reader
import Crosscheck.Template.Basic

/-!
# Crosscheck.Matrix.Basic

**The matrix of a template: every point it hosts.** Points are enumerated by operation, type and bit
field, in catalog order. A `Selection` only filters that enumeration: a selected point has the index,
seed and inputs that it has among all points.
-/

namespace Crosscheck

/-- What decides how many points and elements a matrix has. -/
structure MatrixOptions where
  /-- The seed of the run. -/
  seed : Word
  /-- Random rows per point, after the edge rows. -/
  samples : Nat
  /-- Whether bit fields of length zero are tested. -/
  zeroLength : Bool
  deriving DecidableEq, Repr

/-- Which points are wanted. Empty lists admit everything. -/
structure Selection where
  /-- Identifiers of templates. -/
  templates : List String
  /-- Names of types. -/
  types : List String
  /-- Mnemonics of operations. -/
  operations : List String
  /-- A condition on the name of the point. -/
  filter : String → Bool

/-- A point without its inputs. -/
structure Combination where
  /-- Its position among all points of the template. -/
  index : Nat
  /-- The operation. -/
  operation : Operation
  /-- The type. -/
  type : ElementType
  /-- The bit field, if the class has one. -/
  bitField : Option BitField
  deriving DecidableEq, Repr

namespace Selection

/-- Admits every point. -/
def all : Selection := ⟨[], [], [], fun _ => true⟩

/-- Whether points of a template are admitted at all. -/
def admitsTemplate (s : Selection) (id : String) : Bool :=
  s.templates.isEmpty || s.templates.contains id

/-- Whether a point of an admitted template is admitted. -/
def admits (s : Selection) (op : Operation) (t : ElementType) (name : String) : Bool :=
  (s.types.isEmpty || s.types.contains t.name)
    && (s.operations.isEmpty || s.operations.contains op.mnemonic) && s.filter name

/-- Admits only points whose name contains a match of a pattern. -/
def withPattern (s : Selection) (pattern : String) : Except CheckError Selection :=
  match Regex.ofPattern? pattern with
  | some r => .ok { s with filter := r.isMatch }
  | none => .error (.invalidFilter ("not a regular expression: " ++ pattern))

end Selection

/-- The bit fields tested on a word of `bits` bits, in ascending order: some positions and lengths
near the ends and the middle of the word, as far as the field fits, and for every length the field
that ends at the top bit. All quantities are 32-bit counts. -/
def bitFieldPairs (bits : UInt32) (zeroLength : Bool) : List BitField :=
  let positions : List UInt32 := [0, 1, 3, bits / 2, bits - 1]
  let lengths : List UInt32 :=
    [1, 4, 8, bits / 2, bits - 1, bits] ++ if zeroLength then [0] else []
  ascending BitField.before <| lengths.flatMap fun length =>
    ((positions.map fun position => BitField.mk position length).filter (·.fits bits.toNat))
      ++ [⟨bits - length, length⟩]

namespace Matrix

/-- The bit fields that points of a class have on a type. -/
def fieldsOf (shape : OperationClass) (t : ElementType) (zeroLength : Bool) :
    List (Option BitField) :=
  if shape.hasBitField then (bitFieldPairs (UInt32.ofNat t.bits) zeroLength).map some else [none]

/-- Every operation of a class, on every type it supports, with every bit field. -/
def triples (r : Registry) (shape : OperationClass) (zeroLength : Bool) :
    List (Operation × ElementType × Option BitField) :=
  (r.operationsIn shape).flatMap fun op =>
    (r.types.filter op.supports).flatMap fun t =>
      (fieldsOf shape t zeroLength).map fun f => (op, t, f)

/-- Every point of a class, numbered, without inputs. -/
def combinations (r : Registry) (shape : OperationClass) (zeroLength : Bool) : List Combination :=
  (triples r shape zeroLength).zipIdx.map fun ((op, t, f), i) => ⟨i, op, t, f⟩

/-- The name of a point of a template. -/
def nameOf (t : Template) (c : Combination) : String :=
  Point.nameOf t.id c.operation c.type c.bitField

/-- The selected points of a template, without inputs. -/
def selected (r : Registry) (t : Template) (o : MatrixOptions) (s : Selection) :
    List Combination :=
  if s.admitsTemplate t.id then
    (combinations r t.shape o.zeroLength).filter fun c =>
      s.admits c.operation c.type (nameOf t c)
  else []

/-- A point with its inputs. -/
def materialize (t : Template) (o : MatrixOptions) (c : Combination) : Point :=
  let name := nameOf t c
  let seed := Point.seedOf o.seed name
  { index := c.index
    name := name
    template := t.id
    operation := c.operation
    type := c.type
    bitField := c.bitField
    seed := seed
    inputs := Inputs.buffersOf c.operation c.type seed o.samples }

/-- The names of the selected points. -/
def names (r : Registry) (t : Template) (o : MatrixOptions) (s : Selection) : List String :=
  (selected r t o s).map (nameOf t)

/-- The selected points. -/
def points (r : Registry) (t : Template) (o : MatrixOptions) (s : Selection) : List Point :=
  (selected r t o s).map (materialize t o)

end Matrix

end Crosscheck
