import Crosscheck.Catalog.Semantics
import Crosscheck.Matrix.Point

/-!
# Crosscheck.Oracle

**The oracle: what a point's output has to be.** It evaluates the reference semantics of the
registry, element by element. The semantics of single kinds can be replaced, which is how one checks
that a wrong oracle is caught; a replacement sees the operands as they are, and its result is cut to
the type.
-/

namespace Crosscheck

/-- A replacement for the reference semantics of a kind. -/
abbrev Replacement := ElementType → List Word → Option BitField → Word

/-- An oracle over a registry. -/
structure Oracle where
  /-- The catalog. -/
  registry : Registry
  /-- The replaced semantics, if a kind has one. -/
  replacement? : OperationKind → Option Replacement

namespace Oracle

/-- The oracle of the reference semantics. -/
def ofRegistry (r : Registry) : Oracle := ⟨r, fun _ => none⟩

/-- Replaces the semantics of a kind. -/
def replace (o : Oracle) (kind : OperationKind) (f : Replacement) : Oracle :=
  { o with replacement? := fun k => if k = kind then some f else o.replacement? k }

/-- The expected value of one element. -/
def evaluate (o : Oracle) (op : Operation) (t : ElementType) (operands : List Word)
    (field : Option BitField) : Except CheckError Word := do
  let semantics ← o.registry.semanticsOf op t
  match o.replacement? op.kind with
  | some f => .ok (t.truncate (f t operands field))
  | none => semantics.apply operands field

/-- The expected output of a point; the first element that has no value decides the error. -/
def expectedOutput (o : Oracle) (p : Point) : Except CheckError Buffer := do
  let data ← p.rows.mapM fun operands => o.evaluate p.operation p.type operands p.bitField
  .ok (Buffer.ofWords outputName p.type data)

end Oracle

/-- Replacements for oracles that are wrong on purpose. -/
inductive WrongSemantics where
  /-- Always zero. -/
  | zero
  /-- Always all ones. -/
  | ones
  /-- One more than the first operand. -/
  | firstPlusOne
  /-- The first operand minus the last one. -/
  | firstMinusLast
  /-- The number of operands. -/
  | count
  /-- The width of the type. -/
  | bits
  /-- The bit field as a number, and a fixed word where there is none. -/
  | field
  deriving DecidableEq, Repr

namespace WrongSemantics

/-- All of them. -/
def all : List WrongSemantics :=
  [.zero, .ones, .firstPlusOne, .firstMinusLast, .count, .bits, .field]

/-- The written name. -/
def name : WrongSemantics → String
  | .zero => "zero"
  | .ones => "ones"
  | .firstPlusOne => "first_plus_one"
  | .firstMinusLast => "first_minus_last"
  | .count => "count"
  | .bits => "bits"
  | .field => "field"

/-- The one of a written name. -/
def ofName? (s : String) : Option WrongSemantics := all.find? (·.name == s)

/-- What it computes. -/
def replacement (w : WrongSemantics) : Replacement := fun t operands field =>
  match w with
  | .zero => 0
  | .ones => BitVec.allOnes 64
  | .firstPlusOne => operands.headD 0 + 1
  | .firstMinusLast => operands.headD 0 - operands.getLastD 0
  | .count => BitVec.ofNat 64 operands.length
  | .bits => BitVec.ofNat 64 t.bits
  | .field =>
    match field with
    | some f => BitVec.ofNat 64 (f.position.toNat * 256 + f.length.toNat)
    | none => 0xface

end WrongSemantics

end Crosscheck
