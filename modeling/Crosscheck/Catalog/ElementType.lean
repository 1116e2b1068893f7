import Crosscheck.Float.Text
import Crosscheck.Text.Numeral

/-!
# Crosscheck.Catalog.ElementType

**Element types: what the words of a buffer mean.** A type has a name, a width, a size in memory and
a numeric class. Besides the twelve built-in types a catalog may bring its own.

* `ElementType.WellFormed` is what a catalog demands of a type: whole bytes, at most eight, and a
  byte size that spells the width exactly.
* `edgeValues` are the boundary inputs every point is tested with.
* `formatValue` writes an element for diagnostics. It ends in the full-width hexadecimal pattern, so
  nothing about the element is lost.
-/

namespace Crosscheck

/-- The numeric class of an element type. -/
inductive TypeClass where
  /-- Natural numbers. -/
  | unsigned
  /-- Two's complement integers. -/
  | signed
  /-- Untyped bits. -/
  | bits
  /-- Floating-point numbers. -/
  | float
  deriving DecidableEq, Repr

namespace TypeClass

/-- The written name of a class. -/
def name : TypeClass → String
  | .unsigned => "unsigned"
  | .signed => "signed"
  | .bits => "bits"
  | .float => "float"

/-- All classes. -/
def all : List TypeClass := [.unsigned, .signed, .bits, .float]

/-- The class of a written name. -/
def ofName? (s : String) : Option TypeClass := all.find? (·.name == s)

end TypeClass

/-- A type of buffer elements. -/
structure ElementType where
  /-- How opcodes and messages write the type. -/
  name : String
  /-- Number of significant bits. -/
  bits : Nat
  /-- Bytes per element in device memory, a 32-bit count. -/
  bytes : UInt32
  /-- How the bits are read. -/
  numeric : TypeClass
  deriving DecidableEq, Repr

namespace ElementType

/-- A type whose byte size follows from its width. -/
def ofWidth (name : String) (bits : Nat) (numeric : TypeClass) : ElementType :=
  ⟨name, bits, UInt32.ofNat (bits / 8), numeric⟩

/-- Whether a type can be catalogued: whole bytes, at most eight of them, and a byte size that
spells the width. The size in bits is computed as a 32-bit count. -/
def WellFormed (t : ElementType) : Prop :=
  0 < t.bits ∧ t.bits ≤ 64 ∧ t.bits % 8 = 0 ∧ t.bytes * 8 = UInt32.ofNat t.bits

instance (t : ElementType) : Decidable t.WellFormed := inferInstanceAs (Decidable (_ ∧ _))

/-- Whether elements are floating-point numbers. -/
def isFloat (t : ElementType) : Bool := t.numeric == .float

/-- Whether elements are two's complement integers. -/
def isSigned (t : ElementType) : Bool := t.numeric == .signed

/-- The significant bits of a word as an element. -/
def truncate (t : ElementType) (v : Word) : Word := Word.low t.bits v

/-- The word with exactly the significant bits set. -/
def mask (t : ElementType) : Word := Word.lowMask t.bits

/-- The name of the untyped container of the same width. -/
def bitName (t : ElementType) : String := "b" ++ toString t.bits

/-- Edge values of floating-point elements: both zeros, both ones, the least subnormal, the
greatest finite values, the infinities and a NaN. Widths without a format get those of double
precision. -/
def floatEdges (bits : Nat) : List Word :=
  match bits with
  | 16 => [0x0000, 0x8000, 0x3C00, 0xBC00, 0x0001, 0x7BFF, 0xFBFF, 0x7C00, 0xFC00, 0x7E00]
  | 32 =>
    [0x00000000, 0x80000000, 0x3F800000, 0xBF800000, 0x00000001,
     0x7F7FFFFF, 0xFF7FFFFF, 0x7F800000, 0xFF800000, 0x7FC00000]
  | _ =>
    [0, 0x8000000000000000, 0x3FF0000000000000, 0xBFF0000000000000, 1,
     0x7FEFFFFFFFFFFFFF, 0xFFEFFFFFFFFFFFFF, 0x7FF0000000000000,
     0xFFF0000000000000, 0x7FF8000000000000]

/-- The boundary values of a type. Integers: zero, one, all ones and the signed extremes. Bits:
additionally the two alternating patterns. -/
def edgeValues (t : ElementType) : List Word :=
  let top : Word := 1 <<< (t.bits - 1)
  match t.numeric with
  | .unsigned | .signed => [0, 1, t.mask, top, top - 1]
  | .bits =>
    [0, 1, t.mask, top, t.truncate 0x5555555555555555, t.truncate 0xAAAAAAAAAAAAAAAA]
  | .float => floatEdges t.bits

/-- The pattern of an element: one hexadecimal digit per four bits, more only for a word that is
wider than the type. -/
def patternText (t : ElementType) (v : Word) : String := Text.hexPadded (t.bits / 4) v.toNat

/-- An element as diagnostics write it: signed and floating-point values in front of their pattern,
all others as the pattern alone. -/
def formatValue (t : ElementType) (v : Word) : String :=
  match t.numeric with
  | .float => FloatElement.display t.bits v ++ " (" ++ t.patternText v ++ ")"
  | .signed => toString (Word.signed t.bits v) ++ " (" ++ t.patternText v ++ ")"
  | .unsigned | .bits => t.patternText v

/-- The built-in types, in catalog order. -/
def builtin : List ElementType :=
  [ofWidth "u16" 16 .unsigned, ofWidth "s16" 16 .signed, ofWidth "b16" 16 .bits,
   ofWidth "u32" 32 .unsigned, ofWidth "s32" 32 .signed, ofWidth "b32" 32 .bits,
   ofWidth "u64" 64 .unsigned, ofWidth "s64" 64 .signed, ofWidth "b64" 64 .bits,
   ofWidth "f16" 16 .float, ofWidth "f32" 32 .float, ofWidth "f64" 64 .float]

theorem builtin_wellFormed : ∀ t ∈ builtin, t.WellFormed := by decide

end ElementType

end Crosscheck
