import Crosscheck.Word

/-!
# Crosscheck.Word.BitField

**Extracting and inserting bit fields.** A field is a position and a length. The device reads only
the low eight bits of either, and a field that reaches past the top of the word is cut there: it
never wraps around.
-/

namespace Crosscheck

open Word

/-- A bit field: where it starts and how many bits it has, both 32-bit counts. -/
structure BitField where
  /-- Index of the lowest bit. -/
  position : UInt32
  /-- Number of bits. -/
  length : UInt32
  deriving DecidableEq, Repr

namespace BitField

/-- Whether the field ends within a word of `bits` bits; the end is itself a 32-bit count. -/
def fits (field : BitField) (bits : Nat) : Bool :=
  decide ((field.position + field.length).toNat ≤ bits)

/-- The written form of a field, as it ends a point's name. -/
def text (field : BitField) : String :=
  "p" ++ toString field.position.toNat ++ "_l" ++ toString field.length.toNat

/-- Lexicographic order: position first, then length. -/
def before (f g : BitField) : Bool :=
  decide (f.position < g.position) || (f.position == g.position && decide (f.length < g.length))

/-- The position as the device reads it. -/
def start (field : BitField) : Nat := field.position.toNat % 256

/-- The length as the device reads it. -/
def span (field : BitField) : Nat := field.length.toNat % 256

/-- Extracts the field and right-justifies it. Bits above the field are clear, or, for signed
operands, copies of the field's top bit; an empty field gives zero. -/
def extract (field : BitField) (bits : Nat) (signed : Bool) (value : Word) : Word :=
  if field.span = 0 then 0
  else
    let top := min (field.start + field.span - 1) (bits - 1)
    gather (fun i =>
      if i < field.span ∧ field.start + i ≤ bits - 1 then value.getLsbD (field.start + i)
      else signed && value.getLsbD top) bits

/-- Replaces the field in `base` by the low bits of `source`; everything else in `base` stays. -/
def insert (field : BitField) (bits : Nat) (source base : Word) : Word :=
  if field.span = 0 ∨ bits ≤ field.start then low bits base
  else
    let fieldMask := lowMask (min field.span (bits - field.start)) <<< field.start
    (low bits base &&& ~~~ fieldMask) ||| ((source <<< field.start) &&& fieldMask)

end BitField

end Crosscheck
