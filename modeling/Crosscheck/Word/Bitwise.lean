import Crosscheck.Word

/-!
# Crosscheck.Word.Bitwise

**Logical operations, bit reversal and shifts.** A shift amount is a 32-bit value, so only the low
half of its word counts. What an amount at or beyond the operand width does is a property of the
target device, and `ShiftPolicy` names the two conventions.
-/

namespace Crosscheck

open Word

/-- How a device treats a shift amount that reaches the operand width. -/
inductive ShiftPolicy where
  /-- The amount saturates: every bit is shifted out, and only sign bits remain, if any. -/
  | clamp
  /-- The amount is cut to the bits that can name a position in the operand. -/
  | mask
  deriving DecidableEq, Repr

namespace ShiftPolicy

/-- The written name of a policy. -/
def name : ShiftPolicy → String
  | .clamp => "clamp"
  | .mask => "mask"

/-- The policy of a written name. -/
def ofName? : String → Option ShiftPolicy
  | "clamp" => some .clamp
  | "mask" => some .mask
  | _ => none

/-- What is said about a text that names no policy. -/
def unknownMessage (text : String) : String :=
  "unknown shift policy '" ++ text ++ "' (expected clamp or mask)"

@[simp] theorem ofName?_name (p : ShiftPolicy) : ofName? p.name = some p := by
  cases p <;> rfl

/-- The distance that bits really move, or `none` where every one of them is shifted out. -/
def effective (policy : ShiftPolicy) (bits : Nat) (amount : Word) : Option Nat :=
  match policy with
  | .clamp => if bits ≤ (low 32 amount).toNat then none else some (low 32 amount).toNat
  | .mask => some ((low 32 amount).toNat &&& (bits - 1))

end ShiftPolicy

namespace Bitwise

/-- Conjunction of the low bits. -/
def and (bits : Nat) (a b : Word) : Word := low bits (a &&& b)

/-- Disjunction of the low bits. -/
def or (bits : Nat) (a b : Word) : Word := low bits (a ||| b)

/-- Exclusive disjunction of the low bits. -/
def xor (bits : Nat) (a b : Word) : Word := low bits (a ^^^ b)

/-- Complement of the low bits. -/
def not (bits : Nat) (a : Word) : Word := low bits (~~~ a)

/-- Bit reversal: bit `i` of the result is bit `bits - 1 - i` of the operand. -/
def reverse (bits : Nat) (a : Word) : Word :=
  gather (fun i => a.getLsbD (bits - 1 - i)) bits

/-- Shift left. -/
def shiftLeft (policy : ShiftPolicy) (bits : Nat) (value amount : Word) : Word :=
  match policy.effective bits amount with
  | some n => low bits (value <<< n)
  | none => 0

/-- Shift right: arithmetic for signed operands, logical for all others. -/
def shiftRight (policy : ShiftPolicy) (bits : Nat) (signed : Bool) (value amount : Word) : Word :=
  let distance := policy.effective bits amount
  if signed then
    let n := distance.getD (bits - 1)
    low bits (BitVec.ofInt 64 (Word.signed bits value >>> n))
  else
    match distance with
    | some n => low bits value >>> n
    | none => 0

end Bitwise

end Crosscheck
