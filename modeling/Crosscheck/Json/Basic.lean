/-!
# Crosscheck.Json.Basic

**JSON values.** Requests to devices, their responses and archived reports are JSON. A value keeps
what its text says and no more: an object's members in order, repeated keys included, and of a string
that spells half of a surrogate pair only that it does, since no text has such a character.
-/

namespace Crosscheck

/-- A number. -/
inductive JsonNumber where
  /-- Digits only. -/
  | natural (n : Nat)
  /-- Any other: a sign, and digits times a power of ten. -/
  | decimal (negative : Bool) (digits : Nat) (exponent : Int)
  deriving DecidableEq, Repr

/-- A JSON value. A string or key is `none` where it stands for no text. -/
inductive Json where
  /-- The literal `null`. -/
  | null
  /-- One of the literals `true` and `false`. -/
  | bool (b : Bool)
  /-- A number. -/
  | number (n : JsonNumber)
  /-- A string. -/
  | text (s : Option String)
  /-- An array. -/
  | array (items : List Json)
  /-- An object. -/
  | object (members : List (Option String × Json))

/-- The numbers from which on a double rounds to infinity. -/
def JsonNumber.doubleLimit : Nat := 1 <<< 1024 - 1 <<< 970

/-- Whether a number is within the range of doubles. A power of ten is only computed where it is
not much longer than the number itself. -/
def JsonNumber.isFinite : JsonNumber → Bool
  | natural n => decide (n < doubleLimit)
  | decimal _ digits exponent =>
    match exponent with
    | .ofNat e => digits == 0 || (decide (e ≤ 400) && decide (digits * Nat.pow 10 e < doubleLimit))
    | .negSucc e =>
      decide (digits.log2 ≤ 3 * e) || decide (digits < doubleLimit * Nat.pow 10 (e + 1))

namespace Json

/-- A string. -/
def ofString (s : String) : Json := text (some s)

/-- A natural number. -/
def ofNat (n : Nat) : Json := number (.natural n)

/-- An object of named fields. -/
def ofFields (fields : List (String × Json)) : Json :=
  object (fields.map fun field => (some field.1, field.2))

/-- Whether a value consists of texts and finite numbers, its arrays and objects at most `depth`
deep. -/
def isPlain : (depth : Nat) → Json → Bool
  | _, null => true
  | _, bool _ => true
  | _, number n => n.isFinite
  | _, text s => s.isSome
  | 0, array _ => false
  | 0, object _ => false
  | depth + 1, array items => items.attach.all fun ⟨item, _⟩ => isPlain depth item
  | depth + 1, object members => members.attach.all fun ⟨(key, value), _⟩ =>
    key.isSome && isPlain depth value

end Json

end Crosscheck
