/-!
# Crosscheck.Text.Numeral

**Numerals.** Hexadecimal numerals in lower case, with or without leading zeros, and unsigned
decimal numerals with a bound.
-/

namespace Crosscheck.Text

/-- The lower-case hexadecimal digits of a number, padded with zeros to `digits` places. -/
def hexDigits (digits value : Nat) : List Char :=
  let ds := Nat.toDigits 16 value
  List.replicate (digits - ds.length) '0' ++ ds

/-- The hexadecimal numeral of a number, with at least `digits` digits after its `0x`. -/
def hexPadded (digits value : Nat) : String := "0x" ++ String.ofList (hexDigits digits value)

/-- The hexadecimal numeral of a number, without leading zeros. -/
def hex (value : Nat) : String := hexPadded 0 value

/-- The value of a hexadecimal digit of either case. -/
def hexValue? (c : Char) : Option Nat :=
  if '0' ≤ c ∧ c ≤ '9' then some (c.toNat - '0'.toNat)
  else if 'a' ≤ c ∧ c ≤ 'f' then some (c.toNat - 'a'.toNat + 10)
  else if 'A' ≤ c ∧ c ≤ 'F' then some (c.toNat - 'A'.toNat + 10)
  else none

/-- The number that a run of digits in the given base denotes; `none` for a text without digits or
with anything else in it. -/
def ofDigits? (base : Nat) (cs : List Char) : Option Nat :=
  if cs.isEmpty then none
  else cs.foldl (fun acc c => do
    let n ← acc
    let d ← hexValue? c
    if d < base then some (n * base + d) else none) (some 0)

/-- An unsigned decimal numeral of at most `bits` bits; one leading plus sign is allowed. -/
def unsigned? (bits : Nat) (cs : List Char) : Option Nat := do
  let digits := match cs with
    | '+' :: rest => rest
    | _ => cs
  let n ← ofDigits? 10 digits
  if n < 1 <<< bits then some n else none

end Crosscheck.Text
