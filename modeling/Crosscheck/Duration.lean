/-!
# Crosscheck.Duration

**Spans of time and how they are written.** A duration is a 64-bit count of seconds and a rest of
less than a second in nanoseconds. It is written in the largest of the units s, ms, µs and ns in
which it is at least one, as a decimal without trailing zeros.
-/

namespace Crosscheck

/-- A span of time. -/
structure Duration where
  /-- Whole seconds. -/
  seconds : UInt64
  /-- The rest, in nanoseconds. -/
  nanos : Nat
  /-- The rest is less than a second. -/
  nanos_lt : nanos < 1000000000 := by omega
  deriving DecidableEq

namespace Duration

/-- A duration of seconds and nanoseconds; whole seconds among the nanoseconds are carried. -/
def ofParts (seconds : UInt64) (nanos : Nat) : Duration where
  seconds := seconds + UInt64.ofNat (nanos / 1000000000)
  nanos := nanos % 1000000000
  nanos_lt := Nat.mod_lt _ (by decide)

/-- A duration of milliseconds. -/
def ofMillis (millis : UInt64) : Duration where
  seconds := millis / 1000
  nanos := millis.toNat % 1000 * 1000000

/-- The longest duration. -/
def longest : Duration where
  seconds := 0xFFFFFFFFFFFFFFFF
  nanos := 999999999

/-- Whether no time passes. -/
def isZero (d : Duration) : Bool := d.seconds == 0 && d.nanos == 0

/-- Whether a point in time that far ahead can be told: clocks count signed 64-bit seconds, of which
those up to now are spent. -/
def isRepresentable (d : Duration) : Bool := decide (d.seconds.toNat < 1 <<< 63 - 1 <<< 32)

/-- The decimal places of a fraction of `places` digits, with their point; nothing for zero. -/
def fractionText (places fraction : Nat) : String :=
  let digits := (toString fraction).toList
  let padded := List.replicate (places - digits.length) '0' ++ digits
  match (padded.reverse.dropWhile (· == '0')).reverse with
  | [] => ""
  | kept => "." ++ String.ofList kept

/-- A duration as messages write it. -/
def text (d : Duration) : String :=
  if d.seconds ≠ 0 then toString d.seconds.toNat ++ fractionText 9 d.nanos ++ "s"
  else if 1000000 ≤ d.nanos then
    toString (d.nanos / 1000000) ++ fractionText 6 (d.nanos % 1000000) ++ "ms"
  else if 1000 ≤ d.nanos then toString (d.nanos / 1000) ++ fractionText 3 (d.nanos % 1000) ++ "µs"
  else toString d.nanos ++ "ns"

end Duration

end Crosscheck
