import Crosscheck.Random.ChaCha

/-!
# Crosscheck.Random.Sampling

**Draws from a random stream.** Each draw returns its value and the generator after it, so the
values of a sequence of draws depend on the seed and on the draws before them only.
-/

namespace Crosscheck.Random

/-- Draws `true` with probability `threshold / 2 ^ 64`. -/
def chance (threshold : Nat) (g : ChaCha) : Bool × ChaCha :=
  let (v, g) := g.next64
  (decide (v.toNat < threshold), g)

/-- Draws a number below `range` without bias: a 64-bit draw is scaled by the range, and rejected
if the rest of the scaling exceeds the largest multiple of the range by a power of two. At least
every second draw is accepted, so `fuel` rejections in a row do not happen in practice; zero is the
answer if they do. -/
def belowWithin (range : Nat) : (fuel : Nat) → ChaCha → Nat × ChaCha
  | 0, g => (0, g)
  | fuel + 1, g =>
    let zone := range <<< (63 - range.log2) - 1
    let (v, g) := g.next64
    let scaled := v.toNat * range
    if scaled % UInt64.size ≤ zone then (scaled / UInt64.size, g) else belowWithin range fuel g

/-- Draws a number below `range`, which is positive. -/
def below (range : Nat) (g : ChaCha) : Nat × ChaCha := belowWithin range 1000 g

end Crosscheck.Random
