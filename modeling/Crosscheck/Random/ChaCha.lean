import Crosscheck.Word

/-!
# Crosscheck.Random.ChaCha

**The ChaCha stream of 32-bit words, with eight rounds.** A generator is a key, the number of the
next block, and the words of the current block that have not been drawn yet. Words are drawn in
order; a 64-bit word is two of them, the low half first.

The key of a 64-bit seed is expanded by a permuted congruential generator, one key word per step.
-/

namespace Crosscheck.Random

/-- Rotation to the left. -/
def rotateLeft (x : UInt32) (n : UInt32) : UInt32 := (x <<< n) ||| (x >>> (32 - n))

/-- The state of a block: sixteen words. -/
structure Block where
  /-- First row: the constants. -/
  a : Fin 4 → UInt32
  /-- Second row: the first half of the key. -/
  b : Fin 4 → UInt32
  /-- Third row: the second half of the key. -/
  c : Fin 4 → UInt32
  /-- Fourth row: the block number and the stream number. -/
  d : Fin 4 → UInt32

/-- One quarter round on a column of four words. -/
def quarterRound (a b c d : UInt32) : UInt32 × UInt32 × UInt32 × UInt32 :=
  let a := a + b
  let d := rotateLeft (d ^^^ a) 16
  let c := c + d
  let b := rotateLeft (b ^^^ c) 12
  let a := a + b
  let d := rotateLeft (d ^^^ a) 8
  let c := c + d
  let b := rotateLeft (b ^^^ c) 7
  (a, b, c, d)

/-- A row of four words. -/
def row (w x y z : UInt32) : Fin 4 → UInt32
  | 0 => w
  | 1 => x
  | 2 => y
  | 3 => z

/-- A quarter round down every column. -/
def Block.columnRound (s : Block) : Block :=
  let (a0, b0, c0, d0) := quarterRound (s.a 0) (s.b 0) (s.c 0) (s.d 0)
  let (a1, b1, c1, d1) := quarterRound (s.a 1) (s.b 1) (s.c 1) (s.d 1)
  let (a2, b2, c2, d2) := quarterRound (s.a 2) (s.b 2) (s.c 2) (s.d 2)
  let (a3, b3, c3, d3) := quarterRound (s.a 3) (s.b 3) (s.c 3) (s.d 3)
  ⟨row a0 a1 a2 a3, row b0 b1 b2 b3, row c0 c1 c2 c3, row d0 d1 d2 d3⟩

/-- A quarter round down every diagonal. -/
def Block.diagonalRound (s : Block) : Block :=
  let (a0, b1, c2, d3) := quarterRound (s.a 0) (s.b 1) (s.c 2) (s.d 3)
  let (a1, b2, c3, d0) := quarterRound (s.a 1) (s.b 2) (s.c 3) (s.d 0)
  let (a2, b3, c0, d1) := quarterRound (s.a 2) (s.b 3) (s.c 0) (s.d 1)
  let (a3, b0, c1, d2) := quarterRound (s.a 3) (s.b 0) (s.c 1) (s.d 2)
  ⟨row a0 a1 a2 a3, row b0 b1 b2 b3, row c0 c1 c2 c3, row d0 d1 d2 d3⟩

/-- `n` times a column round and a diagonal round. -/
def Block.doubleRounds : Nat → Block → Block
  | 0, s => s
  | n + 1, s => doubleRounds n s.columnRound.diagonalRound

/-- The words of a block, row by row. -/
def Block.words (s : Block) : List UInt32 :=
  [s.a 0, s.a 1, s.a 2, s.a 3, s.b 0, s.b 1, s.b 2, s.b 3,
   s.c 0, s.c 1, s.c 2, s.c 3, s.d 0, s.d 1, s.d 2, s.d 3]

/-- A generator. -/
structure ChaCha where
  /-- First half of the key. -/
  keyLow : Fin 4 → UInt32
  /-- Second half of the key. -/
  keyHigh : Fin 4 → UInt32
  /-- Number of the next block. -/
  counter : UInt64
  /-- Words of the current block that are still to be drawn. -/
  pending : List UInt32

namespace ChaCha

/-- The words of the block of a given number: the state after eight rounds, added to the state
before them. -/
def block (g : ChaCha) (counter : UInt64) : List UInt32 :=
  let start : Block :=
    { a := row 0x61707865 0x3320646e 0x79622d32 0x6b206574
      b := g.keyLow
      c := g.keyHigh
      d := row counter.toUInt32 (counter >>> 32).toUInt32 0 0 }
  List.zipWith (· + ·) (start.doubleRounds 4).words start.words

/-- The next 32-bit word. -/
def next32 (g : ChaCha) : UInt32 × ChaCha :=
  match g.pending with
  | w :: ws => (w, { g with pending := ws })
  | [] =>
    let words := g.block g.counter
    (words.headD 0, { g with counter := g.counter + 1, pending := words.tail })

/-- The next 64-bit word. -/
def next64 (g : ChaCha) : Word × ChaCha :=
  let (low, g) := g.next32
  let (high, g) := g.next32
  (BitVec.ofNat 64 (high.toNat <<< 32 + low.toNat), g)

/-- The state of the seed expansion after one more step. -/
def seedStep (state : UInt64) : UInt64 := state * 6364136223846793005 + 11634580027462260723

/-- The key word of a state of the seed expansion. -/
def seedWord (state : UInt64) : UInt32 :=
  let shifted := (((state >>> 18) ^^^ state) >>> 27).toUInt32
  let amount := (state >>> 59).toUInt32
  (shifted >>> amount) ||| (shifted <<< ((32 - amount) % 32))

/-- The generator of a seed. -/
def ofSeed (seed : Word) : ChaCha :=
  let s0 := seedStep (UInt64.ofNat seed.toNat)
  let s1 := seedStep s0
  let s2 := seedStep s1
  let s3 := seedStep s2
  let s4 := seedStep s3
  let s5 := seedStep s4
  let s6 := seedStep s5
  let s7 := seedStep s6
  { keyLow := row (seedWord s0) (seedWord s1) (seedWord s2) (seedWord s3)
    keyHigh := row (seedWord s4) (seedWord s5) (seedWord s6) (seedWord s7)
    counter := 0
    pending := [] }

end ChaCha

end Crosscheck.Random
