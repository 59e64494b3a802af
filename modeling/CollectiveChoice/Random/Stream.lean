/-!
# A stream of random words

Words of 32 bits are drawn from the ChaCha stream cipher with twelve rounds: the blocks of the
cipher in order, each of sixteen words.  The key is spread from a seed of 64 bits by a permuted
congruential generator.  Equal seeds give equal streams.
-/

namespace CollectiveChoice.Random

set_option autoImplicit false

/-! ## Keys -/

/-- Rotates a word to the left by an amount between 1 and 31. -/
def rotateLeft (word amount : UInt32) : UInt32 :=
  (word <<< amount) ||| (word >>> (32 - amount))

/-- The next state of the generator that spreads a seed. -/
def nextState (state : UInt64) : UInt64 :=
  state * 6364136223846793005 + 11634580027462260723

/-- The word a state of that generator stands for. -/
def stateWord (state : UInt64) : UInt32 :=
  let mixed := (((state >>> 18) ^^^ state) >>> 27).toUInt32
  let amount := (state >>> 59).toUInt32
  if amount = 0 then mixed else rotateLeft mixed (32 - amount)

/-- A number of words spread from a state. -/
def spread : Nat → UInt64 → List UInt32
  | 0, _ => []
  | count + 1, state =>
    let next := nextState state
    stateWord next :: spread count next

/-- The key of a seed. -/
def keyOf (seed : UInt64) : List UInt32 :=
  spread 8 seed

/-! ## Blocks -/

/-- Mixes four words of a block. -/
def quarterRound (block : Array UInt32) (a b c d : Nat) : Array UInt32 :=
  let word (block : Array UInt32) (place : Nat) := block.getD place 0
  let block := block.setIfInBounds a (word block a + word block b)
  let block := block.setIfInBounds d (rotateLeft (word block d ^^^ word block a) 16)
  let block := block.setIfInBounds c (word block c + word block d)
  let block := block.setIfInBounds b (rotateLeft (word block b ^^^ word block c) 12)
  let block := block.setIfInBounds a (word block a + word block b)
  let block := block.setIfInBounds d (rotateLeft (word block d ^^^ word block a) 8)
  let block := block.setIfInBounds c (word block c + word block d)
  block.setIfInBounds b (rotateLeft (word block b ^^^ word block c) 7)

/-- Mixes the columns and then the diagonals of a block. -/
def doubleRound (block : Array UInt32) : Array UInt32 :=
  let block := quarterRound block 0 4 8 12
  let block := quarterRound block 1 5 9 13
  let block := quarterRound block 2 6 10 14
  let block := quarterRound block 3 7 11 15
  let block := quarterRound block 0 5 10 15
  let block := quarterRound block 1 6 11 12
  let block := quarterRound block 2 7 8 13
  quarterRound block 3 4 9 14

/-- The block a key and a counter start from. -/
def initialBlock (key : List UInt32) (counter : UInt64) : Array UInt32 :=
  (([0x61707865, 0x3320646e, 0x79622d32, 0x6b206574] : List UInt32) ++ key ++
    [counter.toUInt32, (counter >>> 32).toUInt32, 0, 0]).toArray

/-- The words of a block. -/
def blockWords (key : List UInt32) (counter : UInt64) : List UInt32 :=
  let start := initialBlock key counter
  let mixed := Nat.repeat doubleRound 6 start
  (start.zipWith (· + ·) mixed).toList

/-! ## Streams -/

/-- A stream: the key, the counter of the next block, and the words left of the last one. -/
structure Stream where
  key : List UInt32
  /-- The counter of the next block. -/
  counter : UInt64
  /-- The words that come before the next block. -/
  buffered : List UInt32
deriving DecidableEq

namespace Stream

/-- The stream of a seed. -/
def ofSeed (seed : UInt64) : Stream :=
  ⟨keyOf seed, 0, []⟩

/-- The next word, and the stream behind it. -/
def next (stream : Stream) : UInt32 × Stream :=
  match stream.buffered with
  | word :: rest => (word, { stream with buffered := rest })
  | [] =>
    match blockWords stream.key stream.counter with
    | word :: rest => (word, ⟨stream.key, stream.counter + 1, rest⟩)
    | [] => (0, stream)

/-- Draws words until one falls into the zone in which every result is equally likely, at most a
given number of times. -/
def drawInZone (span zone : UInt32) : Nat → Stream → UInt32 × Stream
  | 0, stream => (0, stream)
  | tries + 1, stream =>
    let (word, rest) := stream.next
    let product := word.toUInt64 * span.toUInt64
    if product.toUInt32 ≤ zone then ((product >>> 32).toUInt32, rest)
    else drawInZone span zone tries rest

/-- The number of zero digits in front of the binary digits of a word. -/
def leadingZeros (word : UInt32) : UInt32 :=
  if word = 0 then 32 else (31 - Nat.log2 word.toNat).toUInt32

/-- Draws a number from `low` to `high`, both included.  Each word misses the zone with a
probability of less than one half, so the number of tries never runs out in practice. -/
def range (low high : Nat) (stream : Stream) : Nat × Stream :=
  let span := (high - low + 1).toUInt32
  let zone := (span <<< leadingZeros span) - 1
  let (offset, rest) := drawInZone span zone 1024 stream
  (low + offset.toNat, rest)

end Stream

end CollectiveChoice.Random
