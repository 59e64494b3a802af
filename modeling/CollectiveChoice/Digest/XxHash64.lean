/-!
# The 64-bit xxHash

A seeded hash of a sequence of bytes.  Four lanes absorb the input in stripes of 32 bytes; the rest
is absorbed in words of eight and four bytes and single bytes, and a final mix spreads every bit
over the result.  All arithmetic is modulo `2 ^ 64`, words are little endian.
-/

namespace CollectiveChoice.Digest

set_option autoImplicit false

/-! ## Words -/

/-- The constants that spread the bits. -/
def prime1 : UInt64 := 0x9E3779B185EBCA87
@[inherit_doc prime1] def prime2 : UInt64 := 0xC2B2AE3D27D4EB4F
@[inherit_doc prime1] def prime3 : UInt64 := 0x165667B19E3779F9
@[inherit_doc prime1] def prime4 : UInt64 := 0x85EBCA77C2B2AE63
@[inherit_doc prime1] def prime5 : UInt64 := 0x27D4EB2F165667C5

/-- Rotates a word to the left by an amount between 1 and 63. -/
def rotateLeft (word amount : UInt64) : UInt64 :=
  (word <<< amount) ||| (word >>> (64 - amount))

/-- The word a sequence of bytes stands for, least significant byte first. -/
def littleEndian : List UInt8 → UInt64
  | [] => 0
  | byte :: rest => byte.toUInt64 ||| (littleEndian rest <<< 8)

/-- Absorbs a word into a lane. -/
def absorb (lane word : UInt64) : UInt64 :=
  rotateLeft (lane + word * prime2) 31 * prime1

/-! ## Stripes -/

/-- The four lanes. -/
structure Lanes where
  first : UInt64
  second : UInt64
  third : UInt64
  fourth : UInt64

/-- The lanes before any input. -/
def Lanes.ofSeed (seed : UInt64) : Lanes :=
  ⟨seed + prime1 + prime2, seed + prime2, seed, seed - prime1⟩

/-- Absorbs a number of stripes and returns the bytes behind them. -/
def Lanes.absorbStripes : Nat → Lanes → List UInt8 → Lanes × List UInt8
  | 0, lanes, bytes => (lanes, bytes)
  | stripes + 1, lanes, bytes =>
    let word (position : Nat) := littleEndian ((bytes.drop (8 * position)).take 8)
    Lanes.absorbStripes stripes
      ⟨absorb lanes.first (word 0), absorb lanes.second (word 1),
        absorb lanes.third (word 2), absorb lanes.fourth (word 3)⟩
      (bytes.drop 32)

/-- Merges one lane into the hash. -/
def mergeLane (hash lane : UInt64) : UInt64 :=
  (hash ^^^ absorb 0 lane) * prime1 + prime4

/-- Merges all lanes. -/
def Lanes.merge (lanes : Lanes) : UInt64 :=
  let sum := rotateLeft lanes.first 1 + rotateLeft lanes.second 7 + rotateLeft lanes.third 12 +
    rotateLeft lanes.fourth 18
  mergeLane (mergeLane (mergeLane (mergeLane sum lanes.first) lanes.second) lanes.third)
    lanes.fourth

/-! ## The rest -/

/-- Absorbs a number of words of eight bytes. -/
def absorbWords : Nat → UInt64 → List UInt8 → UInt64 × List UInt8
  | 0, hash, bytes => (hash, bytes)
  | words + 1, hash, bytes =>
    absorbWords words
      (rotateLeft (hash ^^^ absorb 0 (littleEndian (bytes.take 8))) 27 * prime1 + prime4)
      (bytes.drop 8)

/-- Absorbs half a word where the count says so. -/
def absorbHalfWords : Nat → UInt64 → List UInt8 → UInt64 × List UInt8
  | 0, hash, bytes => (hash, bytes)
  | halves + 1, hash, bytes =>
    absorbHalfWords halves
      (rotateLeft (hash ^^^ (littleEndian (bytes.take 4) * prime1)) 23 * prime2 + prime3)
      (bytes.drop 4)

/-- Absorbs the last bytes one by one. -/
def absorbBytes (hash : UInt64) : List UInt8 → UInt64
  | [] => hash
  | byte :: rest =>
    absorbBytes (rotateLeft (hash ^^^ (byte.toUInt64 * prime5)) 11 * prime1) rest

/-- Spreads every bit over the whole word. -/
def avalanche (hash : UInt64) : UInt64 :=
  let hash := (hash ^^^ (hash >>> 33)) * prime2
  let hash := (hash ^^^ (hash >>> 29)) * prime3
  hash ^^^ (hash >>> 32)

/-- The hash of a sequence of bytes under a seed. -/
def xxHash64 (seed : UInt64) (bytes : List UInt8) : UInt64 :=
  let length := bytes.length
  let (start, rest) :=
    if length < 32 then (seed + prime5, bytes)
    else
      let (lanes, rest) := (Lanes.ofSeed seed).absorbStripes (length / 32) bytes
      (lanes.merge, rest)
  let (hash, rest) := absorbWords (length % 32 / 8) (start + length.toUInt64) rest
  let (hash, rest) := absorbHalfWords (length % 8 / 4) hash rest
  avalanche (absorbBytes hash rest)

end CollectiveChoice.Digest
