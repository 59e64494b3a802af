import CollectiveChoice.Number.Rounding
import CollectiveChoice.Random.Stream

/-!
# Samples without replacement

A sample of indices is drawn by one of two methods.  Few indices are drawn one by one, an index drawn
before being replaced by the greatest one possible; many are the front of a shuffled list.  The
bound between the two is computed in single precision.
-/

namespace CollectiveChoice.Random

set_option autoImplicit false

/-! ## Drawing one by one -/

/-- Draws an index up to each bound in turn, given the indices drawn before. -/
def drawUpTo : List Nat → Stream → List Nat → List Nat
  | [], _, drawn => drawn
  | bound :: bounds, stream, drawn =>
    let (index, rest) := stream.range 0 bound
    drawUpTo bounds rest ((if drawn.contains index then bound else index) :: drawn)

/-! ## Shuffling -/

/-- Swaps two places of an array. -/
def swap (indices : Array Nat) (left right : Nat) : Array Nat :=
  (indices.setIfInBounds left (indices.getD right 0)).setIfInBounds right (indices.getD left 0)

/-- Swaps each of the given places with one drawn from there to the end. -/
def shuffleFront : List Nat → Stream → Array Nat → Array Nat
  | [], _, indices => indices
  | place :: places, stream, indices =>
    let (other, rest) := stream.range place (indices.size - 1)
    shuffleFront places rest (swap indices place other)

/-! ## Sampling -/

/-- Whether a sample is taken from a shuffled list. -/
def shuffles (length amount : Nat) : Bool :=
  if amount < 163 then
    let wanted := Number.toSingle (amount : Rat)
    let share := Number.toSingle (Number.toSingle (8 / 5) * wanted)
    let bound := Number.toSingle (Number.toSingle (10 + share) * wanted)
    11 < amount && Number.toSingle (length : Rat) < bound
  else true

/-- The indices of a sample of a given size from the indices below a length. -/
def sampleIndices (seed : UInt64) (length amount : Nat) : List Nat :=
  let stream := Stream.ofSeed seed
  if shuffles length amount then
    ((shuffleFront (List.range amount) stream (Array.range length)).extract 0 amount).toList
  else drawUpTo ((List.range length).drop (length - amount)) stream []

end CollectiveChoice.Random
