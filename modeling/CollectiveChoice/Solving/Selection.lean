import CollectiveChoice.Random.Sample
import CollectiveChoice.Solving.Request

/-!
# Which answers are kept

Of the answers of a solver a request may want the optimal ones, the first ones or a sample.  Whatever
is kept keeps its order.  A sample is never taken of optimal answers.
-/

namespace CollectiveChoice

set_option autoImplicit false

namespace Selecting

/-- The least list of costs, in lexicographic order. -/
def leastCosts? : List (List Int) → Option (List Int)
  | [] => none
  | costs :: rest =>
    match leastCosts? rest with
    | none => some costs
    | some least => if (compare least costs).isLT then some least else some costs

/-- The solutions with the least costs. -/
def retainOptimal (solutions : List Solution) : List Solution :=
  match leastCosts? (solutions.map Solution.costs) with
  | none => solutions
  | some least => solutions.filter fun solution => solution.costs == least

/-- The first solutions up to a limit, where zero sets none. -/
def truncate (limit : Nat) (solutions : List Solution) : List Solution :=
  if limit = 0 then solutions else solutions.take limit

/-- A way to pick distinct indices: from how many, and how many of them. -/
abbrev Picker := Nat → Nat → List Nat

/-- The entries at places in ascending order, found by going through the entries once, given the place
of the first one. -/
def pickAlong {α : Type} (place : Nat) : List Nat → List α → List α
  | next :: places, entry :: rest =>
    if next = place then entry :: pickAlong (place + 1) places rest
    else pickAlong (place + 1) (next :: places) rest
  | _, _ => []

/-- The solutions at picked indices, in their order, or all of them where no more are wanted than
there are. -/
def sample (pick : Picker) (limit : Nat) (solutions : List Solution) : List Solution :=
  if limit = 0 ∨ solutions.length ≤ limit then solutions
  else pickAlong 0 (pick solutions.length limit).mergeSort solutions

/-- The solutions a request keeps, given a way to pick a sample. -/
def selectWith (pick : Picker) (request : SolveRequest) (solutions : List Solution) :
    List Solution :=
  if request.optimalsOnly then truncate request.maxModels (retainOptimal solutions)
  else if request.sampling then sample pick request.maxModels solutions
  else truncate request.maxModels solutions

/-- The way to pick a sample under a seed.  Without a seed every sample is as good as another one,
and the one of seed zero is taken. -/
def pickerOf (seed : Option UInt64) : Picker :=
  Random.sampleIndices (seed.getD 0)

/-- The solutions a request keeps. -/
def select (request : SolveRequest) (solutions : List Solution) : List Solution :=
  selectWith (pickerOf request.samplingSeed) request solutions

end Selecting

end CollectiveChoice
