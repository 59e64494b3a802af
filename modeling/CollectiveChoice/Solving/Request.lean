import CollectiveChoice.Configuration.Basic

/-!
# Requests to a solver

A request carries the program and what the configuration says about the answers: how many are kept,
how they are chosen, and how the solver is called.
-/

namespace CollectiveChoice

set_option autoImplicit false

/-- What a solver is asked. -/
structure SolveRequest where
  program : String
  /-- The greatest number of answers, where zero sets no limit. -/
  maxModels : Nat
  /-- Whether a sample is taken instead of the first answers. -/
  sampling : Bool
  samplingSeed : Option UInt64
  cli : List String
  constants : SortedMap String String
  /-- Whether only optimal answers are kept. -/
  optimalsOnly : Bool
deriving DecidableEq

/-- The request for a program under a configuration. -/
def SolveRequest.ofConfiguration (config : Configuration) (program : String) : SolveRequest where
  program := program
  maxModels := config.output.maxModels.toNat
  sampling := config.output.modelSelection = .sampling
  samplingSeed := config.output.samplingSeed
  cli := config.solver.cli
  constants := config.solver.constants
  optimalsOnly := config.solver.solvingMode = .optimals

end CollectiveChoice
