import CollectiveChoice.Calendar.Timestamp
import CollectiveChoice.Page.Plugin

/-!
# Outcomes of compilations

The outcome of a compilation is what readers see: the models, their ids, the figures and the
rendered page.  Of several solutions with one id the first one counts.  An outcome is replaced as a
whole.
-/

namespace CollectiveChoice

set_option autoImplicit false

/-- What readers see. -/
structure Outcome where
  /-- The models, in the order of the solver. -/
  models : List Model
  /-- The ids of the models; before the first compilation, those known from before a restart. -/
  ids : SortedSet ModelId
  statistics : Statistics
  rendering : Rendering
  /-- When the compilation took place, absent before the first one. -/
  compiledAt : Option Timestamp

namespace Outcome

/-- The outcome before the first compilation. -/
def initial (ids : SortedSet ModelId) : Outcome where
  models := []
  ids := ids
  statistics := .ofModels [] ⟨0⟩
  rendering := ⟨"", "", []⟩
  compiledAt := none

/-- The models whose id is none of those seen, each id once. -/
def distinct : SortedSet ModelId → List Model → List Model
  | _, [] => []
  | seen, model :: rest =>
    if seen.contains model.id then distinct seen rest
    else model :: distinct (seen.insert model.id) rest

theorem distinct_nil (seen : SortedSet ModelId) : distinct seen [] = [] := rfl

theorem distinct_cons (seen : SortedSet ModelId) (model : Model) (rest : List Model) :
    distinct seen (model :: rest) =
      if seen.contains model.id then distinct seen rest
      else model :: distinct (seen.insert model.id) rest := rfl

/-- The models of solutions, with the given number of words in their ids. -/
def modelsOf (words : Nat) (solutions : List Solution) : List Model :=
  distinct .empty (solutions.map fun solution => Model.ofSolution solution words)

/-- The place of the model with an id. -/
def place? (outcome : Outcome) (id : ModelId) : Option Nat :=
  outcome.models.findIdx? fun model => model.id == id

/-- The model with an id. -/
def model? (outcome : Outcome) (id : ModelId) : Option Model :=
  outcome.models.find? fun model => model.id == id

/-- The rendered fragment of the model with an id. -/
def fragment? (outcome : Outcome) (id : ModelId) : Option String :=
  (outcome.place? id).bind fun place => outcome.rendering.models[place]?

/-- Whether there was a compilation and it found no model. -/
def isUnsatisfiable (outcome : Outcome) : Bool :=
  outcome.compiledAt.isSome && outcome.models.isEmpty

end Outcome

end CollectiveChoice
