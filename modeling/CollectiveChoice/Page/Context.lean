import CollectiveChoice.Duration
import CollectiveChoice.Model

/-!
# What a fragment of a page may read

A page is put together from fragments.  The fragments of header and footer read the figures and the
models of a compilation; the fragments of a model read that model and its place as well.  Labels
give the names under which users and items are shown.
-/

namespace CollectiveChoice

set_option autoImplicit false

/-! ## Labels -/

/-- The names under which users and items are shown. -/
structure Labels where
  /-- The labels of users, by id. -/
  users : SortedMap String String
  /-- The labels of items, by id. -/
  items : SortedMap String String

namespace Labels

/-- The label of a user, or the id where there is none. -/
def user (labels : Labels) (id : String) : String :=
  (labels.users.find? id).getD id

/-- The label of an item, or the id where there is none. -/
def item (labels : Labels) (id : String) : String :=
  (labels.items.find? id).getD id

end Labels

/-! ## Figures -/

/-- The figures of one compilation. -/
structure Statistics where
  modelCount : Nat
  runtime : Duration
  /-- The atoms shared by all models, absent where there is no model. -/
  common : Option AtomsByPredicate
deriving Inhabited

namespace Statistics

/-- The figures of a list of models. -/
def ofModels (models : List Model) (runtime : Duration) : Statistics where
  modelCount := models.length
  runtime := runtime
  common := Model.common? models

/-- The number of atoms shared by all models. -/
def commonCount (statistics : Statistics) : Nat :=
  match statistics.common with
  | none => 0
  | some groups => (groups.values.map SortedSet.size).foldr (· + ·) 0

/-- The shared atoms in the syntax of the solver. -/
def commonFacts (statistics : Statistics) : String :=
  match statistics.common with
  | none => ""
  | some groups => Atom.facts groups.atoms

end Statistics

/-! ## Views -/

/-- What the fragments of header and footer read. -/
structure PageContext where
  /-- The labels of users and items. -/
  labels : Labels
  /-- All models, in the order in which they are shown. -/
  models : List Model
  statistics : Statistics

/-- One model at its place, counted from one. -/
structure ModelView where
  index : Nat
  model : Model

end CollectiveChoice
