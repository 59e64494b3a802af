import CollectiveChoice.Order.SortedMap
import CollectiveChoice.Term.Atom
import CollectiveChoice.Digest.Name

/-!
# Canonical models

A model is a solution in canonical form: its atoms as a set, and an id derived from them.  The
order in which a solver lists the atoms, and repetitions among them, leave no trace.  Equal sets of
atoms have equal ids; different sets may share one, since an id is a name and not the content.

The operations over several models are here too: the atoms common to all of them and the atoms of
any of them, the former grouped by predicate.
-/

namespace CollectiveChoice

set_option autoImplicit false

/-- The name of a model. -/
abbrev ModelId := String

/-- A solution in canonical form. -/
@[ext] structure Model where
  atoms : SortedSet Atom
  /-- The name derived from the atoms. -/
  id : ModelId
deriving DecidableEq

/-- Argument tuples by predicate. -/
abbrev AtomsByPredicate := SortedMap String (SortedSet (List Value))

/-- Atoms as JSON. -/
def Atom.listToJson (atoms : List Atom) : Json :=
  .array (atoms.map Atom.toJson)

/-- The facts that state the atoms, with spaces between them. -/
def Atom.facts (atoms : List Atom) : String :=
  " ".intercalate (atoms.map Atom.fact)

/-- Groups atoms by predicate. -/
def AtomsByPredicate.ofAtoms (atoms : List Atom) : AtomsByPredicate :=
  atoms.foldl
    (fun groups atom => groups.alter atom.predicate fun group =>
      (group.getD .empty).insert atom.args)
    .empty

/-- The atoms of all groups, in order. -/
def AtomsByPredicate.atoms (groups : AtomsByPredicate) : List Atom :=
  groups.toList.flatMap fun group => group.2.toList.map fun args => ⟨group.1, args⟩

namespace Model

/-- The model of a set of atoms, with the given number of words in its id. -/
def ofSet (atoms : SortedSet Atom) (words : Nat) : Model where
  atoms := atoms
  id := Digest.name (Atom.listToJson atoms.toList) words

/-- The model of a collection of atoms. -/
def ofAtoms (atoms : List Atom) (words : Nat) : Model :=
  ofSet (SortedSet.ofList atoms) words

/-- The model of a solution. -/
def ofSolution (solution : Solution) (words : Nat) : Model :=
  ofAtoms solution.atoms words

/-- Whether the model holds an atom. -/
def contains (model : Model) (atom : Atom) : Bool :=
  model.atoms.contains atom

/-- The atoms with a predicate, in order. -/
def atomsOf (model : Model) (predicate : String) : List Atom :=
  model.atoms.toList.filter fun atom => atom.predicate == predicate

/-- The atoms grouped by predicate. -/
def byPredicate (model : Model) : AtomsByPredicate :=
  .ofAtoms model.atoms.toList

/-- The model in the syntax of the solver. -/
def facts (model : Model) : String :=
  Atom.facts model.atoms.toList

/-- A model as JSON. -/
def toJson (model : Model) : Json :=
  .object [("atoms", Atom.listToJson model.atoms.toList), ("id", .string model.id)]

/-! ## Several models -/

/-- The atoms that the first model and all others hold. -/
def commonAtoms (first : Model) (others : List Model) : List Atom :=
  first.atoms.toList.filter fun atom => others.all fun model => model.contains atom

/-- The atoms common to all models, grouped by predicate; a predicate without common atoms has no
group. -/
def intersection (first : Model) (others : List Model) : AtomsByPredicate :=
  .ofAtoms (commonAtoms first others)

/-- The atoms common to all models, absent where there is no model. -/
def common? : List Model → Option AtomsByPredicate
  | [] => none
  | first :: others => some (intersection first others)

/-- The atoms at least one model holds. -/
def union (models : List Model) : SortedSet Atom :=
  models.foldr (fun model atoms => atoms.union model.atoms) .empty

end Model

end CollectiveChoice
