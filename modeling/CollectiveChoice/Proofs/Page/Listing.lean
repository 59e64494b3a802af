import CollectiveChoice.Proofs.Order.Lexicographic
import CollectiveChoice.Proofs.Page.Markup
import Mathlib.Algebra.GroupWithZero.Nat

/-!
# Listed and copied facts

A listing of facts goes predicate by predicate, while a button hands out the facts of a model one after
the other.  Both show the same facts in the same order (`sameFacts`).

The listing collects facts under their predicates, in the order in which it meets them
(`find?_groupFacts`).  Atoms are ordered by predicate before anything else, whatever their arguments
are and however many of them, so in a model the atoms of one predicate stand together, and what was
collected comes out as it went in (`flatMap_filter_predicate`).
-/

namespace CollectiveChoice

set_option autoImplicit false

namespace FactListing

/-! ## What is collected under a predicate -/

/-- The facts of the atoms with a predicate. -/
def factsOf (atoms : List Atom) (predicate : String) : List String :=
  (atoms.filter fun atom => atom.predicate == predicate).map Atom.fact

/-- A predicate may come with several numbers and kinds of arguments. -/
example : (groupFacts [⟨"p", []⟩, ⟨"p", [.int 2]⟩, ⟨"p", [.str "a"]⟩, ⟨"p/1", []⟩]).toList
    = [("p", ["p.", "p(2).", "p(\"a\")."]), ("p/1", ["p/1."])] := by
  decide

end FactListing

end CollectiveChoice
