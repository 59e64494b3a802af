import CollectiveChoice.Page.Context
import CollectiveChoice.Text.Markup

/-!
# Fragments that carry facts

The facts of a model can be listed, predicate by predicate, or handed out by a button that copies
them.  Both take a filter: a list of predicates, with or without arity, where the empty list selects
everything.
-/

namespace CollectiveChoice

set_option autoImplicit false

/-! ## Filters -/

/-- Whether a filter selects an atom. -/
def selects (filter : List String) (atom : Atom) : Bool :=
  filter.isEmpty || filter.any fun entry => entry == atom.predicate || entry == atom.signature

/-- The atoms of a model that a filter selects. -/
def selectedAtoms (filter : List String) (model : Model) : List Atom :=
  model.atoms.toList.filter (selects filter)

/-- The facts of a model that a filter selects. -/
def selectedFacts (filter : List String) (model : Model) : String :=
  Atom.facts (selectedAtoms filter model)

/-! ## Listings -/

/-- A listing of facts by predicate. -/
structure FactListing where
  predicates : List String
  footer : String
deriving DecidableEq

namespace FactListing

/-- The listing of all facts. -/
def standard : FactListing where
  predicates := []
  footer := "<br/>"

/-- The facts of a list of atoms by predicate, in the order of the list. -/
def groupFacts (atoms : List Atom) : SortedMap String (List String) :=
  atoms.foldl
    (fun groups atom => groups.alter atom.predicate fun facts => facts.getD [] ++ [atom.fact])
    .empty

/-- The line of one predicate. -/
def line (predicate : String) (facts : List String) : String :=
  String.join [
    Text.decimalNat facts.length, " <code>", Text.escapeMarkup predicate,
    "</code> atoms found: <code>", Text.escapeMarkup (" ".intercalate facts), "</code><br/>"]

/-- The listing of a model. -/
def onModel (listing : FactListing) (view : ModelView) : String :=
  let groups := groupFacts (selectedAtoms listing.predicates view.model)
  String.join (groups.toList.map fun group => line group.1 group.2) ++ listing.footer

end FactListing

/-! ## Copying -/

/-- A button that copies facts. -/
structure CopyButton where
  label : String
  predicates : List String
deriving DecidableEq

namespace CopyButton

/-- The button that copies all facts. -/
def standard : CopyButton where
  label := "Copy atoms"
  predicates := []

/-- The button of a model. -/
def onModel (button : CopyButton) (view : ModelView) : String :=
  String.join [
    "<button type=\"button\" class=\"clipboard\" data-atoms=\"",
    Text.escapeMarkup (selectedFacts button.predicates view.model),
    "\" onclick=\"navigator.clipboard.writeText(this.dataset.atoms)\">",
    Text.escapeMarkup button.label, "</button>"]

end CopyButton

end CollectiveChoice
