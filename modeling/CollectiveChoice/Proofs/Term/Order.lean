import CollectiveChoice.Proofs.Order.Lexicographic
import CollectiveChoice.Term.Atom

/-!
# The order of atoms

Atoms are compared by a function that returns on the first difference.  Here is what it decides:
one atom comes before another (`Atom.Before`) by its predicate or, where that is the same, by its
arguments in lexicographic order.  Of two arguments an integer comes before a symbolic term and that
before a string, whatever they hold; otherwise integers come by number and the others by text
(`Value.Before`).
-/

namespace CollectiveChoice

set_option autoImplicit false

/-- The order of values: integers by number, then symbolic terms, then strings, each by text. -/
inductive Value.Before : Value → Value → Prop where
  | int {number other : Int} (less : number < other) : Before (.int number) (.int other)
  | sym {term other : String} (less : term < other) : Before (.sym term) (.sym other)
  | str {content other : String} (less : content < other) : Before (.str content) (.str other)
  | intSym (number : Int) (term : String) : Before (.int number) (.sym term)
  | intStr (number : Int) (content : String) : Before (.int number) (.str content)
  | symStr (term content : String) : Before (.sym term) (.str content)

theorem Value.compare_eq_lt_iff_before (left right : Value) :
    compare left right = .lt ↔ Before left right := by
  cases left with
  | int number =>
      cases right with
      | int other =>
          rw [compare_int, Int.compare_eq_lt]
          exact ⟨.int, fun | .int less => less⟩
      | sym term => exact iff_of_true rfl (.intSym number term)
      | str content => exact iff_of_true rfl (.intStr number content)
  | sym term =>
      cases right with
      | int other => exact iff_of_false nofun nofun
      | sym other =>
          rw [compare_sym, compare_text_eq_lt_iff]
          exact ⟨.sym, fun | .sym less => less⟩
      | str content => exact iff_of_true rfl (.symStr term content)
  | str content =>
      cases right with
      | int other => exact iff_of_false nofun nofun
      | sym other => exact iff_of_false nofun nofun
      | str other =>
          rw [compare_str, compare_text_eq_lt_iff]
          exact ⟨.str, fun | .str less => less⟩

namespace Atom

/-- The order of atoms: by predicate, then by arguments in lexicographic order. -/
inductive Before (left right : Atom) : Prop where
  | predicate (less : left.predicate < right.predicate)
  | args (same : left.predicate = right.predicate)
      (less : List.Lex Value.Before left.args right.args)

theorem compare_eq_lt_iff_before (left right : Atom) :
    compare left right = .lt ↔ Before left right := by
  rw [compare_eq, Ordering.then_eq_lt, compare_text_eq_lt_iff, Std.LawfulEqOrd.compare_eq_iff_eq,
    compare_list_eq_lt_iff_lex Value.compare_eq_lt_iff_before]
  constructor
  · rintro (less | ⟨same, less⟩)
    · exact .predicate less
    · exact .args same less
  · rintro (less | ⟨same, less⟩)
    · exact Or.inl less
    · exact Or.inr ⟨same, less⟩

/-- Unary atoms with one predicate come in the order of their values. -/
theorem before_unary_iff {predicate : String} {value other : Value} :
    Before ⟨predicate, [value]⟩ ⟨predicate, [other]⟩ ↔ value.Before other := by
  constructor
  · intro before
    cases before with
    | predicate less => exact absurd less (String.lt_irrefl predicate)
    | args _ less =>
        cases less with
        | rel before => exact before
        | cons less => cases less
  · intro before
    exact .args rfl (.rel before)

/-- Ascending lists of atoms are those in which each atom comes before all atoms behind it. -/
theorem ascending_iff_pairwise_before {atoms : List Atom} :
    Ascending atoms ↔ atoms.Pairwise Before :=
  List.Pairwise.iff fun left right => compare_eq_lt_iff_before left right

end Atom

end CollectiveChoice
