import Mathlib.Data.List.Perm.Subperm
import CollectiveChoice.Proofs.Engine.Choosing
import CollectiveChoice.Proofs.Engine.Fitting
import CollectiveChoice.Proofs.Engine.Merging
import CollectiveChoice.Proofs.Engine.Provenance

/-!
# There is always something to choose

Whoever may choose can choose in every group, whatever happened before (`Machine.available_of_run`).
Every selection of items of a group is taken if their number lies within the bounds of the group, and
the numbers for which there is such a selection are those within the bounds that are not above the
number of items.

That there is any such number is not checked as such.  The bounds count items, while a selection is a
set of ids, so three checks have to come together: the least number is not above the greatest one, it
is not above the number of items, and no two items have the same id (`ChoiceGroup.Consistent`).
-/

namespace CollectiveChoice

set_option autoImplicit false

/-! ## Selections of a group -/

namespace ChoiceGroup

variable {group : ChoiceGroup} {selection : Selection} {count : Nat}

/-- A selection of items of a group has no more of them than there are. -/
theorem size_le_of_subset (known : ∀ item ∈ selection, item ∈ group.itemIds) :
    selection.size ≤ group.items.length := by
  have once : selection.toList.Nodup := selection.ascending.nodup
  calc selection.size = selection.toList.length := rfl
    _ ≤ group.itemIds.length := (List.subperm_of_subset once known).length_le
    _ = group.items.length := List.length_map _

/-- Where ids are unique, there are selections of any number of items up to all of them. -/
theorem exists_selection (unique : group.itemIds.Nodup) (enough : count ≤ group.items.length) :
    ∃ selection : Selection, (∀ item ∈ selection, item ∈ group.itemIds) ∧ selection.size = count := by
  refine ⟨.ofList (group.itemIds.take count), fun item inside => ?_, ?_⟩
  · exact List.mem_of_mem_take (SortedSet.mem_ofList.mp inside)
  · have first : (group.itemIds.take count).Nodup := unique.sublist (List.take_sublist _ _)
    rw [SortedSet.size_ofList_of_nodup first, List.length_take, itemIds, List.length_map]
    exact Nat.min_eq_left enough

/-- The least number that is allowed can be chosen. -/
theorem Consistent.allows_min (consistent : group.Consistent) :
    group.cardinality.allows group.cardinality.min.toNat = true :=
  Cardinality.allows_eq_true_iff.mpr ⟨Nat.le_refl _, consistent.ordered⟩

end ChoiceGroup

namespace Engine

/-- Whether the choice of a user is taken. -/
def Takes (engine : Engine) (user : String) (index : Nat) (selection : Selection) : Prop :=
  ∃ later isLast, engine.record user index selection = .ok (later, isLast)

/-- For a user who may choose, what is taken depends on the group and the selection alone. -/
theorem takes_iff {engine : Engine} {user : String} {index : Nat} {group : ChoiceGroup}
    {selection : Selection} (admitted : engine.config.Admits user)
    (present : engine.config.choiceGroups[index]? = some group) :
    engine.Takes user index selection
      ↔ (∀ item ∈ selection, item ∈ group.itemIds) ∧
        group.cardinality.allows selection.size = true := by
  rw [Takes, exists_record_eq_ok_iff, Cardinality.allows_eq_true_iff]
  constructor
  · rintro ⟨chosen, there, -, known, bounds⟩
    cases there.symm.trans present
    exact ⟨known, bounds⟩
  · rintro ⟨known, bounds⟩
    exact ⟨group, present, admitted, known, bounds⟩

namespace Machine

/-- **A user who may choose can choose in every group**, in whatever state a run leads to, provided that
every configuration the engine is started with is accepted.  Any selection of items of the group whose
number lies within its bounds is taken, there is one, and a number of items can be chosen just if it
lies within the bounds and there are as many items. -/
theorem available_of_run {config : Configuration} {snapshot : Snapshot} {last : Machine}
    {actions : List Action} (checked : config.check = .ok ())
    (others : ∀ other, .restart other ∈ actions → other.check = .ok ())
    (run : (resume config snapshot).run? actions = some last) {user : String}
    (admitted : last.engine.config.Admits user) {index : Nat} {group : ChoiceGroup}
    (present : last.engine.config.choiceGroups[index]? = some group) :
    (∃ selection, last.engine.Takes user index selection) ∧
      (∀ selection, (∀ item ∈ selection, item ∈ group.itemIds) →
        group.cardinality.allows selection.size = true → last.engine.Takes user index selection) ∧
      ∀ count, (∃ selection, selection.size = count ∧ last.engine.Takes user index selection)
        ↔ group.cardinality.allows count = true ∧ count ≤ group.items.length := by
  have start : (resume config snapshot).engine.config.check = .ok () := by
    rw [resume, resume_config, checked]
  have accepted := Configuration.check_eq_ok_iff.mp (check_config_of_run run start others)
  have consistent := accepted.group group (List.mem_of_getElem? present)
  have counts : ∀ count,
      (∃ selection, selection.size = count ∧ last.engine.Takes user index selection)
        ↔ group.cardinality.allows count = true ∧ count ≤ group.items.length := by
    intro count
    simp only [takes_iff admitted present]
    constructor
    · rintro ⟨selection, rfl, known, allowed⟩
      exact ⟨allowed, ChoiceGroup.size_le_of_subset known⟩
    · rintro ⟨allowed, enough⟩
      obtain ⟨selection, known, rfl⟩ := ChoiceGroup.exists_selection consistent.unique enough
      exact ⟨selection, rfl, known, allowed⟩
  refine ⟨?_, fun selection known allowed => ?_, counts⟩
  · obtain ⟨selection, -, taken⟩ :=
      (counts group.cardinality.min.toNat).mpr ⟨consistent.allows_min, consistent.reachable⟩
    exact ⟨selection, taken⟩
  · exact (takes_iff admitted present).mpr ⟨known, allowed⟩

/-- A guest who was to have both dishes of a set menu can still have one of them, while the solver is
asked. -/
theorem setMenu_available_of_run :
    ∃ last, (resume setMenu bothDishes).run? [.record "bert" 0 (.ofList ["soup"]), .start false]
        = some last ∧
      last.engine.config.Admits "anna" ∧
      last.engine.Takes "anna" 0 (.ofList ["rice"]) ∧
      ¬∃ selection, selection.size = 2 ∧ last.engine.Takes "anna" 0 selection := by
  have happens : ∃ last, (resume setMenu bothDishes).run?
      [.record "bert" 0 (.ofList ["soup"]), .start false] = some last ∧
      last.engine.config = setMenu := ⟨_, rfl, rfl⟩
  obtain ⟨last, run, config⟩ := happens
  have admitted : last.engine.config.Admits "anna" := by
    rw [config]
    exact List.mem_cons_self
  have present : last.engine.config.choiceGroups[0]? = some setMenu.choiceGroups[0] := by
    rw [config]
    rfl
  obtain ⟨-, taken, counts⟩ := available_of_run (by decide) (by simp) run admitted present
  refine ⟨last, run, admitted, taken _ (by decide) (by decide), ?_⟩
  rw [counts 2]
  decide

end Machine

end Engine

end CollectiveChoice
