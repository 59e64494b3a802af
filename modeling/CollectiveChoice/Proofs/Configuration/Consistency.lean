import CollectiveChoice.Configuration.Validation
import CollectiveChoice.Proofs.Success

/-!
# What the check of a configuration ensures

The check goes through a configuration and stops at the first thing that is wrong.  Here it is said
what holds if nothing is: of every group (`ChoiceGroup.Consistent`) and of the whole
(`Configuration.Consistent`).  The check succeeds for consistent configurations and for no other ones
(`Configuration.check_eq_ok_iff`).

Each of the checks it is made of has such a lemma of its own.  None of them mentions the error, nor
the index of a group, which is there for the error only.
-/

namespace CollectiveChoice

set_option autoImplicit false

/-! ## Templates -/

theorem Template.unknownPlaceholder?_eq_none_iff {template : Template} {allowed : List String} :
    template.unknownPlaceholder? allowed = none ↔ template.placeholders ⊆ allowed := by
  simp [Template.unknownPlaceholder?, List.find?_eq_none, List.subset_def]

/-! ## Consistent groups and configurations -/

/-- A choice group in which there is something to choose, everything that is asked for can be chosen
and every placeholder has a value. -/
structure ChoiceGroup.Consistent (group : ChoiceGroup) : Prop where
  items : group.items ≠ []
  unique : group.itemIds.Nodup
  /-- The least number is not above the greatest one. -/
  ordered : ∀ greatest, group.cardinality.max = some greatest →
    group.cardinality.min.toNat ≤ greatest.toNat
  /-- There are enough items for the least number. -/
  reachable : group.cardinality.min.toNat ≤ group.items.length
  /-- The default selects items of the group. -/
  default : ∀ id ∈ group.defaultSelection, id ∈ group.itemIds
  produced : ∀ template ∈ group.producedAtoms,
    template.placeholders ⊆ Configuration.producedPlaceholders
  data : ∀ template ∈ group.dataAtoms, template.placeholders ⊆ Configuration.dataPlaceholders

namespace Configuration

/-- A configuration whose parts are consistent and fit each other. -/
structure Consistent (config : Configuration) : Prop where
  groups : config.choiceGroups ≠ []
  users : config.allowedIds.Nodup
  group : ∀ group ∈ config.choiceGroups, group.Consistent
  least : Digest.minWords ≤ config.output.idWords.toNat
  most : config.output.idWords.toNat ≤ Digest.maxWords
  /-- No sample is taken of optimal models. -/
  sampling : ¬(config.output.modelSelection = .sampling ∧ config.solver.solvingMode = .optimals)
  plugins : ∀ plugin ∈ config.output.layout.plugins, plugin.check = .ok ()

/-! ## Unique ids -/

theorem firstDuplicate?_eq_none_iff {seen ids : List String} :
    firstDuplicate? seen ids = none ↔ ids.Nodup ∧ ∀ id ∈ ids, id ∉ seen := by
  induction ids generalizing seen with
  | nil => simp [firstDuplicate?]
  | cons id rest ih =>
      rw [firstDuplicate?]
      by_cases known : id ∈ seen
      · simp [known]
      · simp only [List.contains_eq_mem, known, decide_false, Bool.false_eq_true, if_false, ih,
          List.mem_cons, List.nodup_cons, not_or, forall_eq_or_imp, not_false_eq_true, true_and]
        constructor
        · rintro ⟨nodup, fresh⟩
          exact ⟨⟨fun inside => (fresh id inside).1 rfl, nodup⟩, fun other inside =>
            (fresh other inside).2⟩
        · rintro ⟨⟨once, nodup⟩, fresh⟩
          exact ⟨nodup, fun other inside => ⟨fun same => once (same ▸ inside), fresh other inside⟩⟩

theorem checkUnique_eq_ok_iff {scope : String} {ids : List String} :
    checkUnique scope ids = .ok () ↔ ids.Nodup := by
  have unique := @firstDuplicate?_eq_none_iff [] ids
  simp only [List.not_mem_nil, not_false_eq_true, implies_true, and_true] at unique
  rw [checkUnique, ← unique]
  cases firstDuplicate? [] ids <;> simp

/-! ## Parts of a group -/

theorem checkTemplates_eq_ok_iff {context : String} {allowed : List String}
    {templates : List Template} :
    checkTemplates context allowed templates = .ok ()
      ↔ ∀ template ∈ templates, template.placeholders ⊆ allowed := by
  induction templates with
  | nil => simp [checkTemplates]
  | cons template rest ih =>
      rw [checkTemplates, List.forall_mem_cons, ← Template.unknownPlaceholder?_eq_none_iff, ← ih]
      cases template.unknownPlaceholder? allowed <;> simp

theorem checkCardinality_eq_ok_iff {index : Nat} {group : ChoiceGroup} :
    checkCardinality index group = .ok ()
      ↔ (∀ greatest, group.cardinality.max = some greatest →
          group.cardinality.min.toNat ≤ greatest.toNat) ∧
        group.cardinality.min.toNat ≤ group.items.length := by
  unfold checkCardinality
  cases group.cardinality.max with
  | none => simp [throw_eq_ok_iff]
  | some greatest => simp [guard_eq_ok_iff, throw_eq_ok_iff]

theorem checkDefault_eq_ok_iff {index : Nat} {group : ChoiceGroup} :
    checkDefault index group = .ok () ↔ ∀ id ∈ group.defaultSelection, id ∈ group.itemIds := by
  unfold checkDefault ChoiceGroup.defaultSelection
  cases group.default with
  | all => exact iff_of_true rfl fun id inside => SortedSet.mem_ofList.mp inside
  | nothing => exact iff_of_true rfl fun id inside => absurd inside List.not_mem_nil
  | items ids =>
      have known : (ids.find? fun id => !group.hasItem id) = none
          ↔ ∀ id ∈ ids, id ∈ group.itemIds := by
        simp [List.find?_eq_none, ChoiceGroup.hasItem]
      simp only [SortedSet.mem_ofList, ← known]
      cases ids.find? fun id => !group.hasItem id <;> simp

/-! ## Groups, plugins, configurations -/

theorem checkGroup_eq_ok_iff {index : Nat} {group : ChoiceGroup} :
    checkGroup index group = .ok () ↔ group.Consistent := by
  simp only [checkGroup, guard_eq_ok_iff, check_bind_eq_ok_iff, checkUnique_eq_ok_iff,
    checkCardinality_eq_ok_iff, checkDefault_eq_ok_iff, checkTemplates_eq_ok_iff,
    List.isEmpty_iff]
  constructor
  · rintro ⟨items, unique, ⟨ordered, reachable⟩, default, produced, data⟩
    exact ⟨items, unique, ordered, reachable, default, produced, data⟩
  · rintro ⟨items, unique, ordered, reachable, default, produced, data⟩
    exact ⟨items, unique, ⟨ordered, reachable⟩, default, produced, data⟩

theorem checkGroups_eq_ok_iff {index : Nat} {groups : List ChoiceGroup} :
    checkGroups index groups = .ok () ↔ ∀ group ∈ groups, group.Consistent := by
  induction groups generalizing index with
  | nil => simp [checkGroups]
  | cons group rest ih =>
      rw [checkGroups, check_bind_eq_ok_iff, checkGroup_eq_ok_iff, ih, List.forall_mem_cons]

theorem checkPlugins_eq_ok_iff {plugins : List Plugin} :
    checkPlugins plugins = .ok () ↔ ∀ plugin ∈ plugins, plugin.check = .ok () := by
  induction plugins with
  | nil => simp [checkPlugins]
  | cons plugin rest ih =>
      rw [checkPlugins, List.forall_mem_cons, ← ih]
      cases plugin.check <;> simp

/-- **A configuration is accepted just if it is consistent.** -/
theorem check_eq_ok_iff {config : Configuration} : config.check = .ok () ↔ config.Consistent := by
  simp only [check, guard_eq_ok_iff, check_bind_eq_ok_iff, checkUnique_eq_ok_iff,
    checkGroups_eq_ok_iff, checkPlugins_eq_ok_iff, List.isEmpty_iff, Bool.or_eq_true,
    decide_eq_true_eq, not_or, Nat.not_lt]
  constructor
  · rintro ⟨groups, users, group, ⟨least, most⟩, sampling, plugins⟩
    exact ⟨groups, users, group, least, most, sampling, plugins⟩
  · rintro ⟨groups, users, group, least, most, sampling, plugins⟩
    exact ⟨groups, users, group, ⟨least, most⟩, sampling, plugins⟩

end Configuration

end CollectiveChoice
