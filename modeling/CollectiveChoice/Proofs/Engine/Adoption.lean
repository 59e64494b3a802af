import CollectiveChoice.Engine.Run

/-!
# What becomes of choices with a start

An engine that goes on from a snapshot brings the selections of every user into line with the groups:
there is one for each group afterwards, and each has items of its group only or is the default.  What
a user then has is given by `find?_resumedChoices`.

Selections as an engine stores them (`Stored`) are not changed by this, other than that the defaults
of the groups they do not come to are added (`fitSelections_eq_completed`).  Choosing in a group
leads from such selections to such selections (`Stored.set`), because a choice is only accepted if
the group has all its items.
-/

namespace CollectiveChoice

set_option autoImplicit false

namespace Engine

/-! ## Completed selections -/

/-- Selections together with the defaults of the groups they do not come to. -/
def completed (config : Configuration) (selections : List Selection) : List Selection :=
  selections ++ config.defaultSelections.drop selections.length

theorem getElem?_completed (config : Configuration) (selections : List Selection) (group : Nat) :
    (completed config selections)[group]? = selections[group]?.or
      (config.choiceGroups[group]?.map ChoiceGroup.defaultSelection) := by
  rw [completed, ← List.getElem?_map, ← Configuration.defaultSelections]
  rcases Nat.lt_or_ge group selections.length with inside | beyond
  · rw [List.getElem?_append_left inside, List.getElem?_eq_getElem inside, Option.some_or]
  · rw [List.getElem?_append_right beyond, List.getElem?_drop, List.getElem?_eq_none beyond,
      Option.none_or, Nat.add_sub_cancel' beyond]

/-- Selections as they are stored for a user: for the first groups. -/
structure Stored (config : Configuration) (selections : List Selection) : Prop where
  length_le : selections.length ≤ config.choiceGroups.length
  /-- A selection has items of its group only, or is the default. -/
  fits : ∀ (index : Nat) (selection : Selection) (group : ChoiceGroup),
    selections[index]? = some selection → config.choiceGroups[index]? = some group →
      selection.toList.all group.hasItem = true ∨ selection = group.defaultSelection

theorem getElem?_fitSelections (config : Configuration) (selections : List Selection)
    (index : Nat) :
    (fitSelections config selections)[index]? = config.choiceGroups[index]?.map fun group =>
      match selections[index]? with
      | none => group.defaultSelection
      | some selection =>
        if selection.toList.all group.hasItem then selection else group.defaultSelection :=
  List.getElem?_mapIdx

theorem length_fitSelections (config : Configuration) (selections : List Selection) :
    (fitSelections config selections).length = config.choiceGroups.length :=
  List.length_mapIdx

/-- Whatever is brought into line with the groups may be stored. -/
theorem stored_fitSelections (config : Configuration) (selections : List Selection) :
    Stored config (fitSelections config selections) := by
  refine ⟨Nat.le_of_eq (length_fitSelections config selections),
    fun index selection group fitted found => ?_⟩
  rw [getElem?_fitSelections, found, Option.map_some, Option.some.injEq] at fitted
  subst fitted
  cases selections[index]? with
  | none => exact Or.inr rfl
  | some old =>
      by_cases items : old.toList.all group.hasItem = true
      · simp only [if_pos items]
        exact Or.inl items
      · exact Or.inr (if_neg items)

theorem stored_defaultSelections (config : Configuration) :
    Stored config config.defaultSelections := by
  refine ⟨Nat.le_of_eq (List.length_map _), fun index selection group chosen found => ?_⟩
  rw [Configuration.defaultSelections, List.getElem?_map, found] at chosen
  cases chosen
  exact Or.inr rfl

theorem stored_nil (config : Configuration) : Stored config [] := ⟨Nat.zero_le _, nofun⟩

/-- Choosing in a group leaves selections that may be stored. -/
theorem Stored.set {config : Configuration} {old : List Selection} {user : String} {group : Nat}
    {selection : Selection} (stored : Stored config old)
    (accepted : config.checkChoice user group selection = .ok ()) :
    Stored config
      ((padSelections config.defaultSelection old (group + 1)).set group selection) := by
  obtain ⟨chosen, there, -, checked⟩ := Configuration.checkChoice_eq_ok_iff.mp accepted
  have within : group < config.choiceGroups.length := (List.getElem?_eq_some_iff.mp there).1
  have length_le := stored.length_le
  have padded : group < (padSelections config.defaultSelection old (group + 1)).length := by
    rw [length_padSelections]
    omega
  refine ⟨?_, ?_⟩
  · rw [List.length_set, length_padSelections]
    omega
  · intro index other found present inGroup
    by_cases same : group = index
    · subst same
      rw [List.getElem?_set_self padded] at present
      cases present
      cases there.symm.trans inGroup
      exact Or.inl (Configuration.checkSelection_eq_ok_iff.mp checked).1
    · rw [List.getElem?_set_ne same, getElem?_padSelections] at present
      cases before : old[index]? with
      | some earlier =>
          rw [before] at present
          cases present
          exact stored.fits index _ found before inGroup
      | none =>
          rw [before, Option.none_or] at present
          split at present
          · cases present
            refine Or.inr ?_
            rw [Configuration.defaultSelection, inGroup]
          · cases present

/-- Selections that may be stored are only completed, and not changed otherwise. -/
theorem fitSelections_eq_completed {config : Configuration} {selections : List Selection}
    (stored : Stored config selections) :
    fitSelections config selections = completed config selections := by
  apply List.ext_getElem?
  intro index
  rw [getElem?_fitSelections, getElem?_completed]
  cases found : config.choiceGroups[index]? with
  | none =>
      have beyond : selections.length ≤ index :=
        Nat.le_trans stored.length_le (List.getElem?_eq_none_iff.mp found)
      rw [List.getElem?_eq_none beyond]
      rfl
  | some group =>
      cases chosen : selections[index]? with
      | none => rfl
      | some selection =>
          rcases stored.fits index selection group chosen found with items | default
          · exact congrArg some (if_pos items)
          · simp [default]

/-! ## Choices to start with -/

theorem find?_initialChoices (config : Configuration) (user : String) :
    config.initialChoices.find? user
      = if config.users.mode = .restricted ∧ user ∈ config.allowedIds then
          some config.defaultSelections
        else none := by
  unfold Configuration.initialChoices
  cases config.users.mode with
  | restricted =>
      simp only [true_and]
      exact SortedMap.find?_ofList_map _ (fun _ => config.defaultSelections) user
  | everyone => rfl

theorem find?_adopt (config : Configuration) (choices : Choices)
    (entry : String × List Selection) (user : String) :
    (adopt config choices entry).find? user
      = if user = entry.1 ∧
            ¬(config.users.mode = .restricted ∧ choices.find? user = none) then
          some (fitSelections config entry.2)
        else choices.find? user := by
  unfold adopt SortedMap.contains
  by_cases same : user = entry.1
  · subst same
    by_cases left : config.users.mode = .restricted ∧ choices.find? entry.1 = none
    · simp [left]
    · have taken : ¬(config.users.mode = .restricted ∧
          (choices.find? entry.1).isSome = false) := by simpa using left
      rw [if_neg taken, if_pos ⟨rfl, left⟩, SortedMap.find?_insert, if_pos rfl]
  · have other : ¬(user = entry.1 ∧
        ¬(config.users.mode = .restricted ∧ choices.find? user = none)) := fun both => same both.1
    rw [if_neg other]
    split
    · rfl
    · rw [SortedMap.find?_insert, if_neg same]

/-- Entries of others do not matter to a user. -/
theorem find?_foldl_adopt_of_not_mem (config : Configuration) {user : String}
    {entries : List (String × List Selection)} (absent : ∀ entry ∈ entries, user ≠ entry.1)
    (choices : Choices) :
    (entries.foldl (adopt config) choices).find? user = choices.find? user := by
  induction entries generalizing choices with
  | nil => rfl
  | cons entry rest ih =>
      rw [List.foldl_cons, ih fun other inside => absent other (List.mem_cons_of_mem _ inside),
        find?_adopt, if_neg fun both => absent entry List.mem_cons_self both.1]

/-- The choices to start with: those from before, brought into line with the groups, for everybody
who may have choices, and the initial ones for the others. -/
theorem find?_resumedChoices (config : Configuration) (choices : Choices) (user : String) :
    (resumedChoices config choices).find? user
      = match choices.find? user with
        | none => config.initialChoices.find? user
        | some selections =>
          if config.users.mode = .restricted ∧ config.initialChoices.find? user = none then none
          else some (fitSelections config selections) := by
  unfold resumedChoices
  cases found : choices.find? user with
  | none =>
      refine find?_foldl_adopt_of_not_mem config (fun entry inside => ?_) _
      rintro rfl
      rw [SortedMap.find?_eq_some_iff_mem.mpr inside] at found
      cases found
  | some selections =>
      obtain ⟨earlier, later, cut⟩ :=
        List.append_of_mem (SortedMap.find?_eq_some_iff_mem.mp found)
      have ascending := choices.ascending
      rw [cut] at ascending
      obtain ⟨-, ascendingLater, before⟩ := List.pairwise_append.mp ascending
      have absentEarlier : ∀ entry ∈ earlier, user ≠ entry.1 := by
        rintro entry inside rfl
        have less := before entry inside (entry.1, selections) List.mem_cons_self
        rw [Std.ReflOrd.compare_self] at less
        cases less
      have absentLater : ∀ entry ∈ later, user ≠ entry.1 := by
        rintro entry inside rfl
        have less := (List.pairwise_cons.mp ascendingLater).1 entry inside
        rw [Std.ReflOrd.compare_self] at less
        cases less
      rw [cut, List.foldl_append, List.foldl_cons,
        find?_foldl_adopt_of_not_mem config absentLater, find?_adopt,
        find?_foldl_adopt_of_not_mem config absentEarlier]
      by_cases left : config.users.mode = .restricted ∧ config.initialChoices.find? user = none
      · simp [left]
      · simp [left]

end Engine

end CollectiveChoice
