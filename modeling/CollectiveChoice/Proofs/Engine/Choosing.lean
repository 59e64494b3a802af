import CollectiveChoice.Proofs.Engine.Marks
import CollectiveChoice.Proofs.Success

/-!
# What choosing does

A choice is stored as a whole or not at all.  When it is accepted is said here without the order in
which things are checked (`Configuration.Accepts`), and for each error what is wrong, and what is in
order because it is checked before (`Configuration.Refuses`).  Of several items the group does not
have, the least one is reported.

A choice that is refused leaves the machine as it was.  One that is accepted changes a single
selection among those that are shown, the one of that user in that group, and makes the user one with
pending changes (`PointUpdate`).  Choices are not stored like this: a selection in a later group fills
the gap before it with defaults.  But in a group without a selection the default is what is shown, so
nobody can tell.

Both are put together in `Machine.record_allOrNothing`, for machines in any state.
-/

namespace CollectiveChoice

set_option autoImplicit false

/-! ## The least member with a property -/

theorem SortedSet.le_of_find?_toList {set : SortedSet String} {holds : String → Bool}
    {member other : String} (found : set.toList.find? holds = some member) (inside : other ∈ set)
    (other_holds : holds other = true) : member ≤ other := by
  obtain ⟨-, before, behind, split, passed⟩ := List.find?_eq_some_iff_append.mp found
  have ascending := set.ascending
  rw [split] at ascending
  have after := (List.pairwise_cons.mp (List.pairwise_append.mp ascending).2.1).1
  rw [← SortedSet.mem_toList, split, List.mem_append, List.mem_cons] at inside
  rcases inside with earlier | rfl | later
  · have fails := passed other earlier
    simp [other_holds] at fails
  · exact String.le_refl _
  · have less : member < other := compareOfLessAndEq_eq_lt.mp (after other later)
    exact (String.le_total _ _).resolve_right (String.not_le.mpr less)

/-- The first member of a sorted set with a property is the least one. -/
theorem SortedSet.find?_toList_eq_some_iff {set : SortedSet String} {holds : String → Bool}
    {member : String} :
    set.toList.find? holds = some member
      ↔ member ∈ set ∧ holds member = true ∧
        ∀ other ∈ set, holds other = true → member ≤ other := by
  constructor
  · intro found
    refine ⟨List.mem_of_find?_eq_some found, List.find?_some found, ?_⟩
    intro other inside other_holds
    exact le_of_find?_toList found inside other_holds
  · rintro ⟨inside, member_holds, least⟩
    cases found : set.toList.find? holds with
    | none =>
        have fails := List.find?_eq_none.mp found member inside
        exact absurd member_holds fails
    | some first =>
        have below := least first (List.mem_of_find?_eq_some found) (List.find?_some found)
        have above := le_of_find?_toList found inside member_holds
        rw [String.le_antisymm above below]

/-! ## Accepted and refused choices -/

theorem Cardinality.allows_eq_true_iff {cardinality : Cardinality} {count : Nat} :
    cardinality.allows count = true ↔ cardinality.min.toNat ≤ count ∧
      ∀ greatest, cardinality.max = some greatest → count ≤ greatest.toNat := by
  unfold allows
  cases cardinality.max <;> simp

theorem Cardinality.allows_eq_false_iff {cardinality : Cardinality} {count : Nat} :
    cardinality.allows count = false ↔ count < cardinality.min.toNat ∨
      ∃ greatest, cardinality.max = some greatest ∧ greatest.toNat < count := by
  unfold allows
  cases cardinality.max with
  | none => simp
  | some greatest =>
      simp only [Bool.and_eq_false_iff, decide_eq_false_iff_not, Nat.not_le, Option.some.injEq,
        exists_eq_left']

theorem ChoiceGroup.hasItem_eq_true_iff {group : ChoiceGroup} {item : String} :
    group.hasItem item = true ↔ item ∈ group.itemIds :=
  List.contains_iff_mem

namespace Configuration

variable {config : Configuration} {user : String} {group : Nat} {selection : Selection}

/-- Whether a user may choose: one of the listed users, or anybody with a well-formed id. -/
def Admits (config : Configuration) (user : String) : Prop :=
  match config.users.mode with
  | .restricted => user ∈ config.allowedIds
  | .everyone => isUserId user = true

/-- Whether a choice is in order: there is the group, the user may choose, the group has all the
items, and their number lies within its bounds. -/
def Accepts (config : Configuration) (user : String) (group : Nat) (selection : Selection) : Prop :=
  ∃ chosen, config.choiceGroups[group]? = some chosen ∧ config.Admits user ∧
    (∀ item ∈ selection, item ∈ chosen.itemIds) ∧
    chosen.cardinality.min.toNat ≤ selection.size ∧
    ∀ greatest, chosen.cardinality.max = some greatest → selection.size ≤ greatest.toNat

/-- What is wrong with a choice, where everything that is checked before is in order. -/
inductive Refuses (config : Configuration) (user : String) (group : Nat) (selection : Selection) :
    ChoiceError → Prop where
  | unknownGroup (absent : config.choiceGroups.length ≤ group) :
      Refuses config user group selection (.unknownGroup group config.choiceGroups.length)
  | unknownUser (present : group < config.choiceGroups.length)
      (restricted : config.users.mode = .restricted) (unlisted : user ∉ config.allowedIds) :
      Refuses config user group selection (.unknownUser user)
  | malformedUser (present : group < config.choiceGroups.length)
      (everyone : config.users.mode = .everyone) (malformed : isUserId user = false) :
      Refuses config user group selection (.malformedUser user)
  /-- The least of the unknown items is reported. -/
  | unknownItem {chosen : ChoiceGroup} {item : String}
      (present : config.choiceGroups[group]? = some chosen) (admitted : config.Admits user)
      (selected : item ∈ selection) (unknown : item ∉ chosen.itemIds)
      (least : ∀ other ∈ selection, other ∉ chosen.itemIds → item ≤ other) :
      Refuses config user group selection (.unknownItem group item)
  | cardinality {chosen : ChoiceGroup} (present : config.choiceGroups[group]? = some chosen)
      (admitted : config.Admits user) (known : ∀ item ∈ selection, item ∈ chosen.itemIds)
      (outside : selection.size < chosen.cardinality.min.toNat ∨
        ∃ greatest, chosen.cardinality.max = some greatest ∧ greatest.toNat < selection.size) :
      Refuses config user group selection (.cardinality group selection.size chosen.cardinality)

theorem checkUser_eq_ok_iff_admits : config.checkUser user = .ok () ↔ config.Admits user :=
  checkUser_eq_ok_iff

theorem checkChoice_eq_ok_iff_accepts :
    config.checkChoice user group selection = .ok () ↔ config.Accepts user group selection := by
  rw [checkChoice_eq_ok_iff]
  refine exists_congr fun chosen => ?_
  rw [checkUser_eq_ok_iff_admits, checkSelection_eq_ok_iff, Cardinality.allows_eq_true_iff]
  simp only [List.all_eq_true, ChoiceGroup.hasItem_eq_true_iff, SortedSet.mem_toList]

theorem checkUser_eq_error_iff {error : ChoiceError} :
    config.checkUser user = .error error
      ↔ (config.users.mode = .restricted ∧ user ∉ config.allowedIds ∧ error = .unknownUser user) ∨
        (config.users.mode = .everyone ∧ isUserId user = false ∧ error = .malformedUser user) := by
  unfold checkUser
  cases config.users.mode with
  | restricted =>
      by_cases listed : user ∈ config.allowedIds
      · simp [listed]
      · simp only [List.contains_eq_mem, listed, decide_false, Bool.false_eq_true, if_false,
          Except.error.injEq, not_false_eq_true, true_and, reduceCtorEq, false_and, or_false]
        exact eq_comm
  | everyone =>
      cases isUserId user with
      | true => simp
      | false =>
          simp only [Bool.false_eq_true, if_false, Except.error.injEq, reduceCtorEq, false_and,
            true_and, false_or]
          exact eq_comm

theorem checkSelection_eq_error_iff {index : Nat} {chosen : ChoiceGroup} {error : ChoiceError} :
    checkSelection index chosen selection = .error error
      ↔ (∃ item ∈ selection, item ∉ chosen.itemIds ∧
          (∀ other ∈ selection, other ∉ chosen.itemIds → item ≤ other) ∧
          error = .unknownItem index item) ∨
        ((∀ item ∈ selection, item ∈ chosen.itemIds) ∧
          chosen.cardinality.allows selection.size = false ∧
          error = .cardinality index selection.size chosen.cardinality) := by
  have unknown : ∀ item, (!chosen.hasItem item) = true ↔ item ∉ chosen.itemIds := by
    intro item
    rw [Bool.not_eq_true', ← Bool.not_eq_true, ChoiceGroup.hasItem_eq_true_iff]
  unfold checkSelection
  cases found : selection.toList.find? fun item => !chosen.hasItem item with
  | some item =>
      have first := SortedSet.find?_toList_eq_some_iff.mp found
      simp only [unknown] at first
      obtain ⟨inside, absent, least⟩ := first
      constructor
      · intro refused
        cases refused
        exact Or.inl ⟨item, inside, absent, least, rfl⟩
      · rintro (⟨other, selected, missing, below, rfl⟩ | ⟨known, -⟩)
        · rw [String.le_antisymm (least other selected missing) (below item inside absent)]
        · exact absurd (known item inside) absent
  | none =>
      have known : ∀ item ∈ selection, item ∈ chosen.itemIds := by
        intro item inside
        have passes := List.find?_eq_none.mp found item inside
        rwa [unknown, not_not] at passes
      cases fits : chosen.cardinality.allows selection.size with
      | true =>
          refine iff_of_false nofun ?_
          rintro (⟨item, inside, absent, -⟩ | ⟨-, outside, -⟩)
          · exact absent (known item inside)
          · cases outside
      | false =>
          constructor
          · intro refused
            cases refused
            exact Or.inr ⟨known, rfl, rfl⟩
          · rintro (⟨item, inside, absent, -⟩ | ⟨-, -, rfl⟩)
            · exact absurd (known item inside) absent
            · rfl

/-- The error of a choice says what is wrong with it first. -/
theorem checkChoice_eq_error_iff {error : ChoiceError} :
    config.checkChoice user group selection = .error error
      ↔ config.Refuses user group selection error := by
  unfold checkChoice
  cases found : config.choiceGroups[group]? with
  | none =>
      have absent := List.getElem?_eq_none_iff.mp found
      constructor
      · intro refused
        cases refused
        exact .unknownGroup absent
      · intro refusal
        cases refusal with
        | unknownGroup => rfl
        | unknownUser present | malformedUser present =>
            exact absurd present (Nat.not_lt.mpr absent)
        | unknownItem present | cardinality present => cases found.symm.trans present
  | some chosen =>
      have present : group < config.choiceGroups.length := (List.getElem?_eq_some_iff.mp found).1
      rw [check_bind_eq_error_iff, checkUser_eq_error_iff, checkUser_eq_ok_iff_admits,
        checkSelection_eq_error_iff, Cardinality.allows_eq_false_iff]
      constructor
      · rintro ((⟨restricted, unlisted, rfl⟩ | ⟨everyone, malformed, rfl⟩) |
          ⟨admitted, ⟨item, selected, unknown, least, rfl⟩ | ⟨known, outside, rfl⟩⟩)
        · exact .unknownUser present restricted unlisted
        · exact .malformedUser present everyone malformed
        · exact .unknownItem found admitted selected unknown least
        · exact .cardinality found admitted known outside
      · intro refusal
        cases refusal with
        | unknownGroup absent => exact absurd present (Nat.not_lt.mpr absent)
        | unknownUser _ restricted unlisted =>
            exact Or.inl (Or.inl ⟨restricted, unlisted, rfl⟩)
        | malformedUser _ everyone malformed =>
            exact Or.inl (Or.inr ⟨everyone, malformed, rfl⟩)
        | unknownItem there admitted selected unknown least =>
            cases found.symm.trans there
            exact Or.inr ⟨admitted, Or.inl ⟨_, selected, unknown, least, rfl⟩⟩
        | cardinality there admitted known outside =>
            cases found.symm.trans there
            exact Or.inr ⟨admitted, Or.inr ⟨known, outside, rfl⟩⟩

end Configuration

namespace Engine

/-- A choice is taken just if it is in order. -/
theorem exists_record_eq_ok_iff {engine : Engine} {user : String} {group : Nat}
    {selection : Selection} :
    (∃ later last, engine.record user group selection = .ok (later, last))
      ↔ engine.config.Accepts user group selection := by
  rw [← Configuration.checkChoice_eq_ok_iff_accepts]
  constructor
  · rintro ⟨later, last, accepted⟩
    exact (record_eq_ok_iff.mp accepted).1
  · intro checked
    exact ⟨_, _, record_eq_ok_iff.mpr ⟨checked, rfl, rfl⟩⟩

/-! ## What is changed -/

/-- A selection stored in one place: it is shown there, every other selection that is shown stays
the same, and so does everything else but the changes, to which the user is added. -/
structure PointUpdate (earlier : Engine) (user : String) (group : Nat) (selection : Selection)
    (later : Engine) : Prop where
  shown : later.selectionOf user group = selection
  /-- This includes groups the user has no selection for, before or after. -/
  others : ∀ other index, (other, index) ≠ (user, group) →
    later.selectionOf other index = earlier.selectionOf other index
  pending : ∀ other, other ∈ later.pendingUsers ↔ other = user ∨ other ∈ earlier.pendingUsers
  config : later.config = earlier.config
  outcome : later.outcome = earlier.outcome
  history : later.history = earlier.history

/-- Storing a selection changes no other one that is shown: the gap before it is filled by what is
shown there anyway. -/
theorem selectionOf_store (engine : Engine) (user other : String) (group index : Nat)
    (selection : Selection) :
    ({ engine with choices :=
        engine.choices.store user group selection engine.config.defaultSelection } :
          Engine).selectionOf other index
      = if (other, index) = (user, group) then selection else engine.selectionOf other index := by
  simp only [selectionOf, Choices.selection?_store, Prod.mk.injEq]
  by_cases mine : other = user
  · subst mine
    by_cases here : index = group
    · simp [here]
    · cases engine.choices.selection? other index with
      | some stored => simp [here]
      | none => by_cases before : index < group <;> simp [here, before]
  · simp [mine]

/-- What an accepted choice does. -/
theorem pointUpdate_of_record {engine later : Engine} {user : String} {group : Nat}
    {selection : Selection} {last : Bool}
    (accepted : engine.record user group selection = .ok (later, last)) :
    PointUpdate engine user group selection later := by
  obtain ⟨-, rfl, -⟩ := record_eq_ok_iff.mp accepted
  refine ⟨?_, ?_, ?_, rfl, rfl, rfl⟩
  · exact (selectionOf_store engine user user group group selection).trans (if_pos rfl)
  · intro other index elsewhere
    exact (selectionOf_store engine user other group index selection).trans (if_neg elsewhere)
  · intro other
    rw [(Advances.mark user).mem_pendingUsers, List.mem_singleton, or_comm]
    rfl

namespace Machine

/-- **A choice is stored as a whole or not at all.**  In whatever state a machine is, a choice is
accepted just if it is in order.  Otherwise the error says what is wrong with it first, and the
machine stays as it was.  A choice that is accepted changes the selection of that user in that group
and no other one, and adds the user to those with pending changes; whether the group is the last one
is said. -/
theorem record_allOrNothing (machine : Machine) (user : String) (group : Nat)
    (selection : Selection) :
    ((∃ later last, machine.engine.record user group selection = .ok (later, last)) ↔
        machine.engine.config.Accepts user group selection) ∧
      (∀ error, machine.engine.record user group selection = .error error ↔
        machine.engine.config.Refuses user group selection error) ∧
      (∀ error, machine.engine.record user group selection = .error error →
        machine.step? (.record user group selection) = some machine) ∧
      ∀ later last, machine.engine.record user group selection = .ok (later, last) →
        machine.step? (.record user group selection) = some ⟨later, machine.phase⟩ ∧
        PointUpdate machine.engine user group selection later ∧
        (last = true ↔ group + 1 = machine.engine.config.choiceGroups.length) := by
  refine ⟨exists_record_eq_ok_iff, ?_, ?_, ?_⟩
  · intro error
    rw [record_eq_error_iff, Configuration.checkChoice_eq_error_iff]
  · intro error refused
    exact step?_eq_some_iff.mpr (.refuse refused)
  · intro later last accepted
    refine ⟨step?_eq_some_iff.mpr (.record accepted), pointUpdate_of_record accepted, ?_⟩
    rw [(record_eq_ok_iff.mp accepted).2.2, beq_iff_eq]

end Machine

end Engine

end CollectiveChoice
