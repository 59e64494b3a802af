import CollectiveChoice.Proofs.Configuration.Consistency
import CollectiveChoice.Proofs.Engine.Resumption

/-!
# Choices fit the configuration

Whatever snapshot an engine goes on from, and whatever happens to it then, its choices fit its
configuration (`Machine.fitting_of_run`): nobody has more selections than there are groups, and a
selection has items of its group only.  Where only listed users may choose, these are the users with
choices, and each of them has a selection in every group.

An engine stores two kinds of selections, those it has looked at and the defaults of the groups
(`Stored`).  That the defaults have no other items than those of their groups is not for the engine
to see, but follows from the check of the configuration (`Configuration.Consistent`).
-/

namespace CollectiveChoice

set_option autoImplicit false

namespace Engine

/-- Choices that fit a configuration. -/
structure Fitting (config : Configuration) (choices : Choices) : Prop where
  length_le : ∀ user selections, choices.find? user = some selections →
    selections.length ≤ config.choiceGroups.length
  /-- A selection belongs to a group, and all its items do. -/
  known : ∀ user selections, choices.find? user = some selections →
    ∀ (index : Nat) (selection : Selection), selections[index]? = some selection →
      ∃ group, config.choiceGroups[index]? = some group ∧ ∀ item ∈ selection, item ∈ group.itemIds
  /-- Where only listed users may choose, all of them have choices, and nobody else. -/
  listed : config.users.mode = .restricted →
    ∀ user, (∃ selections, choices.find? user = some selections) ↔ user ∈ config.allowedIds
  /-- Where only listed users may choose, there is a selection for each group. -/
  full : config.users.mode = .restricted → ∀ user selections,
    choices.find? user = some selections → selections.length = config.choiceGroups.length

/-- With defaults that have items of their groups only, what may be stored has as well. -/
theorem Stored.known {config : Configuration} {selections : List Selection}
    (stored : Stored config selections) (consistent : config.Consistent) {index : Nat}
    {selection : Selection} (present : selections[index]? = some selection) :
    ∃ group, config.choiceGroups[index]? = some group ∧
      ∀ item ∈ selection, item ∈ group.itemIds := by
  have within : index < selections.length := (List.getElem?_eq_some_iff.mp present).1
  have there : index < config.choiceGroups.length := Nat.lt_of_lt_of_le within stored.length_le
  have group := List.getElem?_eq_getElem there
  refine ⟨_, group, fun item inside => ?_⟩
  rcases stored.fits index selection _ present group with looked | rfl
  · have known := List.all_eq_true.mp looked item inside
    exact List.contains_iff_mem.mp known
  · exact (consistent.group _ (List.getElem_mem there)).default item inside

theorem Kept.fitting {config : Configuration} {choices : Choices} (kept : Kept config choices)
    (consistent : config.Consistent) : Fitting config choices where
  length_le user selections found := (kept.stored user selections found).length_le
  known user selections found _ _ present :=
    (kept.stored user selections found).known consistent present
  listed restricted user := by
    rw [← kept.listed restricted user, Option.isSome_iff_exists]
  full restricted := kept.full (Or.inl restricted)

namespace Machine

/-- A configuration that is accepted stays one, as long as it is replaced by such ones only. -/
theorem check_config_of_run {first last : Machine} {actions : List Action}
    (run : first.run? actions = some last) (checked : first.engine.config.check = .ok ())
    (others : ∀ other, .restart other ∈ actions → other.check = .ok ()) :
    last.engine.config.check = .ok () := by
  refine run?_preserves (fun machine => machine.engine.config.check = .ok ()) ?_ run checked
  intro action inside machine next transition before
  cases restarts : action.isRestart with
  | false => rwa [transition.config_eq restarts]
  | true =>
      cases transition with
      | restart =>
          rw [resume_config]
          exact others _ inside
      | record | refuse | reset | start | rest | answer | abandon | publish | clear =>
          cases restarts

/-- **Choices always fit the configuration**, whatever snapshot an engine starts from and whatever
happens to it, provided that every configuration it is started with is accepted.  This is one and the
same configuration until a restart. -/
theorem fitting_of_run {config : Configuration} {snapshot : Snapshot} {last : Machine}
    {actions : List Action} (checked : config.check = .ok ())
    (others : ∀ other, .restart other ∈ actions → other.check = .ok ())
    (run : (resume config snapshot).run? actions = some last) :
    Fitting last.engine.config last.engine.choices ∧
      ((∀ action ∈ actions, action.isRestart = false) → last.engine.config = config) := by
  have start : (resume config snapshot).engine.config = config := resume_config config snapshot
  have accepted : last.engine.config.check = .ok () :=
    check_config_of_run run (by rw [start]; exact checked) others
  exact ⟨(kept_of_run run).fitting (Configuration.check_eq_ok_iff.mp accepted),
    fun lasting => (config_of_run run lasting).trans start⟩

/-- The canteen, open to two guests only. -/
def privateCanteen : Configuration :=
  { canteen with users := ⟨.restricted, [⟨"Anna", "anna"⟩, ⟨"Bert", "bert"⟩], ""⟩ }

/-- Choices of a guest who wanted cake and went on to a third group. -/
def strayed : Snapshot :=
  ⟨.ofList [("anna", [.ofList ["cake"], .ofList ["tea"], .ofList ["soup"]])], .empty, []⟩

theorem privateCanteen_fitting_of_run :
    ∃ last, (resume privateCanteen strayed).run?
        [.record "bert" 0 (.ofList ["soup"]), .record "carl" 0 (.ofList ["rice"])] = some last ∧
      Fitting last.engine.config last.engine.choices := by
  have happens : ∃ last, (resume privateCanteen strayed).run?
      [.record "bert" 0 (.ofList ["soup"]), .record "carl" 0 (.ofList ["rice"])] = some last :=
    ⟨_, rfl⟩
  obtain ⟨last, run⟩ := happens
  exact ⟨last, run, (fitting_of_run (by decide) (by simp) run).1⟩

end Machine

end Engine

end CollectiveChoice
