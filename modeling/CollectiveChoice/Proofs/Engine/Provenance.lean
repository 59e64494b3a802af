import CollectiveChoice.Proofs.Engine.Resumption

/-!
# Where choices come from

A selection gets into the choices of an engine in one of three ways (`Origin`): a user chooses it, it
is the default of its group, or the snapshot the engine goes on from holds it.  The bounds of the
group are looked at in the first case only.  So whoever has chosen in a group stays within its bounds
until choices are reset, and all choices are within bounds where the defaults and the snapshot are
(`origin_of_run`).  Defaults stand for users who have not chosen, and they need not be within bounds:
nothing may be selected for such users where everybody has to choose something
(`setMenu_not_inBounds`).

A user gets into the choices in the same ways.  Where everybody may choose there are no defaults to
start with, and an id that is chosen under is looked at.  That of a user in a snapshot is not, so the
ids are well-formed throughout just if those in the snapshot are (`isUserId_of_run_iff`).

What holds of the choices in every state holds of those a compilation works on, since these were the
choices of the state it was begun in (`Machine.AtHand`).
-/

namespace CollectiveChoice

set_option autoImplicit false

namespace Engine

/-! ## Choices at hand -/

namespace Machine

/-- The choices of the engine, and those the compilation under way works on. -/
def AtHand (machine : Machine) (choices : Choices) : Prop :=
  choices = machine.engine.choices ∨
    ∃ attempt, machine.phase.attempt? = some attempt ∧ choices = attempt.choices

/-- Choices at hand are the choices of the engine now or when a compilation was begun. -/
theorem AtHand.exists_state {first last : Machine} {actions : List Action} {choices : Choices}
    (atHand : last.AtHand choices) (run : first.run? actions = some last)
    (idle : first.phase = .idle) :
    ∃ before after middle, actions = before ++ after ∧ first.run? before = some middle ∧
      choices = middle.engine.choices := by
  rcases atHand with rfl | ⟨attempt, under, rfl⟩
  · exact ⟨actions, [], last, (List.append_nil _).symm, run, rfl⟩
  · obtain ⟨before, begun, during, rfl, reached, begins, -⟩ := exists_begin run idle under
    exact ⟨before, _, begun, rfl, reached, (taken_of_begin? begins).1⟩

end Machine

/-! ## Single selections -/

/-- A choice set starts with defaults only. -/
theorem exists_of_selection?_initialChoices {config : Configuration} {user : String} {index : Nat}
    {selection : Selection} (found : config.initialChoices.selection? user index = some selection) :
    ∃ group, config.choiceGroups[index]? = some group ∧ selection = group.defaultSelection := by
  rw [Choices.selection?, find?_initialChoices] at found
  split at found
  · rw [Option.bind_some, Configuration.defaultSelections, List.getElem?_map,
      Option.map_eq_some_iff] at found
    obtain ⟨group, there, rfl⟩ := found
    exact ⟨group, there, rfl⟩
  · cases found

/-- A selection an engine starts with is a default, or it is from before and has items of its group
only. -/
theorem exists_of_selection?_resumedChoices {config : Configuration} {choices : Choices}
    {user : String} {index : Nat} {selection : Selection}
    (found : (resumedChoices config choices).selection? user index = some selection) :
    ∃ group, config.choiceGroups[index]? = some group ∧
      (selection = group.defaultSelection ∨
        choices.selection? user index = some selection ∧
          selection.toList.all group.hasItem = true) := by
  rw [Choices.selection?, find?_resumedChoices] at found
  cases before : choices.find? user with
  | none =>
      rw [before] at found
      obtain ⟨group, there, default⟩ := exists_of_selection?_initialChoices found
      exact ⟨group, there, Or.inl default⟩
  | some selections =>
      simp only [before] at found
      split at found
      · cases found
      · rw [Option.bind_some, getElem?_fitSelections, Option.map_eq_some_iff] at found
        obtain ⟨group, there, fitted⟩ := found
        refine ⟨group, there, ?_⟩
        rw [Choices.selection?, before, Option.bind_some]
        split at fitted
        · exact Or.inl fitted.symm
        · rename_i old held
          split at fitted
          · rename_i items
            subst fitted
            exact Or.inr ⟨held, items⟩
          · exact Or.inl fitted.symm

/-! ## Origins -/

/-- How a selection of a user in a group gets into an engine that goes on from a snapshot, given what
happens to the engine. -/
inductive Origin (snapshot : Snapshot) (actions : List Action) (user : String) (index : Nat)
    (group : ChoiceGroup) (selection : Selection) : Prop where
  /-- The user has chosen it, and it is within bounds. -/
  | chosen (happened : .record user index selection ∈ actions)
      (allowed : group.cardinality.allows selection.size = true)
  /-- It is what users have who have not chosen. -/
  | default (standing : selection = group.defaultSelection)
  /-- The snapshot holds it. -/
  | held (before : snapshot.choices.selection? user index = some selection)

/-- Choices in which every selection belongs to a group and has an origin. -/
def Traced (config : Configuration) (snapshot : Snapshot) (actions : List Action)
    (choices : Choices) : Prop :=
  ∀ user index selection, choices.selection? user index = some selection →
    ∃ group, config.choiceGroups[index]? = some group ∧
      Origin snapshot actions user index group selection

section

variable {config : Configuration} {snapshot : Snapshot} {actions : List Action} {choices : Choices}

theorem traced_initialChoices : Traced config snapshot actions config.initialChoices := by
  intro user index selection found
  obtain ⟨group, there, default⟩ := exists_of_selection?_initialChoices found
  exact ⟨group, there, .default default⟩

/-- An engine that goes on from its own snapshot brings no selection in. -/
theorem Traced.resumedChoices (traced : Traced config snapshot actions choices) :
    Traced config snapshot actions (resumedChoices config choices) := by
  intro user index selection found
  obtain ⟨group, there, default | ⟨before, -⟩⟩ := exists_of_selection?_resumedChoices found
  · exact ⟨group, there, .default default⟩
  · exact traced user index selection before

/-- A choice that is accepted brings in a selection within bounds, and the defaults of earlier
groups. -/
theorem Traced.store (traced : Traced config snapshot actions choices) {user : String}
    {group : Nat} {selection : Selection} (happened : .record user group selection ∈ actions)
    (accepted : config.checkChoice user group selection = .ok ()) :
    Traced config snapshot actions
      (choices.store user group selection config.defaultSelection) := by
  obtain ⟨chosen, there, -, checked⟩ := Configuration.checkChoice_eq_ok_iff.mp accepted
  have within : group < config.choiceGroups.length := (List.getElem?_eq_some_iff.mp there).1
  intro other index stored found
  rw [Choices.selection?_store] at found
  split at found
  · rename_i mine
    subst mine
    split at found
    · rename_i here
      subst here
      cases found
      exact ⟨chosen, there, .chosen happened (Configuration.checkSelection_eq_ok_iff.mp checked).2⟩
    · rcases Option.or_eq_some_iff.mp found with before | ⟨-, filled⟩
      · exact traced other index stored before
      · -- The gap is filled with the defaults of groups before the one chosen in.
        split at filled
        · rename_i gap
          cases filled
          have earlier := List.getElem?_eq_getElem (Nat.lt_trans gap within)
          refine ⟨_, earlier, .default ?_⟩
          rw [Configuration.defaultSelection, earlier]
        · cases filled
  · exact traced other index stored found

end

/-! ## Users who have chosen -/

/-- A user whose selection in a group is one that the group accepts. -/
def Settled (config : Configuration) (choices : Choices) (user : String) (index : Nat) : Prop :=
  ∃ group selection, config.choiceGroups[index]? = some group ∧
    choices.selection? user index = some selection ∧
    Configuration.checkSelection index group selection = .ok ()

theorem settled_store {config : Configuration} {choices : Choices} {user : String} {group : Nat}
    {selection : Selection} (accepted : config.checkChoice user group selection = .ok ()) :
    Settled config (choices.store user group selection config.defaultSelection) user group := by
  obtain ⟨chosen, there, -, checked⟩ := Configuration.checkChoice_eq_ok_iff.mp accepted
  refine ⟨chosen, selection, there, ?_, checked⟩
  rw [Choices.selection?_store, if_pos rfl, if_pos rfl]

theorem Settled.store {config : Configuration} {choices : Choices} {user other : String}
    {index group : Nat} {selection : Selection} (settled : Settled config choices user index)
    (accepted : config.checkChoice other group selection = .ok ()) :
    Settled config (choices.store other group selection config.defaultSelection) user index := by
  by_cases here : user = other ∧ index = group
  · obtain ⟨rfl, rfl⟩ := here
    exact settled_store accepted
  · obtain ⟨chosen, stored, there, found, checked⟩ := settled
    refine ⟨chosen, stored, there, ?_, checked⟩
    rw [Choices.selection?_store]
    by_cases mine : user = other
    · subst mine
      rw [if_pos rfl, if_neg fun same => here ⟨rfl, same⟩, found, Option.some_or]
    · rw [if_neg mine, found]

/-- A restart keeps the selections of users who have chosen. -/
theorem Settled.resume {engine : Engine} (kept : Kept engine.config engine.choices) {user : String}
    {index : Nat} (settled : Settled engine.config engine.choices user index) :
    Settled engine.config (resume engine.config engine.snapshot).choices user index := by
  obtain ⟨group, selection, there, found, checked⟩ := settled
  refine ⟨group, selection, there, ?_, checked⟩
  rw [choices_resume_snapshot kept, Choices.selection?, SortedMap.find?_mapValues]
  obtain ⟨selections, stored, inside⟩ := Option.bind_eq_some_iff.mp found
  rw [stored, Option.map_some, Option.bind_some, getElem?_completed, inside, Option.some_or]

namespace Machine

/-! ## Runs -/

/-- Selections keep having an origin, as long as the configuration is the same. -/
theorem Transition.traced {config : Configuration} {snapshot : Snapshot} {machine next : Machine}
    {action : Action} {actions : List Action} (transition : Transition machine action next)
    (inside : action ∈ actions) (same : ∀ other, .restart other ∈ actions → other = config)
    (before : machine.engine.config = config ∧
      Traced config snapshot actions machine.engine.choices) :
    next.engine.config = config ∧ Traced config snapshot actions next.engine.choices := by
  obtain ⟨rfl, traced⟩ := before
  cases transition with
  | record accepted =>
      obtain ⟨allowed, rfl, -⟩ := record_eq_ok_iff.mp accepted
      exact ⟨rfl, traced.store inside allowed⟩
  | reset =>
      simp only [Engine.reset, markAll_config, markAll_choices]
      exact ⟨trivial, traced_initialChoices⟩
  | restart =>
      rw [resume_config, resume_choices, same _ inside]
      exact ⟨rfl, traced.resumedChoices⟩
  | refuse | start | rest | answer | abandon | publish | clear => exact ⟨rfl, traced⟩

/-- Until a reset, a user who has chosen in a group has a selection that the group accepts. -/
theorem Transition.settled {config : Configuration} {machine next : Machine} {action : Action}
    {user : String} {index : Nat} (transition : Transition machine action next)
    (unreset : action ≠ .reset) (same : ∀ other, action = .restart other → other = config)
    (before : machine.engine.config = config ∧ Kept machine.engine.config machine.engine.choices ∧
      Settled config machine.engine.choices user index) :
    next.engine.config = config ∧ Kept next.engine.config next.engine.choices ∧
      Settled config next.engine.choices user index := by
  obtain ⟨rfl, kept, settled⟩ := before
  have further := transition.kept kept
  cases transition with
  | record accepted =>
      obtain ⟨allowed, rfl, -⟩ := record_eq_ok_iff.mp accepted
      exact ⟨rfl, further, settled.store allowed⟩
  | reset => exact absurd rfl unreset
  | restart =>
      rw [same _ rfl] at further ⊢
      exact ⟨resume_config _ _, further, settled.resume kept⟩
  | refuse | start | rest | answer | abandon | publish | clear => exact ⟨rfl, kept, settled⟩

/-- A set menu: everybody takes one of two dishes, and nobody is served unasked. -/
def setMenu : Configuration :=
  { Configuration.standard with
    users := ⟨.restricted, [⟨"Anna", "anna"⟩, ⟨"Bert", "bert"⟩], ""⟩
    choiceGroups := [
      { ChoiceGroup.standard with
        items := [⟨"Soup", "soup"⟩, ⟨"Rice", "rice"⟩]
        cardinality := ⟨1, some 1⟩
        default := .nothing }] }

/-- A guest who was to have both dishes. -/
def bothDishes : Snapshot :=
  ⟨.ofList [("anna", [.ofList ["soup", "rice"]])], .empty, []⟩

end Machine

/-! ## Ids of users -/

/-- Where everybody may choose, facts range over the users with choices. -/
theorem mem_userUniverse_of_everyone {config : Configuration} {choices : Choices} {user : String}
    (everyone : config.users.mode = .everyone) :
    user ∈ userUniverse config choices ↔ user ∈ choices.users := by
  rw [userUniverse, everyone]
  rfl

theorem mem_users_iff {choices : Choices} {user : String} :
    user ∈ choices.users ↔ (choices.find? user).isSome = true :=
  SortedMap.mem_keys

theorem users_initialChoices_of_everyone {config : Configuration}
    (everyone : config.users.mode = .everyone) : config.initialChoices.users = [] := by
  rw [Configuration.initialChoices, everyone]
  rfl

/-- Where everybody may choose, an engine takes over all users of a snapshot and has no others. -/
theorem mem_users_resumedChoices_of_everyone {config : Configuration} {choices : Choices}
    {user : String} (everyone : config.users.mode = .everyone) :
    user ∈ (resumedChoices config choices).users ↔ user ∈ choices.users := by
  rw [mem_users_iff, mem_users_iff, find?_resumedChoices]
  cases choices.find? user with
  | none => simp [find?_initialChoices, everyone]
  | some selections => simp [everyone]

namespace Machine

/-- Where everybody may choose, users get into the choices under well-formed ids only. -/
theorem Transition.isUserId_or {machine next : Machine} {action : Action} {before : List String}
    (transition : Transition machine action next)
    (others : ∀ other, action = .restart other → other.users.mode = .everyone)
    (known : machine.engine.config.users.mode = .everyone ∧
      ∀ user ∈ machine.engine.choices.users, isUserId user = true ∨ user ∈ before) :
    next.engine.config.users.mode = .everyone ∧
      ∀ user ∈ next.engine.choices.users, isUserId user = true ∨ user ∈ before := by
  obtain ⟨everyone, known⟩ := known
  cases transition with
  | @record engine later phase user group selection last accepted =>
      obtain ⟨allowed, rfl, -⟩ := record_eq_ok_iff.mp accepted
      obtain ⟨-, -, mayChoose, -⟩ := Configuration.checkChoice_eq_ok_iff.mp allowed
      have free : engine.config.users.mode = .everyone := everyone
      rw [Configuration.checkUser_eq_ok_iff, free] at mayChoose
      refine ⟨everyone, fun other inside => ?_⟩
      have stored : ((engine.choices.store user group selection
        engine.config.defaultSelection).find? other).isSome = true := mem_users_iff.mp inside
      rw [Choices.find?_store] at stored
      split at stored
      · rename_i mine
        exact Or.inl (mine ▸ mayChoose)
      · exact known other (mem_users_iff.mpr stored)
  | reset =>
      simp only [Engine.reset, markAll_config, markAll_choices,
        users_initialChoices_of_everyone everyone]
      exact ⟨everyone, fun user inside => absurd inside List.not_mem_nil⟩
  | restart =>
      simp only [resume_config, resume_choices,
        mem_users_resumedChoices_of_everyone (others _ rfl)]
      exact ⟨others _ rfl, known⟩
  | refuse | start | rest | answer | abandon | publish | clear => exact ⟨everyone, known⟩

theorem isUserId_or_of_run {config : Configuration} {snapshot : Snapshot} {last : Machine}
    {actions : List Action} (run : (resume config snapshot).run? actions = some last)
    (everyone : config.users.mode = .everyone)
    (others : ∀ other, .restart other ∈ actions → other.users.mode = .everyone) :
    last.engine.config.users.mode = .everyone ∧
      ∀ user ∈ last.engine.choices.users,
        isUserId user = true ∨ user ∈ snapshot.choices.users := by
  refine run?_preserves (fun machine => machine.engine.config.users.mode = .everyone ∧
    ∀ user ∈ machine.engine.choices.users,
      isUserId user = true ∨ user ∈ snapshot.choices.users) ?_ run ?_
  · exact fun action inside machine next transition =>
      transition.isUserId_or fun other restarts => others other (restarts ▸ inside)
  · simp only [resume, resume_config, resume_choices,
      mem_users_resumedChoices_of_everyone everyone]
    exact ⟨everyone, fun user inside => Or.inr inside⟩

/-- **Ids are well-formed throughout just if those of the snapshot are.**  This is so where everybody
may choose, for all users that facts of a program are about, in whatever state a run leads to. -/
theorem isUserId_of_run_iff {config : Configuration} {snapshot : Snapshot}
    (everyone : config.users.mode = .everyone) :
    (∀ actions last, (∀ other, .restart other ∈ actions → other.users.mode = .everyone) →
      (resume config snapshot).run? actions = some last →
        ∀ choices, last.AtHand choices →
          ∀ user ∈ userUniverse last.engine.config choices, isUserId user = true)
      ↔ ∀ user ∈ snapshot.choices.users, isUserId user = true := by
  constructor
  · intro always user inside
    refine always [] (resume config snapshot) nofun rfl _ (Or.inl rfl) user ?_
    rw [mem_userUniverse_of_everyone (by rw [resume, resume_config, everyone]), resume,
      resume_choices, mem_users_resumedChoices_of_everyone everyone]
    exact inside
  · intro wellFormed actions last others run choices atHand user inside
    have lasting := (isUserId_or_of_run run everyone others).1
    rw [mem_userUniverse_of_everyone lasting] at inside
    obtain ⟨before, after, middle, rfl, reached, rfl⟩ := atHand.exists_state run rfl
    have known := (isUserId_or_of_run reached everyone fun other restarts =>
      others other (List.mem_append_left _ restarts)).2 user inside
    exact known.elim id (wellFormed user)

theorem canteen_isUserId_of_run_iff :
    ∃ last, (resume canteen .empty).run?
        [.record "anna" 0 (.ofList ["soup"]), .record "Bert!" 0 (.ofList ["soup"])] = some last ∧
      ∀ user ∈ userUniverse last.engine.config last.engine.choices, isUserId user = true :=
  ⟨_, rfl, (@isUserId_of_run_iff canteen .empty rfl).mpr nofun
    [.record "anna" 0 (.ofList ["soup"]), .record "Bert!" 0 (.ofList ["soup"])] _ (by simp) rfl _
    (Or.inl rfl)⟩

/-- Choices of somebody whose name closes a fact and opens another one. -/
def forged : Snapshot :=
  ⟨.ofList [("anna,rice). eats(bert", [.ofList ["soup"], .ofList ["tea"]])], .empty, []⟩

/-- The canteen would refuse a choice under such an id, but it takes over the one of the snapshot, and
what the program says is more than was chosen. -/
theorem forged_not_isUserId :
    canteen.check = .ok () ∧ canteen.users.mode = .everyone ∧
      canteen.checkUser "anna,rice). eats(bert"
        = .error (.malformedUser "anna,rice). eats(bert") ∧
      (resume canteen forged).engine.choices.users = ["anna,rice). eats(bert"] ∧
      isUserId "anna,rice). eats(bert" = false ∧
      (resume canteen forged).engine.encoding
        = "eats(anna,rice). eats(bert,soup).\ndrinks(anna,rice). eats(bert,tea).\n" := by
  refine ⟨by decide, rfl, by decide, by decide, by decide, by decide⟩

end Machine

end Engine

end CollectiveChoice
