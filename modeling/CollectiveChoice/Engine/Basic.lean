import CollectiveChoice.Encoding
import CollectiveChoice.Engine.Admission
import CollectiveChoice.Engine.Outcome
import CollectiveChoice.Engine.Snapshot
import CollectiveChoice.Solving.Request

/-!
# The state of an instance

An engine holds the choices of an instance, the users whose choices changed since the last
compilation, what readers see, and the history.  Every change of a user gets a number of its own, so
that a change made while a compilation runs can be told from the ones the compilation took in.

A compilation goes through four steps: it copies the choices and the changed users together, asks
the solver, publishes what it found together with an entry of the history, and then clears the
changes it took in.  Choices can be made between any two of them; a failed compilation never gets to
the third one.
-/

namespace CollectiveChoice

set_option autoImplicit false

/-- The state of an instance. -/
structure Engine where
  config : Configuration
  choices : Choices
  /-- The users with changes no compilation has taken in, with the number of the latest one. -/
  pending : SortedMap String Nat
  /-- The number of the latest change. -/
  lastMark : Nat
  outcome : Outcome
  /-- The history, oldest entry first. -/
  history : List HistoryEntry

namespace Engine

/-! ## Changes -/

/-- Notes a change of a user. -/
def mark (engine : Engine) (user : String) : Engine :=
  { engine with
    pending := engine.pending.insert user (engine.lastMark + 1)
    lastMark := engine.lastMark + 1 }

/-- Notes a change of each user in turn. -/
def markAll (engine : Engine) (users : List String) : Engine :=
  users.foldl mark engine

/-- The users with changes, in order. -/
def pendingUsers (engine : Engine) : List String :=
  engine.pending.keys.toList

/-- Marks change nothing but the changes. -/
theorem markAll_frame (engine : Engine) (users : List String) :
    engine.markAll users = { engine with
      pending := (engine.markAll users).pending
      lastMark := (engine.markAll users).lastMark } := by
  induction users generalizing engine with
  | nil => rfl
  | cons user rest ih => exact ih (engine.mark user)

@[simp] theorem markAll_config (engine : Engine) (users : List String) :
    (engine.markAll users).config = engine.config := by
  rw [markAll_frame]

@[simp] theorem markAll_choices (engine : Engine) (users : List String) :
    (engine.markAll users).choices = engine.choices := by
  rw [markAll_frame]

@[simp] theorem markAll_outcome (engine : Engine) (users : List String) :
    (engine.markAll users).outcome = engine.outcome := by
  rw [markAll_frame]

@[simp] theorem markAll_history (engine : Engine) (users : List String) :
    (engine.markAll users).history = engine.history := by
  rw [markAll_frame]

theorem mem_pendingUsers {engine : Engine} {user : String} :
    user ∈ engine.pendingUsers ↔ (engine.pending.find? user).isSome = true :=
  SortedMap.mem_keys

/-! ## Starting -/

/-- The selections of a user brought into line with the groups: one for each group, where a missing
one, or one with an item that is none of the group, is replaced by the default. -/
def fitSelections (config : Configuration) (selections : List Selection) : List Selection :=
  config.choiceGroups.mapIdx fun index group =>
    match selections[index]? with
    | none => group.defaultSelection
    | some selection =>
      if selection.toList.all group.hasItem then selection else group.defaultSelection

/-- Choices with the selections of one more user.  Where only listed users may choose, others are
left out. -/
def adopt (config : Configuration) (choices : Choices) (entry : String × List Selection) :
    Choices :=
  if config.users.mode = .restricted ∧ choices.contains entry.1 = false then choices
  else choices.insert entry.1 (fitSelections config entry.2)

/-- The choices to start with, given those from before. -/
def resumedChoices (config : Configuration) (choices : Choices) : Choices :=
  choices.toList.foldl (adopt config) config.initialChoices

/-- The engine that goes on from a snapshot.  Every user with choices counts as changed. -/
def resume (config : Configuration) (snapshot : Snapshot) : Engine :=
  let choices := resumedChoices config snapshot.choices
  let engine : Engine := {
    config := config
    choices := choices
    pending := .empty
    lastMark := 0
    outcome := .initial snapshot.ids
    history := snapshot.history }
  engine.markAll choices.users

@[simp] theorem resume_config (config : Configuration) (snapshot : Snapshot) :
    (resume config snapshot).config = config :=
  markAll_config _ _

@[simp] theorem resume_choices (config : Configuration) (snapshot : Snapshot) :
    (resume config snapshot).choices = resumedChoices config snapshot.choices :=
  markAll_choices _ _

@[simp] theorem resume_outcome (config : Configuration) (snapshot : Snapshot) :
    (resume config snapshot).outcome = .initial snapshot.ids :=
  markAll_outcome _ _

@[simp] theorem resume_history (config : Configuration) (snapshot : Snapshot) :
    (resume config snapshot).history = snapshot.history :=
  markAll_history _ _

/-- What survives a restart. -/
def snapshot (engine : Engine) : Snapshot :=
  ⟨engine.choices, engine.outcome.ids, engine.history⟩

/-- The engine after a restart with a configuration, by way of the text of its snapshot. -/
def restart (engine : Engine) (config : Configuration) : Engine :=
  resume config (Snapshot.recover engine.snapshot.write)

/-! ## Choosing -/

/-- Stores the selection of a user in a group, and says whether the group is the last one. -/
def record (engine : Engine) (user : String) (group : Nat) (selection : Selection) :
    Except ChoiceError (Engine × Bool) := do
  engine.config.checkChoice user group selection
  let choices := engine.choices.store user group selection engine.config.defaultSelection
  return (({ engine with choices } : Engine).mark user,
    group + 1 == engine.config.choiceGroups.length)

/-- Brings back the choices an instance starts with.  Every user with choices before or after counts
as changed. -/
def reset (engine : Engine) : Engine :=
  let choices := engine.config.initialChoices
  ({ engine with choices } : Engine).markAll (engine.choices.keys.union choices.keys).toList

/-- The selection of a user in a group, or the default of the group. -/
def selectionOf (engine : Engine) (user : String) (group : Nat) : Selection :=
  (engine.choices.selection? user group).getD (engine.config.defaultSelection group)

/-- The program for the choices. -/
def encoding (engine : Engine) : String :=
  encode engine.config engine.choices

/-! ## Compiling -/

/-- What a compilation takes in. -/
structure Attempt where
  choices : Choices
  /-- The users with changes, with the number of the latest one. -/
  pending : SortedMap String Nat
  forced : Bool
deriving DecidableEq

/-- When a compilation is published, and how long it took. -/
structure Moment where
  time : Timestamp
  runtime : Duration

/-- Begins a compilation.  Without changes there is nothing to do unless it is forced. -/
def begin? (engine : Engine) (forced : Bool) : Option Attempt :=
  if engine.pending.isEmpty && !forced then none
  else some ⟨engine.choices, engine.pending, forced⟩

/-- What the solver is asked in a compilation. -/
def requestFor (engine : Engine) (attempt : Attempt) : SolveRequest :=
  .ofConfiguration engine.config (encode engine.config attempt.choices)

/-- The outcome of solutions. -/
def outcomeOf (config : Configuration) (moment : Moment) (solutions : List Solution) : Outcome :=
  let models := Outcome.modelsOf config.output.idWords.toNat solutions
  let statistics := Statistics.ofModels models moment.runtime
  { models := models
    ids := .ofList (models.map Model.id)
    statistics := statistics
    rendering := config.output.layout.render ⟨config.labels, models, statistics⟩
    compiledAt := some moment.time }

/-- Publishes the solutions found in a compilation, with an entry of the history. -/
def publish (engine : Engine) (attempt : Attempt) (moment : Moment) (solutions : List Solution) :
    Engine :=
  let outcome := outcomeOf engine.config moment solutions
  let entry := HistoryEntry.ofChange moment.time attempt.pending.keys attempt.forced
    engine.outcome.ids outcome.ids
  { engine with outcome, history := engine.history ++ [entry] }

/-- Clears the changes a compilation took in; users who changed again keep their mark. -/
def clear (engine : Engine) (attempt : Attempt) : Engine :=
  { engine with
    pending := engine.pending.filter fun user number => attempt.pending.find? user != some number }

end Engine

end CollectiveChoice
