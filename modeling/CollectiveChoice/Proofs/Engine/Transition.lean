import Mathlib.Data.List.Induction
import CollectiveChoice.Engine.Run

/-!
# Transitions of a machine

What an action leads to is computed by a function.  Here the same is said by a relation with one
constructor for each thing that can happen.  The function computes the relation
(`step?_eq_some_iff`), so that what an action keeps is proved by going through the constructors.

A run can be cut at any place (`run?_append_eq_some_iff`), and its last action can be looked at by
itself (`run?_concat_eq_some_iff`).  A compilation that is under way was begun by one of the actions
before, and no other one was begun since (`exists_begin`).
-/

namespace CollectiveChoice

set_option autoImplicit false

namespace Engine

/-! ## Kinds of actions -/

namespace Action

/-- Whether an action begins a compilation, or finds that there is nothing to do. -/
def isStart : Action → Bool
  | .start _ => true
  | _ => false

/-- Whether an action publishes solutions. -/
def isPublication : Action → Bool
  | .publish _ => true
  | _ => false

/-- Whether an action clears the changes a compilation took in. -/
def isClear : Action → Bool
  | .clear => true
  | _ => false

/-- Whether an action replaces the engine by one that goes on from its snapshot. -/
def isRestart : Action → Bool
  | .restart _ => true
  | _ => false

end Action

/-- The compilation under way. -/
def Phase.attempt? : Phase → Option Attempt
  | .idle => none
  | .asked attempt => some attempt
  | .answered attempt _ => some attempt
  | .published attempt => some attempt

/-! ## Single actions -/

/-- A choice that is accepted is stored and marks its user. -/
theorem record_eq_ok_iff {engine later : Engine} {user : String} {group : Nat}
    {selection : Selection} {last : Bool} :
    engine.record user group selection = .ok (later, last)
      ↔ engine.config.checkChoice user group selection = .ok () ∧
        later = ({ engine with
          choices := engine.choices.store user group selection engine.config.defaultSelection } :
            Engine).mark user ∧
        last = (group + 1 == engine.config.choiceGroups.length) := by
  unfold record
  cases engine.config.checkChoice user group selection with
  | error error =>
      constructor
      · intro impossible
        cases impossible
      · rintro ⟨impossible, -⟩
        cases impossible
  | ok done =>
      constructor
      · intro stored
        obtain ⟨rfl, rfl⟩ := Prod.mk.inj (Except.ok.inj stored)
        exact ⟨rfl, rfl, rfl⟩
      · rintro ⟨-, rfl, rfl⟩
        rfl

theorem record_eq_error_iff {engine : Engine} {user : String} {group : Nat}
    {selection : Selection} {error : ChoiceError} :
    engine.record user group selection = .error error
      ↔ engine.config.checkChoice user group selection = .error error := by
  unfold record
  cases engine.config.checkChoice user group selection with
  | error found =>
      constructor <;>
      · intro same
        cases same
        rfl
  | ok done => exact iff_of_false nofun nofun

theorem begin?_eq_some_iff {engine : Engine} {forced : Bool} {attempt : Attempt} :
    engine.begin? forced = some attempt
      ↔ (engine.pending.isEmpty = true → forced = true) ∧
        attempt = ⟨engine.choices, engine.pending, forced⟩ := by
  unfold begin?
  cases engine.pending.isEmpty <;> cases forced <;> simp [eq_comm]

/-- There is nothing to do where no compilation is forced and no user has pending changes. -/
theorem begin?_eq_none_iff {engine : Engine} {forced : Bool} :
    engine.begin? forced = none ↔ engine.pendingUsers = [] ∧ forced = false := by
  have empty : engine.pending.isEmpty = true ↔ engine.pendingUsers = [] := by
    rw [SortedMap.isEmpty, List.isEmpty_iff, pendingUsers, SortedMap.keys, List.map_eq_nil_iff]
  rw [← empty]
  unfold begin?
  cases engine.pending.isEmpty <;> cases forced <;> simp

/-- A compilation takes in the choices and the changes there are when it begins. -/
theorem taken_of_begin? {engine : Engine} {forced : Bool} {attempt : Attempt}
    (begins : engine.begin? forced = some attempt) :
    attempt.choices = engine.choices ∧ attempt.pending = engine.pending := by
  rw [(begin?_eq_some_iff.mp begins).2]
  exact ⟨rfl, rfl⟩

namespace Machine

/-- What can happen to a machine. -/
inductive Transition : Machine → Action → Machine → Prop where
  | record {engine later : Engine} {phase : Phase} {user : String} {group : Nat}
      {selection : Selection} {last : Bool}
      (accepted : engine.record user group selection = .ok (later, last)) :
      Transition ⟨engine, phase⟩ (.record user group selection) ⟨later, phase⟩
  | refuse {machine : Machine} {user : String} {group : Nat} {selection : Selection}
      {error : ChoiceError} (refused : machine.engine.record user group selection = .error error) :
      Transition machine (.record user group selection) machine
  | reset {engine : Engine} {phase : Phase} :
      Transition ⟨engine, phase⟩ .reset ⟨engine.reset, phase⟩
  | start {engine : Engine} {forced : Bool} {attempt : Attempt}
      (begun : engine.begin? forced = some attempt) :
      Transition ⟨engine, .idle⟩ (.start forced) ⟨engine, .asked attempt⟩
  | rest {engine : Engine} {forced : Bool} (nothing : engine.begin? forced = none) :
      Transition ⟨engine, .idle⟩ (.start forced) ⟨engine, .idle⟩
  | answer {engine : Engine} {attempt : Attempt} {solutions : List Solution} :
      Transition ⟨engine, .asked attempt⟩ (.answer solutions)
        ⟨engine, .answered attempt solutions⟩
  | abandon {engine : Engine} {attempt : Attempt} :
      Transition ⟨engine, .asked attempt⟩ .abandon ⟨engine, .idle⟩
  | publish {engine : Engine} {attempt : Attempt} {solutions : List Solution} {moment : Moment} :
      Transition ⟨engine, .answered attempt solutions⟩ (.publish moment)
        ⟨engine.publish attempt moment solutions, .published attempt⟩
  | clear {engine : Engine} {attempt : Attempt} :
      Transition ⟨engine, .published attempt⟩ .clear ⟨engine.clear attempt, .idle⟩
  | restart {engine : Engine} {config : Configuration} :
      Transition ⟨engine, .idle⟩ (.restart config) ⟨Engine.resume config engine.snapshot, .idle⟩

/-- The function computes the relation. -/
theorem step?_eq_some_iff {machine next : Machine} {action : Action} :
    machine.step? action = some next ↔ Transition machine action next := by
  constructor
  · intro happens
    obtain ⟨engine, phase⟩ := machine
    cases action with
    | record user group selection =>
        simp only [step?] at happens
        split at happens
        · rename_i accepted
          cases happens
          exact .record accepted
        · rename_i refused
          cases happens
          exact .refuse refused
    | reset =>
        cases happens
        exact .reset
    | start forced =>
        simp only [step?] at happens
        split at happens
        · rename_i begun
          cases happens
          exact .start begun
        · rename_i nothing
          cases happens
          exact .rest nothing
        · cases happens
    | answer solutions =>
        cases phase <;> cases happens
        exact .answer
    | abandon =>
        cases phase <;> cases happens
        exact .abandon
    | publish moment =>
        cases phase <;> cases happens
        exact .publish
    | clear =>
        cases phase <;> cases happens
        exact .clear
    | restart config =>
        cases phase <;> cases happens
        exact .restart
  · intro transition
    cases transition with
    | record accepted => simp only [step?, accepted]
    | refuse refused => simp only [step?, refused]
    | start begun => simp only [step?, begun]
    | rest nothing => simp only [step?, nothing]
    | reset | answer | abandon | publish | clear | restart => rfl

/-! ## Runs -/

theorem run?_cons_eq_some_iff {machine last : Machine} {action : Action} {rest : List Action} :
    machine.run? (action :: rest) = some last
      ↔ ∃ next, Transition machine action next ∧ next.run? rest = some last := by
  rw [run?, Option.bind_eq_some_iff]
  simp only [step?_eq_some_iff]

theorem run?_append (machine : Machine) (earlier later : List Action) :
    machine.run? (earlier ++ later)
      = (machine.run? earlier).bind fun middle => middle.run? later := by
  induction earlier generalizing machine with
  | nil => rfl
  | cons action rest ih =>
      simp only [List.cons_append, run?, Option.bind_assoc, ih]

/-- A run can be cut at any place. -/
theorem run?_append_eq_some_iff {machine last : Machine} {earlier later : List Action} :
    machine.run? (earlier ++ later) = some last
      ↔ ∃ middle, machine.run? earlier = some middle ∧ middle.run? later = some last := by
  rw [run?_append, Option.bind_eq_some_iff]

/-- The last action of a run leads from what the others lead to. -/
theorem run?_concat_eq_some_iff {machine last : Machine} {earlier : List Action}
    {action : Action} :
    machine.run? (earlier ++ [action]) = some last
      ↔ ∃ middle, machine.run? earlier = some middle ∧ Transition middle action last := by
  rw [run?_append_eq_some_iff]
  simp only [run?, Option.bind_fun_some, step?_eq_some_iff]

/-- What every action of a run keeps is kept by the run. -/
theorem run?_preserves (holds : Machine → Prop) {first last : Machine} {actions : List Action}
    (keeps : ∀ action ∈ actions, ∀ machine next, Transition machine action next →
      holds machine → holds next)
    (run : first.run? actions = some last) (start : holds first) : holds last := by
  induction actions generalizing first with
  | nil =>
      cases run
      exact start
  | cons action rest ih =>
      obtain ⟨next, transition, run⟩ := run?_cons_eq_some_iff.mp run
      exact ih (fun other inside => keeps other (List.mem_cons_of_mem _ inside)) run
        (keeps action List.mem_cons_self first next transition start)

/-! ## What stays the same -/

/-- The configuration lasts until a restart. -/
theorem Transition.config_eq {machine next : Machine} {action : Action}
    (transition : Transition machine action next) (lasting : action.isRestart = false) :
    next.engine.config = machine.engine.config := by
  cases transition with
  | record accepted =>
      obtain ⟨-, rfl, -⟩ := record_eq_ok_iff.mp accepted
      rfl
  | reset => exact markAll_config _ _
  | restart => cases lasting
  | refuse | start | rest | answer | abandon | publish | clear => rfl

theorem config_of_run {first last : Machine} {actions : List Action}
    (run : first.run? actions = some last)
    (lasting : ∀ action ∈ actions, action.isRestart = false) :
    last.engine.config = first.engine.config := by
  refine run?_preserves (fun machine => machine.engine.config = first.engine.config) ?_ run rfl
  intro action inside machine next transition before
  exact (transition.config_eq (lasting action inside)).trans before

/-- What readers see lasts until a publication or a restart. -/
theorem Transition.outcome_eq {machine next : Machine} {action : Action}
    (transition : Transition machine action next) (unpublished : action.isPublication = false)
    (lasting : action.isRestart = false) : next.engine.outcome = machine.engine.outcome := by
  cases transition with
  | record accepted =>
      obtain ⟨-, rfl, -⟩ := record_eq_ok_iff.mp accepted
      rfl
  | reset => exact markAll_outcome _ _
  | publish => cases unpublished
  | restart => cases lasting
  | refuse | start | rest | answer | abandon | clear => rfl

theorem outcome_of_run {first last : Machine} {actions : List Action}
    (run : first.run? actions = some last)
    (unpublished : ∀ action ∈ actions, action.isPublication = false)
    (lasting : ∀ action ∈ actions, action.isRestart = false) :
    last.engine.outcome = first.engine.outcome := by
  refine run?_preserves (fun machine => machine.engine.outcome = first.engine.outcome) ?_ run rfl
  intro action inside machine next transition before
  exact (transition.outcome_eq (unpublished action inside) (lasting action inside)).trans before

/-- The history, and the ids that go with it, stay the same until a publication, also where the
engine is restarted. -/
theorem Transition.history_eq {machine next : Machine} {action : Action}
    (transition : Transition machine action next) (unpublished : action.isPublication = false) :
    next.engine.history = machine.engine.history ∧
      next.engine.outcome.ids = machine.engine.outcome.ids := by
  cases transition with
  | record accepted =>
      obtain ⟨-, rfl, -⟩ := record_eq_ok_iff.mp accepted
      exact ⟨rfl, rfl⟩
  | reset => exact ⟨markAll_history _ _, congrArg Outcome.ids (markAll_outcome _ _)⟩
  | publish => cases unpublished
  | restart => simp [Engine.snapshot, Outcome.initial]
  | refuse | start | rest | answer | abandon | clear => exact ⟨rfl, rfl⟩

/-! ## The compilation under way -/

/-- Nothing is begun while a compilation is under way. -/
theorem Transition.idle_of_start {machine next : Machine} {forced : Bool}
    (transition : Transition machine (.start forced) next) : machine.phase = .idle := by
  cases transition <;> rfl

/-- Unless it begins a compilation, an action goes on with the one under way or leaves it. -/
theorem Transition.attempt?_eq {machine next : Machine} {action : Action}
    (transition : Transition machine action next) (other : action.isStart = false) :
    next.phase.attempt? = machine.phase.attempt? ∨ next.phase.attempt? = none := by
  cases transition with
  | start | rest => cases other
  | abandon | clear | restart => exact Or.inr rfl
  | record | refuse | reset | answer | publish => exact Or.inl rfl

/-- As long as none is begun, no other compilation is under way than the first one. -/
theorem attempt?_of_run {first last : Machine} {actions : List Action}
    (run : first.run? actions = some last) (others : ∀ action ∈ actions, action.isStart = false) :
    last.phase.attempt? = first.phase.attempt? ∨ last.phase.attempt? = none := by
  refine run?_preserves (fun machine => machine.phase.attempt? = first.phase.attempt? ∨
    machine.phase.attempt? = none) ?_ run (Or.inl rfl)
  intro action inside machine next transition before
  rcases transition.attempt?_eq (others action inside) with same | none
  · rwa [same]
  · exact Or.inr none

/-- Solutions that wait to be published were found in the run. -/
theorem answer_mem_of_run {first last : Machine} {actions : List Action} {attempt : Attempt}
    {solutions : List Solution} (run : first.run? actions = some last) (idle : first.phase = .idle)
    (answered : last.phase = .answered attempt solutions) : .answer solutions ∈ actions := by
  induction actions using List.reverseRecOn generalizing last with
  | nil =>
      cases run
      rw [idle] at answered
      cases answered
  | append_singleton actions action ih =>
      obtain ⟨middle, toMiddle, transition⟩ := run?_concat_eq_some_iff.mp run
      cases transition with
      | answer =>
          cases answered
          exact List.mem_append_right _ (List.mem_singleton_self _)
      | record | refuse | reset => exact List.mem_append_left _ (ih toMiddle answered)
      | start | rest | abandon | publish | clear | restart => cases answered

/-- A compilation under way has a beginning, with no other beginning since. -/
theorem exists_begin {first last : Machine} {actions : List Action} {attempt : Attempt}
    (run : first.run? actions = some last) (idle : first.phase = .idle)
    (under : last.phase.attempt? = some attempt) :
    ∃ before begun during, actions = before ++ .start attempt.forced :: during ∧
      first.run? before = some begun ∧ begun.engine.begin? attempt.forced = some attempt ∧
      ∀ action ∈ during, action.isStart = false := by
  induction actions using List.reverseRecOn generalizing last with
  | nil =>
      cases run
      rw [idle] at under
      cases under
  | append_singleton actions action ih =>
      obtain ⟨middle, toMiddle, transition⟩ := run?_concat_eq_some_iff.mp run
      cases started : action.isStart with
      | true =>
          cases transition with
          | start begun =>
              cases under
              have forced := (begin?_eq_some_iff.mp begun).2
              subst forced
              exact ⟨actions, _, [], rfl, toMiddle, begun, by simp⟩
          | rest => cases under
          | record | refuse | reset | answer | abandon | publish | clear | restart => cases started
      | false =>
          rcases transition.attempt?_eq started with same | none
          · obtain ⟨before, begun, during, rfl, reached, opened, others⟩ :=
              ih toMiddle (same ▸ under)
            refine ⟨before, begun, during ++ [action], by simp, reached, opened, ?_⟩
            intro other inside
            rcases List.mem_append.mp inside with earlier | final
            · exact others other earlier
            · rw [List.mem_singleton.mp final]
              exact started
          · rw [none] at under
            cases under

/-! ## An instance to look at -/

/-- A canteen, open to everybody: first a dish and then a drink is chosen, and all are wanted where
nothing is said. -/
def canteen : Configuration :=
  { Configuration.standard with
    choiceGroups := [
      { ChoiceGroup.standard with
        items := [⟨"Soup", "soup"⟩, ⟨"Rice", "rice"⟩]
        producedAtoms := [⟨"eats(\x7buser\x7d,\x7bchoice\x7d)",
          [.literal ['e', 'a', 't', 's', '('], .placeholder "user", .literal [','],
            .placeholder "choice", .literal [')']], by decide⟩] },
      { ChoiceGroup.standard with
        items := [⟨"Tea", "tea"⟩, ⟨"Milk", "milk"⟩]
        producedAtoms := [⟨"drinks(\x7buser\x7d,\x7bchoice\x7d)",
          [.literal ['d', 'r', 'i', 'n', 'k', 's', '('], .placeholder "user", .literal [','],
            .placeholder "choice", .literal [')']], by decide⟩] }] }

/-- When compilations of the canteen are published. -/
def noon : Moment := ⟨⟨⟨2024, 5, 1, by decide⟩, ⟨12, 0, 0, 0, by decide⟩⟩, ⟨0⟩⟩

end Machine

end Engine

end CollectiveChoice
