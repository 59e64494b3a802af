import CollectiveChoice.Proofs.Engine.Transition

/-!
# Compilations that are abandoned leave no trace

A compilation is abandoned when the solver fails or nobody waits for its answer any longer.  Between
its beginning and its end choices may be made and brought back, and other compilations come before
and after it.  `withoutAbandoned` takes every such compilation out of a run and keeps all the rest.

Taking them out changes nothing: the run that is left leads to the very same machine, so that the
choices, the numbered changes, what readers see and the history agree, and every compilation that is
published is published from the same state (`noTrace_of_run`).

The two runs go side by side.  As long as the one is in a compilation that will be abandoned, the
other one has the same engine at rest (`aside`); an action that is taken out leads nowhere in it, and
any other action leads from there as it did before (`Transition.aside`).
-/

namespace CollectiveChoice

set_option autoImplicit false

namespace Engine

/-! ## Taking compilations out of a run -/

namespace Action

/-- Whether an action goes on beside a compilation, as choosing and resetting do. -/
def isBeside : Action → Bool
  | .record _ _ _ => true
  | .reset => true
  | _ => false

/-- Whether the compilation under way is abandoned in what follows: that is the next thing to become
of it. -/
def abandonedIn : List Action → Bool
  | [] => false
  | .abandon :: _ => true
  | action :: rest => action.isBeside && abandonedIn rest

/-- Whether an action is one end of a compilation that is abandoned, given what follows. -/
def isOfAbandoned (action : Action) (rest : List Action) : Bool :=
  match action with
  | .start _ => abandonedIn rest
  | .abandon => true
  | _ => false

/-- Actions without the compilations that are abandoned. -/
def withoutAbandoned : List Action → List Action
  | [] => []
  | action :: rest =>
    if action.isOfAbandoned rest then withoutAbandoned rest else action :: withoutAbandoned rest

theorem withoutAbandoned_cons (action : Action) (rest : List Action) :
    withoutAbandoned (action :: rest)
      = if action.isOfAbandoned rest then withoutAbandoned rest
        else action :: withoutAbandoned rest :=
  rfl

theorem abandonedIn_append {later : List Action} (settled : abandonedIn later = false)
    (earlier : List Action) : abandonedIn (earlier ++ later) = abandonedIn earlier := by
  induction earlier with
  | nil => exact settled
  | cons action rest ih =>
      cases action with
      | abandon => rfl
      | record | reset | start | answer | publish | clear | restart =>
          simp only [List.cons_append, abandonedIn, ih]

/-- A run is taken apart before actions that do not abandon what is under way. -/
theorem withoutAbandoned_append {later : List Action} (settled : abandonedIn later = false)
    (earlier : List Action) :
    withoutAbandoned (earlier ++ later) = withoutAbandoned earlier ++ withoutAbandoned later := by
  induction earlier with
  | nil => rfl
  | cons action rest ih =>
      have alike : action.isOfAbandoned (rest ++ later) = action.isOfAbandoned rest := by
        cases action with
        | start => exact abandonedIn_append settled rest
        | record | reset | answer | abandon | publish | clear | restart => rfl
      simp only [List.cons_append, withoutAbandoned_cons, alike, ih]
      split
      · rfl
      · rw [List.cons_append]

theorem abandon_not_mem_withoutAbandoned (actions : List Action) :
    .abandon ∉ withoutAbandoned actions := by
  induction actions with
  | nil => exact List.not_mem_nil
  | cons action rest ih =>
      rw [withoutAbandoned_cons]
      split
      · exact ih
      · rename_i kept
        intro inside
        rcases List.mem_cons.mp inside with rfl | inside
        · exact kept rfl
        · exact ih inside

/-- Nothing else is taken out than beginnings and ends of compilations. -/
theorem filter_withoutAbandoned {stays : Action → Bool}
    (other : ∀ action rest, action.isOfAbandoned rest = true → stays action = false)
    (actions : List Action) : (withoutAbandoned actions).filter stays = actions.filter stays := by
  induction actions with
  | nil => rfl
  | cons action rest ih =>
      rw [withoutAbandoned_cons]
      split
      · rename_i taken
        have leaves : ¬ stays action = true := Bool.eq_false_iff.mp (other action rest taken)
        rw [ih, List.filter_cons_of_neg leaves]
      · simp only [List.filter_cons, ih]

theorem isPublication_of_isOfAbandoned (action : Action) (rest : List Action)
    (taken : action.isOfAbandoned rest = true) : action.isPublication = false := by
  cases action with
  | publish => cases taken
  | record | reset | start | answer | abandon | clear | restart => rfl

theorem abandonedIn_of_beside {during : List Action}
    (beside : ∀ action ∈ during, action.isBeside = true) (after : List Action) :
    abandonedIn (during ++ .abandon :: after) = true ∧
      withoutAbandoned (during ++ .abandon :: after) = during ++ withoutAbandoned after := by
  induction during with
  | nil => exact ⟨rfl, rfl⟩
  | cons action rest ih =>
      obtain ⟨head, others⟩ := List.forall_mem_cons.mp beside
      obtain ⟨abandoned, left⟩ := ih others
      cases action with
      | record | reset => exact ⟨abandoned, congrArg _ left⟩
      | start | answer | abandon | publish | clear | restart => cases head

/-- What is taken out of a compilation that is abandoned are its beginning and its end; what happened
in between stays. -/
theorem withoutAbandoned_abandoned {during : List Action}
    (beside : ∀ action ∈ during, action.isBeside = true) (before : List Action) (forced : Bool)
    (after : List Action) :
    withoutAbandoned (before ++ .start forced :: (during ++ .abandon :: after))
      = withoutAbandoned before ++ (during ++ withoutAbandoned after) := by
  obtain ⟨abandoned, left⟩ := abandonedIn_of_beside beside after
  have taken : (start forced).isOfAbandoned (during ++ .abandon :: after) = true := abandoned
  rw [withoutAbandoned_append rfl, withoutAbandoned_cons, if_pos taken, left]

end Action

namespace Machine

open CollectiveChoice.Engine.Action

/-! ## Two runs side by side -/

/-- The machine in the run without the compilation under way, if what follows abandons it. -/
def aside (machine : Machine) (rest : List Action) : Machine :=
  if abandonedIn rest then ⟨machine.engine, .idle⟩ else machine

/-- Only a compilation that waits for the solver can be abandoned. -/
theorem asked_of_abandonedIn {machine last : Machine} {actions : List Action}
    (run : machine.run? actions = some last) (abandoned : abandonedIn actions = true) :
    ∃ attempt, machine.phase = .asked attempt := by
  induction actions generalizing machine with
  | nil => cases abandoned
  | cons action rest ih =>
      obtain ⟨next, transition, run⟩ := run?_cons_eq_some_iff.mp run
      cases transition with
      | record | refuse | reset =>
          obtain ⟨attempt, asked⟩ := ih run abandoned
          exact ⟨attempt, asked⟩
      | abandon => exact ⟨_, rfl⟩
      | start | rest | answer | publish | clear | restart => cases abandoned

theorem aside_of_abandonedIn {rest : List Action} (abandoned : abandonedIn rest = true)
    (machine : Machine) : machine.aside rest = ⟨machine.engine, .idle⟩ :=
  if_pos abandoned

theorem aside_of_not_abandonedIn {rest : List Action} (settled : abandonedIn rest = false)
    (machine : Machine) : machine.aside rest = machine :=
  if_neg (Bool.eq_false_iff.mp settled)

/-- Unless the machine waits for the solver, there is nothing to leave out. -/
theorem aside_of_ne_asked {machine last : Machine} {actions : List Action}
    (run : machine.run? actions = some last)
    (settled : ∀ attempt, machine.phase ≠ .asked attempt) : machine.aside actions = machine := by
  cases abandoned : abandonedIn actions with
  | true =>
      obtain ⟨attempt, asked⟩ := asked_of_abandonedIn run abandoned
      exact absurd asked (settled attempt)
  | false => exact aside_of_not_abandonedIn abandoned machine

/-- What goes on beside a compilation goes on without it. -/
theorem aside_of_beside {machine next : Machine} {action : Action} {rest : List Action}
    (beside : action.isBeside = true)
    (goesOn : Transition ⟨machine.engine, .idle⟩ action ⟨next.engine, .idle⟩)
    (transition : Transition machine action next) :
    Transition (machine.aside (action :: rest)) action (next.aside rest) := by
  have same : abandonedIn (action :: rest) = abandonedIn rest := by
    cases action with
    | record | reset => rfl
    | start | answer | abandon | publish | clear | restart => cases beside
  cases abandoned : abandonedIn rest with
  | true =>
      rw [aside_of_abandonedIn (same.trans abandoned), aside_of_abandonedIn abandoned]
      exact goesOn
  | false =>
      rw [aside_of_not_abandonedIn (same.trans abandoned), aside_of_not_abandonedIn abandoned]
      exact transition

/-- An action that is taken out leads nowhere in the other run, and any other one leads from where
the other run is to where it will be. -/
theorem Transition.aside {machine next last : Machine} {action : Action} {rest : List Action}
    (transition : Transition machine action next) (run : next.run? rest = some last) :
    if action.isOfAbandoned rest then machine.aside (action :: rest) = next.aside rest
    else Transition (machine.aside (action :: rest)) action (next.aside rest) := by
  cases transition with
  | record accepted => exact aside_of_beside rfl (.record accepted) (.record accepted)
  | refuse refused => exact aside_of_beside rfl (.refuse refused) (.refuse refused)
  | reset => exact aside_of_beside rfl .reset .reset
  | start begun =>
      split
      · rename_i abandoned
        exact (aside_of_abandonedIn abandoned ⟨_, .asked _⟩).symm
      · rename_i settled
        rw [aside_of_not_abandonedIn (Bool.eq_false_iff.mpr settled)]
        exact .start begun
  | rest nothing =>
      rw [aside_of_ne_asked run nofun]
      split
      · rfl
      · exact .rest nothing
  | answer =>
      rw [aside_of_ne_asked run nofun]
      exact .answer
  | abandon => exact (aside_of_ne_asked run nofun).symm
  | publish =>
      rw [aside_of_ne_asked run nofun]
      exact .publish
  | clear =>
      rw [aside_of_ne_asked run nofun]
      exact .clear
  | restart =>
      rw [aside_of_ne_asked run nofun]
      exact .restart

/-- From beside a run, the actions that are not taken out lead to where the run leads. -/
theorem run?_aside {machine last : Machine} {actions : List Action}
    (run : machine.run? actions = some last) :
    (machine.aside actions).run? (withoutAbandoned actions) = some last := by
  induction actions generalizing machine with
  | nil => exact run
  | cons action rest ih =>
      obtain ⟨next, transition, onwards⟩ := run?_cons_eq_some_iff.mp run
      have beside := transition.aside onwards
      rw [withoutAbandoned_cons]
      split at beside
      · rename_i taken
        rw [if_pos taken, beside]
        exact ih onwards
      · rename_i kept
        rw [if_neg kept]
        exact run?_cons_eq_some_iff.mpr ⟨_, beside, ih onwards⟩

theorem run?_withoutAbandoned {engine : Engine} {last : Machine} {actions : List Action}
    (run : (⟨engine, .idle⟩ : Machine).run? actions = some last) :
    (⟨engine, .idle⟩ : Machine).run? (withoutAbandoned actions) = some last := by
  have beside := run?_aside run
  rwa [aside_of_ne_asked run nofun] at beside

/-- A run from an engine at rest in which compilations that are abandoned leave no trace. -/
structure NoTrace (engine : Engine) (actions : List Action) (last : Machine) : Prop where
  /-- Every compilation that is abandoned is taken out. -/
  all : .abandon ∉ withoutAbandoned actions
  /-- Only its beginning and its end are. -/
  only : ∀ before forced during after,
    actions = before ++ .start forced :: (during ++ .abandon :: after) →
    (∀ action ∈ during, action.isBeside = true) →
    withoutAbandoned actions = withoutAbandoned before ++ (during ++ withoutAbandoned after)
  /-- What is left leads to the same machine, and so to the same choices, the same changes with their
  numbers, the same outcome and the same history. -/
  run : (⟨engine, .idle⟩ : Machine).run? (withoutAbandoned actions) = some last
  publications : (withoutAbandoned actions).filter isPublication = actions.filter isPublication
  /-- A publication starts from the same state in what is left, so that it adds the same entry. -/
  publication : ∀ before moment after, actions = before ++ .publish moment :: after →
    withoutAbandoned actions
        = withoutAbandoned before ++ .publish moment :: withoutAbandoned after ∧
      ∃ middle next entry, (⟨engine, .idle⟩ : Machine).run? before = some middle ∧
        (⟨engine, .idle⟩ : Machine).run? (withoutAbandoned before) = some middle ∧
        Transition middle (.publish moment) next ∧
        next.engine.history = middle.engine.history ++ [entry]

/-- **Compilations that are abandoned leave no trace**, whatever else happens in a run and however
long it is. -/
theorem noTrace_of_run {engine : Engine} {last : Machine} {actions : List Action}
    (run : (⟨engine, .idle⟩ : Machine).run? actions = some last) :
    NoTrace engine actions last where
  all := abandon_not_mem_withoutAbandoned actions
  only := by
    rintro before forced during after rfl beside
    exact withoutAbandoned_abandoned beside before forced after
  run := run?_withoutAbandoned run
  publications := filter_withoutAbandoned isPublication_of_isOfAbandoned actions
  publication := by
    rintro before moment after rfl
    obtain ⟨middle, reached, onwards⟩ := run?_append_eq_some_iff.mp run
    obtain ⟨next, published, -⟩ := run?_cons_eq_some_iff.mp onwards
    have entry : ∃ entry, next.engine.history = middle.engine.history ++ [entry] := by
      cases published
      exact ⟨_, rfl⟩
    obtain ⟨entry, appended⟩ := entry
    exact ⟨withoutAbandoned_append rfl before, middle, next, entry, reached,
      run?_withoutAbandoned reached, published, appended⟩

/-- Anna chooses while a compilation runs that is abandoned, and so does Bert while a second one
runs that is published. -/
def secondTry : List Action := [
  .record "anna" 0 (.ofList ["soup"]), .start false, .record "anna" 0 (.ofList ["rice"]), .abandon,
  .start false, .record "bert" 0 (.ofList ["soup"]), .answer [⟨[⟨"p", []⟩], []⟩], .publish noon,
  .clear]

theorem canteen_noTrace_of_run :
    ∃ last, (resume canteen .empty).run? secondTry = some last ∧
      (resume canteen .empty).run? [
        .record "anna" 0 (.ofList ["soup"]), .record "anna" 0 (.ofList ["rice"]), .start false,
        .record "bert" 0 (.ofList ["soup"]), .answer [⟨[⟨"p", []⟩], []⟩], .publish noon,
        .clear] = some last ∧
      last.engine.pending.toList = [("bert", 3)] ∧
      last.engine.history.map HistoryEntry.changedUsers = [["anna"]] := by
  have happens : ∃ last, (resume canteen .empty).run? secondTry = some last := ⟨_, rfl⟩
  obtain ⟨last, run⟩ := happens
  have same := (noTrace_of_run run).run
  refine ⟨last, run, same, ?_⟩
  cases run
  exact ⟨by decide +kernel, by decide +kernel⟩

end Machine

end Engine

end CollectiveChoice
