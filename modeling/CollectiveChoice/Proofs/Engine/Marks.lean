import CollectiveChoice.Proofs.Engine.Transition

/-!
# What is marked in a run

Every change of a user's selections marks the user.  The marks of a run are the users its actions
mark (`marked`), and users without a mark keep their selections (`choices_of_not_marked`).

A mark is a number greater than all numbers before it.  Until a compilation is cleared, a run gives
new numbers to the users it marks and leaves the others as they were (`advances_of_run`), so a
number tells whether a user was marked before or after a given state.
-/

namespace CollectiveChoice

set_option autoImplicit false

namespace Engine

/-! ## Marks of actions and runs -/

namespace Machine

/-- The users an action marks: one whose choice is accepted, and with a reset everybody who has
choices before or after it. -/
def marks (machine : Machine) : Action → List String
  | .record user group selection =>
    match machine.engine.config.checkChoice user group selection with
    | .ok () => [user]
    | .error _ => []
  | .reset => machine.engine.choices.users ++ machine.engine.config.initialChoices.users
  | _ => []

/-- The users the actions of a run mark, one action after the other. -/
def marked (machine : Machine) : List Action → List String
  | [] => []
  | action :: rest =>
    machine.marks action ++
      match machine.step? action with
      | none => []
      | some next => next.marked rest

theorem marked_cons {machine next : Machine} {action : Action}
    (transition : Transition machine action next) (rest : List Action) :
    machine.marked (action :: rest) = machine.marks action ++ next.marked rest := by
  simp only [marked, step?_eq_some_iff.mpr transition]

theorem marked_append {first middle : Machine} {earlier : List Action}
    (run : first.run? earlier = some middle) (later : List Action) :
    first.marked (earlier ++ later) = first.marked earlier ++ middle.marked later := by
  induction earlier generalizing first with
  | nil =>
      cases run
      rfl
  | cons action rest ih =>
      obtain ⟨next, transition, run⟩ := run?_cons_eq_some_iff.mp run
      rw [List.cons_append, marked_cons transition, marked_cons transition, ih run,
        List.append_assoc]

/-- What every action of a run keeps, when the users it marks are added to those marked before, is
kept by the run with all users it marks. -/
theorem run?_accumulates (holds : List String → Machine → Prop) (before : List String)
    {first last : Machine} {actions : List Action}
    (keeps : ∀ action ∈ actions, ∀ users machine next, Transition machine action next →
      holds users machine → holds (users ++ machine.marks action) next)
    (run : first.run? actions = some last) (start : holds before first) :
    holds (before ++ first.marked actions) last := by
  induction actions generalizing first before with
  | nil =>
      cases run
      simpa [marked] using start
  | cons action rest ih =>
      obtain ⟨next, transition, run⟩ := run?_cons_eq_some_iff.mp run
      have further := keeps action List.mem_cons_self before first next transition start
      have all := ih _ (fun other inside => keeps other (List.mem_cons_of_mem _ inside)) run further
      rwa [marked_cons transition, ← List.append_assoc]

/-- Users an action does not mark keep their selections. -/
theorem Transition.choices_of_not_marked {machine next : Machine} {action : Action}
    (transition : Transition machine action next) (lasting : action.isRestart = false)
    {user : String} (unmarked : user ∉ machine.marks action) :
    next.engine.choices.find? user = machine.engine.choices.find? user := by
  cases transition with
  | record accepted =>
      obtain ⟨allowed, rfl, -⟩ := record_eq_ok_iff.mp accepted
      simp only [marks, allowed, List.mem_singleton] at unmarked
      exact (Choices.find?_store ..).trans (if_neg unmarked)
  | @reset engine =>
      simp only [marks, List.mem_append, not_or, Choices.users, SortedSet.mem_toList,
        SortedMap.mem_keys, Option.not_isSome_iff_eq_none] at unmarked
      simp only [Engine.reset, markAll_choices, unmarked.1, unmarked.2]
  | restart => cases lasting
  | refuse | start | rest | answer | abandon | publish | clear => rfl

/-- Users no action of a run marks keep their selections. -/
theorem choices_of_not_marked {first last : Machine} {actions : List Action}
    (run : first.run? actions = some last) (lasting : ∀ action ∈ actions, action.isRestart = false)
    {user : String} (unmarked : user ∉ first.marked actions) :
    last.engine.choices.find? user = first.engine.choices.find? user := by
  refine run?_accumulates (fun users machine => user ∉ users →
    machine.engine.choices.find? user = first.engine.choices.find? user) [] ?_ run (fun _ => rfl)
      unmarked
  intro action inside users machine next transition before unmarked
  rw [List.mem_append, not_or] at unmarked
  rw [transition.choices_of_not_marked (lasting action inside) unmarked.2, before unmarked.1]

theorem choices_of_marked_eq_nil {first last : Machine} {actions : List Action}
    (run : first.run? actions = some last) (lasting : ∀ action ∈ actions, action.isRestart = false)
    (nobody : first.marked actions = []) : last.engine.choices = first.engine.choices := by
  apply SortedMap.ext_find?
  intro user
  apply choices_of_not_marked run lasting
  rw [nobody]
  exact List.not_mem_nil

end Machine

/-! ## The numbers of marks -/

/-- Between two states some users are marked, and nothing else happens to the pending changes: the
users marked have numbers that were not given before, the others have the numbers they had. -/
structure Advances (earlier : Engine) (users : List String) (later : Engine) : Prop where
  /-- Numbers are given in ascending order. -/
  lastMark_le : earlier.lastMark ≤ later.lastMark
  /-- Users without a mark keep their number. -/
  kept : ∀ user, user ∉ users → later.pending.find? user = earlier.pending.find? user
  /-- Users with a mark have a new number. -/
  fresh : ∀ user, user ∈ users → ∃ number, later.pending.find? user = some number ∧
    earlier.lastMark < number ∧ number ≤ later.lastMark

namespace Advances

variable {engine earlier middle later : Engine} {users others : List String}

/-- Nobody is marked where the pending changes stay the same. -/
theorem of_eq (pending : later.pending = earlier.pending)
    (lastMark : later.lastMark = earlier.lastMark) : Advances earlier [] later where
  lastMark_le := Nat.le_of_eq lastMark.symm
  kept := fun user _ => congrArg (SortedMap.find? · user) pending
  fresh := fun _ inside => absurd inside List.not_mem_nil

theorem refl : Advances engine [] engine := of_eq rfl rfl

theorem trans (first : Advances earlier users middle) (second : Advances middle others later) :
    Advances earlier (users ++ others) later where
  lastMark_le := Nat.le_trans first.lastMark_le second.lastMark_le
  kept := by
    intro user unmarked
    rw [List.mem_append, not_or] at unmarked
    rw [second.kept user unmarked.2, first.kept user unmarked.1]
  fresh := by
    intro user marked
    by_cases again : user ∈ others
    · obtain ⟨number, found, above, below⟩ := second.fresh user again
      exact ⟨number, found, Nat.lt_of_le_of_lt first.lastMark_le above, below⟩
    · have before := (List.mem_append.mp marked).resolve_right again
      obtain ⟨number, found, above, below⟩ := first.fresh user before
      exact ⟨number, (second.kept user again).trans found, above,
        Nat.le_trans below second.lastMark_le⟩

/-- Only which users are marked matters. -/
theorem of_mem_iff (advances : Advances earlier users later)
    (same : ∀ user, user ∈ users ↔ user ∈ others) : Advances earlier others later where
  lastMark_le := advances.lastMark_le
  kept := fun user unmarked => advances.kept user fun marked => unmarked ((same user).mp marked)
  fresh := fun user marked => advances.fresh user ((same user).mpr marked)

theorem mark (user : String) : Advances engine [user] (engine.mark user) where
  lastMark_le := Nat.le_succ _
  kept := by
    intro other unmarked
    rw [List.mem_singleton] at unmarked
    exact (SortedMap.find?_insert _ _ _ _).trans (if_neg unmarked)
  fresh := by
    intro other marked
    rw [List.mem_singleton] at marked
    exact ⟨engine.lastMark + 1, (SortedMap.find?_insert _ _ _ _).trans (if_pos marked),
      Nat.lt_succ_self _, Nat.le_refl _⟩

theorem markAll (users : List String) : Advances engine users (engine.markAll users) := by
  induction users generalizing engine with
  | nil => exact refl
  | cons user rest ih => exact trans (mark user) ih

theorem mem_pendingUsers (advances : Advances earlier users later) {user : String} :
    user ∈ later.pendingUsers ↔ user ∈ earlier.pendingUsers ∨ user ∈ users := by
  rw [Engine.mem_pendingUsers, Engine.mem_pendingUsers]
  by_cases marked : user ∈ users
  · obtain ⟨number, found, -, -⟩ := advances.fresh user marked
    simp [marked, found]
  · simp [marked, advances.kept user marked]

end Advances

/-- No number is above the latest one. -/
def Numbered (engine : Engine) : Prop :=
  ∀ user number, engine.pending.find? user = some number → number ≤ engine.lastMark

theorem Numbered.of_advances {earlier later : Engine} {users : List String}
    (numbered : Numbered earlier) (advances : Advances earlier users later) : Numbered later := by
  intro user number found
  by_cases marked : user ∈ users
  · obtain ⟨given, found', -, below⟩ := advances.fresh user marked
    rw [found'] at found
    cases found
    exact below
  · rw [advances.kept user marked] at found
    exact Nat.le_trans (numbered user number found) advances.lastMark_le

theorem numbered_resume (config : Configuration) (snapshot : Snapshot) :
    Numbered (resume config snapshot) := by
  refine Numbered.of_advances ?_ (Advances.markAll _)
  intro user number found
  cases found

/-- Everybody with choices is marked at the start, and nobody else. -/
theorem mem_pendingUsers_resume {config : Configuration} {snapshot : Snapshot} {user : String} :
    user ∈ (resume config snapshot).pendingUsers
      ↔ user ∈ (resume config snapshot).choices.users := by
  have nobody : ∀ engine : Engine, engine.pending = .empty → user ∉ engine.pendingUsers := by
    intro engine none inside
    rw [pendingUsers, none] at inside
    cases inside
  rw [resume, (Advances.markAll _).mem_pendingUsers, markAll_choices]
  exact or_iff_right (nobody _ rfl)

namespace Machine

/-- Except for clearing and restarting, an action does nothing to the changes but mark users. -/
theorem Transition.advances {machine next : Machine} {action : Action}
    (transition : Transition machine action next) (uncleared : action.isClear = false)
    (lasting : action.isRestart = false) :
    Advances machine.engine (machine.marks action) next.engine := by
  cases transition with
  | @record engine later phase user group selection last accepted =>
      obtain ⟨allowed, rfl, -⟩ := record_eq_ok_iff.mp accepted
      have stored : Advances engine [] { engine with
          choices := engine.choices.store user group selection engine.config.defaultSelection } :=
        Advances.of_eq rfl rfl
      simp only [marks, allowed]
      exact stored.trans (Advances.mark user)
  | refuse refused =>
      simp only [marks, record_eq_error_iff.mp refused]
      exact Advances.refl
  | @reset engine =>
      have restored : Advances engine [] { engine with choices := engine.config.initialChoices } :=
        Advances.of_eq rfl rfl
      refine (restored.trans (Advances.markAll _)).of_mem_iff fun user => ?_
      simp only [marks, List.nil_append, List.mem_append, SortedSet.mem_toList,
        SortedSet.mem_union, Choices.users]
  | clear => cases uncleared
  | restart => cases lasting
  | start | rest | answer | abandon | publish => exact Advances.of_eq rfl rfl

/-- An action after which there still is a compilation under way does nothing to the changes but
mark users. -/
theorem Transition.advances_or_idle {machine next : Machine} {action : Action}
    (transition : Transition machine action next) :
    Advances machine.engine (machine.marks action) next.engine ∨ next.phase = .idle := by
  cases cleared : action.isClear with
  | true =>
      cases transition with
      | clear => exact Or.inr rfl
      | record | refuse | reset | start | rest | answer | abandon | publish | restart =>
          cases cleared
  | false =>
      cases restarted : action.isRestart with
      | false => exact Or.inl (transition.advances cleared restarted)
      | true =>
          cases transition with
          | restart => exact Or.inr rfl
          | record | refuse | reset | start | rest | answer | abandon | publish | clear =>
              cases restarted

end Machine

end Engine

end CollectiveChoice
