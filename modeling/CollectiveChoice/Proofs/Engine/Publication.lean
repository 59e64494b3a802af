import CollectiveChoice.Proofs.Engine.Marks

/-!
# The latest publication of a run

Who has pending changes depends on one place of a run: the beginning of the compilation that was
published last.  As long as nothing is published, everybody who was pending at the start or was
marked since is pending (`owes_of_unpublished`).  From a publication on, everybody who was marked
since its beginning is pending, and once it is cleared nobody else is (`LatestPublication.settles`).

The argument is on numbers.  What a compilation takes in has numbers that were given before it
began; whoever is marked while it is under way gets a greater one, so that clearing lets exactly
these marks stand (`mem_pendingUsers_clear`).
-/

namespace CollectiveChoice

set_option autoImplicit false

namespace Engine

/-- Clearing what was taken in leaves exactly the users marked since. -/
theorem mem_pendingUsers_clear {begun later : Engine} {users : List String} {attempt : Attempt}
    (numbered : Numbered begun) (advances : Advances begun users later)
    (taken : attempt.pending = begun.pending) {user : String} :
    user ∈ (later.clear attempt).pendingUsers ↔ user ∈ users := by
  have cleared : (later.clear attempt).pending.find? user = (later.pending.find? user).filter
      fun number => begun.pending.find? user != some number := by
    rw [← taken]
    exact SortedMap.find?_filter _ _ _
  rw [mem_pendingUsers, cleared, Option.isSome_iff_exists]
  by_cases marked : user ∈ users
  · obtain ⟨number, found, above, -⟩ := advances.fresh user marked
    refine iff_of_true ⟨number, Option.filter_eq_some_iff.mpr ⟨found, ?_⟩⟩ marked
    rw [bne_iff_ne]
    intro old
    exact absurd (numbered user number old) (Nat.not_le_of_lt above)
  · refine iff_of_false ?_ marked
    rintro ⟨number, kept⟩
    obtain ⟨found, different⟩ := Option.filter_eq_some_iff.mp kept
    rw [advances.kept user marked] at found
    simp [found] at different

namespace Machine

/-- Numbers are never above the latest one. -/
theorem numbered_of_run {first last : Machine} {actions : List Action}
    (run : first.run? actions = some last) (numbered : Numbered first.engine) :
    Numbered last.engine := by
  refine run?_preserves (fun machine => Numbered machine.engine) ?_ run numbered
  intro action _ machine next transition before
  have advances := transition.advances
  cases transition with
  | clear =>
      intro user number found
      obtain ⟨found, -⟩ := Option.filter_eq_some_iff.mp
        ((SortedMap.find?_filter _ _ _).symm.trans found)
      exact before user number found
  | restart => exact numbered_resume _ _
  | record | refuse | reset | start | rest | answer | abandon | publish =>
      exact before.of_advances (advances rfl rfl)

/-! ## Until a publication -/

/-- No compilation waits for its changes to be cleared, and the users with pending changes are the
given ones. -/
structure Owes (users : List String) (machine : Machine) : Prop where
  uncleared : ∀ attempt, machine.phase ≠ .published attempt
  mem_pendingUsers : ∀ user, user ∈ machine.engine.pendingUsers ↔ user ∈ users

/-- Unless it publishes, an action adds the users it marks to those with pending changes. -/
theorem Owes.of_transition {users : List String} {machine next : Machine} {action : Action}
    (owes : Owes users machine) (transition : Transition machine action next)
    (unpublished : action.isPublication = false) (lasting : action.isRestart = false) :
    Owes (users ++ machine.marks action) next where
  uncleared := by
    intro attempt published
    cases transition with
    | publish => cases unpublished
    | start | rest | answer | abandon | clear | restart => cases published
    | record | refuse | reset => exact owes.uncleared attempt published
  mem_pendingUsers := by
    have other : action.isClear = false := by
      cases transition with
      | clear => exact absurd rfl (owes.uncleared _)
      | record | refuse | reset | start | rest | answer | abandon | publish | restart => rfl
    intro user
    rw [(transition.advances other lasting).mem_pendingUsers, owes.mem_pendingUsers,
      List.mem_append]

theorem Owes.of_run {users : List String} {first last : Machine} {actions : List Action}
    (owes : Owes users first) (run : first.run? actions = some last)
    (unpublished : ∀ action ∈ actions, action.isPublication = false)
    (lasting : ∀ action ∈ actions, action.isRestart = false) :
    Owes (users ++ first.marked actions) last := by
  refine run?_accumulates Owes users ?_ run owes
  intro action inside before machine next transition owes
  exact owes.of_transition transition (unpublished action inside) (lasting action inside)

/-- As long as nothing is published, the users with pending changes are those who had some at the
start and those marked since. -/
theorem owes_of_unpublished {origin last : Machine} {actions : List Action}
    (idle : origin.phase = .idle) (run : origin.run? actions = some last)
    (unpublished : ∀ action ∈ actions, action.isPublication = false)
    (lasting : ∀ action ∈ actions, action.isRestart = false) :
    Owes (origin.engine.pendingUsers ++ origin.marked actions) last := by
  have start : Owes origin.engine.pendingUsers origin := by
    refine ⟨fun attempt published => ?_, fun user => Iff.rfl⟩
    rw [idle] at published
    cases published
  exact start.of_run run unpublished lasting

/-! ## From a publication on -/

/-- The latest publication of a run: the compilation `attempt` was begun in the state `begun`, and
the actions from its beginning on are `since`. -/
structure LatestPublication (origin : Machine) (actions : List Action) (begun : Machine)
    (attempt : Attempt) (since : List Action) : Prop where
  /-- The run passes through the beginning. -/
  reached : ∃ earlier, actions = earlier ++ since ∧ origin.run? earlier = some begun
  /-- The compilation takes in what there is at its beginning. -/
  begins : begun.engine.begin? attempt.forced = some attempt
  /-- No other compilation is begun before the publication, and nothing is published after it. -/
  published : ∃ during moment later,
    since = .start attempt.forced :: (during ++ .publish moment :: later) ∧
      (∀ action ∈ during, action.isStart = false) ∧
      ∀ action ∈ later, action.isPublication = false

/-- A list of actions with a publication in it has a last one. -/
theorem exists_last_publication {actions : List Action}
    (published : ∃ action ∈ actions, action.isPublication = true) :
    ∃ earlier moment later, actions = earlier ++ .publish moment :: later ∧
      ∀ action ∈ later, action.isPublication = false := by
  induction actions with
  | nil => simp at published
  | cons action rest ih =>
      by_cases again : ∃ other ∈ rest, other.isPublication = true
      · obtain ⟨earlier, moment, later, rfl, none⟩ := ih again
        exact ⟨action :: earlier, moment, later, rfl, none⟩
      · have none : ∀ other ∈ rest, other.isPublication = false := by simpa using again
        obtain ⟨other, inside, publishes⟩ := published
        rcases List.mem_cons.mp inside with rfl | deeper
        · cases other with
          | publish moment => exact ⟨[], moment, rest, rfl, none⟩
          | record | reset | start | answer | abandon | clear | restart => cases publishes
        · exact absurd ⟨other, deeper, publishes⟩ again

/-- A run with a publication in it has a latest one. -/
theorem exists_latestPublication {origin last : Machine} {actions : List Action}
    (run : origin.run? actions = some last) (idle : origin.phase = .idle)
    (published : ∃ action ∈ actions, action.isPublication = true) :
    ∃ begun attempt since, LatestPublication origin actions begun attempt since := by
  obtain ⟨earlier, moment, later, rfl, none⟩ := exists_last_publication published
  obtain ⟨middle, run, rest⟩ := run?_append_eq_some_iff.mp run
  obtain ⟨next, transition, -⟩ := run?_cons_eq_some_iff.mp rest
  cases transition with
  | @publish engine attempt solutions =>
      obtain ⟨before, begun, during, rfl, reached, begins, others⟩ := exists_begin run idle rfl
      refine ⟨begun, attempt, .start attempt.forced :: (during ++ .publish moment :: later),
        ⟨before, ?_, reached⟩, begins, during, moment, later, rfl, others, none⟩
      rw [List.append_assoc, List.cons_append]

/-- While the compilation begun first is under way, the run does nothing to the changes but mark
users. -/
theorem advances_of_run {first last : Machine} {actions : List Action}
    (run : first.run? actions = some last) (others : ∀ action ∈ actions, action.isStart = false)
    (under : last.phase.attempt? ≠ none) :
    Advances first.engine (first.marked actions) last.engine := by
  have either : last.phase.attempt? = none ∨
      Advances first.engine (first.marked actions) last.engine := by
    refine run?_accumulates (fun users machine => machine.phase.attempt? = none ∨
      Advances first.engine users machine.engine) [] ?_ run (Or.inr Advances.refl)
    intro action inside users machine next transition before
    rcases before with none | advances
    · -- Without a compilation under way, there is none until one is begun.
      exact Or.inl ((transition.attempt?_eq (others action inside)).elim (·.trans none) id)
    · rcases transition.advances_or_idle with further | idle
      · exact Or.inr (advances.trans further)
      · rw [idle]
        exact Or.inl rfl
  exact either.resolve_left under

/-- From the beginning of a compilation on, as long as it is under way, the run does nothing to the
changes it took in but mark users. -/
theorem advances_of_begin {begun last : Machine} {attempt : Attempt} {during : List Action}
    (begins : begun.engine.begin? attempt.forced = some attempt)
    (others : ∀ action ∈ during, action.isStart = false)
    (run : begun.run? (.start attempt.forced :: during) = some last)
    (under : last.phase.attempt? ≠ none) :
    Advances begun.engine (begun.marked (.start attempt.forced :: during)) last.engine := by
  obtain ⟨opened, starts, run⟩ := run?_cons_eq_some_iff.mp run
  rw [marked_cons starts]
  cases starts with
  | rest nothing => cases nothing.symm.trans begins
  | start => exact Advances.refl.trans (advances_of_run run others under)

/-- A compilation that is published, from its beginning on: solutions are found for it, and the run
goes on from their publication. -/
theorem exists_published {begun last : Machine} {attempt : Attempt} {during later : List Action}
    {moment : Moment} (begins : begun.engine.begin? attempt.forced = some attempt)
    (others : ∀ action ∈ during, action.isStart = false)
    (run : begun.run? (.start attempt.forced :: (during ++ .publish moment :: later)) = some last) :
    ∃ engine solutions,
      begun.run? (.start attempt.forced :: during) = some ⟨engine, .answered attempt solutions⟩ ∧
        Machine.run? ⟨engine.publish attempt moment solutions, .published attempt⟩ later
          = some last := by
  obtain ⟨opened, starts, run⟩ := run?_cons_eq_some_iff.mp run
  obtain ⟨middle, toMiddle, run⟩ := run?_append_eq_some_iff.mp run
  obtain ⟨next, publishes, run⟩ := run?_cons_eq_some_iff.mp run
  cases starts with
  | rest nothing => cases nothing.symm.trans begins
  | start copied =>
      cases Option.some.inj (copied.symm.trans begins)
      cases publishes with
      | @publish engine published solutions =>
          have same : some published = some attempt :=
            (attempt?_of_run toMiddle others).resolve_right nofun
          cases same
          exact ⟨engine, solutions, run?_cons_eq_some_iff.mpr ⟨_, .start begins, toMiddle⟩, run⟩

/-- The marks of a run with a publication in it are those before and those after it. -/
theorem marked_of_publish {begun : Machine} {engine : Engine} {attempt : Attempt}
    {solutions : List Solution} {during : List Action}
    (answered : begun.run? (.start attempt.forced :: during)
      = some ⟨engine, .answered attempt solutions⟩) (moment : Moment) (later : List Action) :
    begun.marked (.start attempt.forced :: (during ++ .publish moment :: later))
      = begun.marked (.start attempt.forced :: during) ++
        Machine.marked ⟨engine.publish attempt moment solutions, .published attempt⟩ later := by
  rw [← List.cons_append, marked_append answered, marked_cons .publish]
  rfl

/-- After a publication either its changes wait to be cleared, and the users marked since its
beginning have new numbers, or they are cleared, and these users are the ones with pending
changes. -/
theorem LatestPublication.settles {origin begun last : Machine} {actions since : List Action}
    {attempt : Attempt} (latest : LatestPublication origin actions begun attempt since)
    (numbered : Numbered origin.engine) (run : origin.run? actions = some last)
    (lasting : ∀ action ∈ actions, action.isRestart = false) :
    (last.phase = .published attempt ∧
        Advances begun.engine (begun.marked since) last.engine) ∨
      Owes (begun.marked since) last := by
  obtain ⟨⟨earlier, rfl, reached⟩, begins, during, moment, later, rfl, others, unpublished⟩ :=
    latest
  obtain ⟨begun', reached', run⟩ := run?_append_eq_some_iff.mp run
  cases reached.symm.trans reached'
  obtain ⟨engine, solutions, answered, rest⟩ := exists_published begins others run
  have advances := advances_of_begin begins others answered nofun
  have published : Advances engine [] (engine.publish attempt moment solutions) :=
    Advances.of_eq rfl rfl
  rw [marked_of_publish answered]
  refine run?_accumulates (fun users machine =>
    (machine.phase = .published attempt ∧ Advances begun.engine users machine.engine) ∨
      Owes users machine) _ ?_ rest (Or.inl ⟨rfl, by simpa using advances.trans published⟩)
  intro action inside users machine next transition before
  have within : action ∈ earlier ++ .start attempt.forced :: (during ++ .publish moment :: later) :=
    by simp [inside]
  rcases before with ⟨phase, advances⟩ | owes
  · have further := transition.advances
    cases transition with
    | clear =>
        cases phase
        refine Or.inr ⟨fun other impossible => ?_, fun user => ?_⟩
        · cases impossible
        · rw [mem_pendingUsers_clear (numbered_of_run reached numbered) advances
            (taken_of_begin? begins).2]
          simp [marks]
    | record | refuse | reset => exact Or.inl ⟨phase, advances.trans (further rfl rfl)⟩
    | start | rest | answer | abandon | publish | restart => cases phase
  · exact Or.inr (owes.of_transition transition (unpublished action inside)
      (lasting action within))

/-- After a publication everybody marked since its beginning has pending changes. -/
theorem LatestPublication.mem_pendingUsers {origin begun last : Machine}
    {actions since : List Action} {attempt : Attempt}
    (latest : LatestPublication origin actions begun attempt since)
    (numbered : Numbered origin.engine) (run : origin.run? actions = some last)
    (lasting : ∀ action ∈ actions, action.isRestart = false) {user : String}
    (marked : user ∈ begun.marked since) : user ∈ last.engine.pendingUsers := by
  rcases latest.settles numbered run lasting with ⟨-, advances⟩ | owes
  · exact advances.mem_pendingUsers.mpr (Or.inr marked)
  · exact (owes.mem_pendingUsers user).mpr marked

end Machine

end Engine

end CollectiveChoice
