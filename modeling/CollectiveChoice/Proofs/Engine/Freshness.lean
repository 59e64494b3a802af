import CollectiveChoice.Proofs.Engine.Publication

/-!
# No choice is lost

A compilation takes its time, and choices are made meanwhile.  Whoever has other selections now than
the latest published compilation took in has pending changes (`pending_of_choices_ne`): the next
compilation will not be skipped, and it takes the change in.

So the pending changes tell whether readers see the present choices.  Where there are none, the
program that was sent last is the program for the present choices, and where a compilation is made
before every read, what is read comes from choices that were the present ones while it was waited
for.
-/

namespace CollectiveChoice

set_option autoImplicit false

namespace Engine

namespace Machine

namespace LatestPublication

variable {origin begun last : Machine} {actions since : List Action} {attempt : Attempt}

/-- The run goes on from the beginning of the compilation. -/
theorem run_since (latest : LatestPublication origin actions begun attempt since)
    (run : origin.run? actions = some last) : begun.run? since = some last := by
  obtain ⟨earlier, rfl, reached⟩ := latest.reached
  obtain ⟨begun', reached', run⟩ := run?_append_eq_some_iff.mp run
  cases reached.symm.trans reached'
  exact run

theorem lasting_since (latest : LatestPublication origin actions begun attempt since)
    (lasting : ∀ action ∈ actions, action.isRestart = false) :
    ∀ action ∈ since, action.isRestart = false := by
  obtain ⟨earlier, rfl, -⟩ := latest.reached
  exact fun action inside => lasting action (List.mem_append_right _ inside)

/-- Users who were not marked since have the selections that were taken in. -/
theorem choices_of_not_marked (latest : LatestPublication origin actions begun attempt since)
    (run : origin.run? actions = some last)
    (lasting : ∀ action ∈ actions, action.isRestart = false) {user : String}
    (unmarked : user ∉ begun.marked since) :
    last.engine.choices.find? user = attempt.choices.find? user := by
  rw [(taken_of_begin? latest.begins).1]
  exact Machine.choices_of_not_marked (latest.run_since run) (latest.lasting_since lasting) unmarked

theorem config_eq (latest : LatestPublication origin actions begun attempt since)
    (lasting : ∀ action ∈ actions, action.isRestart = false) :
    begun.engine.config = origin.engine.config := by
  obtain ⟨earlier, rfl, reached⟩ := latest.reached
  exact config_of_run reached fun action inside => lasting action (List.mem_append_left _ inside)

/-- Whoever has other selections than were taken in has pending changes. -/
theorem mem_pendingUsers_of_ne (latest : LatestPublication origin actions begun attempt since)
    (numbered : Numbered origin.engine) (run : origin.run? actions = some last)
    (lasting : ∀ action ∈ actions, action.isRestart = false) {user : String}
    (different : last.engine.choices.find? user ≠ attempt.choices.find? user) :
    user ∈ last.engine.pendingUsers := by
  by_contra quiet
  apply different
  apply latest.choices_of_not_marked run lasting
  intro marked
  exact quiet (latest.mem_pendingUsers numbered run lasting marked)

/-- Where nobody has pending changes, the program that was sent is the present one. -/
theorem encoding_eq (latest : LatestPublication origin actions begun attempt since)
    (numbered : Numbered origin.engine) (run : origin.run? actions = some last)
    (lasting : ∀ action ∈ actions, action.isRestart = false)
    (quiet : last.engine.pendingUsers = []) :
    last.engine.encoding = (begun.engine.requestFor attempt).program := by
  have same : last.engine.choices = attempt.choices := by
    apply SortedMap.ext_find?
    intro user
    by_contra different
    have pending := latest.mem_pendingUsers_of_ne numbered run lasting different
    rw [quiet] at pending
    cases pending
  rw [encoding, same, config_of_run run lasting, ← latest.config_eq lasting]
  rfl

/-- What readers see in the end comes from the solutions found for the compilation. -/
theorem outcome_eq (latest : LatestPublication origin actions begun attempt since)
    (run : origin.run? actions = some last)
    (lasting : ∀ action ∈ actions, action.isRestart = false) :
    ∃ during moment later solutions,
      since = .start attempt.forced :: (during ++ .publish moment :: later) ∧
        .answer solutions ∈ during ∧ (∀ action ∈ during, action.isStart = false) ∧
        last.engine.outcome = outcomeOf begun.engine.config moment solutions := by
  have run := latest.run_since run
  have lasting := latest.lasting_since lasting
  obtain ⟨during, moment, later, rfl, others, unpublished⟩ := latest.published
  obtain ⟨engine, solutions, answered, rest⟩ := exists_published latest.begins others run
  obtain ⟨next, opens, -⟩ := run?_cons_eq_some_iff.mp run
  have found : .answer solutions ∈ during :=
    (List.mem_cons.mp (answer_mem_of_run answered opens.idle_of_start rfl)).resolve_left nofun
  have same : engine.config = begun.engine.config :=
    config_of_run answered fun action inside => lasting action (by
      rw [← List.cons_append]
      exact List.mem_append_left _ inside)
  refine ⟨during, moment, later, solutions, rfl, found, others, ?_⟩
  rw [outcome_of_run rest unpublished fun action inside => lasting action (by simp [inside]),
    ← same]
  rfl

/-- A list cut at one member, and again at a different one that does not come before it. -/
theorem exists_of_append_cons_eq {α : Type} {first second : α} {before after start rest : List α}
    (different : first ≠ second) (absent : second ∉ before)
    (same : before ++ first :: after = start ++ second :: rest) :
    ∃ between, start = before ++ first :: between ∧ after = between ++ second :: rest := by
  induction before generalizing start with
  | nil =>
      cases start with
      | nil => exact absurd (List.cons.inj same).1 different
      | cons head between =>
          obtain ⟨rfl, rfl⟩ := List.cons.inj same
          exact ⟨between, rfl, rfl⟩
  | cons head before ih =>
      cases start with
      | nil => exact absurd (List.mem_cons.mpr (Or.inl (List.cons.inj same).1.symm)) absent
      | cons head' start =>
          obtain ⟨rfl, tails⟩ := List.cons.inj same
          obtain ⟨between, rfl, rfl⟩ := ih (fun inside => absent (List.mem_cons_of_mem _ inside))
            tails
          exact ⟨between, rfl, rfl⟩

/-- Where a run is cut before a compilation is begun, or found needless, the compilation published
last either began in the second part or was published in the first one. -/
theorem begun_later_or_published_earlier {called : Machine} {before waiting : List Action}
    {forced : Bool}
    (latest : LatestPublication origin (before ++ .start forced :: waiting) begun attempt since)
    (reached : origin.run? before = some called) :
    (∃ earlier, .start forced :: waiting = earlier ++ since ∧ called.run? earlier = some begun) ∨
      ∃ done, LatestPublication origin before begun attempt done ∧
        ∀ action ∈ waiting, action.isPublication = false := by
  obtain ⟨⟨earlier, cut, toBegun⟩, begins, during, moment, later, rfl, others, unpublished⟩ := latest
  rcases List.append_eq_append_iff.mp cut with ⟨passed, rfl, rest⟩ | ⟨done, rfl, rest⟩
  · obtain ⟨called', reached', run⟩ := run?_append_eq_some_iff.mp toBegun
    cases reached.symm.trans reached'
    exact Or.inl ⟨passed, rest, run⟩
  · cases done with
    | nil =>
        rw [List.append_nil] at reached
        cases toBegun.symm.trans reached
        exact Or.inl ⟨[], rest.symm, rfl⟩
    | cons first done =>
        obtain ⟨rfl, tails⟩ := List.cons.inj rest
        have absent : .start forced ∉ during := fun inside => by
          have impossible := others _ inside
          cases impossible
        have different : Action.publish moment ≠ .start forced := nofun
        obtain ⟨after, rfl, rfl⟩ := exists_of_append_cons_eq different absent tails
        refine Or.inr ⟨_, ⟨⟨earlier, rfl, toBegun⟩, begins, during, moment, after, rfl, others, ?_⟩,
          ?_⟩
        · exact fun action inside => unpublished action (by simp [inside])
        · exact fun action inside => unpublished action (by simp [inside])

end LatestPublication

/-- A compilation made before a read, begun in the state `called`, is over after the actions
`waiting`: it has found nothing to do, or its solutions are published and its changes cleared. -/
structure Refreshed (called : Machine) (waiting : List Action) : Prop where
  /-- A compilation is made before every read. -/
  direct : called.engine.config.global.compilation = .directAccess
  /-- The compilation is over, and has not failed. -/
  finished : called.engine.begin? false = none ∨
    ∃ during moment between later,
      waiting = during ++ .publish moment :: (between ++ .clear :: later) ∧
        ∀ action ∈ during, action.isStart = false

/-- What is read after a compilation made for the read comes from choices that were the present ones
at some point of the call. -/
theorem Refreshed.exists_seen {origin called begun last : Machine} {before waiting since : List Action}
    {attempt : Attempt} (refreshed : Refreshed called waiting)
    (latest : LatestPublication origin (before ++ .start false :: waiting) begun attempt since)
    (numbered : Numbered origin.engine) (reached : origin.run? before = some called)
    (run : called.run? (.start false :: waiting) = some last)
    (lasting : ∀ action ∈ before, action.isRestart = false) :
    ∃ earlier later seen, .start false :: waiting = earlier ++ later ∧
      called.run? earlier = some seen ∧ seen.run? later = some last ∧
      attempt.choices = seen.engine.choices := by
  rcases latest.begun_later_or_published_earlier reached with
    ⟨earlier, cut, toBegun⟩ | ⟨done, published, unpublished⟩
  · rw [cut, run?_append, toBegun] at run
    exact ⟨earlier, since, begun, cut, toBegun, run, (taken_of_begin? latest.begins).1⟩
  · -- Nothing was published during the call, so there was nothing to do when it was made.
    have nothing : called.engine.begin? false = none := by
      rcases refreshed.finished with nothing | ⟨during, moment, between, later, rfl, -⟩
      · exact nothing
      · have impossible := unpublished (.publish moment) (by simp)
        cases impossible
    refine ⟨[], _, called, rfl, rfl, run, SortedMap.ext_find? fun user => ?_⟩
    by_contra different
    have pending := published.mem_pendingUsers_of_ne numbered reached lasting (Ne.symm different)
    rw [(begin?_eq_none_iff.mp nothing).1] at pending
    cases pending

/-- **No choice is lost.**  After a publication, whoever has other selections than the latest
published compilation took in, or has selections in only one of the two, has pending changes.  So
where nobody has, the program that was sent is the one for the present choices.  What is read after
a compilation made for the read comes from choices that were the present ones at some point of the
call, and still are if nobody was marked meanwhile. -/
theorem pending_of_choices_ne {config : Configuration} {snapshot : Snapshot} {last : Machine}
    {actions : List Action} (run : (resume config snapshot).run? actions = some last)
    (lasting : ∀ action ∈ actions, action.isRestart = false)
    (published : ∃ action ∈ actions, action.isPublication = true) :
    ∃ begun attempt since,
      LatestPublication (resume config snapshot) actions begun attempt since ∧
      (∀ user, last.engine.choices.find? user ≠ attempt.choices.find? user →
        user ∈ last.engine.pendingUsers) ∧
      (last.engine.pendingUsers = [] →
        last.engine.encoding = (begun.engine.requestFor attempt).program) ∧
      (∃ during moment later solutions,
        since = .start attempt.forced :: (during ++ .publish moment :: later) ∧
          .answer solutions ∈ during ∧ (∀ action ∈ during, action.isStart = false) ∧
          last.engine.outcome = outcomeOf config moment solutions) ∧
      ∀ before called waiting, actions = before ++ .start false :: waiting →
        (resume config snapshot).run? before = some called → Refreshed called waiting →
          ∃ earlier later seen, .start false :: waiting = earlier ++ later ∧
            called.run? earlier = some seen ∧ attempt.choices = seen.engine.choices ∧
            (called.marked (.start false :: waiting) = [] →
              attempt.choices = last.engine.choices) := by
  have numbered := numbered_resume config snapshot
  obtain ⟨begun, attempt, since, latest⟩ := exists_latestPublication run rfl published
  have configured : begun.engine.config = config :=
    (latest.config_eq lasting).trans (resume_config config snapshot)
  refine ⟨begun, attempt, since, latest, ?_, ?_, ?_, ?_⟩
  · intro user different
    exact latest.mem_pendingUsers_of_ne numbered run lasting different
  · exact latest.encoding_eq numbered run lasting
  · rw [← configured]
    exact latest.outcome_eq run lasting
  · rintro before called waiting rfl reached refreshed
    rw [run?_append, reached] at run
    obtain ⟨earlier, later, seen, cut, toSeen, toLast, copied⟩ :=
      refreshed.exists_seen latest numbered reached run
        fun action inside => lasting action (List.mem_append_left _ inside)
    refine ⟨earlier, later, seen, cut, toSeen, copied, fun unmarked => ?_⟩
    rw [cut, marked_append toSeen, List.append_eq_nil_iff] at unmarked
    rw [copied]
    refine (choices_of_marked_eq_nil toLast (fun action inside => ?_) unmarked.2).symm
    apply lasting
    apply List.mem_append_right
    rw [cut]
    exact List.mem_append_right _ inside

/-- A guest of the canteen who changes a choice while the solver works. -/
def lateChoice : List Action := [
  .record "anna" 0 (.ofList ["soup"]), .start false, .record "anna" 0 (.ofList ["rice"]),
  .answer [], .publish noon, .clear]

theorem canteen_pending_of_choices_ne :
    ∃ last begun attempt since, (resume canteen .empty).run? lateChoice = some last ∧
      LatestPublication (resume canteen .empty) lateChoice begun attempt since ∧
      ∀ user, last.engine.choices.find? user ≠ attempt.choices.find? user →
        user ∈ last.engine.pendingUsers := by
  obtain ⟨begun, attempt, since, latest, pending, -⟩ :=
    @pending_of_choices_ne canteen .empty _ lateChoice rfl (by decide) (by decide)
  exact ⟨_, begun, attempt, since, rfl, latest, pending⟩

end Machine

end Engine

end CollectiveChoice
