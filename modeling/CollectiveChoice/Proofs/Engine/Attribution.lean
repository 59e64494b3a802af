import CollectiveChoice.Proofs.Engine.Publication

/-!
# Whose changes an entry of the history names

An entry of the history names the users whose changes its compilation took in.  These are the users
marked since the beginning of the compilation published before, or since the start where there is
none (`Due`), and nobody else, whatever was begun and failed in between
(`changedUsers_of_publish`).  The beginnings of published compilations cut a run into pieces, so
every mark is named by one entry: a user marked while the solver works is named by the next one.

Where nobody is marked from the beginning of a published compilation on, nothing is left to do
(`Quiet`).  Compilations that waited for it find no changes: they ask no solver and leave no entry.
-/

namespace CollectiveChoice

set_option autoImplicit false

namespace Engine

namespace Machine

/-! ## Who is to be named -/

/-- The users a compilation begun after the given actions has to name: those marked since the
beginning of the latest published one, or, before there is any, those with changes at the start and
those marked since. -/
inductive Due (origin : Machine) (before : List Action) : List String → Prop where
  | first (unpublished : ∀ action ∈ before, action.isPublication = false) :
      Due origin before (origin.engine.pendingUsers ++ origin.marked before)
  | later {begun : Machine} {attempt : Attempt} {since : List Action}
      (latest : LatestPublication origin before begun attempt since) :
      Due origin before (begun.marked since)

/-- Where no compilation is under way, the users to be named are the ones with pending changes. -/
theorem exists_due {origin last : Machine} {actions : List Action}
    (numbered : Numbered origin.engine) (start : origin.phase = .idle)
    (run : origin.run? actions = some last)
    (lasting : ∀ action ∈ actions, action.isRestart = false) (idle : last.phase = .idle) :
    ∃ due, Due origin actions due ∧ ∀ user, user ∈ last.engine.pendingUsers ↔ user ∈ due := by
  by_cases published : ∃ action ∈ actions, action.isPublication = true
  · obtain ⟨begun, attempt, since, latest⟩ := exists_latestPublication run start published
    refine ⟨begun.marked since, .later latest, ?_⟩
    rcases latest.settles numbered run lasting with ⟨uncleared, -⟩ | owes
    · rw [idle] at uncleared
      cases uncleared
    · exact owes.mem_pendingUsers
  · have unpublished : ∀ action ∈ actions, action.isPublication = false := by
      simpa using published
    have owes := owes_of_unpublished start run unpublished lasting
    exact ⟨_, .first unpublished, owes.mem_pendingUsers⟩

/-! ## Nothing to do -/

/-- Since a compilation was begun in the state `begun`, nobody was marked: it waits to be cleared,
or it is cleared and there are no pending changes. -/
def Quiet (begun : Machine) (attempt : Attempt) (machine : Machine) : Prop :=
  (machine.phase = .published attempt ∧ Advances begun.engine [] machine.engine) ∨
    (machine.phase = .idle ∧ machine.engine.pendingUsers = [])

/-- Nothing that marks nobody and forces nothing ends the quiet or adds to the history. -/
theorem Quiet.of_transition {begun machine next : Machine} {attempt : Attempt} {action : Action}
    (quiet : Quiet begun attempt machine) (numbered : Numbered begun.engine)
    (taken : attempt.pending = begun.engine.pending) (transition : Transition machine action next)
    (lasting : action.isRestart = false) (unforced : action ≠ .start true)
    (unmarked : machine.marks action = []) :
    Quiet begun attempt next ∧ next.engine.history = machine.engine.history := by
  have published_or_idle : machine.phase = .published attempt ∨ machine.phase = .idle :=
    quiet.imp And.left And.left
  -- A change of the engine that marks nobody, with the phase as it was.
  have settled : next.phase = machine.phase → action.isClear = false →
      next.engine.history = machine.engine.history →
        Quiet begun attempt next ∧ next.engine.history = machine.engine.history := by
    intro phase uncleared history
    have advances := transition.advances uncleared lasting
    rw [unmarked] at advances
    refine ⟨?_, history⟩
    rcases quiet with ⟨published, since⟩ | ⟨idle, nobody⟩
    · exact Or.inl ⟨phase.trans published, since.trans advances⟩
    · refine Or.inr ⟨phase.trans idle, List.eq_nil_iff_forall_not_mem.mpr fun user => ?_⟩
      rw [advances.mem_pendingUsers, nobody]
      simp
  cases transition with
  | record accepted =>
      obtain ⟨-, rfl, -⟩ := record_eq_ok_iff.mp accepted
      exact settled rfl rfl rfl
  | refuse => exact settled rfl rfl rfl
  | reset => exact settled rfl rfl (markAll_history _ _)
  | @start engine forced opened begins =>
      rcases quiet with ⟨impossible, -⟩ | ⟨-, nobody⟩
      · cases impossible
      · cases forced with
        | true => exact absurd rfl unforced
        | false => cases begins.symm.trans (begin?_eq_none_iff.mpr ⟨nobody, rfl⟩)
  | rest => exact settled rfl rfl rfl
  | answer | abandon | publish =>
      rcases published_or_idle with impossible | impossible <;> cases impossible
  | clear =>
      rcases quiet with ⟨same, since⟩ | ⟨impossible, -⟩
      · cases same
        refine ⟨Or.inr ⟨rfl, List.eq_nil_iff_forall_not_mem.mpr fun user => ?_⟩, rfl⟩
        rw [mem_pendingUsers_clear numbered since taken]
        exact List.not_mem_nil
      · cases impossible
  | restart => cases lasting

theorem Quiet.of_run {begun first last : Machine} {attempt : Attempt} {actions : List Action}
    (quiet : Quiet begun attempt first) (numbered : Numbered begun.engine)
    (taken : attempt.pending = begun.engine.pending) (run : first.run? actions = some last)
    (lasting : ∀ action ∈ actions, action.isRestart = false) (unforced : .start true ∉ actions)
    (unmarked : first.marked actions = []) :
    Quiet begun attempt last ∧ last.engine.history = first.engine.history := by
  induction actions generalizing first with
  | nil =>
      cases run
      exact ⟨quiet, rfl⟩
  | cons action rest ih =>
      obtain ⟨next, transition, run⟩ := run?_cons_eq_some_iff.mp run
      rw [marked_cons transition, List.append_eq_nil_iff] at unmarked
      rw [List.mem_cons, not_or] at unforced
      obtain ⟨further, same⟩ := quiet.of_transition numbered taken transition
        (lasting action List.mem_cons_self) (Ne.symm unforced.1) unmarked.1
      obtain ⟨final, history⟩ := ih further run
        (fun other inside => lasting other (List.mem_cons_of_mem _ inside)) unforced.2 unmarked.2
      exact ⟨final, history.trans same⟩

/-! ## Publications -/

/-- **Every change is named once.**  The entry that a publication adds names, in ascending order,
exactly the users who were marked before the compilation began and after the one published before it
began, and it names somebody unless the compilation was forced.  As long as nobody is marked since
its beginning, further compilations that are not forced add no entry and never ask the solver. -/
theorem changedUsers_of_publish {config : Configuration} {snapshot : Snapshot}
    {machine next : Machine} {actions : List Action} {moment : Moment}
    (run : (resume config snapshot).run? actions = some machine)
    (lasting : ∀ action ∈ actions, action.isRestart = false)
    (publishes : machine.step? (.publish moment) = some next) :
    ∃ before begun attempt solutions during due entry,
      actions = before ++ .start attempt.forced :: during ∧
      (resume config snapshot).run? before = some begun ∧
      begun.engine.begin? attempt.forced = some attempt ∧
      (∀ action ∈ during, action.isStart = false) ∧
      machine.phase = .answered attempt solutions ∧
      Due (resume config snapshot) before due ∧
      next.engine.history = machine.engine.history ++ [entry] ∧
      entry.forced = attempt.forced ∧
      Ascending entry.changedUsers ∧
      (∀ user, user ∈ entry.changedUsers ↔ user ∈ due) ∧
      (attempt.forced = false → entry.changedUsers ≠ []) ∧
      ∀ rest last, next.run? rest = some last →
        (∀ action ∈ rest, action.isRestart = false) → .start true ∉ rest →
        begun.marked (.start attempt.forced :: (during ++ .publish moment :: rest)) = [] →
          last.engine.history = next.engine.history ∧ ∀ other, last.phase ≠ .asked other := by
  have publication := step?_eq_some_iff.mp publishes
  cases publication with
  | @publish engine attempt solutions =>
      obtain ⟨before, begun, during, rfl, reached, begins, others⟩ := exists_begin run rfl rfl
      obtain ⟨begun', reached', since⟩ := run?_append_eq_some_iff.mp run
      cases reached.symm.trans reached'
      obtain ⟨opened, opens, -⟩ := run?_cons_eq_some_iff.mp since
      have taken := (taken_of_begin? begins).2
      have numbered : Numbered begun.engine := numbered_of_run reached (numbered_resume _ _)
      obtain ⟨due, isDue, pending⟩ := exists_due (numbered_resume _ _) rfl reached
        (fun action inside => lasting action (List.mem_append_left _ inside)) opens.idle_of_start
      have named : attempt.pending.keys.toList = begun.engine.pendingUsers := by
        rw [taken]
        rfl
      refine ⟨before, begun, attempt, solutions, during, due, _, rfl, reached, begins, others, rfl,
        isDue, rfl, rfl, attempt.pending.keys.ascending, ?_, ?_, ?_⟩
      · intro user
        rw [← pending, ← named]
        rfl
      · intro unforced nobody
        have nothing := begin?_eq_none_iff.mpr ⟨named.symm.trans nobody, unforced⟩
        cases nothing.symm.trans begins
      · intro rest last continued stays unforced unmarked
        rw [marked_of_publish since, List.append_eq_nil_iff] at unmarked
        have advances := advances_of_begin begins others since nofun
        rw [unmarked.1] at advances
        have quiet : Quiet begun attempt
            ⟨engine.publish attempt moment solutions, .published attempt⟩ :=
          Or.inl ⟨rfl, advances.trans (Advances.of_eq rfl rfl)⟩
        obtain ⟨final, history⟩ := quiet.of_run numbered taken continued stays unforced unmarked.2
        refine ⟨history, fun other asked => ?_⟩
        rcases final with ⟨impossible, -⟩ | ⟨impossible, -⟩ <;>
        · rw [asked] at impossible
          cases impossible

/-- A compilation of the canteen that fails, and a second one; another guest chooses meanwhile. -/
def secondAttempt : List Action := [
  .record "anna" 0 (.ofList ["soup"]), .start false, .abandon, .start false,
  .record "ben" 0 (.ofList ["rice"]), .answer []]

theorem canteen_changedUsers_of_publish :
    ∃ machine next entry, (resume canteen .empty).run? secondAttempt = some machine ∧
      machine.step? (.publish noon) = some next ∧
      next.engine.history = machine.engine.history ++ [entry] ∧ Ascending entry.changedUsers ∧
      (entry.forced = false → entry.changedUsers ≠ []) := by
  obtain ⟨before, begun, attempt, solutions, during, due, entry,
      -, -, -, -, -, -, added, forced, ascending, -, named, -⟩ :=
    @changedUsers_of_publish canteen .empty _ _ secondAttempt noon rfl (by decide) rfl
  exact ⟨_, _, entry, rfl, rfl, added, ascending, fun unforced => named (forced ▸ unforced)⟩

end Machine

end Engine

end CollectiveChoice
