import CollectiveChoice.Proofs.Engine.Transition

/-!
# The history replays what was to be seen

An entry of the history names the models that appeared with a compilation and the ones that
disappeared.  Entries that are applied one after the other, from nothing on, give the ids of the
models to be seen (`replay_eq_of_run`), and no entry could say less: a model that appears was not
there before, and one that disappears was (`HistoryEntry.Exact`).

A publication changes the history and the ids together, and it compares the new ids with the ones
that are there when the solver has answered.  Nothing else changes either of them, a restart
included, so what one publication keeps is kept by every run.
-/

namespace CollectiveChoice

set_option autoImplicit false

namespace HistoryEntry

/-! ## Single entries -/

/-- The ids of the models to be seen after an entry, given those before it. -/
def apply (entry : HistoryEntry) (ids : SortedSet ModelId) : SortedSet ModelId :=
  (ids.union (.ofList entry.newModels)).difference (.ofList entry.lostModels)

/-- An entry says no more and no less than what changed about the ids before it. -/
structure Exact (entry : HistoryEntry) (before : SortedSet ModelId) : Prop where
  new_ascending : Ascending entry.newModels
  lost_ascending : Ascending entry.lostModels
  disjoint : ∀ id ∈ entry.newModels, id ∉ entry.lostModels
  absent_of_new : ∀ id ∈ entry.newModels, id ∉ before
  present_of_lost : ∀ id ∈ entry.lostModels, id ∈ before

section

variable (timestamp : Timestamp) (changed : SortedSet String) (forced : Bool)
  (before after : SortedSet ModelId)

theorem mem_newModels_ofChange {id : ModelId} :
    id ∈ (ofChange timestamp changed forced before after).newModels ↔ id ∈ after ∧ id ∉ before :=
  SortedSet.mem_difference

theorem mem_lostModels_ofChange {id : ModelId} :
    id ∈ (ofChange timestamp changed forced before after).lostModels ↔ id ∈ before ∧ id ∉ after :=
  SortedSet.mem_difference

theorem exact_ofChange : (ofChange timestamp changed forced before after).Exact before where
  new_ascending := (after.difference before).ascending
  lost_ascending := (before.difference after).ascending
  disjoint := by
    intro id isNew isLost
    rw [mem_newModels_ofChange] at isNew
    rw [mem_lostModels_ofChange] at isLost
    exact isNew.2 isLost.1
  absent_of_new := fun id isNew => ((mem_newModels_ofChange ..).mp isNew).2
  present_of_lost := fun id isLost => ((mem_lostModels_ofChange ..).mp isLost).1

/-- The entry of a change leads from the ids before it to the ids after it. -/
theorem apply_ofChange : (ofChange timestamp changed forced before after).apply before = after := by
  apply SortedSet.ext_mem
  intro id
  simp only [apply, SortedSet.mem_difference, SortedSet.mem_union, SortedSet.mem_ofList,
    mem_newModels_ofChange, mem_lostModels_ofChange]
  by_cases there : id ∈ before <;> by_cases stays : id ∈ after <;> simp [there, stays]

end

end HistoryEntry

namespace Engine

/-! ## Histories -/

/-- The ids of the models to be seen after the entries of a history, oldest entry first. -/
def replay (history : List HistoryEntry) : SortedSet ModelId :=
  history.foldl (fun ids entry => entry.apply ids) .empty

theorem replay_concat (history : List HistoryEntry) (entry : HistoryEntry) :
    replay (history ++ [entry]) = entry.apply (replay history) := by
  simp only [replay, List.foldl_append, List.foldl_cons, List.foldl_nil]

/-- A history that replays the given ids, each entry exact about what the ones before it replay. -/
structure Replays (history : List HistoryEntry) (ids : SortedSet ModelId) : Prop where
  replay_eq : replay history = ids
  exact : ∀ earlier entry later, history = earlier ++ entry :: later →
    entry.Exact (replay earlier)

theorem Replays.nil : Replays [] .empty where
  replay_eq := rfl
  exact := by
    intro earlier entry later cut
    cases earlier <;> cases cut

/-- A history that replays the ids so far goes on with the entry of a change of these ids. -/
theorem Replays.concat {history : List HistoryEntry} {before : SortedSet ModelId}
    (replays : Replays history before) (timestamp : Timestamp) (changed : SortedSet String)
    (forced : Bool) (after : SortedSet ModelId) :
    Replays (history ++ [.ofChange timestamp changed forced before after]) after where
  replay_eq := by
    rw [replay_concat, replays.replay_eq]
    exact HistoryEntry.apply_ofChange ..
  exact := by
    intro earlier entry later cut
    rcases List.eq_nil_or_concat later with rfl | ⟨between, final, rfl⟩
    · obtain ⟨rfl, same⟩ := List.append_inj' cut rfl
      cases same
      rw [replays.replay_eq]
      exact HistoryEntry.exact_ofChange ..
    · have shorter : history = earlier ++ entry :: between := by
        rw [List.concat_eq_append, ← List.cons_append, ← List.append_assoc] at cut
        exact (List.append_inj' cut rfl).1
      exact replays.exact earlier entry between shorter

namespace Machine

/-! ## Runs -/

/-- An action leaves the history and the ids as they are, or it replaces the ids and adds the entry
of this change. -/
theorem Transition.history_eq_or_concat {machine next : Machine} {action : Action}
    (transition : Transition machine action next) :
    (next.engine.history = machine.engine.history ∧
        next.engine.outcome.ids = machine.engine.outcome.ids) ∨
      ∃ timestamp changed forced, next.engine.history = machine.engine.history ++
        [.ofChange timestamp changed forced machine.engine.outcome.ids
          next.engine.outcome.ids] := by
  cases published : action.isPublication with
  | false => exact Or.inl (transition.history_eq published)
  | true =>
      cases transition with
      | publish => exact Or.inr ⟨_, _, _, rfl⟩
      | record | refuse | reset | start | rest | answer | abandon | clear | restart =>
          cases published

theorem history_prefix_of_run {first last : Machine} {actions : List Action}
    (run : first.run? actions = some last) : first.engine.history <+: last.engine.history := by
  refine run?_preserves (fun machine => first.engine.history <+: machine.engine.history) ?_ run
    (List.prefix_refl _)
  intro action _ machine next transition before
  rcases transition.history_eq_or_concat with ⟨same, -⟩ | ⟨timestamp, changed, forced, added⟩
  · rw [same]
    exact before
  · rw [added]
    exact before.trans (List.prefix_append _ _)

/-- An action keeps a history that replays the ids of the models to be seen. -/
theorem Transition.replays {machine next : Machine} {action : Action}
    (transition : Transition machine action next)
    (replays : Replays machine.engine.history machine.engine.outcome.ids) :
    Replays next.engine.history next.engine.outcome.ids := by
  rcases transition.history_eq_or_concat with ⟨same, ids⟩ | ⟨timestamp, changed, forced, added⟩
  · rw [same, ids]
    exact replays
  · rw [added]
    exact replays.concat timestamp changed forced _

/-- **The history is an exact log.**  In every run from an empty snapshot, restarts included, the
history only grows at its end; each entry is exact about the ids before it; and applied one after
the other, the entries give the ids of the models to be seen. -/
theorem replay_eq_of_run {config : Configuration} {last : Machine} {actions : List Action}
    (run : (resume config .empty).run? actions = some last) :
    (∀ before middle after, actions = before ++ after →
      (resume config .empty).run? before = some middle →
        middle.engine.history <+: last.engine.history) ∧
      (∀ earlier entry later, last.engine.history = earlier ++ entry :: later →
        entry.Exact (replay earlier)) ∧
      replay last.engine.history = last.engine.outcome.ids := by
  have replays : Replays last.engine.history last.engine.outcome.ids := by
    refine run?_preserves
      (fun machine => Replays machine.engine.history machine.engine.outcome.ids) ?_ run ?_
    · exact fun action _ machine next transition => transition.replays
    · simp only [resume, resume_history, resume_outcome]
      exact Replays.nil
  refine ⟨?_, replays.exact, replays.replay_eq⟩
  rintro before middle after rfl reached
  rw [run?_append, reached] at run
  exact history_prefix_of_run run

/-- Two compilations of the canteen with a restart between them. -/
def twoMeals : List Action := [
  .record "anna" 0 (.ofList ["soup"]), .start false, .answer [⟨[], []⟩], .publish noon, .clear,
  .restart canteen, .start false, .abandon, .start true, .answer [], .publish noon, .clear]

theorem canteen_replay_eq_of_run :
    ∃ last, (resume canteen .empty).run? twoMeals = some last ∧
      last.engine.history.length = 2 ∧ replay last.engine.history = last.engine.outcome.ids :=
  ⟨_, rfl, rfl, (@replay_eq_of_run canteen _ twoMeals rfl).2.2⟩

end Machine

end Engine

end CollectiveChoice
