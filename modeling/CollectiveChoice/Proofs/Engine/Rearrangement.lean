import Mathlib.Data.List.Forall2
import CollectiveChoice.Proofs.Engine.Coherence

/-!
# The order of the solver leaves no trace on record

A solver may list its solutions in any order, and the atoms of a solution in any order and with
repetitions.  Two lists that differ in no more than this are *rearranged* (`Rearranged`).  The
models made from them are the same up to their order, whatever the ids are derived from, so that
merging models with one id leaves the same ids and equally many models (`SameRecord.publishFound`).

Which model is shown where several share an id does depend on the order.  Nothing of this is
recorded: two runs that are given rearranged solutions keep the same ids, the same number of models
and the same history, up to the times at which they publish (`alike_of_rearranged`).
-/

namespace CollectiveChoice

set_option autoImplicit false

/-! ## Rearranged solutions -/

/-- Solutions with the same atoms, in any order and with any repetitions. -/
def Solution.SameAtoms (left right : Solution) : Prop :=
  ∀ atom, atom ∈ left.atoms ↔ atom ∈ right.atoms

/-- The same solutions in another order, and the atoms of each of them listed in another way. -/
def Rearranged (left right : List Solution) : Prop :=
  ∃ middle, left.Perm middle ∧ List.Forall₂ Solution.SameAtoms middle right

theorem Rearranged.refl (solutions : List Solution) : Rearranged solutions solutions :=
  ⟨solutions, .refl solutions, List.forall₂_same.mpr fun _ _ _ => .rfl⟩

/-- The models of solutions where the id of a set of atoms is found in any way. -/
def modelsNamed (name : SortedSet Atom → ModelId) (solutions : List Solution) : List Model :=
  solutions.map fun solution => ⟨.ofList solution.atoms, name (.ofList solution.atoms)⟩

theorem Solution.SameAtoms.ofList_eq {left right : Solution} (same : left.SameAtoms right) :
    SortedSet.ofList left.atoms = SortedSet.ofList right.atoms := by
  apply SortedSet.ext_mem
  intro atom
  rw [SortedSet.mem_ofList, SortedSet.mem_ofList]
  exact same atom

theorem modelsNamed_eq_of_sameAtoms (name : SortedSet Atom → ModelId) {left right : List Solution}
    (same : List.Forall₂ Solution.SameAtoms left right) :
    modelsNamed name left = modelsNamed name right := by
  induction same with
  | nil => rfl
  | cons atoms _ ih =>
      simp only [modelsNamed, List.map_cons, atoms.ofList_eq] at ih ⊢
      rw [ih]

/-- Rearranged solutions have the same models up to their order. -/
theorem Rearranged.perm_modelsNamed {left right : List Solution} (alike : Rearranged left right)
    (name : SortedSet Atom → ModelId) :
    (modelsNamed name left).Perm (modelsNamed name right) := by
  obtain ⟨middle, perm, same⟩ := alike
  rw [← modelsNamed_eq_of_sameAtoms name same]
  exact perm.map _

/-! ## Merging in another order -/

namespace Outcome

/-- Merging models in another order leaves the same ids. -/
theorem ids_distinct_of_perm {models others : List Model} (perm : models.Perm others) :
    SortedSet.ofList ((distinct .empty models).map Model.id)
      = SortedSet.ofList ((distinct .empty others).map Model.id) := by
  apply SortedSet.ext_mem
  intro id
  rw [mem_ids_distinct, mem_ids_distinct]
  exact (perm.map Model.id).mem_iff

/-- Merging models in another order leaves equally many of them. -/
theorem length_distinct_of_perm {models others : List Model} (perm : models.Perm others) :
    (distinct .empty models).length = (distinct .empty others).length := by
  rw [length_distinct, length_distinct, ids_distinct_of_perm perm]

end Outcome

/-! ## Records that agree -/

/-- Entries that say the same about the models and the users. -/
structure HistoryEntry.Agree (left right : HistoryEntry) : Prop where
  changedUsers : left.changedUsers = right.changedUsers
  forced : left.forced = right.forced
  newModels : left.newModels = right.newModels
  lostModels : left.lostModels = right.lostModels

/-- The time of a change does not matter. -/
theorem HistoryEntry.agree_ofChange (first second : Timestamp) (changed : SortedSet String)
    (forced : Bool) (before after : SortedSet ModelId) :
    (ofChange first changed forced before after).Agree
      (ofChange second changed forced before after) :=
  ⟨rfl, rfl, rfl, rfl⟩

namespace Engine

/-- The same ids and equally many models are on record, and the entries since a history agree. -/
structure SameRecord (since : List HistoryEntry) (left right : Engine) : Prop where
  ids : left.outcome.ids = right.outcome.ids
  modelCount : left.outcome.statistics.modelCount = right.outcome.statistics.modelCount
  entries : ∃ entries others, left.history = since ++ entries ∧ right.history = since ++ others ∧
    List.Forall₂ HistoryEntry.Agree entries others

theorem SameRecord.refl (engine : Engine) : SameRecord engine.history engine engine where
  ids := rfl
  modelCount := rfl
  entries := ⟨[], [], by rw [List.append_nil], by rw [List.append_nil], .nil⟩

/-! ## Publishing models with any ids -/

/-- The outcome of models that were found, whatever their ids are derived from. -/
def outcomeFound (config : Configuration) (moment : Moment) (found : List Model) : Outcome :=
  let models := Outcome.distinct .empty found
  let statistics := Statistics.ofModels models moment.runtime
  { models := models
    ids := .ofList (models.map Model.id)
    statistics := statistics
    rendering := config.output.layout.render ⟨config.labels, models, statistics⟩
    compiledAt := some moment.time }

/-- Publishes models that were found, whatever their ids are derived from. -/
def publishFound (engine : Engine) (attempt : Attempt) (moment : Moment) (found : List Model) :
    Engine :=
  let outcome := outcomeFound engine.config moment found
  let entry := HistoryEntry.ofChange moment.time attempt.pending.keys attempt.forced
    engine.outcome.ids outcome.ids
  { engine with outcome, history := engine.history ++ [entry] }

/-- What is published are the models of the solutions, with the ids derived from a digest. -/
theorem publish_eq_publishFound (engine : Engine) (attempt : Attempt) (moment : Moment)
    (solutions : List Solution) :
    engine.publish attempt moment solutions = engine.publishFound attempt moment
      (modelsNamed (fun atoms => (Model.ofSet atoms engine.config.output.idWords.toNat).id)
        solutions) :=
  rfl

/-- Models that are published in another order leave the same record. -/
theorem SameRecord.publishFound {since : List HistoryEntry} {left right : Engine}
    (same : SameRecord since left right) {found others : List Model} (perm : found.Perm others)
    (attempt : Attempt) (first second : Moment) :
    SameRecord since (left.publishFound attempt first found)
      (right.publishFound attempt second others) := by
  have ids : (outcomeFound left.config first found).ids
      = (outcomeFound right.config second others).ids := Outcome.ids_distinct_of_perm perm
  have entry : HistoryEntry.Agree
      (.ofChange first.time attempt.pending.keys attempt.forced left.outcome.ids
        (outcomeFound left.config first found).ids)
      (.ofChange second.time attempt.pending.keys attempt.forced right.outcome.ids
        (outcomeFound right.config second others).ids) := by
    rw [same.ids, ids]
    exact HistoryEntry.agree_ofChange ..
  obtain ⟨before, after, toLeft, toRight, agree⟩ := same.entries
  refine ⟨ids, Outcome.length_distinct_of_perm perm, ?_⟩
  refine ⟨_, _, ?_, ?_, List.rel_append agree (.cons entry .nil)⟩
  · rw [← List.append_assoc, ← toLeft]
    rfl
  · rw [← List.append_assoc, ← toRight]
    rfl

/-! ## Engines that differ in what readers see -/

/-- The engine with another outcome and another history. -/
def showing (engine : Engine) (outcome : Outcome) (history : List HistoryEntry) : Engine :=
  { engine with outcome, history }

theorem markAll_showing (engine : Engine) (outcome : Outcome) (history : List HistoryEntry)
    (users : List String) :
    (engine.showing outcome history).markAll users
      = (engine.markAll users).showing outcome history := by
  induction users generalizing engine with
  | nil => rfl
  | cons user rest ih => exact ih (engine.mark user)

theorem reset_showing (engine : Engine) (outcome : Outcome) (history : List HistoryEntry) :
    (engine.showing outcome history).reset = engine.reset.showing outcome history :=
  markAll_showing { engine with choices := engine.config.initialChoices } outcome history _

/-- What readers saw before a restart has no influence on the rest of the engine after it. -/
theorem resume_showing (config : Configuration) (choices : Choices) (ids : SortedSet ModelId)
    (history : List HistoryEntry) :
    resume config ⟨choices, ids, history⟩
      = (resume config ⟨choices, .empty, []⟩).showing (.initial ids) history :=
  markAll_showing ⟨config, resumedChoices config choices, .empty, 0, .initial .empty, []⟩
    (.initial ids) history _

/-- Engines with the same record that differ in nothing else than what readers see. -/
structure Alike (since : List HistoryEntry) (left right : Engine) : Prop
    extends SameRecord since left right where
  rest : right = left.showing right.outcome right.history

namespace Alike

variable {since : List HistoryEntry} {left right : Engine}

theorem refl (engine : Engine) : Alike engine.history engine engine :=
  ⟨.refl engine, rfl⟩

theorem config_eq (alike : Alike since left right) : right.config = left.config := by
  rw [alike.rest]
  rfl

theorem begin?_eq (alike : Alike since left right) (forced : Bool) :
    right.begin? forced = left.begin? forced := by
  rw [alike.rest]
  rfl

/-- Engines stay alike where something is done to both that neither reads nor changes what readers
see. -/
theorem map (alike : Alike since left right) (change : Engine → Engine)
    (blind : ∀ engine outcome history,
      change (engine.showing outcome history) = (change engine).showing outcome history) :
    Alike since (change left) (change right) := by
  -- An engine shows what it shows, so that `blind` also says what is left as it was.
  have same : ∀ engine, change engine = (change engine).showing engine.outcome engine.history :=
    fun engine => blind engine engine.outcome engine.history
  have outcome : ∀ engine, (change engine).outcome = engine.outcome := fun engine => by
    rw [same]
    rfl
  have history : ∀ engine, (change engine).history = engine.history := fun engine => by
    rw [same]
    rfl
  refine ⟨⟨?_, ?_, ?_⟩, ?_⟩
  · rw [outcome, outcome, alike.ids]
  · rw [outcome, outcome, alike.modelCount]
  · rw [history, history]
    exact alike.entries
  · rw [outcome, history, ← blind, ← alike.rest]

theorem record (alike : Alike since left right) {user : String} {group : Nat}
    {selection : Selection} {later : Engine} {last : Bool}
    (accepted : left.record user group selection = .ok (later, last)) :
    ∃ other, right.record user group selection = .ok (other, last) ∧ Alike since later other := by
  obtain ⟨checked, rfl, rfl⟩ := record_eq_ok_iff.mp accepted
  refine ⟨_, record_eq_ok_iff.mpr ⟨?_, rfl, ?_⟩, ?_⟩
  · rw [alike.config_eq]
    exact checked
  · rw [alike.config_eq]
  · refine alike.map (fun engine => ({ engine with
      choices := engine.choices.store user group selection engine.config.defaultSelection } :
        Engine).mark user) fun _ _ _ => rfl

theorem refuse (alike : Alike since left right) {user : String} {group : Nat}
    {selection : Selection} {error : ChoiceError}
    (refused : left.record user group selection = .error error) :
    right.record user group selection = .error error := by
  rw [record_eq_error_iff, alike.config_eq]
  exact record_eq_error_iff.mp refused

theorem reset (alike : Alike since left right) : Alike since left.reset right.reset :=
  alike.map Engine.reset reset_showing

theorem clear (alike : Alike since left right) (attempt : Attempt) :
    Alike since (left.clear attempt) (right.clear attempt) :=
  alike.map (fun engine => engine.clear attempt) fun _ _ _ => rfl

theorem restart (alike : Alike since left right) (config : Configuration) :
    Alike since (resume config left.snapshot) (resume config right.snapshot) := by
  have choices : right.choices = left.choices := by
    rw [alike.rest]
    rfl
  have restarted : ∀ engine : Engine, resume config engine.snapshot
      = (resume config ⟨engine.choices, .empty, []⟩).showing (.initial engine.outcome.ids)
          engine.history := fun engine => resume_showing ..
  rw [restarted, restarted, choices]
  exact ⟨⟨alike.ids, rfl, alike.entries⟩, rfl⟩

/-- Engines stay alike where rearranged solutions are published. -/
theorem publish (alike : Alike since left right) {solutions others : List Solution}
    (rearranged : Rearranged solutions others) (attempt : Attempt) (first second : Moment) :
    Alike since (left.publish attempt first solutions) (right.publish attempt second others) where
  toSameRecord := by
    rw [publish_eq_publishFound, publish_eq_publishFound, alike.config_eq]
    exact alike.toSameRecord.publishFound (rearranged.perm_modelsNamed _) attempt first second
  rest := by
    rw [alike.rest]
    rfl

end Alike

/-! ## Runs on rearranged solutions -/

/-- Actions that differ at most in how solutions are arranged and in when they are published. -/
inductive Action.Alike : Action → Action → Prop where
  | same (action : Action) : Alike action action
  | answer {solutions others : List Solution} (rearranged : Rearranged solutions others) :
      Alike (.answer solutions) (.answer others)
  | publish (first second : Moment) : Alike (.publish first) (.publish second)

/-- The same phases of a compilation, up to how solutions are arranged. -/
inductive Phase.Alike : Phase → Phase → Prop where
  | idle : Alike .idle .idle
  | asked (attempt : Attempt) : Alike (.asked attempt) (.asked attempt)
  | answered (attempt : Attempt) {solutions others : List Solution}
      (rearranged : Rearranged solutions others) :
      Alike (.answered attempt solutions) (.answered attempt others)
  | published (attempt : Attempt) : Alike (.published attempt) (.published attempt)

theorem Phase.Alike.refl (phase : Phase) : phase.Alike phase := by
  cases phase with
  | idle => exact .idle
  | asked attempt => exact .asked attempt
  | answered attempt solutions => exact .answered attempt (.refl solutions)
  | published attempt => exact .published attempt

namespace Machine

/-- Machines with engines that are alike, in the same phase of a compilation. -/
structure Alike (since : List HistoryEntry) (left right : Machine) : Prop where
  engine : left.engine.Alike since right.engine
  phase : left.phase.Alike right.phase

theorem Alike.refl (machine : Machine) : machine.Alike machine.engine.history machine :=
  ⟨.refl machine.engine, .refl machine.phase⟩

/-- What happens to a machine can happen to one that is alike, and leaves them alike. -/
theorem Transition.exists_alike {since : List HistoryEntry} {machine next other : Machine}
    {action instead : Action} (transition : Transition machine action next)
    (alike : machine.Alike since other) (exchanged : action.Alike instead) :
    ∃ after, Transition other instead after ∧ next.Alike since after := by
  obtain ⟨engine, phase⟩ := other
  obtain ⟨engines, phases⟩ := alike
  -- Only an answer and a publication can be exchanged for something else than themselves.
  cases transition with
  | record accepted =>
      cases exchanged
      obtain ⟨later, stored, kept⟩ := engines.record accepted
      exact ⟨_, .record stored, kept, phases⟩
  | refuse refused =>
      cases exchanged
      exact ⟨_, .refuse (engines.refuse refused), engines, phases⟩
  | reset =>
      cases exchanged
      exact ⟨_, .reset, engines.reset, phases⟩
  | start begun =>
      cases exchanged
      cases phases
      exact ⟨_, .start ((engines.begin?_eq _).trans begun), engines, .asked _⟩
  | rest nothing =>
      cases exchanged
      cases phases
      exact ⟨_, .rest ((engines.begin?_eq _).trans nothing), engines, .idle⟩
  | answer =>
      cases phases
      cases exchanged with
      | same => exact ⟨_, .answer, engines, .answered _ (.refl _)⟩
      | answer rearranged => exact ⟨_, .answer, engines, .answered _ rearranged⟩
  | abandon =>
      cases exchanged
      cases phases
      exact ⟨_, .abandon, engines, .idle⟩
  | publish =>
      cases phases with
      | answered _ rearranged =>
          cases exchanged with
          | same | publish => exact ⟨_, .publish, engines.publish rearranged .., .published _⟩
  | clear =>
      cases exchanged
      cases phases
      exact ⟨_, .clear, engines.clear _, .idle⟩
  | restart =>
      cases exchanged
      cases phases
      exact ⟨_, .restart, engines.restart _, .idle⟩

theorem exists_alike_of_run {since : List HistoryEntry} {first last other : Machine}
    {actions others : List Action} (run : first.run? actions = some last)
    (alike : first.Alike since other) (exchanged : List.Forall₂ Action.Alike actions others) :
    ∃ after, other.run? others = some after ∧ last.Alike since after := by
  induction exchanged generalizing first other with
  | nil =>
      cases run
      exact ⟨other, rfl, alike⟩
  | cons instead _ ih =>
      obtain ⟨next, transition, onwards⟩ := run?_cons_eq_some_iff.mp run
      obtain ⟨after, toAfter, nextAlike⟩ := transition.exists_alike alike instead
      obtain ⟨final, toFinal, lastAlike⟩ := ih onwards nextAlike
      exact ⟨final, run?_cons_eq_some_iff.mpr ⟨after, toAfter, toFinal⟩, lastAlike⟩

/-- **How a solver arranges its solutions leaves no trace on record.**  From any state, what can be
done with some solutions can be done with the same solutions arranged in another way; it leaves the
same ids and equally many models, adds the same entries to the history up to their times, and keeps
everything but what readers see the same.  None of it rests on how ids are derived: solutions that
are published under any other ids leave the same record, too. -/
theorem alike_of_rearranged {first last : Machine} {actions others : List Action}
    (run : first.run? actions = some last)
    (exchanged : List.Forall₂ Action.Alike actions others) :
    (∃ other, first.run? others = some other ∧ last.Alike first.engine.history other) ∧
      ∀ name solutions rearranged, Rearranged solutions rearranged →
        ∀ attempt moment later, SameRecord first.engine.history
          (first.engine.publishFound attempt moment (modelsNamed name solutions))
          (first.engine.publishFound attempt later (modelsNamed name rearranged)) := by
  refine ⟨exists_alike_of_run run (.refl first) exchanged, ?_⟩
  intro name solutions rearranged same attempt moment later
  exact (SameRecord.refl first.engine).publishFound (same.perm_modelsNamed name) attempt moment later

/-- The canteen, with one word in the ids of its models. -/
def briefly : Configuration :=
  { canteen with output := { canteen.output with idWords := 1 } }

/-- A compilation with solutions of one atom each. -/
def mealOf (atoms : List Atom) : List Action := [
  .start true, .answer (atoms.map fun atom => ⟨[atom], []⟩), .publish noon, .clear]

/-- Two atoms whose models share an id of one word: the one that is listed first is shown. -/
theorem briefly_alike_of_rearranged :
    ∃ last other,
      (resume briefly .empty).run? (mealOf [⟨"p", [.sym "to"]⟩, ⟨"p", [.str "to"]⟩]) = some last ∧
      (resume briefly .empty).run? (mealOf [⟨"p", [.str "to"]⟩, ⟨"p", [.sym "to"]⟩]) = some other ∧
      last.Alike [] other ∧ last.engine.outcome.ids.size = 1 ∧
      last.engine.outcome.models ≠ other.engine.outcome.models := by
  obtain ⟨⟨other, reached, alike⟩, -⟩ := @alike_of_rearranged (resume briefly .empty) _
    (mealOf [⟨"p", [.sym "to"]⟩, ⟨"p", [.str "to"]⟩])
    (mealOf [⟨"p", [.str "to"]⟩, ⟨"p", [.sym "to"]⟩]) rfl
    (.cons (.same _) (.cons (.answer ⟨_, .swap .., List.forall₂_same.mpr fun _ _ _ => .rfl⟩)
      (.cons (.same _) (.cons (.same _) .nil))))
  cases reached
  exact ⟨_, _, rfl, rfl, alike, by decide +kernel, by decide +kernel⟩

end Machine

end Engine

end CollectiveChoice
