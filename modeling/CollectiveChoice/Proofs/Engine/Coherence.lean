import CollectiveChoice.Proofs.Engine.Freshness
import CollectiveChoice.Proofs.Engine.Merging

/-!
# The parts of an outcome fit together

What readers see is kept in several parts: the models, their ids, the figures, and the fragments of
the page.  They are made one after the other and looked up by id or by place.  Here it is said that
they agree (`Coherent`): there is one fragment for each model, it is found under the id of the model
and under no other one, and it was rendered for this model at its place.

An outcome is replaced as a whole, so after a publication readers see what was made of the solutions
that were published last (`coherent_of_run`).
-/

namespace CollectiveChoice

set_option autoImplicit false

namespace Outcome

/-! ## Coherent outcomes -/

/-- What the plugins of an outcome read. -/
def context (config : Configuration) (outcome : Outcome) : PageContext :=
  ⟨config.labels, outcome.models, outcome.statistics⟩

/-- An outcome whose parts agree about the models a solver has found. -/
structure Coherent (config : Configuration) (found : List Model) (outcome : Outcome) : Prop where
  /-- The first model of each id is shown, in the order of the solver. -/
  firstOfEach : FirstOfEach found outcome.models
  ids : ∀ id, id ∈ outcome.ids ↔ ∃ model ∈ outcome.models, model.id = id
  modelCount : outcome.statistics.modelCount = outcome.models.length
  /-- There are atoms common to all models unless there is no model. -/
  common : outcome.statistics.common.isSome = true ↔ outcome.models ≠ []
  /-- There is one fragment for each model. -/
  fragments : outcome.rendering.models.length = outcome.models.length
  /-- A fragment is found under the ids, and under nothing else. -/
  fragment_iff : ∀ id, (outcome.fragment? id).isSome = true ↔ id ∈ outcome.ids
  /-- What is found is rendered for the model with the id, at its place counted from one. -/
  fragment_eq : ∀ place model, outcome.models[place]? = some model →
    outcome.fragment? model.id
      = some (config.output.layout.renderModel (outcome.context config) ⟨place + 1, model⟩)
  /-- The header ends with a message where there is no model. -/
  header : outcome.rendering.header
    = String.join (config.output.layout.header.map fun plugin =>
        plugin.onHeader (outcome.context config)) ++
      if outcome.models = [] then config.output.layout.unsatMessage else ""

/-! ## Looking up by id -/

/-- Where ids are different, a model is found at its place. -/
theorem place?_of_nodup {outcome : Outcome} (nodup : (outcome.models.map Model.id).Nodup)
    {place : Nat} {model : Model} (there : outcome.models[place]? = some model) :
    outcome.place? model.id = some place := by
  obtain ⟨inside, rfl⟩ := List.getElem?_eq_some_iff.mp there
  have distinct : outcome.models.Pairwise fun first second => first.id ≠ second.id :=
    List.pairwise_map.mp nodup
  refine List.findIdx?_eq_some_iff_getElem.mpr ⟨inside, beq_self_eq_true _, fun earlier before => ?_⟩
  rw [beq_iff_eq]
  exact List.pairwise_iff_getElem.mp distinct earlier place (Nat.lt_trans before inside) inside before

/-- No place is found for an id that no model has. -/
theorem place?_eq_none {outcome : Outcome} {id : ModelId}
    (absent : ∀ model ∈ outcome.models, model.id ≠ id) : outcome.place? id = none :=
  List.findIdx?_eq_none_iff.mpr fun model inside => beq_eq_false_iff_ne.mpr (absent model inside)

/-- With different ids, and the fragments rendered place by place, what is found under the id of a
model is what was rendered for it. -/
theorem fragment?_of_place {config : Configuration} {outcome : Outcome}
    (nodup : (outcome.models.map Model.id).Nodup)
    (rendered : outcome.rendering = config.output.layout.render (outcome.context config))
    {place : Nat} {model : Model} (there : outcome.models[place]? = some model) :
    outcome.fragment? model.id
      = some (config.output.layout.renderModel (outcome.context config) ⟨place + 1, model⟩) := by
  rw [fragment?, place?_of_nodup nodup there, Option.bind_some, rendered]
  simp only [PageLayout.render, List.getElem?_mapIdx, context, there, Option.map_some]

theorem fragment?_isSome_iff {config : Configuration} {outcome : Outcome}
    (nodup : (outcome.models.map Model.id).Nodup)
    (rendered : outcome.rendering = config.output.layout.render (outcome.context config))
    (id : ModelId) :
    (outcome.fragment? id).isSome = true ↔ ∃ model ∈ outcome.models, model.id = id := by
  constructor
  · intro found
    by_contra absent
    have nobody : ∀ model ∈ outcome.models, model.id ≠ id := by simpa using absent
    rw [fragment?, place?_eq_none nobody] at found
    cases found
  · rintro ⟨model, inside, rfl⟩
    obtain ⟨place, there⟩ := List.getElem?_of_mem inside
    rw [fragment?_of_place nodup rendered there]
    rfl

end Outcome

namespace Engine

open Outcome (Coherent)

/-- The models of solutions, under the ids they get with a configuration. -/
def modelsFound (config : Configuration) (solutions : List Solution) : List Model :=
  solutions.map fun solution => Model.ofSolution solution config.output.idWords.toNat

/-- The outcome of solutions is coherent. -/
theorem coherent_outcomeOf (config : Configuration) (moment : Moment)
    (solutions : List Solution) :
    Coherent config (modelsFound config solutions) (outcomeOf config moment solutions) := by
  have kept := Outcome.firstOfEach_distinct (modelsFound config solutions)
  have ids : ∀ id, id ∈ (outcomeOf config moment solutions).ids
      ↔ ∃ model ∈ (outcomeOf config moment solutions).models, model.id = id :=
    fun id => SortedSet.mem_ofList.trans List.mem_map
  exact {
    firstOfEach := kept
    ids := ids
    modelCount := rfl
    common := by
      change (Model.common? (outcomeOf config moment solutions).models).isSome = true ↔ _
      cases (outcomeOf config moment solutions).models <;> simp [Model.common?]
    fragments := List.length_mapIdx
    fragment_iff := fun id => (Outcome.fragment?_isSome_iff kept.nodup rfl id).trans (ids id).symm
    fragment_eq := fun place model there => Outcome.fragment?_of_place kept.nodup rfl there
    header := by
      change _ ++ (if (outcomeOf config moment solutions).models.isEmpty then _ else _) = _
      simp only [List.isEmpty_iff]
      rfl }

namespace Machine

/-- **What readers see is coherent.**  After a publication, the parts of the outcome agree about the
models that the solver found for the compilation published last. -/
theorem coherent_of_run {config : Configuration} {snapshot : Snapshot} {last : Machine}
    {actions : List Action} (run : (resume config snapshot).run? actions = some last)
    (lasting : ∀ action ∈ actions, action.isRestart = false)
    (published : ∃ action ∈ actions, action.isPublication = true) :
    ∃ begun attempt during moment later solutions,
      LatestPublication (resume config snapshot) actions begun attempt
        (.start attempt.forced :: (during ++ .publish moment :: later)) ∧
      .answer solutions ∈ during ∧ (∀ action ∈ during, action.isStart = false) ∧
      Coherent config (modelsFound config solutions) last.engine.outcome := by
  obtain ⟨begun, attempt, since, latest⟩ := exists_latestPublication run rfl published
  have configured : begun.engine.config = config :=
    (latest.config_eq lasting).trans (resume_config config snapshot)
  obtain ⟨during, moment, later, solutions, rfl, found, others, outcome⟩ :=
    latest.outcome_eq run lasting
  refine ⟨begun, attempt, during, moment, later, solutions, latest, found, others, ?_⟩
  rw [outcome, configured]
  exact coherent_outcomeOf config moment solutions

/-- A compilation with two solutions that are the same model. -/
def sameTwice : List Action := [
  .start true, .answer [⟨[⟨"p", []⟩, ⟨"q", []⟩], []⟩, ⟨[⟨"q", []⟩, ⟨"p", []⟩], []⟩], .publish noon,
  .clear]

theorem canteen_coherent_of_run :
    ∃ last solutions, (resume canteen .empty).run? sameTwice = some last ∧
      .answer solutions ∈ sameTwice ∧ solutions.length = 2 ∧
      Coherent canteen (modelsFound canteen solutions) last.engine.outcome ∧
      last.engine.outcome.models.length = 1 := by
  obtain ⟨begun, attempt, during, moment, later, solutions, latest, found, -, coherent⟩ :=
    @coherent_of_run canteen .empty _ sameTwice rfl (by decide) (by decide)
  obtain ⟨earlier, cut, -⟩ := latest.reached
  have answered : .answer solutions ∈ sameTwice := by
    rw [cut]
    exact List.mem_append_right _ (List.mem_cons_of_mem _ (List.mem_append_left _ found))
  have both : solutions.length = 2 := by
    simp only [sameTwice, List.mem_cons, reduceCtorEq, Action.answer.injEq, List.not_mem_nil,
      false_or, or_false] at answered
    rw [answered]
    rfl
  exact ⟨_, solutions, rfl, answered, both, coherent, by decide +kernel⟩

end Machine

end Engine

end CollectiveChoice
