import Mathlib.Data.List.Basic
import CollectiveChoice.Engine.Outcome
import CollectiveChoice.Proofs.Order.Lexicographic

/-!
# Models with one id count once

Of the models a solver finds, those whose id was there before are left out (`Outcome.distinct`).
What is left is the first model of each id, in the order in which the ids occur first
(`firstOfEach_distinct`).  No id is lost (`mem_ids_distinct`), and there are as many models left as
there are ids (`length_distinct`).

Nothing is said about how a model gets its id: models with different atoms may share one.
-/

namespace CollectiveChoice

set_option autoImplicit false

/-- A set has as many members as a list without repetitions that it is made from. -/
theorem SortedSet.size_ofList_of_nodup {α : Type} [Ord α] [Std.LawfulEqOrd α] [Std.TransOrd α]
    {values : List α} (nodup : values.Nodup) : (ofList values).size = values.length := by
  have once : (ofList values).toList.Nodup := (ofList values).ascending.nodup
  exact ((List.perm_ext_iff_of_nodup once nodup).mpr fun value => mem_ofList).length_eq

namespace Outcome

/-- The place of the first model with an id. -/
def firstPlace (models : List Model) (id : ModelId) : Nat :=
  models.findIdx fun model => model.id == id

theorem firstPlace_cons_self {model : Model} {rest : List Model} :
    firstPlace (model :: rest) model.id = 0 := by
  simp [firstPlace, List.findIdx_cons]

theorem firstPlace_cons_of_ne {model : Model} {rest : List Model} {id : ModelId}
    (other : id ≠ model.id) : firstPlace (model :: rest) id = firstPlace rest id + 1 := by
  simp [firstPlace, List.findIdx_cons, beq_eq_false_iff_ne.mpr other.symm]

/-- The first model of each id, in the order in which the ids occur first. -/
structure FirstOfEach (models kept : List Model) : Prop where
  nodup : (kept.map Model.id).Nodup
  /-- No id is lost. -/
  complete : ∀ model ∈ models, ∃ first ∈ kept, first.id = model.id
  first : ∀ model ∈ kept, models[firstPlace models model.id]? = some model
  ordered : kept.Pairwise fun earlier later =>
    firstPlace models earlier.id < firstPlace models later.id

/-! ## What is left -/

/-- The ids that are left are those not seen before. -/
theorem mem_map_id_distinct {seen : SortedSet ModelId} {models : List Model} {id : ModelId} :
    id ∈ (distinct seen models).map Model.id ↔ id ∈ models.map Model.id ∧ id ∉ seen := by
  induction models generalizing seen with
  | nil => simp [distinct_nil]
  | cons model rest ih =>
      rw [distinct_cons]
      split
      · rename_i known
        rw [SortedSet.contains_iff_mem] at known
        rw [ih, List.map_cons, List.mem_cons]
        refine and_congr_left fun fresh => (or_iff_right ?_).symm
        rintro rfl
        exact fresh known
      · rename_i new
        rw [SortedSet.contains_iff_mem] at new
        rw [List.map_cons, List.mem_cons, ih, SortedSet.mem_insert, List.map_cons, List.mem_cons]
        by_cases same : id = model.id
        · simp [same, new]
        · simp [same]

theorem nodup_map_id_distinct (seen : SortedSet ModelId) (models : List Model) :
    ((distinct seen models).map Model.id).Nodup := by
  induction models generalizing seen with
  | nil => exact List.nodup_nil
  | cons model rest ih =>
      rw [distinct_cons]
      split
      · exact ih seen
      · refine List.nodup_cons.mpr ⟨fun again => ?_, ih _⟩
        exact (mem_map_id_distinct.mp again).2 (SortedSet.mem_insert.mpr (Or.inl rfl))

theorem not_mem_of_mem_distinct {seen : SortedSet ModelId} {models : List Model} {model : Model}
    (inside : model ∈ distinct seen models) : model.id ∉ seen :=
  (mem_map_id_distinct.mp (List.mem_map_of_mem inside)).2

/-- A model that is left is the first one with its id. -/
theorem getElem?_firstPlace_of_mem_distinct {seen : SortedSet ModelId} {models : List Model}
    {model : Model} (inside : model ∈ distinct seen models) :
    models[firstPlace models model.id]? = some model := by
  induction models generalizing seen with
  | nil => cases inside
  | cons head rest ih =>
      rw [distinct_cons] at inside
      split at inside
      · rename_i known
        have other : model.id ≠ head.id := by
          intro same
          rw [← same, SortedSet.contains_iff_mem] at known
          exact not_mem_of_mem_distinct inside known
        rw [firstPlace_cons_of_ne other, List.getElem?_cons_succ, ih inside]
      · rcases List.mem_cons.mp inside with rfl | deeper
        · rw [firstPlace_cons_self, List.getElem?_cons_zero]
        · have other : model.id ≠ head.id := fun same =>
            not_mem_of_mem_distinct deeper (SortedSet.mem_insert.mpr (Or.inl same))
          rw [firstPlace_cons_of_ne other, List.getElem?_cons_succ, ih deeper]

/-- Models are left in the order in which their ids occur first. -/
theorem pairwise_firstPlace_distinct (seen : SortedSet ModelId) (models : List Model) :
    (distinct seen models).Pairwise fun earlier later =>
      firstPlace models earlier.id < firstPlace models later.id := by
  induction models generalizing seen with
  | nil => exact List.Pairwise.nil
  | cons head rest ih =>
      rw [distinct_cons]
      split
      · rename_i known
        rw [SortedSet.contains_iff_mem] at known
        have others : ∀ model ∈ distinct seen rest, model.id ≠ head.id := fun model inside same =>
          not_mem_of_mem_distinct inside (same ▸ known)
        refine (ih seen).imp_of_mem fun {earlier later} insideEarlier insideLater before => ?_
        rw [firstPlace_cons_of_ne (others earlier insideEarlier),
          firstPlace_cons_of_ne (others later insideLater)]
        exact Nat.succ_lt_succ before
      · have others : ∀ model ∈ distinct (seen.insert head.id) rest, model.id ≠ head.id :=
          fun model inside same =>
            not_mem_of_mem_distinct inside (SortedSet.mem_insert.mpr (Or.inl same))
        refine List.pairwise_cons.mpr ⟨fun later inside => ?_, ?_⟩
        · rw [firstPlace_cons_self, firstPlace_cons_of_ne (others later inside)]
          exact Nat.succ_pos _
        · refine (ih _).imp_of_mem fun {earlier later} insideEarlier insideLater before => ?_
          rw [firstPlace_cons_of_ne (others earlier insideEarlier),
            firstPlace_cons_of_ne (others later insideLater)]
          exact Nat.succ_lt_succ before

/-! ## All models together -/

theorem mem_ids_distinct {models : List Model} {id : ModelId} :
    id ∈ SortedSet.ofList ((distinct .empty models).map Model.id) ↔ id ∈ models.map Model.id := by
  rw [SortedSet.mem_ofList, mem_map_id_distinct]
  exact and_iff_left List.not_mem_nil

/-- As many models are left as there are ids. -/
theorem length_distinct (models : List Model) :
    (distinct .empty models).length
      = (SortedSet.ofList ((distinct .empty models).map Model.id)).size := by
  rw [SortedSet.size_ofList_of_nodup (nodup_map_id_distinct .empty models), List.length_map]

/-- **What is left is the first model of each id.** -/
theorem firstOfEach_distinct (models : List Model) : FirstOfEach models (distinct .empty models) where
  nodup := nodup_map_id_distinct .empty models
  complete := by
    intro model inside
    have kept : model.id ∈ (distinct .empty models).map Model.id :=
      mem_map_id_distinct.mpr ⟨List.mem_map_of_mem inside, List.not_mem_nil⟩
    exact List.mem_map.mp kept
  first := fun model inside => getElem?_firstPlace_of_mem_distinct inside
  ordered := pairwise_firstPlace_distinct .empty models

end Outcome

end CollectiveChoice
