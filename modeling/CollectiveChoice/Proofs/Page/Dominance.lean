import CollectiveChoice.Page.Front
import Mathlib.Data.List.Forall2
import Mathlib.Order.WellFoundedSet

/-!
# The front of a collection of scores

A score surpasses another one if it is at least as good on every axis and better on one
(`Surpasses`).  That is what the comparison of scores decides (`dominates_eq_true_iff`), and it is a
strict order in which scores of different lengths are not related.

A collection of scores is finite, so going up in this order ends, and it ends on the front
(`exists_surpasses_of_not_mem`).  Hence the front is never empty unless the collection is, and what
is not on the front of a part of the collection does not count for the front of the whole
(`paretoFront_exact`).
-/

namespace CollectiveChoice

set_option autoImplicit false

/-! ## Surpassing -/

/-- A score is at least as good as another one on every axis, and better on one. -/
structure Surpasses (better worse : Score) : Prop where
  atLeast : List.Forall₂ (· ≥ ·) better worse
  strictly : ∃ pair ∈ better.zip worse, pair.2 < pair.1

theorem atLeast_trans {first second third : Score} (left : List.Forall₂ (· ≥ ·) first second)
    (right : List.Forall₂ (· ≥ ·) second third) : List.Forall₂ (· ≥ ·) first third := by
  induction left generalizing third with
  | nil => exact right
  | cons here _ ih =>
      obtain ⟨number, rest, there, behind, rfl⟩ := List.forall₂_cons_left_iff.mp right
      exact .cons (le_trans there here) (ih behind)

theorem eq_of_atLeast {left right : Score} (above : List.Forall₂ (· ≥ ·) left right)
    (notBelow : ∀ pair ∈ left.zip right, ¬pair.2 < pair.1) : left = right := by
  have equal : List.Forall₂ (· = ·) left right := by
    refine List.forall₂_iff_zip.mpr ⟨above.length_eq, fun {high low} inside => ?_⟩
    exact le_antisymm (not_lt.mp (notBelow _ inside)) (List.forall₂_zip above inside)
  rwa [List.forall₂_eq_eq_eq] at equal

/-- Instead of one axis on which a score is better, it can be asked that the scores differ. -/
theorem surpasses_iff_ne {better worse : Score} :
    Surpasses better worse ↔ List.Forall₂ (· ≥ ·) better worse ∧ better ≠ worse := by
  constructor
  · rintro ⟨atLeast, pair, inside, less⟩
    refine ⟨atLeast, ?_⟩
    rintro rfl
    have same : List.Forall₂ (· ≤ ·) better better := List.forall₂_refl better
    exact absurd less (not_lt.mpr (List.forall₂_zip same inside))
  · rintro ⟨atLeast, differ⟩
    refine ⟨atLeast, ?_⟩
    by_contra nowhere
    refine differ (eq_of_atLeast atLeast fun pair inside less => nowhere ⟨pair, inside, less⟩)

/-- The comparison of scores decides whether one surpasses the other. -/
theorem dominates_eq_true_iff {better worse : Score} :
    dominates better worse = true ↔ Surpasses better worse := by
  rw [surpasses_iff_ne, List.forall₂_iff_zip]
  simp only [dominates, Bool.and_eq_true, beq_iff_eq, bne_iff_ne, List.all_eq_true,
    decide_eq_true_eq, Prod.forall, ge_iff_le]

namespace Surpasses

variable {better middle worse : Score}

theorem irrefl (score : Score) : ¬Surpasses score score := fun surpasses =>
  (surpasses_iff_ne.mp surpasses).2 rfl

theorem trans (first : Surpasses better middle) (second : Surpasses middle worse) :
    Surpasses better worse := by
  refine surpasses_iff_ne.mpr ⟨atLeast_trans first.atLeast second.atLeast, ?_⟩
  rintro rfl
  -- Going around would make the score in the middle equal to both ends.
  obtain ⟨pair, inside, less⟩ := first.strictly
  have below : List.Forall₂ (· ≤ ·) better middle := second.atLeast.flip
  exact absurd less (not_lt.mpr (List.forall₂_zip below inside))

instance : IsStrictOrder Score (fun better worse => Surpasses better worse) where
  irrefl := irrefl
  trans _ _ _ := trans

end Surpasses

/-! ## The front -/

variable {scores others : List Score}

theorem mem_paretoFront {score : Score} :
    score ∈ paretoFront scores
      ↔ score ∈ scores ∧ ∀ other ∈ scores, ¬Surpasses other score := by
  have members : ∀ other, other ∈ (SortedSet.ofList scores).toList ↔ other ∈ scores :=
    fun _ => SortedSet.mem_ofList
  simp only [paretoFront, SortedSet.mem_filter, SortedSet.mem_ofList, Bool.not_eq_true',
    List.any_eq_false, members, dominates_eq_true_iff]

/-- Going up from a score of the collection, one comes to the front. -/
theorem exists_surpasses_of_not_mem {score : Score} (inside : score ∈ scores)
    (outside : score ∉ paretoFront scores) :
    ∃ best ∈ paretoFront scores, Surpasses best score := by
  have ascent : {score | score ∈ scores}.WellFoundedOn fun better worse => Surpasses better worse :=
    scores.finite_toSet.wellFoundedOn
  -- What surpasses a score comes before it in this induction.
  refine ascent.induction (P := fun score => score ∉ paretoFront scores →
    ∃ best ∈ paretoFront scores, Surpasses best score) inside ?_ outside
  intro score inside above outside
  obtain ⟨other, member, surpasses⟩ : ∃ other ∈ scores, Surpasses other score := by
    by_contra nowhere
    refine outside (mem_paretoFront.mpr ⟨inside, fun other member surpasses => ?_⟩)
    exact nowhere ⟨other, member, surpasses⟩
  by_cases best : other ∈ paretoFront scores
  · exact ⟨other, best, surpasses⟩
  · obtain ⟨best, onFront, higher⟩ := above other member surpasses best
    exact ⟨best, onFront, higher.trans surpasses⟩

/-- Each score of the collection is reached from the front. -/
theorem exists_mem_paretoFront_of_mem {score : Score} (inside : score ∈ scores) :
    ∃ best ∈ paretoFront scores, best = score ∨ Surpasses best score := by
  by_cases onFront : score ∈ paretoFront scores
  · exact ⟨score, onFront, Or.inl rfl⟩
  · obtain ⟨best, member, surpasses⟩ := exists_surpasses_of_not_mem inside onFront
    exact ⟨best, member, Or.inr surpasses⟩

theorem paretoFront_eq_empty_iff : (paretoFront scores).toList = [] ↔ scores = [] := by
  constructor
  · intro none
    refine List.eq_nil_iff_forall_not_mem.mpr fun score inside => ?_
    obtain ⟨best, onFront, -⟩ := exists_mem_paretoFront_of_mem inside
    rw [← SortedSet.mem_toList, none] at onFront
    cases onFront
  · rintro rfl
    rfl

/-- The front does not change if scores that others of the collection surpass, or equal, are left
out. -/
theorem paretoFront_eq_of_cover (included : others ⊆ scores)
    (cover : ∀ score ∈ scores, ∃ other ∈ others, other = score ∨ Surpasses other score) :
    paretoFront scores = paretoFront others := by
  apply SortedSet.ext_mem
  intro score
  rw [mem_paretoFront, mem_paretoFront]
  constructor
  · rintro ⟨inside, unsurpassed⟩
    obtain ⟨other, member, equal | surpasses⟩ := cover score inside
    · refine ⟨equal ▸ member, fun other member => ?_⟩
      exact unsurpassed other (included member)
    · exact absurd surpasses (unsurpassed other (included member))
  · rintro ⟨inside, unsurpassed⟩
    refine ⟨included inside, fun better member surpasses => ?_⟩
    obtain ⟨other, kept, equal | higher⟩ := cover better member
    · exact unsurpassed other kept (equal ▸ surpasses)
    · exact unsurpassed other kept (higher.trans surpasses)

theorem mem_union_paretoFront {score : Score} :
    score ∈ ((paretoFront scores).union (paretoFront others)).toList
      ↔ score ∈ paretoFront scores ∨ score ∈ paretoFront others :=
  SortedSet.mem_union

/-- The front of two collections is that of their fronts. -/
theorem paretoFront_append (scores others : List Score) :
    paretoFront (scores ++ others)
      = paretoFront ((paretoFront scores).union (paretoFront others)).toList := by
  apply paretoFront_eq_of_cover
  · intro score inside
    rw [mem_union_paretoFront, mem_paretoFront, mem_paretoFront] at inside
    exact List.mem_append.mpr (inside.imp And.left And.left)
  · intro score inside
    rcases List.mem_append.mp inside with first | second
    · obtain ⟨best, onFront, reaches⟩ := exists_mem_paretoFront_of_mem first
      exact ⟨best, mem_union_paretoFront.mpr (Or.inl onFront), reaches⟩
    · obtain ⟨best, onFront, reaches⟩ := exists_mem_paretoFront_of_mem second
      exact ⟨best, mem_union_paretoFront.mpr (Or.inr onFront), reaches⟩

/-- **The front is exact, and fronts can be put together.**  On the front are those scores of the
collection that no score of the collection surpasses.  The other ones are surpassed by a score of the
front itself.  There is no front just if there is no score.  And the front of two collections is that
of their fronts. -/
theorem paretoFront_exact (scores others : List Score) :
    (∀ score, score ∈ paretoFront scores
      ↔ score ∈ scores ∧ ∀ other ∈ scores, ¬Surpasses other score) ∧
    (∀ score ∈ scores, score ∉ paretoFront scores →
      ∃ best ∈ paretoFront scores, Surpasses best score) ∧
    ((paretoFront scores).toList = [] ↔ scores = []) ∧
    paretoFront (scores ++ others)
      = paretoFront ((paretoFront scores).union (paretoFront others)).toList := by
  refine ⟨?_, ?_, paretoFront_eq_empty_iff, paretoFront_append scores others⟩
  · intro score
    exact mem_paretoFront
  · intro score inside outside
    exact exists_surpasses_of_not_mem inside outside

/-- Scores of three lengths, one of them twice. -/
def uneven : List Score := [[3, 3], [1, 5], [2, 2], [0], [3, 3], [5, 1], [9], [1, 5, 0]]

theorem uneven_paretoFront_exact :
    (paretoFront uneven).toList = [[1, 5], [1, 5, 0], [3, 3], [5, 1], [9]] ∧
    [2, 2] ∈ uneven ∧ [2, 2] ∉ paretoFront uneven ∧
    (∃ best ∈ paretoFront uneven, Surpasses best [2, 2]) ∧
    paretoFront (uneven ++ [[4, 3]])
      = paretoFront ((paretoFront uneven).union (paretoFront [[4, 3]])).toList := by
  obtain ⟨-, reached, -, together⟩ := paretoFront_exact uneven [[4, 3]]
  have front : (paretoFront uneven).toList = [[1, 5], [1, 5, 0], [3, 3], [5, 1], [9]] := by decide
  have inside : [2, 2] ∈ uneven := by decide
  have outside : [2, 2] ∉ paretoFront uneven := by
    rw [← SortedSet.mem_toList, front]
    decide
  exact ⟨front, inside, outside, reached [2, 2] inside outside, together⟩

end CollectiveChoice
