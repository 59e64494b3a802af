import CollectiveChoice.Page.Front
import CollectiveChoice.Proofs.Model.Content
import CollectiveChoice.Proofs.Term.Order
import Mathlib.Data.List.Forall2
import Mathlib.Order.Bounds.Basic

/-!
# What a score is

To score a model, the first unary atom of each score predicate is taken, and only then it is asked
whether it holds an integer.  Nothing is missed that way.  The atoms of a model are in order, and in
this order integers come before symbolic terms and strings, so the first unary atom leads all other
ones (`leads_of_find?`): it holds the lowest integer, or there is none.

Hence a score can be told without the order.  On each axis it is the lowest integer that the model
holds under the predicate, and zero where it holds none (`Rating`).  Terms, strings and atoms of
other arities do not count, whatever they are (`score_eq_iff_rating`).
-/

namespace CollectiveChoice

set_option autoImplicit false

/-! ## Integers lead -/

namespace Value

/-- A value of a set that comes before all other ones. -/
structure Leads (values : Set Value) (first : Value) : Prop where
  mem : first ∈ values
  before : ∀ other ∈ values, other = first ∨ Before first other

/-- An integer that leads is the lowest one. -/
theorem Leads.isLeast {values : Set Value} {number : Int} (leads : Leads values (.int number)) :
    IsLeast {held : Int | .int held ∈ values} number := by
  refine ⟨leads.mem, fun other inside => ?_⟩
  rcases leads.before (.int other) inside with same | before
  · cases same
    exact le_rfl
  · cases before with
    | int less => exact le_of_lt less

/-- Where anything else leads, there are no integers. -/
theorem Leads.int_not_mem {values : Set Value} {first : Value} (leads : Leads values first)
    (noInteger : first.asInt? = none) (number : Int) : .int number ∉ values := by
  intro inside
  rcases leads.before (.int number) inside with same | before
  · rw [← same] at noInteger
    cases noInteger
  · cases before with
    | int => cases noInteger

end Value

/-! ## The first unary atom -/

namespace Model

/-- The values for which a model holds a unary atom. -/
def unary (model : Model) (predicate : String) : Set Value :=
  {value | ⟨predicate, [value]⟩ ∈ model.atoms}

/-- The integers for which a model holds a unary atom. -/
def numbers (model : Model) (predicate : String) : Set Int :=
  {number | ⟨predicate, [.int number]⟩ ∈ model.atoms}

theorem mem_numbers {model : Model} {predicate : String} {number : Int} :
    number ∈ model.numbers predicate ↔ ⟨predicate, [.int number]⟩ ∈ model.atoms := Iff.rfl

theorem mem_atomsOf {model : Model} {predicate : String} {atom : Atom} :
    atom ∈ model.atomsOf predicate ↔ atom ∈ model.atoms ∧ atom.predicate = predicate := by
  rw [atomsOf, List.mem_filter, beq_iff_eq]
  exact Iff.rfl

theorem ascending_atomsOf (model : Model) (predicate : String) :
    Ascending (model.atomsOf predicate) :=
  model.atoms.ascending.filter _

/-- The first unary atom holds the value that leads. -/
theorem leads_of_find? {model : Model} {predicate : String} {first : Atom}
    (found : (model.atomsOf predicate).find? (fun atom => atom.arity == 1) = some first) :
    ∃ value, first = ⟨predicate, [value]⟩ ∧ Value.Leads (model.unary predicate) value := by
  obtain ⟨name, args⟩ := first
  obtain ⟨inside, rfl⟩ := mem_atomsOf.mp (List.mem_of_find?_eq_some found)
  have single := List.find?_some found
  rw [beq_iff_eq] at single
  obtain ⟨value, rfl⟩ := List.length_eq_one_iff.mp single
  refine ⟨value, rfl, inside, fun other held => ?_⟩
  -- Any other value stands in an atom that passes the same test, so the order of atoms decides.
  have listed : ⟨name, [other]⟩ ∈ model.atomsOf name := mem_atomsOf.mpr ⟨held, rfl⟩
  rcases (ascending_atomsOf model name).eq_or_less_of_find? found listed rfl with same | less
  · cases same
    exact Or.inl rfl
  · rw [Atom.compare_eq_lt_iff_before, Atom.before_unary_iff] at less
    exact Or.inr less

theorem not_mem_unary_of_find? {model : Model} {predicate : String}
    (missing : (model.atomsOf predicate).find? (fun atom => atom.arity == 1) = none)
    (value : Value) : value ∉ model.unary predicate := by
  intro held
  have listed : ⟨predicate, [value]⟩ ∈ model.atomsOf predicate := mem_atomsOf.mpr ⟨held, rfl⟩
  exact List.find?_eq_none.mp missing _ listed rfl

end Model

namespace FrontReport

/-! ## Scores -/

/-- The rating that a set of integers gives: the lowest of them, or zero without any. -/
inductive Rating (numbers : Set Int) : Int → Prop where
  | lowest {number : Int} (least : IsLeast numbers number) : Rating numbers number
  | absent (none : ∀ number, number ∉ numbers) : Rating numbers 0

theorem Rating.unique {numbers : Set Int} {left right : Int} (first : Rating numbers left)
    (second : Rating numbers right) : left = right := by
  cases first with
  | lowest least =>
      cases second with
      | lowest other => exact least.unique other
      | absent none => exact absurd least.1 (none _)
  | absent none =>
      cases second with
      | lowest least => exact absurd least.1 (none _)
      | absent => rfl

theorem rating_scoreOf (model : Model) (predicate : String) :
    Rating (model.numbers predicate) (scoreOf model predicate) := by
  unfold scoreOf
  split
  case h_1 first found =>
    obtain ⟨value, rfl, leads⟩ := Model.leads_of_find? found
    cases value with
    | int number => exact .lowest leads.isLeast
    | sym term => exact .absent (leads.int_not_mem rfl)
    | str content => exact .absent (leads.int_not_mem rfl)
  case h_2 missing =>
    exact .absent fun number => Model.not_mem_unary_of_find? missing (.int number)

theorem scoreOf_eq_iff_rating {model : Model} {predicate : String} {number : Int} :
    scoreOf model predicate = number ↔ Rating (model.numbers predicate) number := by
  constructor
  · rintro rfl
    exact rating_scoreOf model predicate
  · exact (rating_scoreOf model predicate).unique

/-- **A score is well defined by the atoms.**  Under every predicate the number taken for a model is
the lowest integer of which it holds the unary atom, and zero if there is none.  The score consists
of these numbers, one for each axis in order, and it is the same for all models that hold the same
integers under the predicates of the axes, whatever else they hold. -/
theorem score_eq_iff_rating (front : FrontReport) (model : Model) :
    (∀ predicate number,
      scoreOf model predicate = number ↔ Rating (model.numbers predicate) number) ∧
    (∀ score, front.score model = score ↔ List.Forall₂
      (fun axis number => Rating (model.numbers axis.predicate) number) front.axes score) ∧
    ∀ other : Model,
      (∀ axis ∈ front.axes, model.numbers axis.predicate = other.numbers axis.predicate) →
      front.score model = front.score other := by
  refine ⟨?_, ?_, ?_⟩
  · intro predicate number
    exact scoreOf_eq_iff_rating
  · intro score
    rw [FrontReport.score, ← List.forall₂_eq_eq_eq, List.forall₂_map_left_iff]
    simp only [scoreOf_eq_iff_rating]
  · intro other same
    refine List.map_congr_left fun axis shown => ?_
    rw [scoreOf_eq_iff_rating, same axis shown]
    exact rating_scoreOf other axis.predicate

/-- A model with two integers on the first axis among all that does not count, and none on the
second. -/
def crowded : Model :=
  .ofAtoms [⟨"metric_x", [.str "-9"]⟩, ⟨"metric_x", [.int (-9), .int 0]⟩, ⟨"metric_x", [.int 7]⟩,
    ⟨"metric_x", []⟩, ⟨"metric_x", [.sym "low"]⟩, ⟨"metric_x", [.int (-2)]⟩,
    ⟨"metric_y", [.str "5"]⟩, ⟨"metric_y", [.sym "high"]⟩, ⟨"metric_y", [.int 5, .int 5]⟩] 3

/-- The same integers and nothing else. -/
def bare : Model :=
  .ofAtoms [⟨"metric_x", [.int 7]⟩, ⟨"metric_x", [.int (-2)]⟩] 1

theorem crowded_score_eq :
    (∀ axis ∈ standard2.axes, crowded.numbers axis.predicate = bare.numbers axis.predicate) ∧
    standard2.score crowded = standard2.score bare ∧
    standard2.score crowded = [-2, 0] ∧
    Rating (crowded.numbers "metric_x") (-2) ∧ Rating (crowded.numbers "metric_y") 0 := by
  obtain ⟨rated, -, alike⟩ := score_eq_iff_rating standard2 crowded
  have same : ∀ axis ∈ standard2.axes,
      crowded.numbers axis.predicate = bare.numbers axis.predicate := by
    intro axis shown
    have cases : axis = standard2.x ∨ axis = standard2.y := by
      simpa [axes, standard2] using shown
    ext number
    rw [Model.mem_numbers, Model.mem_numbers, crowded, bare, Model.mem_ofAtoms, Model.mem_ofAtoms]
    rcases cases with rfl | rfl <;> simp [standard2]
  refine ⟨same, alike bare same, by decide, ?_, ?_⟩
  · exact (rated "metric_x" (-2)).mp (by decide)
  · exact (rated "metric_y" 0).mp (by decide)

end FrontReport

end CollectiveChoice
