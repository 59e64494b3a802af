import Mathlib.Data.List.Lex
import CollectiveChoice.Order.SortedSet

/-!
# What the order of sets is

Sets are kept in ascending order, and what that order is follows from the values they hold.  Texts
are compared character by character (`compare_text_eq_lt_iff`), lists position by position, where a
list comes before those that continue it (`compare_list_eq_lt_iff_lex`).

Whatever the order is, an ascending list holds no value twice (`Ascending.nodup`), and the first of
its members to pass a test is the least of those that pass it (`Ascending.eq_or_less_of_find?`).
-/

namespace CollectiveChoice

set_option autoImplicit false

theorem compare_text_eq_lt_iff {left right : String} : compare left right = .lt ↔ left < right :=
  compareOfLessAndEq_eq_lt

section

variable {α : Type} [Ord α] [Std.LawfulEqOrd α]

/-- Lists are compared in lexicographic order. -/
theorem compare_list_eq_lt_iff_lex {before : α → α → Prop}
    (decides : ∀ left right : α, compare left right = .lt ↔ before left right)
    {left right : List α} : compare left right = .lt ↔ List.Lex before left right := by
  induction left generalizing right with
  | nil =>
      cases right with
      | nil => exact iff_of_false nofun nofun
      | cons => exact iff_of_true rfl .nil
  | cons head rest ih =>
      cases right with
      | nil => exact iff_of_false nofun nofun
      | cons other others =>
          rw [List.compare_cons_cons, Ordering.then_eq_lt, decides,
            Std.LawfulEqOrd.compare_eq_iff_eq, ih, List.cons_lex_cons_iff]

omit [Std.LawfulEqOrd α] in
theorem Ascending.nodup [Std.ReflOrd α] {members : List α} (ascending : Ascending members) :
    members.Nodup := by
  refine ascending.imp fun {earlier later} less same => ?_
  rw [same, Std.ReflOrd.compare_self] at less
  cases less

omit [Std.LawfulEqOrd α] in
/-- The first member of an ascending list to pass a test comes before all others that pass it. -/
theorem Ascending.eq_or_less_of_find? {members : List α} {test : α → Bool} {first other : α}
    (ascending : Ascending members) (found : members.find? test = some first)
    (inside : other ∈ members) (passes : test other = true) :
    other = first ∨ compare first other = .lt := by
  -- All that stands in front of the first match fails the test.
  obtain ⟨-, earlier, later, rfl, fails⟩ := List.find?_eq_some_iff_append.mp found
  rcases List.mem_append.mp inside with before | behind
  · have failed := fails other before
    rw [passes] at failed
    cases failed
  · have less := List.pairwise_cons.mp (List.pairwise_append.mp ascending).2.1
    exact (List.mem_cons.mp behind).imp_right (less.1 other)

end

end CollectiveChoice
