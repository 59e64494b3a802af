/-!
# Steps that succeed

Reading and checking are done in steps, any of which can fail.  What it takes for steps one after
the other to succeed is said here once, for results of any kind, and for a check also what it takes to
fail.
-/

namespace CollectiveChoice

set_option autoImplicit false

variable {ε α β : Type}

/-- Two steps succeed if the first one does and the second one does with its result. -/
theorem bind_eq_ok_iff {first : Except ε α} {next : α → Except ε β} {result : β} :
    first >>= next = .ok result ↔ ∃ value, first = .ok value ∧ next value = .ok result := by
  cases first with
  | error error => exact iff_of_false nofun (by simp)
  | ok value => exact ⟨fun second => ⟨value, rfl, second⟩, fun ⟨_, rfl, second⟩ => second⟩

/-- A check succeeds together with what comes behind it. -/
theorem check_bind_eq_ok_iff {check : Except ε Unit} {next : Unit → Except ε α} {result : α} :
    check >>= next = .ok result ↔ check = .ok () ∧ next () = .ok result :=
  bind_eq_ok_iff.trans ⟨fun ⟨(), both⟩ => both, fun both => ⟨(), both⟩⟩

/-- A check fails together with what comes behind it if one of the two does. -/
theorem check_bind_eq_error_iff {check : Except ε Unit} {next : Unit → Except ε α} {error : ε} :
    check >>= next = .error error
      ↔ check = .error error ∨ check = .ok () ∧ next () = .error error := by
  cases check with
  | error found => simp [bind, Except.bind]
  | ok done => simp [bind, Except.bind]

theorem ok_bind (value : α) (next : α → Except ε β) : Except.ok value >>= next = next value := rfl

theorem map_ok (value : α) (image : α → β) :
    (Except.ok value : Except ε α).map image = .ok (image value) := rfl

theorem map_map {γ : Type} (first : Except ε α) (image : α → β) (next : β → γ) :
    (first.map image).map next = first.map fun value => next (image value) := by
  cases first <;> rfl

theorem map_eq_ok_iff {first : Except ε α} {image : α → β} {result : β} :
    first.map image = .ok result ↔ ∃ value, first = .ok value ∧ image value = result := by
  cases first with
  | error error => exact iff_of_false nofun (by simp)
  | ok value => simp [Except.map]

/-- What comes behind a condition of failure is done if the condition does not hold. -/
theorem guard_eq_ok_iff {condition : Prop} [Decidable condition] {error : ε}
    {next : PUnit → Except ε α} {result : α} :
    (if condition then throw error >>= next else next PUnit.unit) = .ok result
      ↔ ¬condition ∧ next PUnit.unit = .ok result := by
  by_cases fails : condition
  · rw [if_pos fails]
    exact iff_of_false nofun fun both => both.1 fails
  · rw [if_neg fails]
    exact ⟨fun rest => ⟨fails, rest⟩, And.right⟩

theorem throw_eq_ok_iff {condition : Prop} [Decidable condition] {error : ε} :
    (if condition then throw error else pure ()) = (.ok () : Except ε Unit) ↔ ¬condition := by
  by_cases fails : condition
  · rw [if_pos fails]
    exact iff_of_false nofun (not_not_intro fails)
  · rw [if_neg fails]
    exact iff_of_true rfl fails

end CollectiveChoice
