import CollectiveChoice.Order.SortedMap

/-!
# The choices of users

Choices map each user to one selection per choice group, in the order of the groups.  A user may
have selections for the first groups only; storing one for a later group fills the gap.
-/

namespace CollectiveChoice

set_option autoImplicit false

/-- The ids of the items a user selects in a group. -/
abbrev Selection := SortedSet String

/-- The selections of each user, one for each group. -/
abbrev Choices := SortedMap String (List Selection)

/-- Selections extended, where they are too few, by what a function says for the missing groups. -/
def padSelections (fill : Nat → Selection) (selections : List Selection) (count : Nat) :
    List Selection :=
  selections ++ ((List.range count).drop selections.length).map fill

theorem length_padSelections (fill : Nat → Selection) (selections : List Selection) (count : Nat) :
    (padSelections fill selections count).length = max selections.length count := by
  simp only [padSelections, List.length_append, List.length_map, List.length_drop,
    List.length_range]
  omega

theorem getElem?_padSelections (fill : Nat → Selection) (selections : List Selection)
    (count group : Nat) :
    (padSelections fill selections count)[group]?
      = selections[group]?.or (if group < count then some (fill group) else none) := by
  rw [padSelections]
  rcases Nat.lt_or_ge group selections.length with inside | beyond
  · rw [List.getElem?_append_left inside, List.getElem?_eq_getElem inside, Option.some_or]
  · rw [List.getElem?_append_right beyond, List.getElem?_map, List.getElem?_drop,
      Nat.add_sub_cancel' beyond, List.getElem?_eq_none beyond, Option.none_or]
    by_cases padded : group < count
    · rw [List.getElem?_range padded, if_pos padded, Option.map_some]
    · rw [List.getElem?_eq_none (by simpa using padded), if_neg padded, Option.map_none]

namespace Choices

/-- The selection of a user in a group, if there is one. -/
def selection? (choices : Choices) (user : String) (group : Nat) : Option Selection :=
  (choices.find? user).bind fun selections => selections[group]?

/-- The users with choices, in order. -/
def users (choices : Choices) : List String :=
  choices.keys.toList

/-- Stores a selection; earlier groups of the user without one get what `fill` says. -/
def store (choices : Choices) (user : String) (group : Nat) (selection : Selection)
    (fill : Nat → Selection) : Choices :=
  choices.alter user fun stored =>
    (padSelections fill (stored.getD []) (group + 1)).set group selection

theorem find?_store (choices : Choices) (user other : String) (group : Nat)
    (selection : Selection) (fill : Nat → Selection) :
    (choices.store user group selection fill).find? other
      = if other = user then
          some ((padSelections fill ((choices.find? user).getD []) (group + 1)).set group selection)
        else choices.find? other :=
  SortedMap.find?_alter _ _ _ _

/-- Storing a selection changes no other one; it adds those that fill the gap before it. -/
theorem selection?_store (choices : Choices) (user other : String) (group index : Nat)
    (selection : Selection) (fill : Nat → Selection) :
    (choices.store user group selection fill).selection? other index
      = if other = user then
          if index = group then some selection
          else (choices.selection? user index).or (if index < group then some (fill index) else none)
        else choices.selection? other index := by
  simp only [selection?, find?_store]
  by_cases mine : other = user
  · rw [if_pos mine, if_pos mine, Option.bind_some]
    by_cases here : index = group
    · subst here
      rw [if_pos rfl, List.getElem?_set_self]
      rw [length_padSelections]
      omega
    · have behind : index < group + 1 ↔ index < group := by omega
      have before : ((choices.find? user).getD [])[index]?
          = (choices.find? user).bind fun selections => selections[index]? := by
        cases choices.find? user <;> rfl
      rw [if_neg here, List.getElem?_set_ne (Ne.symm here), getElem?_padSelections, before]
      simp only [behind]
  · rw [if_neg mine, if_neg mine]

end Choices

end CollectiveChoice
