import Mathlib.Data.List.Forall2
import CollectiveChoice.Proofs.Term.Splitting

/-!
# Other names in the same text

A name is a run of letters, digits, underscores and hyphens.  Two texts that agree everywhere but in
names are *renamed* (`Renamed`): where the one has a name, the other one may have a name as well, of
any length.  Nothing is said about where the names stand, so that a name may be the end of a longer
word, stand in a string, or follow a backslash.

What looks at single characters does not see the difference, as long as all characters of names are
alike to it: dropping blanks or full stops at an end leaves renamed texts (`Renamed.dropWhile`),
characters that are in no name occur in both texts with renamed texts around them
(`Renamed.exists_append_cons`), and a reader of arguments is led to the same position
(`Renamed.walk?_eq`).  So renamed texts are atoms with equally many arguments, or none of them is an
atom (`Renamed.exists_reads`).
-/

namespace CollectiveChoice

set_option autoImplicit false

/-! ## Names -/

/-- Whether a character may stand in a name. -/
def isNameChar (c : Char) : Bool :=
  c.isAlphanum || c == '_' || c == '-'

theorem isNameChar_eq_true_iff {c : Char} :
    isNameChar c = true ↔ c.isAlphanum = true ∨ c = '_' ∨ c = '-' := by
  simp [isNameChar, or_assoc]

theorem isBlank_of_isNameChar {c : Char} (named : isNameChar c = true) :
    Text.isBlank c = false := by
  rcases isNameChar_eq_true_iff.mp named with alphanumeric | rfl | rfl
  · exact Text.isBlank_of_isAlphanum alphanumeric
  · rfl
  · rfl

/-- Characters of a name. -/
structure IsName (chars : List Char) : Prop where
  nonempty : chars ≠ []
  named : ∀ c ∈ chars, isNameChar c = true

theorem IsName.reverse {chars : List Char} (name : IsName chars) : IsName chars.reverse where
  nonempty := by simpa using name.nonempty
  named c inside := name.named c (List.mem_reverse.mp inside)

/-! ## Renamed texts -/

/-- Characters that agree everywhere but in names. -/
inductive Renamed : List Char → List Char → Prop where
  | nil : Renamed [] []
  | same (c : Char) {left right : List Char} (rest : Renamed left right) :
      Renamed (c :: left) (c :: right)
  | name {first second left right : List Char} (isName : IsName first) (isOther : IsName second)
      (rest : Renamed left right) : Renamed (first ++ left) (second ++ right)

namespace Renamed

variable {left right : List Char}

theorem refl (chars : List Char) : Renamed chars chars := by
  induction chars with
  | nil => exact .nil
  | cons c rest ih => exact .same c ih

theorem symm (renamed : Renamed left right) : Renamed right left := by
  induction renamed with
  | nil => exact .nil
  | same c _ ih => exact .same c ih
  | name isName isOther _ ih => exact .name isOther isName ih

theorem of_isName (isName : IsName left) (isOther : IsName right) : Renamed left right := by
  have renamed := Renamed.name isName isOther .nil
  rwa [List.append_nil, List.append_nil] at renamed

theorem append (renamed : Renamed left right) {after later : List Char}
    (rest : Renamed after later) : Renamed (left ++ after) (right ++ later) := by
  induction renamed with
  | nil => exact rest
  | same c _ ih => exact .same c ih
  | name isName isOther _ ih =>
      rw [List.append_assoc, List.append_assoc]
      exact .name isName isOther ih

theorem reverse (renamed : Renamed left right) : Renamed left.reverse right.reverse := by
  induction renamed with
  | nil => exact .nil
  | same c _ ih =>
      rw [List.reverse_cons, List.reverse_cons]
      exact ih.append (.refl [c])
  | name isName isOther _ ih =>
      rw [List.reverse_append, List.reverse_append]
      exact ih.append (.of_isName isName.reverse isOther.reverse)

theorem eq_nil_iff (renamed : Renamed left right) : left = [] ↔ right = [] := by
  cases renamed with
  | nil => exact .rfl
  | same => exact iff_of_false (List.cons_ne_nil _ _) (List.cons_ne_nil _ _)
  | name isName isOther =>
      exact iff_of_false (List.append_ne_nil_of_left_ne_nil isName.nonempty _)
        (List.append_ne_nil_of_left_ne_nil isOther.nonempty _)

/-! ### Dropping characters at an end -/

theorem dropWhile_name {drop : Char → Bool} (spares : ∀ c, isNameChar c = true → drop c = false)
    {name : List Char} (isName : IsName name) (rest : List Char) :
    (name ++ rest).dropWhile drop = name ++ rest := by
  cases name with
  | nil => exact absurd rfl isName.nonempty
  | cons c more =>
      have spared : ¬ drop c = true :=
        Bool.eq_false_iff.mp (spares c (isName.named c List.mem_cons_self))
      rw [List.cons_append, List.dropWhile_cons_of_neg spared]

/-- Characters that are in no name are dropped from both. -/
theorem dropWhile {drop : Char → Bool} (spares : ∀ c, isNameChar c = true → drop c = false)
    (renamed : Renamed left right) : Renamed (left.dropWhile drop) (right.dropWhile drop) := by
  induction renamed with
  | nil => exact .nil
  | same c rest ih =>
      rw [List.dropWhile_cons, List.dropWhile_cons]
      split
      · exact ih
      · exact .same c rest
  | name isName isOther rest =>
      rw [dropWhile_name spares isName, dropWhile_name spares isOther]
      exact .name isName isOther rest

theorem dropEndWhile {drop : Char → Bool} (spares : ∀ c, isNameChar c = true → drop c = false)
    (renamed : Renamed left right) :
    Renamed (Text.dropEndWhile drop left) (Text.dropEndWhile drop right) :=
  (renamed.reverse.dropWhile spares).reverse

theorem trimChars (renamed : Renamed left right) :
    Renamed (Text.trimChars left) (Text.trimChars right) :=
  (renamed.dropWhile fun _ => isBlank_of_isNameChar).dropEndWhile fun _ => isBlank_of_isNameChar

/-! ### Characters that are in no name -/

/-- A character that is in no name has its counterpart, with renamed texts around it. -/
theorem exists_append_cons {c : Char} (unnamed : isNameChar c = false) {before after : List Char}
    (renamed : Renamed left right) (cut : left = before ++ c :: after) :
    ∃ front back, right = front ++ c :: back ∧ Renamed before front ∧ Renamed after back := by
  induction renamed generalizing before with
  | nil => simp at cut
  | @same head left right rest ih =>
      cases before with
      | nil =>
          obtain ⟨rfl, rfl⟩ := List.cons.inj cut
          exact ⟨[], right, rfl, .nil, rest⟩
      | cons first before =>
          obtain ⟨rfl, further⟩ := List.cons.inj cut
          obtain ⟨front, back, rfl, around, behind⟩ := ih further
          exact ⟨head :: front, back, rfl, .same head around, behind⟩
  | @name first second left right isName isOther rest ih =>
      rcases List.append_eq_append_iff.mp cut with ⟨more, rfl, further⟩ | ⟨more, rfl, further⟩
      · obtain ⟨front, back, rfl, around, behind⟩ := ih further
        exact ⟨second ++ front, back, (List.append_assoc ..).symm,
          .name isName isOther around, behind⟩
      · -- The name would have to go on with the character.
        cases more with
        | nil =>
            obtain ⟨front, back, rfl, around, behind⟩ := @ih [] further.symm
            refine ⟨second ++ front, back, (List.append_assoc ..).symm, ?_, behind⟩
            rw [List.append_nil] at isName
            have name := Renamed.name isName isOther around
            rwa [List.append_nil] at name
        | cons head more =>
            obtain ⟨rfl, -⟩ := List.cons.inj further
            have named := isName.named c (List.mem_append_right _ List.mem_cons_self)
            rw [unnamed] at named
            cases named

theorem mem_of_mem {c : Char} (unnamed : isNameChar c = false) (renamed : Renamed left right)
    (inside : c ∈ left) : c ∈ right := by
  obtain ⟨before, after, cut⟩ := List.append_of_mem inside
  obtain ⟨front, back, rfl, -, -⟩ := renamed.exists_append_cons unnamed cut
  exact List.mem_append_right _ List.mem_cons_self

theorem mem_iff {c : Char} (unnamed : isNameChar c = false) (renamed : Renamed left right) :
    c ∈ left ↔ c ∈ right :=
  ⟨renamed.mem_of_mem unnamed, renamed.symm.mem_of_mem unnamed⟩

/-- Texts with commas between them are renamed part by part. -/
theorem exists_intercalate {parts : List (List Char)} (nonempty : parts ≠ [])
    (renamed : Renamed ([','].intercalate parts) right) :
    ∃ others, right = [','].intercalate others ∧ List.Forall₂ Renamed parts others := by
  induction parts generalizing right with
  | nil => exact absurd rfl nonempty
  | cons part rest ih =>
      cases rest with
      | nil =>
          rw [List.intercalate_singleton] at renamed
          exact ⟨[right], List.intercalate_singleton.symm, .cons renamed .nil⟩
      | cons next more =>
          rw [List.intercalate_cons_cons, List.append_assoc, List.singleton_append] at renamed
          obtain ⟨front, back, rfl, first, behind⟩ := renamed.exists_append_cons rfl rfl
          obtain ⟨others, rfl, pairwise⟩ := ih (List.cons_ne_nil _ _) behind
          refine ⟨front :: others, ?_, .cons first pairwise⟩
          cases pairwise with
          | cons => rw [List.intercalate_cons_cons, List.append_assoc, List.singleton_append]

end Renamed

/-! ## Reading renamed texts -/

namespace Atom

open Position

namespace Position

/-- Where a name leads.  Only a backslash before it is used up by its first character. -/
def past (position : Position) : Position :=
  match position.place with
  | .escaped => inside position.depth
  | _ => position

theorem delimits_of_isNameChar {c : Char} (named : isNameChar c = true) : delimits c = false := by
  refine Bool.eq_false_iff.mpr fun delimiter => ?_
  rcases delimits_eq_true_iff.mp delimiter with rfl | rfl | rfl | rfl <;> cases named

theorem next?_of_isNameChar {c : Char} (named : isNameChar c = true) (position : Position) :
    position.next? c = some position.past := by
  obtain ⟨depth, place⟩ := position
  cases place with
  | escaped => rfl
  | outside => exact next?_outside_of_not_delimits (delimits_of_isNameChar named) depth
  | inside =>
      have backslash : c ≠ '\\' := by
        rintro rfl
        cases named
      have quote : c ≠ '"' := by
        rintro rfl
        cases named
      simp only [next?, if_neg backslash, if_neg quote, past]

theorem past_past (position : Position) : position.past.past = position.past := by
  obtain ⟨depth, place⟩ := position
  cases place <;> rfl

theorem walk?_name {name : List Char} (isName : IsName name) (position : Position) :
    position.walk? name = some position.past := by
  obtain ⟨nonempty, named⟩ := isName
  induction name generalizing position with
  | nil => exact absurd rfl nonempty
  | cons c rest ih =>
      rw [walk?_cons, next?_of_isNameChar (named c List.mem_cons_self), Option.bind_some]
      cases rest with
      | nil => rfl
      | cons next more =>
          have others : ∀ other ∈ next :: more, isNameChar other = true :=
            fun other inside => named other (List.mem_cons_of_mem _ inside)
          rw [ih _ (List.cons_ne_nil _ _) others, past_past]

end Position

end Atom

namespace Renamed

open Atom

variable {left right : List Char}

/-- Renamed texts lead a reader of arguments to the same position. -/
theorem walk?_eq (renamed : Renamed left right) (position : Position) :
    position.walk? left = position.walk? right := by
  induction renamed generalizing position with
  | nil => rfl
  | same c _ ih => simp only [Position.walk?_cons, ih]
  | name isName isOther _ ih =>
      rw [Position.walk?_append, Position.walk?_append, Position.walk?_name isName,
        Position.walk?_name isOther, Option.bind_some, Option.bind_some, ih]

theorem isArgument (renamed : Renamed left right) (argument : IsArgument left) :
    IsArgument right := by
  rw [IsArgument, ← renamed.walk?_eq]
  exact argument

theorem isArgument_of_forall₂ {parts others : List (List Char)}
    (renamed : List.Forall₂ Renamed parts others) (arguments : ∀ part ∈ parts, IsArgument part) :
    ∀ other ∈ others, IsArgument other := by
  induction renamed with
  | nil => exact fun _ inside => absurd inside List.not_mem_nil
  | cons first _ ih =>
      obtain ⟨head, rest⟩ := List.forall_mem_cons.mp arguments
      exact List.forall_mem_cons.mpr ⟨first.isArgument head, ih rest⟩

/-- Renamed texts are read as atoms with equally many arguments. -/
theorem exists_reads {atom : Atom} (renamed : Renamed left right) (reads : Reads left atom) :
    ∃ other, Reads right other ∧ other.arity = atom.arity := by
  cases reads with
  | constant nonempty unopened =>
      exact ⟨_, .constant (mt renamed.eq_nil_iff.mpr nonempty)
        (mt (renamed.mem_iff rfl).mpr unopened), rfl⟩
  | @application predicate parts unopened nonempty arguments =>
      obtain ⟨front, tail, rfl, before, behind⟩ := renamed.exists_append_cons rfl rfl
      obtain ⟨inner, back, rfl, within, ends⟩ := behind.exists_append_cons rfl rfl
      obtain rfl := ends.eq_nil_iff.mp rfl
      obtain ⟨others, rfl, pairwise⟩ := within.exists_intercalate nonempty
      have counted : others.length = parts.length := pairwise.length_eq.symm
      refine ⟨_, .application (mt (before.mem_iff rfl).mpr unopened) ?_
        (isArgument_of_forall₂ pairwise arguments), ?_⟩
      · rintro rfl
        exact nonempty (List.length_eq_zero_iff.mp counted.symm)
      · simp only [arity, List.length_map, counted]

end Renamed

end CollectiveChoice
