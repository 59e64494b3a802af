import CollectiveChoice.Page.Front
import CollectiveChoice.Proofs.Page.Markup
import Mathlib.Data.List.Forall2

/-!
# The elements of a fragment

What a fragment shows can be counted in its text: each point of a chart is a circle, each line of a
table an element of its own.  The names of the elements are read off the text, one for each opening
bracket (`elementNames`).  Texts that are put together have the elements of their parts, as long as no
part ends within a name (`HasElements`), and what is put in as text has none.
-/

namespace CollectiveChoice

set_option autoImplicit false

/-! ## Names of elements -/

/-- Whether a character behind an opening bracket belongs to the name of the element. -/
def inName (c : Char) : Bool :=
  c != ' ' && c != '>'

/-- The name behind each opening bracket of a text, in order; closing tags have names with a slash. -/
def elementNames : List Char → List String
  | [] => []
  | c :: rest =>
    if c = '<' then String.ofList (rest.takeWhile inName) :: elementNames rest
    else elementNames rest

/-- Whether every name ends before the text does. -/
def namesEnd : List Char → Bool
  | [] => true
  | c :: rest => (c != '<' || rest.any (!inName ·)) && namesEnd rest

theorem elementNames_cons (c : Char) (rest : List Char) :
    elementNames (c :: rest)
      = if c = '<' then String.ofList (rest.takeWhile inName) :: elementNames rest
        else elementNames rest :=
  rfl

theorem namesEnd_cons (c : Char) (rest : List Char) :
    namesEnd (c :: rest) = ((c != '<' || rest.any (!inName ·)) && namesEnd rest) :=
  rfl

theorem takeWhile_append_of_any {text : List Char} (ends : text.any (!inName ·) = true)
    (behind : List Char) : (text ++ behind).takeWhile inName = text.takeWhile inName := by
  induction text with
  | nil => cases ends
  | cons c rest ih =>
      rw [List.cons_append, List.takeWhile_cons, List.takeWhile_cons]
      cases belongs : inName c with
      | false => rfl
      | true =>
          rw [List.any_cons, belongs, Bool.not_true, Bool.false_or] at ends
          exact congrArg _ (ih ends)

theorem elementNames_append {text : List Char} (ends : namesEnd text = true) (behind : List Char) :
    elementNames (text ++ behind) = elementNames text ++ elementNames behind := by
  induction text with
  | nil => rfl
  | cons c rest ih =>
      rw [namesEnd_cons, Bool.and_eq_true] at ends
      obtain ⟨here, later⟩ := ends
      rw [List.cons_append, elementNames_cons, elementNames_cons, ih later]
      split
      case isTrue opening =>
        rw [opening, bne_self_eq_false, Bool.false_or] at here
        rw [takeWhile_append_of_any here, List.cons_append]
      case isFalse => rfl

theorem namesEnd_append {text behind : List Char} (first : namesEnd text = true)
    (second : namesEnd behind = true) : namesEnd (text ++ behind) = true := by
  induction text with
  | nil => exact second
  | cons c rest ih =>
      rw [namesEnd_cons, Bool.and_eq_true, Bool.or_eq_true] at first
      obtain ⟨here, later⟩ := first
      rw [List.cons_append, namesEnd_cons, Bool.and_eq_true, Bool.or_eq_true, List.any_append,
        Bool.or_eq_true]
      exact ⟨here.imp_right Or.inl, ih later⟩

/-- A number with a fixed number of decimals is written with digits, a sign and a point. -/
theorem Number.mem_fixed {places : Nat} {number : Rat} {c : Char}
    (inside : c ∈ (fixed places number).toList) : c.isDigit = true ∨ c = '-' ∨ c = '.' := by
  have digits : ∀ length shifted, ∀ c ∈ padLeft length (Nat.toDigits 10 shifted),
      c.isDigit = true := by
    intro length shifted c inside
    rcases List.mem_append.mp inside with zero | digit
    · rw [List.eq_of_mem_replicate zero]
      rfl
    · exact Text.isDigit_of_mem_toDigits c digit
  simp only [fixed, String.toList_ofList, List.append_assoc, List.mem_append] at inside
  rcases inside with sign | whole | fraction
  · split at sign
    · exact Or.inr (Or.inl (List.mem_singleton.mp sign))
    · cases sign
  · exact Or.inl (digits _ _ c (List.mem_of_mem_take whole))
  · split at fraction
    · cases fraction
    · rcases List.mem_cons.mp fraction with point | digit
      · exact Or.inr (Or.inr point)
      · exact Or.inl (digits _ _ c (List.mem_of_mem_drop digit))

/-- A text with elements of the given names, none of which is cut off at its end. -/
structure HasElements (text : String) (names : List String) : Prop where
  names : elementNames text.toList = names
  ends : namesEnd text.toList = true

instance (text : String) (names : List String) : Decidable (HasElements text names) :=
  decidable_of_iff (elementNames text.toList = names ∧ namesEnd text.toList = true)
    ⟨fun both => ⟨both.1, both.2⟩, fun has => ⟨has.names, has.ends⟩⟩

namespace HasElements

variable {first second : String} {names others : List String}

theorem append (left : HasElements first names) (right : HasElements second others) :
    HasElements (first ++ second) (names ++ others) where
  names := by
    rw [String.toList_append, elementNames_append left.ends, left.names, right.names]
  ends := by
    rw [String.toList_append]
    exact namesEnd_append left.ends right.ends

theorem join {parts : List String} {names : List (List String)}
    (each : List.Forall₂ HasElements parts names) :
    HasElements (String.join parts) names.flatten := by
  induction each with
  | nil => decide
  | cons here _ ih =>
      rw [String.join_cons, List.flatten_cons]
      exact here.append ih

theorem of_not_mem {text : String} (free : '<' ∉ text.toList) : HasElements text [] := by
  suffices both : ∀ chars : List Char, '<' ∉ chars →
      elementNames chars = [] ∧ namesEnd chars = true from
    ⟨(both _ free).1, (both _ free).2⟩
  intro chars
  induction chars with
  | nil => exact fun _ => ⟨rfl, rfl⟩
  | cons c rest ih =>
      intro free
      obtain ⟨here, later⟩ := not_or.mp (List.mem_cons.not.mp free)
      rw [elementNames_cons, namesEnd_cons, if_neg (Ne.symm here), (ih later).2,
        bne_iff_ne.mpr (Ne.symm here)]
      exact ⟨(ih later).1, rfl⟩

/-- What is put in as text has no elements. -/
theorem escapeMarkup (text : String) : HasElements (Text.escapeMarkup text) [] :=
  of_not_mem (not_mem_escapeMarkup rfl)

theorem decimalInt (number : Int) : HasElements (Text.decimalInt number) [] := by
  apply of_not_mem
  intro opening
  rcases Text.mem_decimalInt opening with digit | minus
  · cases digit
  · cases minus

theorem fixed (places : Nat) (number : Rat) : HasElements (Number.fixed places number) [] := by
  apply of_not_mem
  intro opening
  rcases Number.mem_fixed opening with digit | minus | point
  · cases digit
  · cases minus
  · cases point

end HasElements

end CollectiveChoice
