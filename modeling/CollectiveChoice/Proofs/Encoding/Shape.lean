import CollectiveChoice.Encoding
import CollectiveChoice.Engine.Admission
import CollectiveChoice.Proofs.Term.Renaming

/-!
# Users cannot change the shape of a fact

Where everybody may choose, users bring their own ids, which are put into templates as they are.  A
template may put them anywhere: into the predicate, into an argument, into a string, behind a
backslash.  An id that is accepted is a name, so that facts on two users are renamed texts
(`renamed_render`) and stay so when blanks and full stops at their ends are dropped.

Hence both facts are atoms, with equally many arguments, or none of them is
(`alikeFacts_of_isUserId`): no id opens or closes a string or a parenthesis, separates arguments, or
ends the fact before its full stop.
-/

namespace CollectiveChoice

set_option autoImplicit false

/-! ## Ids and rendered templates -/

theorem isName_of_isUserId {id : String} (accepted : isUserId id = true) : IsName id.toList := by
  have named_of_isDigit : ∀ c : Char, c.isDigit = true → isNameChar c = true := fun c digit =>
    isNameChar_eq_true_iff.mpr (.inl (by simp [Char.isAlphanum, digit]))
  unfold isUserId at accepted
  split at accepted
  · cases accepted
  · rename_i digits shown
    obtain ⟨-, all⟩ := Bool.and_eq_true_iff.mp accepted
    rw [shown]
    refine ⟨List.cons_ne_nil _ _, List.forall_mem_cons.mpr ⟨rfl, fun c inside => ?_⟩⟩
    exact named_of_isDigit c (List.all_eq_true.mp all c inside)
  · rename_i first rest _ shown
    rw [shown]
    refine ⟨List.cons_ne_nil _ _, ?_⟩
    rcases Bool.or_eq_true_iff.mp accepted with word | number
    · obtain ⟨small, all⟩ := Bool.and_eq_true_iff.mp word
      have letter : first.isAlpha = true := Bool.or_eq_true_iff.mpr (.inr small)
      refine List.forall_mem_cons.mpr ⟨?_, fun c inside => ?_⟩
      · exact isNameChar_eq_true_iff.mpr (.inl (Bool.or_eq_true_iff.mpr (.inl letter)))
      · have continues := List.all_eq_true.mp all c inside
        exact Bool.or_eq_true_iff.mpr (.inl continues)
    · exact fun c inside => named_of_isDigit c (List.all_eq_true.mp number c inside)

theorem Renamed.flatMap {α : Type} (items : List α) {left right : α → List Char}
    (renamed : ∀ item ∈ items, Renamed (left item) (right item)) :
    Renamed (items.flatMap left) (items.flatMap right) := by
  induction items with
  | nil => exact .nil
  | cons item rest ih =>
      obtain ⟨head, others⟩ := List.forall_mem_cons.mp renamed
      exact head.append (ih others)

/-- A template says the same about two users up to their names. -/
theorem renamed_render {user other : String} (name : IsName user.toList)
    (otherName : IsName other.toList) (template : Template) (item : String) :
    Renamed (template.render (choiceValue user item)).toList
      (template.render (choiceValue other item)).toList := by
  simp only [Template.render, String.toList_ofList]
  refine Renamed.flatMap template.segments fun segment _ => ?_
  cases segment with
  | literal chars => exact .refl chars
  | placeholder placeholder =>
      simp only [Template.segmentChars, choiceValue]
      by_cases ofUser : placeholder = "user"
      · simp only [if_pos ofUser]
        exact .of_isName name otherName
      · simp only [if_neg ofUser]
        exact .refl _

/-! ## Shapes -/

/-- Texts that are both rejected, or both read as atoms with equally many arguments. -/
inductive SameShape (left right : String) : Prop where
  | rejected {error other : AtomError} (first : Atom.parse left = .error error)
      (second : Atom.parse right = .error other)
  | accepted {atom other : Atom} (first : Atom.parse left = .ok atom)
      (second : Atom.parse right = .ok other) (arity : atom.args.length = other.args.length)

theorem Renamed.sameShape {left right : String} (renamed : Renamed left.toList right.toList) :
    SameShape left right := by
  cases first : Atom.parse left with
  | ok atom =>
      obtain ⟨other, reads, arity⟩ :=
        renamed.trimChars.exists_reads (Atom.parse_eq_ok_iff.mp first)
      exact .accepted first (Atom.parse_eq_ok_iff.mpr reads) arity.symm
  | error error =>
      cases second : Atom.parse right with
      | ok other =>
          obtain ⟨atom, reads, -⟩ :=
            renamed.symm.trimChars.exists_reads (Atom.parse_eq_ok_iff.mp second)
          cases first.symm.trans (Atom.parse_eq_ok_iff.mpr reads)
      | error other => exact .rejected first second

/-- Facts whose texts before the full stop have the same shape. -/
def AlikeFacts (fact other : String) : Prop :=
  ∃ left right, fact = left ++ "." ∧ other = right ++ "." ∧ SameShape left right

theorem Renamed.alikeFacts {text other : String} (renamed : Renamed text.toList other.toList) :
    AlikeFacts (factOf text) (factOf other) := by
  have spares : ∀ c, isNameChar c = true → (c == '.') = false := by
    intro c named
    refine beq_eq_false_iff_ne.mpr ?_
    rintro rfl
    cases named
  have bodies := (renamed.dropEndWhile fun _ => isBlank_of_isNameChar).dropEndWhile spares
  refine ⟨_, _, String.ofList_append, String.ofList_append, Renamed.sameShape ?_⟩
  rw [String.toList_ofList, String.toList_ofList]
  exact bodies

/-- **Users cannot change the shape of a fact.**  Whatever the template and the item, the facts on two
users with ids that are accepted are atoms with equally many arguments, or none of them is an atom.
So the facts on the same selections correspond to each other one by one. -/
theorem alikeFacts_of_isUserId {user other : String} (accepted : isUserId user = true)
    (otherAccepted : isUserId other = true) (template : Template) :
    (∀ item, AlikeFacts (factOf (template.render (choiceValue user item)))
      (factOf (template.render (choiceValue other item)))) ∧
      ∀ index selections, List.Forall₂ AlikeFacts (selectionFacts template index user selections)
        (selectionFacts template index other selections) := by
  have alike : ∀ item, AlikeFacts (factOf (template.render (choiceValue user item)))
      (factOf (template.render (choiceValue other item))) := fun item =>
    (renamed_render (isName_of_isUserId accepted) (isName_of_isUserId otherAccepted) template
      item).alikeFacts
  refine ⟨alike, fun index selections => ?_⟩
  unfold selectionFacts
  cases selections[index]? with
  | none => exact .nil
  | some selection =>
      rw [List.forall₂_map_left_iff, List.forall₂_map_right_iff, List.forall₂_same]
      exact fun item _ => alike item

/-- A template that puts the user into a string, right behind a backslash. -/
def quotation : Template :=
  ⟨"says(\"\\\x7buser\x7d\", \x7bchoice\x7d).. ",
    [.literal ['s', 'a', 'y', 's', '(', '"', '\\'], .placeholder "user",
      .literal ['"', ',', ' '], .placeholder "choice", .literal [')', '.', '.', ' ']], by decide⟩

theorem quotation_alikeFacts_of_isUserId :
    isUserId "anna" = true ∧ isUserId "-7" = true ∧
      factOf (quotation.render (choiceValue "-7" "f(\",\",x)"))
        = "says(\"\\-7\", f(\",\",x))." ∧
      AlikeFacts (factOf (quotation.render (choiceValue "anna" "f(\",\",x)")))
        (factOf (quotation.render (choiceValue "-7" "f(\",\",x)"))) ∧
      Atom.parse "says(\"\\-7\", f(\",\",x))" = .ok ⟨"says", [.str "-7", .sym "f(\",\",x)"]⟩ :=
  ⟨by decide, by decide, by decide,
    (alikeFacts_of_isUserId (by decide) (by decide) quotation).1 "f(\",\",x)", by rfl⟩

end CollectiveChoice
