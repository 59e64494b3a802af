import CollectiveChoice.Term.Atom

/-!
# How the text of an atom falls into arguments

A reader of arguments keeps count of the parentheses that are open and of whether it is in a string.
A character leads it from one position to the next, unless the argument cannot go on with it.  An
argument is a text that leads from outside of everything back to there.

Splitting finds exactly the ways to put arguments together with commas
(`splitArgs_eq_some_iff`).  With it goes what is read from a whole text: a text without a
parenthesis is a predicate without arguments, and any other one has to be a predicate, an opening
parenthesis, arguments with commas between them and a closing parenthesis (`parse_eq_ok_iff`).
-/

namespace CollectiveChoice

set_option autoImplicit false

namespace Atom

/-! ## Positions -/

/-- Where a reader of arguments stands. -/
@[ext] structure Position where
  /-- The number of parentheses that are open. -/
  depth : Nat
  place : Place
deriving DecidableEq

namespace Position

/-- Outside of strings, with a number of parentheses open. -/
def outside (depth : Nat) : Position :=
  ⟨depth, .outside⟩

/-- Inside a string, with a number of parentheses open. -/
def inside (depth : Nat) : Position :=
  ⟨depth, .inside⟩

/-- Where one more character of an argument leads.  No argument goes on with a parenthesis that
closes nothing or with a comma outside of everything. -/
def next? (position : Position) (c : Char) : Option Position :=
  match position.place with
  | .escaped => some (inside position.depth)
  | .inside =>
    if c = '\\' then some ⟨position.depth, .escaped⟩
    else if c = '"' then some (outside position.depth)
    else some position
  | .outside =>
    if c = '"' then some (inside position.depth)
    else if c = '(' then some (outside (position.depth + 1))
    else if c = ')' then
      match position.depth with
      | 0 => none
      | outer + 1 => some (outside outer)
    else if c = ',' ∧ position.depth = 0 then none
    else some position

/-- Where characters of one argument lead. -/
def walk? (position : Position) : List Char → Option Position
  | [] => some position
  | c :: rest => (position.next? c).bind fun next => next.walk? rest

theorem walk?_cons (position : Position) (c : Char) (rest : List Char) :
    position.walk? (c :: rest) = (position.next? c).bind fun next => next.walk? rest :=
  rfl

theorem walk?_append (position : Position) (chars rest : List Char) :
    position.walk? (chars ++ rest)
      = (position.walk? chars).bind fun next => next.walk? rest := by
  induction chars generalizing position with
  | nil => rfl
  | cons c chars ih => simp only [List.cons_append, walk?_cons, Option.bind_assoc, ih]

/-- A comma cannot follow only where it separates arguments. -/
theorem eq_outside_of_next?_comma {position : Position} (stops : position.next? ',' = none) :
    position = outside 0 := by
  obtain ⟨depth, place⟩ := position
  cases place with
  | escaped => cases stops
  | inside => cases stops
  | outside =>
      cases depth with
      | zero => rfl
      | succ outer => cases stops

/-! ## Characters that lead nowhere -/

/-- Whether a character outside of strings is one of those that delimit strings and arguments. -/
def delimits (c : Char) : Bool :=
  c == '"' || c == '(' || c == ')' || c == ','

theorem delimits_eq_true_iff {c : Char} :
    delimits c = true ↔ c = '"' ∨ c = '(' ∨ c = ')' ∨ c = ',' := by
  simp [delimits, or_assoc]

theorem next?_outside_of_not_delimits {c : Char} (plain : delimits c = false) (depth : Nat) :
    (outside depth).next? c = some (outside depth) := by
  simp only [delimits, Bool.or_eq_false_iff, beq_eq_false_iff_ne] at plain
  obtain ⟨⟨⟨quote, opening⟩, closing⟩, comma⟩ := plain
  simp [next?, outside, quote, opening, closing, comma]

theorem walk?_outside_of_not_delimits {chars : List Char}
    (plain : ∀ c ∈ chars, delimits c = false) (depth : Nat) :
    (outside depth).walk? chars = some (outside depth) := by
  induction chars with
  | nil => rfl
  | cons c rest ih =>
      rw [walk?_cons, next?_outside_of_not_delimits (plain c List.mem_cons_self), Option.bind_some]
      exact ih fun other member => plain other (List.mem_cons_of_mem _ member)

/-- Such characters do not lead out of a string either. -/
theorem eq_outside_of_walk?_of_not_delimits {position : Position} {chars : List Char}
    {depth : Nat} (plain : ∀ c ∈ chars, delimits c = false)
    (walks : position.walk? chars = some (outside depth)) : position = outside depth := by
  induction chars generalizing position with
  | nil => exact Option.some.inj walks
  | cons c rest ih =>
      have plainHead := plain c List.mem_cons_self
      rw [walk?_cons, Option.bind_eq_some_iff] at walks
      obtain ⟨next, leads, walks⟩ := walks
      have there := ih (fun other member => plain other (List.mem_cons_of_mem _ member)) walks
      subst there
      obtain ⟨opened, place⟩ := position
      cases place with
      | escaped => cases leads
      | inside =>
          have quote : c ≠ '"' := by
            rintro rfl
            cases plainHead
          simp only [next?, if_neg quote] at leads
          split at leads <;> cases leads
      | outside => exact Option.some.inj ((next?_outside_of_not_delimits plainHead opened).symm.trans leads)

end Position

open Position

/-- Whether characters are one argument: they lead from outside of everything back to there. -/
def IsArgument (chars : List Char) : Prop :=
  (outside 0).walk? chars = some (outside 0)

/-! ## Splitting -/

theorem splitArgs_nil (position : Position) :
    splitArgs position.depth position.place []
      = if position.depth = 0 ∧ position.place = .outside then some [[]] else none :=
  rfl

/-- Splitting by what the first character does. -/
theorem splitArgs_cons (position : Position) (c : Char) (rest : List Char) :
    splitArgs position.depth position.place (c :: rest)
      = match position.next? c with
        | some next => (splitArgs next.depth next.place rest).map (growFirst c)
        | none => if c = ',' then (splitArgs 0 .outside rest).map ([] :: ·) else none := by
  obtain ⟨depth, place⟩ := position
  cases place with
  | escaped => rfl
  | inside =>
      simp only [splitArgs, next?]
      split
      · rfl
      · split <;> rfl
  | outside =>
      simp only [splitArgs, next?]
      by_cases quote : c = '"'
      · simp only [if_pos quote]
        rfl
      by_cases opening : c = '('
      · simp only [if_neg quote, if_pos opening]
        rfl
      by_cases closing : c = ')'
      · subst closing
        cases depth <;> rfl
      by_cases comma : c = ',' ∧ depth = 0
      · obtain ⟨rfl, rfl⟩ := comma
        rfl
      · simp only [if_neg quote, if_neg opening, if_neg closing, if_neg comma]

/-- Puts characters in front of the first part. -/
def growBy (chars : List Char) (parts : List (List Char)) : List (List Char) :=
  chars.foldr growFirst parts

theorem growBy_cons (chars part : List Char) (parts : List (List Char)) :
    growBy chars (part :: parts) = (chars ++ part) :: parts := by
  induction chars with
  | nil => rfl
  | cons c rest ih => rw [growBy, List.foldr_cons, ← growBy, ih, growFirst, List.cons_append]

/-- Characters that lead somewhere belong to the first part. -/
theorem splitArgs_append_of_walk? {position next : Position} {chars : List Char}
    (walks : position.walk? chars = some next) (rest : List Char) :
    splitArgs position.depth position.place (chars ++ rest)
      = (splitArgs next.depth next.place rest).map (growBy chars) := by
  induction chars generalizing position with
  | nil =>
      cases walks
      exact Option.map_id'.symm
  | cons c chars ih =>
      rw [walk?_cons, Option.bind_eq_some_iff] at walks
      obtain ⟨middle, leads, walks⟩ := walks
      rw [List.cons_append, splitArgs_cons, leads]
      simp only [ih walks, Option.map_map]
      rfl

theorem intercalate_cons_cons_head (c : Char) (part : List Char) (parts : List (List Char)) :
    [','].intercalate ((c :: part) :: parts) = c :: [','].intercalate (part :: parts) := by
  cases parts with
  | nil => simp
  | cons next rest => simp [List.intercalate_cons_cons]

/-- From any position, what is split falls into the end of an argument that is under way and further
arguments. -/
theorem exists_of_splitArgs_eq_some {position : Position} {chars : List Char}
    {parts : List (List Char)}
    (split : splitArgs position.depth position.place chars = some parts) :
    ∃ first rest, parts = first :: rest ∧ chars = [','].intercalate (first :: rest) ∧
      position.walk? first = some (outside 0) ∧ ∀ part ∈ rest, IsArgument part := by
  induction chars generalizing position parts with
  | nil =>
      rw [splitArgs_nil] at split
      split at split
      · rename_i there
        cases split
        refine ⟨[], [], rfl, rfl, ?_, by simp⟩
        exact congrArg some (Position.ext there.1 there.2)
      · cases split
  | cons c chars ih =>
      rw [splitArgs_cons] at split
      cases leads : position.next? c with
      | some next =>
          simp only [leads, Option.map_eq_some_iff] at split
          obtain ⟨parts, split, rfl⟩ := split
          obtain ⟨first, rest, rfl, rfl, walks, others⟩ := ih split
          refine ⟨c :: first, rest, rfl, (intercalate_cons_cons_head c first rest).symm, ?_, others⟩
          rw [walk?_cons, leads, Option.bind_some, walks]
      | none =>
          simp only [leads] at split
          split at split
          · rename_i comma
            subst comma
            simp only [Option.map_eq_some_iff] at split
            obtain ⟨parts, split, rfl⟩ := split
            obtain ⟨first, rest, rfl, rfl, walks, others⟩ := @ih (outside 0) _ split
            refine ⟨[], first :: rest, rfl, ?_, ?_, List.forall_mem_cons.mpr ⟨walks, others⟩⟩
            · rw [List.intercalate_cons_cons]
              rfl
            · rw [eq_outside_of_next?_comma leads]
              rfl
          · cases split

/-- **Splitting finds exactly the ways to put arguments together with commas.** -/
theorem splitArgs_eq_some_iff {chars : List Char} {parts : List (List Char)} :
    splitArgs 0 .outside chars = some parts
      ↔ parts ≠ [] ∧ chars = [','].intercalate parts ∧ ∀ part ∈ parts, IsArgument part := by
  constructor
  · intro split
    obtain ⟨first, rest, rfl, joined, walks, others⟩ :=
      @exists_of_splitArgs_eq_some (outside 0) _ _ split
    exact ⟨List.cons_ne_nil _ _, joined, List.forall_mem_cons.mpr ⟨walks, others⟩⟩
  · rintro ⟨nonempty, rfl, arguments⟩
    induction parts with
    | nil => exact absurd rfl nonempty
    | cons first rest ih =>
        obtain ⟨walks, others⟩ := List.forall_mem_cons.mp arguments
        cases rest with
        | nil =>
            have ends := splitArgs_append_of_walk? walks []
            rw [splitArgs_nil] at ends
            rw [List.intercalate_singleton]
            simpa [outside, growBy_cons] using ends
        | cons second more =>
            have later := ih (List.cons_ne_nil _ _) others
            rw [List.intercalate_cons_cons, List.append_assoc]
            refine (splitArgs_append_of_walk? walks _).trans ?_
            rw [List.singleton_append, splitArgs_cons]
            simp [outside, next?, later, growBy_cons]

/-! ## Whole texts -/

/-- The atom that trimmed characters are read as. -/
inductive Reads : List Char → Atom → Prop where
  /-- Without a parenthesis there are no arguments. -/
  | constant {chars : List Char} (nonempty : chars ≠ []) (unopened : '(' ∉ chars) :
      Reads chars ⟨String.ofList chars, []⟩
  | application {predicate : List Char} {parts : List (List Char)} (unopened : '(' ∉ predicate)
      (nonempty : parts ≠ []) (arguments : ∀ part ∈ parts, IsArgument part) :
      Reads (predicate ++ '(' :: ([','].intercalate parts ++ [')']))
        ⟨String.ofList predicate, parts.map Value.ofChars⟩

theorem ne_opening_of_not_mem {chars : List Char} (unopened : '(' ∉ chars) :
    ∀ c ∈ chars, decide (c ≠ '(') = true :=
  fun _ inside => decide_eq_true fun same => unopened (same ▸ inside)

theorem ofTrimmed_of_not_mem {chars : List Char} (nonempty : chars ≠ []) (unopened : '(' ∉ chars) :
    ofTrimmed chars = .ok ⟨String.ofList chars, []⟩ := by
  have stays : chars.dropWhile (· ≠ '(') = [] := by
    rw [← List.append_nil chars, List.dropWhile_append_of_pos (ne_opening_of_not_mem unopened)]
    rfl
  unfold ofTrimmed
  split
  · exact absurd rfl nonempty
  · rw [stays]

/-- With a parenthesis, what is behind the first one decides. -/
theorem ofTrimmed_append_opening {predicate : List Char} (unopened : '(' ∉ predicate)
    (tail : List Char) :
    ofTrimmed (predicate ++ '(' :: tail)
      = if tail.getLast? = some ')' then
          match splitArgs 0 .outside tail.dropLast with
          | some parts => .ok ⟨String.ofList predicate, parts.map Value.ofChars⟩
          | none => .error (.unbalanced (String.ofList (predicate ++ '(' :: tail)))
        else .error (.unbalanced (String.ofList (predicate ++ '(' :: tail))) := by
  have opens : (predicate ++ '(' :: tail).dropWhile (· ≠ '(') = '(' :: tail := by
    rw [List.dropWhile_append_of_pos (ne_opening_of_not_mem unopened)]
    rfl
  have before : (predicate ++ '(' :: tail).takeWhile (· ≠ '(') = predicate := by
    rw [List.takeWhile_append_of_pos (ne_opening_of_not_mem unopened)]
    exact List.append_nil predicate
  unfold ofTrimmed
  split
  · rename_i empty
    simp at empty
  · rw [opens]
    refine ite_congr rfl (fun _ => ?_) fun _ => rfl
    cases splitArgs 0 .outside tail.dropLast with
    | none => rfl
    | some parts => simp only [before]

theorem ofTrimmed_eq_ok_iff {chars : List Char} {atom : Atom} :
    ofTrimmed chars = .ok atom ↔ Reads chars atom := by
  constructor
  · intro read
    by_cases opened : '(' ∈ chars
    · obtain ⟨predicate, tail, rfl, unopened⟩ := List.eq_append_cons_of_mem opened
      rw [ofTrimmed_append_opening unopened] at read
      split at read
      · rename_i closed
        split at read
        · rename_i parts split
          cases read
          obtain ⟨inner, rfl⟩ := List.getLast?_eq_some_iff.mp closed
          rw [List.dropLast_concat] at split
          obtain ⟨nonempty, rfl, arguments⟩ := splitArgs_eq_some_iff.mp split
          exact .application unopened nonempty arguments
        · cases read
      · cases read
    · by_cases empty : chars = []
      · subst empty
        cases read
      · rw [ofTrimmed_of_not_mem empty opened] at read
        cases read
        exact .constant empty opened
  · intro reads
    cases reads with
    | constant nonempty unopened => exact ofTrimmed_of_not_mem nonempty unopened
    | application unopened nonempty arguments =>
        rw [ofTrimmed_append_opening unopened, List.getLast?_append, List.dropLast_concat,
          splitArgs_eq_some_iff.mpr ⟨nonempty, rfl, arguments⟩]
        rfl

/-- What a text is read as, and that nothing else is accepted. -/
theorem parse_eq_ok_iff {text : String} {atom : Atom} :
    parse text = .ok atom ↔ Reads (Text.trimChars text.toList) atom :=
  ofTrimmed_eq_ok_iff

end Atom

end CollectiveChoice
